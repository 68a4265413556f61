import Mathlib.Data.Rat.Defs
import LeaderProduct.ReadCommitted
import LeaderProduct.RowTable

/-! The tracking of one user's routes: the start and the stop of a session and the upload of
points, each a transaction of the database. -/
namespace LeaderProduct
open ReadCommitted RowTable

section Rows

/-- Milliseconds, before 1970 too. -/
abbrev TrackTime := Int

inductive RouteStatus where
  | active | completed | cancelled
  deriving DecidableEq, Repr

structure UserRoute where
  id : Nat
  status : RouteStatus
  startedAt : TrackTime
  endedAt : Option TrackTime
  deriving DecidableEq, Repr

inductive RouteEventType where
  | move | stop
  deriving DecidableEq, Repr

structure Position where
  latitude : Rat
  longitude : Rat
  deriving DecidableEq, Repr

structure ParsedPoint where
  clientPointId : Option String
  position : Position
  recordedAt : TrackTime
  recordedTimeZone : Option String
  recordedTimezoneOffsetMinutes : Option Int
  eventType : RouteEventType
  accuracy : Option Rat
  speed : Option Rat
  heading : Option Rat
  stayDurationSeconds : Option Rat
  deriving DecidableEq, Repr

structure RoutePoint where
  routeId : Nat
  sequence : Nat
  point : ParsedPoint
  deriving DecidableEq, Repr

structure Track where
  routes : List UserRoute
  points : List RoutePoint

inductive TrackWrite where
  | create (route : UserRoute)
  | coverStart (routeId : Nat) (startedAt : TrackTime)
  | complete (routeId : Nat) (endedAt : TrackTime)
  | insert (points : List RoutePoint)

def Track.setRoute (t : Track) (routeId : Nat) (change : UserRoute → UserRoute) : Track :=
  { t with routes := t.routes.map (fun route => if route.id = routeId then change route else route) }

/-- The unique index on the client's id of a point. -/
def Track.hasPointId (t : Track) (clientPointId : Option String) : Bool :=
  clientPointId.any (fun id => t.points.any (fun stored => stored.point.clientPointId == some id))

/-- `createMany` with `skipDuplicates`. -/
def Track.insertPoints (t : Track) (points : List RoutePoint) : Track :=
  points.foldl (fun t point =>
    if t.hasPointId point.point.clientPointId then t
    else { t with points := t.points ++ [point] }) t

@[simp] theorem Track.insertPoints_routes (t : Track) (points : List RoutePoint) :
    (t.insertPoints points).routes = t.routes := by
  unfold Track.insertPoints
  induction points generalizing t with
  | nil => rfl
  | cons point rest ih =>
    rw [List.foldl_cons, ih]
    split <;> rfl

def applyTrackWrite : TrackWrite → Track → Track
  | .create route, t => { t with routes := t.routes ++ [route] }
  | .coverStart routeId startedAt, t =>
    t.setRoute routeId (fun route => { route with startedAt := startedAt })
  | .complete routeId endedAt, t =>
    t.setRoute routeId (fun route =>
      { route with status := .completed, endedAt := some endedAt })
  | .insert points, t => t.insertPoints points

end Rows

section Queries

variable (t : Track)

def Track.route (routeId : Nat) : Option UserRoute :=
  t.routes.find? (fun route => route.id == routeId)

def Track.activeRoute : Option UserRoute :=
  newestBy (·.startedAt) (t.routes.filter (fun route => route.status == .active))

def Track.pointsOf (routeId : Nat) : List RoutePoint :=
  t.points.filter (fun stored => stored.routeId == routeId)

def Track.lastPoint (routeId : Nat) : Option ParsedPoint :=
  newestBy (·.recordedAt) ((t.pointsOf routeId).map (·.point))

def Track.firstPoint (routeId : Nat) : Option ParsedPoint :=
  oldestBy (·.recordedAt) ((t.pointsOf routeId).map (·.point))

variable {t}

theorem Track.activeRoute_mem {route : UserRoute} (found : t.activeRoute = some route) :
    route ∈ t.routes ∧ route.status = .active := by
  have known := mem_of_newestBy found
  rw [List.mem_filter, beq_iff_eq] at known
  exact known

end Queries

section Filter

def defaultMaxAccuracyMeters : Rat := 100
def minDistanceMeters : Rat := 5
def minMovingDistanceMeters : Rat := 12
def minMovingIntervalMs : Int := 12000
def stationaryAliveIntervalMs : Int := 90000

/-- `haversineDistanceMeters`, which computes with floating point numbers, as any function of
two positions; `none` where the result is not a number. -/
abbrev DistanceMeters := Position → Position → Option Rat

variable (distance : DistanceMeters)

def isJitter (prev p : ParsedPoint) : Bool :=
  let meters := distance prev.position p.position
  let elapsed := max 0 (p.recordedAt - prev.recordedAt)
  (meters.any (fun m => decide (m < minDistanceMeters)) &&
      decide (elapsed < stationaryAliveIntervalMs)) ||
    (meters.any (fun m => decide (m < minMovingDistanceMeters)) &&
      decide (elapsed < minMovingIntervalMs))

inductive PointRejection where
  | duplicate | accuracy | jitter

def isInaccurate (p : ParsedPoint) : Bool :=
  p.accuracy.any (fun a => decide (defaultMaxAccuracyMeters < a))

/-- `prev` is the last point kept, or the last one saved. -/
def rejectPoint (stored : String → Bool) (seen : List String) (prev : Option ParsedPoint)
    (p : ParsedPoint) : Option PointRejection :=
  if p.clientPointId.any (fun id => stored id || seen.contains id) then some .duplicate
  else if isInaccurate p then some .accuracy
  else if p.eventType ≠ .stop && prev.any (fun prev => isJitter distance prev p) then some .jitter
  else none

/-- The ids that are noted before the accuracy and the jitter are looked at. -/
def noteSeen (stored : String → Bool) (seen : List String) (p : ParsedPoint) : List String :=
  match p.clientPointId with
  | none => seen
  | some id => if stored id || seen.contains id then seen else seen ++ [id]

def filterPoints (stored : String → Bool) :
    List String → Option ParsedPoint → List ParsedPoint → List ParsedPoint
  | _, _, [] => []
  | seen, prev, p :: rest =>
    match rejectPoint distance stored seen prev p with
    | some _ => filterPoints stored (noteSeen stored seen p) prev rest
    | none => p :: filterPoints stored (noteSeen stored seen p) (some p) rest

end Filter

section Requests

structure TrackUpload where
  first : ParsedPoint
  others : List ParsedPoint
  routeId : Option Nat
  startNewRoute : Bool
  endRoute : Bool

def TrackUpload.points (upload : TrackUpload) : List ParsedPoint := upload.first :: upload.others

def TrackUpload.last (upload : TrackUpload) : ParsedPoint :=
  upload.others.getLast?.getD upload.first

structure TrackAnswer where
  route : Option UserRoute
  createdPoints : Nat

abbrev TrackProgram := Program Track TrackWrite TrackAnswer

def clampRouteEndAt (route : UserRoute) (candidate : TrackTime) : TrackTime :=
  if candidate < route.startedAt then route.startedAt else candidate

def ensureRouteStartedAtCoversPoint (route : UserRoute) (firstPointAt : TrackTime)
    (next : UserRoute → TrackProgram) : TrackProgram :=
  if route.startedAt ≤ firstPointAt then next route
  else
    .write (.coverStart route.id firstPointAt)
      (.read (fun t => next ((t.route route.id).getD { route with startedAt := firstPointAt })))

def completeRoute (route : UserRoute) (endedAt : TrackTime) (createdPoints : Nat) : TrackProgram :=
  .write (.complete route.id (clampRouteEndAt route endedAt))
    (.read (fun t => .done ⟨t.route route.id, createdPoints⟩))

def startSession (now : TrackTime) : TrackProgram :=
  .read (fun t =>
    match t.activeRoute with
    | some route => .done ⟨some route, 0⟩
    | none =>
      .draw (fun id =>
        .write (.create ⟨id, .active, now, none⟩) (.done ⟨some ⟨id, .active, now, none⟩, 0⟩)))

def stopSession (routeId : Option Nat) (now : TrackTime) : TrackProgram :=
  .read (fun t =>
    match (match routeId with
      | some routeId => t.route routeId
      | none => t.activeRoute) with
    | none => .done ⟨none, 0⟩
    | some route =>
      if route.status ≠ .active then .done ⟨some route, 0⟩
      else
        .read (fun t =>
          let endedAt := ((t.lastPoint route.id).map (·.recordedAt)).getD now
          .read (fun t =>
            match t.firstPoint route.id with
            | none => completeRoute route endedAt 0
            | some first =>
              ensureRouteStartedAtCoversPoint route first.recordedAt (fun route =>
                completeRoute route endedAt 0))))

variable (distance : DistanceMeters) (upload : TrackUpload)

def endUpload (endedAt : TrackTime) (createdPoints : Nat) (route : UserRoute) : TrackProgram :=
  if upload.endRoute && route.status == .active then completeRoute route endedAt createdPoints
  else .done ⟨some route, createdPoints⟩

def uploadNothing (active : Option UserRoute) (firstSaved : Option ParsedPoint) : TrackProgram :=
  match active with
  | none =>
    .draw (fun id =>
      .write (.create ⟨id, .active, upload.first.recordedAt, none⟩)
        (endUpload upload upload.last.recordedAt 0 ⟨id, .active, upload.first.recordedAt, none⟩))
  | some route =>
    match firstSaved with
    | none => endUpload upload upload.last.recordedAt 0 route
    | some first =>
      ensureRouteStartedAtCoversPoint route first.recordedAt
        (endUpload upload upload.last.recordedAt 0)

def numberPoints (routeId existing : Nat) (kept : List ParsedPoint) : List RoutePoint :=
  kept.zipIdx.map (fun entry => ⟨routeId, existing + entry.2 + 1, entry.1⟩)

def insertKept (kept : List ParsedPoint) (endedAt : TrackTime) (route : UserRoute) :
    TrackProgram :=
  .read (fun t =>
    let data := numberPoints route.id (t.pointsOf route.id).length kept
    .read (fun t =>
      .write (.insert data)
        (endUpload upload endedAt ((t.insertPoints data).points.length - t.points.length) route)))

def uploadKept (active : Option UserRoute) (firstSaved : Option ParsedPoint) (first : ParsedPoint)
    (rest : List ParsedPoint) : TrackProgram :=
  let minTs := rest.foldl (fun time p => min time p.recordedAt) first.recordedAt
  let maxTs := rest.foldl (fun time p => max time p.recordedAt) first.recordedAt
  match active with
  | none =>
    .draw (fun id =>
      .write (.create ⟨id, .active, minTs, none⟩)
        (insertKept upload (first :: rest) maxTs ⟨id, .active, minTs, none⟩))
  | some route =>
    ensureRouteStartedAtCoversPoint route
      (match firstSaved with
        | some saved => if saved.recordedAt < minTs then saved.recordedAt else minTs
        | none => minTs)
      (insertKept upload (first :: rest) maxTs)

def keepPoints (active : Option UserRoute) : TrackProgram :=
  .read (fun t =>
    let lastSaved := active.bind (fun route => t.lastPoint route.id)
    .read (fun t =>
      let firstSaved := active.bind (fun route => t.firstPoint route.id)
      .read (fun t =>
        match filterPoints distance (fun id => t.hasPointId (some id)) [] lastSaved
          upload.points with
        | [] => uploadNothing upload active firstSaved
        | first :: rest => uploadKept upload active firstSaved first rest)))

def namedRoute (t : Track) : Option UserRoute :=
  (upload.routeId.bind t.route).filter (fun route => route.status == .active || upload.endRoute)

def saveTrackingPoints : TrackProgram :=
  .read (fun t =>
    match namedRoute upload t with
    | some route => keepPoints distance upload (some route)
    | none =>
      .read (fun t =>
        match t.activeRoute with
        | none => keepPoints distance upload none
        | some route =>
          if upload.startNewRoute then
            .write (.complete route.id (clampRouteEndAt route upload.first.recordedAt))
              (keepPoints distance upload none)
          else keepPoints distance upload (some route)))

inductive TrackRequest where
  | start (now : TrackTime)
  | stop (routeId : Option Nat) (now : TrackTime)
  | upload (upload : TrackUpload)

def TrackRequest.program : TrackRequest → TrackProgram
  | .start now => startSession now
  | .stop routeId now => stopSession routeId now
  | .upload upload => saveTrackingPoints distance upload

end Requests

end LeaderProduct
