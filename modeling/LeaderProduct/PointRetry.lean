import LeaderProduct.Tracking

/-! When an upload that is sent again changes nothing. -/
namespace LeaderProduct
open ReadCommitted RowTable

variable {first : ParsedPoint} {t : Track}

section Filter
variable (distance : DistanceMeters) (stored : String → Bool)

/-- Why a point is left out when nothing before it has been kept. -/
def LeftOut (prev : Option ParsedPoint) (earlier : List ParsedPoint) (p : ParsedPoint) : Prop :=
  (∃ id, p.clientPointId = some id ∧
      (stored id = true ∨ ∃ q ∈ earlier, q.clientPointId = some id)) ∨
    isInaccurate p = true ∨
    p.eventType ≠ .stop ∧ ∃ last, prev = some last ∧ isJitter distance last p = true

variable {distance stored}

variable {seen : List String}

theorem rejectPoint_isSome_iff {earlier : List ParsedPoint}
    (noted : ∀ id, stored id = true ∨ id ∈ seen ↔
      stored id = true ∨ ∃ q ∈ earlier, q.clientPointId = some id) (prev : Option ParsedPoint)
    (p : ParsedPoint) :
    (∃ why, rejectPoint distance stored seen prev p = some why) ↔
      LeftOut distance stored prev earlier p := by
  have known : p.clientPointId.any (fun id => stored id || seen.contains id) = true ↔
      ∃ id, p.clientPointId = some id ∧
        (stored id = true ∨ ∃ q ∈ earlier, q.clientPointId = some id) := by
    simp only [Option.any_eq_true, Bool.or_eq_true, List.contains_iff_mem, noted]
  have jitter : (p.eventType ≠ .stop && prev.any (fun prev => isJitter distance prev p)) = true ↔
      p.eventType ≠ .stop ∧ ∃ last, prev = some last ∧ isJitter distance last p = true := by
    simp only [Bool.and_eq_true, decide_eq_true_eq, Option.any_eq_true]
  rw [LeftOut, ← known, ← jitter, rejectPoint]
  split
  · next h => exact iff_of_true ⟨_, rfl⟩ (Or.inl h)
  · next fresh =>
    split
    · next h => exact iff_of_true ⟨_, rfl⟩ (Or.inr (Or.inl h))
    · next accurate =>
      split
      · next h => exact iff_of_true ⟨_, rfl⟩ (Or.inr (Or.inr h))
      · next far =>
        refine iff_of_false ?_ ?_
        · rintro ⟨why, here⟩
          cases here
        · rintro (h | h | h)
          · exact fresh h
          · exact accurate h
          · exact far h

theorem noteSeen_iff {earlier : List ParsedPoint} (noted : ∀ id, stored id = true ∨ id ∈ seen ↔
      stored id = true ∨ ∃ q ∈ earlier, q.clientPointId = some id) (p : ParsedPoint) (id : String) :
    stored id = true ∨ id ∈ noteSeen stored seen p ↔
      stored id = true ∨ ∃ q ∈ earlier ++ [p], q.clientPointId = some id := by
  have met : (∃ q ∈ earlier ++ [p], q.clientPointId = some id) ↔
      (∃ q ∈ earlier, q.clientPointId = some id) ∨ p.clientPointId = some id := by
    simp only [List.mem_append, List.mem_singleton, or_and_right, exists_or, exists_eq_left]
  rw [met, ← or_assoc, ← noted]
  unfold noteSeen
  cases own : p.clientPointId with
  | none => simp
  | some own =>
    dsimp only
    split
    · next h =>
      rw [Bool.or_eq_true, List.contains_iff_mem] at h
      refine ⟨Or.inl, ?_⟩
      rintro (known | here)
      · exact known
      · cases here
        exact h
    · rw [List.mem_append, List.mem_singleton, Option.some.injEq, ← or_assoc, @eq_comm _ id]

theorem filterPoints_eq_nil_iff (before : List ParsedPoint)
    (noted : ∀ id, stored id = true ∨ id ∈ seen ↔
      stored id = true ∨ ∃ q ∈ before, q.clientPointId = some id) (prev : Option ParsedPoint)
    (points : List ParsedPoint) :
    filterPoints distance stored seen prev points = [] ↔
      ∀ earlier p later, points = earlier ++ p :: later →
        LeftOut distance stored prev (before ++ earlier) p := by
  induction points generalizing seen before with
  | nil =>
    refine iff_of_true rfl fun earlier p later split => ?_
    cases earlier <;> cases split
  | cons p rest ih =>
    have splits : (∀ earlier q later, p :: rest = earlier ++ q :: later →
          LeftOut distance stored prev (before ++ earlier) q) ↔
        LeftOut distance stored prev before p ∧
          ∀ earlier q later, rest = earlier ++ q :: later →
            LeftOut distance stored prev (before ++ [p] ++ earlier) q := by
      constructor
      · intro all
        refine ⟨by simpa using all [] p rest rfl, fun earlier q later here => ?_⟩
        simpa using all (p :: earlier) q later (by rw [here]; rfl)
      · rintro ⟨first, others⟩ earlier q later here
        cases earlier with
        | nil =>
          cases here
          simpa using first
        | cons e earlier =>
          cases here
          simpa using others earlier q later rfl
    rw [splits, ← rejectPoint_isSome_iff noted, ← ih _ (noteSeen_iff noted p), filterPoints]
    cases rejectPoint distance stored seen prev p with
    | none => exact iff_of_false (fun here => by cases here) (fun ⟨⟨why, here⟩, _⟩ => by cases here)
    | some why => exact ⟨fun rest => ⟨⟨why, rfl⟩, rest⟩, fun both => both.2⟩

theorem filterPoints_head {prev : Option ParsedPoint} {points rest : List ParsedPoint}
    (kept : filterPoints distance stored seen prev points = first :: rest) :
    first.clientPointId.any stored = false := by
  induction points generalizing seen with
  | nil => cases kept
  | cons p others ih =>
    rw [filterPoints] at kept
    cases rejected : rejectPoint distance stored seen prev p with
    | some why =>
      rw [rejected] at kept
      exact ih kept
    | none =>
      rw [rejected] at kept
      cases kept
      rw [rejectPoint] at rejected
      split at rejected
      · cases rejected
      · next fresh =>
        rw [Bool.not_eq_true] at fresh
        cases id : first.clientPointId with
        | none => rfl
        | some id' =>
          rw [id, Option.any_some, Bool.or_eq_false_iff] at fresh
          exact fresh.1

end Filter

section Rows

def SameRows (t t' : Track) : Prop :=
  t'.points = t.points ∧ t'.routes.map (·.startedAt) = t.routes.map (·.startedAt)

theorem sameRows_complete (t : Track) (routeId : Nat) (endedAt : TrackTime) :
    SameRows t (applyTrackWrite (.complete routeId endedAt) t) := by
  refine ⟨rfl, ?_⟩
  simp only [applyTrackWrite, Track.setRoute, List.map_map]
  refine List.map_congr_left fun route _ => ?_
  simp only [Function.comp_apply]
  split <;> rfl

theorem sameRows_endUpload (upload : TrackUpload) (endedAt : TrackTime) (createdPoints : Nat)
    (route : UserRoute) (t : Track) (drawn : Nat) :
    SameRows t ((endUpload upload endedAt createdPoints route).alone applyTrackWrite t drawn).1 := by
  unfold endUpload
  split
  · exact sameRows_complete t _ _
  · exact ⟨rfl, rfl⟩

theorem points_length_insert (t : Track) (points : List RoutePoint) :
    t.points.length ≤ (t.insertPoints points).points.length := by
  unfold Track.insertPoints
  induction points generalizing t with
  | nil => exact le_refl _
  | cons point rest ih =>
    rw [List.foldl_cons]
    split
    · exact ih t
    · refine le_trans ?_ (ih _)
      simp

theorem points_insert_fresh {point : RoutePoint} {rest : List RoutePoint}
    (fresh : t.hasPointId point.point.clientPointId = false) :
    t.points.length < (t.insertPoints (point :: rest)).points.length := by
  have first : t.insertPoints (point :: rest) =
      Track.insertPoints { t with points := t.points ++ [point] } rest := by
    rw [Track.insertPoints, List.foldl_cons, fresh]
    rfl
  rw [first]
  refine lt_of_lt_of_le ?_ (points_length_insert _ rest)
  simp

theorem rows_insertKept (upload : TrackUpload) (kept : List ParsedPoint) (endedAt : TrackTime)
    (route : UserRoute) (t : Track) (drawn : Nat) :
    let after := ((insertKept upload kept endedAt route).alone applyTrackWrite t drawn).1
    after.points =
        (t.insertPoints (numberPoints route.id (t.pointsOf route.id).length kept)).points ∧
      after.routes.map (·.startedAt) = t.routes.map (·.startedAt) := by
  simp only [insertKept, Program.alone]
  have rows := sameRows_endUpload upload endedAt
    ((t.insertPoints (numberPoints route.id (t.pointsOf route.id).length kept)).points.length -
      t.points.length) route
    (t.insertPoints (numberPoints route.id (t.pointsOf route.id).length kept)) drawn
  rw [SameRows, Track.insertPoints_routes] at rows
  exact rows

theorem insertKept_grows (upload : TrackUpload) (rest : List ParsedPoint) (endedAt : TrackTime)
    (route : UserRoute) (drawn : Nat) (fresh : t.hasPointId first.clientPointId = false) :
    t.points.length < ((insertKept upload (first :: rest) endedAt route).alone applyTrackWrite t
      drawn).1.points.length := by
  rw [(rows_insertKept upload (first :: rest) endedAt route t drawn).1, numberPoints,
    List.zipIdx_cons, List.map_cons]
  exact points_insert_fresh fresh

end Rows

section Retry
variable (distance : DistanceMeters) (upload : TrackUpload)

def TrackUpload.again : TrackUpload := { upload with startNewRoute := false }

def uploadRoute (t : Track) : Option UserRoute :=
  (namedRoute upload t).or t.activeRoute

/-- The upload finds a route that it neither ends nor makes start earlier, and leaves out every
point of the batch. -/
structure NothingNew (t : Track) (route : UserRoute) : Prop where
  meets : uploadRoute upload t = some route
  stays : ¬ (upload.endRoute = true ∧ route.status = .active)
  covered : ∀ first, t.firstPoint route.id = some first → route.startedAt ≤ first.recordedAt
  leftOut : ∀ earlier p later, upload.points = earlier ++ p :: later →
    LeftOut distance (fun id => t.hasPointId (some id)) (t.lastPoint route.id) earlier p

variable {distance upload}

theorem saveTrackingPoints_again (t : Track) (drawn : Nat) :
    (saveTrackingPoints distance upload.again).alone applyTrackWrite t drawn =
      (keepPoints distance upload.again (uploadRoute upload t)).alone applyTrackWrite t drawn := by
  have named : namedRoute upload.again t = namedRoute upload t := rfl
  simp only [saveTrackingPoints, Program.alone, uploadRoute, named]
  cases namedRoute upload t with
  | some route => rfl
  | none =>
    rw [Option.none_or]
    simp only [Program.alone]
    cases t.activeRoute with
    | none => rfl
    | some route => rfl

variable {route : UserRoute}

theorem uploadRoute_mem (found : uploadRoute upload t = some route) :
    route ∈ t.routes := by
  rcases Option.or_eq_some_iff.mp found with named | ⟨_, active⟩
  · obtain ⟨routeId, _, here⟩ := Option.bind_eq_some_iff.mp (Option.filter_eq_some_iff.mp named).1
    exact List.mem_of_find?_eq_some here
  · exact (Track.activeRoute_mem active).1

theorem keepPoints_none_grows (distance : DistanceMeters) (upload : TrackUpload) (t : Track)
    (drawn : Nat) :
    t.routes.length <
      ((keepPoints distance upload none).alone applyTrackWrite t drawn).1.routes.length := by
  have created (route : UserRoute) {t' : Track}
      (same : t'.routes.map (·.startedAt) =
        (applyTrackWrite (.create route) t).routes.map (·.startedAt)) :
      t.routes.length < t'.routes.length := by
    have lengths := congrArg List.length same
    rw [List.length_map, List.length_map] at lengths
    rw [lengths]
    simp [applyTrackWrite]
  simp only [keepPoints, Program.alone]
  split
  · exact created _ (sameRows_endUpload _ _ _ _ _ _).2
  · exact created _ (rows_insertKept _ _ _ _ _ _).2

theorem ensure_insertKept_grows (upload : TrackUpload) (route : UserRoute)
    (firstPointAt : TrackTime) (rest : List ParsedPoint) (endedAt : TrackTime) (drawn : Nat)
    (fresh : t.hasPointId first.clientPointId = false) :
    t.points.length < ((ensureRouteStartedAtCoversPoint route firstPointAt
      (insertKept upload (first :: rest) endedAt)).alone applyTrackWrite t drawn).1.points.length := by
  unfold ensureRouteStartedAtCoversPoint
  split
  · exact insertKept_grows upload rest endedAt route drawn fresh
  · have still : (applyTrackWrite (.coverStart route.id firstPointAt) t).hasPointId
        first.clientPointId = false := fresh
    have moved : (applyTrackWrite (.coverStart route.id firstPointAt) t).points.length =
        t.points.length := rfl
    rw [Program.alone, Program.alone, ← moved]
    exact insertKept_grows upload rest endedAt _ drawn still

theorem uploadKept_grows (upload : TrackUpload) (route : UserRoute)
    (firstSaved : Option ParsedPoint) (rest : List ParsedPoint) (drawn : Nat)
    (fresh : t.hasPointId first.clientPointId = false) :
    t.points.length < ((uploadKept upload (some route) firstSaved first rest).alone
      applyTrackWrite t drawn).1.points.length := by
  unfold uploadKept
  apply ensure_insertKept_grows
  exact fresh

theorem coverStart_moves {t' : Track} (known : route ∈ t.routes) {startedAt : TrackTime}
    (later : ¬ route.startedAt ≤ startedAt) (same : t'.routes.map (·.startedAt) =
      (applyTrackWrite (.coverStart route.id startedAt) t).routes.map (·.startedAt)) : t' ≠ t := by
  rintro rfl
  simp only [applyTrackWrite, Track.setRoute, List.map_map] at same
  have here := (List.map_inj_left.mp same) route known
  rw [Function.comp_apply, if_pos rfl] at here
  exact later (Int.le_of_eq here)

theorem endUpload_unchanged_iff (endedAt : TrackTime) (known : route ∈ t.routes) (drawn : Nat) :
    (((endUpload upload endedAt 0 route).alone applyTrackWrite t drawn).1 = t ∧
        ((endUpload upload endedAt 0 route).alone applyTrackWrite t drawn).2.2.createdPoints = 0) ↔
      ¬ (upload.endRoute = true ∧ route.status = .active) := by
  unfold endUpload
  have asked : (upload.endRoute && route.status == .active) = true ↔
      upload.endRoute = true ∧ route.status = .active := by
    rw [Bool.and_eq_true, beq_iff_eq]
  split
  · next ends =>
    refine iff_of_false (fun ⟨same, _⟩ => ?_) (not_not_intro (asked.mp ends))
    have rows : (applyTrackWrite (.complete route.id (clampRouteEndAt route endedAt)) t).routes =
        t.routes := congrArg Track.routes same
    simp only [applyTrackWrite, Track.setRoute] at rows
    have here := List.map_inj_left.mp (rows.trans (List.map_id _).symm) route known
    rw [if_pos rfl] at here
    have status : RouteStatus.completed = route.status := congrArg UserRoute.status here
    rw [(asked.mp ends).2] at status
    cases status
  · next ends => exact iff_of_true ⟨rfl, rfl⟩ (fun h => ends (asked.mpr h))

theorem keepPoints_some_iff (known : route ∈ t.routes) (drawn : Nat) :
    (((keepPoints distance upload (some route)).alone applyTrackWrite t drawn).1 = t ∧
        ((keepPoints distance upload (some route)).alone applyTrackWrite t drawn).2.2.createdPoints
          = 0) ↔
      filterPoints distance (fun id => t.hasPointId (some id)) [] (t.lastPoint route.id)
          upload.points = [] ∧
        (∀ first, t.firstPoint route.id = some first → route.startedAt ≤ first.recordedAt) ∧
        ¬ (upload.endRoute = true ∧ route.status = .active) := by
  simp only [keepPoints, Program.alone, Option.bind_some]
  cases kept : filterPoints distance (fun id => t.hasPointId (some id)) [] (t.lastPoint route.id)
    upload.points with
  | nil =>
    rw [eq_self_iff_true, true_and]
    dsimp only [uploadNothing]
    cases saved : t.firstPoint route.id with
    | none =>
      rw [endUpload_unchanged_iff _ known]
      simp
    | some first =>
      dsimp only [ensureRouteStartedAtCoversPoint]
      by_cases covered : route.startedAt ≤ first.recordedAt
      · rw [if_pos covered, endUpload_unchanged_iff _ known]
        simp [covered]
      · rw [if_neg covered]
        refine iff_of_false (fun ⟨same, _⟩ => ?_) (fun ⟨all, _⟩ => covered (all first rfl))
        exact coverStart_moves known covered (sameRows_endUpload _ _ _ _ _ _).2 same
  | cons first rest =>
    refine iff_of_false (fun ⟨same, _⟩ => ?_) (fun ⟨none_kept, _⟩ => by cases none_kept)
    have fresh : t.hasPointId first.clientPointId = false := by
      have head := filterPoints_head kept
      cases own : first.clientPointId with
      | none => rfl
      | some id => simpa only [own, Option.any_some] using head
    have grows := uploadKept_grows upload route (t.firstPoint route.id) rest drawn fresh
    exact lt_irrefl _ (lt_of_lt_of_eq grows (congrArg (fun after => after.points.length) same))

/-- The upload changes nothing and creates no point. -/
def ChangesNothing (distance : DistanceMeters) (upload : TrackUpload) (t : Track) (drawn : Nat) :
    Prop :=
  let after := (saveTrackingPoints distance upload).alone applyTrackWrite t drawn
  after.1 = t ∧ after.2.2.createdPoints = 0

theorem again_changes_nothing_iff (t : Track) (drawn : Nat) :
    ChangesNothing distance upload.again t drawn ↔
      ∃ route, NothingNew distance upload t route := by
  rw [ChangesNothing, saveTrackingPoints_again]
  cases found : uploadRoute upload t with
  | none =>
    refine iff_of_false (fun ⟨same, _⟩ => ?_) (fun ⟨route, new⟩ => ?_)
    · have grows := keepPoints_none_grows distance upload.again t drawn
      rw [same] at grows
      exact lt_irrefl _ grows
    · rw [new.meets] at found
      cases found
  | some route =>
    rw [keepPoints_some_iff (uploadRoute_mem found),
      filterPoints_eq_nil_iff [] (fun id => by simp)]
    constructor
    · rintro ⟨leftOut, covered, stays⟩
      exact ⟨route, found, stays, covered, leftOut⟩
    · rintro ⟨route', new⟩
      have same : route' = route := Option.some.inj (new.meets.symm.trans found)
      cases same
      exact ⟨new.leftOut, new.covered, new.stays⟩

/-- An upload and the same upload again: the second changes nothing exactly when it finds
nothing new in what the first has left. -/
theorem upload_again_iff (distance : DistanceMeters) (upload : TrackUpload) (t : Track)
    (drawn : Nat) :
    let first := (saveTrackingPoints distance upload).alone applyTrackWrite t drawn
    ChangesNothing distance upload.again first.1 first.2.1 ↔
      ∃ route, NothingNew distance upload first.1 route :=
  again_changes_nothing_iff _ _

def onMeridian : DistanceMeters := fun a b =>
  some ((if a.latitude ≤ b.latitude then b.latitude - a.latitude
    else a.latitude - b.latitude) * 111195)

def stepAlong (id : String) (latitude : Rat) (recordedAt : TrackTime) : ParsedPoint where
  clientPointId := some id
  position := ⟨latitude, 0⟩
  recordedAt := recordedAt
  recordedTimeZone := none
  recordedTimezoneOffsetMinutes := none
  eventType := .move
  accuracy := none
  speed := none
  heading := none
  stayDurationSeconds := none

def walk : TrackUpload where
  first := stepAlong "a" 0 0
  others := [stepAlong "b" (3 / 100000) 1000, stepAlong "c" (1 / 1000) 60000]
  routeId := some 1
  startNewRoute := false
  endRoute := false

theorem walk_again_creates_point : ¬ ∀ (distance : DistanceMeters) (upload : TrackUpload)
    (t : Track) (drawn : Nat), (∀ p ∈ upload.points, p.clientPointId.isSome) →
    upload.startNewRoute = false →
    let first := (saveTrackingPoints distance upload).alone applyTrackWrite t drawn
    ChangesNothing distance upload first.1 first.2.1 := by
  intro always
  have again := always onMeridian walk ⟨[⟨1, .active, 0, none⟩], []⟩ 2 (by decide) rfl
  exact absurd again.2 (by decide +kernel)

end Retry

end LeaderProduct
