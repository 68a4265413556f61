import LeaderProduct.ActiveRoute
import LeaderProduct.RouteInterval

/-! When the numbers of the points tell them apart within their route. An upload counts the points
of the route first and numbers its batch from there, while other uploads are still to commit. -/
namespace LeaderProduct
open Transition ReadCommitted

variable {t : Track} {writes : List TrackWrite}

section Rows

/-- No two points of a route have one number. -/
def DistinctNumbers (t : Track) : Prop :=
  t.points.Pairwise (fun a b => a.routeId = b.routeId → a.sequence ≠ b.sequence)

instance (t : Track) : Decidable (DistinctNumbers t) := by
  unfold DistinctNumbers
  infer_instance

def insertedRows : List TrackWrite → List RoutePoint
  | [] => []
  | .insert points :: rest => points ++ insertedRows rest
  | _ :: rest => insertedRows rest

def newRows (t : Track) (rows : List RoutePoint) : List RoutePoint :=
  rows.filter (fun row => !t.hasPointId row.point.clientPointId)

def OwnIds (points : List ParsedPoint) : Prop :=
  points.Pairwise (fun p q => ∀ id, p.clientPointId = some id → q.clientPointId ≠ some id)

theorem insertedRows_append (writes rest : List TrackWrite) :
    insertedRows (writes ++ rest) = insertedRows writes ++ insertedRows rest := by
  induction writes with
  | nil => rfl
  | cons w writes ih => cases w <;> simp [insertedRows, ih]

theorem hasPointId_congr {t' : Track} (same : t.points = t'.points) (id : Option String) :
    t.hasPointId id = t'.hasPointId id := by
  simp [Track.hasPointId, same]

theorem insertPoints_congr {t' : Track} (same : t.points = t'.points) (rows : List RoutePoint) :
    (t.insertPoints rows).points = (t'.insertPoints rows).points := by
  unfold Track.insertPoints
  induction rows generalizing t t' with
  | nil => exact same
  | cons row rest ih =>
    rw [List.foldl_cons, List.foldl_cons, hasPointId_congr same]
    apply ih
    split <;> simp [same]

theorem points_view (writes : List TrackWrite) (t : Track) :
    (view applyTrackWrite t writes).points = (t.insertPoints (insertedRows writes)).points := by
  unfold view
  induction writes generalizing t with
  | nil => rfl
  | cons w rest ih =>
    rw [List.foldl_cons, ih]
    cases w with
    | insert points => simp [insertedRows, applyTrackWrite, Track.insertPoints, List.foldl_append]
    | create route =>
      apply insertPoints_congr
      rfl
    | coverStart routeId startedAt =>
      apply insertPoints_congr
      rfl
    | complete routeId endedAt =>
      apply insertPoints_congr
      rfl

theorem insertPoints_own {rows : List RoutePoint} (own : OwnIds (rows.map (·.point))) (t : Track) :
    (t.insertPoints rows).points = t.points ++ newRows t rows := by
  unfold Track.insertPoints
  induction rows generalizing t with
  | nil => simp [newRows]
  | cons row rest ih =>
    simp only [OwnIds, List.map_cons, List.pairwise_cons] at own
    obtain ⟨first, others⟩ := own
    rw [List.foldl_cons]
    by_cases stored : t.hasPointId row.point.clientPointId
    · simp [stored, ih others, newRows]
    · have still : newRows { t with points := t.points ++ [row] } rest = newRows t rest := by
        apply List.filter_congr
        intro other there
        have unlike := first other.point (List.mem_map_of_mem there)
        cases id : other.point.clientPointId with
        | none => rfl
        | some id' =>
          have different : row.point.clientPointId ≠ some id' := fun mine => unlike id' mine id
          simp [Track.hasPointId, different]
      rw [if_neg stored, ih others, still]
      simp [newRows, stored]

end Rows

variable {past : List (Statement Track TrackWrite)}

section Batch

/-- What was committed when the request has counted the points of its route: two statements before
the insertion. -/
def countedAt : List (Statement Track TrackWrite) → Option Track
  | ⟨_, some (.insert _)⟩ :: _ :: counting :: _ => some counting.met
  | _ :: past => countedAt past
  | [] => none

def OneBatch (points : List ParsedPoint) (past : List (Statement Track TrackWrite))
    (writes : List TrackWrite) : Prop :=
  insertedRows writes = [] ∨ ∃ routeId counted kept, countedAt past = some counted ∧
    insertedRows writes = numberPoints routeId (counted.pointsOf routeId).length kept ∧
      kept.Sublist points ∧ OwnIds kept

def TrackRequest.points : TrackRequest → List ParsedPoint
  | .upload sent => sent.points
  | _ => []

theorem numberPoints_increase (routeId existing : Nat) (kept : List ParsedPoint) :
    (numberPoints routeId existing kept).Pairwise (fun a b => a.sequence < b.sequence) := by
  unfold numberPoints
  rw [List.pairwise_map, List.pairwise_iff_getElem]
  intro i j i_lt j_lt earlier
  simp
  omega

theorem filterPoints_sublist (distance : DistanceMeters) (stored : String → Bool)
    (seen : List String) (prev : Option ParsedPoint) (points : List ParsedPoint) :
    (filterPoints distance stored seen prev points).Sublist points := by
  induction points generalizing seen prev with
  | nil => exact List.Sublist.refl _
  | cons p rest ih =>
    rw [filterPoints]
    cases rejectPoint distance stored seen prev p with
    | some why => exact (ih _ _).cons _
    | none => exact (ih _ _).cons_cons _

variable {points : List ParsedPoint}

def TrackWrite.InsertsNone : TrackWrite → Prop
  | .insert _ => False
  | _ => True

def InsertsOnce (points : List ParsedPoint) (p : TrackProgram) : Prop :=
  ∀ past writes, insertedRows writes = [] →
    p.Ends applyTrackWrite (fun _ => True) (OneBatch points) past writes

theorem ends_inserted (batch : OneBatch points past writes) {p : TrackProgram}
    (within : p.Writes TrackWrite.InsertsNone) :
    p.Ends applyTrackWrite (fun _ => True) (OneBatch points) past writes := by
  refine within.ends (fun s batch => batch) (fun s w allowed batch => ?_) batch
  have none_here : insertedRows [w] = [] := by
    cases w with
    | insert points => exact allowed.elim
    | create route => rfl
    | coverStart routeId startedAt => rfl
    | complete routeId endedAt => rfl
  have still : ∀ past, countedAt (⟨s, some w⟩ :: past) = countedAt past := by
    intro past
    cases w with
    | insert points => exact allowed.elim
    | create route => rfl
    | coverStart routeId startedAt => rfl
    | complete routeId endedAt => rfl
  rwa [OneBatch, insertedRows_append, none_here, List.append_nil, still]

theorem once_of_writes {p : TrackProgram} (within : p.Writes TrackWrite.InsertsNone) :
    InsertsOnce points p := fun _ _ none_yet => ends_inserted (.inl none_yet) within

theorem once_read {next : Track → TrackProgram} (after : ∀ t, InsertsOnce points (next t)) :
    InsertsOnce points (.read next) := fun _ writes none_yet _ _ => after _ _ writes none_yet

theorem once_draw {next : Nat → TrackProgram} (after : ∀ id, InsertsOnce points (next id)) :
    InsertsOnce points (.draw next) := fun past writes none_yet id => after id past writes none_yet

theorem once_write {w : TrackWrite} (none_here : insertedRows [w] = []) {next : TrackProgram}
    (after : InsertsOnce points next) : InsertsOnce points (.write w next) := by
  intro past writes none_yet s _
  apply after
  rw [insertedRows_append, none_here, none_yet]
  rfl

theorem once_ensure (route : UserRoute) (firstPointAt : TrackTime)
    {next : UserRoute → TrackProgram} (after : ∀ route, InsertsOnce points (next route)) :
    InsertsOnce points (ensureRouteStartedAtCoversPoint route firstPointAt next) := by
  unfold ensureRouteStartedAtCoversPoint
  split
  · exact after route
  · exact once_write rfl (once_read fun _ => after _)

theorem once_insertKept (upload : TrackUpload) {kept : List ParsedPoint}
    (sub : kept.Sublist points) (own : OwnIds kept) (endedAt : TrackTime) (route : UserRoute) :
    InsertsOnce points (insertKept upload kept endedAt route) := by
  intro past writes none_yet s _ s' _ s'' _
  have counted : (view applyTrackWrite s writes).pointsOf route.id = s.pointsOf route.id := by
    rw [Track.pointsOf, points_view, none_yet]
    rfl
  refine ends_inserted (.inr ⟨route.id, s, kept, rfl, ?_, sub, own⟩)
    (writes_endUpload (fun _ _ => trivial) _ _ _ _)
  rw [insertedRows_append, none_yet, counted]
  simp [insertedRows]

theorem once_keepPoints (distance : DistanceMeters) (upload : TrackUpload)
    (active : Option UserRoute) :
    InsertsOnce upload.points (keepPoints distance upload active) := by
  apply once_read
  intro t
  apply once_read
  intro t'
  apply once_read
  intro t''
  split
  · cases active with
    | none =>
      refine once_of_writes fun id => ⟨trivial, ?_⟩
      exact writes_endUpload (fun _ _ => trivial) _ _ _ _
    | some route =>
      exact once_of_writes (writes_uploadNothing (fun _ _ => trivial) (fun _ _ => trivial) _ _ _)
  · next first rest filtered =>
    have sub := filterPoints_sublist distance (fun id => t''.hasPointId (some id)) []
      (active.bind (fun route => t.lastPoint route.id)) upload.points
    have own := (filterPoints_fresh distance (fun id => t''.hasPointId (some id)) []
      (active.bind (fun route => t.lastPoint route.id)) upload.points).2
    rw [filtered] at sub own
    unfold uploadKept
    dsimp only
    split
    · exact once_draw fun _ => once_write rfl (once_insertKept upload sub own _ _)
    · exact once_ensure _ _ fun _ => once_insertKept upload sub own _ _

theorem request_inserts_once (distance : DistanceMeters) (request : TrackRequest) :
    InsertsOnce request.points (request.program distance) := by
  cases request with
  | start now =>
    apply once_of_writes
    intro t
    dsimp only
    split
    · trivial
    · exact fun id => ⟨trivial, trivial⟩
  | stop routeId now =>
    exact once_of_writes (writes_stop (fun _ _ => trivial) (fun _ _ => trivial) routeId now)
  | upload upload =>
    apply once_read
    intro t
    split
    · next route named => exact once_keepPoints distance upload (some route)
    · apply once_read
      intro t'
      split
      · exact once_keepPoints distance upload none
      · split
        · exact once_write rfl (once_keepPoints distance upload none)
        · next route found new => exact once_keepPoints distance upload (some route)

end Batch

section Runs
variable (distance : DistanceMeters)

def Committing (r : TrackRun) (tx : Nat) (writes : List TrackWrite) : Prop :=
  ∃ answer, r.system.transactions tx = some ⟨.done answer, writes⟩

/-- Whoever commits adds points of its request in the order of the upload, with numbers that
increase. -/
def StoresInOrder (r : TrackRun) : TrackAction → Prop
  | .step tx => ∀ writes, Committing r tx writes → ∃ request batch,
      r.requests tx = some request ∧
      (view applyTrackWrite r.system.committed writes).points =
        r.system.committed.points ++ batch ∧
      (batch.map (·.point)).Sublist request.points ∧
      batch.Pairwise (fun a b => a.sequence < b.sequence)
  | _ => True

/-- With the numbers that the count of the points gives them, none of the rows that are not skipped
gets the number of a point that its route has by the commit: one that was there at the count with a
number above it, or one that has come since. -/
def FreeSinceCount (_ : TrackRequest) (past : List (Statement Track TrackWrite))
    (writes : List TrackWrite) (t : Track) : Prop :=
  ∀ counted ∈ countedAt past, ∀ entry ∈ (insertedRows writes).zipIdx,
    t.hasPointId entry.1.point.clientPointId = false → ∀ stored ∈ t.pointsOf entry.1.routeId,
      stored.sequence ≠ (counted.pointsOf entry.1.routeId).length + entry.2 + 1

theorem number_of_place {routeId existing : Nat} {kept : List ParsedPoint}
    {entry : RoutePoint × Nat} (there : entry ∈ (numberPoints routeId existing kept).zipIdx) :
    entry.1.routeId = routeId ∧ entry.1.sequence = existing + entry.2 + 1 := by
  rw [List.mem_zipIdx_iff_getElem?, numberPoints, List.getElem?_map, List.getElem?_zipIdx,
    Option.map_map, Option.map_eq_some_iff] at there
  obtain ⟨p, _, same⟩ := there
  rw [← same]
  exact ⟨rfl, by simp⟩

variable {distance}

theorem newRows_map_sublist (t : Track) (routeId existing : Nat) (kept : List ParsedPoint) :
    ((newRows t (numberPoints routeId existing kept)).map (·.point)).Sublist kept := by
  have sub := (List.filter_sublist (p := fun row : RoutePoint =>
    !t.hasPointId row.point.clientPointId)
    (l := numberPoints routeId existing kept)).map (·.point)
  rwa [numberPoints_points] at sub

theorem points_commit {points : List ParsedPoint} (batch : OneBatch points past writes)
    (t : Track) :
    (view applyTrackWrite t writes).points = t.points ++ newRows t (insertedRows writes) ∧
      ((newRows t (insertedRows writes)).map (·.point)).Sublist points ∧
      (newRows t (insertedRows writes)).Pairwise (fun a b => a.sequence < b.sequence) := by
  rcases batch with none_here | ⟨routeId, counted, kept, _, same, sub, own⟩
  · rw [points_view, none_here]
    simp [newRows, Track.insertPoints]
  have own_rows : OwnIds ((insertedRows writes).map (·.point)) := by
    rw [same, numberPoints_points]
    exact own
  refine ⟨?_, ?_, ?_⟩
  · rw [points_view, insertPoints_own own_rows]
  · rw [same]
    exact (newRows_map_sublist t routeId _ kept).trans sub
  · rw [same]
    exact (numberPoints_increase routeId _ kept).sublist List.filter_sublist

theorem stores_in_order {r : TrackRun}
    (sound : r.Sound applyTrackWrite (fun _ => True) (fun request => OneBatch request.points))
    (a : TrackAction) : StoresInOrder r a := by
  cases a with
  | begin tx request => trivial
  | abort tx => trivial
  | step tx =>
    rintro writes ⟨answer, here⟩
    obtain ⟨request, begun, batch⟩ := sound tx _ writes here
    exact ⟨request, _, begun, points_commit batch r.system.committed⟩

theorem distinct_commit_iff {points : List ParsedPoint} (batch : OneBatch points past writes)
    (now : DistinctNumbers t) :
    DistinctNumbers (view applyTrackWrite t writes) ↔
      ∀ row ∈ newRows t (insertedRows writes),
        ∀ stored ∈ t.pointsOf row.routeId, stored.sequence ≠ row.sequence := by
  obtain ⟨added, _, increase⟩ := points_commit batch t
  rw [DistinctNumbers, added, List.pairwise_append]
  have among : (newRows t (insertedRows writes)).Pairwise
      (fun a b => a.routeId = b.routeId → a.sequence ≠ b.sequence) := by
    apply increase.imp
    intro a b less _
    exact Nat.ne_of_lt less
  constructor
  · rintro ⟨_, _, apart⟩ row new stored there
    obtain ⟨known, same⟩ := mem_pointsOf.mp there
    exact apart stored known row new same
  · intro free
    refine ⟨now, among, fun stored known row new same => ?_⟩
    exact free row new stored (mem_pointsOf.mpr ⟨known, same⟩)

theorem freeSinceCount_iff {request : TrackRequest} (batch : OneBatch request.points past writes)
    (now : DistinctNumbers t) :
    DistinctNumbers (view applyTrackWrite t writes) ↔ FreeSinceCount request past writes t := by
  rw [distinct_commit_iff batch now, FreeSinceCount]
  rcases batch with none_here | ⟨routeId, counted, kept, looked, same, _, _⟩
  · rw [none_here]
    simp [newRows]
  rw [looked, same]
  simp only [Option.mem_some_iff, forall_eq']
  constructor
  · intro free entry there kept_row stored known
    obtain ⟨mine, number⟩ := number_of_place there
    have row := List.fst_mem_of_mem_zipIdx there
    have apart := free entry.1 (List.mem_filter.mpr ⟨row, by rw [kept_row]; rfl⟩) stored known
    rwa [number, ← mine] at apart
  · intro free row new stored known
    obtain ⟨there, kept_row⟩ := List.mem_filter.mp new
    rw [Bool.not_eq_true'] at kept_row
    obtain ⟨place, at_place⟩ := List.mem_iff_getElem?.mp there
    have here : (row, place) ∈ (numberPoints routeId (counted.pointsOf routeId).length kept).zipIdx :=
      List.mem_zipIdx_iff_getElem?.mpr at_place
    obtain ⟨mine, number⟩ := number_of_place here
    have apart := free (row, place) here kept_row stored known
    rwa [number, ← mine]

def twoUploads : List TrackAction :=
  [.begin 0 (.start 0)] ++ List.replicate 4 (.step 0) ++
    [.begin 1 (.upload ⟨stepAlong "a" 0 1000, [], none, false, false⟩),
      .begin 2 (.upload ⟨stepAlong "b" 1 60000, [], none, false, false⟩)] ++
    List.replicate 8 (.step 1) ++ List.replicate 8 (.step 2) ++ [.step 1, .step 2]

end Runs

end LeaderProduct
