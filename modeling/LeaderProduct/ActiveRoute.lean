import LeaderProduct.Tracking

/-! When a user never has two active routes. Each request that may open one looks for an active
route first; a second one is there when another has been opened between this look and the commit. -/
namespace LeaderProduct
open Transition ReadCommitted RowTable

section Writes
variable (t : Track)

def activeIds : List Nat := (t.routes.filter (fun route => route.status == .active)).map (·.id)

def OneActive : Prop := (activeIds t).length ≤ 1

instance : Decidable (OneActive t) := inferInstanceAs (Decidable (_ ≤ _))

def completedIds : List TrackWrite → List Nat
  | [] => []
  | .complete routeId _ :: rest => routeId :: completedIds rest
  | _ :: rest => completedIds rest

def createdActive : List TrackWrite → List Nat
  | [] => []
  | .create route :: rest =>
    (if route.status = .active ∧ route.id ∉ completedIds rest then [route.id] else []) ++
      createdActive rest
  | _ :: rest => createdActive rest

variable {t}

theorem activeIds_create (route : UserRoute) :
    activeIds (applyTrackWrite (.create route) t) =
      activeIds t ++ if route.status = .active then [route.id] else [] := by
  simp only [activeIds, applyTrackWrite, List.filter_append, List.map_append]
  by_cases active : route.status = .active
  · simp [active]
  · simp [active]

theorem activeIds_coverStart (routeId : Nat) (startedAt : TrackTime) :
    activeIds (applyTrackWrite (.coverStart routeId startedAt) t) = activeIds t := by
  simp only [activeIds, applyTrackWrite, Track.setRoute]
  induction t.routes with
  | nil => rfl
  | cons route rest ih =>
    rw [List.map_cons, List.filter_cons, List.filter_cons]
    by_cases same : route.id = routeId
    · simp only [if_pos same]
      split <;> simp only [List.map_cons, ih]
    · simp only [if_neg same]
      split <;> simp only [List.map_cons, ih]

theorem activeIds_complete (routeId : Nat) (endedAt : TrackTime) :
    activeIds (applyTrackWrite (.complete routeId endedAt) t) =
      (activeIds t).filter (fun id => id ≠ routeId) := by
  simp only [activeIds, applyTrackWrite, Track.setRoute]
  induction t.routes with
  | nil => rfl
  | cons route rest ih =>
    by_cases same : route.id = routeId
    · by_cases active : route.status = .active
      · simpa [same, active] using ih
      · simpa [same, active] using ih
    · by_cases active : route.status = .active
      · simpa [same, active] using ih
      · simpa [same, active] using ih

theorem activeIds_insert (points : List RoutePoint) :
    activeIds (applyTrackWrite (.insert points) t) = activeIds t := by
  simp only [activeIds, applyTrackWrite, Track.insertPoints_routes]

/-- What is active after the writes: what was and is not completed, and what they create. -/
theorem activeIds_view (writes : List TrackWrite) :
    activeIds (view applyTrackWrite t writes) =
      (activeIds t).filter (fun id => id ∉ completedIds writes) ++ createdActive writes := by
  unfold view
  induction writes generalizing t with
  | nil => simp [completedIds, createdActive, List.filter_eq_self.mpr]
  | cons w rest ih =>
    rw [List.foldl_cons, ih]
    cases w with
    | create route =>
      rw [activeIds_create, List.filter_append, createdActive, List.append_assoc]
      congr 2
      by_cases active : route.status = .active
      · by_cases closed : route.id ∈ completedIds rest
        · simp [active, closed]
        · simp [active, closed]
      · simp [active]
    | coverStart routeId startedAt => rw [activeIds_coverStart]; rfl
    | insert points => rw [activeIds_insert]; rfl
    | complete routeId endedAt =>
      rw [activeIds_complete, List.filter_filter]
      congr 1
      refine List.filter_congr fun id _ => ?_
      by_cases here : id = routeId
      · simp [completedIds, here]
      · simp [completedIds, here]

end Writes

section Opening

theorem completedIds_append (writes rest : List TrackWrite) :
    completedIds (writes ++ rest) = completedIds writes ++ completedIds rest := by
  induction writes with
  | nil => rfl
  | cons w writes ih => cases w <;> simp [completedIds, ih]

theorem createdActive_append (writes rest : List TrackWrite) :
    createdActive (writes ++ rest) =
      (createdActive writes).filter (fun id => id ∉ completedIds rest) ++ createdActive rest := by
  induction writes with
  | nil => rfl
  | cons w writes ih =>
    cases w with
    | create route =>
      rw [List.cons_append, createdActive, createdActive, ih, completedIds_append,
        List.filter_append, ← List.append_assoc]
      congr 2
      by_cases active : route.status = .active
      · by_cases closed : route.id ∈ completedIds writes
        · simp [closed]
        · by_cases later : route.id ∈ completedIds rest
          · simp [active, closed, later]
          · simp [active, closed, later]
      · simp [active]
    | coverStart routeId startedAt => exact ih
    | complete routeId endedAt => exact ih
    | insert points => exact ih

def TrackWrite.OpensNone : TrackWrite → Prop
  | .create _ => False
  | _ => True

/-- The tables in which the request has looked for an active route, if it opens a route then and
leaves it active. An upload has looked for the route that it names before. -/
def TrackRequest.opens : TrackRequest → List Track → Option Track
  | .start _, looked :: _ => if looked.activeRoute = none then some looked else none
  | .upload sent, first :: looked :: _ =>
    if namedRoute sent first = none ∧
        (looked.activeRoute = none ∨ sent.startNewRoute = true) ∧ sent.endRoute = false then
      some looked
    else none
  | _, _ => none

def metBy (past : List (Statement Track TrackWrite)) : List Track := past.reverse.map (·.met)

/-- No route is active that was not when the request has looked for one, if it opens its own. -/
def OpensAlone (request : TrackRequest) (past : List (Statement Track TrackWrite))
    (_ : List TrackWrite) (t : Track) : Prop :=
  ∀ looked ∈ request.opens (metBy past), ∀ id ∈ activeIds t, id ∈ activeIds looked

def Fits : Option Track → List TrackWrite → Prop
  | none, writes => createdActive writes = []
  | some looked, writes => (createdActive writes).length = 1 ∧
      ∀ id, id ∈ activeIds looked ↔ id ∈ completedIds writes

def OpensFitting (request : TrackRequest) (past : List (Statement Track TrackWrite))
    (writes : List TrackWrite) : Prop := Fits (request.opens (metBy past)) writes

theorem activeIds_none {t : Track} (found : t.activeRoute = none) : activeIds t = [] := by
  rw [Track.activeRoute, newestBy_eq_none] at found
  rw [activeIds, found, List.map_nil]

theorem activeIds_some {t : Track} (now : OneActive t) {route : UserRoute}
    (found : t.activeRoute = some route) : activeIds t = [route.id] := by
  obtain ⟨known, active⟩ := Track.activeRoute_mem found
  have there : route.id ∈ activeIds t :=
    List.mem_map_of_mem (List.mem_filter.mpr ⟨known, beq_iff_eq.mpr active⟩)
  rw [OneActive] at now
  match activeIds t, now, there with
  | [other], _, there => rw [List.mem_singleton.mp there]

variable {request : TrackRequest} {o : Option Track}
  {past : List (Statement Track TrackWrite)} {writes : List TrackWrite}

def OpeningSettled (request : TrackRequest) (o : Option Track)
    (past : List (Statement Track TrackWrite)) : Prop :=
  ∀ later, request.opens (metBy past ++ later) = o

theorem OpeningSettled.cons (settled : OpeningSettled request o past) (e : Statement Track TrackWrite) :
    OpeningSettled request o (e :: past) := by
  intro later
  have known := settled (e.met :: later)
  rwa [metBy, List.reverse_cons, List.map_append, List.append_assoc]

theorem OpeningSettled.fits (settled : OpeningSettled request o past) :
    OpensFitting request past writes ↔ Fits o writes := by
  have now := settled []
  rw [List.append_nil] at now
  rw [OpensFitting, now]

theorem ends_settled (settled : OpeningSettled request o past) (now : createdActive writes = [])
    (none_opened : o = none) {p : TrackProgram} (within : p.Writes TrackWrite.OpensNone) :
    p.Ends applyTrackWrite OneActive (OpensFitting request) past writes := by
  have all : p.Ends applyTrackWrite OneActive _ past writes := within.ends (K := OneActive)
    (P := fun past writes => OpeningSettled request none past ∧ createdActive writes = [])
    (fun s holds => ⟨holds.1.cons _, holds.2⟩)
    (fun s w allowed holds => ⟨holds.1.cons _, by
      rw [createdActive_append, holds.2]
      cases w with
      | create route => exact allowed.elim
      | coverStart routeId startedAt => rfl
      | complete routeId endedAt => rfl
      | insert points => rfl⟩)
    ⟨none_opened ▸ settled, now⟩
  exact all.mono fun past writes holds => holds.1.fits.mpr holds.2

section Writing
variable {P : TrackWrite → Prop} (completes : ∀ routeId endedAt, P (.complete routeId endedAt))
  (covers : ∀ routeId startedAt, P (.coverStart routeId startedAt))
include completes

theorem writes_completeRoute (route : UserRoute) (endedAt : TrackTime) (createdPoints : Nat) :
    (completeRoute route endedAt createdPoints).Writes P :=
  ⟨completes _ _, fun _ => trivial⟩

theorem writes_endUpload (upload : TrackUpload) (endedAt : TrackTime) (createdPoints : Nat)
    (route : UserRoute) : (endUpload upload endedAt createdPoints route).Writes P := by
  unfold endUpload
  split
  · exact writes_completeRoute completes _ _ _
  · trivial

omit completes in
include covers in
theorem writes_ensure (route : UserRoute) (firstPointAt : TrackTime)
    {next : UserRoute → TrackProgram} (after : ∀ route, (next route).Writes P) :
    (ensureRouteStartedAtCoversPoint route firstPointAt next).Writes P := by
  unfold ensureRouteStartedAtCoversPoint
  split
  · exact after route
  · exact ⟨covers _ _, fun _ => after _⟩

include covers

theorem writes_stop (routeId : Option Nat) (now : TrackTime) :
    (stopSession routeId now).Writes P := by
  intro t
  dsimp only
  split
  · trivial
  · split
    · trivial
    · intro t t'
      dsimp only
      split
      · exact writes_completeRoute completes _ _ _
      · exact writes_ensure covers _ _ fun _ => writes_completeRoute completes _ _ _

theorem writes_uploadNothing (upload : TrackUpload) (route : UserRoute)
    (firstSaved : Option ParsedPoint) : (uploadNothing upload (some route) firstSaved).Writes P := by
  unfold uploadNothing
  dsimp only
  split
  · exact writes_endUpload completes _ _ _ _
  · exact writes_ensure covers _ _ fun _ => writes_endUpload completes _ _ _ _

end Writing

theorem writes_keepPoints (distance : DistanceMeters) (upload : TrackUpload) (route : UserRoute) :
    (keepPoints distance upload (some route)).Writes TrackWrite.OpensNone := by
  intro t t' t''
  dsimp only
  split
  · exact writes_uploadNothing (fun _ _ => trivial) (fun _ _ => trivial) _ _ _
  · refine writes_ensure (fun _ _ => trivial) _ _ fun _ => fun _ _ => ⟨trivial, ?_⟩
    exact writes_endUpload (fun _ _ => trivial) _ _ _ _

theorem ends_created {upload : TrackUpload} {looked : Track} {id : Nat}
    (settled : OpeningSettled request (if upload.endRoute then none else some looked) past)
    (created : createdActive writes = [id])
    (completed : ∀ other, other ∈ activeIds looked ↔ other ∈ completedIds writes)
    (endedAt : TrackTime) (createdPoints : Nat) (startedAt : TrackTime) :
    (endUpload upload endedAt createdPoints ⟨id, .active, startedAt, none⟩).Ends applyTrackWrite
      OneActive (OpensFitting request) past writes := by
  unfold endUpload
  cases ends : upload.endRoute with
  | true =>
    rw [ends, if_pos rfl] at settled
    intro s _ s' _
    refine ((settled.cons _).cons _).fits.mpr ?_
    rw [Fits, createdActive_append, created]
    simp [completedIds, createdActive]
  | false =>
    rw [ends, if_neg Bool.false_ne_true] at settled
    refine settled.fits.mpr ⟨?_, completed⟩
    rw [created, List.length_singleton]

theorem ends_keepPoints (distance : DistanceMeters) {upload : TrackUpload} {looked : Track}
    (settled : OpeningSettled request (if upload.endRoute then none else some looked) past)
    (created : createdActive writes = [])
    (completed : ∀ other, other ∈ activeIds looked ↔ other ∈ completedIds writes) :
    (keepPoints distance upload none).Ends applyTrackWrite OneActive (OpensFitting request) past
      writes := by
  have opened (id : Nat) (startedAt : TrackTime) :
      createdActive (writes ++ [.create ⟨id, .active, startedAt, none⟩]) = [id] ∧
        ∀ other, other ∈ activeIds looked ↔
          other ∈ completedIds (writes ++ [.create ⟨id, .active, startedAt, none⟩]) := by
    rw [createdActive_append, completedIds_append, created]
    exact ⟨by simp [completedIds, createdActive], by simpa [completedIds] using completed⟩
  intro s _ s' _ s'' _
  have later := ((settled.cons ⟨s, none⟩).cons ⟨s', none⟩).cons ⟨s'', none⟩
  dsimp only
  split
  · intro id t _
    obtain ⟨one, same⟩ := opened id upload.first.recordedAt
    exact ends_created (later.cons _) one same _ _ _
  · intro id t _ u _ u' _ u'' _
    obtain ⟨one, same⟩ := opened id _
    refine ends_created ((((later.cons _).cons _).cons _).cons _) ?_ ?_ _ _ _
    · rw [createdActive_append, one]
      simp [completedIds, createdActive]
    · rw [completedIds_append]
      simpa [completedIds] using same

theorem request_opens (distance : DistanceMeters) (request : TrackRequest) :
    (request.program distance).Ends applyTrackWrite OneActive (OpensFitting request) [] [] := by
  cases request with
  | start now =>
    intro s _
    dsimp only
    split
    · next route found =>
      have settled : OpeningSettled (.start now) none [⟨s, none⟩] := fun later =>
        if_neg (by rw [view, List.foldl_nil] at found; rw [found]; nofun)
      exact settled.fits.mpr rfl
    · next found =>
      have found : s.activeRoute = none := found
      have settled : OpeningSettled (.start now) (some s) [⟨s, none⟩] := fun later => if_pos found
      intro id t _
      refine (settled.cons _).fits.mpr ⟨by simp [createdActive, completedIds], fun other => ?_⟩
      rw [activeIds_none found]
      exact Iff.rfl
  | stop routeId now =>
    have settled : OpeningSettled (.stop routeId now) none [] := fun _ => rfl
    exact ends_settled settled rfl rfl
      (writes_stop (fun _ _ => trivial) (fun _ _ => trivial) routeId now)
  | upload upload =>
    intro s _
    dsimp only
    split
    · next route named =>
      have settled : OpeningSettled (.upload upload) none [⟨s, none⟩] := by
        intro later
        cases later with
        | nil => rfl
        | cons looked rest =>
          exact if_neg fun opens => by
            rw [view, List.foldl_nil] at named
            rw [named] at opens
            exact absurd opens.1 nofun
      exact ends_settled settled rfl rfl (writes_keepPoints distance upload route)
    · next unnamed =>
      intro looked one
      -- From here on the two first statements say what the upload will do.
      have settled : OpeningSettled (.upload upload) (if looked.activeRoute = none ∨
          upload.startNewRoute = true then if upload.endRoute then none else some looked else none)
          [⟨looked, none⟩, ⟨s, none⟩] := by
        intro later
        have first : namedRoute upload s = none := unnamed
        simp only [metBy, TrackRequest.opens, List.reverse_cons, List.reverse_nil, List.nil_append,
          List.map_cons, List.map_nil, List.cons_append, first, true_and]
        by_cases opens : looked.activeRoute = none ∨ upload.startNewRoute = true
        · simp only [opens, true_and, if_true]
          cases upload.endRoute <;> rfl
        · simp only [opens, false_and, if_false]
      dsimp only
      split
      · next found =>
        have found : looked.activeRoute = none := found
        rw [if_pos (.inl found)] at settled
        refine ends_keepPoints distance settled rfl fun other => ?_
        rw [activeIds_none found]
        exact Iff.rfl
      · next route found =>
        have found : looked.activeRoute = some route := found
        split
        · next new =>
          rw [if_pos (.inr new)] at settled
          intro t _
          refine ends_keepPoints distance (settled.cons _) rfl fun other => ?_
          rw [activeIds_some one found]
          exact Iff.rfl
        · next old =>
          rw [if_neg (by rw [found]; simpa using old)] at settled
          exact ends_settled settled rfl rfl (writes_keepPoints distance upload route)

end Opening

section Interleaved
variable (distance : DistanceMeters)

abbrev TrackAction := Call TrackRequest

abbrev TrackRun := Watched Track TrackWrite TrackAnswer TrackRequest

abbrev trackStep : TrackRun → TrackAction → TrackRun :=
  watch applyTrackWrite (TrackRequest.program distance)

theorem oneActive_view_iff {t : Track} (now : OneActive t) (writes : List TrackWrite) :
    OneActive (view applyTrackWrite t writes) ↔
      createdActive writes = [] ∨
        (createdActive writes).length = 1 ∧ ∀ id ∈ activeIds t, id ∈ completedIds writes := by
  unfold OneActive at now ⊢
  rw [activeIds_view, List.length_append]
  have fewer := List.length_filter_le (fun id => decide (id ∉ completedIds writes)) (activeIds t)
  have none_left : ((activeIds t).filter (fun id => id ∉ completedIds writes)).length = 0 ↔
      ∀ id ∈ activeIds t, id ∈ completedIds writes := by
    rw [List.length_eq_zero_iff, List.filter_eq_nil_iff]
    simp only [decide_not, Bool.not_eq_true', decide_eq_false_iff_not, not_not]
  rw [← none_left, ← List.length_eq_zero_iff]
  omega

theorem opensAlone_iff {request : TrackRequest} {past : List (Statement Track TrackWrite)}
    {writes : List TrackWrite} {t : Track} (fits : OpensFitting request past writes)
    (now : OneActive t) :
    OneActive (view applyTrackWrite t writes) ↔ OpensAlone request past writes t := by
  rw [oneActive_view_iff now, OpensAlone]
  rw [OpensFitting] at fits
  cases opened : request.opens (metBy past) with
  | none =>
    rw [opened] at fits
    exact iff_of_true (.inl fits) (fun _ here => by cases here)
  | some looked =>
    rw [opened] at fits
    obtain ⟨one, completed⟩ := fits
    have opens : createdActive writes ≠ [] := by
      intro none_created
      rw [none_created] at one
      cases one
    simp only [opens, one, true_and, false_or, Option.mem_some_iff, forall_eq', completed]

/-- The user never has two active routes exactly when he has not at first and whoever commits a
route that he has opened finds no route active that was not when he has looked for one. -/
theorem one_active_route_iff (t : Track) (drawn : Nat) (actions : List TrackAction) :
    Always (trackStep distance) (fun r => OneActive r.system.committed) (.start t drawn) actions ↔
      OneActive t ∧ EachStep (trackStep distance) (CommitMeets OpensAlone) (.start t drawn) actions := by
  have exactly (start : OneActive t) := always_iff_commits (I := OneActive)
    (request_opens distance) (fun _ now => now) opensAlone_iff start drawn actions
  constructor
  · intro always
    have start : OneActive t := always.first
    exact ⟨start, (exactly start).mp always⟩
  · rintro ⟨start, alone⟩
    exact (exactly start).mpr alone

def twoStarts : List TrackAction :=
  [.begin 1 (.start 10), .begin 2 (.start 10), .step 1, .step 2, .step 1, .step 1, .step 1,
    .step 2, .step 2, .step 2]

theorem two_starts_make_two : ¬ ∀ (distance : DistanceMeters) (actions : List TrackAction),
    Always (trackStep distance) (fun r => OneActive r.system.committed) (.start ⟨[], []⟩ 1) actions := by
  intro always
  have last := (always (fun _ _ => none) twoStarts).last
  exact absurd last (by decide)

end Interleaved

end LeaderProduct
