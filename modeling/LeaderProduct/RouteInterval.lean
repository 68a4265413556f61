import Mathlib.Data.List.Nodup
import LeaderProduct.PointRetry

/-! When the interval of a route covers its points. -/
namespace LeaderProduct
open Transition ReadCommitted RowTable

variable {routeId : Nat} {data : List RoutePoint} {kept : List ParsedPoint}

section Covered

structure CoversRoute (t : Track) (route : UserRoute) : Prop where
  starts : ∀ stored ∈ t.pointsOf route.id, route.startedAt ≤ stored.point.recordedAt
  ends : route.status = .completed → ∃ endedAt ∈ route.endedAt, route.startedAt ≤ endedAt ∧
    ∀ stored ∈ t.pointsOf route.id, stored.point.recordedAt ≤ endedAt

def Covered (t : Track) : Prop := ∀ route ∈ t.routes, CoversRoute t route

structure SoundRows (t : Track) (drawn : Nat) : Prop where
  unique : (t.routes.map (·.id)).Nodup
  routes : ∀ route ∈ t.routes, route.id < drawn
  points : ∀ stored ∈ t.points, stored.routeId < drawn

variable {t : Track} {route : UserRoute}

theorem mem_pointsOf {stored : RoutePoint} :
    stored ∈ t.pointsOf routeId ↔ stored ∈ t.points ∧ stored.routeId = routeId := by
  simp [Track.pointsOf]

theorem route_unique (unique : (t.routes.map (·.id)).Nodup) {a b : UserRoute}
    (a_known : a ∈ t.routes) (b_known : b ∈ t.routes) (same : a.id = b.id) : a = b :=
  List.inj_on_of_nodup_map unique a_known b_known same

theorem mem_setRoute (unique : (t.routes.map (·.id)).Nodup) (known : route ∈ t.routes)
    (change : UserRoute → UserRoute) {other : UserRoute} :
    other ∈ (t.setRoute route.id change).routes ↔
      other = change route ∨ other ∈ t.routes ∧ other.id ≠ route.id := by
  simp only [Track.setRoute, List.mem_map]
  constructor
  · rintro ⟨old, there, rfl⟩
    by_cases same : old.id = route.id
    · left
      simp [route_unique unique there known same]
    · right
      simp [same, there]
  · rintro (rfl | ⟨there, different⟩)
    · exact ⟨route, known, by simp⟩
    · exact ⟨other, there, by simp [different]⟩

theorem covered_set_iff (unique : (t.routes.map (·.id)).Nodup) (known : route ∈ t.routes)
    (change : UserRoute → UserRoute) : Covered (t.setRoute route.id change) ↔
      CoversRoute t (change route) ∧
        ∀ other ∈ t.routes, other.id ≠ route.id → CoversRoute t other := by
  have points (other : UserRoute) : CoversRoute (t.setRoute route.id change) other ↔
      CoversRoute t other := ⟨fun h => ⟨h.starts, h.ends⟩, fun h => ⟨h.starts, h.ends⟩⟩
  simp only [Covered, points, mem_setRoute unique known]
  constructor
  · intro all
    exact ⟨all _ (Or.inl rfl), fun other there different => all other (Or.inr ⟨there, different⟩)⟩
  · rintro ⟨covers, others⟩ other (rfl | ⟨there, different⟩)
    · exact covers
    · exact others other there different

theorem covered_iff_others (unique : (t.routes.map (·.id)).Nodup) (known : route ∈ t.routes) :
    Covered t ↔ CoversRoute t route ∧
      ∀ other ∈ t.routes, other.id ≠ route.id → CoversRoute t other := by
  constructor
  · intro all
    exact ⟨all route known, fun other there _ => all other there⟩
  · rintro ⟨covers, others⟩ other there
    by_cases same : other.id = route.id
    · rw [route_unique unique there known same]
      exact covers
    · exact others other there same

theorem covered_complete_iff (unique : (t.routes.map (·.id)).Nodup) (known : route ∈ t.routes)
    (active : route.status = .active) {endedAt : TrackTime} (later : route.startedAt ≤ endedAt) :
    Covered (applyTrackWrite (.complete route.id endedAt) t) ↔
      Covered t ∧ ∀ stored ∈ t.pointsOf route.id, stored.point.recordedAt ≤ endedAt := by
  have completed : CoversRoute t { route with status := .completed, endedAt := some endedAt } ↔
      CoversRoute t route ∧ ∀ stored ∈ t.pointsOf route.id, stored.point.recordedAt ≤ endedAt := by
    constructor
    · intro h
      obtain ⟨_, same, _, ends⟩ := h.ends rfl
      cases same
      exact ⟨⟨h.starts, fun done => by simp [active] at done⟩, ends⟩
    · rintro ⟨covers, ends⟩
      exact ⟨covers.starts, fun _ => ⟨endedAt, rfl, later, ends⟩⟩
  rw [applyTrackWrite, covered_set_iff unique known, covered_iff_others unique known, completed]
  exact and_right_comm

theorem covered_coverStart (unique : (t.routes.map (·.id)).Nodup) (known : route ∈ t.routes)
    (now : Covered t) {startedAt : TrackTime} (earlier : startedAt ≤ route.startedAt) :
    Covered (applyTrackWrite (.coverStart route.id startedAt) t) := by
  have covers := now route known
  rw [applyTrackWrite, covered_set_iff unique known]
  refine ⟨⟨fun stored here => Int.le_trans earlier (covers.starts stored here),
    fun completed => ?_⟩, fun other there _ => now other there⟩
  obtain ⟨endedAt, ended, later, ends⟩ := covers.ends completed
  exact ⟨endedAt, ended, Int.le_trans earlier later, ends⟩

theorem covered_create_iff {drawn : Nat} (rows : SoundRows t drawn) (startedAt : TrackTime) :
    Covered (applyTrackWrite (.create ⟨drawn, .active, startedAt, none⟩) t) ↔ Covered t := by
  have points (other : UserRoute) :
      CoversRoute (applyTrackWrite (.create ⟨drawn, .active, startedAt, none⟩) t) other ↔
        CoversRoute t other := ⟨fun h => ⟨h.starts, h.ends⟩, fun h => ⟨h.starts, h.ends⟩⟩
  have fresh : CoversRoute t ⟨drawn, .active, startedAt, none⟩ := by
    refine ⟨fun stored here => ?_, fun completed => by cases completed⟩
    obtain ⟨there, same⟩ := mem_pointsOf.mp here
    have bound := rows.points stored there
    simp at same
    omega
  simp only [Covered, points]
  simp [applyTrackWrite, or_imp, forall_and, fresh]

theorem covered_append_iff (unique : (t.routes.map (·.id)).Nodup) (known : route ∈ t.routes)
    (on_route : ∀ stored ∈ data, stored.routeId = route.id)
    (after : ∀ stored ∈ data, route.startedAt ≤ stored.point.recordedAt) :
    Covered { t with points := t.points ++ data } ↔
      Covered t ∧ (route.status = .completed → ∀ stored ∈ data, ∀ endedAt ∈ route.endedAt,
        stored.point.recordedAt ≤ endedAt) := by
  have points (routeId : Nat) (stored : RoutePoint) :
      stored ∈ Track.pointsOf { t with points := t.points ++ data } routeId ↔
        stored ∈ t.pointsOf routeId ∨ stored ∈ data ∧ stored.routeId = routeId := by
    simp [Track.pointsOf]
  constructor
  · intro all
    constructor
    · intro other there
      have covers := all other there
      refine ⟨fun stored here => covers.starts stored ((points _ _).mpr (Or.inl here)), ?_⟩
      intro completed
      obtain ⟨endedAt, ended, later, ends⟩ := covers.ends completed
      exact ⟨endedAt, ended, later, fun stored here => ends stored ((points _ _).mpr (Or.inl here))⟩
    · intro completed stored here endedAt ended
      obtain ⟨_, same, _, ends⟩ := (all route known).ends completed
      cases ended.symm.trans same
      exact ends stored ((points _ _).mpr (Or.inr ⟨here, on_route stored here⟩))
  · rintro ⟨now, ends⟩ other there
    have covers := now other there
    have mine {stored : RoutePoint} (here : stored ∈ data) (same : stored.routeId = other.id) :
        other = route := route_unique unique there known (same.symm.trans (on_route stored here))
    constructor
    · intro stored here
      rcases (points _ _).mp here with old | ⟨new, same⟩
      · exact covers.starts stored old
      · rw [mine new same]
        exact after stored new
    · intro completed
      obtain ⟨endedAt, ended, later, old_ends⟩ := covers.ends completed
      refine ⟨endedAt, ended, later, fun stored here => ?_⟩
      rcases (points _ _).mp here with old | ⟨new, same⟩
      · exact old_ends stored old
      · have this := mine new same
        subst this
        exact ends completed stored new endedAt ended

end Covered

section Kept
variable {distance : DistanceMeters} {stored : String → Bool}

theorem rejectPoint_none {seen : List String} {prev : Option ParsedPoint} {p : ParsedPoint}
    (kept : rejectPoint distance stored seen prev p = none) {id : String}
    (own : p.clientPointId = some id) : stored id = false ∧ id ∉ seen := by
  unfold rejectPoint at kept
  split at kept
  · cases kept
  · next fresh => simpa [own] using fresh

theorem mem_noteSeen (stored : String → Bool) {seen : List String} {p : ParsedPoint} {id : String}
    (known : id ∈ seen ∨ p.clientPointId = some id) :
    stored id = true ∨ id ∈ noteSeen stored seen p := by
  unfold noteSeen
  cases own : p.clientPointId with
  | none => simp_all
  | some other =>
    simp only [own, Option.some.injEq] at known ⊢
    split
    · next h =>
      rcases known with old | rfl
      · exact Or.inr old
      · simpa using h
    · rcases known with old | rfl <;> simp_all

theorem filterPoints_fresh (distance : DistanceMeters) (stored : String → Bool)
    (seen : List String) (prev : Option ParsedPoint) (points : List ParsedPoint) :
    (∀ p ∈ filterPoints distance stored seen prev points, ∀ id, p.clientPointId = some id →
        stored id = false ∧ id ∉ seen) ∧
      (filterPoints distance stored seen prev points).Pairwise (fun p q =>
        ∀ id, p.clientPointId = some id → q.clientPointId ≠ some id) := by
  induction points generalizing seen prev with
  | nil => simp [filterPoints]
  | cons p rest ih =>
    have later {prev : Option ParsedPoint} {q : ParsedPoint}
        (there : q ∈ filterPoints distance stored (noteSeen stored seen p) prev rest) {id : String}
        (own : q.clientPointId = some id) :
        stored id = false ∧ id ∉ seen ∧ p.clientPointId ≠ some id := by
      obtain ⟨fresh, unseen⟩ := (ih (noteSeen stored seen p) prev).1 q there id own
      have noted (known : id ∈ seen ∨ p.clientPointId = some id) : False := by
        rcases mem_noteSeen stored known with h | h <;> simp_all
      exact ⟨fresh, fun h => noted (Or.inl h), fun h => noted (Or.inr h)⟩
    rw [filterPoints]
    cases kept : rejectPoint distance stored seen prev p with
    | some why =>
      refine ⟨fun q there id own => ?_, (ih _ _).2⟩
      obtain ⟨fresh, unseen, _⟩ := later there own
      exact ⟨fresh, unseen⟩
    | none =>
      constructor
      · intro q there id own
        rcases List.mem_cons.mp there with rfl | there
        · exact rejectPoint_none kept own
        · obtain ⟨fresh, unseen, _⟩ := later there own
          exact ⟨fresh, unseen⟩
      · rw [List.pairwise_cons]
        exact ⟨fun q there id mine own => (later there own).2.2 mine, (ih _ _).2⟩

theorem insertPoints_fresh (data : List RoutePoint) (t : Track)
    (fresh : ∀ row ∈ data, t.hasPointId row.point.clientPointId = false)
    (distinct : data.Pairwise (fun row row' =>
      ∀ id, row.point.clientPointId = some id → row'.point.clientPointId ≠ some id)) :
    t.insertPoints data = { t with points := t.points ++ data } := by
  unfold Track.insertPoints
  induction data generalizing t with
  | nil => simp
  | cons row rest ih =>
    rw [List.pairwise_cons] at distinct
    rw [List.foldl_cons, fresh row List.mem_cons_self, if_neg Bool.false_ne_true, ih]
    · simp
    · intro other there
      have free := fresh other (List.mem_cons_of_mem _ there)
      cases own : other.point.clientPointId with
      | none => rfl
      | some id =>
        have unlike : row.point.clientPointId ≠ some id :=
          fun mine => distinct.1 other there id mine own
        simpa [Track.hasPointId, own, unlike] using free
    · exact distinct.2

end Kept

section Sound

theorem numberPoints_points (routeId existing : Nat) (kept : List ParsedPoint) :
    (numberPoints routeId existing kept).map (·.point) = kept := by
  simp [numberPoints, Function.comp_def]

theorem mem_numberPoints {existing : Nat} {row : RoutePoint}
    (here : row ∈ numberPoints routeId existing kept) :
    row.routeId = routeId ∧ row.point ∈ kept := by
  constructor
  · obtain ⟨entry, _, rfl⟩ := List.mem_map.mp here
    rfl
  · rw [← numberPoints_points routeId existing kept]
    exact List.mem_map_of_mem here

theorem sound_set {t : Track} {drawn : Nat} (rows : SoundRows t drawn) (routeId : Nat)
    {change : UserRoute → UserRoute} (keeps : ∀ route, (change route).id = route.id) :
    SoundRows (t.setRoute routeId change) drawn := by
  have ids (route : UserRoute) : (if route.id = routeId then change route else route).id = route.id := by
    split
    · exact keeps route
    · rfl
  constructor
  · simp only [Track.setRoute, List.map_map, Function.comp_def, ids]
    exact rows.unique
  · intro route there
    obtain ⟨old, known, rfl⟩ := List.mem_map.mp there
    rw [ids]
    exact rows.routes old known
  · exact rows.points

theorem sound_create {t : Track} {drawn : Nat} (rows : SoundRows t drawn) (startedAt : TrackTime) :
    SoundRows (applyTrackWrite (.create ⟨drawn, .active, startedAt, none⟩) t) (drawn + 1) := by
  have fresh : ∀ route ∈ t.routes, route.id ≠ drawn := fun route known =>
    Nat.ne_of_lt (rows.routes route known)
  refine ⟨?_, fun route there => ?_, fun stored there => ?_⟩
  · simpa [applyTrackWrite, List.nodup_append, rows.unique] using fresh
  · simp only [applyTrackWrite, List.mem_append, List.mem_singleton] at there
    rcases there with old | rfl
    · exact Nat.lt_succ_of_lt (rows.routes route old)
    · exact Nat.lt_succ_self drawn
  · exact Nat.lt_succ_of_lt (rows.points stored there)

theorem mem_insertPoints {t : Track} {row : RoutePoint}
    (here : row ∈ (t.insertPoints data).points) : row ∈ t.points ∨ row ∈ data := by
  unfold Track.insertPoints at here
  induction data generalizing t with
  | nil => exact Or.inl here
  | cons point rest ih =>
    rw [List.foldl_cons] at here
    split at here
    · rcases ih here with old | new
      · exact Or.inl old
      · exact Or.inr (List.mem_cons_of_mem _ new)
    · rcases ih here with old | new
      · rcases List.mem_append.mp old with old | first
        · exact Or.inl old
        · rw [List.mem_singleton.mp first]
          exact Or.inr List.mem_cons_self
      · exact Or.inr (List.mem_cons_of_mem _ new)

theorem sound_insert {t : Track} {drawn : Nat} (rows : SoundRows t drawn)
    (bound : ∀ row ∈ data, row.routeId < drawn) : SoundRows (t.insertPoints data) drawn := by
  refine ⟨?_, ?_, fun stored there => ?_⟩
  · rw [Track.insertPoints_routes]
    exact rows.unique
  · rw [Track.insertPoints_routes]
    exact rows.routes
  · rcases mem_insertPoints there with old | new
    · exact rows.points stored old
    · exact bound stored new

def KeepsRows (bound : Nat) (p : TrackProgram) : Prop :=
  ∀ t drawn, bound ≤ drawn → SoundRows t drawn →
    SoundRows (p.alone applyTrackWrite t drawn).1 (p.alone applyTrackWrite t drawn).2.1

variable {bound : Nat}

theorem keepsRows_done (answer : TrackAnswer) : KeepsRows bound (.done answer) :=
  fun _ _ _ rows => rows

theorem keepsRows_read {next : Track → TrackProgram} (after : ∀ t, KeepsRows bound (next t)) :
    KeepsRows bound (.read next) := fun t drawn drawn_all rows => after t t drawn drawn_all rows

theorem keepsRows_coverStart (routeId : Nat) (startedAt : TrackTime) {next : TrackProgram}
    (after : KeepsRows bound next) : KeepsRows bound (.write (.coverStart routeId startedAt) next) :=
  fun _ drawn drawn_all rows => after _ drawn drawn_all (sound_set rows routeId (fun _ => rfl))

theorem keepsRows_complete (routeId : Nat) (endedAt : TrackTime) {next : TrackProgram}
    (after : KeepsRows bound next) : KeepsRows bound (.write (.complete routeId endedAt) next) :=
  fun _ drawn drawn_all rows => after _ drawn drawn_all (sound_set rows routeId (fun _ => rfl))

theorem keepsRows_completeRoute (route : UserRoute) (endedAt : TrackTime) (createdPoints : Nat) :
    KeepsRows bound (completeRoute route endedAt createdPoints) :=
  keepsRows_complete _ _ (keepsRows_read fun _ => keepsRows_done _)

theorem keepsRows_endUpload (upload : TrackUpload) (endedAt : TrackTime) (createdPoints : Nat)
    (route : UserRoute) : KeepsRows bound (endUpload upload endedAt createdPoints route) := by
  unfold endUpload
  split
  · exact keepsRows_completeRoute _ _ _
  · exact keepsRows_done _

theorem route_id {t : Track} {route : UserRoute} (found : t.route routeId = some route) :
    route ∈ t.routes ∧ route.id = routeId := by
  refine ⟨List.mem_of_find?_eq_some found, ?_⟩
  have here := List.find?_some found
  simpa using here

theorem reread_id (t : Track) {known : UserRoute} (same : known.id = routeId) :
    ((t.route routeId).getD known).id = routeId := by
  cases found : t.route routeId with
  | none => exact same
  | some route => exact (route_id found).2

theorem keepsRows_ensure {route : UserRoute} {firstPointAt : TrackTime}
    {next : UserRoute → TrackProgram}
    (after : ∀ route', route'.id = route.id → KeepsRows bound (next route')) :
    KeepsRows bound (ensureRouteStartedAtCoversPoint route firstPointAt next) := by
  unfold ensureRouteStartedAtCoversPoint
  split
  · exact after route rfl
  · apply keepsRows_coverStart
    apply keepsRows_read
    exact fun t => after _ (reread_id t rfl)

theorem keepsRows_insertKept (upload : TrackUpload) (kept : List ParsedPoint) (endedAt : TrackTime)
    {route : UserRoute} (numbered : route.id < bound) :
    KeepsRows bound (insertKept upload kept endedAt route) := by
  apply keepsRows_read
  intro t
  apply keepsRows_read
  intro t' s drawn drawn_all rows
  apply keepsRows_endUpload upload endedAt _ route _ drawn drawn_all
  apply sound_insert rows
  intro row here
  rw [(mem_numberPoints here).1]
  exact Nat.lt_of_lt_of_le numbered drawn_all

theorem keepsRows_keep_some (distance : DistanceMeters) (upload : TrackUpload) {route : UserRoute}
    (numbered : route.id < bound) : KeepsRows bound (keepPoints distance upload (some route)) := by
  apply keepsRows_read
  intro t
  apply keepsRows_read
  intro t'
  apply keepsRows_read
  intro t''
  split
  · unfold uploadNothing
    dsimp only
    split
    · exact keepsRows_endUpload _ _ _ _
    · exact keepsRows_ensure fun _ _ => keepsRows_endUpload _ _ _ _
  · apply keepsRows_ensure
    intro route' same
    exact keepsRows_insertKept _ _ _ (same ▸ numbered)

theorem keepsRows_create {startedAt : Nat → TrackTime} {next : Nat → TrackProgram}
    (after : ∀ id, KeepsRows (id + 1) (next id)) : KeepsRows bound (.draw (fun id =>
      .write (.create ⟨id, .active, startedAt id, none⟩) (next id))) :=
  fun _ drawn _ rows => after drawn _ (drawn + 1) (Nat.le_refl _) (sound_create rows _)

theorem keepsRows_keep_none (distance : DistanceMeters) (upload : TrackUpload) :
    KeepsRows bound (keepPoints distance upload none) := by
  apply keepsRows_read
  intro t
  apply keepsRows_read
  intro t'
  apply keepsRows_read
  intro t''
  split
  · exact keepsRows_create fun _ => keepsRows_endUpload _ _ _ _
  · exact keepsRows_create fun id => keepsRows_insertKept _ _ _ (Nat.lt_succ_self id)

theorem namedRoute_mem {upload : TrackUpload} {t : Track} {route : UserRoute}
    (named : namedRoute upload t = some route) :
    route ∈ t.routes ∧ (route.status = .active ∨ upload.endRoute = true) := by
  obtain ⟨found, allowed⟩ := Option.filter_eq_some_iff.mp named
  obtain ⟨routeId, _, here⟩ := Option.bind_eq_some_iff.mp found
  simp only [Bool.or_eq_true, beq_iff_eq] at allowed
  exact ⟨(route_id here).1, allowed⟩

theorem request_rows (distance : DistanceMeters) (request : TrackRequest) {t : Track} {drawn : Nat}
    (rows : SoundRows t drawn) :
    SoundRows ((request.program distance).alone applyTrackWrite t drawn).1
      ((request.program distance).alone applyTrackWrite t drawn).2.1 := by
  cases request with
  | start now =>
    have keeps : KeepsRows 0 (startSession now) := by
      apply keepsRows_read
      intro t
      split
      · exact keepsRows_done _
      · exact keepsRows_create fun _ => keepsRows_done _
    exact keeps t drawn (Nat.zero_le _) rows
  | stop routeId now =>
    have keeps : KeepsRows 0 (stopSession routeId now) := by
      apply keepsRows_read
      intro t
      dsimp only
      split
      · exact keepsRows_done _
      · split
        · exact keepsRows_done _
        · apply keepsRows_read
          intro t'
          apply keepsRows_read
          intro t''
          split
          · exact keepsRows_completeRoute _ _ _
          · exact keepsRows_ensure fun _ _ => keepsRows_completeRoute _ _ _
    exact keeps t drawn (Nat.zero_le _) rows
  | upload upload =>
    simp only [TrackRequest.program, saveTrackingPoints, Program.alone]
    split
    · next route named =>
      have numbered := rows.routes route (namedRoute_mem named).1
      exact keepsRows_keep_some distance upload numbered t drawn (Nat.le_refl _) rows
    · simp only [Program.alone]
      split
      · exact keepsRows_keep_none distance upload t drawn (Nat.le_refl drawn) rows
      · next route active =>
        split
        · exact keepsRows_complete _ _ (keepsRows_keep_none distance upload) t drawn
            (Nat.le_refl drawn) rows
        · have numbered := rows.routes route (Track.activeRoute_mem active).1
          exact keepsRows_keep_some distance upload numbered t drawn (Nat.le_refl _) rows

end Sound

section Upload
variable {t : Track} {route : UserRoute}

theorem lastPoint_le {last : ParsedPoint} (found : t.lastPoint routeId = some last) :
    ∀ stored ∈ t.pointsOf routeId, stored.point.recordedAt ≤ last.recordedAt :=
  fun _ here => le_of_newestBy found _ (List.mem_map_of_mem here)

theorem lastPoint_none (found : t.lastPoint routeId = none) :
    t.pointsOf routeId = [] := by
  have empty := newestBy_eq_none.mp found
  simpa using empty

variable {first : ParsedPoint}

theorem firstPoint_mem (found : t.firstPoint routeId = some first) : ∃ stored ∈ t.pointsOf routeId,
      stored.point = first :=
  List.mem_map.mp (mem_of_newestBy found)

theorem clampRouteEndAt_eq (route : UserRoute) (candidate : TrackTime) :
    clampRouteEndAt route candidate = max route.startedAt candidate := by
  unfold clampRouteEndAt
  split
  · next before => exact (Int.max_eq_left (Int.le_of_lt before)).symm
  · next after => exact (Int.max_eq_right (Int.not_lt.mp after)).symm

theorem ensure_first (covers : CoversRoute t route) (found : t.firstPoint route.id = some first)
    (next : UserRoute → TrackProgram) :
    ensureRouteStartedAtCoversPoint route first.recordedAt next = next route := by
  obtain ⟨stored, here, rfl⟩ := firstPoint_mem found
  exact if_pos (covers.starts stored here)

theorem ensure_alone {drawn : Nat} (rows : SoundRows t drawn) (known : route ∈ t.routes)
    (now : Covered t) (firstPointAt : TrackTime) (next : UserRoute → TrackProgram) :
    ∃ t' route', (ensureRouteStartedAtCoversPoint route firstPointAt next).alone applyTrackWrite t
        drawn = (next route').alone applyTrackWrite t' drawn ∧
      t'.points = t.points ∧ SoundRows t' drawn ∧ Covered t' ∧ route' ∈ t'.routes ∧
      route' = { route with startedAt := min route.startedAt firstPointAt } := by
  by_cases covers : route.startedAt ≤ firstPointAt
  · refine ⟨t, route, ?_, rfl, rows, now, known, ?_⟩
    · rw [ensureRouteStartedAtCoversPoint, if_pos covers]
    · rw [Int.min_eq_left covers]
  · have earlier : firstPointAt ≤ route.startedAt := Int.le_of_lt (Int.not_le.mp covers)
    have here := (mem_setRoute rows.unique known
      (fun route => { route with startedAt := firstPointAt })).mpr (Or.inl rfl)
    have sound : SoundRows (t.setRoute route.id (fun route =>
        { route with startedAt := firstPointAt })) drawn := sound_set rows route.id (fun _ => rfl)
    have reread : (t.setRoute route.id (fun route =>
        { route with startedAt := firstPointAt })).route route.id =
          some { route with startedAt := firstPointAt } := by
      cases found : (t.setRoute route.id (fun route =>
        { route with startedAt := firstPointAt })).route route.id with
      | none =>
        have missing := List.find?_eq_none.mp found _ here
        simp at missing
      | some other =>
        obtain ⟨there, same⟩ := route_id found
        rw [route_unique sound.unique there here same]
    refine ⟨t.setRoute route.id (fun route => { route with startedAt := firstPointAt }), _, ?_, rfl,
      sound, covered_coverStart rows.unique known now earlier, here, ?_⟩
    · simp only [ensureRouteStartedAtCoversPoint, if_neg covers, Program.alone, applyTrackWrite,
        reread, Option.getD_some]
    · rw [Int.min_eq_right earlier]

theorem completeRoute_covered_iff {drawn : Nat} (rows : SoundRows t drawn) (known : route ∈ t.routes)
    (active : route.status = .active) (endedAt : TrackTime) (createdPoints : Nat) :
    Covered ((completeRoute route endedAt createdPoints).alone applyTrackWrite t drawn).1 ↔
      Covered t ∧ ∀ stored ∈ t.pointsOf route.id,
        stored.point.recordedAt ≤ max route.startedAt endedAt := by
  simp only [completeRoute, Program.alone, clampRouteEndAt_eq]
  exact covered_complete_iff rows.unique known active (Int.le_max_left _ _)

variable (upload : TrackUpload)

theorem endUpload_covered_iff {drawn : Nat} (rows : SoundRows t drawn) (known : route ∈ t.routes)
    (endedAt : TrackTime) (createdPoints : Nat) :
    Covered ((endUpload upload endedAt createdPoints route).alone applyTrackWrite t drawn).1 ↔
      Covered t ∧ (upload.endRoute = true ∧ route.status = .active →
        ∀ stored ∈ t.pointsOf route.id,
          stored.point.recordedAt ≤ max route.startedAt endedAt) := by
  by_cases ends : upload.endRoute = true ∧ route.status = .active
  · rw [endUpload, if_pos (by simp [ends]), completeRoute_covered_iff rows known ends.2]
    simp [ends]
  · rw [endUpload, if_neg (by simpa using ends)]
    simp [ends, Program.alone]

theorem insert_kept {distance : DistanceMeters} {prev : Option ParsedPoint}
    {points : List ParsedPoint} {saved : Track} (same : t.points = saved.points)
    (filtered : filterPoints distance (fun id => saved.hasPointId (some id)) [] prev points = kept)
    (routeId existing : Nat) : t.insertPoints (numberPoints routeId existing kept) =
      { t with points := t.points ++ numberPoints routeId existing kept } := by
  subst filtered
  obtain ⟨fresh, distinct⟩ := filterPoints_fresh distance
    (fun id => saved.hasPointId (some id)) [] prev points
  apply insertPoints_fresh
  · intro row here
    have kept := (mem_numberPoints here).2
    cases own : row.point.clientPointId with
    | none => rfl
    | some id =>
      have unknown := (fresh row.point kept id own).1
      rw [Track.hasPointId] at unknown ⊢
      rw [same]
      exact unknown
  · rw [← numberPoints_points routeId existing
      (filterPoints distance (fun id => saved.hasPointId (some id)) [] prev points),
      List.pairwise_map] at distinct
    exact distinct

theorem insertKept_covered_iff {drawn : Nat} (rows : SoundRows t drawn) (known : route ∈ t.routes)
    (insert : ∀ existing,
      t.insertPoints (numberPoints route.id existing kept) =
        { t with points := t.points ++ numberPoints route.id existing kept })
    (after : ∀ p ∈ kept, route.startedAt ≤ p.recordedAt) {endedAt : TrackTime}
    (before : ∀ p ∈ kept, p.recordedAt ≤ endedAt) :
    Covered ((insertKept upload kept endedAt route).alone applyTrackWrite t drawn).1 ↔
      Covered t ∧ (route.status = .completed → ∀ p ∈ kept, ∀ endedAt ∈ route.endedAt,
          p.recordedAt ≤ endedAt) ∧
        (upload.endRoute = true ∧ route.status = .active → ∀ stored ∈ t.pointsOf route.id,
          stored.point.recordedAt ≤ max route.startedAt endedAt) := by
  let data := numberPoints route.id (t.pointsOf route.id).length kept
  have on_route : ∀ row ∈ data, row.routeId = route.id := fun row here => (mem_numberPoints here).1
  have new : ∀ row ∈ data, row.point ∈ kept := fun row here => (mem_numberPoints here).2
  have listed (holds : TrackTime → Prop) :
      (∀ row ∈ data, holds row.point.recordedAt) ↔ ∀ p ∈ kept, holds p.recordedAt := by
    rw [← numberPoints_points route.id (t.pointsOf route.id).length kept]
    simp [data]
  have sound : SoundRows (t.insertPoints data) drawn := by
    apply sound_insert rows
    intro row here
    rw [on_route row here]
    exact rows.routes route known
  have points : Track.pointsOf { t with points := t.points ++ data } route.id =
      t.pointsOf route.id ++ data := by
    rw [Track.pointsOf, List.filter_append, ← Track.pointsOf, List.append_cancel_left_eq,
      List.filter_eq_self]
    intro row here
    simpa using on_route row here
  have inserted : t.insertPoints data = { t with points := t.points ++ data } := insert _
  simp only [insertKept, Program.alone, applyTrackWrite]
  rw [endUpload_covered_iff upload sound (by simpa using known), inserted, points,
    covered_append_iff rows.unique known on_route
      (fun row here => after row.point (new row here)), and_assoc]
  refine and_congr Iff.rfl (and_congr ?_ ?_)
  · exact imp_congr Iff.rfl (listed (fun time => ∀ endedAt ∈ route.endedAt, time ≤ endedAt))
  · refine imp_congr Iff.rfl ⟨fun all stored here => all stored (List.mem_append_left _ here), ?_⟩
    intro saved stored here
    rcases List.mem_append.mp here with old | recent
    · exact saved stored old
    · exact Int.le_trans (before _ (new stored recent)) (Int.le_max_right _ _)

theorem foldl_min_le (rest : List ParsedPoint) (time : TrackTime) :
    rest.foldl (fun time p => min time p.recordedAt) time ≤ time ∧
      ∀ p ∈ rest, rest.foldl (fun time p => min time p.recordedAt) time ≤ p.recordedAt := by
  induction rest generalizing time with
  | nil => simp
  | cons p rest ih =>
    obtain ⟨least, all⟩ := ih (min time p.recordedAt)
    rw [List.foldl_cons, List.forall_mem_cons]
    exact ⟨Int.le_trans least (Int.min_le_left _ _), Int.le_trans least (Int.min_le_right _ _), all⟩

theorem foldl_max_spec (rest : List ParsedPoint) (time : TrackTime) :
    time ≤ rest.foldl (fun time p => max time p.recordedAt) time ∧
      (∀ p ∈ rest, p.recordedAt ≤ rest.foldl (fun time p => max time p.recordedAt) time) ∧
      (rest.foldl (fun time p => max time p.recordedAt) time = time ∨
        ∃ p ∈ rest, rest.foldl (fun time p => max time p.recordedAt) time = p.recordedAt) := by
  induction rest generalizing time with
  | nil => simp
  | cons p rest ih =>
    obtain ⟨greatest, all, met⟩ := ih (max time p.recordedAt)
    rw [List.foldl_cons, List.forall_mem_cons]
    refine ⟨Int.le_trans (Int.le_max_left _ _) greatest,
      ⟨Int.le_trans (Int.le_max_right _ _) greatest, all⟩, ?_⟩
    rcases met with start | ⟨q, here, same⟩
    · rw [start]
      rcases Int.le_total time p.recordedAt with le | le
      · exact Or.inr ⟨p, List.mem_cons_self, Int.max_eq_right le⟩
      · exact Or.inl (Int.max_eq_left le)
    · exact Or.inr ⟨q, List.mem_cons_of_mem _ here, same⟩

theorem minTs_le (first : ParsedPoint) (rest : List ParsedPoint) : ∀ p ∈ first :: rest,
    rest.foldl (fun time p => min time p.recordedAt) first.recordedAt ≤ p.recordedAt :=
  List.forall_mem_cons.mpr (foldl_min_le rest first.recordedAt)

theorem le_maxTs (first : ParsedPoint) (rest : List ParsedPoint) : ∀ p ∈ first :: rest,
    p.recordedAt ≤ rest.foldl (fun time p => max time p.recordedAt) first.recordedAt := by
  obtain ⟨greatest, all, _⟩ := foldl_max_spec rest first.recordedAt
  exact List.forall_mem_cons.mpr ⟨greatest, all⟩

theorem le_maxTs_iff (first : ParsedPoint) (rest : List ParsedPoint) (time : TrackTime) :
    time ≤ rest.foldl (fun time p => max time p.recordedAt) first.recordedAt ↔
      ∃ p ∈ first :: rest, time ≤ p.recordedAt := by
  constructor
  · intro le
    rcases (foldl_max_spec rest first.recordedAt).2.2 with same | ⟨p, here, same⟩
    · exact ⟨first, List.mem_cons_self, by rwa [← same]⟩
    · exact ⟨p, List.mem_cons_of_mem _ here, by rwa [← same]⟩
  · rintro ⟨p, here, le⟩
    exact Int.le_trans le (le_maxTs first rest p here)

theorem keep_none_covered_iff (distance : DistanceMeters) {drawn : Nat} (rows : SoundRows t drawn) :
    Covered ((keepPoints distance upload none).alone applyTrackWrite t drawn).1 ↔ Covered t := by
  have made (startedAt : TrackTime) : ⟨drawn, .active, startedAt, none⟩ ∈
      (applyTrackWrite (.create ⟨drawn, .active, startedAt, none⟩) t).routes := by
    simp [applyTrackWrite]
  have empty (startedAt : TrackTime) : Track.pointsOf
      (applyTrackWrite (.create ⟨drawn, .active, startedAt, none⟩) t) drawn = [] := by
    rw [Track.pointsOf, List.filter_eq_nil_iff]
    intro row here
    have bound := rows.points row here
    simp
    omega
  simp only [keepPoints, Program.alone]
  split
  · simp only [uploadNothing, Program.alone]
    rw [endUpload_covered_iff upload (sound_create rows _) (made _), covered_create_iff rows, empty]
    simp
  · next first rest filtered =>
    simp only [uploadKept, Program.alone]
    rw [insertKept_covered_iff upload (sound_create rows _) (made _)
      (fun existing => insert_kept (t := applyTrackWrite (.create _) t) rfl filtered drawn existing)
      (minTs_le first rest) (le_maxTs first rest),
      covered_create_iff rows, empty]
    simp

structure KeepsCovered (distance : DistanceMeters) (t : Track) (route : UserRoute) : Prop where
  saved : upload.endRoute = true → route.status = .active → ∀ stored ∈ t.pointsOf route.id,
    match filterPoints distance (fun id => t.hasPointId (some id)) [] (t.lastPoint route.id)
      upload.points with
    | [] => stored.point.recordedAt ≤ max route.startedAt upload.last.recordedAt
    | kept => ∃ p ∈ kept, stored.point.recordedAt ≤ p.recordedAt
  kept : route.status = .completed → ∀ p ∈ filterPoints distance
    (fun id => t.hasPointId (some id)) [] (t.lastPoint route.id) upload.points,
      ∀ endedAt ∈ route.endedAt, p.recordedAt ≤ endedAt

theorem uploadNothing_covered_iff {distance : DistanceMeters} {drawn : Nat}
    (rows : SoundRows t drawn) (known : route ∈ t.routes) (now : Covered t)
    (filtered : filterPoints distance (fun id => t.hasPointId (some id)) []
      (t.lastPoint route.id) upload.points = []) :
    Covered ((uploadNothing upload (some route) (t.firstPoint route.id)).alone applyTrackWrite t
      drawn).1 ↔ KeepsCovered upload distance t route := by
  have ended : uploadNothing upload (some route) (t.firstPoint route.id) =
      endUpload upload upload.last.recordedAt 0 route := by
    cases found : t.firstPoint route.id with
    | none => rfl
    | some first => exact ensure_first (now route known) found _
  rw [ended, endUpload_covered_iff upload rows known]
  constructor
  · rintro ⟨_, ends⟩
    refine ⟨fun ending active stored here => ?_, fun _ p here => ?_⟩
    · rw [filtered]
      exact ends ⟨ending, active⟩ stored here
    · rw [filtered] at here
      cases here
  · intro keeps
    refine ⟨now, fun ending stored here => ?_⟩
    have within := keeps.saved ending.1 ending.2 stored here
    rw [filtered] at within
    exact within

theorem ensured_covered_iff {distance : DistanceMeters} {drawn : Nat} (rows : SoundRows t drawn)
    (known : route ∈ t.routes) (now : Covered t) {rest : List ParsedPoint}
    (filtered : filterPoints distance (fun id => t.hasPointId (some id)) []
      (t.lastPoint route.id) upload.points = first :: rest) {firstPointAt : TrackTime}
    (earlier : ∀ p ∈ first :: rest, firstPointAt ≤ p.recordedAt) :
    Covered ((ensureRouteStartedAtCoversPoint route firstPointAt (insertKept upload (first :: rest)
      (rest.foldl (fun time p => max time p.recordedAt) first.recordedAt))).alone applyTrackWrite t
        drawn).1 ↔ KeepsCovered upload distance t route := by
  obtain ⟨t', route', alone, points, rows', now', known', moved⟩ := ensure_alone rows known now
    firstPointAt (insertKept upload (first :: rest)
      (rest.foldl (fun time p => max time p.recordedAt) first.recordedAt))
  have after : ∀ p ∈ first :: rest, route'.startedAt ≤ p.recordedAt := by
    intro p here
    rw [moved]
    exact Int.le_trans (Int.min_le_right _ _) (earlier p here)
  have same : route'.id = route.id ∧ route'.status = route.status ∧
      route'.endedAt = route.endedAt := by
    rw [moved]
    exact ⟨rfl, rfl, rfl⟩
  have later : max route'.startedAt (rest.foldl (fun time p => max time p.recordedAt)
      first.recordedAt) = rest.foldl (fun time p => max time p.recordedAt) first.recordedAt :=
    Int.max_eq_right (Int.le_trans (after first List.mem_cons_self)
      (le_maxTs first rest first List.mem_cons_self))
  have saved : t'.pointsOf route'.id = t.pointsOf route.id := by
    rw [Track.pointsOf, points, same.1, Track.pointsOf]
  rw [alone, insertKept_covered_iff upload rows' known' (insert_kept points filtered route'.id)
    after (le_maxTs first rest), saved, later, same.2.1, same.2.2]
  simp only [le_maxTs_iff]
  constructor
  · rintro ⟨_, kept, ends⟩
    refine ⟨fun ending active stored here => ?_, fun completed => ?_⟩
    · rw [filtered]
      exact ends ⟨ending, active⟩ stored here
    · rw [filtered]
      exact kept completed
  · intro keeps
    have kept := keeps.kept
    rw [filtered] at kept
    refine ⟨now', kept, fun ending stored here => ?_⟩
    have within := keeps.saved ending.1 ending.2 stored here
    rw [filtered] at within
    exact within

theorem keep_some_covered_iff (distance : DistanceMeters) {drawn : Nat} (rows : SoundRows t drawn)
    (known : route ∈ t.routes) (now : Covered t) :
    Covered ((keepPoints distance upload (some route)).alone applyTrackWrite t drawn).1 ↔
      KeepsCovered upload distance t route := by
  simp only [keepPoints, Program.alone, Option.bind_some]
  split
  · next filtered => exact uploadNothing_covered_iff upload rows known now filtered
  · next first rest filtered =>
    apply ensured_covered_iff upload rows known now filtered
    intro p here
    refine Int.le_trans ?_ (minTs_le first rest p here)
    split
    · split
      · next earlier => exact Int.le_of_lt earlier
      · exact Int.le_refl _
    · exact Int.le_refl _

end Upload

section Runs
variable (distance : DistanceMeters)

def requestStep (s : Track × Nat) (request : TrackRequest) : Track × Nat :=
  let after := (request.program distance).alone applyTrackWrite s.1 s.2
  (after.1, after.2.1)

/-- What an upload must respect of the points that are saved already. -/
def UploadCovers (upload : TrackUpload) (t : Track) : Prop :=
  match namedRoute upload t, t.activeRoute with
  | some route, _ => KeepsCovered upload distance t route
  | none, none => True
  | none, some route =>
    if upload.startNewRoute then
      ∀ stored ∈ t.pointsOf route.id,
        stored.point.recordedAt ≤ max route.startedAt upload.first.recordedAt
    else KeepsCovered upload distance t route

def RequestCovers (s : Track × Nat) : TrackRequest → Prop
  | .upload upload => UploadCovers distance upload s.1
  | _ => True

variable {distance} {t : Track} {drawn : Nat}

theorem start_covered (rows : SoundRows t drawn) (now : Covered t) (time : TrackTime) :
    Covered ((startSession time).alone applyTrackWrite t drawn).1 := by
  simp only [startSession, Program.alone]
  split
  · exact now
  · exact (covered_create_iff rows time).mpr now

theorem stop_covered (rows : SoundRows t drawn) (now : Covered t) (routeId : Option Nat)
    (time : TrackTime) : Covered ((stopSession routeId time).alone applyTrackWrite t drawn).1 := by
  simp only [stopSession, Program.alone]
  split
  · exact now
  · next route found =>
    have known : route ∈ t.routes := by
      cases routeId with
      | none => exact (Track.activeRoute_mem found).1
      | some routeId => exact (route_id found).1
    split
    · exact now
    · next active =>
      have ended : Covered ((completeRoute route
          (((t.lastPoint route.id).map (·.recordedAt)).getD time) 0).alone applyTrackWrite t
            drawn).1 := by
        rw [completeRoute_covered_iff rows known (not_not.mp active)]
        refine ⟨now, fun stored here => ?_⟩
        refine Int.le_trans ?_ (Int.le_max_right _ _)
        cases last : t.lastPoint route.id with
        | none =>
          rw [lastPoint_none last] at here
          cases here
        | some last' => exact lastPoint_le last stored here
      simp only [Program.alone]
      split
      · exact ended
      · next first found =>
        rw [ensure_first (now route known) found]
        exact ended

theorem upload_covered_iff (rows : SoundRows t drawn) (now : Covered t) (upload : TrackUpload) :
    Covered ((saveTrackingPoints distance upload).alone applyTrackWrite t drawn).1 ↔
      UploadCovers distance upload t := by
  simp only [saveTrackingPoints, Program.alone, UploadCovers]
  cases named : namedRoute upload t with
  | some route => exact keep_some_covered_iff upload distance rows (namedRoute_mem named).1 now
  | none =>
    simp only [Program.alone]
    cases found : t.activeRoute with
    | none => exact iff_of_true ((keep_none_covered_iff upload distance rows).mpr now) True.intro
    | some route =>
      obtain ⟨known, active⟩ := Track.activeRoute_mem found
      dsimp only
      split
      · have sound : SoundRows (applyTrackWrite (.complete route.id
            (clampRouteEndAt route upload.first.recordedAt)) t) drawn :=
          sound_set rows route.id (fun _ => rfl)
        rw [Program.alone, keep_none_covered_iff upload distance sound, clampRouteEndAt_eq,
          covered_complete_iff rows.unique known active (Int.le_max_left _ _)]
        exact and_iff_right now
      · exact keep_some_covered_iff upload distance rows known now

theorem request_covered_iff (s : Track × Nat) (request : TrackRequest)
    (rows : SoundRows s.1 s.2) (now : Covered s.1) :
    Covered (requestStep distance s request).1 ↔ RequestCovers distance s request := by
  cases request with
  | start time => exact iff_of_true (start_covered rows now time) True.intro
  | stop routeId time => exact iff_of_true (stop_covered rows now routeId time) True.intro
  | upload upload => exact upload_covered_iff rows now upload

/-- From covered routes, all stay covered exactly when every upload keeps to the points that are
saved: an end is not before them, and a closed route gets no later ones. -/
theorem routes_covered_iff (distance : DistanceMeters)
    (start : { s : Track × Nat // SoundRows s.1 s.2 ∧ Covered s.1 })
    (requests : List TrackRequest) :
    Always (requestStep distance) (fun s => Covered s.1) start.1 requests ↔
      EachStep (requestStep distance) (RequestCovers distance) start.1 requests :=
  always_iff_eachStep_of_inv (J := fun s : Track × Nat => SoundRows s.1 s.2)
    (fun _ request rows => request_rows distance request rows) request_covered_iff start.2.1
    start.2.2 requests

def lateDrive : List TrackRequest :=
  [.upload ⟨stepAlong "a" 0 0, [stepAlong "c" (1 / 50) 120000], none, false, false⟩,
    .upload ⟨stepAlong "b" (1 / 100) 60000, [], none, false, true⟩]

theorem late_end_uncovered : ¬ ∀ (distance : DistanceMeters) (requests : List TrackRequest),
    Always (requestStep distance) (fun s => Covered s.1) (⟨[], []⟩, 1) requests := by
  intro always
  have last := (always onMeridian lateDrive).last
  have covers := last ⟨1, .completed, 0, some 60000⟩ (by decide +kernel)
  obtain ⟨endedAt, ended, _, ends⟩ := covers.ends rfl
  cases ended
  exact absurd (ends ⟨1, 2, stepAlong "c" (1 / 50) 120000⟩ (by decide +kernel)) (by decide)

end Runs

end LeaderProduct
