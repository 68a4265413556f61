import Mathlib.Algebra.Order.Field.Rat
import Mathlib.Data.Prod.Lex
import Mathlib.Tactic.LinearCombination
import LeaderProduct.KeyedTotals
import LeaderProduct.NeighbourSums
import LeaderProduct.RouteInterval

/-! The statistics of a user's routes: one route at a time, and day by day. -/
namespace LeaderProduct
open RowTable NeighbourSums

section Days

def pad (width n : Nat) : String := "".pushn '0' (width - (toString n).length) ++ toString n

def civilDay (days : Int) : Int × Nat × Nat :=
  let shifted := days + 719468
  let era := shifted / 146097
  let dayOfEra := (shifted % 146097).toNat
  let yearOfEra := (dayOfEra - dayOfEra / 1460 + dayOfEra / 36524 - dayOfEra / 146096) / 365
  let dayOfYear := dayOfEra - (365 * yearOfEra + yearOfEra / 4 - yearOfEra / 100)
  let shiftedMonth := (5 * dayOfYear + 2) / 153
  let month := if shiftedMonth < 10 then shiftedMonth + 3 else shiftedMonth - 9
  (yearOfEra + era * 400 + if month ≤ 2 then 1 else 0, month,
    dayOfYear - (153 * shiftedMonth + 2) / 5 + 1)

def dayKey (time : TrackTime) : String :=
  let (year, month, day) := civilDay (time / 86400000)
  if 0 ≤ year ∧ year ≤ 9999 then
    pad 4 year.toNat ++ "-" ++ pad 2 month ++ "-" ++ pad 2 day
  else (if year < 0 then "-" else "+") ++ pad 6 year.natAbs ++ "-" ++ pad 2 month

example : dayKey 1709251199999 = "2024-02-29" := by decide +kernel

end Days

variable {now : TrackTime} {fromDate toDate : Option TrackTime} {prev curr : RoutePoint}

section Model
variable {R : Type} [Field R] [LinearOrder R]

/-- `haversineDistanceMeters` is any function here; the arithmetic is exact. -/
abbrev ExactDistance (R : Type) := Position → Position → R

variable (distance : ExactDistance R)

def dtSeconds (prev curr : ParsedPoint) : R := ((curr.recordedAt - prev.recordedAt : Int) : R) / 1000

def bothStopped (prev curr : ParsedPoint) : Bool :=
  prev.eventType == .stop && curr.eventType == .stop

structure RouteTotals (R : Type) where
  totalDistanceMeters : R
  movingDurationSeconds : R
  stoppedDurationSeconds : R
  maxSpeed : R

def RouteTotals.add (totals : RouteTotals R) (prev curr : ParsedPoint) : RouteTotals R :=
  if curr.recordedAt ≤ prev.recordedAt then totals
  else
    let dt := dtSeconds prev curr
    let dist := distance prev.position curr.position
    { totalDistanceMeters := totals.totalDistanceMeters + dist
      movingDurationSeconds :=
        if bothStopped prev curr then totals.movingDurationSeconds
        else totals.movingDurationSeconds + dt
      stoppedDurationSeconds :=
        if bothStopped prev curr then totals.stoppedDurationSeconds + dt
        else totals.stoppedDurationSeconds
      maxSpeed := if totals.maxSpeed < dist / dt then dist / dt else totals.maxSpeed }

def routeLoop (totals : RouteTotals R) (prev : ParsedPoint) : List ParsedPoint → RouteTotals R
  | [] => totals
  | curr :: rest => routeLoop (totals.add distance prev curr) curr rest

structure RouteSummary (R : Type) where
  route : UserRoute
  totalDistanceMeters : R
  movingDurationSeconds : R
  stoppedDurationSeconds : R
  maxSpeedMetersPerSecond : Option R
  averageSpeedMetersPerSecond : Option R
  pointsCount : Nat
  stopsCount : Nat

def summarize (route : UserRoute) (points : List ParsedPoint) : RouteSummary R :=
  let stopsCount := points.countP (fun p => p.eventType == .stop)
  match points with
  | [] => ⟨route, 0, 0, 0, none, none, 0, stopsCount⟩
  | [_] => ⟨route, 0, 0, 0, none, none, 1, stopsCount⟩
  | first :: rest =>
    let totals := routeLoop distance ⟨0, 0, 0, 0⟩ first rest
    let totalDurationSeconds := totals.movingDurationSeconds + totals.stoppedDurationSeconds
    { route := route
      totalDistanceMeters := totals.totalDistanceMeters
      movingDurationSeconds := totals.movingDurationSeconds
      stoppedDurationSeconds := totals.stoppedDurationSeconds
      maxSpeedMetersPerSecond := if totals.maxSpeed = 0 then none else some totals.maxSpeed
      averageSpeedMetersPerSecond :=
        if 0 < totalDurationSeconds then some (totals.totalDistanceMeters / totalDurationSeconds)
        else none
      pointsCount := points.length
      stopsCount := stopsCount }

/-- What `orderBy: recordedAt` may answer for a route. -/
abbrev Track.TimedPoints (t : Track) (routeId : Nat) :=
  Ordered (fun a b : RoutePoint => a.point.recordedAt ≤ b.point.recordedAt) (t.pointsOf routeId)

/-- `GET /routes/:routeId/summary`; `none` where the route is not found. -/
def routeSummary {t : Track} {routeId : Nat} (points : t.TimedPoints routeId) :
    Option (RouteSummary R) :=
  (t.route routeId).map (fun route => summarize distance route (points.rows.map (·.point)))

structure DayAgg (R : Type) where
  date : String
  totalDistanceMeters : R
  movingDurationSeconds : R
  stoppedDurationSeconds : R
  routeIds : List Nat

def DayAgg.new (date : String) : DayAgg R := ⟨date, 0, 0, 0, []⟩

def DayAgg.add (agg : DayAgg R) (prev curr : RoutePoint) : DayAgg R :=
  let dt := dtSeconds prev.point curr.point
  { agg with
    totalDistanceMeters :=
      agg.totalDistanceMeters + distance prev.point.position curr.point.position
    movingDurationSeconds :=
      if bothStopped prev.point curr.point then agg.movingDurationSeconds
      else agg.movingDurationSeconds + dt
    stoppedDurationSeconds :=
      if bothStopped prev.point curr.point then agg.stoppedDurationSeconds + dt
      else agg.stoppedDurationSeconds
    routeIds :=
      if prev.routeId ∈ agg.routeIds then agg.routeIds else agg.routeIds ++ [prev.routeId] }

def addToDay (byDay : List (DayAgg R)) (prev curr : RoutePoint) : List (DayAgg R) :=
  if prev.routeId ≠ curr.routeId then byDay
  else if curr.point.recordedAt ≤ prev.point.recordedAt then byDay
  else
    let date := dayKey prev.point.recordedAt
    upsert DayAgg.date byDay date (fun agg =>
      { (agg.getD (.new date)).add distance prev curr with date := date })

def dayLoop (byDay : List (DayAgg R)) : List RoutePoint → List (DayAgg R)
  | [] => byDay
  | prev :: rest =>
    match rest with
    | [] => byDay
    | curr :: _ => dayLoop (addToDay distance byDay prev curr) rest

structure DayStats (R : Type) where
  date : String
  totalDistanceMeters : R
  movingDurationSeconds : R
  stoppedDurationSeconds : R
  routesCount : Nat

def DayAgg.stats (agg : DayAgg R) : DayStats R :=
  ⟨agg.date, agg.totalDistanceMeters, agg.movingDurationSeconds, agg.stoppedDurationSeconds,
    agg.routeIds.length⟩

def weekMs : Int := 7 * 24 * 60 * 60 * 1000

def statsPeriod (now : TrackTime) : Option TrackTime → Option TrackTime → TrackTime × TrackTime
  | none, none => (now - weekMs, now)
  | none, some toDate => (toDate - weekMs, toDate)
  | some fromDate, none => (fromDate, now)
  | some fromDate, some toDate => (fromDate, toDate)

def inPeriod (period : TrackTime × TrackTime) (row : RoutePoint) : Bool :=
  decide (period.1 ≤ row.point.recordedAt) && decide (row.point.recordedAt ≤ period.2)

def byRouteAndTime (a b : RoutePoint) : Prop :=
  a.routeId < b.routeId ∨ a.routeId = b.routeId ∧ a.point.recordedAt ≤ b.point.recordedAt

instance : DecidableRel byRouteAndTime := fun _ _ => inferInstanceAs (Decidable (_ ∨ _))

abbrev Track.PeriodPoints (t : Track) (period : TrackTime × TrackTime) :=
  Ordered byRouteAndTime (t.points.filter (inPeriod period))

/-- `GET /stats/daily`, for the points that its query answers with. -/
def dailyStats {t : Track} (points : t.PeriodPoints (statsPeriod now fromDate toDate)) :
    List (DayStats R) :=
  ((dayLoop distance [] points.rows).insertionSort (fun a b => a.date ≤ b.date)).map DayAgg.stats

end Model

section Measures

inductive TrackMeasure where
  | distance | moving | stopped

variable {R : Type} [Field R]

def RouteTotals.measure (totals : RouteTotals R) : TrackMeasure → R
  | .distance => totals.totalDistanceMeters
  | .moving => totals.movingDurationSeconds
  | .stopped => totals.stoppedDurationSeconds

def RouteSummary.measure (summary : RouteSummary R) : TrackMeasure → R
  | .distance => summary.totalDistanceMeters
  | .moving => summary.movingDurationSeconds
  | .stopped => summary.stoppedDurationSeconds

def DayAgg.measure (agg : DayAgg R) : TrackMeasure → R
  | .distance => agg.totalDistanceMeters
  | .moving => agg.movingDurationSeconds
  | .stopped => agg.stoppedDurationSeconds

def DayStats.measure (stats : DayStats R) : TrackMeasure → R
  | .distance => stats.totalDistanceMeters
  | .moving => stats.movingDurationSeconds
  | .stopped => stats.stoppedDurationSeconds

variable (distance : ExactDistance R)

def segment (measure : TrackMeasure) (prev curr : ParsedPoint) : R :=
  if curr.recordedAt ≤ prev.recordedAt then 0
  else
    match measure with
    | .distance => distance prev.position curr.position
    | .moving => if bothStopped prev curr then 0 else dtSeconds prev curr
    | .stopped => if bothStopped prev curr then dtSeconds prev curr else 0

variable {distance} (measure : TrackMeasure)

theorem segment_still {prev curr : ParsedPoint} (still : curr.recordedAt ≤ prev.recordedAt) :
    segment distance measure prev curr = 0 := if_pos still

theorem measure_day_add (agg : DayAgg R) (later : ¬ curr.point.recordedAt ≤ prev.point.recordedAt) :
    (agg.add distance prev curr).measure measure =
      agg.measure measure + segment distance measure prev.point curr.point := by
  unfold DayAgg.add segment
  rw [if_neg later]
  cases measure with
  | distance => rfl
  | moving =>
    by_cases stopped : bothStopped prev.point curr.point <;> simp [DayAgg.measure, stopped]
  | stopped =>
    by_cases stopped : bothStopped prev.point curr.point <;> simp [DayAgg.measure, stopped]

variable [LinearOrder R]

theorem measure_route_add (totals : RouteTotals R) (prev curr : ParsedPoint) :
    (totals.add distance prev curr).measure measure =
      totals.measure measure + segment distance measure prev curr := by
  unfold RouteTotals.add segment
  by_cases still : curr.recordedAt ≤ prev.recordedAt
  · simp [still]
  · rw [if_neg still, if_neg still]
    cases measure with
    | distance => rfl
    | moving => by_cases stopped : bothStopped prev curr <;> simp [RouteTotals.measure, stopped]
    | stopped => by_cases stopped : bothStopped prev curr <;> simp [RouteTotals.measure, stopped]

theorem measure_routeLoop (totals : RouteTotals R) (prev : ParsedPoint) (rest : List ParsedPoint) :
    (routeLoop distance totals prev rest).measure measure =
      totals.measure measure + neighbourSum (segment distance measure) (prev :: rest) := by
  induction rest generalizing totals prev with
  | nil => simp [routeLoop, neighbourSum]
  | cons curr rest ih =>
    rw [routeLoop, ih, measure_route_add]
    simp only [neighbourSum, List.head?_cons, Option.elim_some, add_assoc]

theorem measure_summarize (route : UserRoute) (points : List ParsedPoint) :
    (summarize distance route points).measure measure =
      neighbourSum (segment distance measure) points := by
  cases points with
  | nil => cases measure <;> rfl
  | cons first rest =>
    cases rest with
    | nil => cases measure <;> simp [summarize, RouteSummary.measure, neighbourSum]
    | cons second rest =>
      have loop : (routeLoop distance ⟨0, 0, 0, 0⟩ first (second :: rest)).measure measure = _ :=
        measure_routeLoop measure _ first (second :: rest)
      have start : (⟨0, 0, 0, 0⟩ : RouteTotals R).measure measure = 0 := by cases measure <;> rfl
      rw [start, zero_add] at loop
      rw [← loop]
      cases measure <;> rfl

end Measures

section Days
variable {R : Type} [Field R] (distance : ExactDistance R) (measure : TrackMeasure)
  (P : String → Bool)

/-- A segment within one route that begins on one of the days. -/
def daySegment (prev curr : RoutePoint) : R :=
  if P (dayKey prev.point.recordedAt) then segment distance measure prev.point curr.point else 0

def dayAmount (agg : DayAgg R) : R := if P agg.date then agg.measure measure else 0

variable {distance}

theorem daySegment_still (still : curr.point.recordedAt ≤ prev.point.recordedAt) :
    daySegment distance measure P prev curr = 0 := by
  simp [daySegment, segment_still measure still]

theorem nodup_addToDay {byDay : List (DayAgg R)} (unique : (byDay.map DayAgg.date).Nodup)
    (prev curr : RoutePoint) : ((addToDay distance byDay prev curr).map DayAgg.date).Nodup := by
  unfold addToDay
  split
  · exact unique
  · split
    · exact unique
    · exact nodup_upsert (fun _ => rfl) unique

theorem dayAmount_add (later : ¬ curr.point.recordedAt ≤ prev.point.recordedAt)
    {found : Option (DayAgg R)} (own : ∀ agg ∈ found, agg.date = dayKey prev.point.recordedAt) :
    dayAmount measure P { (found.getD (.new (dayKey prev.point.recordedAt))).add distance prev curr
        with date := dayKey prev.point.recordedAt } =
      found.elim 0 (dayAmount measure P) + daySegment distance measure P prev curr := by
  have added (agg : DayAgg R) (date : String) :
      DayAgg.measure { agg.add distance prev curr with date := date } measure =
        agg.measure measure + segment distance measure prev.point curr.point := by
    rw [← measure_day_add measure agg later]
    cases measure <;> rfl
  unfold dayAmount daySegment
  rw [added]
  dsimp only
  cases found with
  | none =>
    have zero : (DayAgg.new (dayKey prev.point.recordedAt) : DayAgg R).measure measure = 0 := by
      cases measure <;> rfl
    simp [zero]
  | some agg =>
    rw [Option.getD_some, Option.elim_some, own agg rfl]
    split
    · rfl
    · rw [add_zero]

theorem sum_addToDay {byDay : List (DayAgg R)} (unique : (byDay.map DayAgg.date).Nodup)
    (prev curr : RoutePoint) :
    ((addToDay distance byDay prev curr).map (dayAmount measure P)).sum =
      (byDay.map (dayAmount measure P)).sum +
        if prev.routeId = curr.routeId then daySegment distance measure P prev curr else 0 := by
  unfold addToDay
  by_cases same : prev.routeId = curr.routeId
  · rw [if_neg (not_not.mpr same), if_pos same]
    by_cases still : curr.point.recordedAt ≤ prev.point.recordedAt
    · rw [if_pos still, daySegment_still measure P still, add_zero]
    · rw [if_neg still]
      have upserted := sum_upsert (dayAmount measure P) (dayKey prev.point.recordedAt) (fun agg =>
          { (agg.getD (.new (dayKey prev.point.recordedAt))).add distance prev curr with
            date := dayKey prev.point.recordedAt }) unique
      rw [dayAmount_add measure P still fun agg here => key_of_lookup here] at upserted
      linear_combination upserted
  · rw [if_pos same, if_neg same, add_zero]

theorem sum_dayLoop {byDay : List (DayAgg R)} (unique : (byDay.map DayAgg.date).Nodup)
    (rows : List RoutePoint) :
    ((dayLoop distance byDay rows).map (dayAmount measure P)).sum =
      (byDay.map (dayAmount measure P)).sum +
        neighbourSum (fun prev curr => if prev.routeId = curr.routeId then
          daySegment distance measure P prev curr else 0) rows := by
  induction rows generalizing byDay with
  | nil => simp [dayLoop, neighbourSum]
  | cons prev rest ih =>
    cases rest with
    | nil => simp [dayLoop, neighbourSum]
    | cons curr rest =>
      rw [dayLoop, ih (nodup_addToDay unique prev curr), sum_addToDay measure P unique]
      simp only [neighbourSum, List.head?_cons, Option.elim_some, add_assoc]

def daysTotal (stats : List (DayStats R)) : R :=
  ((stats.filter (fun day => P day.date)).map (·.measure measure)).sum

theorem daysTotal_dailyStats {t : Track}
    (points : t.PeriodPoints (statsPeriod now fromDate toDate)) :
    daysTotal measure P (dailyStats distance points) =
      neighbourSum (fun prev curr => if prev.routeId = curr.routeId then
        daySegment distance measure P prev curr else 0) points.rows := by
  have unique : (([] : List (DayAgg R)).map DayAgg.date).Nodup := List.nodup_nil
  have loop : ((dayLoop distance [] points.rows).map (dayAmount measure P)).sum = _ :=
    sum_dayLoop measure P unique _
  have listed := List.perm_insertionSort (fun a b : DayAgg R => a.date ≤ b.date)
    (dayLoop distance [] points.rows)
  have amounts : (fun agg : DayAgg R => if P agg.stats.date then agg.stats.measure measure else 0) =
      dayAmount measure P := by
    funext agg
    unfold dayAmount
    cases measure <;> rfl
  rw [daysTotal, sum_filter, dailyStats, List.map_map, Function.comp_def, amounts,
    (listed.map _).sum_eq, loop]
  simp

end Days

section Agreement

structure TrackTable where
  track : Track
  unique : (track.routes.map (·.id)).Nodup
  owned : ∀ stored ∈ track.points, stored.routeId ∈ track.routes.map (·.id)

instance : Std.Total byRouteAndTime where
  total a b := by
    rcases Nat.lt_trichotomy a.routeId b.routeId with less | same | more
    · exact Or.inl (Or.inl less)
    · rcases Int.le_total a.point.recordedAt b.point.recordedAt with before | after
      · exact Or.inl (Or.inr ⟨same, before⟩)
      · exact Or.inr (Or.inr ⟨same.symm, after⟩)
    · exact Or.inr (Or.inl more)

instance : IsTrans RoutePoint byRouteAndTime where
  trans a b c := by
    rintro (less | ⟨same, before⟩) (less' | ⟨same', before'⟩)
    · exact Or.inl (Nat.lt_trans less less')
    · exact Or.inl (same' ▸ less)
    · exact Or.inl (same ▸ less')
    · exact Or.inr ⟨same.trans same', Int.le_trans before before'⟩

instance : Std.Total (fun a b : RoutePoint => a.point.recordedAt ≤ b.point.recordedAt) where
  total _ _ := Int.le_total _ _

instance : IsTrans RoutePoint (fun a b => a.point.recordedAt ≤ b.point.recordedAt) where
  trans _ _ _ := Int.le_trans

/-- Where both have the same points of a route at a time, they have them in one order. -/
def TiesAlike (points points' : List RoutePoint) : Prop :=
  ∀ (routeId : Nat) (time : TrackTime),
    let atTime (row : RoutePoint) : Bool := row.routeId = routeId ∧ row.point.recordedAt = time
    (points.filter atTime).Perm (points'.filter atTime) →
      points.filter atTime = points'.filter atTime

theorem eq_of_ties {rows rows' : List RoutePoint} (sorted : rows.Pairwise byRouteAndTime)
    (sorted' : rows'.Pairwise byRouteAndTime) (same : rows.Perm rows')
    (alike : TiesAlike rows rows') : rows = rows' := by
  let place (row : RoutePoint) : Lex (Nat × TrackTime) := toLex (row.routeId, row.point.recordedAt)
  have placed (a b : RoutePoint) (before : byRouteAndTime a b) : place a ≤ place b :=
    Prod.Lex.toLex_le_toLex.mpr before
  apply sorted_ext (sorted.imp (placed _ _)) (sorted'.imp (placed _ _))
  intro at_place
  have one (row : RoutePoint) : (place row = at_place) =
      (row.routeId = (ofLex at_place).1 ∧ row.point.recordedAt = (ofLex at_place).2) := by
    rw [← Prod.mk.injEq]
    exact propext ofLex_inj.symm
  simp only [one]
  exact alike _ _ (same.filter _)

variable {t : Track}

theorem byRoute_of_sorted {points : List RoutePoint} (sorted : points.Pairwise byRouteAndTime) :
    points.Pairwise (fun a b => a.routeId ≤ b.routeId) := by
  apply sorted.imp
  intro a b before
  unfold byRouteAndTime at before
  omega

def onRoute (points : List RoutePoint) (routeId : Nat) : List RoutePoint :=
  points.filter (fun row => routeId = row.routeId)

theorem onRoute_sorted {points : List RoutePoint} (sorted : points.Pairwise byRouteAndTime)
    (routeId : Nat) : (onRoute points routeId).Pairwise (fun a b =>
      a.point.recordedAt ≤ b.point.recordedAt) := by
  apply (sorted.sublist List.filter_sublist).imp_of_mem
  intro a b a_there b_there before
  have a_here : routeId = a.routeId := by simpa using List.of_mem_filter a_there
  have b_here : routeId = b.routeId := by simpa using List.of_mem_filter b_there
  rcases before with other | ⟨_, in_time⟩
  · omega
  · exact in_time

theorem onRoute_timed {period : TrackTime × TrackTime}
    (contains : ∀ stored ∈ t.points, inPeriod period stored = true) (points : t.PeriodPoints period)
    {routeId : Nat} (timed : t.TimedPoints routeId)
    (alike : TiesAlike (onRoute points.rows routeId) timed.rows) :
    onRoute points.rows routeId = timed.rows := by
  apply eq_of_ties (points.sorted.sublist List.filter_sublist) _ _ alike
  · apply timed.sorted.imp_of_mem
    intro a b a_there b_there before
    have a_here := (mem_pointsOf.mp (timed.mem.mp a_there)).2
    have b_here := (mem_pointsOf.mp (timed.mem.mp b_there)).2
    exact Or.inr ⟨a_here.trans b_here.symm, before⟩
  · have listed := points.same.filter (fun row => decide (routeId = row.routeId))
    have all := List.filter_eq_self.mpr contains
    have mine : t.points.filter (fun row => decide (routeId = row.routeId)) = t.pointsOf routeId := by
      apply List.filter_congr
      intro row _
      rw [beq_eq_decide, decide_eq_decide.mpr eq_comm]
    exact (listed.trans (by rw [all, mine])).trans timed.same.symm

theorem part_of_period {period part : TrackTime × TrackTime} (points : t.PeriodPoints period)
    (own : t.PeriodPoints part) (p : RoutePoint → Bool)
    (within : ∀ row, (p row && inPeriod period row) = inPeriod part row)
    (alike : TiesAlike (points.rows.filter p) own.rows) : points.rows.filter p = own.rows := by
  apply eq_of_ties (points.sorted.sublist List.filter_sublist) own.sorted _ alike
  have listed := points.same.filter p
  have mine : (t.points.filter (inPeriod period)).filter p = t.points.filter (inPeriod part) := by
    rw [List.filter_filter]
    exact List.filter_congr fun row _ => within row
  exact (listed.trans (by rw [mine])).trans own.same.symm

theorem inPeriod_split {a b m : TrackTime} (a_m : a ≤ m) (m_b : m ≤ b) (row : RoutePoint) :
    (decide (row.point.recordedAt ≤ m) && inPeriod (a, b) row) = inPeriod (a, m) row ∧
      (decide (m ≤ row.point.recordedAt) && inPeriod (a, b) row) = inPeriod (m, b) row := by
  constructor
  · rw [Bool.eq_iff_iff]
    simp only [inPeriod, Bool.and_eq_true, decide_eq_true_eq]
    exact ⟨fun ⟨before, from_a, _⟩ => ⟨from_a, before⟩,
      fun ⟨from_a, before⟩ => ⟨before, from_a, Int.le_trans before m_b⟩⟩
  · rw [Bool.eq_iff_iff]
    simp only [inPeriod, Bool.and_eq_true, decide_eq_true_eq]
    exact ⟨fun ⟨after, _, to_b⟩ => ⟨after, to_b⟩,
      fun ⟨after, to_b⟩ => ⟨after, Int.le_trans a_m after, to_b⟩⟩

variable {R : Type} [Field R] (distance : ExactDistance R) (measure : TrackMeasure)
  (P : String → Bool)

/-- The statistics of the days are those of the routes, each over its own points. -/
theorem daysTotal_routes (table : TrackTable)
    (points : table.track.PeriodPoints (statsPeriod now fromDate toDate)) :
    daysTotal measure P (dailyStats distance points) =
      (table.track.routes.map (fun route =>
        neighbourSum (daySegment distance measure P) (onRoute points.rows route.id))).sum := by
  have covers : ∀ row ∈ points.rows, row.routeId ∈ table.track.routes.map (·.id) := by
    intro row there
    exact table.owned row (List.mem_of_mem_filter (points.mem.mp there))
  rw [daysTotal_dailyStats,
    neighbourSum_groups (byRoute_of_sorted points.sorted) table.unique covers, List.map_map]
  rfl

/-- The segments of a route among the points with the moment between their points. -/
def crossingTotal (t : Track) (points : List RoutePoint) (m : TrackTime) : R :=
  (t.routes.map (fun route => neighbourSum (fun prev curr =>
    if prev.point.recordedAt < m ∧ m < curr.point.recordedAt then
      daySegment distance measure P prev curr else 0) (onRoute points route.id))).sum

structure SplitAnswers (t : Track) (now a m b : TrackTime) where
  whole : t.PeriodPoints (statsPeriod now (some a) (some b))
  lower : t.PeriodPoints (statsPeriod now (some a) (some m))
  upper : t.PeriodPoints (statsPeriod now (some m) (some b))

structure SplitAnswers.InOneOrder {now a m b : TrackTime} (answers : SplitAnswers t now a m b) :
    Prop where
  lower : TiesAlike (answers.whole.rows.filter (fun row => row.point.recordedAt ≤ m))
    answers.lower.rows
  upper : TiesAlike (answers.whole.rows.filter (fun row => m ≤ row.point.recordedAt))
    answers.upper.rows

theorem daysTotal_split (table : TrackTable) {a m b : TrackTime} (a_m : a ≤ m) (m_b : m ≤ b)
    (answers : SplitAnswers table.track now a m b) (alike : answers.InOneOrder) :
    daysTotal measure P (dailyStats distance answers.whole) =
      daysTotal measure P (dailyStats distance answers.lower) +
        daysTotal measure P (dailyStats distance answers.upper) +
        crossingTotal distance measure P table.track answers.whole.rows m := by
  have still (prev curr : RoutePoint) (no_time : curr.point.recordedAt ≤ prev.point.recordedAt) :
      daySegment distance measure P prev curr = 0 := daySegment_still measure P no_time
  have lower := part_of_period answers.whole answers.lower _
    (fun row => (inPeriod_split a_m m_b row).1) alike.lower
  have upper := part_of_period answers.whole answers.upper _
    (fun row => (inPeriod_split a_m m_b row).2) alike.upper
  have each (route : UserRoute) :=
    neighbourSum_split (onRoute_sorted answers.whole.sorted route.id) still m
  simp only [daysTotal_routes, crossingTotal, ← List.sum_map_add]
  congr 1
  apply List.map_congr_left
  intro route _
  rw [each, ← lower, ← upper]
  simp only [onRoute, List.filter_filter, Bool.and_comm]

variable [LinearOrder R]

def summaries (t : Track) (timed : ∀ routeId, t.TimedPoints routeId) : List (RouteSummary R) :=
  t.routes.filterMap (fun route => routeSummary distance (timed route.id))

theorem route_found (unique : (t.routes.map (·.id)).Nodup) {route : UserRoute}
    (known : route ∈ t.routes) : t.route route.id = some route := by
  cases found : t.route route.id with
  | none =>
    have absent := List.find?_eq_none.mp found route known
    simp at absent
  | some other =>
    obtain ⟨there, same⟩ := route_id found
    rw [route_unique unique there known same]

theorem summaries_total (table : TrackTable) (timed : ∀ routeId, table.track.TimedPoints routeId) :
    ((summaries distance table.track timed).map (·.measure measure)).sum =
      (table.track.routes.map (fun route => neighbourSum (segment distance measure)
        ((timed route.id).rows.map (·.point)))).sum := by
  have found : summaries distance table.track timed = table.track.routes.map (fun route =>
      summarize distance route ((timed route.id).rows.map (·.point))) := by
    rw [summaries, ← List.filterMap_eq_map]
    apply List.filterMap_congr
    intro route known
    rw [routeSummary, route_found table.unique known]
    rfl
  rw [found, List.map_map]
  congr 1
  apply List.map_congr_left
  intro route _
  exact measure_summarize measure route _

theorem days_agree (table : TrackTable)
    (points : table.track.PeriodPoints (statsPeriod now fromDate toDate))
    (timed : ∀ routeId, table.track.TimedPoints routeId) (contains : ∀ stored ∈ table.track.points,
      inPeriod (statsPeriod now fromDate toDate) stored = true)
    (alike : ∀ route ∈ table.track.routes,
      TiesAlike (onRoute points.rows route.id) (timed route.id).rows) :
    daysTotal measure (fun _ => true) (dailyStats distance points) =
      ((summaries distance table.track timed).map (·.measure measure)).sum := by
  rw [daysTotal_routes, summaries_total]
  congr 1
  apply List.map_congr_left
  intro route known
  rw [onRoute_timed contains points (timed route.id) (alike route known), neighbourSum_map]
  rfl

/-- Where points of one time come alike, the days come to what the routes come to, and a period to
its two parts and the segments that begin in one part and end in the other. -/
theorem tracking_stats_agree (distance : ExactDistance R) (table : TrackTable)
    (measure : TrackMeasure) (now : TrackTime) :
    (∀ fromDate toDate (points : table.track.PeriodPoints (statsPeriod now fromDate toDate))
      (timed : ∀ routeId, table.track.TimedPoints routeId),
      (∀ stored ∈ table.track.points,
        inPeriod (statsPeriod now fromDate toDate) stored = true) →
      (∀ route ∈ table.track.routes,
        TiesAlike (onRoute points.rows route.id) (timed route.id).rows) →
      ((dailyStats distance points).map (·.measure measure)).sum =
        ((summaries distance table.track timed).map (·.measure measure)).sum) ∧
    ∀ a m b, a ≤ m → m ≤ b → ∀ answers : SplitAnswers table.track now a m b, answers.InOneOrder →
      ∀ P : String → Bool,
        daysTotal measure P (dailyStats distance answers.whole) =
          daysTotal measure P (dailyStats distance answers.lower) +
            daysTotal measure P (dailyStats distance answers.upper) +
            crossingTotal distance measure P table.track answers.whole.rows m := by
  constructor
  · intro fromDate toDate points timed contains alike
    rw [← days_agree distance measure table points timed contains alike, daysTotal,
      List.filter_eq_self.mpr fun _ _ => rfl]
  · intro a m b a_m m_b answers alike P
    exact daysTotal_split distance measure P table a_m m_b answers alike

def overMidnight : TrackTable where
  track := ⟨[⟨1, .active, 0, none⟩],
    [⟨1, 1, stepAlong "a" 0 86399000⟩, ⟨1, 2, stepAlong "b" 1 86401000⟩,
      ⟨1, 3, stepAlong "c" 2 86401000⟩]⟩
  unique := by simp
  owned := by simp

def northward : ExactDistance Rat := fun position position' => position'.latitude - position.latitude

def midnightAnswers : SplitAnswers overMidnight.track 0 0 86400000 90000000 where
  whole := .inTableOrder _
  lower := .inTableOrder _
  upper := .inTableOrder _

theorem midnightAnswers_inOneOrder : midnightAnswers.InOneOrder where
  lower := by
    have same : midnightAnswers.whole.rows.filter (fun row => row.point.recordedAt ≤ 86400000) =
        midnightAnswers.lower.rows := by decide +kernel
    rw [same]
    exact fun _ _ _ => rfl
  upper := by
    have same : midnightAnswers.whole.rows.filter (fun row => 86400000 ≤ row.point.recordedAt) =
        midnightAnswers.upper.rows := by decide +kernel
    rw [same]
    exact fun _ _ _ => rfl

theorem tracking_stats_agree_over_midnight :
    ((dailyStats northward midnightAnswers.whole).map (·.measure .distance)).sum =
      ((summaries northward overMidnight.track (fun _ => .inTableOrder _)).map
        (·.measure .distance)).sum ∧
    daysTotal .distance (fun _ => true) (dailyStats northward midnightAnswers.whole) =
      daysTotal .distance (fun _ => true) (dailyStats northward midnightAnswers.lower) +
        daysTotal .distance (fun _ => true) (dailyStats northward midnightAnswers.upper) +
        crossingTotal northward .distance (fun _ => true) overMidnight.track
          midnightAnswers.whole.rows 86400000 := by
  have agree := tracking_stats_agree northward overMidnight .distance 0
  constructor
  · refine agree.1 (some 0) (some 90000000) midnightAnswers.whole _ (by decide) ?_
    intro route known
    obtain rfl := List.mem_singleton.mp known
    have same : onRoute midnightAnswers.whole.rows 1 =
        (Ordered.inTableOrder (overMidnight.track.pointsOf 1) :
          overMidnight.track.TimedPoints 1).rows := by decide +kernel
    rw [same]
    exact fun _ _ _ => rfl
  · exact agree.2 0 86400000 90000000 (by decide) (by decide) midnightAnswers
      midnightAnswers_inOneOrder (fun _ => true)

def tiedBackwards (routeId : Nat) : overMidnight.track.TimedPoints routeId where
  rows := (overMidnight.track.pointsOf routeId).reverse.insertionSort _
  same := (List.perm_insertionSort _ _).trans (List.reverse_perm _)
  sorted := List.pairwise_insertionSort _ _

theorem midnight_splits_a_segment :
    (¬ ∀ (distance : ExactDistance Rat) (table : TrackTable) (measure : TrackMeasure)
      (now : TrackTime) (fromDate toDate : Option TrackTime)
      (points : table.track.PeriodPoints (statsPeriod now fromDate toDate))
      (timed : ∀ routeId, table.track.TimedPoints routeId),
      (∀ stored ∈ table.track.points,
        inPeriod (statsPeriod now fromDate toDate) stored = true) →
      ((dailyStats distance points).map (·.measure measure)).sum =
        ((summaries distance table.track timed).map (·.measure measure)).sum) ∧
    ¬ ∀ (distance : ExactDistance Rat) (table : TrackTable) (measure : TrackMeasure)
      (now a m b : TrackTime), a ≤ m → m ≤ b →
      ∀ answers : SplitAnswers table.track now a m b, answers.InOneOrder → ∀ P : String → Bool,
        daysTotal measure P (dailyStats distance answers.whole) =
          daysTotal measure P (dailyStats distance answers.lower) +
            daysTotal measure P (dailyStats distance answers.upper) := by
  constructor
  · intro always
    have days := always northward overMidnight .distance 0 (some 0) (some 90000000)
      midnightAnswers.whole tiedBackwards (by decide)
    exact absurd days (by decide +kernel)
  · intro always
    have parts := always northward overMidnight .distance 0 0 86400000 90000000 (by decide)
      (by decide) midnightAnswers midnightAnswers_inOneOrder (fun _ => true)
    exact absurd parts (by decide +kernel)

end Agreement

end LeaderProduct
