import Mathlib.Algebra.Order.Field.Rat
import Mathlib.Data.List.SplitBy
import Mathlib.Tactic.Linarith
import LeaderProduct.PointRetry

/-! The stops of a route. A cluster grows while neighbouring points are close to each other, so
that a slow walk of any length is one stop as well. -/
namespace LeaderProduct

section Loop

structure TimedPoints where
  points : List ParsedPoint
  sorted : points.Pairwise (fun p q => p.recordedAt ≤ q.recordedAt)

structure StopAgg where
  latitude : Rat
  longitude : Rat
  startedAt : TrackTime
  endedAt : TrackTime
  durationSeconds : Int

structure CountedStop where
  stop : StopAgg
  points : List ParsedPoint

structure StopCluster where
  start : ParsedPoint
  latSum : Rat
  lonSum : Rat
  count : Nat
  points : List ParsedPoint

def minStopDurationMs : Int := 60000

def roundSeconds (ms : Int) : Int := (ms + 500) / 1000

def StopCluster.first (p : ParsedPoint) : StopCluster :=
  ⟨p, p.position.latitude, p.position.longitude, 1, [p]⟩

def StopCluster.add (c : StopCluster) (p : ParsedPoint) : StopCluster :=
  { c with latSum := c.latSum + p.position.latitude, lonSum := c.lonSum + p.position.longitude,
           count := c.count + 1, points := c.points ++ [p] }

def StopCluster.close (c : StopCluster) (last : ParsedPoint) : List CountedStop :=
  let durationMs := last.recordedAt - c.start.recordedAt
  if minStopDurationMs ≤ durationMs then
    [⟨⟨c.latSum / c.count, c.lonSum / c.count, c.start.recordedAt, last.recordedAt,
      roundSeconds durationMs⟩, c.points⟩]
  else []

variable {R : Type*} [Field R] [LinearOrder R]

/-- `haversineDistanceMeters` is any function here; its values are exact. -/
abbrev Distance (R : Type*) := Position → Position → R

variable (distance : Distance R)

def maxStopRadiusMeters : R := 30

def isNear (prev curr : ParsedPoint) : Bool :=
  decide (distance prev.position curr.position ≤ maxStopRadiusMeters)

def stopLoop (c : StopCluster) (prev : ParsedPoint) : List ParsedPoint → List CountedStop
  | [] => c.close prev
  | curr :: rest =>
    if isNear distance prev curr then stopLoop (c.add curr) curr rest
    else c.close prev ++ stopLoop (.first curr) curr rest

def countedStops : List ParsedPoint → List CountedStop
  | [] => []
  | p :: rest => stopLoop distance (.first p) p rest

/-- `GET /routes/:routeId/stops`, for the points of the route. -/
def routeStops (points : List ParsedPoint) : List StopAgg :=
  (countedStops distance points).map (·.stop)

end Loop

variable {run : List ParsedPoint} {counted : CountedStop}

section Clusters

def reportRun : List ParsedPoint → List CountedStop
  | [] => []
  | p :: rest => (rest.foldl StopCluster.add (.first p)).close (rest.getLastD p)

def lasts : List ParsedPoint → Bool
  | [] => false
  | p :: rest => decide (minStopDurationMs ≤ (rest.getLastD p).recordedAt - p.recordedAt)

structure Reports (run : List ParsedPoint) (counted : CountedStop) : Prop where
  points : counted.points = run
  lasting : lasts run = true
  starts : ∀ p ∈ run.head?, counted.stop.startedAt = p.recordedAt
  ends : ∀ p ∈ run.getLast?, counted.stop.endedAt = p.recordedAt
  duration : counted.stop.durationSeconds =
    roundSeconds (counted.stop.endedAt - counted.stop.startedAt)

@[simp] theorem first_start (p : ParsedPoint) : (StopCluster.first p).start = p := rfl
@[simp] theorem first_points (p : ParsedPoint) : (StopCluster.first p).points = [p] := rfl

@[simp] theorem foldl_add_start (c : StopCluster) (points : List ParsedPoint) :
    (points.foldl StopCluster.add c).start = c.start := by
  induction points generalizing c with
  | nil => rfl
  | cons p rest ih =>
    rw [List.foldl_cons, ih]
    rfl

@[simp] theorem foldl_add_points (c : StopCluster) (points : List ParsedPoint) :
    (points.foldl StopCluster.add c).points = c.points ++ points := by
  induction points generalizing c with
  | nil => simp
  | cons p rest ih =>
    rw [List.foldl_cons, ih]
    simp [StopCluster.add]

theorem reports_of_mem (there : counted ∈ reportRun run) : Reports run counted := by
  cases run with
  | nil => cases there
  | cons p rest =>
    simp only [reportRun, StopCluster.close, foldl_add_start, foldl_add_points, first_start,
      first_points] at there
    split at there
    · next long =>
      cases List.mem_singleton.mp there
      refine ⟨rfl, by simpa [lasts] using long, ?_, ?_, rfl⟩
      · intro q here
        cases here
        rfl
      · intro q here
        rw [List.getLast?_cons, Option.mem_some] at here
        rw [← here, List.getLastD_eq_getLast?]
    · cases there

theorem reportRun_lasting (long : lasts run = true) :
    ∃ counted, reportRun run = [counted] := by
  cases run with
  | nil => cases long
  | cons p rest =>
    simp only [reportRun, StopCluster.close, foldl_add_start, first_start]
    rw [if_pos (of_decide_eq_true long)]
    exact ⟨_, rfl⟩

variable {R : Type*} [Field R] [LinearOrder R] (distance : Distance R)

theorem stopLoop_eq (p : ParsedPoint) (run rest : List ParsedPoint)
    (chained : (p :: run).IsChain (fun a b => isNear distance a b)) :
    stopLoop distance (run.foldl StopCluster.add (.first p)) (run.getLastD p) rest =
      ((p :: run ++ rest).splitBy (isNear distance)).flatMap reportRun := by
  induction rest generalizing p run with
  | nil =>
    rw [List.append_nil, List.splitBy_of_isChain (List.cons_ne_nil p run) chained]
    simp [stopLoop, reportRun]
  | cons curr rest ih =>
    have last : (p :: run).getLast? = some (run.getLastD p) := by
      rw [List.getLast?_cons, List.getLastD_eq_getLast?]
    rw [stopLoop]
    split
    · next near =>
      have longer : (p :: (run ++ [curr])).IsChain (fun a b => isNear distance a b) := by
        rw [← List.cons_append, List.isChain_append]
        refine ⟨chained, List.isChain_singleton curr, ?_⟩
        intro a a_last b b_first
        rw [last, Option.mem_some] at a_last
        cases b_first
        rw [← a_last]
        exact near
      have step := ih p (run ++ [curr]) longer
      simpa using step
    · next far =>
      have apart : ∀ a ∈ (p :: run).getLast?, isNear distance a curr = false := by
        intro a a_last
        rw [last, Option.mem_some] at a_last
        rw [← a_last]
        simpa using far
      have fresh := ih curr [] (List.isChain_singleton curr)
      rw [List.splitBy_append_cons rest apart, List.flatMap_append,
        List.splitBy_of_isChain (List.cons_ne_nil p run) chained]
      simp only [List.flatMap_cons, List.flatMap_nil, List.append_nil, reportRun]
      congr 1

theorem countedStops_eq (points : List ParsedPoint) :
    countedStops distance points = (points.splitBy (isNear distance)).flatMap reportRun := by
  cases points with
  | nil => rfl
  | cons p rest => exact stopLoop_eq distance p [] rest (List.isChain_singleton p)

end Clusters

section Promise
variable {R : Type*} [Field R] [LinearOrder R] (distance : Distance R)

def lastingRuns (points : List ParsedPoint) : List (List ParsedPoint) :=
  (points.splitBy (isNear distance)).filter lasts

def WithinRadius (points : List ParsedPoint) : Prop :=
  ∀ first ∈ points.head?, ∀ p ∈ points,
    distance first.position p.position ≤ maxStopRadiusMeters

instance (points : List ParsedPoint) : Decidable (WithinRadius distance points) := by
  unfold WithinRadius
  infer_instance

/-- Every point is farther from the first one than those before it, and the radius is left. -/
def SteadilyAway (points : List ParsedPoint) : Prop :=
  ∃ first ∈ points.head?,
    points.Pairwise (fun p q =>
      distance first.position p.position < distance first.position q.position) ∧
    ∃ p ∈ points, maxStopRadiusMeters < distance first.position p.position

structure StopsKeepPromise (points : List ParsedPoint) : Prop where
  disjoint : (routeStops distance points).Pairwise (fun a b => a.endedAt < b.startedAt)
  lasting : ∀ stop ∈ routeStops distance points,
    minStopDurationMs ≤ stop.endedAt - stop.startedAt ∧ 60 ≤ stop.durationSeconds
  radius : ∀ counted ∈ countedStops distance points, WithinRadius distance counted.points
  notMerged : ∀ counted ∈ countedStops distance points, ¬ SteadilyAway distance counted.points

structure StandsStill (points : List ParsedPoint) : Prop where
  near : ∀ run ∈ lastingRuns distance points, WithinRadius distance run
  apart : (lastingRuns distance points).Pairwise (fun a b =>
    ∀ last ∈ a.getLast?, ∀ first ∈ b.head?, last.recordedAt ≠ first.recordedAt)

variable {distance}

theorem runs_reported (runs : List (List ParsedPoint)) :
    (runs.flatMap reportRun).map (·.points) = runs.filter lasts := by
  induction runs with
  | nil => rfl
  | cons run rest ih =>
    rw [List.flatMap_cons, List.map_append, ih]
    by_cases long : lasts run = true
    · obtain ⟨counted, here⟩ := reportRun_lasting long
      have reports : Reports run counted := reports_of_mem (by simp [here])
      simp [here, reports.points, long]
    · have none_here : reportRun run = [] := by
        rw [List.eq_nil_iff_forall_not_mem]
        intro counted there
        exact long (reports_of_mem there).lasting
      simp [none_here, long]

theorem countedStops_points (points : List ParsedPoint) :
    (countedStops distance points).map (·.points) = lastingRuns distance points := by
  rw [countedStops_eq, runs_reported, lastingRuns]

variable {points : List ParsedPoint}

theorem countedStops_report (there : counted ∈ countedStops distance points) :
    Reports counted.points counted := by
  rw [countedStops_eq, List.mem_flatMap] at there
  obtain ⟨run, _, here⟩ := there
  have reports := reports_of_mem here
  rw [reports.points]
  exact reports

theorem Reports.ends_later (reports : Reports run counted) :
    minStopDurationMs ≤ counted.stop.endedAt - counted.stop.startedAt := by
  have long := reports.lasting
  cases run with
  | nil => cases long
  | cons p rest =>
    have last : (p :: rest).getLast? = some (rest.getLastD p) := by
      rw [List.getLast?_cons, List.getLastD_eq_getLast?]
    rw [reports.starts p rfl, reports.ends _ last]
    exact of_decide_eq_true long

theorem Reports.borders (reports : Reports run counted) : ∃ first last, run.head? = some first ∧
      run.getLast? = some last ∧ counted.stop.startedAt = first.recordedAt ∧
      counted.stop.endedAt = last.recordedAt := by
  have long := reports.lasting
  cases run with
  | nil => cases long
  | cons p rest =>
    have last : (p :: rest).getLast? = some (rest.getLastD p) := by
      rw [List.getLast?_cons, List.getLastD_eq_getLast?]
    exact ⟨p, _, rfl, last, reports.starts p rfl, reports.ends _ last⟩

theorem lastingRuns_sorted (distance : Distance R) (route : TimedPoints) :
    (lastingRuns distance route.points).Pairwise (fun a b =>
      ∀ p ∈ a, ∀ q ∈ b, p.recordedAt ≤ q.recordedAt) := by
  have sorted := route.sorted
  rw [← List.flatten_splitBy (isNear distance) route.points, List.pairwise_flatten] at sorted
  exact sorted.2.sublist List.filter_sublist

theorem disjoint_iff (route : TimedPoints) :
    (routeStops distance route.points).Pairwise (fun a b => a.endedAt < b.startedAt) ↔
      (lastingRuns distance route.points).Pairwise (fun a b =>
        ∀ last ∈ a.getLast?, ∀ first ∈ b.head?, last.recordedAt ≠ first.recordedAt) := by
  have sorted := lastingRuns_sorted distance route
  rw [← countedStops_points, List.pairwise_map] at sorted ⊢
  rw [routeStops, List.pairwise_map]
  constructor
  · intro earlier
    apply earlier.imp_of_mem
    intro a b a_there b_there less last a_last first b_first
    rw [← (countedStops_report a_there).ends last a_last,
      ← (countedStops_report b_there).starts first b_first]
    exact Int.ne_of_lt less
  · intro apart
    apply (sorted.and apart).imp_of_mem
    intro a b a_there b_there ⟨ordered, unlike⟩
    obtain ⟨_, last, _, a_last, _, ended⟩ := (countedStops_report a_there).borders
    obtain ⟨first, _, b_first, _, started, _⟩ := (countedStops_report b_there).borders
    have le := ordered last (List.mem_of_getLast? a_last) first (List.mem_of_head? b_first)
    have ne := unlike last a_last first b_first
    rw [ended, started]
    exact lt_of_le_of_ne le ne

theorem stops_last : ∀ stop ∈ routeStops distance points,
    minStopDurationMs ≤ stop.endedAt - stop.startedAt ∧ 60 ≤ stop.durationSeconds := by
  intro stop there
  obtain ⟨counted, here, rfl⟩ := List.mem_map.mp there
  have reports := countedStops_report here
  have long := reports.ends_later
  refine ⟨long, ?_⟩
  rw [reports.duration, roundSeconds]
  rw [minStopDurationMs] at long
  omega

theorem radius_iff (points : List ParsedPoint) :
    (∀ counted ∈ countedStops distance points, WithinRadius distance counted.points) ↔
      ∀ run ∈ lastingRuns distance points, WithinRadius distance run := by
  rw [← countedStops_points, List.forall_mem_map]

theorem not_steadilyAway (within : WithinRadius distance points) :
    ¬ SteadilyAway distance points := by
  rintro ⟨first, here, _, p, there, out⟩
  exact absurd (within first here p there) (not_le_of_gt out)

/-- The stops keep the promise exactly when whoever does not move away from the point before stays
near the first one too, for as long as a stop lasts. -/
theorem route_stops_iff (distance : Distance R) (route : TimedPoints) :
    StopsKeepPromise distance route.points ↔ StandsStill distance route.points := by
  constructor
  · intro promise
    exact ⟨(radius_iff _).mp promise.radius, (disjoint_iff route).mp promise.disjoint⟩
  · intro still
    have within := (radius_iff _).mpr still.near
    exact ⟨(disjoint_iff route).mpr still.apart, stops_last, within,
      fun counted there => not_steadilyAway (within counted there)⟩

structure IsMetric (distance : Distance R) : Prop where
  zero_iff : ∀ a b, distance a b = 0 ↔ a = b
  symmetric : ∀ a b, distance a b = distance b a
  triangle : ∀ a b c, distance a c ≤ distance a b + distance b c

def gridDistance : Distance Rat := fun a b =>
  |a.latitude - b.latitude| + |a.longitude - b.longitude|

theorem gridDistance_metric : IsMetric gridDistance where
  zero_iff a b := by
    have lat := abs_nonneg (a.latitude - b.latitude)
    have lon := abs_nonneg (a.longitude - b.longitude)
    rw [gridDistance, add_eq_zero_iff_of_nonneg lat lon, abs_eq_zero, abs_eq_zero, sub_eq_zero,
      sub_eq_zero]
    cases a
    cases b
    simp
  symmetric a b := by
    rw [gridDistance, gridDistance, abs_sub_comm, abs_sub_comm a.longitude]
  triangle a b c := by
    have lat := abs_sub_le a.latitude b.latitude c.latitude
    have lon := abs_sub_le a.longitude b.longitude c.longitude
    unfold gridDistance
    linarith

def slowWalk : TimedPoints where
  points := [stepAlong "a" 0 0, stepAlong "b" 25 60000, stepAlong "c" 50 120000]
  sorted := by simp [stepAlong]

theorem slow_walk_is_a_stop : ¬ ∀ (distance : Distance Rat), IsMetric distance →
    ∀ route : TimedPoints, StopsKeepPromise distance route.points := by
  intro always
  have promise := always gridDistance gridDistance_metric slowWalk
  exact absurd promise.radius (by decide +kernel)

end Promise

end LeaderProduct
