import Mathlib.Data.List.NodupEquivFin

/-! Fewer points for a map. The step is the rounded quotient of the number of points and the
maximum, and the last point is added where the steps do not meet it. -/
namespace LeaderProduct

section Loop
variable {Dto : Type*}

def sampleLoop (list : List Dto) (step : Nat) : Nat → Nat → List Dto
  | 0, _ => []
  | rounds + 1, i =>
    match list[i]? with
    | none => []
    | some p => p :: sampleLoop list step rounds (i + step)

def sampleEvery (step : Nat) (list : List Dto) : List Dto := sampleLoop list step list.length 0

def sampleStep (length maxPoints : Nat) : Nat := (length + maxPoints - 1) / maxPoints

variable (id : Dto → Nat)

def withLast (sampled list : List Dto) : List Dto :=
  if sampled.getLast?.map id = list.getLast?.map id then sampled
  else sampled ++ list.getLast?.toList

def thinOut (maxPoints : Nat) (list : List Dto) : List Dto :=
  withLast id (sampleEvery (sampleStep list.length maxPoints) list) list

def pointsToSend (maxPointsNum : Option Int) (points : List Dto) : List Dto :=
  match maxPointsNum with
  | none => points
  | some m => if 0 < m ∧ m < points.length then thinOut id m.toNat points else points

def routePointsForResponse : Option Int → List Dto → List Dto := pointsToSend id

def userPointsForResponse : Option Int → List Dto → List Dto := pointsToSend id

def downsample (maxPointsNum : Option Int) (list : List Dto) : List Dto :=
  match maxPointsNum with
  | none => list
  | some m => if m ≤ 0 ∨ list.length ≤ m then list else thinOut id m.toNat list

inductive PointsEndpoint where
  | routePoints | userRoutes | userPoints

def PointsEndpoint.sample : PointsEndpoint → Option Int → List Dto → List Dto
  | .routePoints => routePointsForResponse id
  | .userRoutes => downsample id
  | .userPoints => userPointsForResponse id

end Loop

section Sampled
variable {Dto : Type*} {list : List Dto} {step : Nat}

theorem sampleLoop_getElem? (list : List Dto) (step rounds i k : Nat) :
    (sampleLoop list step rounds i)[k]? = if k < rounds then list[i + k * step]? else none := by
  induction rounds generalizing i k with
  | zero => simp [sampleLoop]
  | succ rounds ih =>
    rw [sampleLoop]
    cases here : list[i]? with
    | none =>
      have out : list.length ≤ i := List.getElem?_eq_none_iff.mp here
      have later : list[i + k * step]? = none := List.getElem?_eq_none_iff.mpr (by omega)
      simp [later]
    | some p =>
      cases k with
      | zero => simp [here]
      | succ k =>
        have next : i + (k + 1) * step = i + step + k * step := by
          rw [Nat.add_mul]
          omega
        simp [ih, next]

theorem sampleEvery_getElem? (positive : 0 < step) (k : Nat) :
    (sampleEvery step list)[k]? = list[k * step]? := by
  rw [sampleEvery, sampleLoop_getElem?, Nat.zero_add]
  split
  · rfl
  · next out =>
    have far : k ≤ k * step := Nat.le_mul_of_pos_right k positive
    exact (List.getElem?_eq_none_iff.mpr (by omega)).symm

theorem sampleEvery_length_le (positive : 0 < step) (m : Nat) :
    (sampleEvery step list).length ≤ m ↔ list.length ≤ m * step := by
  rw [← List.getElem?_eq_none_iff, sampleEvery_getElem? positive, List.getElem?_eq_none_iff]

theorem sampleEvery_head (positive : 0 < step) : (sampleEvery step list).head? = list.head? := by
  rw [List.head?_eq_getElem?, sampleEvery_getElem? positive, Nat.zero_mul, ← List.head?_eq_getElem?]

def everyStep (positive : 0 < step) : Nat ↪o Nat :=
  OrderEmbedding.ofStrictMono (fun k => k * step) (fun _ _ less =>
    Nat.mul_lt_mul_of_pos_right less positive)

theorem sampleEvery_sublist (positive : 0 < step) : (sampleEvery step list).Sublist list :=
  List.sublist_of_orderEmbedding_getElem?_eq (everyStep positive)
    (fun k => sampleEvery_getElem? positive k)

theorem sampleEvery_last (positive : 0 < step) (some_point : list ≠ []) :
    ∃ q, (sampleEvery step list).length = q + 1 ∧ q * step < list.length ∧
      list.length ≤ (q + 1) * step := by
  have many : ∀ m, (sampleEvery step list).length ≤ m ↔ list.length ≤ m * step :=
    sampleEvery_length_le positive
  have longer := List.length_pos_iff.mpr some_point
  have one : ¬ (sampleEvery step list).length ≤ 0 := by
    rw [many]
    omega
  obtain ⟨q, same⟩ := Nat.exists_eq_add_one_of_ne_zero (fun zero => one (Nat.le_of_eq zero))
  refine ⟨q, same, ?_, ?_⟩
  · have fewer := many q
    omega
  · exact (many (q + 1)).mp (Nat.le_of_eq same)

theorem meets_last_iff {q : Nat} (within : q * step < list.length)
    (beyond : list.length ≤ (q + 1) * step) : q * step = list.length - 1 ↔
      step ∣ list.length - 1 := by
  constructor
  · intro meets
    exact ⟨q, by rw [← meets, Nat.mul_comm]⟩
  · rintro ⟨r, way⟩
    rw [Nat.mul_comm] at way
    have not_less : ¬ r < q := by
      intro less
      have jump : (r + 1) * step ≤ q * step := Nat.mul_le_mul_right step less
      rw [Nat.add_mul] at jump beyond
      omega
    have not_more : ¬ q < r := by
      intro more
      have jump : (q + 1) * step ≤ r * step := Nat.mul_le_mul_right step more
      omega
    have same : r = q := by omega
    rw [way, same]

end Sampled

section Promise
variable {Dto : Type*} {id : Dto → Nat} {list : List Dto}

structure KeepsPromise (maxPoints : Nat) (list sampled : List Dto) : Prop where
  subsequence : sampled.Sublist list
  first : sampled.head? = list.head?
  last : sampled.getLast? = list.getLast?
  bounded : sampled.length ≤ maxPoints

/-- There are few enough points, or the steps meet the last one, or they stop short of the
maximum. -/
def FitsMaximum (length maxPoints : Nat) : Prop :=
  length ≤ maxPoints ∨ sampleStep length maxPoints ∣ length - 1 ∨
    length ≤ (maxPoints - 1) * sampleStep length maxPoints

instance (length maxPoints : Nat) : Decidable (FitsMaximum length maxPoints) := by
  unfold FitsMaximum
  infer_instance

theorem sampleStep_spec {n m : Nat} (positive : 0 < m) (more : m < n) :
    0 < sampleStep n m ∧ n ≤ m * sampleStep n m := by
  have division := Nat.div_add_mod (n + m - 1) m
  have less := Nat.mod_lt (n + m - 1) positive
  rw [← sampleStep] at division
  have enough : n ≤ m * sampleStep n m := by omega
  refine ⟨?_, enough⟩
  by_contra zero
  rw [Nat.eq_zero_of_not_pos zero] at enough
  omega

theorem position_unique (own : (list.map id).Nodup) {i j : Nat} (i_lt : i < list.length) :
    (list[i]?.map id = list[j]?.map id) ↔ i = j := by
  rw [← List.getElem?_map, ← List.getElem?_map]
  exact List.getElem?_inj (by simpa using i_lt) own

theorem withLast_eq (own : (list.map id).Nodup) (some_point : list ≠ []) {step : Nat}
    (positive : 0 < step) : withLast id (sampleEvery step list) list =
      if step ∣ list.length - 1 then sampleEvery step list
      else sampleEvery step list ++ list.getLast?.toList := by
  obtain ⟨q, same, within, beyond⟩ := sampleEvery_last positive some_point
  have shorter := List.length_pos_iff.mpr some_point
  have met : (sampleEvery step list).getLast?.map id = list.getLast?.map id ↔
      step ∣ list.length - 1 := by
    rw [List.getLast?_eq_getElem?, List.getLast?_eq_getElem?, sampleEvery_getElem? positive, same,
      Nat.add_sub_cancel, position_unique own within]
    exact meets_last_iff within beyond
  rw [withLast]
  simp only [met]

theorem sample_before_last {step : Nat} (positive : 0 < step) (some_point : list ≠ [])
    (missed : ¬ step ∣ list.length - 1) : (sampleEvery step list).Sublist list.dropLast := by
  apply List.sublist_of_orderEmbedding_getElem?_eq (everyStep positive)
  intro k
  rw [sampleEvery_getElem? positive, List.getElem?_dropLast]
  split
  · rfl
  · next out =>
    have unlike : k * step ≠ list.length - 1 := by
      intro meets
      exact missed ⟨k, by rw [← meets, Nat.mul_comm]⟩
    have shorter := List.length_pos_iff.mpr some_point
    have far : list.length ≤ k * step := by
      have beyond : ¬ k * step < list.length - 1 := out
      omega
    exact List.getElem?_eq_none_iff.mpr far

theorem sample_meets {step : Nat} (positive : 0 < step) (some_point : list ≠ [])
    (meets : step ∣ list.length - 1) : (sampleEvery step list).getLast? = list.getLast? := by
  obtain ⟨q, same, within, beyond⟩ := sampleEvery_last positive some_point
  rw [List.getLast?_eq_getElem?, List.getLast?_eq_getElem?, sampleEvery_getElem? positive, same,
    Nat.add_sub_cancel, (meets_last_iff within beyond).mpr meets]

theorem sampleEvery_ne_nil {step : Nat} (positive : 0 < step) (some_point : list ≠ []) :
    sampleEvery step list ≠ [] := by
  intro none_there
  have head : (sampleEvery step list).head? = list.head? := sampleEvery_head positive
  rw [none_there, List.head?_nil, eq_comm, List.head?_eq_none_iff] at head
  exact some_point head

theorem promise_with_last_iff {step m : Nat} (positive : 0 < step) (some_point : list ≠ [])
    (missed : ¬ step ∣ list.length - 1) (enough : 0 < m) :
    KeepsPromise m list (sampleEvery step list ++ list.getLast?.toList) ↔
      list.length ≤ (m - 1) * step := by
  obtain ⟨last, last_is⟩ := Option.isSome_iff_exists.mp (List.getLast?_isSome.mpr some_point)
  have whole : list.dropLast ++ [last] = list := List.dropLast_append_getLast? last last_is
  have size : (sampleEvery step list ++ [last]).length ≤ m ↔ list.length ≤ (m - 1) * step := by
    rw [← sampleEvery_length_le positive, List.length_append, List.length_singleton]
    omega
  rw [last_is, Option.toList_some]
  constructor
  · exact fun promise => size.mp promise.bounded
  · intro short
    refine ⟨?_, ?_, ?_, size.mpr short⟩
    · have before := (sample_before_last positive some_point missed).append_right [last]
      rw [whole] at before
      exact before
    · rw [List.head?_append_of_ne_nil _ (sampleEvery_ne_nil positive some_point)]
      exact sampleEvery_head positive
    · rw [List.getLast?_append, last_is]
      rfl

theorem thinOut_promise_iff (own : (list.map id).Nodup) {m : Nat} (enough : 2 ≤ m)
    (more : m < list.length) :
    KeepsPromise m list (thinOut id m list) ↔ FitsMaximum list.length m := by
  have some_point : list ≠ [] := by
    rintro rfl
    simp at more
  obtain ⟨positive, covers⟩ := sampleStep_spec (n := list.length) (m := m) (by omega) more
  rw [thinOut, withLast_eq own some_point positive]
  by_cases meets : sampleStep list.length m ∣ list.length - 1
  · rw [if_pos meets]
    refine iff_of_true ?_ (Or.inr (Or.inl meets))
    exact ⟨sampleEvery_sublist positive, sampleEvery_head positive,
      sample_meets positive some_point meets, (sampleEvery_length_le positive m).mpr covers⟩
  · rw [if_neg meets, promise_with_last_iff positive some_point meets (by omega)]
    constructor
    · exact fun short => Or.inr (Or.inr short)
    · rintro (few | met | short)
      · omega
      · exact absurd met meets
      · exact short

theorem downsample_eq (maxPointsNum : Option Int) (list : List Dto) :
    downsample id maxPointsNum list = pointsToSend id maxPointsNum list := by
  cases maxPointsNum with
  | none => rfl
  | some m =>
    simp only [downsample, pointsToSend]
    by_cases few : m ≤ 0 ∨ list.length ≤ m
    · rw [if_pos few, if_neg (by omega)]
    · rw [if_neg few, if_pos (by omega)]

theorem sample_eq (endpoint : PointsEndpoint) (maxPointsNum : Option Int) (list : List Dto) :
    endpoint.sample id maxPointsNum list = pointsToSend id maxPointsNum list := by
  cases endpoint with
  | routePoints => rfl
  | userRoutes => exact downsample_eq maxPointsNum list
  | userPoints => rfl

/-- The three endpoints keep the promise exactly when the added last point still fits. -/
theorem downsampling_iff (endpoint : PointsEndpoint) (id : Dto → Nat) (list : List Dto)
    (own : (list.map id).Nodup) (m : Nat) (enough : 2 ≤ m) :
    KeepsPromise m list (endpoint.sample id (some (m : Int)) list) ↔
      FitsMaximum list.length m := by
  rw [sample_eq, pointsToSend, Int.toNat_natCast]
  by_cases few : list.length ≤ m
  · rw [if_neg (by omega)]
    exact iff_of_true ⟨List.Sublist.refl list, rfl, rfl, few⟩ (Or.inl few)
  · rw [if_pos (by omega)]
    exact thinOut_promise_iff own enough (by omega)

theorem downsampling_of_three :
    KeepsPromise 2 [1, 2, 3] (PointsEndpoint.userRoutes.sample (fun n => n) (some 2) [1, 2, 3]) ↔
      FitsMaximum 3 2 :=
  downsampling_iff .userRoutes (fun n => n) [1, 2, 3] (by decide) 2 (by decide)

/-- Four points for a maximum of two: the first, the third and the last. -/
theorem four_points_for_two : ¬ ∀ (endpoint : PointsEndpoint) (list : List Nat),
    (list.map (fun n => n)).Nodup → ∀ m : Nat, 2 ≤ m →
      KeepsPromise m list (endpoint.sample (fun n => n) (some (m : Int)) list) := by
  intro always
  have promise := always .routePoints [1, 2, 3, 4] (by decide) 2 (by decide)
  exact absurd promise.bounded (by decide)

end Promise

end LeaderProduct
