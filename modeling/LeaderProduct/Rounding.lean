import Mathlib.Algebra.Order.Floor.Ring
import Mathlib.Data.Rat.Floor
import Mathlib.Tactic.Linarith
import Mathlib.Tactic.FieldSimp
import Mathlib.Tactic.Ring

/-! Rational numbers rounded to a number of decimals, half away from zero, as a decimal column
stores them; and when a rounded sum is the sum of the rounded numbers. -/
namespace Rounding

def steps (scale : Nat) : Rat := 10 ^ scale

def roundTo (scale : Nat) (x : Rat) : Rat :=
  if 0 ≤ x then ⌊x * steps scale + 1 / 2⌋ / steps scale
  else -(⌊-x * steps scale + 1 / 2⌋ / steps scale)

def OnGrid (scale : Nat) (x : Rat) : Prop := ∃ n : Int, x = n / steps scale

theorem steps_pos (scale : Nat) : 0 < steps scale := by
  unfold steps
  positivity

theorem roundTo_onGrid (scale : Nat) (x : Rat) : OnGrid scale (roundTo scale x) := by
  unfold roundTo
  split
  · exact ⟨_, rfl⟩
  · refine ⟨-⌊-x * steps scale + 1 / 2⌋, ?_⟩
    push_cast
    ring

theorem OnGrid.add {scale : Nat} {x y : Rat} (x_on : OnGrid scale x) (y_on : OnGrid scale y) :
    OnGrid scale (x + y) := by
  obtain ⟨n, rfl⟩ := x_on
  obtain ⟨m, rfl⟩ := y_on
  refine ⟨n + m, ?_⟩
  push_cast
  ring

theorem onGrid_sum (scale : Nat) (xs : List Rat) : OnGrid scale (xs.map (roundTo scale)).sum := by
  induction xs with
  | nil => exact ⟨0, by simp⟩
  | cons x rest ih =>
    rw [List.map_cons, List.sum_cons]
    exact (roundTo_onGrid scale x).add ih

def WithinHalf (scale : Nat) (x off : Rat) : Prop :=
  if 0 ≤ x then -(1 / 2) ≤ off * steps scale ∧ off * steps scale < 1 / 2
  else -(1 / 2) < off * steps scale ∧ off * steps scale ≤ 1 / 2

instance (scale : Nat) (x off : Rat) : Decidable (WithinHalf scale x off) := by
  unfold WithinHalf
  infer_instance

/-- A number of the grid is what a number is rounded to when it is near enough. -/
theorem roundTo_eq_iff {scale : Nat} {k : Rat} (on : OnGrid scale k) (x : Rat) :
    roundTo scale x = k ↔ WithinHalf scale x (x - k) := by
  obtain ⟨n, rfl⟩ := on
  have positive := steps_pos scale
  have off : (x - n / steps scale) * steps scale = x * steps scale - n := by
    field_simp
  unfold roundTo WithinHalf
  rw [off]
  split
  · rw [div_left_inj' (ne_of_gt positive), Int.cast_inj, Int.floor_eq_iff]
    constructor
    · rintro ⟨low, high⟩
      constructor <;> linarith
    · rintro ⟨low, high⟩
      constructor <;> linarith
  · have turned : -((⌊-x * steps scale + 1 / 2⌋ : Rat) / steps scale) = n / steps scale ↔
        ⌊-x * steps scale + 1 / 2⌋ = -n := by
      rw [← neg_div, div_left_inj' (ne_of_gt positive), neg_eq_iff_eq_neg, ← Int.cast_neg,
        Int.cast_inj]
    rw [turned, Int.floor_eq_iff]
    push_cast
    constructor
    · rintro ⟨low, high⟩
      constructor <;> linarith
    · rintro ⟨low, high⟩
      constructor <;> linarith

def errorSum (scale : Nat) (xs : List Rat) : Rat := (xs.map (fun x => x - roundTo scale x)).sum

theorem roundTo_sum_iff (scale : Nat) (xs : List Rat) :
    roundTo scale xs.sum = (xs.map (roundTo scale)).sum ↔
      WithinHalf scale xs.sum (errorSum scale xs) := by
  have errors : errorSum scale xs = xs.sum - (xs.map (roundTo scale)).sum := by
    unfold errorSum
    induction xs with
    | nil => simp
    | cons x rest ih =>
      simp only [List.map_cons, List.sum_cons, ih]
      ring
  rw [roundTo_eq_iff (onGrid_sum scale xs), errors]

end Rounding
