import LeaderProduct.IsoDates

/-! The calendar by its months, which are counted from January of the year 0. -/
namespace LeaderProduct

section Starts

def monthStart (month : Int) : Int := dayNumber (month / 12) (month % 12 + 1).toNat 1

def monthIndex (date : Int × Nat × Nat) : Int := 12 * date.1 + date.2.1 - 1

def marchStart (year : Int) : Int :=
  year / 400 * 146097 + year % 400 * 365 + year % 400 / 4 - year % 400 / 100

def sinceMarch (month : Int) : Int := (153 * month + 2) / 5

theorem monthStart_eq (month : Int) : monthStart month =
    marchStart ((month - 2) / 12) + sinceMarch ((month - 2) % 12) - 719468 := by
  have shifted : month - 2 = 12 * (month / 12) + (month % 12 - 2) := by omega
  have range : 0 ≤ month % 12 ∧ month % 12 < 12 := by omega
  unfold monthStart dayNumber marchStart sinceMarch
  dsimp only
  by_cases early : month % 12 ≤ 1
  · have year : (month - 2) / 12 = month / 12 - 1 := by omega
    have place : (month - 2) % 12 = month % 12 + 10 := by omega
    rw [if_pos (by omega), if_pos (by omega), year, place]
    omega
  · have year : (month - 2) / 12 = month / 12 := by omega
    have place : (month - 2) % 12 = month % 12 - 2 := by omega
    rw [if_neg (by omega), if_neg (by omega), year, place]
    omega

theorem marchStart_succ (year : Int) : 365 ≤ marchStart (year + 1) - marchStart year ∧
    marchStart (year + 1) - marchStart year ≤ 366 := by
  unfold marchStart
  omega

theorem monthStart_succ (month : Int) : 28 ≤ monthStart (month + 1) - monthStart month ∧
    monthStart (month + 1) - monthStart month ≤ 31 := by
  rw [monthStart_eq, monthStart_eq]
  by_cases last : (month - 2) % 12 = 11
  · have year : (month + 1 - 2) / 12 = (month - 2) / 12 + 1 := by omega
    have place : (month + 1 - 2) % 12 = 0 := by omega
    have long := marchStart_succ ((month - 2) / 12)
    rw [year, place, last]
    unfold sinceMarch
    omega
  · have year : (month + 1 - 2) / 12 = (month - 2) / 12 := by omega
    have place : (month + 1 - 2) % 12 = (month - 2) % 12 + 1 := by omega
    rw [year, place]
    unfold sinceMarch
    omega

end Starts

section Place

structure Placed (day : Int) (date : Int × Nat × Nat) : Prop where
  month_pos : 1 ≤ date.2.1
  month_le : date.2.1 ≤ 12
  pos : 1 ≤ date.2.2
  counted : day = monthStart (monthIndex date) + date.2.2 - 1
  inside : day < monthStart (monthIndex date + 1)

theorem marchStart_era (era : Int) {year : Nat} (inside : year ≤ 399) :
    marchStart (year + era * 400) = era * 146097 + (365 * year + year / 4 - year / 100 : Nat) := by
  unfold marchStart
  have same_era : ((year : Int) + era * 400) / 400 = era := by omega
  have same_year : ((year : Int) + era * 400) % 400 = year := by omega
  rw [same_era, same_year]
  omega

theorem marchStart_next (era : Int) {year : Nat} (inside : year ≤ 399) :
    marchStart (year + era * 400 + 1) = era * 146097 +
      (365 * (year + 1) + (year + 1) / 4 - (year + 1) / 100 + (year + 1) / 400 : Nat) := by
  by_cases last : year = 399
  · subst last
    unfold marchStart
    omega
  · have next := marchStart_era era (show year + 1 ≤ 399 by omega)
    have short : (year + 1) / 400 = 0 := by omega
    rw [show (year : Int) + era * 400 + 1 = (year + 1 : Nat) + era * 400 by omega, next, short]
    omega

theorem civilDay_placed (days : Int) : Placed days (civilDay days) := by
  obtain ⟨era, year, dayOfYear, month, whole, year_le, ends, month_le, begins, month_ends, date⟩ :=
    civilDay_cases days
  have march := marchStart_era era year_le
  have next_march := marchStart_next era year_le
  have index : monthIndex (civilDay days) - 2 = 12 * (year + era * 400) + month := by
    rw [date, monthIndex]
    dsimp only
    split <;> omega
  have its_year : (monthIndex (civilDay days) - 2) / 12 = year + era * 400 := by omega
  have its_place : (monthIndex (civilDay days) - 2) % 12 = month := by omega
  refine ⟨?_, ?_, ?_, ?_, ?_⟩
  · rw [date]; dsimp only; split <;> omega
  · rw [date]; dsimp only; split <;> omega
  · rw [date]; exact Nat.le_add_left _ _
  · rw [monthStart_eq, its_year, its_place, march, date, sinceMarch]
    dsimp only
    omega
  · rw [monthStart_eq]
    by_cases last : month = 11
    · have year_after : (monthIndex (civilDay days) + 1 - 2) / 12 = year + era * 400 + 1 := by omega
      have place_after : (monthIndex (civilDay days) + 1 - 2) % 12 = 0 := by omega
      rw [year_after, place_after, next_march, sinceMarch]
      omega
    · have year_after : (monthIndex (civilDay days) + 1 - 2) / 12 = year + era * 400 := by omega
      have place_after : (monthIndex (civilDay days) + 1 - 2) % 12 = month + 1 := by omega
      rw [year_after, place_after, march, sinceMarch]
      omega

end Place

section Months
variable {day month other : Int}

theorem monthStart_lt (before : month < other) : monthStart month < monthStart other := by
  obtain ⟨gap, rfl⟩ : ∃ gap : Nat, other = month + gap + 1 := ⟨(other - month - 1).toNat, by omega⟩
  clear before
  induction gap with
  | zero =>
    have next := monthStart_succ month
    simp only [Nat.cast_zero, add_zero]
    omega
  | succ gap ih =>
    have next := monthStart_succ (month + gap + 1)
    rw [Nat.cast_succ, ← add_assoc]
    omega

theorem monthStart_le (before : month ≤ other) : monthStart month ≤ monthStart other := by
  rcases before.lt_or_eq with earlier | rfl
  · exact (monthStart_lt earlier).le
  · exact le_rfl

theorem le_of_monthStart_lt (before : monthStart month < monthStart (other + 1)) :
    month ≤ other := by
  by_contra later
  have turn := monthStart_le (show other + 1 ≤ month by omega)
  omega

theorem lt_of_monthStart_lt (before : monthStart month < monthStart other) : month < other := by
  have earlier : month ≤ other - 1 := le_of_monthStart_lt (by rwa [sub_add_cancel])
  omega

theorem monthIndex_civilDay (begins : monthStart month ≤ day)
    (ends : day < monthStart (month + 1)) :
    monthIndex (civilDay day) = month := by
  obtain ⟨-, -, pos, counted, inside⟩ := civilDay_placed day
  have lower : month ≤ monthIndex (civilDay day) :=
    le_of_monthStart_lt (lt_of_le_of_lt begins inside)
  have upper : monthIndex (civilDay day) ≤ month := le_of_monthStart_lt (by omega)
  omega

theorem civilDay_eq (begins : monthStart month ≤ day) (ends : day < monthStart (month + 1)) :
    civilDay day = (month / 12, (month % 12 + 1).toNat, (day - monthStart month + 1).toNat) := by
  have index := monthIndex_civilDay begins ends
  obtain ⟨month_pos, month_le, pos, counted, -⟩ := civilDay_placed day
  rw [index] at counted
  unfold monthIndex at index
  ext1
  · dsimp only
    omega
  · ext1 <;> dsimp only <;> omega

theorem civilDay_monthStart (month : Int) :
    civilDay (monthStart month) = (month / 12, (month % 12 + 1).toNat, 1) := by
  have next := monthStart_succ month
  rw [civilDay_eq le_rfl (by omega), sub_self]
  rfl

theorem civilDay_monthEnd (month : Int) : civilDay (monthStart (month + 1) - 1) =
    (month / 12, (month % 12 + 1).toNat, (monthStart (month + 1) - monthStart month).toNat) := by
  have next := monthStart_succ month
  rw [civilDay_eq (show monthStart month ≤ _ by omega) (by omega)]
  congr 2
  omega

end Months

end LeaderProduct
