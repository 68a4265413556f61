import Mathlib.Tactic.IntervalCases
import LeaderProduct.TrackingStats

/-! Instants and their text of `toISOString`. Only a text of that form is read back here; what else
`new Date` reads is left open. -/
namespace LeaderProduct

section Days

def dayNumber (year : Int) (month day : Nat) : Int :=
  let shiftedYear := if month ≤ 2 then year - 1 else year
  let era := shiftedYear / 400
  let yearOfEra := shiftedYear - era * 400
  let shiftedMonth : Int := if month ≤ 2 then month + 9 else month - 3
  let dayOfYear := (153 * shiftedMonth + 2) / 5 + day - 1
  era * 146097 + (yearOfEra * 365 + yearOfEra / 4 - yearOfEra / 100 + dayOfYear) - 719468

variable {day year : Nat}
  (is_year : year = (day - day / 1460 + day / 36524 - day / 146096) / 365)

include is_year

theorem century_of_year (inside : day < 146097) : year / 100 + day / 146096 = day / 36524 := by
  have five : day / 36524 ≤ 4 := by omega
  interval_cases centuries : day / 36524 <;> omega

theorem leapYears_le : year / 4 ≤ day / 1460 := by
  have few : day / 36524 ≤ day / 1460 := Nat.div_le_div_left (by decide) (by decide)
  have upper : 365 * year ≤ day - day / 1460 + day / 36524 := by omega
  clear is_year
  generalize day / 36524 = centuries at few upper
  omega

theorem year_begins (inside : day < 146097) : 365 * year + year / 4 - year / 100 ≤ day := by
  have century := century_of_year is_year inside
  have leap := leapYears_le is_year
  omega

theorem year_ends (inside : day < 146097) :
    day < 365 * (year + 1) + (year + 1) / 4 - (year + 1) / 100 + (year + 1) / 400 := by
  have century := century_of_year is_year inside
  have leap : day / 1460 ≤ year / 4 + 1 := by omega
  have few : year ≤ 399 := by omega
  have era : day / 146096 = 0 ∨ day / 146096 = 1 := by omega
  by_cases last : (year + 1) % 100 = 0
  · obtain ⟨centuries, turn⟩ : ∃ centuries, year + 1 = 100 * centuries :=
      ⟨(year + 1) / 100, by omega⟩
    have before : year / 100 = centuries - 1 := by omega
    clear is_year leap
    rcases era with era | era <;> omega
  · have same : (year + 1) / 100 = year / 100 := by omega
    have upper : day - day / 1460 + year / 100 < 365 * (year + 1) := by omega
    clear is_year century era
    rw [same]
    by_cases quarter : (year + 1) % 4 = 0
    · have next : (year + 1) / 4 = year / 4 + 1 := by omega
      omega
    · have next : (year + 1) / 4 = year / 4 := by omega
      have exact_leap : day / 1460 ≤ year / 4 := by omega
      omega

end Days

section Civil

structure CivilDay (days era : Int) (year dayOfYear month : Nat) : Prop where
  counted : days + 719468 = era * 146097 + (365 * year + year / 4 - year / 100 + dayOfYear : Nat)
  year_le : year ≤ 399
  year_ends : 365 * year + year / 4 - year / 100 + dayOfYear <
    365 * (year + 1) + (year + 1) / 4 - (year + 1) / 100 + (year + 1) / 400
  month_le : month ≤ 11
  month_begins : (153 * month + 2) / 5 ≤ dayOfYear
  month_ends : dayOfYear < (153 * (month + 1) + 2) / 5
  date : civilDay days = (year + era * 400 + (if month < 10 then 0 else 1),
    if month < 10 then month + 3 else month - 9, dayOfYear - (153 * month + 2) / 5 + 1)

theorem civilDay_cases (days : Int) :
    ∃ era year dayOfYear month, CivilDay days era year dayOfYear month := by
  obtain ⟨era, is_era⟩ : ∃ era, era = (days + 719468) / 146097 := ⟨_, rfl⟩
  obtain ⟨day, is_day⟩ : ∃ day, day = ((days + 719468) % 146097).toNat := ⟨_, rfl⟩
  have inside : day < 146097 := by omega
  have whole : days + 719468 = era * 146097 + day := by omega
  obtain ⟨year, is_year⟩ :
      ∃ year, year = (day - day / 1460 + day / 36524 - day / 146096) / 365 := ⟨_, rfl⟩
  have begins := year_begins is_year inside
  have ends := year_ends is_year inside
  obtain ⟨dayOfYear, is_dayOfYear⟩ :
      ∃ dayOfYear, dayOfYear = day - (365 * year + year / 4 - year / 100) := ⟨_, rfl⟩
  obtain ⟨month, is_month⟩ : ∃ month, month = (5 * dayOfYear + 2) / 153 := ⟨_, rfl⟩
  refine ⟨era, year, dayOfYear, month, by omega, by omega, by omega, by omega, by omega, by omega, ?_⟩
  have spring : (if month < 10 then month + 3 else month - 9) ≤ 2 ↔ ¬month < 10 := by
    split <;> omega
  simp only [civilDay, ← is_era, ← is_day, ← is_year, ← is_dayOfYear, ← is_month, spring, ite_not]

variable {days era : Int} {year dayOfYear month : Nat}

theorem CivilDay.number (civil : CivilDay days era year dayOfYear month) :
    dayNumber (civilDay days).1 (civilDay days).2.1 (civilDay days).2.2 = days := by
  obtain ⟨counted, year_le, -, month_le, begins, -, date⟩ := civil
  have same_era : ((year : Int) + era * 400) / 400 = era := by omega
  have day_back : (153 * (month : Int) + 2) / 5 + (dayOfYear - (153 * month + 2) / 5 + 1 : Nat) - 1 =
      dayOfYear := by omega
  have calendar (shiftedYear shiftedMonth : Int) (of_year : shiftedYear = year + era * 400)
      (of_month : shiftedMonth = month) : shiftedYear / 400 * 146097 +
        ((shiftedYear - shiftedYear / 400 * 400) * 365 + (shiftedYear - shiftedYear / 400 * 400) / 4 -
          (shiftedYear - shiftedYear / 400 * 400) / 100 + ((153 * shiftedMonth + 2) / 5 +
            (dayOfYear - (153 * month + 2) / 5 + 1 : Nat) - 1)) - 719468 = days := by
    rw [of_year, of_month, same_era, day_back, add_sub_cancel_right]
    omega
  rw [date]
  unfold dayNumber
  dsimp only
  by_cases spring : month < 10
  · simp only [if_pos spring]
    rw [if_neg (by omega), if_neg (by omega)]
    exact calendar _ _ (add_zero _) (by omega)
  · simp only [if_neg spring]
    rw [if_pos (by omega), if_pos (by omega)]
    exact calendar _ _ (add_sub_cancel_right _ _) (by omega)

theorem dayNumber_civilDay (days : Int) :
    dayNumber (civilDay days).1 (civilDay days).2.1 (civilDay days).2.2 = days := by
  obtain ⟨_, _, _, _, civil⟩ := civilDay_cases days
  exact civil.number

end Civil

section Text

/-- The time value of a valid `Date`, in milliseconds. -/
abbrev JsDate := {time : Int // -8640000000000000 ≤ time ∧ time ≤ 8640000000000000}

instance : DecidableLT JsDate := fun date other => inferInstanceAs (Decidable (date.1 < other.1))

structure IsoFields where
  year : Int
  month : Nat
  day : Nat
  hour : Nat
  minute : Nat
  second : Nat
  millisecond : Nat
  deriving DecidableEq, Repr

def isoFields (time : Int) : IsoFields :=
  let date := civilDay (time / 86400000)
  let rest := (time % 86400000).toNat
  ⟨date.1, date.2.1, date.2.2, rest / 3600000, rest / 60000 % 60, rest / 1000 % 60, rest % 1000⟩

def IsoFields.time (fields : IsoFields) : Int :=
  dayNumber fields.year fields.month fields.day * 86400000 +
    (((fields.hour * 60 + fields.minute) * 60 + fields.second) * 1000 + fields.millisecond : Nat)

def digits : Nat → Nat → List Char
  | 0, _ => []
  | width + 1, n => digits width (n / 10) ++ [Nat.digitChar (n % 10)]

def isoYear (year : Int) : List Char :=
  if 0 ≤ year ∧ year ≤ 9999 then digits 4 year.toNat
  else (if year < 0 then '-' else '+') :: digits 6 year.natAbs

def IsoFields.text (fields : IsoFields) : List Char :=
  isoYear fields.year ++ '-' :: digits 2 fields.month ++ '-' :: digits 2 fields.day ++
    'T' :: digits 2 fields.hour ++ ':' :: digits 2 fields.minute ++ ':' :: digits 2 fields.second ++
    '.' :: digits 3 fields.millisecond ++ ['Z']

def toISOString (date : JsDate) : String := String.ofList (isoFields date.1).text

example : toISOString ⟨1709251199999, by decide⟩ = "2024-02-29T23:59:59.999Z" := by decide +kernel

def readDigits (width : Nat) (text : List Char) : Option (Nat × List Char) :=
  if width ≤ text.length ∧ (text.take width).all Char.isDigit then
    some (Nat.ofDigitChars 10 (text.take width) 0, text.drop width)
  else none

def expect (c : Char) : List Char → Option (List Char)
  | [] => none
  | first :: rest => if first = c then some rest else none

def readYear : List Char → Option (Int × List Char)
  | '+' :: text => (readDigits 6 text).map (fun read => (read.1, read.2))
  | '-' :: text => ((readDigits 6 text).filter (fun read => read.1 != 0)).map
      (fun read => (-read.1, read.2))
  | text => (readDigits 4 text).map (fun read => (read.1, read.2))

def readIso (text : List Char) : Option IsoFields := do
  let (year, text) ← readYear text
  let (month, text) ← (expect '-' text).bind (readDigits 2)
  let (day, text) ← (expect '-' text).bind (readDigits 2)
  let (hour, text) ← (expect 'T' text).bind (readDigits 2)
  let (minute, text) ← (expect ':' text).bind (readDigits 2)
  let (second, text) ← (expect ':' text).bind (readDigits 2)
  let (millisecond, text) ← (expect '.' text).bind (readDigits 3)
  let text ← expect 'Z' text
  if text = [] then some ⟨year, month, day, hour, minute, second, millisecond⟩ else none

/-- The date of the fields, if there is one. -/
def IsoFields.date (fields : IsoFields) : Option JsDate :=
  if valid : (-8640000000000000 ≤ fields.time ∧ fields.time ≤ 8640000000000000) ∧
      isoFields fields.time = fields then some ⟨fields.time, valid.1⟩
  else none

/-- `new Date(text)`, none where it is invalid; `otherDates` reads the texts of other forms. -/
def newDate (otherDates : String → Option JsDate) (text : String) : Option JsDate :=
  ((readIso text.toList).bind IsoFields.date).or (otherDates text)

end Text

section RoundTrip

theorem digits_length (width n : Nat) : (digits width n).length = width := by
  induction width generalizing n with
  | zero => rfl
  | succ width ih => rw [digits, List.length_append, ih, List.length_singleton]

theorem digits_isDigit (width n : Nat) : (digits width n).all Char.isDigit = true := by
  induction width generalizing n with
  | zero => rfl
  | succ width ih =>
    have last : (Nat.digitChar (n % 10)).isDigit = true := by
      rw [Nat.isDigit_digitChar]
      exact decide_eq_true (Nat.mod_lt _ (by decide))
    rw [digits, List.all_append, ih, List.all_cons, last]
    rfl

theorem ofDigitChars_digits {width n : Nat} (fits : n < 10 ^ width) :
    Nat.ofDigitChars 10 (digits width n) 0 = n := by
  induction width generalizing n with
  | zero =>
    have zero : n = 0 := by omega
    rw [zero]
    rfl
  | succ width ih =>
    have rest : n / 10 < 10 ^ width := by rw [pow_succ] at fits; omega
    rw [digits, Nat.ofDigitChars_append, ih rest,
      Nat.ofDigitChars_cons_digitChar_of_lt_ten (Nat.mod_lt _ (by decide)), Nat.ofDigitChars_nil]
    omega

theorem readDigits_digits {width n : Nat} (fits : n < 10 ^ width) (rest : List Char) :
    readDigits width (digits width n ++ rest) = some (n, rest) := by
  have front : (digits width n ++ rest).take width = digits width n :=
    List.take_left' (digits_length width n)
  have back : (digits width n ++ rest).drop width = rest :=
    List.drop_left' (digits_length width n)
  have long : width ≤ (digits width n ++ rest).length := by
    rw [List.length_append, digits_length]; exact Nat.le_add_right _ _
  rw [readDigits, front, back, if_pos ⟨long, digits_isDigit width n⟩, ofDigitChars_digits fits]

theorem expect_cons (c : Char) (rest : List Char) : expect c (c :: rest) = some rest :=
  if_pos rfl

theorem readYear_isoYear {year : Int} (fits : year.natAbs < 10 ^ 6) (rest : List Char) :
    readYear (isoYear year ++ rest) = some (year, rest) := by
  unfold isoYear
  split
  · next four =>
    have short : year.toNat < 10 ^ 4 := by omega
    have back : (year.toNat : Int) = year := Int.toNat_of_nonneg four.1
    have first_digit : ∀ c cs, digits 4 year.toNat ++ rest = c :: cs → c ≠ '+' ∧ c ≠ '-' := by
      intro c cs head
      have digit : c.isDigit = true := by
        refine List.all_eq_true.mp (digits_isDigit 4 year.toNat) c ?_
        have inside : (digits 4 year.toNat ++ rest).take 4 = digits 4 year.toNat :=
          List.take_left' (digits_length 4 year.toNat)
        rw [head] at inside
        rw [← inside]
        exact List.mem_cons_self
      constructor
      · rintro rfl; cases digit
      · rintro rfl; cases digit
    unfold readYear
    split
    · next text head => exact absurd rfl (first_digit _ _ head).1
    · next text head => exact absurd rfl (first_digit _ _ head).2
    · rw [readDigits_digits short, Option.map_some, back]
  · next long =>
    split
    · next negative =>
      have back : -(year.natAbs : Int) = year := by omega
      have nonzero : (year.natAbs != 0) = true := by simp; omega
      rw [List.cons_append, readYear, readDigits_digits fits, Option.filter_some, if_pos nonzero,
        Option.map_some, back]
    · next positive =>
      have back : (year.natAbs : Int) = year := by omega
      rw [List.cons_append, readYear, readDigits_digits fits, Option.map_some, back]

structure IsoFields.Bounded (fields : IsoFields) : Prop where
  year : fields.year.natAbs < 10 ^ 6
  month : fields.month < 10 ^ 2
  day : fields.day < 10 ^ 2
  hour : fields.hour < 10 ^ 2
  minute : fields.minute < 10 ^ 2
  second : fields.second < 10 ^ 2
  millisecond : fields.millisecond < 10 ^ 3

theorem readIso_text {fields : IsoFields} (bounded : fields.Bounded) :
    readIso fields.text = some fields := by
  simp only [readIso, IsoFields.text, List.append_assoc, List.cons_append,
    readYear_isoYear bounded.year, Option.bind_eq_bind, Option.bind_some, expect_cons,
    readDigits_digits bounded.month, readDigits_digits bounded.day, readDigits_digits bounded.hour,
    readDigits_digits bounded.minute, readDigits_digits bounded.second,
    readDigits_digits bounded.millisecond, if_true]

theorem isoFields_time (time : Int) : (isoFields time).time = time := by
  simp only [isoFields, IsoFields.time, dayNumber_civilDay]
  omega

theorem isoFields_bounded (date : JsDate) : (isoFields date.1).Bounded := by
  obtain ⟨time, lower, upper⟩ := date
  obtain ⟨era, year, dayOfYear, month, civil⟩ := civilDay_cases (time / 86400000)
  obtain ⟨counted, year_le, -, month_le, begins, ends, same⟩ := civil
  constructor <;> simp only [isoFields, same]
  case year => split <;> omega
  case month => split <;> omega
  all_goals omega

theorem newDate_toISOString (otherDates : String → Option JsDate) (date : JsDate) :
    newDate otherDates (toISOString date) = some date := by
  have read : readIso (toISOString date).toList = some (isoFields date.1) := by
    rw [toISOString, String.toList_ofList, readIso_text (isoFields_bounded date)]
  have here : (isoFields date.1).date = some date := by
    simp only [IsoFields.date, isoFields_time, and_true]
    exact dif_pos date.2
  rw [newDate, read, Option.bind_some, here, Option.some_or]

theorem not_mem_digits {c : Char} (other : c.isDigit = false) (width n : Nat) :
    c ∉ digits width n := by
  intro inside
  have digit := List.all_eq_true.mp (digits_isDigit width n) c inside
  rw [other] at digit
  cases digit

theorem bar_not_mem_text (fields : IsoFields) : '|' ∉ fields.text := by
  have bar (width n : Nat) := not_mem_digits (show '|'.isDigit = false by decide) width n
  have year : '|' ∉ isoYear fields.year := by
    unfold isoYear
    split
    · exact bar 4 _
    · split <;> simp [bar]
  simp [IsoFields.text, year, bar]

end RoundTrip
end LeaderProduct
