import LeaderProduct.CivilMonths

/-! The periods of a counterparty card: the current one of a preset, or the one that is asked for,
and the one before it, which it is compared with. -/
namespace LeaderProduct

section Dates

def timeClip (time : Int) : Option JsDate :=
  if range : -8640000000000000 ≤ time ∧ time ≤ 8640000000000000 then some ⟨time, range⟩ else none

def fullYear (year : Int) : Int := if 0 ≤ year ∧ year ≤ 99 then 1900 + year else year

def dateUTC (year monthIndex day : Int) : Option JsDate :=
  timeClip ((dayNumber (fullYear year + monthIndex / 12) (monthIndex % 12 + 1).toNat 1 + day - 1) *
    86400000)

variable (date : JsDate)

def getUTCFullYear : Int := (civilDay (date.1 / 86400000)).1

def getUTCMonth : Int := (civilDay (date.1 / 86400000)).2.1 - 1

def getUTCDate : Int := (civilDay (date.1 / 86400000)).2.2

def getUTCDay : Int := (date.1 / 86400000 + 4) % 7

def setUTCDate (day : Int) : Option JsDate :=
  timeClip ((dayNumber (getUTCFullYear date) (getUTCMonth date + 1).toNat 1 + day - 1) * 86400000 +
    date.1 % 86400000)

def isoDay (year : Int) (month day : Nat) : String :=
  toString year ++ "-" ++ pad 2 month ++ "-" ++ pad 2 day

def utcDay (year month day : Int) : Option JsDate := dateUTC year (month - 1) day

def addDays (days : Int) : Option JsDate := setUTCDate date (getUTCDate date + days)

def formatDay : Option JsDate → String
  | some date => isoDay (getUTCFullYear date) (getUTCMonth date + 1).toNat (getUTCDate date).toNat
  | none => "NaN-NaN-NaN"

def daysInMonth (year month : Int) : Option Int := (dateUTC year month 0).map getUTCDate

def shiftMonthsCapped (months : Int) : Option JsDate := do
  let year := getUTCFullYear date
  let monthIndex := getUTCMonth date + months
  let targetFirst ← dateUTC year monthIndex 1
  let targetYear := getUTCFullYear targetFirst
  let targetMonth := getUTCMonth targetFirst + 1
  let days ← daysInMonth targetYear targetMonth
  utcDay targetYear targetMonth (min (getUTCDate date) days)

def firstDayOfMonth (year month : Int) : Option JsDate := utcDay year month 1

def lastDayOfMonth (year month : Int) : Option JsDate :=
  (daysInMonth year month).bind (utcDay year month)

end Dates

section Periods

inductive CounterpartyPeriodPreset where
  | week | month | quarter | halfYear | year | custom
  deriving DecidableEq, Repr

structure CounterpartyCardPeriods where
  date : String
  preset : CounterpartyPeriodPreset
  periodFrom : String
  periodTo : String
  compareFrom : String
  compareTo : String
  deriving DecidableEq, Repr

structure CardClock where
  omskOffset : JsDate → Int
  otherDates : String → Option JsDate

structure PeriodDates where
  currentStart : Option JsDate
  currentEnd : Option JsDate
  compareStart : Option JsDate
  compareEnd : Option JsDate

variable (clock : CardClock) (now : JsDate)

def CardClock.today : Int := (now.1 + clock.omskOffset now) / 86400000

def toldYear (year : Int) : Int := if 0 < year then year else 1 - year

def dayParts : Int × Nat × Nat :=
  let (year, month, day) := civilDay (clock.today now)
  (toldYear year, month, day)

def lengthDays (currentStart customEnd : JsDate) : Int :=
  (2 * (customEnd.1 - currentStart.1) + 86400000) / 172800000 + 1

def customDates (periodFrom periodTo : String) : PeriodDates :=
  let currentStart := newDate clock.otherDates (periodFrom ++ "T00:00:00.000Z")
  let customEnd := newDate clock.otherDates (periodTo ++ "T00:00:00.000Z")
  let compareEnd := currentStart.bind (addDays · (-1))
  let compareStart := do
    let first ← currentStart
    let last ← customEnd
    let before ← compareEnd
    addDays before (-(lengthDays first last - 1))
  ⟨currentStart, customEnd, compareStart, compareEnd⟩

def presetDates (preset : CounterpartyPeriodPreset) (year : Int) (month day : Nat) : PeriodDates :=
  match preset with
  | .week =>
    let currentEnd := utcDay year month day
    let currentStart := currentEnd.bind fun date => addDays date (-((getUTCDay date + 6) % 7))
    let compareStart := currentStart.bind (addDays · (-7))
    ⟨currentStart, currentStart.bind (addDays · 6), compareStart, compareStart.bind (addDays · 6)⟩
  | .quarter =>
    let quarterStartMonth : Int := (month - 1) / 3 * 3 + 1
    let compareStart := firstDayOfMonth year (quarterStartMonth - 3)
    ⟨firstDayOfMonth year quarterStartMonth, lastDayOfMonth year (quarterStartMonth + 2),
      compareStart, compareStart.bind fun date => lastDayOfMonth (getUTCFullYear date) (getUTCMonth date + 3)⟩
  | .halfYear =>
    let halfStartMonth : Int := if month ≤ 6 then 1 else 7
    let compareStart := firstDayOfMonth year (halfStartMonth - 6)
    ⟨firstDayOfMonth year halfStartMonth, lastDayOfMonth year (halfStartMonth + 5), compareStart,
      compareStart.bind fun date => lastDayOfMonth (getUTCFullYear date) (getUTCMonth date + 6)⟩
  | .year => ⟨utcDay year 1 1, utcDay year 12 31, utcDay (year - 1) 1 1, utcDay (year - 1) 12 31⟩
  | .month | .custom =>
    let currentStart := utcDay year month 1
    let compareStart := currentStart.bind (shiftMonthsCapped · (-1))
    ⟨currentStart, lastDayOfMonth year month, compareStart,
      compareStart.bind fun date => lastDayOfMonth (getUTCFullYear date) (getUTCMonth date + 1)⟩

def PeriodDates.periods (dates : PeriodDates) (date : String) (preset : CounterpartyPeriodPreset) :
    CounterpartyCardPeriods where
  date := date
  preset := preset
  periodFrom := formatDay dates.currentStart
  periodTo := formatDay dates.currentEnd
  compareFrom := formatDay dates.compareStart
  compareTo := formatDay dates.compareEnd

def counterpartyCardPeriods (preset : CounterpartyPeriodPreset)
    (periodFrom periodTo : Option String) :
    Except String CounterpartyCardPeriods :=
  let (year, month, day) := dayParts clock now
  if preset = .custom then
    match periodFrom.filter (· ≠ ""), periodTo.filter (· ≠ "") with
    | some periodFrom, some periodTo =>
      .ok ((customDates clock periodFrom periodTo).periods (isoDay year month day) preset)
    | _, _ => .error "Custom counterparty-card period requires both dates"
  else .ok ((presetDates preset year month day).periods (isoDay year month day) preset)

example : (presetDates .month 2024 3 31).periods "2024-03-31" .month =
    ⟨"2024-03-31", .month, "2024-03-01", "2024-03-31", "2024-02-01", "2024-02-29"⟩ := by
  decide +kernel

example : (presetDates .quarter 2023 1 15).periods "2023-01-15" .quarter =
    ⟨"2023-01-15", .quarter, "2023-01-01", "2023-03-31", "2022-10-01", "2022-12-31"⟩ := by
  decide +kernel

end Periods

section Law

def dayText (day : Int) : String := isoDay (civilDay day).1 (civilDay day).2.1 (civilDay day).2.2

structure CustomDay where
  day : Int
  fourDigits : 0 ≤ (civilDay day).1 ∧ (civilDay day).1 ≤ 9999

def CustomDay.text (custom : CustomDay) : String :=
  String.ofList (digits 4 (civilDay custom.day).1.toNat ++
    '-' :: digits 2 (civilDay custom.day).2.1 ++
    '-' :: digits 2 (civilDay custom.day).2.2)

inductive PeriodRequest where
  | calendar (preset : CounterpartyPeriodPreset) (not_custom : preset ≠ .custom)
      (periodFrom periodTo : Option String)
  | custom (first last : CustomDay) (ordered : first.day ≤ last.day)

def PeriodRequest.periods (clock : CardClock) (now : JsDate) :
    PeriodRequest → Except String CounterpartyCardPeriods
  | .calendar preset _ periodFrom periodTo =>
    counterpartyCardPeriods clock now preset periodFrom periodTo
  | .custom first last _ => counterpartyCardPeriods clock now .custom first.text last.text

def CounterpartyPeriodPreset.months : CounterpartyPeriodPreset → Int
  | .week | .custom | .month => 1
  | .quarter => 3
  | .halfYear => 6
  | .year => 12

/-- The days from the first to the last are as many as the request means: a week, the months of one
unit of the calendar, or as many as were asked for. -/
def PeriodRequest.Long (request : PeriodRequest) (first last : Int) : Prop :=
  match request with
  | .custom asked_first asked_last _ => last - first = asked_last.day - asked_first.day
  | .calendar preset _ _ _ =>
    if preset = .week then last = first + 6
    else ∃ unit, first = monthStart (preset.months * unit) ∧
      last = monthStart (preset.months * (unit + 1)) - 1

/-- The current period is the one that was asked for, or has the day in it. -/
def PeriodRequest.Current (request : PeriodRequest) (today first last : Int) : Prop :=
  match request with
  | .custom asked_first asked_last _ => first = asked_first.day ∧ last = asked_last.day
  | .calendar _ _ _ _ => first ≤ today ∧ today ≤ last

def LinesUp (request : PeriodRequest) (today : Int) (periods : CounterpartyCardPeriods) : Prop :=
  ∃ first last compareFirst compareLast : Int,
    periods.periodFrom = dayText first ∧ periods.periodTo = dayText last ∧
    periods.compareFrom = dayText compareFirst ∧ periods.compareTo = dayText compareLast ∧
    request.Current today first last ∧ compareLast = first - 1 ∧
      request.Long compareFirst compareLast

/-- The years from 100 on, for the comparison period too where it is of months, up to the last day
that a `Date` reaches. -/
def PeriodRequest.InRange (request : PeriodRequest) (today : Int) : Prop :=
  match request with
  | .custom _ _ _ => True
  | .calendar preset _ _ _ =>
    if preset = .week then monthStart 1200 ≤ today ∧ today - (today + 3) % 7 + 6 ≤ 100000000
    else
      let unit := monthIndex (civilDay today) / preset.months
      1200 ≤ preset.months * (unit - 1) ∧ monthStart (preset.months * (unit + 1)) ≤ 100000001

end Law

section Text

theorem pad_toList {n : Nat} (short : n < 100) : (pad 2 n).toList = digits 2 n := by
  have all : ∀ n : Fin 100, (pad 2 n.1).toList = digits 2 n.1 := by decide +kernel
  exact all ⟨n, short⟩

theorem digits_inj {width n m : Nat} (short : n < 10 ^ width) (short' : m < 10 ^ width)
    (same : digits width n = digits width m) : n = m := by
  rw [← ofDigitChars_digits short, same, ofDigitChars_digits short']

theorem toString_int_inj {a b : Int} (same : (toString a).toList = (toString b).toList) :
    a = b := by
  have digit (n : Nat) (rest : List Char) : Nat.toDigits 10 n ≠ '-' :: rest := by
    intro head
    have first : '-' ∈ Nat.toDigits 10 n := by
      rw [head]
      exact List.mem_cons_self
    have digit := Nat.isDigit_of_mem_toDigits (by decide) (by decide) first
    cases digit
  have positive (n : Nat) : (toString (Int.ofNat n)).toList = Nat.toDigits 10 n := Nat.toList_repr
  have negative (n : Nat) : (toString (Int.negSucc n)).toList = '-' :: Nat.toDigits 10 (n + 1) := by
    have text : toString (Int.negSucc n) = "-" ++ Nat.repr (n + 1) := rfl
    rw [text, String.toList_append, Nat.toList_repr]
    rfl
  have back {n m : Nat} (same : Nat.toDigits 10 n = Nat.toDigits 10 m) : n = m := by
    rw [← Nat.ofDigitChars_ten_toDigits (n := n), same, Nat.ofDigitChars_ten_toDigits]
  cases a with
  | ofNat n =>
    cases b with
    | ofNat m =>
      rw [positive, positive] at same
      rw [back same]
    | negSucc m =>
      rw [positive, negative] at same
      exact absurd same (digit n _)
  | negSucc n =>
    cases b with
    | ofNat m =>
      rw [positive, negative] at same
      exact absurd same.symm (digit m _)
    | negSucc m =>
      rw [negative, negative, List.cons.injEq] at same
      have next := back same.2
      rw [show n = m by omega]

theorem isoDay_toList {month day : Nat} (short : month < 100) (short' : day < 100) (year : Int) :
    (isoDay year month day).toList =
      (toString year).toList ++ ('-' :: (digits 2 month ++ '-' :: digits 2 day)) := by
  have hyphen : "-".toList = ['-'] := rfl
  simp [isoDay, pad_toList short, pad_toList short', hyphen]

theorem isoDay_inj {year year' : Int} {month month' day day' : Nat}
    (short : month < 100 ∧ day < 100) (short' : month' < 100 ∧ day' < 100)
    (same : isoDay year month day = isoDay year' month' day') :
    year = year' ∧ month = month' ∧ day = day' := by
  have texts := congrArg String.toList same
  rw [isoDay_toList short.1 short.2, isoDay_toList short'.1 short'.2] at texts
  obtain ⟨years, rest⟩ := List.append_inj' texts (by simp [digits_length])
  obtain ⟨months, days⟩ := List.append_inj (List.cons.inj rest).2 (by simp [digits_length])
  exact ⟨toString_int_inj years, digits_inj short.1 short'.1 months,
    digits_inj short.2 short'.2 (List.cons.inj days).2⟩

theorem civilDay_short (day : Int) : (civilDay day).2.1 < 100 ∧ (civilDay day).2.2 < 100 := by
  obtain ⟨-, month_le, -, counted, inside⟩ := civilDay_placed day
  have next := monthStart_succ (monthIndex (civilDay day))
  omega

theorem dayText_inj {day other : Int} (same : dayText day = dayText other) : day = other := by
  obtain ⟨years, months, days⟩ := isoDay_inj (civilDay_short day) (civilDay_short other) same
  rw [← dayNumber_civilDay day, years, months, days, dayNumber_civilDay]

theorem dayText_ne_nan (day : Int) : dayText day ≠ "NaN-NaN-NaN" := by
  intro same
  obtain ⟨short, short'⟩ := civilDay_short day
  have texts := congrArg String.toList same
  rw [dayText, isoDay_toList short short'] at texts
  have last := congrArg List.getLast? texts
  have end_digit :
      ('-' :: (digits 2 (civilDay day).2.1 ++ '-' :: digits 2 (civilDay day).2.2)).getLast? =
      some (Nat.digitChar ((civilDay day).2.2 % 10)) := by
    simp [digits]
  rw [List.getLast?_append, end_digit, Option.some_or] at last
  have letter : Nat.digitChar ((civilDay day).2.2 % 10) = 'N' := Option.some.inj last
  have digit := Nat.isDigit_digitChar (n := (civilDay day).2.2 % 10)
  rw [letter, decide_eq_true (Nat.mod_lt _ (by decide))] at digit
  cases digit

end Text

section Midnights

def clipDay (day : Int) : Option JsDate := timeClip (day * 86400000)

def InDates (day : Int) : Prop := -100000000 ≤ day ∧ day ≤ 100000000

def Midnight (date : JsDate) (day : Int) : Prop := date.1 = day * 86400000

variable {date : JsDate} {day : Int}

theorem clipDay_cases (day : Int) :
    (InDates day ∧ ∃ date, clipDay day = some date ∧ Midnight date day) ∨
    (¬InDates day ∧ clipDay day = none) := by
  unfold clipDay timeClip InDates
  by_cases range : -100000000 ≤ day ∧ day ≤ 100000000
  · rw [dif_pos (by omega)]
    exact .inl ⟨range, _, rfl, rfl⟩
  · rw [dif_neg (by omega)]
    exact .inr ⟨range, rfl⟩

section
variable (midnight : Midnight date day)
include midnight

theorem Midnight.civil : date.1 / 86400000 = day := by
  unfold Midnight at midnight
  omega

theorem Midnight.getYear :
    getUTCFullYear date = (civilDay day).1 := by
  rw [getUTCFullYear, midnight.civil]

theorem Midnight.getMonth :
    getUTCMonth date = (civilDay day).2.1 - 1 := by
  rw [getUTCMonth, midnight.civil]

theorem Midnight.getDate : getUTCDate date = (civilDay day).2.2 := by
  rw [getUTCDate, midnight.civil]

theorem formatDay_midnight :
    formatDay (some date) = dayText day := by
  have month_pos := (civilDay_placed day).month_pos
  rw [formatDay, midnight.getYear, midnight.getMonth, midnight.getDate, sub_add_cancel]
  rfl

end

theorem formatDay_clipDay {other : Int} :
    formatDay (clipDay day) = dayText other ↔ day = other ∧ InDates day := by
  rcases clipDay_cases day with ⟨range, date, clipped, midnight⟩ | ⟨out, clipped⟩
  · rw [clipped, formatDay_midnight midnight]
    constructor
    · intro same
      exact ⟨dayText_inj same, range⟩
    · rintro ⟨rfl, -⟩
      rfl
  · rw [clipped, formatDay]
    constructor
    · intro same
      exact absurd same.symm (dayText_ne_nan other)
    · intro ⟨_, range⟩
      exact absurd range out

theorem dateUTC_eq (year monthIndex day : Int) :
    dateUTC year monthIndex day =
      clipDay (monthStart (12 * fullYear year + monthIndex) + day - 1) := by
  have its_year : (12 * fullYear year + monthIndex) / 12 =
      fullYear year + monthIndex / 12 := by omega
  have its_month : (12 * fullYear year + monthIndex) % 12 = monthIndex % 12 := by omega
  rw [dateUTC, clipDay, monthStart, its_year, its_month]

theorem addDays_midnight (midnight : Midnight date day) (days : Int) :
    addDays date days = clipDay (day + days) := by
  obtain ⟨month_pos, month_le, -, counted, -⟩ := civilDay_placed day
  have start : dayNumber (civilDay day).1 (civilDay day).2.1 1 =
      monthStart (monthIndex (civilDay day)) := by
    have its_year : monthIndex (civilDay day) / 12 = (civilDay day).1 := by
      unfold monthIndex
      omega
    have its_month : (monthIndex (civilDay day) % 12 + 1).toNat = (civilDay day).2.1 := by
      unfold monthIndex
      omega
    rw [monthStart, its_year, its_month]
  have rest : date.1 % 86400000 = 0 := by
    unfold Midnight at midnight
    omega
  rw [addDays, setUTCDate, midnight.getYear, midnight.getMonth, midnight.getDate, sub_add_cancel,
    Int.toNat_natCast, start, rest, clipDay]
  congr 1
  omega

theorem clipDay_of_inDates (range : InDates day) :
    ∃ date, clipDay day = some date ∧ Midnight date day := by
  rcases clipDay_cases day with ⟨-, found⟩ | ⟨out, -⟩
  · exact found
  · exact absurd range out

theorem daysInMonth_eq (year month : Int)
    (range : InDates (monthStart (12 * fullYear year + month) - 1)) :
    daysInMonth year month = some (monthStart (12 * fullYear year + month) -
      monthStart (12 * fullYear year + month - 1)) := by
  obtain ⟨date, clipped, midnight⟩ := clipDay_of_inDates range
  have before : 12 * fullYear year + month = 12 * fullYear year + month - 1 + 1 := by omega
  have long := monthStart_succ (12 * fullYear year + month - 1)
  rw [daysInMonth, dateUTC_eq, add_zero, clipped, Option.map_some]
  rw [before] at midnight
  rw [midnight.getDate, civilDay_monthEnd, ← before]
  rw [← before] at long
  congr 1
  dsimp only
  omega

theorem lastDayOfMonth_eq (year month : Int) :
    lastDayOfMonth year month = clipDay (monthStart (12 * fullYear year + month) - 1) := by
  rcases clipDay_cases (monthStart (12 * fullYear year + month) - 1) with ⟨range, -⟩ | ⟨-, clipped⟩
  · rw [lastDayOfMonth, daysInMonth_eq year month range, Option.bind_some, utcDay, dateUTC_eq]
    have regroup : 12 * fullYear year + (month - 1) = 12 * fullYear year + month - 1 := by omega
    rw [regroup]
    congr 1
    omega
  · rw [lastDayOfMonth, daysInMonth, dateUTC_eq, add_zero, clipped]
    rfl

theorem fullYear_of_hundred {year : Int} (late : 100 ≤ year) : fullYear year = year := by
  unfold fullYear
  omega

variable {month : Int}

theorem getUTCMonth_monthStart (midnight : Midnight date (monthStart month)) :
    getUTCFullYear date = month / 12 ∧ getUTCMonth date = month % 12 ∧ getUTCDate date = 1 := by
  rw [midnight.getYear, midnight.getMonth, midnight.getDate, civilDay_monthStart]
  refine ⟨rfl, ?_, rfl⟩
  dsimp only
  omega

theorem lastDayOfMonth_monthStart (midnight : Midnight date (monthStart month)) (months : Int) :
    lastDayOfMonth (getUTCFullYear date) (getUTCMonth date + months) =
      clipDay (monthStart (12 * fullYear (month / 12) + (month % 12 + months)) - 1) := by
  obtain ⟨year, place, -⟩ := getUTCMonth_monthStart midnight
  rw [lastDayOfMonth_eq, year, place]

theorem monthStart_ge (late : 1199 ≤ month) : -683034 ≤ monthStart month := by
  have first : monthStart 1199 = -683034 := by decide +kernel
  rw [← first]
  exact monthStart_le late

theorem monthStart_inDates (late : 1199 ≤ month) (range : monthStart month ≤ 100000000) :
    InDates (monthStart month) := by
  have early := monthStart_ge late
  exact ⟨by omega, range⟩

theorem shiftMonthsCapped_monthStart (midnight : Midnight date (monthStart month))
    (late : 1200 ≤ month) (range : monthStart month ≤ 100000000) : shiftMonthsCapped date (-1) =
      clipDay (monthStart (12 * fullYear ((month - 1) / 12) + (month - 1) % 12)) := by
  obtain ⟨year, place, first⟩ := getUTCMonth_monthStart midnight
  have before := monthStart_le (show month - 1 ≤ month by omega)
  have dated : InDates (monthStart (month - 1)) := monthStart_inDates (by omega) (by omega)
  obtain ⟨targetFirst, clipped, target⟩ := clipDay_of_inDates dated
  obtain ⟨target_year, target_place, -⟩ := getUTCMonth_monthStart target
  have century : fullYear (month / 12) = month / 12 := fullYear_of_hundred (by omega)
  have shifted : dateUTC (month / 12) (month % 12 + -1) 1 = some targetFirst := by
    rw [dateUTC_eq, century, ← clipped]
    congr 1
    rw [add_sub_cancel_right]
    congr 1
    omega
  obtain ⟨its_month, is_month⟩ : ∃ its_month,
    its_month = 12 * fullYear ((month - 1) / 12) + (month - 1) % 12 := ⟨_, rfl⟩
  have next := monthStart_succ its_month
  have its_range : InDates (monthStart (its_month + 1) - 1) := by
    -- December of the year 99 becomes that of 1999
    have turn : monthStart 24000 = 10957 := by decide +kernel
    have either : its_month + 1 = month ∨ its_month + 1 = 24000 := by
      rw [is_month]
      unfold fullYear
      omega
    have early := monthStart_ge (show 1199 ≤ month by omega)
    unfold InDates
    rcases either with same | same <;> rw [same] at next ⊢ <;> omega
  have days : daysInMonth ((month - 1) / 12) ((month - 1) % 12 + 1) =
      some (monthStart (its_month + 1) - monthStart its_month) := by
    have regroup : 12 * fullYear ((month - 1) / 12) + ((month - 1) % 12 + 1) = its_month + 1 := by
      omega
    rw [daysInMonth_eq _ _ (by rwa [regroup]), regroup, add_sub_cancel_right]
  rw [shiftMonthsCapped, year, place, first]
  simp only [shifted, target_year, target_place, days, Option.bind_eq_bind, Option.bind_some]
  rw [utcDay, dateUTC_eq, min_eq_left (by omega), ← is_month, add_sub_cancel_right,
    add_sub_cancel_right, is_month]

end Midnights

section Alignment
variable {request : PeriodRequest} {today a b c d : Int} {dates : PeriodDates}

theorem linesUp_iff (start : dates.currentStart = clipDay a) (last : dates.currentEnd = clipDay b)
    (compareStart : InDates a → dates.compareStart = clipDay c)
    (compareEnd : InDates a → InDates c → dates.compareEnd = clipDay d) (date : String)
    (preset : CounterpartyPeriodPreset) : LinesUp request today (dates.periods date preset) ↔
      (InDates a ∧ InDates b ∧ InDates c ∧ InDates d) ∧ request.Current today a b ∧ d = a - 1 ∧
        request.Long c d := by
  constructor
  · rintro ⟨first, final, compareFirst, compareLast, from_text, to_text, compare_text,
      compareTo_text, current, adjacent, long⟩
    simp only [PeriodDates.periods] at from_text to_text compare_text compareTo_text
    rw [start, formatDay_clipDay] at from_text
    rw [last, formatDay_clipDay] at to_text
    obtain ⟨rfl, range_a⟩ := from_text
    obtain ⟨rfl, range_b⟩ := to_text
    rw [compareStart range_a, formatDay_clipDay] at compare_text
    obtain ⟨rfl, range_c⟩ := compare_text
    rw [compareEnd range_a range_c, formatDay_clipDay] at compareTo_text
    obtain ⟨rfl, range_d⟩ := compareTo_text
    exact ⟨⟨range_a, range_b, range_c, range_d⟩, current, adjacent, long⟩
  · rintro ⟨⟨range_a, range_b, range_c, range_d⟩, current, adjacent, long⟩
    refine ⟨a, b, c, d, ?_, ?_, ?_, ?_, current, adjacent, long⟩ <;> simp only [PeriodDates.periods]
    · rw [start, formatDay_clipDay.mpr ⟨rfl, range_a⟩]
    · rw [last, formatDay_clipDay.mpr ⟨rfl, range_b⟩]
    · rw [compareStart range_a, formatDay_clipDay.mpr ⟨rfl, range_c⟩]
    · rw [compareEnd range_a range_c, formatDay_clipDay.mpr ⟨rfl, range_d⟩]

theorem not_linesUp_of_none (start : dates.currentStart = none) (date : String)
    (preset : CounterpartyPeriodPreset) : ¬LinesUp request today (dates.periods date preset) := by
  rintro ⟨first, _, _, _, from_text, _⟩
  simp only [PeriodDates.periods, start, formatDay] at from_text
  exact dayText_ne_nan first from_text.symm

/-- The year as the parts of the day tell it, and what `Date.UTC` makes of that. -/
theorem fullYear_told (year : Int) : 100 ≤ fullYear (toldYear year) ∧
    (100 ≤ year → fullYear (toldYear year) = year) ∧
    (year < 100 → year < fullYear (toldYear year)) := by
  unfold fullYear toldYear
  split <;> omega

theorem months_pos (preset : CounterpartyPeriodPreset) : 0 < preset.months := by
  cases preset <;> decide

/-- A preset of months: `border` says when the end of the comparison period is reckoned right. -/
theorem linesUp_months {preset : CounterpartyPeriodPreset} (not_week : preset ≠ .week)
    (not_custom : preset ≠ .custom) {periodFrom periodTo : Option String} (unit first next : Int)
    (told : 100 ≤ (civilDay today).1 → unit = monthIndex (civilDay today) / preset.months)
    (start : dates.currentStart = clipDay (monthStart (preset.months * unit)))
    (last : dates.currentEnd = clipDay (monthStart (preset.months * (unit + 1)) - 1))
    (compareStart : InDates (monthStart (preset.months * unit)) →
      dates.compareStart = clipDay (monthStart first))
    (compareEnd : InDates (monthStart (preset.months * unit)) → InDates (monthStart first) →
      dates.compareEnd = clipDay (monthStart next - 1))
    (border : next = preset.months * unit ↔ 1200 ≤ preset.months * (unit - 1))
    (whole : next = preset.months * unit → first = preset.months * (unit - 1)) (date : String) :
    LinesUp (.calendar preset not_custom periodFrom periodTo) today (dates.periods date preset) ↔
      (PeriodRequest.calendar preset not_custom periodFrom periodTo).InRange today := by
  obtain ⟨month_pos, month_le, place_pos, counted, inside⟩ := civilDay_placed today
  have positive := months_pos preset
  rw [linesUp_iff start last compareStart compareEnd]
  simp only [PeriodRequest.Current, PeriodRequest.Long, PeriodRequest.InRange, if_neg not_week]
  constructor
  · rintro ⟨⟨-, final, -⟩, ⟨begun, not_over⟩, adjacent, -⟩
    have lower : preset.months * unit ≤ monthIndex (civilDay today) :=
      le_of_monthStart_lt (by omega)
    have upper : monthIndex (civilDay today) < preset.months * (unit + 1) :=
      lt_of_monthStart_lt (by omega)
    have same : monthIndex (civilDay today) / preset.months = unit := by
      rw [mul_comm] at upper
      rw [mul_comm] at lower
      have below := Int.ediv_lt_of_lt_mul positive upper
      have above := Int.le_ediv_of_mul_le positive lower
      omega
    have reached : next = preset.months * unit := by
      have before : next ≤ preset.months * unit := by
        by_contra later
        have after := monthStart_lt (not_le.mp later)
        omega
      have behind : preset.months * unit ≤ next := by
        by_contra earlier
        have after := monthStart_lt (not_le.mp earlier)
        omega
      omega
    rw [same]
    refine ⟨border.mp reached, ?_⟩
    have bound := final.2
    omega
  · rintro ⟨late, final⟩
    have lower := Int.mul_ediv_self_le (x := monthIndex (civilDay today)) positive.ne'
    have upper := Int.lt_mul_ediv_self_add (x := monthIndex (civilDay today)) positive
    have step : preset.months * (monthIndex (civilDay today) / preset.months - 1) =
        preset.months * (monthIndex (civilDay today) / preset.months) - preset.months := by
      rw [mul_sub, mul_one]
    have year : 100 ≤ (civilDay today).1 := by
      unfold monthIndex at *
      omega
    have same := told year
    rw [← same] at late final lower upper step
    have reached := border.mpr late
    have from_unit := whole reached
    have next_unit : preset.months * (unit + 1) = preset.months * unit + preset.months := by
      rw [mul_add, mul_one]
    have before : monthStart first < monthStart next := monthStart_lt (by omega)
    have during : monthStart next < monthStart (preset.months * (unit + 1)) :=
      monthStart_lt (by omega)
    have early := monthStart_ge (show 1199 ≤ first by omega)
    rw [← reached] at lower ⊢
    have begun := monthStart_le lower
    have not_over := monthStart_le
      (show monthIndex (civilDay today) + 1 ≤ preset.months * (unit + 1) by omega)
    refine ⟨⟨?_, ?_, ?_, ?_⟩, ⟨?_, ?_⟩, rfl, unit - 1, ?_, ?_⟩
    · exact ⟨by omega, by omega⟩
    · exact ⟨by omega, by omega⟩
    · exact ⟨by omega, by omega⟩
    · exact ⟨by omega, by omega⟩
    · omega
    · omega
    · rw [from_unit]
    · rw [sub_add_cancel, reached]

theorem utcDay_first (year month : Int) :
    utcDay year month 1 = clipDay (monthStart (12 * fullYear year + (month - 1))) := by
  rw [utcDay, dateUTC_eq, add_sub_cancel_right]

variable {periodFrom periodTo : Option String} (today) (date : String)

theorem month_linesUp (day : Nat) {not_custom : CounterpartyPeriodPreset.month ≠ .custom} :
    LinesUp (.calendar .month not_custom periodFrom periodTo) today
      ((presetDates .month (toldYear (civilDay today).1) (civilDay today).2.1 day).periods date
        .month) ↔
      (PeriodRequest.calendar .month not_custom periodFrom periodTo).InRange today := by
  obtain ⟨month_pos, month_le, -⟩ := civilDay_placed today
  obtain ⟨century, told, -⟩ := fullYear_told (civilDay today).1
  obtain ⟨dates, is_dates⟩ : ∃ dates, dates = presetDates .month (toldYear (civilDay today).1)
    (civilDay today).2.1 day := ⟨_, rfl⟩
  obtain ⟨year, is_year⟩ : ∃ year, year = fullYear (toldYear (civilDay today).1) := ⟨_, rfl⟩
  obtain ⟨unit, is_unit⟩ : ∃ unit : Int, unit = 12 * year + ((civilDay today).2.1 - 1) := ⟨_, rfl⟩
  obtain ⟨before, is_before⟩ :
    ∃ before, before = 12 * fullYear ((unit - 1) / 12) + (unit - 1) % 12 := ⟨_, rfl⟩
  have start : dates.currentStart = clipDay (monthStart unit) := by
    rw [is_dates, is_unit, is_year]
    exact utcDay_first _ _
  have compareStart (range : InDates (monthStart unit)) :
      dates.compareStart = clipDay (monthStart before) := by
    obtain ⟨first, clipped, midnight⟩ := clipDay_of_inDates range
    have shifted : dates.compareStart = dates.currentStart.bind (shiftMonthsCapped · (-1)) := by
      rw [is_dates]
      rfl
    rw [shifted, start, clipped, Option.bind_some,
      shiftMonthsCapped_monthStart midnight (by omega) range.2, is_before]
  rw [← is_dates]
  refine linesUp_months (by decide) not_custom unit before (before + 1) ?_ ?_ ?_ ?_ ?_ ?_ ?_ date
  all_goals rw [show CounterpartyPeriodPreset.months .month = 1 from rfl]
  · intro late
    rw [monthIndex, is_unit, is_year, told late]
    omega
  · rw [one_mul]
    exact start
  · rw [one_mul, is_dates]
    refine (lastDayOfMonth_eq _ _).trans ?_
    rw [← is_year, is_unit]
    congr 3
    omega
  · rw [one_mul]
    exact compareStart
  · rw [one_mul]
    intro range compare_range
    obtain ⟨first, clipped, midnight⟩ := clipDay_of_inDates compare_range
    have final : dates.compareEnd = dates.compareStart.bind fun date =>
        lastDayOfMonth (getUTCFullYear date) (getUTCMonth date + 1) := by
      rw [is_dates]
      rfl
    have century : fullYear (before / 12) = before / 12 := by
      refine fullYear_of_hundred ?_
      unfold fullYear at is_before
      omega
    rw [final, compareStart range, clipped, Option.bind_some, lastDayOfMonth_monthStart midnight,
      century]
    congr 3
    omega
  · unfold fullYear at is_before
    omega
  · omega

theorem quarters_linesUp {preset : CounterpartyPeriodPreset} (not_week : preset ≠ .week)
    (not_custom : preset ≠ .custom) {startMonth : Int}
    (aligned : startMonth - 1 = ((civilDay today).2.1 - 1) / preset.months * preset.months)
    (divides : preset.months ∣ 12)
    (start : dates.currentStart = firstDayOfMonth (toldYear (civilDay today).1) startMonth)
    (last : dates.currentEnd =
      lastDayOfMonth (toldYear (civilDay today).1) (startMonth + (preset.months - 1)))
    (compareStart : dates.compareStart =
      firstDayOfMonth (toldYear (civilDay today).1) (startMonth - preset.months))
    (compareEnd : dates.compareEnd = dates.compareStart.bind fun date =>
      lastDayOfMonth (getUTCFullYear date) (getUTCMonth date + preset.months)) :
    LinesUp (.calendar preset not_custom periodFrom periodTo) today (dates.periods date preset) ↔
      (PeriodRequest.calendar preset not_custom periodFrom periodTo).InRange today := by
  obtain ⟨month_pos, month_le, -⟩ := civilDay_placed today
  obtain ⟨century, told, -⟩ := fullYear_told (civilDay today).1
  obtain ⟨year, is_year⟩ : ∃ year, year = fullYear (toldYear (civilDay today).1) := ⟨_, rfl⟩
  obtain ⟨ofYear, whole⟩ := divides
  have positive := months_pos preset
  have few : preset.months ≤ 12 := Int.le_of_dvd (by decide) ⟨ofYear, whole⟩
  obtain ⟨unit, is_unit⟩ : ∃ unit : Int,
    unit = ofYear * year + ((civilDay today).2.1 - 1) / preset.months := ⟨_, rfl⟩
  have starts : preset.months * unit = 12 * year + (startMonth - 1) := by
    rw [is_unit, mul_add, aligned, ← mul_assoc, ← whole, mul_comm preset.months]
  have before : preset.months * (unit - 1) = preset.months * unit - preset.months := by
    rw [mul_sub, mul_one]
  have after : preset.months * (unit + 1) = preset.months * unit + preset.months := by
    rw [mul_add, mul_one]
  have nonneg : 0 ≤ startMonth - 1 := by
    rw [aligned]
    exact Int.mul_nonneg (Int.ediv_nonneg (by omega) positive.le) positive.le
  obtain ⟨first, is_first⟩ : ∃ first, first = preset.months * (unit - 1) := ⟨_, rfl⟩
  have compared : dates.compareStart = clipDay (monthStart first) := by
    rw [compareStart, is_first, before, starts]
    refine (utcDay_first _ _).trans ?_
    rw [← is_year]
    congr 2
    omega
  refine linesUp_months not_week not_custom unit first
    (12 * fullYear (first / 12) + (first % 12 + preset.months)) ?_ ?_ ?_ ?_ ?_ ?_ ?_ date
  · intro late
    have index : monthIndex (civilDay today) =
        ((civilDay today).2.1 - 1) + preset.months * (ofYear * (civilDay today).1) := by
      rw [monthIndex, ← mul_assoc, ← whole]
      omega
    rw [index, Int.add_mul_ediv_left _ _ positive.ne', is_unit, is_year, told late, add_comm]
  · rw [start, starts, is_year]
    exact utcDay_first _ _
  · rw [last, lastDayOfMonth_eq, ← is_year, after, starts]
    congr 3
    omega
  · exact fun _ => compared
  · intro _ range
    obtain ⟨date, clipped, midnight⟩ := clipDay_of_inDates range
    rw [compareEnd, compared, clipped, Option.bind_some, lastDayOfMonth_monthStart midnight]
  · rw [← is_first]
    unfold fullYear
    omega
  · intro _
    exact is_first

theorem monthStart_december (year : Int) :
    monthStart (12 * year + 11) + 31 - 1 = monthStart (12 * (year + 1)) - 1 := by
  rw [monthStart_eq, monthStart_eq]
  have same_year : (12 * year + 11 - 2) / 12 = (12 * (year + 1) - 2) / 12 := by omega
  have ninth : (12 * year + 11 - 2) % 12 = 9 := by omega
  have tenth : (12 * (year + 1) - 2) % 12 = 10 := by omega
  rw [same_year, ninth, tenth]
  unfold sinceMarch
  omega

theorem year_linesUp (day : Nat) {not_custom : CounterpartyPeriodPreset.year ≠ .custom} :
    LinesUp (.calendar .year not_custom periodFrom periodTo) today
      ((presetDates .year (toldYear (civilDay today).1) (civilDay today).2.1 day).periods date
        .year) ↔
      (PeriodRequest.calendar .year not_custom periodFrom periodTo).InRange today := by
  obtain ⟨month_pos, month_le, -⟩ := civilDay_placed today
  obtain ⟨-, told, -⟩ := fullYear_told (civilDay today).1
  have told_pos : 0 < toldYear (civilDay today).1 := by
    unfold toldYear
    omega
  have first (year : Int) : utcDay year 1 1 = clipDay (monthStart (12 * fullYear year)) := by
    rw [utcDay_first, sub_self, add_zero]
  have last (year : Int) : utcDay year 12 31 =
      clipDay (monthStart (12 * (fullYear year + 1)) - 1) := by
    rw [utcDay, dateUTC_eq, ← monthStart_december]
    rfl
  refine linesUp_months (by decide) not_custom (fullYear (toldYear (civilDay today).1))
    (12 * fullYear (toldYear (civilDay today).1 - 1))
    (12 * (fullYear (toldYear (civilDay today).1 - 1) + 1)) ?_ ?_ ?_ ?_ ?_ ?_ ?_ date
  all_goals rw [show CounterpartyPeriodPreset.months .year = 12 from rfl]
  · intro late
    rw [told late, monthIndex]
    omega
  · exact first _
  · exact last _
  · exact fun _ => first _
  · exact fun _ _ => last _
  · unfold fullYear
    omega
  · omega

theorem week_linesUp {not_custom : CounterpartyPeriodPreset.week ≠ .custom} :
    LinesUp (.calendar .week not_custom periodFrom periodTo) today
      ((presetDates .week (toldYear (civilDay today).1) (civilDay today).2.1
        (civilDay today).2.2).periods date .week) ↔
      (PeriodRequest.calendar .week not_custom periodFrom periodTo).InRange today := by
  obtain ⟨month_pos, month_le, place_pos, counted, inside⟩ := civilDay_placed today
  obtain ⟨century, told, early⟩ := fullYear_told (civilDay today).1
  obtain ⟨year, is_year⟩ : ∃ year, year = fullYear (toldYear (civilDay today).1) := ⟨_, rfl⟩
  obtain ⟨seen, is_seen⟩ : ∃ seen, seen =
    monthStart (12 * year + ((civilDay today).2.1 - 1)) + (civilDay today).2.2 - 1 := ⟨_, rfl⟩
  obtain ⟨dates, is_dates⟩ : ∃ dates, dates = presetDates .week (toldYear (civilDay today).1)
    (civilDay today).2.1 (civilDay today).2.2 := ⟨_, rfl⟩
  have late_seen : monthStart 1200 ≤ seen := by
    have late := monthStart_le (show 1200 ≤ 12 * year + ((civilDay today).2.1 - 1) by omega)
    omega
  have start : dates.currentStart =
      (clipDay seen).bind fun date => addDays date (-((getUTCDay date + 6) % 7)) := by
    rw [is_dates, is_seen, is_year, ← dateUTC_eq]
    rfl
  have same (late : 100 ≤ (civilDay today).1) : seen = today := by
    rw [monthIndex] at counted
    rw [counted, is_seen, is_year, told late]
    congr 3
    omega
  have late_of (begun : monthStart 1200 ≤ today) : 100 ≤ (civilDay today).1 := by
    have index := le_of_monthStart_lt (lt_of_le_of_lt begun inside)
    unfold monthIndex at index
    omega
  have hundred : monthStart 1200 = -683003 := by decide +kernel
  rw [← is_dates]
  simp only [PeriodRequest.InRange, if_true]
  rcases clipDay_cases seen with ⟨range, date, clipped, midnight⟩ | ⟨out, clipped⟩
  · obtain ⟨monday, is_monday⟩ : ∃ monday, monday = seen - (seen + 3) % 7 := ⟨_, rfl⟩
    have in_week : InDates monday ∧ InDates (monday - 7) := by
      unfold InDates at range ⊢
      omega
    have monday_start : dates.currentStart = clipDay monday := by
      rw [start, clipped, Option.bind_some, addDays_midnight midnight, getUTCDay, midnight.civil]
      congr 1
      omega
    obtain ⟨first, first_clipped, first_midnight⟩ := clipDay_of_inDates in_week.1
    obtain ⟨before, before_clipped, before_midnight⟩ := clipDay_of_inDates in_week.2
    have currentEnd : dates.currentEnd = clipDay (monday + 6) := by
      have added : dates.currentEnd = dates.currentStart.bind (addDays · 6) := by
        rw [is_dates]
        rfl
      rw [added, monday_start, first_clipped, Option.bind_some, addDays_midnight first_midnight]
    have compareStart : dates.compareStart = clipDay (monday - 7) := by
      have added : dates.compareStart = dates.currentStart.bind (addDays · (-7)) := by
        rw [is_dates]
        rfl
      rw [added, monday_start, first_clipped, Option.bind_some, addDays_midnight first_midnight]
      rfl
    have compareEnd : dates.compareEnd = clipDay (monday - 7 + 6) := by
      have added : dates.compareEnd = dates.compareStart.bind (addDays · 6) := by
        rw [is_dates]
        rfl
      rw [added, compareStart, before_clipped, Option.bind_some, addDays_midnight before_midnight]
    rw [linesUp_iff monday_start currentEnd (fun _ => compareStart) (fun _ _ => compareEnd)]
    simp only [PeriodRequest.Current, PeriodRequest.Long, if_true]
    unfold InDates at range ⊢
    constructor
    · rintro ⟨⟨-, final, -⟩, ⟨begun, not_over⟩, -⟩
      have late : 100 ≤ (civilDay today).1 := by
        by_contra before_century
        have ahead := early (not_le.mp before_century)
        have months := monthStart_le (show monthIndex (civilDay today) + 1 ≤
          12 * year + ((civilDay today).2.1 - 1) by unfold monthIndex; omega)
        have long := monthStart_succ (monthIndex (civilDay today))
        omega
      have today_seen := same late
      omega
    · rintro ⟨begun, final⟩
      rw [same (late_of begun)] at is_monday
      refine ⟨⟨?_, ?_, ?_, ?_⟩, ⟨?_, ?_⟩, ?_, trivial⟩ <;> omega
  · refine iff_of_false (not_linesUp_of_none (by rw [start, clipped]; rfl) _ _) ?_
    rintro ⟨begun, final⟩
    have today_seen := same (late_of begun)
    unfold InDates at out
    omega

end Alignment

section Custom
variable (clock : CardClock) (now : JsDate) {periodFrom periodTo : Option String}

theorem CustomDay.bounds (custom : CustomDay) : -719528 ≤ custom.day ∧ custom.day < 2932897 := by
  obtain ⟨month_pos, month_le, pos, counted, inside⟩ := civilDay_placed custom.day
  obtain ⟨begun, not_over⟩ := custom.fourDigits
  have first : monthStart 0 = -719528 := by decide +kernel
  have past : monthStart 120000 = 2932897 := by decide +kernel
  have lower := monthStart_le
    (show 0 ≤ monthIndex (civilDay custom.day) by unfold monthIndex; omega)
  have upper := monthStart_le (show monthIndex (civilDay custom.day) + 1 ≤ 120000 by
    unfold monthIndex; omega)
  omega

theorem newDate_custom (custom : CustomDay) :
    newDate clock.otherDates (custom.text ++ "T00:00:00.000Z") = clipDay custom.day := by
  obtain ⟨lower, upper⟩ := custom.bounds
  have dated : InDates custom.day := by
    unfold InDates
    omega
  obtain ⟨date, clipped, midnight⟩ := clipDay_of_inDates dated
  have text : custom.text ++ "T00:00:00.000Z" = toISOString date := by
    have time : date.1 % 86400000 = 0 := by
      unfold Midnight at midnight
      omega
    have year : isoYear (civilDay custom.day).1 = digits 4 (civilDay custom.day).1.toNat :=
      if_pos custom.fourDigits
    have zeros : digits 2 0 = ['0', '0'] ∧ digits 3 0 = ['0', '0', '0'] := by decide
    have ending : "T00:00:00.000Z" = String.ofList
        ['T', '0', '0', ':', '0', '0', ':', '0', '0', '.', '0', '0', '0', 'Z'] := rfl
    rw [toISOString, IsoFields.text, CustomDay.text, ending, ← String.ofList_append]
    simp only [isoFields, midnight.civil, time, Int.toNat_zero, Nat.zero_div, Nat.zero_mod,
      zeros, year]
    simp
  rw [text, newDate_toISOString, clipped]

theorem CustomDay.text_ne (custom : CustomDay) : custom.text ≠ "" := by
  intro empty
  have long := congrArg (fun text => text.toList.length) empty
  simp [CustomDay.text, digits_length] at long

theorem custom_linesUp (first last : CustomDay) (ordered : first.day ≤ last.day) (date : String)
    (today : Int) : LinesUp (.custom first last ordered) today
      ((customDates clock first.text last.text).periods date .custom) := by
  obtain ⟨lower, upper⟩ := first.bounds
  obtain ⟨lower', upper'⟩ := last.bounds
  obtain ⟨days, is_days⟩ : ∃ days, days = last.day - first.day := ⟨_, rfl⟩
  have range : InDates first.day ∧ InDates last.day ∧ InDates (first.day - 1 - days) ∧
      InDates (first.day - 1) := by
    unfold InDates
    omega
  obtain ⟨start, start_clipped, start_midnight⟩ := clipDay_of_inDates range.1
  obtain ⟨final, final_clipped, final_midnight⟩ := clipDay_of_inDates range.2.1
  obtain ⟨before, before_clipped, before_midnight⟩ := clipDay_of_inDates range.2.2.2
  have long : lengthDays start final - 1 = days := by
    unfold Midnight at start_midnight final_midnight
    unfold lengthDays
    omega
  have currentStart : (customDates clock first.text last.text).currentStart =
      clipDay first.day := by
    simp only [customDates, newDate_custom]
  have currentEnd : (customDates clock first.text last.text).currentEnd = clipDay last.day := by
    simp only [customDates, newDate_custom]
  have compareEnd : (customDates clock first.text last.text).compareEnd =
      clipDay (first.day - 1) := by
    simp only [customDates, newDate_custom, start_clipped, Option.bind_some]
    rw [addDays_midnight start_midnight]
    rfl
  have compareStart : (customDates clock first.text last.text).compareStart =
      clipDay (first.day - 1 - days) := by
    have added : addDays start (-1) = clipDay (first.day - 1) := addDays_midnight start_midnight _
    simp only [customDates, newDate_custom, start_clipped, final_clipped, Option.bind_eq_bind,
      Option.bind_some, added, before_clipped]
    rw [addDays_midnight before_midnight, long]
    rfl
  rw [linesUp_iff currentStart currentEnd (fun _ => compareStart) (fun _ _ => compareEnd)]
  refine ⟨range, ⟨rfl, rfl⟩, rfl, ?_⟩
  simp only [PeriodRequest.Long]
  omega

theorem preset_periods (preset : CounterpartyPeriodPreset) (not_custom : preset ≠ .custom) :
    counterpartyCardPeriods clock now preset periodFrom periodTo =
      .ok ((presetDates preset (toldYear (civilDay (clock.today now)).1)
        (civilDay (clock.today now)).2.1 (civilDay (clock.today now)).2.2).periods
        (isoDay (toldYear (civilDay (clock.today now)).1) (civilDay (clock.today now)).2.1
          (civilDay (clock.today now)).2.2) preset) :=
  if_neg not_custom

theorem custom_periods (first last : CustomDay) (ordered : first.day ≤ last.day) :
    (PeriodRequest.custom first last ordered).periods clock now =
      .ok ((customDates clock first.text last.text).periods
        (isoDay (dayParts clock now).1 (dayParts clock now).2.1 (dayParts clock now).2.2)
          .custom) := by
  have texts : (some first.text).filter (· ≠ "") = some first.text ∧
      (some last.text).filter (· ≠ "") = some last.text := by
    simp [Option.filter_some, first.text_ne, last.text_ne]
  simp only [PeriodRequest.periods, counterpartyCardPeriods, if_true, texts]

theorem PeriodRequest.periods_ok (request : PeriodRequest) :
    ∃ periods, request.periods clock now = .ok periods := by
  cases request with
  | calendar preset not_custom periodFrom periodTo =>
    exact ⟨_, preset_periods clock now preset not_custom⟩
  | custom first last ordered => exact ⟨_, custom_periods clock now first last ordered⟩

/-- Whatever the instant, the offset and the request: the periods line up from the year 100 on, for
a comparison period of months too, as far as a `Date` reaches, and always where they were asked
for. -/
theorem card_periods_line_up_iff (request : PeriodRequest) :
    (∃ periods, request.periods clock now = .ok periods ∧
      LinesUp request (clock.today now) periods) ↔ request.InRange (clock.today now) := by
  have only {answer : Except String CounterpartyCardPeriods} {given : CounterpartyCardPeriods}
      (same : answer = .ok given) : (∃ periods, answer = .ok periods ∧
        LinesUp request (clock.today now) periods) ↔ LinesUp request (clock.today now) given := by
    rw [same]
    constructor
    · rintro ⟨periods, found, lined⟩
      cases found
      exact lined
    · exact fun lined => ⟨given, rfl, lined⟩
  cases request with
  | custom first last ordered =>
    rw [only (custom_periods clock now first last ordered)]
    exact iff_of_true (custom_linesUp clock first last ordered _ _) trivial
  | calendar preset not_custom periodFrom periodTo =>
    refine (only (preset_periods clock now preset not_custom)).trans ?_
    obtain ⟨month_pos, month_le, -⟩ := civilDay_placed (clock.today now)
    cases preset with
    | week => exact week_linesUp _ _
    | month => exact month_linesUp _ _ _
    | quarter =>
      refine quarters_linesUp _ _ (by decide) not_custom ?_ ⟨4, rfl⟩ rfl ?_ rfl rfl
      · rw [show CounterpartyPeriodPreset.months .quarter = 3 from rfl]
        omega
      · rfl
    | halfYear =>
      refine quarters_linesUp _ _ (by decide) not_custom ?_ ⟨2, rfl⟩ rfl ?_ rfl rfl
      · rw [show CounterpartyPeriodPreset.months .halfYear = 6 from rfl]
        split <;> omega
      · rfl
    | year => exact year_linesUp _ _ _
    | custom => exact absurd rfl not_custom

/-- In January of the year 100 the month before ends in 1999. -/
theorem century_compares_with_1999 :
    ¬∀ (clock : CardClock) (now : JsDate) (request : PeriodRequest),
    ∃ periods, request.periods clock now = .ok periods ∧
      LinesUp request (clock.today now) periods := by
  intro claimed
  obtain ⟨periods, answer, lined⟩ := claimed ⟨fun _ => 0, fun _ => none⟩
    ⟨-59010249600000, by decide⟩ (.calendar .month (by decide) none none)
  cases answer
  have late := ((month_linesUp _ _ _).mp lined).1
  revert late
  decide +kernel

end Custom

end LeaderProduct
