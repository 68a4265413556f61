import LeaderProduct.AppealLaborRules

/-! The payment states by which the analytics of appeals are filtered. -/
namespace LeaderProduct
open Transition

section Where

inductive AnalyticsPaymentState where
  | paid | unpaid | unset | notRequired
  deriving DecidableEq, Repr

structure AnalyticsFilter where
  isAdmin : Bool
  managedDepartmentIds : List Nat
  departmentId : Option Nat
  createdWithin : Nat → Bool
  assigneeUserId : Option Nat
  status : Option AppealStatus
  paymentState : Option AnalyticsPaymentState
  found : Nat → Bool

def LaborBook.someEntry (book : LaborBook) (condition : LaborEntry → Bool) : Bool :=
  book.entries.entries.any (fun row => condition row.2)

def hoursDue (entry : LaborEntry) : Bool :=
  decide (0 < entry.hours) && [LaborPaymentStatus.unpaid, .paidInPart].contains entry.paymentStatus

def hoursPaid (entry : LaborEntry) : Bool :=
  decide (0 < entry.hours) && entry.paymentStatus == .paid

/-- The part of `buildAnalyticsAppealsWhere` for the payment state. -/
def paymentStateWhere (laborNotRequired : Bool) (book : LaborBook) : AnalyticsPaymentState → Bool
  | .unpaid => book.someEntry hoursDue
  | .paid => book.someEntry hoursPaid && !book.someEntry hoursDue
  | .notRequired => laborNotRequired ||
      (book.someEntry (fun entry => entry.paymentStatus == .notRequired) &&
        !book.someEntry (fun entry =>
          [LaborPaymentStatus.paid, .unpaid, .paidInPart].contains entry.paymentStatus))
  | .unset => !laborNotRequired &&
      !book.someEntry (fun entry =>
        [LaborPaymentStatus.paid, .unpaid, .paidInPart, .notRequired].contains entry.paymentStatus)

/-- A department number 0 counts as none given. -/
def departmentWhere (filter : AnalyticsFilter) (toDepartmentId : Nat) : Bool :=
  let departmentId := filter.departmentId.filter (fun id => id != 0)
  if filter.isAdmin then departmentId.all (fun id => toDepartmentId == id)
  else match departmentId with
    | some id => toDepartmentId == id
    | none => filter.managedDepartmentIds.contains toDepartmentId

def buildAnalyticsAppealsWhere (filter : AnalyticsFilter) (desk : LaborDesk) (appealId : Nat) : Bool :=
  (desk.appeals appealId).any (fun appeal =>
    departmentWhere filter appeal.toDepartmentId &&
      filter.status.all (fun status => appeal.status == status) &&
      (filter.assigneeUserId.filter (fun id => id != 0)).all appeal.assignees.contains) &&
    filter.paymentState.all
      (paymentStateWhere (desk.laborNotRequired appealId) (desk.books appealId)) &&
    filter.createdWithin appealId && filter.found appealId

end Where

section State
variable {book : LaborBook} {laborNotRequired : Bool}

theorem some_iff {condition : LaborEntry → Bool} : book.someEntry condition = true ↔
    ∃ a entry, book.entries.lookup a = some entry ∧ condition entry = true := by
  rw [LaborBook.someEntry, List.any_eq_true]
  constructor
  · rintro ⟨⟨a, entry⟩, stored, meets⟩
    exact ⟨a, entry, AList.mem_lookup_iff.mpr stored, meets⟩
  · rintro ⟨a, entry, found, meets⟩
    exact ⟨⟨a, entry⟩, AList.mem_lookup_iff.mp found, meets⟩

theorem some_congr {first second : LaborEntry → Bool}
    (same : ∀ a entry, book.entries.lookup a = some entry → first entry = second entry) :
    book.someEntry first = book.someEntry second := by
  rw [Bool.eq_iff_iff, some_iff, some_iff]
  constructor
  · rintro ⟨a, entry, found, meets⟩
    exact ⟨a, entry, found, same a entry found ▸ meets⟩
  · rintro ⟨a, entry, found, meets⟩
    exact ⟨a, entry, found, (same a entry found).trans meets⟩

theorem some_or (first second : LaborEntry → Bool) :
    book.someEntry (fun entry => first entry || second entry) =
      (book.someEntry first || book.someEntry second) := by
  rw [Bool.eq_iff_iff, Bool.or_eq_true, some_iff, some_iff, some_iff]
  simp only [Bool.or_eq_true, and_or_left, exists_or]

theorem some_false : book.someEntry (fun _ => false) = false := by
  simp [LaborBook.someEntry]

variable (fits : book.Fits laborNotRequired)
include fits

theorem LaborBook.Fits.worked {a : Nat} {entry : LaborEntry}
    (found : book.entries.lookup a = some entry) (due : entry.paymentStatus ≠ .notRequired) :
    0 < entry.hours := by
  have sound := (fits a entry found).1
  refine sound.worked fun zero => due ?_
  rw [sound.status, if_pos zero]

theorem some_settled_or_due :
    book.someEntry (fun entry =>
        [LaborPaymentStatus.paid, .unpaid, .paidInPart].contains entry.paymentStatus) =
      (book.someEntry hoursPaid || book.someEntry hoursDue) := by
  rw [← some_or]
  refine some_congr fun a entry found => ?_
  cases status : entry.paymentStatus with
  | notRequired => simp [hoursPaid, hoursDue, status]
  | unpaid => simp [hoursPaid, hoursDue, status, fits.worked found (by simp [status])]
  | paidInPart => simp [hoursPaid, hoursDue, status, fits.worked found (by simp [status])]
  | paid => simp [hoursPaid, hoursDue, status, fits.worked found (by simp [status])]

theorem none_due (exempt : laborNotRequired = true) :
    book.someEntry hoursPaid = false ∧ book.someEntry hoursDue = false := by
  have status (a : Nat) (entry : LaborEntry) (found : book.entries.lookup a = some entry) :=
    ((fits a entry found).2 exempt).1
  constructor
  · refine (some_congr fun a entry found => ?_).trans some_false
    simp [hoursPaid, status a entry found]
  · refine (some_congr fun a entry found => ?_).trans some_false
    simp [hoursDue, status a entry found]

omit fits in
theorem some_of_four :
    book.someEntry (fun entry =>
        [LaborPaymentStatus.paid, .unpaid, .paidInPart, .notRequired].contains entry.paymentStatus) =
      (book.someEntry (fun entry =>
          [LaborPaymentStatus.paid, .unpaid, .paidInPart].contains entry.paymentStatus) ||
        book.someEntry (fun entry => entry.paymentStatus == .notRequired)) := by
  rw [← some_or]
  refine some_congr fun a entry _ => ?_
  cases entry.paymentStatus <;> rfl

def LaborBook.paymentState (book : LaborBook) (laborNotRequired : Bool) : AnalyticsPaymentState :=
  match laborNotRequired, book.someEntry hoursDue, book.someEntry hoursPaid,
      book.someEntry (fun entry => entry.paymentStatus == .notRequired) with
  | true, _, _, _ => .notRequired
  | false, true, _, _ => .unpaid
  | false, false, true, _ => .paid
  | false, false, false, true => .notRequired
  | false, false, false, false => .unset

theorem paymentStateWhere_eq (state : AnalyticsPaymentState) :
    paymentStateWhere laborNotRequired book state =
      decide (state = book.paymentState laborNotRequired) := by
  cases exempt : laborNotRequired with
  | true =>
    obtain ⟨none_paid, none_due⟩ := none_due fits exempt
    cases state <;> simp [paymentStateWhere, LaborBook.paymentState, none_paid, none_due]
  | false =>
    cases due : book.someEntry hoursDue <;> cases paid : book.someEntry hoursPaid <;>
      cases spared : book.someEntry (fun entry => entry.paymentStatus == .notRequired) <;>
      cases state <;>
      simp only [paymentStateWhere, LaborBook.paymentState, some_of_four,
        some_settled_or_due fits, due, paid, spared] <;> decide

end State

section Runs
variable {desk : LaborDesk}

def PaymentStatesPartition (desk : LaborDesk) : Prop :=
  ∀ (filter : AnalyticsFilter) (appealId : Nat),
    let found (paymentState : Option AnalyticsPaymentState) : Prop :=
      buildAnalyticsAppealsWhere { filter with paymentState } desk appealId = true
    (found none → ∃! state, found (some state)) ∧ ∀ state, found (some state) → found none

theorem AllFit.partition (fit : AllFit desk) : PaymentStatesPartition desk := by
  intro filter appealId
  have one (state : AnalyticsPaymentState) := paymentStateWhere_eq (fit appealId) state
  have split (paymentState : Option AnalyticsPaymentState) :
      buildAnalyticsAppealsWhere { filter with paymentState } desk appealId = true ↔
        buildAnalyticsAppealsWhere { filter with paymentState := none } desk appealId = true ∧
          ∀ state ∈ paymentState,
            state = (desk.books appealId).paymentState (desk.laborNotRequired appealId) := by
    cases paymentState with
    | none => simp
    | some state =>
      simp [buildAnalyticsAppealsWhere, departmentWhere, one, and_comm, and_left_comm]
  simp only [split (some _), Option.mem_some_iff, forall_eq']
  refine ⟨fun found => ⟨_, ⟨found, rfl⟩, fun state meets => meets.2⟩, fun state meets => meets.1⟩

end Runs
end LeaderProduct
