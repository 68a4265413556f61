import Mathlib.Data.List.AList
import Mathlib.Data.Rat.Floor
import LeaderProduct.AppealReopening
import LeaderProduct.Order

/-! The hours that the assignees of an appeal have worked, what is paid of them, and the audit log
of both. -/
namespace LeaderProduct

section Hours

def round2 (value : Rat) : Rat :=
  if value < 0 then -(⌊-value * 100 + 1 / 2⌋ / 100) else ⌊value * 100 + 1 / 2⌋ / 100

def normalizeHourValue (value : Rat) : Rat := max 0 (round2 value)

structure DepartmentPayment where
  appealPaymentRequired : Bool
  appealLaborHourlyRate : Rat

def resolveEffectiveHourlyRate (payment : DepartmentPayment) (assigneeHourlyRate : Option Rat) : Rat :=
  if payment.appealPaymentRequired then
    let candidate := assigneeHourlyRate.getD payment.appealLaborHourlyRate
    if candidate ≤ 0 then 0 else round2 candidate
  else 0

inductive LaborPaymentStatus where
  | unpaid | paidInPart | paid | notRequired
  deriving DecidableEq, Repr

def deriveLaborPaymentStatus (payable : Bool) (accruedHours paidHours : Rat) : LaborPaymentStatus :=
  let accrued := normalizeHourValue accruedHours
  let paid := normalizeHourValue paidHours
  if !payable then .notRequired
  else if accrued ≤ 0 ∨ paid ≤ 0 then .unpaid
  else if paid < accrued then .paidInPart
  else .paid

def resolveLegacyPaidHours (accruedHours : Rat) (paymentStatus : Option LaborPaymentStatus)
    (previousPaidHours : Rat) : Rat :=
  let accrued := normalizeHourValue accruedHours
  match paymentStatus with
  | some .paid => accrued
  | some .unpaid => 0
  | some .notRequired => 0
  | some .paidInPart => min (normalizeHourValue previousPaidHours) accrued
  | none => min (normalizeHourValue previousPaidHours) accrued

end Hours

section Rows

structure LaborFigures where
  hours : Rat
  paidHours : Rat
  paymentStatus : LaborPaymentStatus
  deriving DecidableEq, Repr

structure LaborEntry extends LaborFigures where
  effectiveHourlyRateRub : Rat
  paidAt : Option Int
  paidById : Option Nat
  deriving DecidableEq, Repr

structure LaborAudit where
  assigneeUserId : Nat
  changedById : Nat
  old : Option LaborFigures
  new : LaborFigures

structure LaborBook where
  entries : AList (fun _ : Nat => LaborEntry)
  log : List LaborAudit

structure LaborItem where
  assigneeUserId : Nat
  accruedHours : Option Rat
  paidHours : Option Rat
  hours : Option Rat
  paymentStatus : Option LaborPaymentStatus

/-- Quarters of an hour, up to what the schema tolerates. -/
def laborHoursValid (hours : Rat) : Bool :=
  decide (0 ≤ hours) && decide (hours ≤ 9999) &&
    decide (|hours * 4 - ⌊hours * 4 + 1 / 2⌋| < 1 / 1000000000)

def LaborItem.valid (item : LaborItem) : Bool :=
  item.accruedHours.all laborHoursValid && item.paidHours.all laborHoursValid &&
    item.hours.all laborHoursValid && (item.accruedHours.isSome || item.hours.isSome)

structure LaborBody where
  laborNotRequired : Bool
  items : List LaborItem
  valid : items.all LaborItem.valid = true

end Rows

section Upsert

/-- What a request has read before its transaction: `relock` is the mark of the appeal that no labor
was required, `rates` the own rates of the assignees. -/
structure LaborSettings where
  actingUserId : Nat
  now : Int
  payment : DepartmentPayment
  relock : Bool
  rates : Nat → Option Rat

variable (settings : LaborSettings)

def LaborItem.lockedRate (item : LaborItem) (prev : Option LaborEntry) : Rat :=
  let effective := resolveEffectiveHourlyRate settings.payment (settings.rates item.assigneeUserId)
  match prev with
  | none => effective
  | some entry => if settings.relock then effective else round2 entry.effectiveHourlyRateRub

def LaborItem.requestedPaidHours (item : LaborItem) (accruedHours previousPaidHours : Rat) : Rat :=
  match item.paidHours with
  | some paid => normalizeHourValue paid
  | none => resolveLegacyPaidHours accruedHours item.paymentStatus previousPaidHours

def LaborItem.figures (item : LaborItem) (prev : Option LaborEntry) :
    Except AppealRefusal (Option LaborFigures) :=
  let accruedHours := normalizeHourValue ((item.accruedHours.or item.hours).getD 0)
  let previousPaidHours := normalizeHourValue (prev.elim 0 (·.paidHours))
  let paidHours := item.requestedPaidHours accruedHours previousPaidHours
  let payable := decide (0 < item.lockedRate settings prev)
  if accruedHours < paidHours then
    .error ⟨400, "Оплаченные часы не могут превышать начисленные"⟩
  else
    let paidHours := if payable then paidHours else 0
    if accruedHours ≤ 0 ∧ paidHours ≤ 0 then .ok none
    else .ok (some ⟨accruedHours, paidHours,
      deriveLaborPaymentStatus payable accruedHours paidHours⟩)

def zeroFigures : LaborFigures := ⟨0, 0, .unpaid⟩

def LaborBook.audit (book : LaborBook) (assigneeUserId changedById : Nat)
    (prev : Option LaborEntry) (new : LaborFigures) : LaborBook :=
  let old := prev.map (·.toLaborFigures)
  if old = some new then book
  else { book with log := book.log ++ [⟨assigneeUserId, changedById, old, new⟩] }

@[simp] theorem audit_entries (book : LaborBook) (assigneeUserId changedById : Nat)
    (prev : Option LaborEntry) (new : LaborFigures) :
    (book.audit assigneeUserId changedById prev new).entries = book.entries := by
  unfold LaborBook.audit
  simp only
  split <;> rfl

def LaborBook.put (book : LaborBook) (assigneeUserId : Nat) (entry : LaborEntry) : LaborBook :=
  { book with entries := book.entries.insert assigneeUserId entry }

def LaborBook.delete (book : LaborBook) (assigneeUserId : Nat) : Except AppealRefusal LaborBook :=
  if assigneeUserId ∈ book.entries then
    .ok { book with entries := book.entries.erase assigneeUserId }
  else .error ⟨500, "Ошибка сохранения трудозатрат"⟩

def LaborItem.entry (item : LaborItem) (prev : Option LaborEntry) (figures : LaborFigures) :
    LaborEntry :=
  let paid := figures.paymentStatus = .paid
  { figures with
    effectiveHourlyRateRub := item.lockedRate settings prev
    paidAt := if paid then some ((prev.bind (·.paidAt)).getD settings.now) else none
    paidById := if paid then some ((prev.bind (·.paidById)).getD settings.actingUserId) else none }

def LaborItem.write (item : LaborItem) (prev : Option LaborEntry) (book : LaborBook) :
    Option LaborFigures → Except AppealRefusal LaborBook
  | none => if prev.isSome then book.delete item.assigneeUserId else .ok book
  | some figures => .ok (book.put item.assigneeUserId (item.entry settings prev figures))

def applyLaborItem (prev : Nat → Option LaborEntry) (book : LaborBook) (item : LaborItem) :
    Except AppealRefusal LaborBook := do
  let prev := prev item.assigneeUserId
  let figures ← item.figures settings prev
  let written ← item.write settings prev book figures
  return written.audit item.assigneeUserId settings.actingUserId prev (figures.getD zeroFigures)

theorem applyLaborItem_ok {settings : LaborSettings} {prev : Nat → Option LaborEntry}
    {book book' : LaborBook} {item : LaborItem}
    (done : applyLaborItem settings prev book item = .ok book') :
    ∃ figures written, item.figures settings (prev item.assigneeUserId) = .ok figures ∧
      item.write settings (prev item.assigneeUserId) book figures = .ok written ∧
      book' = written.audit item.assigneeUserId settings.actingUserId (prev item.assigneeUserId)
        (figures.getD zeroFigures) := by
  obtain ⟨figures, found, rest⟩ := (except_bind_ok _ _ _).mp done
  obtain ⟨written, wrote, rest⟩ := (except_bind_ok _ _ _).mp rest
  exact ⟨figures, written, found, wrote, (Except.ok.inj rest).symm⟩

def applyLaborItems (prev : Nat → Option LaborEntry) :
    LaborBook → List LaborItem → Except AppealRefusal LaborBook
  | book, [] => .ok book
  | book, item :: rest => do
    let book ← applyLaborItem settings prev book item
    applyLaborItems prev book rest

def removeUnnamed (items : List LaborItem) :
    LaborBook → List (Sigma fun _ : Nat => LaborEntry) → Except AppealRefusal LaborBook
  | book, [] => .ok book
  | book, ⟨assigneeUserId, entry⟩ :: rest =>
    if items.any (fun item => item.assigneeUserId == assigneeUserId) then
      removeUnnamed items book rest
    else do
      let deleted ← book.delete assigneeUserId
      removeUnnamed items
        (deleted.audit assigneeUserId settings.actingUserId (some entry) zeroFigures) rest

def notRequiredEntry : LaborEntry := ⟨⟨0, 0, .notRequired⟩, 0, none, none⟩

def clearLabor (prev : Nat → Option LaborEntry) : LaborBook → List Nat → LaborBook
  | book, [] => book
  | book, assigneeUserId :: rest =>
    clearLabor prev ((book.put assigneeUserId notRequiredEntry).audit assigneeUserId
      settings.actingUserId (prev assigneeUserId) notRequiredEntry.toLaborFigures) rest

/-- The transaction of `PUT /:id/labor`. -/
def LaborBook.upsert (book : LaborBook) (assignees : List Nat) (body : LaborBody) :
    Except AppealRefusal LaborBook :=
  let prev (assigneeUserId : Nat) := book.entries.lookup assigneeUserId
  if body.laborNotRequired then
    .ok (clearLabor settings prev book (assignees ++ book.entries.keys).eraseDups)
  else do
    let worked ← applyLaborItems settings prev book body.items
    removeUnnamed settings body.items worked book.entries.entries

end Upsert

section Desk

structure LaborDesk extends AppealDesk where
  laborNotRequired : Nat → Bool
  /-- The own rate of an employee; none at all without an employee profile. -/
  employeeRates : Nat → Option (Option Rat)
  payments : Nat → DepartmentPayment
  books : Nat → LaborBook

structure LaborCall where
  appealId : Nat
  userId : Nat
  body : LaborBody
  now : Int

variable (desk : LaborDesk)

def LaborDesk.settings (call : LaborCall) (appeal : Appeal) : LaborSettings where
  actingUserId := call.userId
  now := call.now
  payment := desk.payments appeal.toDepartmentId
  relock := desk.laborNotRequired call.appealId
  rates assigneeUserId := if appeal.assignees.contains assigneeUserId
    then (desk.employeeRates assigneeUserId).join else none

/-- The checks of `PUT /:id/labor` before its transaction. -/
def LaborDesk.admit (call : LaborCall) : Except AppealRefusal Appeal :=
  match desk.users call.userId, desk.appeals call.appealId with
  | none, _ => .error (.notFound "Пользователь не найден")
  | some _, none => .error (.notFound "Обращение не найдено")
  | some actor, some appeal =>
    if !(isAdminRole actor || isDepartmentManager actor appeal.toDepartmentId) then
      .error (.forbidden "Недостаточно прав для редактирования часов")
    else
      match call.body.items.find? (fun item => !appeal.assignees.contains item.assigneeUserId) with
      | some item => .error ⟨400, "Пользователь " ++ toString item.assigneeUserId ++
          " не является исполнителем обращения"⟩
      | none => .ok appeal

def LaborDesk.putLabor (call : LaborCall) : Except AppealRefusal LaborDesk := do
  let appeal ← desk.admit call
  let book ← (desk.books call.appealId).upsert (desk.settings call appeal) appeal.assignees call.body
  return { desk with
    laborNotRequired := Function.update desk.laborNotRequired call.appealId
      call.body.laborNotRequired
    books := Function.update desk.books call.appealId book }

def LaborEntry.markedPaid (entry : LaborEntry) (userId : Nat) (now : Int) : LaborEntry :=
  { entry with
    paidHours := entry.hours
    paymentStatus := .paid
    paidAt := some now
    paidById := some userId }

/-- One item of `PUT /analytics/payment-queue/mark-paid`. -/
def LaborDesk.markPaid (userId : Nat) (actor : UserMini) (now : Int) (appealId assigneeUserId : Nat) :
    LaborDesk :=
  match (desk.books appealId).entries.lookup assigneeUserId, desk.appeals appealId with
  | some entry, some appeal =>
    if (isAdminRole actor || isDepartmentManager actor appeal.toDepartmentId) &&
        (desk.payments appeal.toDepartmentId).appealPaymentRequired &&
        entry.paymentStatus != .notRequired && entry.paymentStatus != .paid then
      let paid := entry.markedPaid userId now
      let book := (desk.books appealId).put assigneeUserId paid
      { desk with books := Function.update desk.books appealId { book with
          log := book.log ++ [⟨assigneeUserId, userId, some entry.toLaborFigures,
            paid.toLaborFigures⟩] } }
    else desk
  | _, _ => desk

def LaborDesk.markPaidAll (userId : Nat) (items : List (Nat × Nat)) (now : Int) : LaborDesk :=
  match desk.users userId with
  | none => desk
  | some actor =>
    items.foldl (fun desk item => desk.markPaid userId actor now item.1 item.2) desk

/-- `PUT /analytics/users/:userId/hourly-rate`. -/
def LaborDesk.setHourlyRate (userId targetId : Nat) (hourlyRateRub : Rat) : LaborDesk :=
  match desk.users userId, desk.employeeRates targetId with
  | some actor, some _ =>
    let departmentId := ((desk.users targetId).bind (·.departmentId)).getD 0
    if decide (0 ≤ hourlyRateRub) && decide (hourlyRateRub ≤ 999999) &&
        decide ((⌊hourlyRateRub * 100 + 1 / 2⌋ : Rat) / 100 = hourlyRateRub) &&
        (isAdminRole actor || isDepartmentManager actor departmentId) then
      { desk with employeeRates :=
          Function.update desk.employeeRates targetId (some (some (round2 hourlyRateRub))) }
    else desk
  | _, _ => desk

/-- Whatever happens to the labor of appeals, and around it. `payment` is a change of a department
by an administrator. -/
inductive LaborAction where
  | labor (call : LaborCall)
  | markPaid (userId : Nat) (items : List (Nat × Nat)) (now : Int)
  | hourlyRate (userId targetId : Nat) (hourlyRateRub : Rat)
  | appeal (call : AppealCall)
  | payment (departmentId : Nat) (payment : DepartmentPayment)

def laborStep (desk : LaborDesk) : LaborAction → LaborDesk
  | .labor call => (desk.putLabor call).toOption.getD desk
  | .markPaid userId items now => desk.markPaidAll userId items now
  | .hourlyRate userId targetId hourlyRateRub => desk.setHourlyRate userId targetId hourlyRateRub
  | .appeal call => { desk with toAppealDesk := serve desk.toAppealDesk call }
  | .payment departmentId payment =>
    { desk with payments := Function.update desk.payments departmentId payment }

def laborDesk : LaborDesk where
  toAppealDesk := { sampleDesk with
    appeals := fun id => if id = 1 then some ⟨5, 1, .inProgress, [3], []⟩ else none }
  laborNotRequired _ := false
  employeeRates id := if id = 3 then some none else none
  payments _ := ⟨true, 10⟩
  books _ := ⟨∅, []⟩

end Desk

end LeaderProduct
