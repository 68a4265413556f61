import LeaderProduct.ExportConsistency

/-! A failed export attempt between the load of the row and the record of the failure. The record
finds the row by its id, status and sync state, which an edit of a queued order leaves as they
were. -/
namespace LeaderProduct
open Transition

/-- An attempt under way. `found` is the revision that the read of the row returned at the end
of the attempt. `edited` is for the proofs alone: a manager's write was committed since the load. -/
structure PushAttempt where
  order : Order
  found : Option Nat
  edited : Bool

structure PushState where
  order : Order
  attempt : Option PushAttempt

inductive PushAction where
  | manager (a : ManagerAction)
  | load
  | readRow
  | failWrite (error : ExportError) (failedAt : Instant)
  | markWrite (answer : SavedOrder) (syncedAt : Instant)

def writesOrder (order : Order) (a : ManagerAction) : Bool :=
  match outcome a (some order) with
  | .ok (.write _) => true
  | _ => false

def loadPush (order : Order) : Option PushAttempt :=
  if ExportCandidate order then some ⟨order, none, false⟩ else none

/-- A row that no longer is as it was queued ends the attempt without a trace. -/
def readRowFor (order : Order) (attempt : PushAttempt) : Option PushAttempt :=
  if isMarkable attempt.order order then some { attempt with found := some order.revision } else none

def pushStep (s : PushState) : PushAction → PushState
  | .manager a =>
    { order := managerStep s.order a
      attempt := s.attempt.map (fun attempt =>
        { attempt with edited := attempt.edited || writesOrder s.order a }) }
  | .load => { s with attempt := s.attempt.or (loadPush s.order) }
  | .readRow => { s with attempt := s.attempt.bind (readRowFor s.order) }
  | .failWrite error failedAt =>
    match s.attempt with
    | some ⟨order, some _, _⟩ => ⟨failedOrder order error failedAt s.order, none⟩
    | _ => s
  | .markWrite answer syncedAt =>
    match s.attempt with
    | some ⟨order, some revision, _⟩ => ⟨markedOrder order answer revision syncedAt s.order, none⟩
    | _ => s

def failingAttempt (s : PushState) : PushAction → Option PushAttempt
  | .failWrite _ _ => s.attempt.filter (fun attempt => attempt.found.isSome)
  | _ => none

/-- A version that is newer than the attempt stays pending, with its own error and count. -/
structure SparesVersion (current after : Order) : Prop where
  pending : current.PendingExport → after.PendingExport
  attempts : after.exportAttempts = current.exportAttempts
  exportError : after.lastExportError = current.lastExportError
  onecError : after.last1cError = current.last1cError

/-- A failure that is recorded leaves what was edited since the load alone. -/
def SparesNewer (s : PushState) (a : PushAction) : Prop :=
  ∀ attempt ∈ failingAttempt s a, attempt.edited = true → SparesVersion s.order (pushStep s a).order

/-- An edit since the load has taken the row out of the queue before the failure is recorded. -/
def RecordsLoaded (s : PushState) (a : PushAction) : Prop :=
  ∀ attempt ∈ failingAttempt s a, attempt.edited = false

instance (s : PushState) (a : PushAction) : Decidable (RecordsLoaded s a) :=
  inferInstanceAs (Decidable (∀ _ ∈ _, _))

def EditsClear (s : PushState) : Prop :=
  ∀ attempt ∈ s.attempt,
    (attempt.edited = false → s.order.PendingExport) ∧
      (attempt.edited = true → s.order.lastExportError = none)

theorem writesOrder_iff {order : Order} {a : ManagerAction} :
    writesOrder order a = true ↔ ∃ w, outcome a (some order) = .ok (.write w) := by
  unfold writesOrder
  split
  · next w result => exact iff_of_true rfl ⟨w, result⟩
  · next other => exact iff_of_false Bool.false_ne_true (fun ⟨w, result⟩ => other w result)

/-- Of the writes of a manager only a cancellation that goes to 1C keeps the error of the row,
and a row in the queue is withdrawn instead. -/
theorem ManagerWrite.clears {order : Order} {a : ManagerAction} {w : OrderWrite}
    (write : ManagerWrite order a w)
    (before : order.PendingExport ∨ order.lastExportError = none) :
    (w.apply order).lastExportError = none := by
  cases write with
  | cancel addressed alive idle editable =>
    rcases before with pending | clear
    · rcases pending with ⟨_, queued⟩ | ⟨_, requested⟩
      · simp [isOrderQueued, queued] at idle
      · simp [isOrderQueued, requested] at idle
    · exact clear
  | _ => rfl

theorem editsClear_step (s : PushState) (a : PushAction) (clear : EditsClear s) :
    EditsClear (pushStep s a) := by
  cases a with
  | manager a =>
    intro attempt member
    obtain ⟨before, running, rfl⟩ := Option.map_eq_some_iff.mp member
    obtain ⟨loaded, edited⟩ := clear before running
    have known : s.order.PendingExport ∨ s.order.lastExportError = none := by
      cases was : before.edited with
      | false => exact Or.inl (loaded was)
      | true => exact Or.inr (edited was)
    simp only [pushStep]
    cases wrote : writesOrder s.order a with
    | false =>
      have same : managerStep s.order a = s.order := by
        rcases managerStep_cases s.order a with same | ⟨w, _, result, _⟩
        · exact same
        · rw [writesOrder_iff.mpr ⟨w, result⟩] at wrote
          cases wrote
      rw [same, Bool.or_false]
      exact ⟨loaded, edited⟩
    | true =>
      obtain ⟨w, result⟩ := writesOrder_iff.mp wrote
      rw [managerStep_of_write result, Bool.or_true]
      exact ⟨fun quiet => (by cases quiet), fun _ => (outcome_write result).clears known⟩
  | load =>
    intro attempt member
    simp only [pushStep, Option.mem_def, Option.or_eq_some_iff] at member
    rcases member with running | ⟨_, loaded⟩
    · exact clear attempt running
    · unfold loadPush at loaded
      split at loaded
      · next candidate =>
        cases loaded
        exact ⟨fun _ => candidate.2.1, fun edited => by cases edited⟩
      · cases loaded
  | readRow =>
    intro attempt member
    obtain ⟨before, running, read⟩ := Option.bind_eq_some_iff.mp member
    unfold readRowFor at read
    split at read
    · cases read
      exact clear before running
    · cases read
  | failWrite error failedAt =>
    simp only [pushStep]
    split
    · intro attempt member
      cases member
    · exact clear
  | markWrite answer syncedAt =>
    simp only [pushStep]
    split
    · intro attempt member
      cases member
    · exact clear

theorem failingAttempt_attempt {s : PushState} {a : PushAction} {attempt : PushAttempt}
    (failing : attempt ∈ failingAttempt s a) :
    attempt ∈ s.attempt ∧ ∃ error failedAt,
      (pushStep s a).order = failedOrder attempt.order error failedAt s.order := by
  cases a with
  | failWrite error failedAt =>
    obtain ⟨running, found⟩ := Option.filter_eq_some_iff.mp failing
    refine ⟨running, error, failedAt, ?_⟩
    obtain ⟨order, revision, edited⟩ := attempt
    cases revision with
    | none => cases found
    | some revision => simp only [pushStep, running]
  | _ => cases failing

theorem sparesNewer_iff_recordsLoaded (s : PushState) (a : PushAction) (clear : EditsClear s) :
    SparesNewer s a ↔ RecordsLoaded s a := by
  constructor
  · intro spares attempt failing
    obtain ⟨running, error, failedAt, after⟩ := failingAttempt_attempt failing
    cases edited : attempt.edited with
    | false => rfl
    | true =>
      have kept := (spares attempt failing edited).exportError
      rw [after, (clear attempt running).2 edited] at kept
      cases kept
  · intro records attempt failing edited
    rw [records attempt failing] at edited
    cases edited

/-- In every run of the worker and the manager over one order, failures spare the versions that
are newer than theirs exactly when no row that is read for a record was edited since its load. -/
theorem failures_spare_newer_iff (order : Order) (actions : List PushAction) :
    EachStep pushStep SparesNewer ⟨order, none⟩ actions ↔
      EachStep pushStep RecordsLoaded ⟨order, none⟩ actions :=
  eachStep_congr (fun s a clear _ => editsClear_step s a clear) sparesNewer_iff_recordsLoaded
    (fun _ running => by cases running) actions

def outOfStock : ExportError :=
  ⟨true, "Заказ не отправлен в 1С: недостаточно доступного остатка на складе Основной."⟩

/-- The stock check refuses the order while the manager lowers its quantity: the new version
leaves the queue with the error of the old one. -/
theorem edit_leaves_queue :
    created (outcome (Sample.put 1 .submit 1 1) none) = some Sample.queued ∧
      ¬ EachStep pushStep SparesNewer ⟨Sample.queued, none⟩
        [.load, .manager (Sample.update 1 2 3), .readRow, .failWrite outOfStock 4] := by
  refine ⟨rfl, ?_⟩
  rintro ⟨_, _, _, spares, _⟩
  have kept := (spares ⟨Sample.queued, some 2, true⟩ rfl rfl).pending
  exact absurd kept (by decide)

end LeaderProduct
