import LeaderProduct.ExportConsistency

/-! An order that 1C has accepted, while its manager may withdraw or delete the row. The
deletion checks the row and deletes it in two statements, and so does the mark of the worker
read and update; the other requests of the manager are single steps. -/
namespace LeaderProduct
open Transition

def canDeleteLocal (order : Order) : Bool :=
  (order.status == .draft || order.status == .queued || order.status == .cancelled) &&
    !order.isPostedIn1c && !isSet order.number1c && !order.sentTo1cAt.isSome

def deleteDraftClientOrder (ref : OrderRef) (slot : Option Order) :
    Except ClientOrdersError Unit := do
  let order ← findManagerOrder ref slot
  if !canDeleteLocal order then
    throw ⟨409, .conflict, "Можно удалить только локальный черновик, заказ в очереди или " ++
      "отмененный заказ, который еще не создан в 1С"⟩

/-- The row and the attempt of the worker. `deleting` says that a deletion has passed its
checks. `accepted` is for the proofs alone: the answer of the last POST that succeeded and
whose attempt is over, with the moment of its mark. -/
structure AcceptedState where
  slot : Option Order
  attempt : Option ExportAttempt
  deleting : Bool
  accepted : Option (SavedOrder × Option Instant)

inductive AcceptedAction where
  | update (ref : OrderRef) (body : ClientOrderUpdateBody) (refs : OrderReferences) (clock : Clock)
  | unqueue (ref : OrderRef) (revision : Nat) (now : Instant)
  | cancel (ref : OrderRef) (revision : Nat) (reason : Option String) (now : Instant)
  | deleteCheck (ref : OrderRef)
  | deleteRow
  | load
  | post (answer : SavedOrder)
  | markRead
  | markWrite (syncedAt : Instant)
  | fail (error : ExportError) (failedAt : Instant)

/-- 1C answers the one POST; an answer without the lines is only refused at the mark. -/
def answerAttempt (answer : SavedOrder) (attempt : ExportAttempt) : ExportAttempt :=
  if exportErrors attempt.order = [] then
    { attempt with answer := attempt.answer.or (some answer) }
  else attempt

def isMarkableSlot (order : Order) (slot : Option Order) : Bool :=
  match slot with
  | some current => isMarkable order current
  | none => false

def acceptedStep (s : AcceptedState) : AcceptedAction → AcceptedState
  | .update ref body refs clock =>
    { s with slot := s.slot.map (managerStep · (.update ref body refs clock)) }
  | .unqueue ref revision now =>
    { s with slot := s.slot.map (managerStep · (.unqueue ref revision now)) }
  | .cancel ref revision reason now =>
    { s with slot := s.slot.map (managerStep · (.cancel ref revision reason now)) }
  | .deleteCheck ref =>
    match deleteDraftClientOrder ref s.slot with
    | .ok () => { s with deleting := true }
    | .error _ => s
  | .deleteRow => if s.deleting then { s with slot := none, deleting := false } else s
  | .load => { s with attempt := s.attempt.or (s.slot.bind loadAttempt) }
  | .post answer => { s with attempt := s.attempt.map (answerAttempt answer) }
  | .markRead =>
    match s.attempt with
    | some ⟨order, some answer, _, edited⟩ =>
      if keepsItems order answer then
        if isMarkableSlot order s.slot then
          { s with attempt := some ⟨order, some answer, s.slot.map (·.revision), edited⟩ }
        else { s with attempt := none, accepted := some (answer, none) }
      else s
    | _ => s
  | .markWrite syncedAt =>
    match s.attempt with
    | some ⟨order, some answer, some revision, _⟩ =>
      match s.slot with
      | some current =>
        { s with
          slot := some (markedOrder order answer revision syncedAt current)
          attempt := none
          accepted := some (answer, some syncedAt) }
      | none => { s with attempt := none, accepted := some (answer, none) }
    | _ => s
  | .fail error failedAt =>
    match s.attempt with
    | some attempt =>
      { s with
        slot := s.slot.map (markOrderExportFailure attempt.order error failedAt)
        attempt := none
        accepted := (attempt.answer.map (fun answer => (answer, none))).or s.accepted }
    | none => s

/-- The row is there, with the number of the last accepted POST and the moment of its mark. -/
def AcceptedKept (s : AcceptedState) : Prop :=
  ∀ answer stamp, s.accepted = some (answer, stamp) →
    ∃ order, s.slot = some order ∧
      (answer.number1c.isSome = true → order.number1c = answer.number1c) ∧
      stamp.isSome = true ∧ order.sentTo1cAt = stamp

/-- The worker finds the row of an accepted POST as it was queued and still there at the
update, no accepted attempt fails, and no deletion comes in after a mark. -/
def SparesAccepted (s : AcceptedState) : AcceptedAction → Prop
  | .markRead => ∀ attempt ∈ s.attempt, ∀ answer ∈ attempt.answer,
    keepsItems attempt.order answer = true → isMarkableSlot attempt.order s.slot = true
  | .markWrite _ => ∀ attempt ∈ s.attempt, attempt.answer.isSome = true →
    attempt.found.isSome = true → s.slot.isSome = true
  | .fail _ _ => ∀ attempt ∈ s.attempt, attempt.answer = none
  | .deleteRow => s.deleting = true → s.accepted = none
  | _ => True

def SameIdentity (order after : Order) : Prop :=
  after.number1c = order.number1c ∧ after.sentTo1cAt = order.sentTo1cAt

theorem ManagerWrite.sameIdentity {order : Order} {a : ManagerAction} {w : OrderWrite}
    (write : ManagerWrite order a w) (exported : ∀ ref revision now, a ≠ .retry ref revision now) :
    SameIdentity order (w.apply order) := by
  cases write with
  | retry => exact absurd rfl (exported _ _ _)
  | _ => exact ⟨rfl, rfl⟩

theorem managerStep_sameIdentity (order : Order) {a : ManagerAction}
    (exported : ∀ ref revision now, a ≠ .retry ref revision now) :
    SameIdentity order (managerStep order a) := by
  rcases managerStep_cases order a with same | ⟨w, write, _, applied⟩
  · rw [same]
    exact ⟨rfl, rfl⟩
  · rw [applied]
    exact write.sameIdentity exported

theorem markOrderExportFailure_sameIdentity (order : Order) (error : ExportError)
    (failedAt : Instant) (current : Order) :
    SameIdentity current (markOrderExportFailure order error failedAt current) := by
  unfold markOrderExportFailure
  split <;> exact ⟨rfl, rfl⟩

theorem AcceptedKept.map {s after : AcceptedState} {f : Order → Order} (kept : AcceptedKept s)
    (slot : after.slot = s.slot.map f) (accepted : after.accepted = s.accepted)
    (same : ∀ order, SameIdentity order (f order)) : AcceptedKept after := by
  intro answer stamp recorded
  obtain ⟨order, found, number, stamped, sent⟩ := kept answer stamp (accepted ▸ recorded)
  refine ⟨f order, by rw [slot, found]; rfl, fun named => ?_, stamped, ?_⟩
  · rw [(same order).1, number named]
  · rw [(same order).2, sent]

theorem AcceptedKept.frame {s after : AcceptedState} (kept : AcceptedKept s)
    (slot : after.slot = s.slot) (accepted : after.accepted = s.accepted) : AcceptedKept after :=
  kept.map (f := id) (by rw [slot, Option.map_id_fun, id]) accepted (fun _ => ⟨rfl, rfl⟩)

theorem not_acceptedKept {s : AcceptedState} {answer : SavedOrder}
    (lost : s.accepted = some (answer, none)) : ¬AcceptedKept s := by
  intro kept
  obtain ⟨_, _, _, stamped, _⟩ := kept answer none lost
  cases stamped

theorem sparesAccepted_exact (s : AcceptedState) (a : AcceptedAction) (kept : AcceptedKept s) :
    AcceptedKept (acceptedStep s a) ↔ SparesAccepted s a := by
  cases a with
  | update ref body refs clock =>
    exact iff_of_true (kept.map rfl rfl (fun order => managerStep_sameIdentity order nofun)) trivial
  | unqueue ref revision now =>
    exact iff_of_true (kept.map rfl rfl (fun order => managerStep_sameIdentity order nofun)) trivial
  | cancel ref revision reason now =>
    exact iff_of_true (kept.map rfl rfl (fun order => managerStep_sameIdentity order nofun)) trivial
  | deleteCheck ref =>
    refine iff_of_true ?_ trivial
    simp only [acceptedStep]
    split
    · exact kept.frame rfl rfl
    · exact kept
  | load => exact iff_of_true (kept.frame rfl rfl) trivial
  | post answer => exact iff_of_true (kept.frame rfl rfl) trivial
  | deleteRow =>
    simp only [acceptedStep, SparesAccepted]
    by_cases deleting : s.deleting = true
    · rw [if_pos deleting]
      constructor
      · intro after _
        cases recorded : s.accepted with
        | none => rfl
        | some accepted =>
          obtain ⟨_, gone, _⟩ := after accepted.1 accepted.2 recorded
          cases gone
      · intro spares answer stamp recorded
        rw [spares deleting] at recorded
        cases recorded
    · rw [if_neg deleting]
      exact iff_of_true kept (fun passed => absurd passed deleting)
  | markRead =>
    simp only [acceptedStep, SparesAccepted]
    split
    · rename_i order answer found edited attempt
      simp only [attempt, Option.mem_def, Option.some.injEq, forall_eq']
      by_cases keeps : keepsItems order answer = true
      · rw [if_pos keeps]
        by_cases markable : isMarkableSlot order s.slot = true
        · rw [if_pos markable]
          exact iff_of_true (kept.frame rfl rfl) (fun _ => markable)
        · rw [if_neg markable]
          exact iff_of_false (not_acceptedKept rfl) (fun spares => markable (spares keeps))
      · rw [if_neg keeps]
        exact iff_of_true kept (fun kept => absurd kept keeps)
    · rename_i unanswered
      refine iff_of_true kept ?_
      rintro ⟨order, none | answer, found, edited⟩ attempt answer' answered
      · cases answered
      · exact absurd attempt (unanswered order answer found edited)
  | markWrite syncedAt =>
    simp only [acceptedStep, SparesAccepted]
    split
    · rename_i order answer revision edited attempt
      simp only [attempt, Option.mem_def, Option.some.injEq, forall_eq', Option.isSome_some,
        true_implies]
      cases row : s.slot with
      | none => exact iff_of_false (not_acceptedKept rfl) nofun
      | some current =>
        refine iff_of_true ?_ rfl
        rintro answer' stamp recorded
        cases recorded
        refine ⟨_, rfl, fun named => ?_, rfl, rfl⟩
        obtain ⟨number, named⟩ := Option.isSome_iff_exists.mp named
        simp [markedOrder, named]
    · rename_i unread
      refine iff_of_true kept ?_
      rintro ⟨order, none | answer, none | found, edited⟩ attempt answered read
      · cases answered
      · cases answered
      · cases read
      · exact absurd attempt (unread order answer found edited)
  | fail error failedAt =>
    simp only [acceptedStep, SparesAccepted]
    cases running : s.attempt with
    | none => exact iff_of_true kept (fun _ member => by cases member)
    | some attempt =>
      simp only [Option.mem_def, Option.some.injEq, forall_eq']
      cases answered : attempt.answer with
      | some answer =>
        exact iff_of_false (not_acceptedKept rfl) (fun unanswered => by cases unanswered)
      | none =>
        exact iff_of_true (kept.map rfl rfl
          (markOrderExportFailure_sameIdentity attempt.order error failedAt)) rfl

/-- In every run over one row, what 1C has accepted stays in the row with its number and
moment exactly when no withdrawal, deletion or failure comes between a POST and its mark. -/
theorem accepted_order_kept_iff (slot : Option Order) (actions : List AcceptedAction) :
    Always acceptedStep AcceptedKept ⟨slot, none, false, none⟩ actions ↔
      EachStep acceptedStep SparesAccepted ⟨slot, none, false, none⟩ actions :=
  always_iff_eachStep sparesAccepted_exact (fun _ _ recorded => by cases recorded) actions

/-- While the POST is under way its manager deletes the queued order, or takes it back from
the queue: 1C has the order and the application has no trace of it. -/
theorem accepted_order_lost :
    created (outcome (Sample.put 1 .submit 1 1) none) = some Sample.queued ∧
      ¬Always acceptedStep AcceptedKept ⟨some Sample.queued, none, false, none⟩
        [.load, .post Sample.answer, .deleteCheck Sample.ref, .deleteRow, .markRead] ∧
      ¬Always acceptedStep AcceptedKept ⟨some Sample.queued, none, false, none⟩
        [.load, .post Sample.answer, .unqueue Sample.ref 1 3, .markRead] := by
  refine ⟨rfl, fun always => ?_, fun always => ?_⟩
  · have lost : (run acceptedStep ⟨some Sample.queued, none, false, none⟩
        [.load, .post Sample.answer, .deleteCheck Sample.ref, .deleteRow, .markRead]).accepted =
          some (Sample.answer, none) := by decide
    exact not_acceptedKept lost always.last
  · have lost : (run acceptedStep ⟨some Sample.queued, none, false, none⟩
        [.load, .post Sample.answer, .unqueue Sample.ref 1 3, .markRead]).accepted =
          some (Sample.answer, none) := by decide
    exact not_acceptedKept lost always.last

end LeaderProduct
