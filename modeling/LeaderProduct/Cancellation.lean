import LeaderProduct.ExportWorker
import LeaderProduct.ManagerActions
import LeaderProduct.OnecInbound
import LeaderProduct.Transition

/-! Cancelling an order that 1C may already have, and what brings a cancelled order back.
For the first the state carries the document in 1C beside the row; the row itself only
remembers the number and the moment of an export. -/
namespace LeaderProduct
open Transition

inductive OnecDocument where
  | absent | active | cancelled
  deriving DecidableEq, Repr

structure CancelState where
  order : Order
  document : OnecDocument

/-- `exportFailure` says whether 1C processed the payload before the attempt failed. -/
inductive CancelAction where
  | manager (a : ManagerAction)
  | exportSuccess (answer : SavedOrder) (syncedAt : Instant)
  | exportFailure (error : ExportError) (processed : Bool) (failedAt : Instant)
  | ack (guid : String) (ack : OrderAck) (syncedAt : Instant)

def exportedDocument (order : Order) : OnecDocument :=
  if isCancelExportOrder order then .cancelled else .active

def ackedDocument (ack : OrderAck) (document : OnecDocument) : OnecDocument :=
  if isSet ack.error then document
  else match ack.status with
    | some .cancelled => .cancelled
    | _ => .active

def cancelStep (s : CancelState) : CancelAction → CancelState
  | .manager a => { s with order := managerStep s.order a }
  | .exportSuccess answer syncedAt =>
    if ExportCandidate s.order ∧ exportErrors s.order = [] ∧ keepsItems s.order answer then
      ⟨markOrderExportSuccess s.order answer syncedAt s.order, exportedDocument s.order⟩
    else s
  | .exportFailure error processed failedAt =>
    if ExportCandidate s.order then
      { order := markOrderExportFailure s.order error failedAt s.order
        document := if processed then exportedDocument s.order else s.document }
    else s
  | .ack guid ack syncedAt =>
    if s.order.guid = some guid then
      ⟨ackedOrder ack syncedAt s.order, ackedDocument ack s.document⟩
    else s

def CancelSettled (order : Order) : Prop := order.status = .cancelled ∧ order.syncState = .synced

instance (order : Order) : Decidable (CancelSettled order) := inferInstanceAs (Decidable (_ ∧ _))

def NoOrphanDocument (s : CancelState) : Prop := CancelSettled s.order → s.document ≠ .active

instance (s : CancelState) : Decidable (NoOrphanDocument s) := inferInstanceAs (Decidable (_ → _))

def Cancels (s : CancelState) : CancelAction → Prop
  | .manager (.cancel ref revision reason now) =>
    s.order.status ≠ .cancelled ∧
      (managerStep s.order (.cancel ref revision reason now)).status = .cancelled
  | _ => False

instance (s : CancelState) : (a : CancelAction) → Decidable (Cancels s a)
  | .manager (.cancel _ _ _ _) => inferInstanceAs (Decidable (_ ∧ _))
  | .manager (.create ..) | .manager (.put ..) | .manager (.update ..) | .manager (.submit ..)
  | .manager (.unqueue ..) | .manager (.retry ..) | .manager (.restore ..)
  | .exportSuccess .. | .exportFailure .. | .ack .. => inferInstanceAs (Decidable False)

/-- A cancel of an order with a trace of 1C asks for the export of the cancellation, and
no step leaves an active document behind a settled cancellation. -/
def CancelExported (s : CancelState) (a : CancelAction) : Prop :=
  (Cancels s a → s.order.KnownIn1c → (cancelStep s a).order.syncState = .cancelRequested) ∧
    NoOrphanDocument (cancelStep s a)

instance (s : CancelState) (a : CancelAction) : Decidable (CancelExported s a) :=
  inferInstanceAs (Decidable (_ ∧ _))

/-- A cancel goes through on a draft of which 1C has a document or the row has a trace. -/
def CancelsSentDraft (s : CancelState) : CancelAction → Prop
  | .manager (.cancel ref revision _ _) =>
    Addressed ref s.order ∧ Editable s.order ∧ s.order.revision = revision ∧
      s.order.status = .draft ∧ isOrderQueued s.order = false ∧
      (s.order.KnownIn1c ∨ s.document = .active)
  | _ => False

theorem ManagerWrite.of_cancelled {order : Order} {a : ManagerAction} {w : OrderWrite}
    (write : ManagerWrite order a w) (cancelled : (w.apply order).status = .cancelled) :
    ∃ ref reason now, a = .cancel ref order.revision reason now ∧
      w = cancelledOrder order reason now ∧ Addressed ref order ∧ Editable order ∧
      order.status ≠ .cancelled ∧ isOrderQueued order = false := by
  cases write with
  | cancel addressed alive idle editable =>
    exact ⟨_, _, _, rfl, rfl, addressed, editable, alive, idle⟩
  | update =>
    simp only [OrderWrite.apply, updatedOrder, resolveUpdatedOrderQueueState] at cancelled
    split at cancelled <;> cases cancelled
  | putStored =>
    simp only [OrderWrite.apply, putOrder, putData] at cancelled
    split at cancelled <;> cases cancelled
  | _ => cases cancelled

variable {s : CancelState}

theorem CancelsSentDraft.is_cancel {a : CancelAction} (sent : CancelsSentDraft s a) :
    ∃ ref revision reason now, a = .manager (.cancel ref revision reason now) := by
  cases a with
  | manager m =>
    cases m with
    | cancel ref revision reason now => exact ⟨ref, revision, reason, now, rfl⟩
    | _ => cases sent
  | _ => cases sent

theorem managerStep_sentDraft {ref : OrderRef} {revision : Nat} (reason : Option String)
    (now : Instant) (sent : CancelsSentDraft s (.manager (.cancel ref revision reason now))) :
    managerStep s.order (.cancel ref revision reason now) =
      (cancelledOrder s.order reason now).apply s.order := by
  obtain ⟨addressed, editable, current, draft, idle, _⟩ := sent
  have result : outcome (.cancel ref revision reason now) (some s.order) =
      .ok (.write (cancelledOrder s.order reason now)) := by
    refine cancelClientOrder_ok.mpr ⟨s.order, rfl, addressed, ?_⟩
    simp [CancelAccepted, draft, current, idle, editable]
  exact managerStep_of_write result

theorem noOrphanDocument_of_status (alive : s.order.status ≠ .cancelled) :
    NoOrphanDocument s := fun settled => absurd settled.1 alive

theorem noOrphanDocument_of_syncState (unsettled : s.order.syncState ≠ .synced) :
    NoOrphanDocument s := fun settled => absurd settled.2 unsettled

theorem not_cancelExported_of_sentDraft {a : CancelAction} (sent : CancelsSentDraft s a) :
    ¬CancelExported s a := by
  obtain ⟨ref, revision, reason, now, rfl⟩ := sent.is_cancel
  have after := managerStep_sentDraft reason now sent
  obtain ⟨_, _, _, draft, _, traced⟩ := sent
  have status : ((cancelledOrder s.order reason now).apply s.order).status = .cancelled := rfl
  have sync : ((cancelledOrder s.order reason now).apply s.order).syncState = .synced := by
    simp [OrderWrite.apply, cancelledOrder, draft]
  rintro ⟨exported, noOrphan⟩
  simp only [cancelStep, after] at exported noOrphan
  rcases traced with known | active
  · have cancels : Cancels s (.manager (.cancel ref revision reason now)) := by
      refine ⟨by simp [draft], ?_⟩
      rw [after, status]
    have requested := exported cancels known
    rw [sync] at requested
    cases requested
  · exact noOrphan ⟨status, sync⟩ active

theorem cancelExported_manager {m : ManagerAction} (noOrphan : NoOrphanDocument s)
    (spared : ¬CancelsSentDraft s (.manager m)) : CancelExported s (.manager m) := by
  have cancels_moves : Cancels s (.manager m) →
      s.order.status ≠ .cancelled ∧ (managerStep s.order m).status = .cancelled := by
    cases m with
    | cancel => exact id
    | _ => exact False.elim
  rcases managerStep_cases s.order m with same | ⟨w, write, _, step⟩
  · simp only [CancelExported, cancelStep, same]
    refine ⟨fun cancels => ?_, noOrphan⟩
    obtain ⟨alive, cancelled⟩ := cancels_moves cancels
    exact absurd (same ▸ cancelled) alive
  · simp only [CancelExported, cancelStep, step]
    by_cases cancelled : (w.apply s.order).status = .cancelled
    · obtain ⟨ref, reason, now, rfl, rfl, addressed, editable, alive, idle⟩ :=
        write.of_cancelled cancelled
      by_cases draft : s.order.status = .draft
      · have fresh : ¬(s.order.KnownIn1c ∨ s.document = .active) := fun traced =>
          spared ⟨addressed, editable, rfl, draft, idle, traced⟩
        exact ⟨fun _ known => absurd (.inl known) fresh,
          fun _ active => fresh (.inr active)⟩
      · have requested : ((cancelledOrder s.order reason now).apply s.order).syncState =
            .cancelRequested := by
          simp [OrderWrite.apply, cancelledOrder, draft]
        exact ⟨fun _ _ => requested, noOrphanDocument_of_syncState (by simp [requested])⟩
    · refine ⟨fun cancels => ?_, noOrphanDocument_of_status cancelled⟩
      exact absurd (step ▸ (cancels_moves cancels).2) cancelled

theorem noOrphanDocument_exportSuccess (s : CancelState) (answer : SavedOrder) (syncedAt : Instant)
    (noOrphan : NoOrphanDocument s) :
    NoOrphanDocument (cancelStep s (.exportSuccess answer syncedAt)) := by
  simp only [cancelStep]
  split
  · by_cases cancel : isCancelExportOrder s.order = true
    · intro _
      simp [exportedDocument, cancel]
    · refine noOrphanDocument_of_status ?_
      simp only [markOrderExportSuccess]
      split
      · simp [markedOrder, cancel]
      · simp only [isCancelExportOrder, Bool.or_eq_true, beq_iff_eq, not_or] at cancel
        exact cancel.1
  · exact noOrphan

theorem noOrphanDocument_exportFailure (s : CancelState) (error : ExportError) (processed : Bool)
    (failedAt : Instant) (noOrphan : NoOrphanDocument s) :
    NoOrphanDocument (cancelStep s (.exportFailure error processed failedAt)) := by
  simp only [cancelStep]
  split
  · rename_i candidate
    refine noOrphanDocument_of_syncState ?_
    have unsynced : s.order.syncState ≠ .synced := by
      rcases candidate.2.1 with ⟨_, sync⟩ | ⟨_, sync⟩ <;> simp [sync]
    simp only [markOrderExportFailure]
    split
    · simp only [failedOrder]
      split
      · simp
      · split <;> simp
    · exact unsynced
  · exact noOrphan

theorem noOrphanDocument_ack (s : CancelState) (guid : String) (ack : OrderAck)
    (syncedAt : Instant) (noOrphan : NoOrphanDocument s) :
    NoOrphanDocument (cancelStep s (.ack guid ack syncedAt)) := by
  simp only [cancelStep]
  split
  · by_cases failed : isSet ack.error = true
    · exact noOrphanDocument_of_syncState (by simp [ackedOrder, failed])
    · cases status : ack.status with
      | none =>
        exact noOrphanDocument_of_status
          (by simp [ackedOrder, failed, status, AckStatus.toOrderStatus])
      | some told =>
        cases told with
        | sentTo1c =>
          exact noOrphanDocument_of_status
            (by simp [ackedOrder, failed, status, AckStatus.toOrderStatus])
        | cancelled =>
          intro _
          simp [ackedDocument, failed, status]
  · exact noOrphan

theorem cancelExported_iff (s : CancelState) (a : CancelAction) (noOrphan : NoOrphanDocument s) :
    CancelExported s a ↔ ¬CancelsSentDraft s a := by
  constructor
  · exact fun exported sent => not_cancelExported_of_sentDraft sent exported
  · intro spared
    cases a with
    | manager m => exact cancelExported_manager noOrphan spared
    | exportSuccess answer syncedAt =>
      exact ⟨False.elim, noOrphanDocument_exportSuccess s answer syncedAt noOrphan⟩
    | exportFailure error processed failedAt =>
      exact ⟨False.elim, noOrphanDocument_exportFailure s error processed failedAt noOrphan⟩
    | ack guid ack syncedAt =>
      exact ⟨False.elim, noOrphanDocument_ack s guid ack syncedAt noOrphan⟩

/-- In every run from an order that 1C has not seen, cancellations reach 1C exactly when
no cancel goes through on a draft that 1C has a document of or the row a trace of. -/
theorem cancellation_exported_iff (order : Order) (actions : List CancelAction) :
    EachStep cancelStep CancelExported ⟨order, .absent⟩ actions ↔
      EachStep cancelStep (fun s a => ¬CancelsSentDraft s a) ⟨order, .absent⟩ actions :=
  eachStep_congr
    (fun s a noOrphan spared => ((cancelExported_iff s a noOrphan).mpr spared).2)
    cancelExported_iff (fun _ => by simp) actions

/-- Sent, edited, taken back from the queue and cancelled: the row ends CANCELLED and
SYNCED, and 1C keeps the order. -/
theorem sent_order_cancelled_as_draft :
    created (outcome (Sample.put 1 .submit 1 1) none) = some Sample.queued ∧
      ¬EachStep cancelStep CancelExported ⟨Sample.queued, .absent⟩
        [.exportSuccess Sample.answer 2, .manager (Sample.update 2 2 3),
          .manager (.unqueue Sample.ref 3 4), .manager (.cancel Sample.ref 4 none 5)] :=
  ⟨rfl, by decide⟩

def isRestore : ManagerAction → Bool
  | .restore .. => true
  | _ => false

/-- A manager's action takes a row out of CANCELLED only as a restore of an order
without a trace of 1C. -/
def OnlyRestoreRevives (order : Order) (a : ManagerAction) : Prop :=
  order.status = .cancelled → (managerStep order a).status ≠ .cancelled →
    isRestore a = true ∧ ¬order.KnownIn1c

instance (order : Order) (a : ManagerAction) : Decidable (OnlyRestoreRevives order a) :=
  inferInstanceAs (Decidable (_ → _ → _))

def PassesUnguarded (order : Order) : ManagerAction → Prop
  | .update ref body refs clock =>
    refs.loadLiveOrderMaterialization body.toClientOrderCreateBody = .ok () ∧
      Addressed ref order ∧ Editable order ∧ order.revision = body.revision ∧
      ∃ content, prepareOrder refs body.toClientOrderCreateBody clock = .ok content
  | .put key payloadHash body refs _ clock =>
    refs.loadLiveOrderMaterialization body.toClientOrderCreateBody = .ok () ∧
      Owned key order ∧ Editable order ∧
      ((resolveDelivery payloadHash body order = .ok .submit ∧ Submittable order.content) ∨
        (resolveDelivery payloadHash body order = .ok .content ∧
          ∃ content, prepareOrder refs body.toClientOrderCreateBody clock = .ok content ∧
            (shouldQueue body.intent (some order) = true → Submittable content)))
  | .retry ref revision _ =>
    Addressed ref order ∧ Editable order ∧ order.revision = revision ∧
      hasUnsendableLines order.items = false
  | .unqueue ref revision _ =>
    Addressed ref order ∧ order.hasRealization = false ∧ isOrderQueued order = true ∧
      order.revision = revision
  | _ => False

theorem updatedOrder_status (order : Order) (content : OrderContent) (now : Instant)
    (current : Order) :
    ((updatedOrder order content now).apply current).status ≠ .cancelled := by
  simp only [OrderWrite.apply, updatedOrder, resolveUpdatedOrderQueueState]
  split <;> simp

theorem putOrder_status (order : Order) (payloadHash : String) (body : ClientOrderMutationBody)
    (content : OrderContent) (now : Instant) (current : Order) :
    ((putOrder order payloadHash body content now).apply current).status ≠ .cancelled := by
  simp only [OrderWrite.apply, putOrder, putData]
  split <;> simp

theorem PassesUnguarded.status {order : Order} {a : ManagerAction}
    (passes : PassesUnguarded order a) : (managerStep order a).status ≠ .cancelled := by
  cases a with
  | update ref body refs clock =>
    obtain ⟨loaded, addressed, editable, current, content, prepared⟩ := passes
    have result : outcome (.update ref body refs clock) (some order) =
        .ok (.write (updatedOrder order content clock.now)) := updateClientOrder_ok.mpr
      ⟨loaded, order, rfl, addressed, editable, current, content, prepared, rfl⟩
    rw [managerStep_of_write result]
    exact updatedOrder_status order content clock.now order
  | put key payloadHash body refs fresh clock =>
    obtain ⟨loaded, owned, editable, submit | stored⟩ := passes
    · have result : outcome (.put key payloadHash body refs fresh clock) (some order) =
          .ok (.write (putSubmittedOrder order clock.now)) :=
        (putClientOrderByClientId_existing owned).mpr
          ⟨.submit, submit.1, loaded, editable, submit.2, rfl⟩
      rw [managerStep_of_write result]
      simp [OrderWrite.apply, putSubmittedOrder]
    · obtain ⟨delivered, content, prepared, complete⟩ := stored
      have result : outcome (.put key payloadHash body refs fresh clock) (some order) =
          .ok (.write (putOrder order payloadHash body content clock.now)) :=
        (putClientOrderByClientId_existing owned).mpr
          ⟨.content, delivered, loaded, editable, content, prepared, complete, rfl⟩
      rw [managerStep_of_write result]
      exact putOrder_status order payloadHash body content clock.now order
  | retry ref revision now =>
    obtain ⟨addressed, editable, current, sendable⟩ := passes
    have result : outcome (.retry ref revision now) (some order) =
        .ok (.write (retriedOrder order now)) :=
      retryClientOrderExport_ok.mpr ⟨order, rfl, addressed, editable, current, sendable, rfl⟩
    rw [managerStep_of_write result]
    simp [OrderWrite.apply, retriedOrder]
  | unqueue ref revision now =>
    obtain ⟨addressed, unrealized, queued, current⟩ := passes
    have result : outcome (.unqueue ref revision now) (some order) =
        .ok (.write (unqueuedOrder order now)) :=
      unqueueClientOrder_ok.mpr ⟨order, rfl, addressed, unrealized, queued, current, rfl⟩
    rw [managerStep_of_write result]
    simp [OrderWrite.apply, unqueuedOrder]
  | _ => cases passes

theorem onlyRestoreRevives_iff (order : Order) (a : ManagerAction) :
    OnlyRestoreRevives order a ↔ (order.status = .cancelled → ¬PassesUnguarded order a) := by
  constructor
  · intro only cancelled passes
    have restore := (only cancelled passes.status).1
    cases a with
    | restore => exact passes
    | _ => cases restore
  · intro spared cancelled revived
    rcases managerStep_cases order a with same | ⟨w, write, _, step⟩
    · rw [same] at revived
      exact absurd cancelled revived
    · have spared := spared cancelled
      cases write with
      | restore addressed restorable => exact ⟨rfl, restorable.2.2⟩
      | update addressed loaded editable current prepared =>
        exact absurd ⟨loaded, addressed, editable, current, _, prepared⟩ spared
      | putSubmitted owned delivered loaded editable complete =>
        exact absurd ⟨loaded, owned, editable, .inl ⟨delivered, complete⟩⟩ spared
      | putStored owned delivered loaded editable prepared complete =>
        exact absurd ⟨loaded, owned, editable, .inr ⟨delivered, _, prepared, complete⟩⟩ spared
      | retry addressed editable sendable =>
        exact absurd ⟨addressed, editable, rfl, sendable⟩ spared
      | unqueue addressed unrealized queued =>
        exact absurd ⟨addressed, unrealized, queued, rfl⟩ spared
      | submit addressed editable alive | withdraw addressed alive | cancel addressed alive =>
        exact absurd cancelled alive

/-- In every run of manager actions a cancelled order comes back through restore alone
exactly when no update, mutation, retry or unqueue passes its guards while it is cancelled. -/
theorem cancelled_revived_by_restore_iff (order : Order) (actions : List ManagerAction) :
    EachStep managerStep OnlyRestoreRevives order actions ↔
      EachStep managerStep (fun o a => o.status = .cancelled → ¬PassesUnguarded o a)
        order actions :=
  ⟨EachStep.mono (fun o a => (onlyRestoreRevives_iff o a).mp),
    EachStep.mono (fun o a => (onlyRestoreRevives_iff o a).mpr)⟩

theorem cancelled_order_revived :
    created (outcome (Sample.put 1 .submit 1 1) none) = some Sample.queued ∧
      (∀ revival ∈ [Sample.update 3 2 4, Sample.put 2 .save 2 4, .retry Sample.ref 3 4],
        ¬EachStep managerStep OnlyRestoreRevives Sample.queued
          [.unqueue Sample.ref 1 2, .cancel Sample.ref 2 none 3, revival]) ∧
      ¬EachStep managerStep OnlyRestoreRevives (exportSucceeds Sample.answer 2 Sample.queued)
        [.cancel Sample.ref 2 none 3, .unqueue Sample.ref 3 4] := by
  refine ⟨rfl, ?_⟩
  decide

end LeaderProduct
