import LeaderProduct.ExportWorker
import LeaderProduct.ManagerActions
import LeaderProduct.OnecInbound
import LeaderProduct.Transition

/-! One more copy of a mutation that was applied before, after other operations on its order. -/
namespace LeaderProduct
open Transition

inductive LaterAction where
  | update (ref : OrderRef) (body : ClientOrderUpdateBody) (refs : OrderReferences) (clock : Clock)
  | unqueue (ref : OrderRef) (revision : Nat) (now : Instant)
  | cancel (ref : OrderRef) (revision : Nat) (reason : Option String) (now : Instant)
  | restore (ref : OrderRef) (revision : Nat) (now : Instant)
  | exportSuccess (answer : SavedOrder) (syncedAt : Instant)
  | ack (guid : String) (ack : OrderAck) (syncedAt : Instant)

def laterStep (order : Order) : LaterAction → Order
  | .update ref body refs clock => managerStep order (.update ref body refs clock)
  | .unqueue ref revision now => managerStep order (.unqueue ref revision now)
  | .cancel ref revision reason now => managerStep order (.cancel ref revision reason now)
  | .restore ref revision now => managerStep order (.restore ref revision now)
  | .exportSuccess answer syncedAt => exportSucceeds answer syncedAt order
  | .ack guid ack syncedAt => handleOrderAck guid ack syncedAt order

/-- The row a mutation created or wrote; none when it was refused or only answered. -/
def appliedRow (slot : Option Order) : Except ClientOrdersError TxOutcome → Option Order
  | .ok (.create order) => some order
  | .ok (.write w) => slot.map w.apply
  | .ok .unchanged | .error _ => none

structure CarriesMutation (key : ClientOrderKey) (payloadHash : String)
    (body : ClientOrderMutationBody) (order : Order) : Prop where
  owned : Owned key order
  revision : order.clientRevision.getD 0 = body.clientRevision
  hash : ¬(isSet order.clientPayloadHash = true ∧ order.clientPayloadHash ≠ some payloadHash)

def mutationTrace (order : Order) :
    Option Nat × Option String × Option Nat × Option String :=
  (order.createdByUserId, order.clientOrderId, order.clientRevision, order.clientPayloadHash)

def Withdraws (order : Order) : LaterAction → Prop
  | .unqueue ref revision _ =>
    Addressed ref order ∧ order.hasRealization = false ∧ isOrderQueued order = true ∧
      order.revision = revision
  | .cancel ref revision _ _ =>
    Addressed ref order ∧ order.status ≠ .cancelled ∧ order.revision = revision ∧
      isOrderQueued order = true
  | _ => False

def SameOrder (order after : Order) : Prop :=
  after.status = order.status ∧ after.syncState = order.syncState ∧ after.content = order.content

instance (order after : Order) : Decidable (SameOrder order after) :=
  inferInstanceAs (Decidable (_ ∧ _))

theorem exportSucceeds_trace (answer : SavedOrder) (syncedAt : Instant) (order : Order) :
    mutationTrace (exportSucceeds answer syncedAt order) = mutationTrace order ∧
      (exportSucceeds answer syncedAt order).submitRequestedAt = order.submitRequestedAt := by
  unfold exportSucceeds markOrderExportSuccess
  split
  · split <;> exact ⟨rfl, rfl⟩
  · exact ⟨rfl, rfl⟩

theorem handleOrderAck_trace (guid : String) (ack : OrderAck) (syncedAt : Instant) (order : Order) :
    mutationTrace (handleOrderAck guid ack syncedAt order) = mutationTrace order ∧
      (handleOrderAck guid ack syncedAt order).submitRequestedAt = order.submitRequestedAt := by
  unfold handleOrderAck ackedOrder
  split
  · split <;> exact ⟨rfl, rfl⟩
  · exact ⟨rfl, rfl⟩

variable {order : Order}

theorem ManagerWrite.trace {a : ManagerAction} {w : OrderWrite} (write : ManagerWrite order a w)
    (other : ∀ key payloadHash body refs fresh clock,
      a ≠ .put key payloadHash body refs fresh clock) :
    mutationTrace (w.apply order) = mutationTrace order := by
  cases write with
  | putSubmitted => exact absurd rfl (other _ _ _ _ _ _)
  | putStored => exact absurd rfl (other _ _ _ _ _ _)
  | _ => rfl

theorem managerStep_trace {a : ManagerAction} (other : ∀ key payloadHash body refs fresh clock,
      a ≠ .put key payloadHash body refs fresh clock) :
    mutationTrace (managerStep order a) = mutationTrace order := by
  rcases managerStep_cases order a with same | ⟨w, write, _, step⟩
  · rw [same]
  · rw [step]
    exact write.trace other

theorem laterStep_trace (order : Order) (a : LaterAction) :
    mutationTrace (laterStep order a) = mutationTrace order := by
  cases a with
  | exportSuccess answer syncedAt => exact (exportSucceeds_trace answer syncedAt order).1
  | ack guid ack syncedAt => exact (handleOrderAck_trace guid ack syncedAt order).1
  | _ => exact managerStep_trace (by simp)

theorem carriesMutation_of_trace {key : ClientOrderKey} {payloadHash : String}
    {body : ClientOrderMutationBody} {after : Order}
    (carries : CarriesMutation key payloadHash body order)
    (trace : mutationTrace after = mutationTrace order) :
    CarriesMutation key payloadHash body after := by
  simp only [mutationTrace, Prod.mk.injEq] at trace
  obtain ⟨user, name, revision, hash⟩ := trace
  exact ⟨by rw [Owned, user, name]; exact carries.owned, by rw [revision]; exact carries.revision,
    by rw [hash]; exact carries.hash⟩

theorem withdraws_unqueues {a : LaterAction} (withdraws : Withdraws order a) :
    (laterStep order a).submitRequestedAt = none := by
  cases a with
  | unqueue ref revision now =>
    obtain ⟨addressed, unrealized, queued, current⟩ := withdraws
    have result : outcome (.unqueue ref revision now) (some order) =
        .ok (.write (unqueuedOrder order now)) :=
      unqueueClientOrder_ok.mpr ⟨order, rfl, addressed, unrealized, queued, current, rfl⟩
    rw [laterStep, managerStep_of_write result]
    rfl
  | cancel ref revision reason now =>
    obtain ⟨addressed, alive, current, queued⟩ := withdraws
    have result : outcome (.cancel ref revision reason now) (some order) =
        .ok (.write (unqueuedOrder order now)) :=
      cancelClientOrder_ok.mpr
        ⟨order, rfl, addressed, by simp [CancelAccepted, alive, current, queued]⟩
    rw [laterStep, managerStep_of_write result]
    rfl
  | _ => cases withdraws

theorem submitRequestedAt_kept {a : LaterAction} (stays : ¬Withdraws order a) :
    (laterStep order a).submitRequestedAt = order.submitRequestedAt := by
  cases a with
  | exportSuccess answer syncedAt => exact (exportSucceeds_trace answer syncedAt order).2
  | ack guid ack syncedAt => exact (handleOrderAck_trace guid ack syncedAt order).2
  | update ref body refs clock =>
    rcases managerStep_cases order (.update ref body refs clock) with same | ⟨w, write, _, step⟩
    · rw [laterStep, same]
    · rw [laterStep, step]
      cases write
      rfl
  | unqueue ref revision now =>
    rcases managerStep_cases order (.unqueue ref revision now) with same | ⟨w, write, _, step⟩
    · rw [laterStep, same]
    · cases write with
      | unqueue addressed unrealized queued =>
        exact absurd ⟨addressed, unrealized, queued, rfl⟩ stays
  | cancel ref revision reason now =>
    rcases managerStep_cases order (.cancel ref revision reason now) with same | ⟨w, write, _, step⟩
    · rw [laterStep, same]
    · rw [laterStep, step]
      cases write with
      | withdraw addressed alive queued =>
        exact absurd ⟨addressed, alive, rfl, queued⟩ stays
      | cancel => rfl
  | restore ref revision now =>
    rcases managerStep_cases order (.restore ref revision now) with same | ⟨w, write, _, step⟩
    · rw [laterStep, same]
    · rw [laterStep, step]
      cases write
      rfl

def SubmitRequested (order : Order) : Prop := order.submitRequestedAt.isSome = true

theorem submitRequested_step (order : Order) (a : LaterAction) (requested : SubmitRequested order) :
    SubmitRequested (laterStep order a) ↔ ¬Withdraws order a := by
  constructor
  · intro later withdraws
    rw [SubmitRequested, withdraws_unqueues withdraws] at later
    cases later
  · intro stays
    rwa [SubmitRequested, submitRequestedAt_kept stays]

theorem submitRequested_lost (order : Order) (a : LaterAction)
    (later : SubmitRequested (laterStep order a)) : SubmitRequested order := by
  by_cases withdraws : Withdraws order a
  · rw [SubmitRequested, withdraws_unqueues withdraws] at later
    cases later
  · rwa [SubmitRequested, submitRequestedAt_kept withdraws] at later

/-- A requested submit is forgotten when the order is taken back from the queue, and only then. -/
theorem submitRequested_run_iff (requested : SubmitRequested order) (actions : List LaterAction) :
    SubmitRequested (run laterStep order actions) ↔
      EachStep laterStep (fun o a => ¬Withdraws o a) order actions :=
  (always_iff_last submitRequested_lost actions).symm.trans
    (always_iff_eachStep submitRequested_step requested actions)

section Replay
variable {key : ClientOrderKey} {payloadHash : String} {body : ClientOrderMutationBody}
  {refs : OrderReferences} {fresh : FreshIds} {clock : Clock} {slot : Option Order} {order : Order}

theorem resolveDelivery_submit (delivered : resolveDelivery payloadHash body order = .ok .submit) :
    order.clientRevision.getD 0 = body.clientRevision ∧
      ¬(isSet order.clientPayloadHash = true ∧ order.clientPayloadHash ≠ some payloadHash) := by
  simp only [resolveDelivery] at delivered
  split at delivered
  · cases delivered
  split at delivered
  · rename_i level
    split at delivered
    · cases delivered
    · rename_i match_hash
      exact ⟨level.symm, match_hash⟩
  · cases delivered

inductive AppliedBy (key : ClientOrderKey) (payloadHash : String) (body : ClientOrderMutationBody)
    (fresh : FreshIds) (clock : Clock) : Order → Prop
  | created (content) : AppliedBy key payloadHash body fresh clock
      (putData none payloadHash body content clock.now
        (blankOrder fresh key.userId (some key.clientOrderId) content))
  | submitted (existing) : Owned key existing →
      resolveDelivery payloadHash body existing = .ok .submit →
      AppliedBy key payloadHash body fresh clock
        ((putSubmittedOrder existing clock.now).apply existing)
  | written (existing content) : Owned key existing → AppliedBy key payloadHash body fresh clock
      ((putOrder existing payloadHash body content clock.now).apply existing)

theorem appliedBy (applied : appliedRow slot
      (putClientOrderByClientId key payloadHash body refs fresh clock slot) = some order) :
    AppliedBy key payloadHash body fresh clock order := by
  cases result : putClientOrderByClientId key payloadHash body refs fresh clock slot with
  | error e =>
    rw [result] at applied
    cases applied
  | ok out =>
    rw [result] at applied
    cases found : findClientOrder key slot with
    | none =>
      obtain ⟨_, content, _, _, rfl⟩ := (putClientOrderByClientId_new found).mp result
      cases applied
      exact .created content
    | some existing =>
      obtain ⟨rfl, owned⟩ := findClientOrder_some.mp found
      obtain ⟨delivery, delivered, accepted⟩ :=
        (putClientOrderByClientId_existing owned).mp result
      cases delivery with
      | answered =>
        cases accepted
        cases applied
      | submit =>
        obtain ⟨_, _, _, rfl⟩ := accepted
        cases applied
        exact .submitted existing owned delivered
      | content =>
        obtain ⟨_, _, content, _, _, rfl⟩ := accepted
        cases applied
        exact .written existing content owned

theorem appliedRow_carries (applied : appliedRow slot
      (putClientOrderByClientId key payloadHash body refs fresh clock slot) = some order) :
    CarriesMutation key payloadHash body order ∧
      (body.intent = .submit → SubmitRequested order) := by
  cases appliedBy applied with
  | created content =>
    refine ⟨⟨⟨rfl, rfl⟩, rfl, by simp [putData]⟩, fun intent => ?_⟩
    simp [SubmitRequested, putData, shouldQueue, intent]
  | submitted existing owned delivered =>
    obtain ⟨revision, hash⟩ := resolveDelivery_submit delivered
    exact ⟨⟨owned, revision, hash⟩, fun _ => rfl⟩
  | written existing content owned =>
    refine ⟨⟨owned, rfl, by simp [OrderWrite.apply, putOrder, putData]⟩, fun intent => ?_⟩
    cases requested : existing.submitRequestedAt <;>
      simp [SubmitRequested, OrderWrite.apply, putOrder, putData, shouldQueue, intent, requested]

theorem resolveDelivery_carries (carries : CarriesMutation key payloadHash body order) :
    resolveDelivery payloadHash body order =
      .ok (if body.intent = .save ∨ isOrderQueued order ∨ order.submitRequestedAt.isSome then
        .answered else .submit) := by
  simp only [resolveDelivery, carries.revision, Nat.lt_irrefl, if_false, if_true,
    if_neg carries.hash]
  split <;> rfl

theorem sameOrder_replay (carries : CarriesMutation key payloadHash body order) :
    SameOrder order (managerStep order (.put key payloadHash body refs fresh clock)) ↔
      body.intent = .save ∨ SubmitRequested order ∨ isOrderQueued order = true ∨
        refs.loadLiveOrderMaterialization body.toClientOrderCreateBody ≠ .ok () ∨
        ¬Editable order ∨ ¬Submittable order.content := by
  have delivered := resolveDelivery_carries carries
  by_cases answered : body.intent = .save ∨ isOrderQueued order ∨ order.submitRequestedAt.isSome
  · rw [if_pos answered] at delivered
    have same : managerStep order (.put key payloadHash body refs fresh clock) = order := by
      rw [managerStep, outcome, (putClientOrderByClientId_existing carries.owned).mpr
        ⟨.answered, delivered, rfl⟩]
      rfl
    rw [same]
    refine iff_of_true ⟨rfl, rfl, rfl⟩ ?_
    rcases answered with save | queued | requested
    · exact .inl save
    · exact .inr (.inr (.inl queued))
    · exact .inr (.inl requested)
  · rw [if_neg answered] at delivered
    simp only [not_or] at answered
    obtain ⟨submit, idle, unrequested⟩ := answered
    simp only [submit, idle, SubmitRequested, unrequested, Bool.false_eq_true, false_or]
    by_cases passes : refs.loadLiveOrderMaterialization body.toClientOrderCreateBody = .ok () ∧
        Editable order ∧ Submittable order.content
    · have result : outcome (.put key payloadHash body refs fresh clock) (some order) =
          .ok (.write (putSubmittedOrder order clock.now)) :=
        (putClientOrderByClientId_existing carries.owned).mpr
          ⟨.submit, delivered, passes.1, passes.2.1, passes.2.2, rfl⟩
      rw [managerStep_of_write result]
      refine iff_of_false ?_ ?_
      · rintro ⟨_, sync, _⟩
        have queued : order.syncState = .queued := sync.symm
        simp [isOrderQueued, queued] at idle
      · rintro (loads | uneditable | incomplete)
        · exact loads passes.1
        · exact uneditable passes.2.1
        · exact incomplete passes.2.2
    · have same : managerStep order (.put key payloadHash body refs fresh clock) = order := by
        rcases managerStep_cases order (.put key payloadHash body refs fresh clock) with
          same | ⟨w, write, _, _⟩
        · exact same
        · cases write with
          | putSubmitted _ _ loaded editable complete =>
            exact absurd ⟨loaded, editable, complete⟩ passes
          | putStored _ content => cases delivered.symm.trans content
      rw [same]
      refine iff_of_true ⟨rfl, rfl, rfl⟩ ?_
      simpa only [Classical.not_and_iff_not_or_not] using passes

/-- A copy of an applied mutation changes nothing, after any run of later operations,
exactly when it is a save, or the order was never taken back from the queue since, or
the order is queued again, or a submit of it would be refused. -/
theorem replay_changes_nothing_iff (applied : appliedRow slot
      (putClientOrderByClientId key payloadHash body refs fresh clock slot) = some order)
    (actions : List LaterAction) (refs' : OrderReferences) (fresh' : FreshIds) (clock' : Clock) :
    SameOrder (run laterStep order actions)
        (managerStep (run laterStep order actions)
          (.put key payloadHash body refs' fresh' clock')) ↔
      body.intent = .save ∨ EachStep laterStep (fun o a => ¬Withdraws o a) order actions ∨
        isOrderQueued (run laterStep order actions) = true ∨
        refs'.loadLiveOrderMaterialization body.toClientOrderCreateBody ≠ .ok () ∨
        ¬Editable (run laterStep order actions) ∨
        ¬Submittable (run laterStep order actions).content := by
  obtain ⟨carries, requests⟩ := appliedRow_carries applied
  have carries' : CarriesMutation key payloadHash body (run laterStep order actions) :=
    run_invariant (fun o a _ held => carriesMutation_of_trace held (laterStep_trace o a)) carries
  rw [sameOrder_replay carries']
  cases intent : body.intent with
  | save => simp
  | submit => rw [submitRequested_run_iff (requests intent)]

end Replay

theorem replay_after_edit_changes_nothing :
    SameOrder (run laterStep Sample.queued [.update Sample.ref ⟨Sample.body 2, 1⟩
        Sample.references (Sample.clock 2)])
      (managerStep (run laterStep Sample.queued [.update Sample.ref ⟨Sample.body 2, 1⟩
          Sample.references (Sample.clock 2)])
        (.put Sample.key "1" ⟨Sample.body 1, 1, .submit⟩ Sample.references
          ⟨"order-id", "order-guid"⟩ (Sample.clock 3))) := by
  have applied : appliedRow none (putClientOrderByClientId Sample.key "1"
      ⟨Sample.body 1, 1, .submit⟩ Sample.references ⟨"order-id", "order-guid"⟩ (Sample.clock 1)
      none) = some Sample.queued := rfl
  exact (replay_changes_nothing_iff applied _ _ _ _).mpr (.inr (.inl ⟨id, trivial⟩))

/-- A late copy of the submit puts the order that its manager took back into the queue. -/
theorem replay_queues_withdrawn_order :
    appliedRow none (outcome (Sample.put 1 .submit 1 1) none) = some Sample.queued ∧
      ¬SameOrder (run laterStep Sample.queued [.unqueue Sample.ref 1 2])
        (managerStep (run laterStep Sample.queued [.unqueue Sample.ref 1 2])
          (Sample.put 1 .submit 1 3)) :=
  ⟨rfl, by decide⟩

end LeaderProduct
