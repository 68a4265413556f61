import LeaderProduct.ClientOrders

/-! What a manager's request does to one order. Each operation gets one lemma that says
when it is accepted and what it then writes; `managerStep_cases` collects them, and
the later modules argue from it alone. -/
namespace LeaderProduct

variable {slot : Option Order} {order : Order} {out : TxOutcome} {refs : OrderReferences}
    {revision : Nat} {now : Instant} {fresh : FreshIds} {payloadHash : String} {w : OrderWrite}

theorem findManagerOrder_ok {ref : OrderRef} :
    findManagerOrder ref slot = .ok order ↔ slot = some order ∧ Addressed ref order := by
  cases slot with
  | none => simp [findManagerOrder]
  | some stored =>
    simp only [findManagerOrder, Option.some.injEq]
    split
    · rename_i addressed
      constructor
      · intro h
        cases h
        exact ⟨rfl, addressed⟩
      · rintro ⟨rfl, _⟩
        rfl
    · rename_i foreign
      simp only [reduceCtorEq, false_iff]
      rintro ⟨rfl, addressed⟩
      exact foreign addressed

theorem updateClientOrder_ok {ref : OrderRef} {body : ClientOrderUpdateBody} {clock : Clock} :
    updateClientOrder ref body refs clock slot = .ok out ↔
      refs.loadLiveOrderMaterialization body.toClientOrderCreateBody = .ok () ∧
        ∃ order, slot = some order ∧ Addressed ref order ∧ Editable order ∧
          order.revision = body.revision ∧
          ∃ content, prepareOrder refs body.toClientOrderCreateBody clock = .ok content ∧
            out = .write (updatedOrder order content clock.now) := by
  simp only [updateClientOrder, except_bind_ok, findManagerOrder_ok, ensureEditable_ok,
    assertRevision_ok, pure, Except.pure, Except.ok.injEq]
  constructor
  · rintro ⟨_, loaded, order, ⟨found, addressed⟩, _, editable, _, current, content, prepared, rfl⟩
    exact ⟨loaded, order, found, addressed, editable, current, content, prepared, rfl⟩
  · rintro ⟨loaded, order, found, addressed, editable, current, content, prepared, rfl⟩
    exact ⟨(), loaded, order, ⟨found, addressed⟩, (), editable, (), current, content, prepared, rfl⟩

theorem assertNotCancelled_ok (order : Order) (u : Unit) :
    assertNotCancelled order = .ok u ↔ order.status ≠ .cancelled := by
  unfold assertNotCancelled
  split <;> simp_all

theorem submitClientOrder_ok {ref : OrderRef} :
    submitClientOrder ref revision now slot = .ok out ↔
      ∃ order, slot = some order ∧ Addressed ref order ∧ Editable order ∧
        order.revision = revision ∧ order.status ≠ .cancelled ∧ Submittable order.content ∧
        out = .write (submittedOrder order now) := by
  simp only [submitClientOrder, except_bind_ok, findManagerOrder_ok, ensureEditable_ok,
    assertRevision_ok, assertNotCancelled_ok, assertClientOrderCanBeSubmitted_ok, pure,
    Except.pure, Except.ok.injEq]
  constructor
  · rintro ⟨order, ⟨found, addressed⟩, _, editable, _, current, _, alive, _, complete, rfl⟩
    exact ⟨order, found, addressed, editable, current, alive, complete, rfl⟩
  · rintro ⟨order, found, addressed, editable, current, alive, complete, rfl⟩
    exact ⟨order, ⟨found, addressed⟩, (), editable, (), current, (), alive, (), complete, rfl⟩

theorem assertUnqueueable_ok (order : Order) (u : Unit) :
    assertUnqueueable order = .ok u ↔
      order.hasRealization = false ∧ isOrderQueued order = true := by
  unfold assertUnqueueable
  split
  · simp_all
  · split <;> simp_all

theorem unqueueClientOrder_ok {ref : OrderRef} :
    unqueueClientOrder ref revision now slot = .ok out ↔
      ∃ order, slot = some order ∧ Addressed ref order ∧ order.hasRealization = false ∧
        isOrderQueued order = true ∧ order.revision = revision ∧
        out = .write (unqueuedOrder order now) := by
  simp only [unqueueClientOrder, except_bind_ok, findManagerOrder_ok, assertUnqueueable_ok,
    assertRevision_ok, pure, Except.pure, Except.ok.injEq]
  constructor
  · rintro ⟨order, ⟨found, addressed⟩, _, ⟨unrealized, queued⟩, _, current, rfl⟩
    exact ⟨order, found, addressed, unrealized, queued, current, rfl⟩
  · rintro ⟨order, found, addressed, unrealized, queued, current, rfl⟩
    exact ⟨order, ⟨found, addressed⟩, (), ⟨unrealized, queued⟩, (), current, rfl⟩

theorem assertLinesSendable_ok (order : Order) (u : Unit) :
    assertLinesSendable order = .ok u ↔ hasUnsendableLines order.items = false := by
  unfold assertLinesSendable
  split <;> simp_all

theorem retryClientOrderExport_ok {ref : OrderRef} :
    retryClientOrderExport ref revision now slot = .ok out ↔
      ∃ order, slot = some order ∧ Addressed ref order ∧ Editable order ∧
        order.revision = revision ∧ hasUnsendableLines order.items = false ∧
        out = .write (retriedOrder order now) := by
  simp only [retryClientOrderExport, except_bind_ok, findManagerOrder_ok, ensureEditable_ok,
    assertRevision_ok, assertLinesSendable_ok, pure, Except.pure, Except.ok.injEq]
  constructor
  · rintro ⟨order, ⟨found, addressed⟩, _, editable, _, current, _, sendable, rfl⟩
    exact ⟨order, found, addressed, editable, current, sendable, rfl⟩
  · rintro ⟨order, found, addressed, editable, current, sendable, rfl⟩
    exact ⟨order, ⟨found, addressed⟩, (), editable, (), current, (), sendable, rfl⟩

def Restorable (order : Order) : Prop :=
  order.status = .cancelled ∧ order.isPostedIn1c = false ∧ ¬order.KnownIn1c

theorem assertRestorable_ok (order : Order) (u : Unit) :
    assertRestorable order = .ok u ↔ Restorable order := by
  unfold assertRestorable Restorable Order.KnownIn1c
  split
  · simp_all
  · split
    · rename_i created
      simp only [Bool.or_eq_true] at created
      simp only [reduceCtorEq, false_iff]
      rintro ⟨_, unposted, unknown⟩
      rcases created with (posted | number) | sent
      · simp [posted] at unposted
      · exact unknown (.inl number)
      · exact unknown (.inr sent)
    · simp_all

theorem restoreClientOrder_ok {ref : OrderRef} :
    restoreClientOrder ref revision now slot = .ok out ↔
      ∃ order, slot = some order ∧ Addressed ref order ∧ Restorable order ∧
        order.revision = revision ∧ out = .write (restoredOrder order now) := by
  simp only [restoreClientOrder, except_bind_ok, findManagerOrder_ok, assertRestorable_ok,
    assertRevision_ok, pure, Except.pure, Except.ok.injEq]
  constructor
  · rintro ⟨order, ⟨found, addressed⟩, _, restorable, _, current, rfl⟩
    exact ⟨order, found, addressed, restorable, current, rfl⟩
  · rintro ⟨order, found, addressed, restorable, current, rfl⟩
    exact ⟨order, ⟨found, addressed⟩, (), restorable, (), current, rfl⟩

def CancelAccepted (order : Order) (revision : Nat) (reason : Option String) (now : Instant)
    (out : TxOutcome) : Prop :=
  if order.status = .cancelled then out = .unchanged
  else order.revision = revision ∧
    if isOrderQueued order then out = .write (unqueuedOrder order now)
    else Editable order ∧ out = .write (cancelledOrder order reason now)

theorem cancelClientOrder_ok {ref : OrderRef} {reason : Option String} :
    cancelClientOrder ref revision reason now slot = .ok out ↔
      ∃ order, slot = some order ∧ Addressed ref order ∧
        CancelAccepted order revision reason now out := by
  simp only [cancelClientOrder, except_bind_ok, findManagerOrder_ok, CancelAccepted]
  constructor
  · rintro ⟨order, ⟨found, addressed⟩, rest⟩
    refine ⟨order, found, addressed, ?_⟩
    split
    · simp_all [pure, Except.pure]
    · rw [if_neg ‹_›, except_bind_ok] at rest
      obtain ⟨_, current, rest⟩ := rest
      refine ⟨(assertRevision_ok ..).mp current, ?_⟩
      split
      · simp_all [pure, Except.pure]
      · rw [if_neg ‹_›, except_bind_ok] at rest
        obtain ⟨_, editable, rest⟩ := rest
        exact ⟨(ensureEditable_ok ..).mp editable, by simpa [pure, Except.pure] using rest.symm⟩
  · rintro ⟨order, found, addressed, accepted⟩
    refine ⟨order, ⟨found, addressed⟩, ?_⟩
    split
    · rw [if_pos ‹_›] at accepted
      rw [accepted]
      rfl
    · rw [if_neg ‹_›] at accepted
      rw [except_bind_ok]
      refine ⟨(), (assertRevision_ok ..).mpr accepted.1, ?_⟩
      have write := accepted.2
      split
      · rw [if_pos ‹_›] at write
        rw [write]
        rfl
      · rw [if_neg ‹_›] at write
        rw [except_bind_ok]
        refine ⟨(), (ensureEditable_ok ..).mpr write.1, ?_⟩
        rw [write.2]
        rfl

def Owned (key : ClientOrderKey) (order : Order) : Prop :=
  order.createdByUserId = some key.userId ∧ order.clientOrderId = some key.clientOrderId

instance (key : ClientOrderKey) (order : Order) : Decidable (Owned key order) :=
  inferInstanceAs (Decidable (_ ∧ _))

theorem findClientOrder_some {key : ClientOrderKey} :
    findClientOrder key slot = some order ↔ slot = some order ∧ Owned key order := by
  cases slot with
  | none => simp [findClientOrder]
  | some stored =>
    simp only [findClientOrder, Option.some.injEq]
    split
    · rename_i owned
      constructor
      · intro h
        cases h
        exact ⟨rfl, owned⟩
      · rintro ⟨rfl, _⟩
        rfl
    · rename_i foreign
      simp only [reduceCtorEq, false_iff]
      rintro ⟨rfl, owned⟩
      exact foreign owned

theorem assertQueueable_ok (queue : Bool) (content : OrderContent) (u : Unit) :
    assertQueueable queue content = .ok u ↔ (queue = true → Submittable content) := by
  unfold assertQueueable
  split
  · simp_all [assertClientOrderCanBeSubmitted_ok]
  · simp_all

def PutAccepted (payloadHash : String) (body : ClientOrderMutationBody) (refs : OrderReferences)
    (clock : Clock) (existing : Order) (out : TxOutcome) : Delivery → Prop
  | .answered => out = .unchanged
  | .submit =>
    refs.loadLiveOrderMaterialization body.toClientOrderCreateBody = .ok () ∧
      Editable existing ∧ Submittable existing.content ∧
      out = .write (putSubmittedOrder existing clock.now)
  | .content =>
    refs.loadLiveOrderMaterialization body.toClientOrderCreateBody = .ok () ∧
      Editable existing ∧
      ∃ content, prepareOrder refs body.toClientOrderCreateBody clock = .ok content ∧
        (shouldQueue body.intent (some existing) = true → Submittable content) ∧
        out = .write (putOrder existing payloadHash body content clock.now)

theorem putClientOrderByClientId_proceeds {key : ClientOrderKey} {body : ClientOrderMutationBody}
    {clock : Clock}
    (unanswered : putPrecheck payloadHash body (findClientOrder key slot) = .ok false) :
    putClientOrderByClientId key payloadHash body refs fresh clock slot = (do
      refs.loadLiveOrderMaterialization body.toClientOrderCreateBody
      putTransaction key payloadHash body refs fresh clock slot) := by
  rw [putClientOrderByClientId, unanswered]
  rfl

theorem putClientOrderByClientId_existing {key : ClientOrderKey} {body : ClientOrderMutationBody}
    {clock : Clock} {existing : Order} (owned : Owned key existing) :
    putClientOrderByClientId key payloadHash body refs fresh clock (some existing) = .ok out ↔
      ∃ delivery, resolveDelivery payloadHash body existing = .ok delivery ∧
        PutAccepted payloadHash body refs clock existing out delivery := by
  have found := findClientOrder_some.mpr ⟨rfl, owned⟩
  cases delivered : resolveDelivery payloadHash body existing with
  | error e =>
    simp [putClientOrderByClientId, found, putPrecheck, delivered, Except.map, bind, Except.bind]
  | ok delivery =>
    simp only [Except.ok.injEq, exists_eq_left']
    have check : putPrecheck payloadHash body (findClientOrder key (some existing)) =
        .ok (delivery == .answered) := by
      rw [found, putPrecheck, delivered]
      rfl
    cases delivery with
    | answered =>
      rw [putClientOrderByClientId, check]
      exact ⟨fun h => (Except.ok.inj h).symm, fun h => congrArg Except.ok h.symm⟩
    | submit =>
      have transaction : putTransaction key payloadHash body refs fresh clock (some existing) =
          (do ensureEditable existing
              assertClientOrderCanBeSubmitted existing.header existing.items
              return .write (putSubmittedOrder existing clock.now)) := by
        simp only [putTransaction, found, delivered]
        rfl
      rw [putClientOrderByClientId_proceeds check, transaction]
      simp only [except_bind_ok, ensureEditable_ok, assertClientOrderCanBeSubmitted_ok, pure,
        Except.pure, Except.ok.injEq, PutAccepted]
      constructor
      · rintro ⟨_, loaded, _, editable, _, complete, rfl⟩
        exact ⟨loaded, editable, complete, rfl⟩
      · rintro ⟨loaded, editable, complete, rfl⟩
        exact ⟨(), loaded, (), editable, (), complete, rfl⟩
    | content =>
      have transaction : putTransaction key payloadHash body refs fresh clock (some existing) =
          (do let content ← prepareOrder refs body.toClientOrderCreateBody clock
              assertQueueable (shouldQueue body.intent (some existing)) content
              ensureEditable existing
              return .write (putOrder existing payloadHash body content clock.now)) := by
        simp only [putTransaction, found, delivered]
        rfl
      rw [putClientOrderByClientId_proceeds check, transaction]
      simp only [except_bind_ok, ensureEditable_ok, assertQueueable_ok, pure, Except.pure,
        Except.ok.injEq, PutAccepted]
      constructor
      · rintro ⟨_, loaded, content, prepared, _, complete, _, editable, rfl⟩
        exact ⟨loaded, editable, content, prepared, complete, rfl⟩
      · rintro ⟨loaded, editable, content, prepared, complete, rfl⟩
        exact ⟨(), loaded, content, prepared, (), complete, (), editable, rfl⟩

theorem putClientOrderByClientId_new {key : ClientOrderKey} {body : ClientOrderMutationBody}
    {clock : Clock} (free : findClientOrder key slot = none) :
    putClientOrderByClientId key payloadHash body refs fresh clock slot = .ok out ↔
      refs.loadLiveOrderMaterialization body.toClientOrderCreateBody = .ok () ∧
        ∃ content, prepareOrder refs body.toClientOrderCreateBody clock = .ok content ∧
          (body.intent = .submit → Submittable content) ∧
          out = .create (putData none payloadHash body content clock.now
            (blankOrder fresh key.userId (some key.clientOrderId) content)) := by
  have check : putPrecheck payloadHash body (findClientOrder key slot) = .ok false := by
    rw [free]
    rfl
  have queue : shouldQueue body.intent none = true ↔ body.intent = .submit := by
    simp [shouldQueue]
  rw [putClientOrderByClientId_proceeds check]
  simp only [putTransaction, free, except_bind_ok, assertQueueable_ok, queue, pure, Except.pure,
    Except.ok.injEq]
  constructor
  · rintro ⟨_, loaded, content, prepared, _, complete, rfl⟩
    exact ⟨loaded, content, prepared, complete, rfl⟩
  · rintro ⟨loaded, content, prepared, complete, rfl⟩
    exact ⟨(), loaded, content, prepared, (), complete, rfl⟩

theorem createClientOrder_ok {userId : Nat} {body : ClientOrderCreateBody} {clock : Clock} :
    createClientOrder userId body refs fresh clock = .ok out ↔
      refs.loadLiveOrderMaterialization body = .ok () ∧
        ∃ content, prepareOrder refs body clock = .ok content ∧
          out = .create
            { blankOrder fresh userId none content with sourceUpdatedAt := some clock.now } := by
  simp only [createClientOrder, except_bind_ok, pure, Except.pure, Except.ok.injEq]
  constructor
  · rintro ⟨_, loaded, content, prepared, rfl⟩
    exact ⟨loaded, content, prepared, rfl⟩
  · rintro ⟨loaded, content, prepared, rfl⟩
    exact ⟨(), loaded, content, prepared, rfl⟩

inductive ManagerAction where
  | create (userId : Nat) (body : ClientOrderCreateBody) (refs : OrderReferences)
      (fresh : FreshIds) (clock : Clock)
  | put (key : ClientOrderKey) (payloadHash : String) (body : ClientOrderMutationBody)
      (refs : OrderReferences) (fresh : FreshIds) (clock : Clock)
  | update (ref : OrderRef) (body : ClientOrderUpdateBody) (refs : OrderReferences) (clock : Clock)
  | submit (ref : OrderRef) (revision : Nat) (now : Instant)
  | unqueue (ref : OrderRef) (revision : Nat) (now : Instant)
  | retry (ref : OrderRef) (revision : Nat) (now : Instant)
  | restore (ref : OrderRef) (revision : Nat) (now : Instant)
  | cancel (ref : OrderRef) (revision : Nat) (reason : Option String) (now : Instant)

def outcome : ManagerAction → Option Order → Except ClientOrdersError TxOutcome
  | .create userId body refs fresh clock, _ => createClientOrder userId body refs fresh clock
  | .put key payloadHash body refs fresh clock, slot =>
    putClientOrderByClientId key payloadHash body refs fresh clock slot
  | .update ref body refs clock, slot => updateClientOrder ref body refs clock slot
  | .submit ref revision now, slot => submitClientOrder ref revision now slot
  | .unqueue ref revision now, slot => unqueueClientOrder ref revision now slot
  | .retry ref revision now, slot => retryClientOrderExport ref revision now slot
  | .restore ref revision now, slot => restoreClientOrder ref revision now slot
  | .cancel ref revision reason now, slot => cancelClientOrder ref revision reason now slot

def expectedRevision : ManagerAction → Option Nat
  | .create .. | .put .. => none
  | .update _ body _ _ => some body.revision
  | .submit _ revision _ | .unqueue _ revision _ | .retry _ revision _ | .restore _ revision _
  | .cancel _ revision _ _ => some revision

def managerStep (order : Order) (a : ManagerAction) : Order :=
  commit order (outcome a (some order))

inductive ManagerWrite (order : Order) : ManagerAction → OrderWrite → Prop where
  | update {ref : OrderRef} {body : ClientOrderUpdateBody} {refs : OrderReferences}
      {clock : Clock} {content : OrderContent} (addressed : Addressed ref order)
      (loaded : refs.loadLiveOrderMaterialization body.toClientOrderCreateBody = .ok ())
      (editable : Editable order) (current : order.revision = body.revision)
      (prepared : prepareOrder refs body.toClientOrderCreateBody clock = .ok content) :
      ManagerWrite order (.update ref body refs clock) (updatedOrder order content clock.now)
  | submit {ref : OrderRef} {now : Instant} (addressed : Addressed ref order)
      (editable : Editable order) (alive : order.status ≠ .cancelled)
      (complete : Submittable order.content) :
      ManagerWrite order (.submit ref order.revision now) (submittedOrder order now)
  | unqueue {ref : OrderRef} {now : Instant} (addressed : Addressed ref order)
      (unrealized : order.hasRealization = false) (queued : isOrderQueued order = true) :
      ManagerWrite order (.unqueue ref order.revision now) (unqueuedOrder order now)
  | retry {ref : OrderRef} {now : Instant} (addressed : Addressed ref order)
      (editable : Editable order) (sendable : hasUnsendableLines order.items = false) :
      ManagerWrite order (.retry ref order.revision now) (retriedOrder order now)
  | restore {ref : OrderRef} {now : Instant} (addressed : Addressed ref order)
      (restorable : Restorable order) :
      ManagerWrite order (.restore ref order.revision now) (restoredOrder order now)
  | withdraw {ref : OrderRef} {reason : Option String} {now : Instant}
      (addressed : Addressed ref order) (alive : order.status ≠ .cancelled)
      (queued : isOrderQueued order = true) :
      ManagerWrite order (.cancel ref order.revision reason now) (unqueuedOrder order now)
  | cancel {ref : OrderRef} {reason : Option String} {now : Instant}
      (addressed : Addressed ref order) (alive : order.status ≠ .cancelled)
      (idle : isOrderQueued order = false) (editable : Editable order) :
      ManagerWrite order (.cancel ref order.revision reason now) (cancelledOrder order reason now)
  | putSubmitted {key : ClientOrderKey} {payloadHash : String} {body : ClientOrderMutationBody}
      {refs : OrderReferences} {fresh : FreshIds} {clock : Clock} (owned : Owned key order)
      (delivered : resolveDelivery payloadHash body order = .ok .submit)
      (loaded : refs.loadLiveOrderMaterialization body.toClientOrderCreateBody = .ok ())
      (editable : Editable order) (complete : Submittable order.content) :
      ManagerWrite order (.put key payloadHash body refs fresh clock)
        (putSubmittedOrder order clock.now)
  | putStored {key : ClientOrderKey} {payloadHash : String} {body : ClientOrderMutationBody}
      {refs : OrderReferences} {fresh : FreshIds} {clock : Clock} {content : OrderContent}
      (owned : Owned key order)
      (delivered : resolveDelivery payloadHash body order = .ok .content)
      (loaded : refs.loadLiveOrderMaterialization body.toClientOrderCreateBody = .ok ())
      (editable : Editable order)
      (prepared : prepareOrder refs body.toClientOrderCreateBody clock = .ok content)
      (complete : shouldQueue body.intent (some order) = true → Submittable content) :
      ManagerWrite order (.put key payloadHash body refs fresh clock)
        (putOrder order payloadHash body content clock.now)

variable {a : ManagerAction}

theorem outcome_write (result : outcome a (some order) = .ok (.write w)) :
    ManagerWrite order a w := by
  cases a with
  | create userId body refs fresh clock =>
    obtain ⟨_, _, _, ⟨⟩⟩ := createClientOrder_ok.mp result
  | put key payloadHash body refs fresh clock =>
    by_cases owned : Owned key order
    · obtain ⟨delivery, delivered, accepted⟩ :=
        (putClientOrderByClientId_existing owned).mp result
      cases delivery with
      | answered => cases accepted
      | submit =>
        obtain ⟨loaded, editable, complete, ⟨⟩⟩ := accepted
        exact .putSubmitted owned delivered loaded editable complete
      | content =>
        obtain ⟨loaded, editable, content, prepared, complete, ⟨⟩⟩ := accepted
        exact .putStored owned delivered loaded editable prepared complete
    · have free : findClientOrder key (some order) = none := if_neg owned
      obtain ⟨_, _, _, _, ⟨⟩⟩ := (putClientOrderByClientId_new free).mp result
  | update ref body refs clock =>
    obtain ⟨loaded, _, ⟨⟩, addressed, editable, current, content, prepared, ⟨⟩⟩ :=
      updateClientOrder_ok.mp result
    exact .update addressed loaded editable current prepared
  | submit ref revision now =>
    obtain ⟨_, ⟨⟩, addressed, editable, rfl, alive, complete, ⟨⟩⟩ :=
      submitClientOrder_ok.mp result
    exact .submit addressed editable alive complete
  | unqueue ref revision now =>
    obtain ⟨_, ⟨⟩, addressed, unrealized, queued, rfl, ⟨⟩⟩ := unqueueClientOrder_ok.mp result
    exact .unqueue addressed unrealized queued
  | retry ref revision now =>
    obtain ⟨_, ⟨⟩, addressed, editable, rfl, sendable, ⟨⟩⟩ := retryClientOrderExport_ok.mp result
    exact .retry addressed editable sendable
  | restore ref revision now =>
    obtain ⟨_, ⟨⟩, addressed, restorable, rfl, ⟨⟩⟩ := restoreClientOrder_ok.mp result
    exact .restore addressed restorable
  | cancel ref revision reason now =>
    obtain ⟨_, ⟨⟩, addressed, accepted⟩ := cancelClientOrder_ok.mp result
    unfold CancelAccepted at accepted
    split at accepted
    · cases accepted
    · rename_i alive
      obtain ⟨rfl, accepted⟩ := accepted
      split at accepted
      · rename_i queued
        cases accepted
        exact .withdraw addressed alive queued
      · rename_i idle
        obtain ⟨editable, ⟨⟩⟩ := accepted
        exact .cancel addressed alive (Bool.eq_false_iff.mpr idle) editable

theorem managerStep_of_write (result : outcome a (some order) = .ok (.write w)) :
    managerStep order a = w.apply order := by
  rw [managerStep, result]
  rfl

theorem managerStep_cases (order : Order) (a : ManagerAction) :
    managerStep order a = order ∨
      ∃ w, ManagerWrite order a w ∧ outcome a (some order) = .ok (.write w) ∧
        managerStep order a = w.apply order := by
  unfold managerStep
  cases result : outcome a (some order) with
  | error e => exact .inl rfl
  | ok out =>
    cases out with
    | unchanged => exact .inl rfl
    | create fresh => exact .inl rfl
    | write w => exact .inr ⟨w, outcome_write result, rfl, rfl⟩

def OrderWrite.content (w : OrderWrite) (current : Order) : Option OrderContent :=
  w.items.map (fun lines => ⟨(w.data current).header, lines⟩)

theorem ManagerWrite.apply_content (write : ManagerWrite order a w) (current : Order) :
    (w.apply current).content = (w.content current).getD current.content := by
  cases write <;> rfl

/-! One manager's orders with a single line, for the runs on fixed inputs. The local
records answer to the guids themselves. -/
namespace Sample

def line (item : ManagerOrderItem) : OrderItem where
  lineGuid := item.lineGuid.getD "line"
  productId := item.productGuid
  packageId := none
  unitId := none
  priceTypeId := none
  quantity := item.quantity
  quantityBase := some item.quantity
  basePrice := item.basePrice
  price := item.basePrice.getD 0
  isManualPrice := false
  manualPrice := none
  priceSource := none
  isCancelled := item.isCancelled.getD false
  cancelReasonGuid := none
  cancelReasonName := none
  cancelReason := none
  cancelledAmount := none
  discountPercent := none
  appliedDiscountPercent := none
  lineAmount := none
  comment := item.comment

def references : OrderReferences where
  loadLiveOrderMaterialization _ := .ok ()
  resolveManagerOrderContext body := .ok
    { organizationId := body.organizationGuid
      counterpartyId := body.counterpartyGuid
      agreement := body.agreementGuid.map (fun guid => ⟨guid, none, none⟩)
      contractId := body.contractGuid
      warehouseId := body.warehouseGuid
      deliveryAddressId := body.deliveryAddressGuid
      priceTypeId := body.priceTypeGuid }
  prepareOrderItems body _ := .ok ⟨body.items.map line, 0, 0⟩

def item (quantity : Rat) : ManagerOrderItem where
  lineGuid := some "line"
  productGuid := "product"
  packageGuid := none
  priceTypeGuid := none
  quantity := quantity
  basePrice := some 10
  manualPrice := none
  discountPercent := none
  comment := none
  isCancelled := none
  cancelReasonGuid := none
  cancelReasonName := none
  cancelReason := none
  cancelledAmount := none

def body (quantity : Rat) : ClientOrderCreateBody where
  organizationGuid := "organization"
  counterpartyGuid := "counterparty"
  agreementGuid := some "agreement"
  contractGuid := some "contract"
  warehouseGuid := some "warehouse"
  deliveryAddressGuid := some "address"
  priceTypeGuid := none
  deliveryDate := some 100
  paymentForm := none
  deliveryMethod := none
  invoiceRequested := false
  comment := none
  currency := none
  generalDiscountPercent := none
  items := [item quantity]

def key : ClientOrderKey := ⟨1, "mobile-1"⟩

def ref : OrderRef := ⟨"order-guid", 1⟩

def clock (now : Instant) : Clock := ⟨now, 100⟩

def put (clientRevision : Nat) (intent : Intent) (quantity : Rat) (now : Instant) : ManagerAction :=
  .put key (toString quantity.num) ⟨body quantity, clientRevision, intent⟩ references
    ⟨"order-id", "order-guid"⟩ (clock now)

def update (revision : Nat) (quantity : Rat) (now : Instant) : ManagerAction :=
  .update ref ⟨body quantity, revision⟩ references (clock now)

def content (quantity : Rat) : OrderContent :=
  ⟨orderHeader (body quantity)
    ⟨"organization", "counterparty", some ⟨"agreement", none, none⟩, some "contract",
      some "warehouse", some "address", none⟩ ⟨[line (item quantity)], 0, 0⟩ (clock 0),
    [line (item quantity)]⟩

def queued : Order :=
  { blankOrder ⟨"order-id", "order-guid"⟩ 1 (some "mobile-1") (content 1) with
    clientRevision := some 1
    clientPayloadHash := some "1"
    status := .queued
    syncState := .queued
    queuedAt := some 1
    submitRequestedAt := some 1
    sourceUpdatedAt := some 1 }

example : created (outcome (put 1 .submit 1 1) none) = some queued := rfl

end Sample

end LeaderProduct
