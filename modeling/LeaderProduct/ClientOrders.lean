import LeaderProduct.Order

/-! The manager's operations on one order, each as the transaction that reads the
row and either refuses or says what it writes. What 1C and the reference tables
answer for a request body is a parameter: no operation looks inside it. The
events and preferences a transaction also stores are left out. -/
namespace LeaderProduct

inductive Intent where
  | save | submit
  deriving DecidableEq, Repr

structure ManagerOrderItem where
  lineGuid : Option String
  productGuid : String
  packageGuid : Option String
  priceTypeGuid : Option String
  quantity : Rat
  basePrice : Option Rat
  manualPrice : Option Rat
  discountPercent : Option Rat
  comment : Option String
  isCancelled : Option Bool
  cancelReasonGuid : Option String
  cancelReasonName : Option String
  cancelReason : Option String
  cancelledAmount : Option Rat

structure ClientOrderCreateBody where
  organizationGuid : String
  counterpartyGuid : String
  agreementGuid : Option String
  contractGuid : Option String
  warehouseGuid : Option String
  deliveryAddressGuid : Option String
  priceTypeGuid : Option String
  deliveryDate : Option Instant
  paymentForm : Option String
  deliveryMethod : Option String
  invoiceRequested : Bool
  comment : Option String
  currency : Option String
  generalDiscountPercent : Option Rat
  items : List ManagerOrderItem

structure ClientOrderUpdateBody extends ClientOrderCreateBody where
  revision : Nat

/-- The client's own revision and intent go with the payload. The digest of the payload
is a text of its own in what follows: it also covers the reason of the save. -/
structure ClientOrderMutationBody extends ClientOrderCreateBody where
  clientRevision : Nat
  intent : Intent

structure ManagerAgreement where
  id : Id
  contractId : Option Id
  warehouseId : Option Id

structure ManagerOrderContext where
  organizationId : Id
  counterpartyId : Id
  agreement : Option ManagerAgreement
  contractId : Option Id
  warehouseId : Option Id
  deliveryAddressId : Option Id
  priceTypeId : Option Id

structure PreparedOrderPayload where
  items : List OrderItem
  totalAmount : Rat
  generalDiscountAmount : Rat

structure OrderReferences where
  loadLiveOrderMaterialization : ClientOrderCreateBody → Except ClientOrdersError Unit
  resolveManagerOrderContext : ClientOrderCreateBody → Except ClientOrdersError ManagerOrderContext
  prepareOrderItems : ClientOrderCreateBody → ManagerOrderContext →
    Except ClientOrdersError PreparedOrderPayload

structure Clock where
  now : Instant
  defaultDeliveryDate : Instant

def orderHeader (body : ClientOrderCreateBody) (context : ManagerOrderContext)
    (prepared : PreparedOrderPayload) (clock : Clock) : OrderHeader where
  organizationId := some context.organizationId
  counterpartyId := context.counterpartyId
  agreementId := context.agreement.map (·.id)
  contractId := context.contractId.or (context.agreement.bind (·.contractId))
  warehouseId := context.warehouseId.or (context.agreement.bind (·.warehouseId))
  deliveryAddressId := context.deliveryAddressId
  priceTypeId := context.priceTypeId
  comment := body.comment
  deliveryDate := some (body.deliveryDate.getD clock.defaultDeliveryDate)
  paymentForm := body.paymentForm
  deliveryMethod := body.deliveryMethod
  invoiceRequested := body.invoiceRequested
  currency := some "RUB"
  totalAmount := some prepared.totalAmount
  generalDiscountPercent := body.generalDiscountPercent
  generalDiscountAmount := some prepared.generalDiscountAmount

def prepareOrder (refs : OrderReferences) (body : ClientOrderCreateBody) (clock : Clock) :
    Except ClientOrdersError OrderContent := do
  let context ← refs.resolveManagerOrderContext body
  let prepared ← refs.prepareOrderItems body context
  return ⟨orderHeader body context prepared clock, prepared.items⟩

/-- The write of a transaction: an update of the row found by its id, and for
`items := some lines` the replacement of all its lines. `data` is computed from
the row that was read and applied to the row as it stands at the update. -/
structure OrderWrite where
  data : Order → Order
  items : Option (List OrderItem)

def OrderWrite.apply (w : OrderWrite) (current : Order) : Order :=
  match w.items with
  | none => w.data current
  | some lines => { w.data current with items := lines }

inductive TxOutcome where
  | unchanged
  | write (w : OrderWrite)
  | create (order : Order)

/-- The row after a transaction that found it. A refused one is rolled back, and a row
that one creates beside it is another order. -/
def commit (order : Order) : Except ClientOrdersError TxOutcome → Order
  | .ok (.write w) => w.apply order
  | .ok (.create _) | .ok .unchanged | .error _ => order

def created : Except ClientOrdersError TxOutcome → Option Order
  | .ok (.create order) => some order
  | .ok (.write _) | .ok .unchanged | .error _ => none

structure OrderRef where
  guid : String
  userId : Nat

def Addressed (ref : OrderRef) (order : Order) : Prop :=
  order.guid = some ref.guid ∧ order.source = .managerApp ∧ order.createdByUserId = some ref.userId

instance (ref : OrderRef) (order : Order) : Decidable (Addressed ref order) :=
  inferInstanceAs (Decidable (_ ∧ _))

def findManagerOrder (ref : OrderRef) : Option Order → Except ClientOrdersError Order
  | some order =>
    if Addressed ref order then .ok order
    else .error ⟨404, .notFound, s!"Заказ {ref.guid} не найден"⟩
  | none => .error ⟨404, .notFound, s!"Заказ {ref.guid} не найден"⟩

structure QueueState where
  shouldQueueForExport : Bool
  status : OrderStatus
  syncState : OrderSyncState

def resolveUpdatedOrderQueueState (currentStatus : OrderStatus) : QueueState :=
  let shouldQueueForExport := currentStatus == .sentTo1c || currentStatus == .queued
  { shouldQueueForExport
    status := if shouldQueueForExport then .queued else .draft
    syncState := if shouldQueueForExport then .queued else .draft }

def updatedOrder (order : Order) (content : OrderContent) (sourceUpdatedAt : Instant) :
    OrderWrite where
  data current :=
    let queueState := resolveUpdatedOrderQueueState order.status
    { current with
      revision := order.revision + 1
      status := queueState.status
      syncState := queueState.syncState
      queuedAt := if queueState.shouldQueueForExport then some sourceUpdatedAt else none
      exportAttempts := if queueState.shouldQueueForExport then 0 else current.exportAttempts
      header := content.header
      lastExportError := none
      last1cError := none
      sourceUpdatedAt := some sourceUpdatedAt }
  items := some content.items

def updateClientOrder (ref : OrderRef) (body : ClientOrderUpdateBody) (refs : OrderReferences)
    (clock : Clock) (slot : Option Order) : Except ClientOrdersError TxOutcome := do
  refs.loadLiveOrderMaterialization body.toClientOrderCreateBody
  let order ← findManagerOrder ref slot
  ensureEditable order
  assertRevision order.revision body.revision
  let content ← prepareOrder refs body.toClientOrderCreateBody clock
  return .write (updatedOrder order content clock.now)

def submittedOrder (order : Order) (queuedAt : Instant) : OrderWrite where
  data current :=
    { current with
      revision := order.revision + 1
      status := .queued
      syncState := .queued
      queuedAt := some queuedAt
      submitRequestedAt := some queuedAt
      cancelRequestedAt := none
      cancelReason := none
      exportAttempts := 0
      lastExportError := none
      last1cError := none
      sourceUpdatedAt := some queuedAt }
  items := none

def assertNotCancelled (order : Order) : Except ClientOrdersError Unit :=
  if order.status = .cancelled then
    .error ⟨409, .conflict, "Отмененный заказ нельзя отправить"⟩
  else .ok ()

def submitClientOrder (ref : OrderRef) (revision : Nat) (now : Instant) (slot : Option Order) :
    Except ClientOrdersError TxOutcome := do
  let order ← findManagerOrder ref slot
  ensureEditable order
  assertRevision order.revision revision
  assertNotCancelled order
  assertClientOrderCanBeSubmitted order.header order.items
  return .write (submittedOrder order now)

def unqueuedOrder (order : Order) (changedAt : Instant) : OrderWrite where
  data current :=
    { current with
      revision := order.revision + 1
      status := .draft
      syncState := .draft
      queuedAt := none
      submitRequestedAt := none
      cancelRequestedAt := none
      cancelReason := none
      last1cError := none
      lastExportError := none
      sourceUpdatedAt := some changedAt }
  items := none

def assertUnqueueable (order : Order) : Except ClientOrdersError Unit :=
  if order.hasRealization then
    .error ⟨409, .conflict,
      "По заказу создана реализация товаров и услуг. Документ доступен только для чтения"⟩
  else if !isOrderQueued order then
    .error ⟨409, .conflict, "Снять с очереди можно только заказ в очереди"⟩
  else .ok ()

def unqueueClientOrder (ref : OrderRef) (revision : Nat) (now : Instant) (slot : Option Order) :
    Except ClientOrdersError TxOutcome := do
  let order ← findManagerOrder ref slot
  assertUnqueueable order
  assertRevision order.revision revision
  return .write (unqueuedOrder order now)

def retriedOrder (order : Order) (queuedAt : Instant) : OrderWrite where
  data current :=
    { current with
      revision := order.revision + 1
      status := .queued
      syncState := .queued
      queuedAt := some queuedAt
      sentTo1cAt := none
      lastExportError := none
      last1cError := none
      exportAttempts := 0
      sourceUpdatedAt := some queuedAt }
  items := none

def assertLinesSendable (order : Order) : Except ClientOrdersError Unit :=
  if hasUnsendableLines order.items then
    .error ⟨400, .validationError,
      "Исправьте строки с нулевым количеством или ценой перед повторной отправкой"⟩
  else .ok ()

def retryClientOrderExport (ref : OrderRef) (revision : Nat) (now : Instant)
    (slot : Option Order) : Except ClientOrdersError TxOutcome := do
  let order ← findManagerOrder ref slot
  ensureEditable order
  assertRevision order.revision revision
  assertLinesSendable order
  return .write (retriedOrder order now)

def restoredOrder (order : Order) (restoredAt : Instant) : OrderWrite where
  data current :=
    { current with
      revision := order.revision + 1
      status := .draft
      syncState := .draft
      queuedAt := none
      cancelRequestedAt := none
      cancelReason := none
      lastExportError := none
      last1cError := none
      sourceUpdatedAt := some restoredAt }
  items := none

def assertRestorable (order : Order) : Except ClientOrdersError Unit :=
  if order.status ≠ .cancelled then
    .error ⟨409, .conflict, "Восстановить можно только отмененный заказ"⟩
  else if order.isPostedIn1c || isSet order.number1c || order.sentTo1cAt.isSome then
    .error ⟨409, .conflict, "Заказ, уже созданный в 1С, нельзя восстановить из приложения"⟩
  else .ok ()

def restoreClientOrder (ref : OrderRef) (revision : Nat) (now : Instant) (slot : Option Order) :
    Except ClientOrdersError TxOutcome := do
  let order ← findManagerOrder ref slot
  assertRestorable order
  assertRevision order.revision revision
  return .write (restoredOrder order now)

def cancelledOrder (order : Order) (reason : Option String) (cancelledAt : Instant) :
    OrderWrite where
  data current :=
    let requiresOnecCancel := order.status != .draft
    { current with
      revision := order.revision + 1
      status := .cancelled
      syncState := if requiresOnecCancel then .cancelRequested else .synced
      cancelRequestedAt := if requiresOnecCancel then some cancelledAt else none
      cancelReason := reason
      sourceUpdatedAt := some cancelledAt }
  items := none

def cancelClientOrder (ref : OrderRef) (revision : Nat) (reason : Option String) (now : Instant)
    (slot : Option Order) : Except ClientOrdersError TxOutcome := do
  let order ← findManagerOrder ref slot
  if order.status = .cancelled then
    return .unchanged
  else
    assertRevision order.revision revision
    if isOrderQueued order then
      return .write (unqueuedOrder order now)
    else
      ensureEditable order
      return .write (cancelledOrder order reason now)

structure FreshIds where
  id : Id
  guid : String

/-- A created row before its data: the columns at their schema defaults. -/
def blankOrder (fresh : FreshIds) (userId : Nat) (clientOrderId : Option String)
    (content : OrderContent) : Order where
  id := fresh.id
  guid := some fresh.guid
  clientOrderId := clientOrderId
  clientRevision := none
  clientPayloadHash := none
  submitRequestedAt := none
  number1c := none
  date1c := none
  source := .managerApp
  revision := 1
  syncState := .draft
  createdByUserId := some userId
  status := .draft
  header := content.header
  items := content.items
  queuedAt := none
  sentTo1cAt := none
  lastStatusSyncAt := none
  exportAttempts := 0
  lastExportError := none
  isPostedIn1c := false
  postedAt1c := none
  hasRealization := false
  realizationDetectedAt := none
  cancelRequestedAt := none
  cancelReason := none
  last1cError := none
  sourceUpdatedAt := none
  lastSyncedAt := none

def createClientOrder (userId : Nat) (body : ClientOrderCreateBody) (refs : OrderReferences)
    (fresh : FreshIds) (clock : Clock) : Except ClientOrdersError TxOutcome := do
  refs.loadLiveOrderMaterialization body
  let content ← prepareOrder refs body clock
  return .create { blankOrder fresh userId none content with sourceUpdatedAt := some clock.now }

structure ClientOrderKey where
  userId : Nat
  clientOrderId : String

def findClientOrder (key : ClientOrderKey) : Option Order → Option Order
  | some order =>
    if order.createdByUserId = some key.userId ∧ order.clientOrderId = some key.clientOrderId then
      some order
    else none
  | none => none

inductive Delivery where
  | answered | submit | content
  deriving DecidableEq, Repr

def resolveDelivery (payloadHash : String) (body : ClientOrderMutationBody) (existing : Order) :
    Except ClientOrdersError Delivery :=
  let storedClientRevision := existing.clientRevision.getD 0
  if body.clientRevision < storedClientRevision then .ok .answered
  else if body.clientRevision = storedClientRevision then
    if isSet existing.clientPayloadHash ∧ existing.clientPayloadHash ≠ some payloadHash then
      .error ⟨409, .conflict, "Одна версия документа содержит разные данные. " ++
        "Обновите документ и повторите действие."⟩
    else if body.intent = .save ∨ isOrderQueued existing ∨ existing.submitRequestedAt.isSome then
      .ok .answered
    else .ok .submit
  else .ok .content

def putSubmittedOrder (existing : Order) (queuedAt : Instant) : OrderWrite where
  data current :=
    { current with
      revision := existing.revision + 1
      status := .queued
      syncState := .queued
      queuedAt := some queuedAt
      submitRequestedAt := some queuedAt
      exportAttempts := 0
      lastExportError := none
      last1cError := none
      sourceUpdatedAt := some queuedAt }
  items := none

def shouldQueue (intent : Intent) : Option Order → Bool
  | none => intent == .submit
  | some existing => intent == .submit || existing.submitRequestedAt.isSome ||
      (existing.status == .queued || existing.status == .sentTo1c)

def putData (existing : Option Order) (payloadHash : String) (body : ClientOrderMutationBody)
    (content : OrderContent) (sourceUpdatedAt : Instant) (current : Order) : Order :=
  let queue := shouldQueue body.intent existing
  { current with
    clientRevision := some body.clientRevision
    clientPayloadHash := some payloadHash
    status := if queue then .queued else .draft
    syncState := if queue then .queued else .draft
    queuedAt := if queue then some sourceUpdatedAt else none
    submitRequestedAt :=
      if queue then (existing.bind (·.submitRequestedAt)).or (some sourceUpdatedAt) else none
    header := content.header
    exportAttempts := if queue then 0 else current.exportAttempts
    lastExportError := none
    last1cError := none
    sourceUpdatedAt := some sourceUpdatedAt }

def putOrder (existing : Order) (payloadHash : String) (body : ClientOrderMutationBody)
    (content : OrderContent) (sourceUpdatedAt : Instant) : OrderWrite where
  data current :=
    { putData (some existing) payloadHash body content sourceUpdatedAt current with
      revision := existing.revision + 1 }
  items := some content.items

def assertQueueable (queue : Bool) (content : OrderContent) : Except ClientOrdersError Unit :=
  if queue then assertClientOrderCanBeSubmitted content.header content.items else .ok ()

def putTransaction (key : ClientOrderKey) (payloadHash : String) (body : ClientOrderMutationBody)
    (refs : OrderReferences) (fresh : FreshIds) (clock : Clock) (slot : Option Order) :
    Except ClientOrdersError TxOutcome :=
  match findClientOrder key slot with
  | none => do
    let content ← prepareOrder refs body.toClientOrderCreateBody clock
    assertQueueable (shouldQueue body.intent none) content
    return .create (putData none payloadHash body content clock.now
      (blankOrder fresh key.userId (some key.clientOrderId) content))
  | some existing => do
    match ← resolveDelivery payloadHash body existing with
    | .answered => return .unchanged
    | .submit =>
      ensureEditable existing
      assertClientOrderCanBeSubmitted existing.header existing.items
      return .write (putSubmittedOrder existing clock.now)
    | .content =>
      let content ← prepareOrder refs body.toClientOrderCreateBody clock
      assertQueueable (shouldQueue body.intent (some existing)) content
      ensureEditable existing
      return .write (putOrder existing payloadHash body content clock.now)

def putPrecheck (payloadHash : String) (body : ClientOrderMutationBody) :
    Option Order → Except ClientOrdersError Bool
  | none => .ok false
  | some committed => (resolveDelivery payloadHash body committed).map (· == .answered)

def putClientOrderByClientId (key : ClientOrderKey) (payloadHash : String)
    (body : ClientOrderMutationBody) (refs : OrderReferences) (fresh : FreshIds) (clock : Clock)
    (slot : Option Order) : Except ClientOrdersError TxOutcome := do
  if ← putPrecheck payloadHash body (findClientOrder key slot) then
    return .unchanged
  else
    refs.loadLiveOrderMaterialization body.toClientOrderCreateBody
    putTransaction key payloadHash body refs fresh clock slot

end LeaderProduct
