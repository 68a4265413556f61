import LeaderProduct.JsString
import LeaderProduct.Order

/-! The export worker: which rows it takes, what it posts to 1C, and how it records
the answer. Loading, posting and recording are separate definitions because other
transactions commit between them. Locks, batches and back-off times are left out. -/
namespace LeaderProduct

def isCancelExportOrder (order : Order) : Bool :=
  order.status == .cancelled || order.syncState == .cancelRequested

def ExportCandidate (order : Order) : Prop :=
  order.source = .managerApp ∧ order.PendingExport ∧ order.guid.isSome = true

instance (order : Order) : Decidable (ExportCandidate order) :=
  inferInstanceAs (Decidable (_ ∧ _))

def normalizeEnumValue (value : Option String) : String :=
  JsString.removeSpaces (JsString.toLowerCase (JsString.trim (value.getD "")))

def isCashPaymentForm (value : Option String) : Bool :=
  let normalized := normalizeEnumValue value
  normalized == normalizeEnumValue (some "Наличная") || normalized == "наличка" ||
    normalized == "наличные"

def isPickupDeliveryMethod (value : Option String) : Bool :=
  let normalized := normalizeEnumValue value
  normalized == normalizeEnumValue (some "Самовывоз") || normalized == "самовывозснашегосклада"

def appendCommentMarker (comment marker : String) : String :=
  if JsString.includes (JsString.toUpperCase comment) marker then comment
  else if comment ≠ "" then comment ++ "\n" ++ marker
  else marker

def buildOrderCommentForOnec (header : OrderHeader) : Option String :=
  let comment := JsString.trim (header.comment.getD "")
  let comment := if isCashPaymentForm header.paymentForm then
    appendCommentMarker comment "НАЛИЧКА" else comment
  let comment := if isPickupDeliveryMethod header.deliveryMethod then
    appendCommentMarker comment "САМОВЫВОЗ" else comment
  if comment ≠ "" then some comment else none

structure PostedHeader where
  deliveryDate : Option Instant
  paymentForm : Option String
  deliveryMethod : Option String
  comment : Option String
  currency : Option String
  totalAmount : Option Rat
  generalDiscountPercent : Option Rat
  generalDiscountAmount : Option Rat
  invoiceRequested : Bool
  counterparty : Id
  agreement : Option Id
  contract : Option Id
  warehouse : Option Id
  deliveryAddress : Option Id
  organization : Option Id
  deriving DecidableEq, Repr

structure QueuedOrderPayload where
  guid : String
  source : OrderSource
  revision : Nat
  syncState : OrderSyncState
  status : OrderStatus
  queuedAt : Option Instant
  sentTo1cAt : Option Instant
  header : PostedHeader
  exportAttempts : Nat
  lastExportError : Option String
  isPostedIn1c : Bool
  postedAt1c : Option Instant
  hasRealization : Bool
  realizationDetectedAt : Option Instant
  cancelRequestedAt : Option Instant
  cancelReason : Option String
  last1cError : Option String
  items : List OrderItem

def postedHeader (header : OrderHeader) : PostedHeader where
  deliveryDate := header.deliveryDate
  paymentForm := header.paymentForm
  deliveryMethod := header.deliveryMethod
  comment := buildOrderCommentForOnec header
  currency := header.currency
  totalAmount := header.totalAmount
  generalDiscountPercent := header.generalDiscountPercent
  generalDiscountAmount := header.generalDiscountAmount
  invoiceRequested := header.invoiceRequested
  counterparty := header.counterpartyId
  agreement := header.agreementId
  contract := header.contractId
  warehouse := header.warehouseId
  deliveryAddress := header.deliveryAddressId
  organization := header.organizationId

def buildQueuedOrderPayload (order : Order) : QueuedOrderPayload where
  guid := order.guid.getD order.id
  source := order.source
  revision := order.revision
  syncState := order.syncState
  status := order.status
  queuedAt := order.queuedAt
  sentTo1cAt := order.sentTo1cAt
  header := postedHeader order.header
  exportAttempts := order.exportAttempts
  lastExportError := order.lastExportError
  isPostedIn1c := order.isPostedIn1c
  postedAt1c := order.postedAt1c
  hasRealization := order.hasRealization
  realizationDetectedAt := order.realizationDetectedAt
  cancelRequestedAt := order.cancelRequestedAt
  cancelReason := order.cancelReason
  last1cError := order.last1cError
  items := order.items

structure PostedContent where
  header : PostedHeader
  items : List OrderItem
  deriving DecidableEq, Repr

def QueuedOrderPayload.content (payload : QueuedOrderPayload) : PostedContent :=
  ⟨payload.header, payload.items⟩

def postedContent (content : OrderContent) : PostedContent :=
  ⟨postedHeader content.header, content.items⟩

@[simp] theorem buildQueuedOrderPayload_content (order : Order) :
    (buildQueuedOrderPayload order).content = postedContent order.content := rfl

def exportErrors (order : Order) : List String :=
  if isCancelExportOrder order then [] else
    let activeItems := order.items.filter (fun item => !item.isCancelled)
    (if order.header.organizationId.isSome then [] else ["организация"]) ++
    (if order.header.agreementId.isSome then [] else ["соглашение"]) ++
    (if order.header.contractId.isSome then [] else ["договор"]) ++
    (if order.header.warehouseId.isSome then [] else ["склад"]) ++
    (if order.header.deliveryAddressId.isSome then [] else ["адрес доставки"]) ++
    (if order.header.deliveryDate.isSome then [] else ["дата отгрузки"]) ++
    (if activeItems.isEmpty then ["активные строки товаров"] else []) ++
    activeItems.zipIdx.flatMap (fun (item, index) =>
      let linePrefix := s!"строка {index + 1}"
      (if item.quantity ≤ 0 then [linePrefix ++ ": количество должно быть больше 0"] else []) ++
      (match item.basePrice with
        | none => [linePrefix ++ ": цена должна быть больше 0"]
        | some basePrice =>
          if basePrice ≤ 0 then [linePrefix ++ ": цена должна быть больше 0"] else []))

structure SavedOrder where
  number1c : Option String
  date1c : Option Instant
  isPostedIn1c : Option Bool
  postedAt1c : Option Instant
  last1cError : Option String
  lastExportError : Option String
  itemsCount : Option Nat
  deriving DecidableEq, Repr

def keepsItems (order : Order) (saved : SavedOrder) : Bool :=
  order.items.isEmpty || saved.itemsCount != some 0

def isMarkable (order current : Order) : Bool :=
  current.id == order.id &&
    current.status == (if isCancelExportOrder order then .cancelled else .queued) &&
    current.syncState == (if isCancelExportOrder order then .cancelRequested else .queued)

def postingError (order : Order) (saved : SavedOrder) : Option String :=
  if !isCancelExportOrder order && saved.isPostedIn1c != some true then
    some ((saved.last1cError.or saved.lastExportError).getD
      "Документ сохранен в 1С, но не проведен.")
  else none

def markedOrder (order : Order) (saved : SavedOrder) (revision : Nat) (syncedAt : Instant)
    (current : Order) : Order :=
  let isCancelExport := isCancelExportOrder order
  { current with
    revision := revision + 1
    status := if isCancelExport then .cancelled else .sentTo1c
    syncState := .synced
    number1c := saved.number1c.or current.number1c
    date1c := saved.date1c.or current.date1c
    sentTo1cAt := some syncedAt
    cancelRequestedAt := if isCancelExport then none else current.cancelRequestedAt
    lastStatusSyncAt := some syncedAt
    lastSyncedAt := some syncedAt
    sourceUpdatedAt := some syncedAt
    lastExportError := none
    last1cError := postingError order saved
    isPostedIn1c := if isCancelExport then current.isPostedIn1c else saved.isPostedIn1c.getD false
    postedAt1c :=
      if isCancelExport then current.postedAt1c
      else if saved.isPostedIn1c = some true then some (saved.postedAt1c.getD syncedAt)
      else none
    exportAttempts := current.exportAttempts + 1 }

def markOrderExportSuccess (order : Order) (saved : SavedOrder) (syncedAt : Instant)
    (current : Order) : Order :=
  if isMarkable order current then markedOrder order saved current.revision syncedAt current
  else current

structure ExportError where
  isValidationError : Bool
  message : String

def failedOrder (order : Order) (error : ExportError) (failedAt : Instant) (current : Order) :
    Order :=
  { current with
    syncState :=
      if error.isValidationError then .error
      else if isCancelExportOrder order then .cancelRequested
      else .queued
    exportAttempts := order.exportAttempts + 1
    lastExportError := some error.message
    last1cError := some error.message
    sourceUpdatedAt := some failedAt }

def markOrderExportFailure (order : Order) (error : ExportError) (failedAt : Instant)
    (current : Order) : Order :=
  if isMarkable order current then failedOrder order error failedAt current else current

def exportSucceeds (saved : SavedOrder) (syncedAt : Instant) (order : Order) : Order :=
  if ExportCandidate order ∧ exportErrors order = [] ∧ keepsItems order saved then
    markOrderExportSuccess order saved syncedAt order
  else order

def Sample.answer : SavedOrder where
  number1c := some "000001"
  date1c := none
  isPostedIn1c := some true
  postedAt1c := none
  last1cError := none
  lastExportError := none
  itemsCount := some 1

end LeaderProduct
