import LeaderProduct.JsString
import LeaderProduct.Order

/-! What 1C tells about orders, and what each channel writes to the row it names: the
acknowledgement of an export, the status batch, the snapshot batch, and the live list that a
manager's request has just read. Sync runs and order events are left out. -/
namespace LeaderProduct

inductive AckStatus where
  | sentTo1c | cancelled

def AckStatus.toOrderStatus : AckStatus → OrderStatus
  | .sentTo1c => .sentTo1c
  | .cancelled => .cancelled

structure OrderAck where
  status : Option AckStatus
  number1c : Option String
  date1c : Option Instant
  sentTo1cAt : Option Instant
  sourceUpdatedAt : Option Instant
  isPostedIn1c : Option Bool
  postedAt1c : Option Instant
  last1cError : Option String
  error : Option String

def trimmed (text : Option String) : Option String :=
  (text.map JsString.trim).filter (fun t => t ≠ "")

def ackedOrder (ack : OrderAck) (syncedAt : Instant) (order : Order) : Order :=
  if isSet ack.error then
    { order with
      revision := order.revision + 1
      status := .queued
      syncState := .error
      exportAttempts := order.exportAttempts + 1
      lastExportError := ack.error
      last1cError := ack.error
      sentTo1cAt := none
      lastSyncedAt := some syncedAt
      sourceUpdatedAt := some (ack.sourceUpdatedAt.getD syncedAt) }
  else
    { order with
      revision := order.revision + 1
      status := (ack.status.getD .sentTo1c).toOrderStatus
      syncState := .synced
      number1c := ack.number1c.or order.number1c
      date1c := ack.date1c.or order.date1c
      sentTo1cAt := some (ack.sentTo1cAt.getD syncedAt)
      lastStatusSyncAt := some syncedAt
      exportAttempts := order.exportAttempts + 1
      lastExportError := none
      last1cError :=
        if ack.isPostedIn1c = some false then
          some ((trimmed ack.last1cError).getD "Документ сохранен в 1С, но не проведен.")
        else none
      isPostedIn1c := ack.isPostedIn1c.getD order.isPostedIn1c
      postedAt1c := match ack.isPostedIn1c with
        | some true => some (ack.postedAt1c.getD syncedAt)
        | some false => none
        | none => order.postedAt1c
      lastSyncedAt := some syncedAt
      sourceUpdatedAt := some (ack.sourceUpdatedAt.getD syncedAt) }

def handleOrderAck (guid : String) (ack : OrderAck) (syncedAt : Instant) (order : Order) : Order :=
  if order.guid = some guid then ackedOrder ack syncedAt order else order

structure OrderStatusItem where
  guid : String
  status : OrderStatus
  number1c : Option String
  date1c : Option Instant
  comment : Option (Option String)
  totalAmount : Option Rat
  currency : Option String
  sourceUpdatedAt : Option Instant

def statusOrder (item : OrderStatusItem) (syncedAt : Instant) (order : Order) : Order :=
  { order with
    revision := order.revision + 1
    status := item.status
    syncState := .synced
    isPostedIn1c := if item.status = .confirmed then true else order.isPostedIn1c
    postedAt1c := if item.status = .confirmed then some syncedAt else order.postedAt1c
    lastStatusSyncAt := some syncedAt
    lastSyncedAt := some syncedAt
    sourceUpdatedAt := some (item.sourceUpdatedAt.getD syncedAt)
    number1c := item.number1c.or order.number1c
    date1c := item.date1c.or order.date1c
    header :=
      { order.header with
        comment := item.comment.getD order.header.comment
        totalAmount := item.totalAmount.or order.header.totalAmount
        currency := item.currency.or order.header.currency } }

def applyStatusItem (syncedAt : Instant) (order : Order) (item : OrderStatusItem) : Order :=
  if order.guid = some item.guid then statusOrder item syncedAt order else order

def handleOrdersStatusBatch (items : List OrderStatusItem) (syncedAt : Instant) (order : Order) :
    Order :=
  items.foldl (applyStatusItem syncedAt) order

structure SnapshotLine where
  lineGuid : Option String
  appLineGuid : Option String
  productGuid : String
  packageGuid : Option String
  unitGuid : Option String
  priceTypeGuid : Option String
  quantity : Rat
  quantityBase : Option Rat
  basePrice : Option Rat
  price : Option Rat
  isManualPrice : Option Bool
  manualPrice : Option Rat
  priceSource : Option String
  isCancelled : Option Bool
  cancelReasonGuid : Option String
  cancelReasonName : Option String
  cancelReason : Option String
  cancelledAmount : Option Rat
  discountPercent : Option Rat
  appliedDiscountPercent : Option Rat
  lineAmount : Option Rat
  comment : Option String

structure SnapshotItem where
  guid : String
  baseRevision : Nat
  revision : Option Nat
  status : OrderStatus
  syncState : Option OrderSyncState
  number1c : Option String
  date1c : Option Instant
  isPostedIn1c : Option Bool
  postedAt1c : Option Instant
  hasRealization : Option Bool
  organizationGuid : Option String
  comment : Option String
  deliveryDate : Option Instant
  paymentForm : Option String
  deliveryMethod : Option String
  currency : Option String
  totalAmount : Option Rat
  generalDiscountPercent : Option Rat
  generalDiscountAmount : Option Rat
  cancelReason : Option String
  last1cError : Option String
  sourceUpdatedAt : Option Instant
  items : List SnapshotLine

structure SnapshotProduct where
  id : Id
  baseUnitId : Option Id

structure SnapshotPackage where
  id : Id
  unitId : Option Id
  multiplier : Option Rat

structure SnapshotReferences where
  upsertSnapshotOrganization : String → Id
  product : String → Option SnapshotProduct
  package : String → Id → Option SnapshotPackage
  unit : String → Option Id
  priceType : String → Option Id
  randomUUID : Nat → String
  column : Nat → Rat → Rat

def snapshotLineGuid (line : SnapshotLine) : Option String :=
  (trimmed line.lineGuid).or (trimmed line.appLineGuid)

/-- The first line guid that repeats an earlier one; a random guid repeats none. -/
def duplicateLineGuid (used : List String) : List SnapshotLine → Option String
  | [] => none
  | line :: rest =>
    match snapshotLineGuid line with
    | none => duplicateLineGuid used rest
    | some guid =>
      let key := JsString.toLowerCase guid
      if key ∈ used then some guid else duplicateLineGuid (key :: used) rest

section Lines
variable (refs : SnapshotReferences)

/-- A package of one base unit counts as no package. -/
def effectivePackage (product : SnapshotProduct) (line : SnapshotLine) : Option SnapshotPackage :=
  (line.packageGuid.bind (fun guid => refs.package guid product.id)).filter (fun package =>
    match package.multiplier with
    | none => true
    | some multiplier =>
      !(decide ((multiplier - 1) * 1000000 < 1) && decide ((1 - multiplier) * 1000000 < 1)))

def snapshotQuantityBase (product : SnapshotProduct) (line : SnapshotLine) : Rat :=
  line.quantityBase.getD
    (match (effectivePackage refs product line).bind (·.multiplier) with
      | some multiplier => line.quantity * multiplier
      | none => line.quantity)

def snapshotPrice (line : SnapshotLine) : Rat := (line.price.or line.basePrice).getD 0

def snapshotLineAmount (product : SnapshotProduct) (line : SnapshotLine) : Rat :=
  line.lineAmount.getD (snapshotQuantityBase refs product line * snapshotPrice line)

def snapshotOrderItem (index : Nat) (product : SnapshotProduct) (line : SnapshotLine) :
    OrderItem where
  lineGuid := (snapshotLineGuid line).getD (refs.randomUUID index)
  productId := product.id
  packageId := (effectivePackage refs product line).map (·.id)
  unitId := ((line.unitGuid.bind refs.unit).or
    ((effectivePackage refs product line).bind (·.unitId))).or product.baseUnitId
  priceTypeId := line.priceTypeGuid.bind refs.priceType
  quantity := refs.column 3 line.quantity
  quantityBase := some (refs.column 3 (snapshotQuantityBase refs product line))
  basePrice := line.basePrice.map (refs.column 4)
  price := refs.column 4 (snapshotPrice line)
  isManualPrice := line.isManualPrice.getD false
  manualPrice := line.manualPrice.map (refs.column 4)
  priceSource := line.priceSource
  isCancelled := line.isCancelled.getD false
  cancelReasonGuid := line.cancelReasonGuid
  cancelReasonName := line.cancelReasonName
  cancelReason := line.cancelReason
  cancelledAmount := (line.cancelledAmount.or
    (if line.isCancelled = some true then some (snapshotLineAmount refs product line)
      else none)).map (refs.column 2)
  discountPercent := line.discountPercent.map (refs.column 2)
  appliedDiscountPercent := line.appliedDiscountPercent.map (refs.column 2)
  lineAmount := some (refs.column 2 (snapshotLineAmount refs product line))
  comment := line.comment

structure ReplacedItems where
  items : List OrderItem
  computedTotal : Rat
  error : Option String

def createSnapshotLines (index : Nat) : List SnapshotLine → ReplacedItems
  | [] => ⟨[], 0, none⟩
  | line :: rest =>
    match refs.product line.productGuid with
    | none => ⟨[], 0, some s!"Product {line.productGuid} not found for order snapshot"⟩
    | some product =>
      let created := createSnapshotLines (index + 1) rest
      { items := snapshotOrderItem refs index product line :: created.items
        computedTotal := created.computedTotal +
          (if line.isCancelled = some true then 0 else snapshotLineAmount refs product line)
        error := created.error }

def replaceOrderItemsFromSnapshot (stored : List OrderItem) (items : List SnapshotLine) :
    ReplacedItems :=
  match duplicateLineGuid [] items with
  | some lineGuid => ⟨stored, 0, some s!"Duplicate lineGuid {lineGuid} in order snapshot"⟩
  | none => createSnapshotLines refs 0 items

def snapshotHeader (item : SnapshotItem) (computedTotal : Rat) (header : OrderHeader) :
    OrderHeader :=
  { header with
    organizationId := (item.organizationGuid.map refs.upsertSnapshotOrganization).or
      header.organizationId
    comment := item.comment
    deliveryDate := item.deliveryDate
    paymentForm := item.paymentForm
    deliveryMethod := item.deliveryMethod
    currency := item.currency.or header.currency
    totalAmount := some (refs.column 2 (item.totalAmount.getD computedTotal))
    generalDiscountPercent := item.generalDiscountPercent.map (refs.column 2)
    generalDiscountAmount := item.generalDiscountAmount.map (refs.column 2) }

end Lines

def isAckAlignedSnapshot (order : Order) (item : SnapshotItem) : Bool :=
  order.source == .managerApp && order.syncState == .synced &&
    (order.status == .sentTo1c || order.status == .confirmed || order.status == .cancelled) &&
    item.revision == some order.revision && item.baseRevision + 1 == order.revision

/-- The snapshot was taken of the stored revision, or of the one before an acknowledgement. -/
def SnapshotCurrent (order : Order) (item : SnapshotItem) : Prop :=
  item.baseRevision = order.revision ∨ isAckAlignedSnapshot order item = true

def SnapshotDeferred (order : Order) : Prop :=
  order.status = .queued ∨ order.syncState = .queued ∨ order.syncState = .error ∨
    order.syncState = .conflict

instance (order : Order) (item : SnapshotItem) : Decidable (SnapshotCurrent order item) :=
  inferInstanceAs (Decidable (_ ∨ _))

instance (order : Order) : Decidable (SnapshotDeferred order) :=
  inferInstanceAs (Decidable (_ ∨ _))

def rejectedSnapshot (syncState : OrderSyncState) (message : String) (syncedAt : Instant)
    (order : Order) : Order :=
  { order with
    syncState := syncState
    last1cError := some message
    lastSyncedAt := some syncedAt }

/-- A snapshot that waits leaves its moments; the snapshot itself is stored beside the order. -/
def deferredSnapshot (syncedAt : Instant) (order : Order) : Order :=
  { order with lastSyncedAt := some syncedAt, lastStatusSyncAt := some syncedAt }

def appliedSnapshot (refs : SnapshotReferences) (item : SnapshotItem) (replaced : ReplacedItems)
    (syncedAt : Instant) (order : Order) : Order :=
  { order with
    revision := item.revision.getD (order.revision + 1)
    status := item.status
    syncState := item.syncState.getD .synced
    number1c := item.number1c.or order.number1c
    date1c := item.date1c.or order.date1c
    isPostedIn1c := item.isPostedIn1c.getD false
    postedAt1c := item.postedAt1c.or order.postedAt1c
    hasRealization := item.hasRealization.getD false
    realizationDetectedAt := if item.hasRealization = some true then some syncedAt else none
    header := snapshotHeader refs item replaced.computedTotal order.header
    items := replaced.items
    cancelReason := item.cancelReason
    last1cError := if item.isPostedIn1c = some true then none else trimmed item.last1cError
    lastStatusSyncAt := some syncedAt
    lastSyncedAt := some syncedAt
    sourceUpdatedAt := some (item.sourceUpdatedAt.getD syncedAt) }

def conflictMessage (order : Order) (item : SnapshotItem) : String :=
  let current := order.revision
  let base := item.baseRevision
  s!"Revision conflict. Current={current}, snapshotBase={base}"

def emptyItemsMessage (order : Order) : String :=
  let existingItemsCount := order.items.length
  s!"1С прислала snapshot заказа без строк товаров, но в API есть {existingItemsCount} строк. " ++
    "Snapshot отклонен, чтобы не потерять данные."

def snapshotOrder (refs : SnapshotReferences) (syncedAt : Instant) (order : Order)
    (item : SnapshotItem) : Order :=
  if ¬SnapshotCurrent order item then
    rejectedSnapshot .conflict (conflictMessage order item) syncedAt order
  else if SnapshotDeferred order then
    deferredSnapshot syncedAt order
  else if order.items ≠ [] ∧ item.items = [] then
    rejectedSnapshot .error (emptyItemsMessage order) syncedAt order
  else
    let replaced := replaceOrderItemsFromSnapshot refs order.items item.items
    match replaced.error with
    | some message =>
      rejectedSnapshot .error message syncedAt { order with items := replaced.items }
    | none => appliedSnapshot refs item replaced syncedAt order

inductive SnapshotEffect (refs : SnapshotReferences) (syncedAt : Instant) (order : Order)
    (item : SnapshotItem) : Order → Prop where
  | conflict (stale : ¬SnapshotCurrent order item) :
      SnapshotEffect refs syncedAt order item
        (rejectedSnapshot .conflict (conflictMessage order item) syncedAt order)
  | deferred (current : SnapshotCurrent order item) (waits : SnapshotDeferred order) :
      SnapshotEffect refs syncedAt order item (deferredSnapshot syncedAt order)
  | emptied (current : SnapshotCurrent order item) (idle : ¬SnapshotDeferred order)
      (stored : order.items ≠ []) (none_sent : item.items = []) :
      SnapshotEffect refs syncedAt order item
        (rejectedSnapshot .error (emptyItemsMessage order) syncedAt order)
  | failed {message : String} (current : SnapshotCurrent order item)
      (idle : ¬SnapshotDeferred order) (sent : order.items = [] ∨ item.items ≠ [])
      (error : (replaceOrderItemsFromSnapshot refs order.items item.items).error = some message) :
      SnapshotEffect refs syncedAt order item
        (rejectedSnapshot .error message syncedAt
          { order with items := (replaceOrderItemsFromSnapshot refs order.items item.items).items })
  | applied (current : SnapshotCurrent order item) (idle : ¬SnapshotDeferred order)
      (sent : order.items = [] ∨ item.items ≠ [])
      (error : (replaceOrderItemsFromSnapshot refs order.items item.items).error = none) :
      SnapshotEffect refs syncedAt order item
        (appliedSnapshot refs item (replaceOrderItemsFromSnapshot refs order.items item.items)
          syncedAt order)

theorem snapshotOrder_effect (refs : SnapshotReferences) (syncedAt : Instant) (order : Order)
    (item : SnapshotItem) :
    SnapshotEffect refs syncedAt order item (snapshotOrder refs syncedAt order item) := by
  unfold snapshotOrder
  split
  · rename_i stale
    exact .conflict stale
  rename_i current
  replace current := Decidable.not_not.mp current
  split
  · rename_i waits
    exact .deferred current waits
  rename_i idle
  split
  · rename_i emptied
    exact .emptied current idle emptied.1 emptied.2
  rename_i sent
  replace sent : order.items = [] ∨ item.items ≠ [] := by
    by_cases stored : order.items = []
    · exact .inl stored
    · exact .inr (fun none_sent => sent ⟨stored, none_sent⟩)
  dsimp only
  split
  · rename_i message error
    exact .failed current idle sent error
  · rename_i error
    exact .applied current idle sent error

def applySnapshotItem (refs : SnapshotReferences) (syncedAt : Instant) (order : Order)
    (item : SnapshotItem) : Order :=
  if order.guid = some item.guid then snapshotOrder refs syncedAt order item else order

def handleOrdersSnapshotBatch (refs : SnapshotReferences) (items : List SnapshotItem)
    (syncedAt : Instant) (order : Order) : Order :=
  items.foldl (applySnapshotItem refs syncedAt) order

structure LiveClientOrder where
  appGuid : Option String
  number1c : Option String
  isPostedIn1c : Bool

structure OrderKey where
  appGuid : Option String
  number1c : Option String

def nonEmpty (text : String) : Option String := if text = "" then none else some text

def localOrderKey (order : Order) : OrderKey where
  appGuid := some ((order.guid.map JsString.toLowerCase).getD "")
  number1c := (order.number1c.map (fun n => JsString.toLowerCase (JsString.trim n))).bind nonEmpty

def liveOrderKey (order : LiveClientOrder) : OrderKey where
  appGuid := (order.appGuid.map (fun g => JsString.toLowerCase (JsString.trim g))).bind nonEmpty
  number1c := (order.number1c.map (fun n => JsString.toLowerCase (JsString.trim n))).bind nonEmpty

def lastWith (locals : List Order) (key : Order → Option String) (value : String) : Option Order :=
  (locals.filter (fun order => key order == some value)).getLast?

def matchingLocal (locals : List Order) (live : LiveClientOrder) : Option Order :=
  let key := liveOrderKey live
  (key.appGuid.bind (lastWith locals (fun order => (localOrderKey order).appGuid))).or
    (key.number1c.bind (lastWith locals (fun order => (localOrderKey order).number1c)))

def Unreconciled (order : Order) : Prop :=
  order.isPostedIn1c = false ∨ order.status ≠ .confirmed ∨ order.syncState ≠ .synced

instance (order : Order) : Decidable (Unreconciled order) := inferInstanceAs (Decidable (_ ∨ _))

def reconciledIds (liveItems : List LiveClientOrder) (locals : List Order) : List Id :=
  (liveItems.filter (·.isPostedIn1c)).filterMap (fun live =>
    ((matchingLocal locals live).filter (fun stored =>
      decide (Unreconciled stored) || isSet stored.last1cError || isSet stored.lastExportError)).map
      (·.id))

/-- The rows that `updateMany` finds when it runs. -/
def Reconcilable (ids : List Id) (order : Order) : Prop :=
  order.id ∈ ids ∧ order.source = .managerApp ∧
    (Unreconciled order ∨ order.last1cError.isSome = true ∨ order.lastExportError.isSome = true)

instance (ids : List Id) (order : Order) : Decidable (Reconcilable ids order) :=
  inferInstanceAs (Decidable (_ ∧ _))

def reconcilePostedLiveOrdersInBackground (liveItems : List LiveClientOrder) (locals : List Order)
    (syncedAt : Instant) (order : Order) : Order :=
  if Reconcilable (reconciledIds liveItems locals) order then
    { order with
      isPostedIn1c := true
      status := .confirmed
      syncState := .synced
      last1cError := none
      lastExportError := none
      lastStatusSyncAt := some syncedAt
      lastSyncedAt := some syncedAt }
  else order

end LeaderProduct
