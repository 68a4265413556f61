/-! One manager order as the database keeps it, and the checks that its writers share. -/
namespace LeaderProduct

abbrev Id := String
abbrev Instant := Nat

inductive OrderStatus where
  | draft | queued | sentTo1c | confirmed | partialState | rejected | cancelled
  deriving DecidableEq, Repr

inductive OrderSyncState where
  | draft | queued | synced | conflict | error | cancelRequested
  deriving DecidableEq, Repr

inductive OrderSource where
  | marketplaceClient | managerApp
  deriving DecidableEq, Repr

inductive ErrorCode where
  | validationError | notFound | conflict

structure ClientOrdersError where
  status : Nat
  code : ErrorCode
  message : String

structure OrderItem where
  lineGuid : String
  productId : Id
  packageId : Option Id
  unitId : Option Id
  priceTypeId : Option Id
  quantity : Rat
  quantityBase : Option Rat
  basePrice : Option Rat
  price : Rat
  isManualPrice : Bool
  manualPrice : Option Rat
  priceSource : Option String
  isCancelled : Bool
  cancelReasonGuid : Option String
  cancelReasonName : Option String
  cancelReason : Option String
  cancelledAmount : Option Rat
  discountPercent : Option Rat
  appliedDiscountPercent : Option Rat
  lineAmount : Option Rat
  comment : Option String
  deriving DecidableEq, Repr

structure OrderHeader where
  organizationId : Option Id
  counterpartyId : Id
  agreementId : Option Id
  contractId : Option Id
  warehouseId : Option Id
  deliveryAddressId : Option Id
  priceTypeId : Option Id
  comment : Option String
  deliveryDate : Option Instant
  paymentForm : Option String
  deliveryMethod : Option String
  invoiceRequested : Bool
  currency : Option String
  totalAmount : Option Rat
  generalDiscountPercent : Option Rat
  generalDiscountAmount : Option Rat
  deriving DecidableEq, Repr

structure Order where
  id : Id
  guid : Option String
  clientOrderId : Option String
  clientRevision : Option Nat
  clientPayloadHash : Option String
  submitRequestedAt : Option Instant
  number1c : Option String
  date1c : Option Instant
  source : OrderSource
  revision : Nat
  syncState : OrderSyncState
  createdByUserId : Option Nat
  status : OrderStatus
  header : OrderHeader
  items : List OrderItem
  queuedAt : Option Instant
  sentTo1cAt : Option Instant
  lastStatusSyncAt : Option Instant
  exportAttempts : Nat
  lastExportError : Option String
  isPostedIn1c : Bool
  postedAt1c : Option Instant
  hasRealization : Bool
  realizationDetectedAt : Option Instant
  cancelRequestedAt : Option Instant
  cancelReason : Option String
  last1cError : Option String
  sourceUpdatedAt : Option Instant
  lastSyncedAt : Option Instant
  deriving Repr

structure OrderContent where
  header : OrderHeader
  items : List OrderItem
  deriving DecidableEq, Repr

def Order.content (order : Order) : OrderContent := ⟨order.header, order.items⟩

/-- An optional text counts as set when it is there and not empty. -/
def isSet : Option String → Bool
  | some text => text != ""
  | none => false

def isOrderQueued (order : Order) : Bool :=
  order.syncState == .queued || order.syncState == .cancelRequested

def Order.PendingExport (order : Order) : Prop :=
  (order.status = .queued ∧ order.syncState = .queued) ∨
    (order.status = .cancelled ∧ order.syncState = .cancelRequested)

instance (order : Order) : Decidable order.PendingExport :=
  inferInstanceAs (Decidable (_ ∨ _))

def Order.KnownIn1c (order : Order) : Prop :=
  isSet order.number1c = true ∨ order.sentTo1cAt.isSome = true

instance (order : Order) : Decidable order.KnownIn1c := inferInstanceAs (Decidable (_ ∨ _))

def ensureEditable (order : Order) : Except ClientOrdersError Unit :=
  if order.source ≠ .managerApp then
    .error ⟨404, .notFound, "Заказ менеджера не найден"⟩
  else if order.hasRealization then
    .error ⟨409, .conflict,
      "По заказу создана реализация товаров и услуг. Документ доступен только для чтения"⟩
  else .ok ()

def revisionConflict (currentRevision : Nat) : ClientOrdersError :=
  ⟨409, .conflict, s!"Версия заказа устарела. Актуальная revision: {currentRevision}"⟩

def assertRevision (currentRevision expectedRevision : Nat) : Except ClientOrdersError Unit :=
  if currentRevision ≠ expectedRevision then .error (revisionConflict currentRevision)
  else .ok ()

def missingFields (header : OrderHeader) : List String :=
  (if isSet header.organizationId then [] else ["организацию"]) ++
  (if isSet header.agreementId then [] else ["соглашение"]) ++
  (if isSet header.contractId then [] else ["договор"]) ++
  (if isSet header.warehouseId then [] else ["склад"]) ++
  (if isSet header.deliveryAddressId then [] else ["адрес доставки"]) ++
  (if header.deliveryDate.isSome then [] else ["дату отгрузки"])

def hasUnsendableLines (items : List OrderItem) : Bool :=
  let activeItems := items.filter (fun item => !item.isCancelled)
  activeItems.isEmpty || activeItems.any (fun item =>
    decide (item.quantity ≤ 0) || match item.basePrice with
      | none => true
      | some basePrice => decide (basePrice ≤ 0))

def assertClientOrderCanBeSubmitted (header : OrderHeader) (items : List OrderItem) :
    Except ClientOrdersError Unit :=
  let missing := String.intercalate ", " (missingFields header)
  if missingFields header ≠ [] then
    .error ⟨400, .validationError, s!"Заполните {missing} перед отправкой в 1С"⟩
  else if hasUnsendableLines items then
    .error ⟨400, .validationError,
      "Исправьте строки с нулевым количеством или ценой перед отправкой"⟩
  else .ok ()

def Submittable (content : OrderContent) : Prop :=
  missingFields content.header = [] ∧ hasUnsendableLines content.items = false

instance (content : OrderContent) : Decidable (Submittable content) :=
  inferInstanceAs (Decidable (_ ∧ _))

def Editable (order : Order) : Prop := order.source = .managerApp ∧ order.hasRealization = false

instance (order : Order) : Decidable (Editable order) := inferInstanceAs (Decidable (_ ∧ _))

theorem ensureEditable_ok (order : Order) (u : Unit) :
    ensureEditable order = .ok u ↔ Editable order := by
  unfold ensureEditable Editable
  split
  · simp_all
  · split <;> simp_all

theorem assertRevision_ok (current expected : Nat) (u : Unit) :
    assertRevision current expected = .ok u ↔ current = expected := by
  unfold assertRevision
  split <;> simp_all

theorem assertClientOrderCanBeSubmitted_ok (header : OrderHeader) (items : List OrderItem)
    (u : Unit) :
    assertClientOrderCanBeSubmitted header items = .ok u ↔ Submittable ⟨header, items⟩ := by
  simp only [assertClientOrderCanBeSubmitted, Submittable]
  split
  · simp_all
  · split <;> simp_all

theorem except_bind_ok {ε α β : Type} (x : Except ε α) (f : α → Except ε β) (b : β) :
    x >>= f = .ok b ↔ ∃ a, x = .ok a ∧ f a = .ok b := by
  cases x <;> simp [bind, Except.bind]

theorem nodup_eraseDups {α : Type} [BEq α] [LawfulBEq α] (items : List α) :
    items.eraseDups.Nodup := by
  induction size : items.length using Nat.strongRecOn generalizing items with
  | _ n ih =>
    cases items with
    | nil => exact List.nodup_nil
    | cons item rest =>
      rw [List.eraseDups_cons, List.nodup_cons]
      constructor
      · simp
      · refine ih _ ?_ _ rfl
        have shorter := List.length_filter_le (fun b => !b == item) rest
        simp only [List.length_cons] at size
        omega

end LeaderProduct
