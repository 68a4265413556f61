import Mathlib.Tactic.Ring
import LeaderProduct.MarketplaceOrder

/-! The lines of a manager's order as they are prepared for the database: what each item refers to,
its price with the discounts, and the two sums that go with the order. -/
namespace LeaderProduct
open RowTable

section Catalog

structure CatalogProduct where
  id : Id
  guid : String
  name : String
  code : Option String
  isActive : Bool
  isWeight : Bool
  baseUnitId : Option Id

structure CatalogPrice extends ProductPrice where
  sourceUpdatedAt : Option Instant
  createdAt : Instant

structure OrderCatalog where
  products : List CatalogProduct
  packages : List MarketPackage
  priceTypes : List MarketReference
  productPrices : List CatalogPrice

def formatProductLabel (product : CatalogProduct) : String :=
  let code := (product.code.map JsString.trim).filter (· ≠ "")
  let name := JsString.trim product.name
  match code with
  | none => if name = "" then product.guid else name
  | some code => if name = "" then code else name ++ " (" ++ code ++ ")"

/-- `desc`, where the database puts null first. -/
def descNullsFirst : Option Instant → Option Instant → Ordering
  | none, none => .eq
  | none, some _ => .lt
  | some _, none => .gt
  | some a, some b => compare b a

def priceOrder (a b : CatalogPrice) : Ordering :=
  (descNullsFirst a.startDate b.startDate).then
    ((descNullsFirst a.sourceUpdatedAt b.sourceUpdatedAt).then (compare b.createdAt a.createdAt))

def loadProductPriceInfo (catalog : OrderCatalog) (date : Instant) (productId priceTypeId : Id) :
    Option CatalogPrice :=
  ((catalog.productPrices.filter (fun row =>
    row.isActive && row.productId == productId && row.priceTypeId == some priceTypeId &&
      isWithinRange date row.startDate row.endDate)).insertionSort (fun a b =>
        priceOrder a b ≠ .gt)).head?

end Catalog

section Lines
variable (catalog : OrderCatalog) (contextPriceType : Option MarketReference) (date : Instant)

structure OrderLine where
  product : CatalogProduct
  packageRecord : Option MarketPackage
  priceType : Option MarketReference
  productPrice : Option CatalogPrice
  quantity : Rat
  quantityBase : Rat
  basePrice : Rat
  manualPrice : Option Rat
  discountPercent : Option Rat
  isCancelled : Bool

def orderProduct (item : ManagerOrderItem) : Except ClientOrdersError CatalogProduct :=
  match lookup CatalogProduct.guid catalog.products item.productGuid with
  | none => .error ⟨404, .notFound, "Товар " ++ item.productGuid ++ " не найден"⟩
  | some product =>
    if product.isActive then .ok product
    else .error ⟨400, .validationError, "Товар " ++ formatProductLabel product ++ " неактивен"⟩

def orderPackage (product : CatalogProduct) (item : ManagerOrderItem) :
    Except ClientOrdersError (Option MarketPackage) :=
  match item.packageGuid with
  | none => .ok none
  | some guid =>
    match catalog.packages.find? (fun row => row.guid == some guid && row.productId == product.id) with
    | some row => .ok (some row)
    | none => .error ⟨404, .notFound, "Упаковка " ++ guid ++ " для товара " ++
        formatProductLabel product ++ " не найдена"⟩

def orderPriceType (item : ManagerOrderItem) :
    Except ClientOrdersError (Option MarketReference) :=
  match item.priceTypeGuid with
  | none => .ok (if item.manualPrice.isSome then none else contextPriceType)
  | some guid =>
    match lookup MarketReference.guid catalog.priceTypes guid with
    | none => .error ⟨404, .notFound, "Тип цены " ++ guid ++ " не найден"⟩
    | some priceType =>
      if priceType.isActive then .ok (some priceType)
      else .error ⟨400, .validationError, "Тип цены " ++ priceType.guid ++ " неактивен"⟩

def orderProductPrice (product : CatalogProduct) (priceType : Option MarketReference)
    (item : ManagerOrderItem) : Except ClientOrdersError (Option CatalogPrice) :=
  if item.manualPrice.isSome then .ok none
  else
    match priceType with
    | some priceType => .ok (loadProductPriceInfo catalog date product.id priceType.id)
    | none =>
      if item.isCancelled.getD false then .ok none
      else .error ⟨400, .validationError, "Не выбран вид цены для товара " ++
        formatProductLabel product⟩

def orderBasePrice (product : CatalogProduct) (priceType : Option MarketReference)
    (productPrice : Option CatalogPrice) (item : ManagerOrderItem) : Except ClientOrdersError Rat :=
  let found :=
    if item.manualPrice.isSome then item.manualPrice
    else (item.basePrice.or (productPrice.map (·.price))).or
      (if item.isCancelled.getD false then some 0 else none)
  match found with
  | some price => .ok price
  | none => .error ⟨400, .validationError, JsString.trim ("Не найдена цена " ++
      (priceType.map (·.name)).getD "" ++ " для товара " ++ formatProductLabel product)⟩

def lineMinQty (product : CatalogProduct) (productPrice : Option CatalogPrice) : Option Rat :=
  if product.isWeight then some (1 / 1000) else productPrice.bind (·.minQty)

def checkMinQty (product : CatalogProduct) (productPrice : Option CatalogPrice)
    (quantityBase : Rat) (item : ManagerOrderItem) : Except ClientOrdersError Unit :=
  match lineMinQty product productPrice with
  | none => .ok ()
  | some minQty =>
    if item.isCancelled.getD false = false ∧ 0 < quantityBase ∧ quantityBase < minQty then
      .error ⟨400, .validationError, "Количество для товара " ++ formatProductLabel product ++
        " меньше минимального (" ++ quantityText minQty ++ ")"⟩
    else .ok ()

def resolveLine (item : ManagerOrderItem) : Except ClientOrdersError OrderLine := do
  let product ← orderProduct catalog item
  let packageRecord ← orderPackage catalog product item
  let quantityBase := item.quantity * (packageRecord.map (·.multiplier)).getD 1
  let priceType ← orderPriceType catalog contextPriceType item
  let productPrice ← orderProductPrice catalog date product priceType item
  let basePrice ← orderBasePrice product priceType productPrice item
  checkMinQty product productPrice quantityBase item
  return {
    product := product
    packageRecord := packageRecord
    priceType := priceType
    productPrice := productPrice
    quantity := item.quantity
    quantityBase := quantityBase
    basePrice := basePrice
    manualPrice := item.manualPrice
    discountPercent := item.discountPercent
    isCancelled := item.isCancelled.getD false }

end Lines

section Amounts

def OrderLine.canApplyGeneralDiscount (line : OrderLine) : Bool :=
  line.manualPrice.isNone && line.discountPercent.isNone

def OrderLine.appliedDiscountPercent (line : OrderLine) (general : Option Rat) : Option Rat :=
  line.discountPercent.or (if line.canApplyGeneralDiscount then general else none)

/-- Decimals are exact here. -/
def discounted (price : Rat) : Option Rat → Rat
  | none => price
  | some percent => price * ((100 - percent) / 100)

def OrderLine.finalPrice (line : OrderLine) (general : Option Rat) : Rat :=
  discounted (line.manualPrice.getD line.basePrice) (line.appliedDiscountPercent general)

def OrderLine.lineAmount (line : OrderLine) (general : Option Rat) : Rat :=
  line.quantityBase * line.finalPrice general

def OrderLine.generalDiscount (line : OrderLine) (general : Option Rat) : Rat :=
  if line.canApplyGeneralDiscount && general.isSome then
    (line.basePrice - line.finalPrice general) * line.quantityBase
  else 0

def OrderLine.priceSource (line : OrderLine) : String :=
  let priceTypeName := (line.priceType.map (·.name)).getD "price-type"
  if line.manualPrice.isSome then "manual"
  else if line.productPrice.isSome then "product-prices:" ++ priceTypeName
  else "client-fixed:" ++ priceTypeName

def preparedItem (item : ManagerOrderItem) (line : OrderLine) (general : Option Rat)
    (lineGuid : String) : OrderItem where
  lineGuid := lineGuid
  productId := line.product.id
  packageId := line.packageRecord.map (·.id)
  unitId := (line.packageRecord.map (·.unitId)).or line.product.baseUnitId
  priceTypeId := line.priceType.map (·.id)
  quantity := line.quantity
  quantityBase := some line.quantityBase
  basePrice := some line.basePrice
  price := line.finalPrice general
  isManualPrice := line.manualPrice.isSome
  manualPrice := line.manualPrice
  priceSource := some line.priceSource
  isCancelled := line.isCancelled
  cancelReasonGuid := item.cancelReasonGuid
  cancelReasonName := item.cancelReasonName
  cancelReason := item.cancelReason
  cancelledAmount := item.cancelledAmount.or
    (if line.isCancelled then some (line.lineAmount general) else none)
  discountPercent := line.discountPercent
  appliedDiscountPercent := line.appliedDiscountPercent general
  lineAmount := some (line.lineAmount general)
  comment := item.comment

structure PreparedState where
  items : List OrderItem
  totalAmount : Rat
  generalDiscountAmount : Rat
  usedLineGuids : List String

/-- A random one where the item has none. -/
def ensureLineGuid (given : Option String) (random : String) : String :=
  ((given.map JsString.trim).filter (· ≠ "")).getD random

variable (newLineGuid : Nat → String) (general : Option Rat)

def addLine (state : PreparedState) (item : ManagerOrderItem) (line : OrderLine) :
    Except ClientOrdersError PreparedState :=
  let lineGuid := ensureLineGuid item.lineGuid (newLineGuid state.items.length)
  if JsString.toLowerCase lineGuid ∈ state.usedLineGuids then
    .error ⟨400, .validationError, "Дублируется идентификатор строки заказа " ++ lineGuid⟩
  else
    .ok { items := state.items ++ [preparedItem item line general lineGuid]
          totalAmount :=
            if line.isCancelled then state.totalAmount
            else state.totalAmount + line.lineAmount general
          generalDiscountAmount := state.generalDiscountAmount + line.generalDiscount general
          usedLineGuids := state.usedLineGuids ++ [JsString.toLowerCase lineGuid] }

variable (catalog : OrderCatalog) (contextPriceType : Option MarketReference) (date : Instant)

def prepareLoop (state : PreparedState) :
    List ManagerOrderItem → Except ClientOrdersError PreparedState
  | [] => .ok state
  | item :: rest => do
    let line ← resolveLine catalog contextPriceType date item
    let state ← addLine newLineGuid general state item line
    prepareLoop state rest

def prepareOrderItems (body : ClientOrderCreateBody) :
    Except ClientOrdersError PreparedOrderPayload := do
  let state ← prepareLoop newLineGuid body.generalDiscountPercent catalog contextPriceType date
    ⟨[], 0, 0, []⟩ body.items
  return ⟨state.items, state.totalAmount, state.generalDiscountAmount⟩

end Amounts

section Runs
variable {newLineGuid : Nat → String} {general : Option Rat} (catalog : OrderCatalog)
  (contextPriceType : Option MarketReference) (date : Instant)

def orderLines (items : List ManagerOrderItem) : List OrderLine :=
  items.filterMap (fun item => (resolveLine catalog contextPriceType date item).toOption)

variable {catalog contextPriceType date} {state state' : PreparedState}

variable {item : ManagerOrderItem} {items : List ManagerOrderItem}

theorem addLine_ok {line : OrderLine}
    (added : addLine newLineGuid general state item line = .ok state') :
    ∃ lineGuid, state' =
      { items := state.items ++ [preparedItem item line general lineGuid]
        totalAmount :=
          if line.isCancelled then state.totalAmount
          else state.totalAmount + line.lineAmount general
        generalDiscountAmount := state.generalDiscountAmount + line.generalDiscount general
        usedLineGuids := state.usedLineGuids ++ [JsString.toLowerCase lineGuid] } := by
  unfold addLine at added
  dsimp only at added
  split at added
  · cases added
  · cases added
    exact ⟨_, rfl⟩

theorem prepareLoop_cons {rest : List ManagerOrderItem}
    (done : prepareLoop newLineGuid general catalog contextPriceType date state (item :: rest) =
      .ok state') : ∃ line next, resolveLine catalog contextPriceType date item = .ok line ∧
        addLine newLineGuid general state item line = .ok next ∧
        prepareLoop newLineGuid general catalog contextPriceType date next rest = .ok state' := by
  rw [prepareLoop, except_bind_ok] at done
  obtain ⟨line, resolved, done⟩ := done
  rw [except_bind_ok] at done
  obtain ⟨next, added, done⟩ := done
  exact ⟨line, next, resolved, added, done⟩

def openAmounts (general : Option Rat) (lines : List OrderLine) : List Rat :=
  (lines.filter (fun line => !line.isCancelled)).map (·.lineAmount general)

theorem orderLines_cons {rest : List ManagerOrderItem} {line : OrderLine}
    (resolved : resolveLine catalog contextPriceType date item = .ok line) :
    orderLines catalog contextPriceType date (item :: rest) =
      line :: orderLines catalog contextPriceType date rest := by
  simp [orderLines, resolved, Except.toOption]

theorem prepareLoop_sums
    (done : prepareLoop newLineGuid general catalog contextPriceType date state items =
      .ok state') :
    state'.totalAmount = state.totalAmount +
        (openAmounts general (orderLines catalog contextPriceType date items)).sum ∧
      state'.generalDiscountAmount = state.generalDiscountAmount +
        ((orderLines catalog contextPriceType date items).map (·.generalDiscount general)).sum := by
  induction items generalizing state with
  | nil =>
    cases done
    simp [orderLines, openAmounts]
  | cons item rest ih =>
    obtain ⟨line, next, resolved, added, done⟩ := prepareLoop_cons done
    obtain ⟨lineGuid, rfl⟩ := addLine_ok added
    obtain ⟨total, discount⟩ := ih done
    rw [total, discount, orderLines_cons resolved]
    constructor
    · by_cases cancelled : line.isCancelled
      · simp [openAmounts, cancelled]
      · simp [openAmounts, cancelled, add_assoc]
    · simp [add_assoc]

def openAmount (item : OrderItem) : Option Rat :=
  if item.isCancelled then none else item.lineAmount

theorem prepareLoop_rows
    (done : prepareLoop newLineGuid general catalog contextPriceType date state items =
      .ok state') :
    state'.items.filterMap openAmount = state.items.filterMap openAmount ++
      openAmounts general (orderLines catalog contextPriceType date items) := by
  induction items generalizing state with
  | nil =>
    cases done
    simp [orderLines, openAmounts]
  | cons item rest ih =>
    obtain ⟨line, next, resolved, added, done⟩ := prepareLoop_cons done
    obtain ⟨lineGuid, rfl⟩ := addLine_ok added
    rw [ih done, orderLines_cons resolved]
    by_cases cancelled : line.isCancelled
    · simp [openAmounts, openAmount, preparedItem, cancelled]
    · simp [openAmounts, openAmount, preparedItem, cancelled]

theorem prepareOrderItems_ok {body : ClientOrderCreateBody} {prepared : PreparedOrderPayload}
    (done : prepareOrderItems newLineGuid catalog contextPriceType date body = .ok prepared) :
    prepared.totalAmount = (openAmounts body.generalDiscountPercent
        (orderLines catalog contextPriceType date body.items)).sum ∧
      prepared.generalDiscountAmount = ((orderLines catalog contextPriceType date body.items).map
        (·.generalDiscount body.generalDiscountPercent)).sum ∧
      prepared.items.filterMap openAmount = openAmounts body.generalDiscountPercent
        (orderLines catalog contextPriceType date body.items) := by
  rw [prepareOrderItems, except_bind_ok] at done
  obtain ⟨state, looped, done⟩ := done
  cases done
  obtain ⟨total, discount⟩ := prepareLoop_sums looped
  have rows := prepareLoop_rows looped
  simp only [zero_add] at total discount
  exact ⟨total, discount, by simpa using rows⟩

theorem prepareLoop_any_general (other : Option Rat) (twin : PreparedState)
    (same : twin.items.length = state.items.length ∧
      twin.usedLineGuids = state.usedLineGuids)
    (done : prepareLoop newLineGuid general catalog contextPriceType date state items =
      .ok state') :
    ∃ twin', prepareLoop newLineGuid other catalog contextPriceType date twin items =
      .ok twin' := by
  induction items generalizing state twin with
  | nil => exact ⟨twin, rfl⟩
  | cons item rest ih =>
    obtain ⟨line, next, resolved, added, done⟩ := prepareLoop_cons done
    rw [addLine] at added
    split at added
    · cases added
    · next fresh =>
      cases added
      rw [← same.1, ← same.2] at fresh
      simp only [prepareLoop, resolved, except_bind_ok]
      refine Exists.imp (fun twin' here => ⟨line, rfl, _, if_neg fresh, here⟩) (ih _ ?_ done)
      simp [same.1, same.2]

end Runs

end LeaderProduct
