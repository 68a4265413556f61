import Mathlib.Algebra.Ring.Rat
import Mathlib.Data.List.Sort
import LeaderProduct.ClientOrders
import LeaderProduct.JsString
import LeaderProduct.RowTable

/-! The orders that clients place in the marketplace. -/
namespace LeaderProduct
open RowTable

section Rows

structure MarketplaceError where
  status : Nat
  code : ErrorCode
  message : String

structure MarketReference where
  id : Id
  guid : String
  name : String
  isActive : Bool

structure AgreementRef where
  id : Id
  guid : String
  name : String
  currency : Option String
  isActive : Bool
  counterpartyId : Option Id
  contractId : Option Id
  warehouseId : Option Id
  priceTypeId : Option Id

structure ContractRef where
  id : Id
  guid : String
  number : String
  isActive : Bool
  counterpartyId : Id

structure DeliveryAddressRef where
  id : Id
  guid : Option String
  fullAddress : String
  isActive : Bool
  counterpartyId : Id

structure ClientProfile where
  userId : Nat
  counterpartyId : Option Id
  activeAgreementId : Option Id
  activeContractId : Option Id
  activeWarehouseId : Option Id
  activePriceTypeId : Option Id
  activeDeliveryAddressId : Option Id

structure BaseUnit where
  id : Id
  guid : String

structure MarketProduct where
  id : Id
  guid : String
  isActive : Bool
  baseUnit : Option BaseUnit

structure MarketPackage where
  id : Id
  guid : Option String
  productId : Id
  unitId : Id
  multiplier : Rat

structure PriceCandidate where
  price : Rat
  startDate : Option Instant
  endDate : Option Instant
  minQty : Option Rat

structure ProductPrice extends PriceCandidate where
  productId : Id
  priceTypeId : Option Id
  isActive : Bool

structure SpecialPrice extends ProductPrice where
  agreementId : Option Id
  counterpartyId : Option Id

structure Marketplace where
  profiles : List ClientProfile
  counterparties : List MarketReference
  agreements : List AgreementRef
  contracts : List ContractRef
  warehouses : List MarketReference
  priceTypes : List MarketReference
  addresses : List DeliveryAddressRef
  products : List MarketProduct
  packages : List MarketPackage
  specialPrices : List SpecialPrice
  productPrices : List ProductPrice
  orders : List Order

end Rows

section Context

structure OrderItemBody where
  productGuid : String
  packageGuid : Option String
  unitGuid : Option String
  quantity : Rat

abbrev NullableGuid := Option (Option String)

structure OrderCreateBody where
  agreementGuid : NullableGuid
  contractGuid : NullableGuid
  warehouseGuid : NullableGuid
  deliveryAddressGuid : NullableGuid
  priceTypeGuid : NullableGuid
  deliveryDate : Option Instant
  comment : Option String
  currency : Option String
  items : List OrderItemBody

structure ResolvedOrderContext where
  counterparty : MarketReference
  agreement : Option AgreementRef
  contract : Option ContractRef
  warehouse : Option MarketReference
  priceType : Option MarketReference
  deliveryAddress : Option DeliveryAddressRef

def isGuidProvided (value : String) : Bool := JsString.trim value != ""

def ensureActive {R : Type} (isActive : R → Bool) (entity : Option R) (message : String) :
    Except MarketplaceError R :=
  match entity with
  | none => throw ⟨404, .notFound, message⟩
  | some row =>
    if isActive row then return row
    else throw ⟨400, .validationError, message ++ " неактивен"⟩

def chooseRef {R : Type} (isActive : R → Bool) (ofProfile : Option R) (byGuid : String → Option R)
    (message : String) : NullableGuid → Except MarketplaceError (Option R)
  | none => return ofProfile.filter isActive
  | some none => return none
  | some (some guid) =>
    if isGuidProvided guid then return some (← ensureActive isActive (byGuid guid) message)
    else return none

variable (db : Marketplace)

def getClientProfileOrThrow (userId : Nat) : Except MarketplaceError ClientProfile :=
  match lookup ClientProfile.userId db.profiles userId with
  | none => throw ⟨404, .notFound, "Клиентский профиль не найден"⟩
  | some profile => return profile

def counterpartyById (id : Id) : Option MarketReference :=
  lookup MarketReference.id db.counterparties id

def loadCounterpartyById (id : Id) : Except MarketplaceError MarketReference :=
  ensureActive MarketReference.isActive (counterpartyById db id) "Контрагент"

def ownerCounterparty (counterparty : Option MarketReference) (counterpartyId : Id)
    (message : String) : Except MarketplaceError (Option MarketReference) := do
  if counterparty.any (fun known => known.id ≠ counterpartyId) then
    throw ⟨400, .validationError, message⟩
  return some (← loadCounterpartyById db counterpartyId)

def agreementCounterparty (agreement : Option AgreementRef)
    (counterparty : Option MarketReference) :
    Except MarketplaceError (Option MarketReference) :=
  match agreement.bind (·.counterpartyId) with
  | none => return counterparty
  | some counterpartyId =>
    if counterpartyId = "" then return counterparty
    else ownerCounterparty db counterparty counterpartyId
      "Соглашение не принадлежит выбранному контрагенту"

def contractCounterparty (contract : Option ContractRef) (counterparty : Option MarketReference) :
    Except MarketplaceError (Option MarketReference) :=
  match contract with
  | none => return counterparty
  | some contract => ownerCounterparty db counterparty contract.counterpartyId
      "Договор не принадлежит выбранному контрагенту"

def addressCounterparty (deliveryAddress : Option DeliveryAddressRef)
    (counterparty : Option MarketReference) :
    Except MarketplaceError (Option MarketReference) :=
  match deliveryAddress with
  | none => return counterparty
  | some address =>
    if address.counterpartyId = "" then return counterparty
    else ownerCounterparty db counterparty address.counterpartyId
      "Адрес доставки не принадлежит выбранному контрагенту"

def mismatches (named chosen : Option Id) : Bool :=
  isSet named && chosen.any (fun id => named ≠ some id)

def checkAgreement (agreement : Option AgreementRef) (contract : Option ContractRef)
    (warehouse priceType : Option MarketReference) : Except MarketplaceError Unit := do
  if mismatches (agreement.bind (·.contractId)) (contract.map (·.id)) then
    throw ⟨400, .validationError, "Договор не соответствует соглашению"⟩
  if mismatches (agreement.bind (·.warehouseId)) (warehouse.map (·.id)) then
    throw ⟨400, .validationError, "Склад не соответствует соглашению"⟩
  if mismatches (agreement.bind (·.priceTypeId)) (priceType.map (·.id)) then
    throw ⟨400, .validationError, "Тип цен не соответствует соглашению"⟩

def resolveOrderContext (userId : Nat) (body : OrderCreateBody) :
    Except MarketplaceError ResolvedOrderContext := do
  let profile ← getClientProfileOrThrow db userId
  let agreement ← chooseRef AgreementRef.isActive
    (profile.activeAgreementId.bind (lookup AgreementRef.id db.agreements))
    (lookup AgreementRef.guid db.agreements) "Соглашение" body.agreementGuid
  let contract ← chooseRef ContractRef.isActive
    (profile.activeContractId.bind (lookup ContractRef.id db.contracts))
    (lookup ContractRef.guid db.contracts) "Договор" body.contractGuid
  let warehouse ← chooseRef MarketReference.isActive
    (profile.activeWarehouseId.bind (lookup MarketReference.id db.warehouses))
    (lookup MarketReference.guid db.warehouses) "Склад" body.warehouseGuid
  let priceType ← chooseRef MarketReference.isActive
    (profile.activePriceTypeId.bind (lookup MarketReference.id db.priceTypes))
    (lookup MarketReference.guid db.priceTypes) "Тип цен" body.priceTypeGuid
  let deliveryAddress ← chooseRef DeliveryAddressRef.isActive
    (profile.activeDeliveryAddressId.bind (lookup DeliveryAddressRef.id db.addresses))
    (fun guid => lookup DeliveryAddressRef.guid db.addresses (some guid)) "Адрес доставки"
    body.deliveryAddressGuid
  let own := (profile.counterpartyId.bind (counterpartyById db)).filter (·.isActive)
  let counterparty ← agreementCounterparty db agreement own
  let counterparty ← contractCounterparty db contract counterparty
  let counterparty ← addressCounterparty db deliveryAddress counterparty
  match counterparty with
  | none =>
    throw ⟨400, .validationError, "Нельзя создать заказ без выбранного контрагента"⟩
  | some counterparty =>
    checkAgreement agreement contract warehouse priceType
    return ⟨counterparty, agreement, contract, warehouse, priceType, deliveryAddress⟩

end Context

section Price

structure ResolvePriceQuery where
  productGuid : String
  counterpartyGuid : Option String
  agreementGuid : Option String
  priceTypeGuid : Option String
  date : Instant

structure ResolvedPrice where
  source : String
  level : Nat
  minQty : Option Rat
  price : Rat

def isWithinRange (date : Instant) (start finish : Option Instant) : Bool :=
  start.all (fun start => decide (start ≤ date)) && finish.all (fun finish => decide (date ≤ finish))

def startsNoLater : Option Instant → Option Instant → Bool
  | none, _ => true
  | some _, none => false
  | some a, some b => decide (a ≤ b)

def ranksBefore {C : Type} (level : C → Nat) (startDate : C → Option Instant) (a b : C) : Bool :=
  if level a ≠ level b then decide (level b < level a) else startsNoLater (startDate b) (startDate a)

def ranked {C : Type} (level : C → Nat) (startDate : C → Option Instant) (candidates : List C) :
    List C := candidates.insertionSort (fun a b => ranksBefore level startDate a b = true)

def computeMatchLevel (agreementId counterpartyId priceTypeId : Option Id)
    (specialPrice : SpecialPrice) : Nat :=
  if isSet agreementId && specialPrice.agreementId == agreementId then 4
  else if isSet counterpartyId && specialPrice.counterpartyId == counterpartyId then 3
  else if isSet priceTypeId && specialPrice.priceTypeId == priceTypeId then 2
  else 1

def productPriceLevel (priceTypeId : Option Id) (candidate : ProductPrice) : Nat :=
  if isSet priceTypeId && candidate.priceTypeId == priceTypeId then 2 else 1

def matchLevelLabel : Nat → String
  | 4 => "AGREEMENT"
  | 3 => "COUNTERPARTY"
  | 2 => "PRICE_TYPE"
  | _ => "GLOBAL"

def fitsExactly (resolved candidate : Option Id) : Bool :=
  if isSet resolved then candidate == resolved else !isSet candidate

def fitsOrOpen (resolved candidate : Option Id) : Bool :=
  if isSet resolved then !isSet candidate || candidate == resolved else !isSet candidate

def namedActive {R : Type} (isActive : R → Bool) (byGuid : String → Option R)
    (missing inactive : String → String) : Option String → Except MarketplaceError (Option R)
  | none => return none
  | some guid =>
    if guid = "" then return none
    else match byGuid guid with
      | none => throw ⟨404, .notFound, missing guid⟩
      | some row =>
        if isActive row then return some row
        else throw ⟨400, .validationError, inactive guid⟩

variable (db : Marketplace)

def activeProduct (guid : String) : Except MarketplaceError MarketProduct :=
  match lookup MarketProduct.guid db.products guid with
  | none => throw ⟨404, .notFound, "Товар " ++ guid ++ " не найден"⟩
  | some product =>
    if product.isActive then return product
    else throw ⟨400, .validationError, "Товар " ++ guid ++ " неактивен"⟩

def bestPrice (product : MarketProduct) (agreementId counterpartyId priceTypeId : Option Id)
    (date : Instant) : Except MarketplaceError ResolvedPrice :=
  let special := db.specialPrices.filter (fun candidate =>
    candidate.productId == product.id && candidate.isActive &&
    isWithinRange date candidate.startDate candidate.endDate &&
    fitsExactly agreementId candidate.agreementId &&
    fitsOrOpen counterpartyId candidate.counterpartyId &&
    fitsOrOpen priceTypeId candidate.priceTypeId)
  let level := computeMatchLevel agreementId counterpartyId priceTypeId
  match (ranked level (·.startDate) special).head? with
  | some best => return ⟨"SPECIAL_PRICE", level best, best.minQty, best.price⟩
  | none =>
    let plain := db.productPrices.filter (fun candidate =>
      candidate.productId == product.id && candidate.isActive &&
      (candidate.priceTypeId == none || isSet priceTypeId && candidate.priceTypeId == priceTypeId) &&
      isWithinRange date candidate.startDate candidate.endDate)
    match (ranked (productPriceLevel priceTypeId) (·.startDate) plain).head? with
    | some best => return ⟨"PRODUCT_PRICE", productPriceLevel priceTypeId best, best.minQty, best.price⟩
    | none => throw ⟨404, .notFound, "Подходящая цена не найдена"⟩

def resolveEffectivePrice (query : ResolvePriceQuery) : Except MarketplaceError ResolvedPrice := do
  let product ← activeProduct db query.productGuid
  let counterparty ← namedActive MarketReference.isActive
    (lookup MarketReference.guid db.counterparties)
    (fun guid => "Контрагент " ++ guid ++ " не найден")
    (fun guid => "Контрагент " ++ guid ++ " неактивен") query.counterpartyGuid
  let agreement ← namedActive AgreementRef.isActive (lookup AgreementRef.guid db.agreements)
    (fun guid => "Соглашение " ++ guid ++ " не найдено")
    (fun guid => "Соглашение " ++ guid ++ " неактивно") query.agreementGuid
  let priceType ← namedActive MarketReference.isActive (lookup MarketReference.guid db.priceTypes)
    (fun guid => "Тип цен " ++ guid ++ " не найден")
    (fun guid => "Тип цен " ++ guid ++ " неактивен") query.priceTypeGuid
  if mismatches (agreement.bind (·.counterpartyId)) (counterparty.map (·.id)) then
    throw ⟨400, .validationError, "agreementGuid не принадлежит указанному counterpartyGuid"⟩
  if mismatches (agreement.bind (·.priceTypeId)) (priceType.map (·.id)) then
    throw ⟨400, .validationError, "agreementGuid не принадлежит указанному priceTypeGuid"⟩
  bestPrice db product (agreement.map (·.id))
    ((counterparty.map (·.id)).or (agreement.bind (·.counterpartyId)))
    ((priceType.map (·.id)).or (agreement.bind (·.priceTypeId))) query.date

end Price

section Orders

structure PreparedItem where
  productId : Id
  packageId : Option Id
  unitId : Option Id
  quantity : Rat
  quantityBase : Rat
  basePrice : Rat
  price : Rat
  priceSource : String
  lineAmount : Rat

inductive OrderFailure where
  | refused (error : MarketplaceError)
  | guidTaken

variable (db : Marketplace)

def findPackage (product : MarketProduct) (item : OrderItemBody) :
    Except MarketplaceError (Option MarketPackage) :=
  match item.packageGuid with
  | none => return none
  | some guid =>
    if guid = "" then return none
    else match db.packages.find? (fun row => row.guid == some guid && row.productId == product.id) with
      | none => throw ⟨404, .notFound,
          "Упаковка " ++ guid ++ " для товара " ++ item.productGuid ++ " не найдена"⟩
      | some row => return some row

def quantityText (quantity : Rat) : String :=
  let thousandths := (quantity * 1000).floor.toNat
  let decimals := [thousandths / 100 % 10, thousandths / 10 % 10, thousandths % 10]
  let shown := (decimals.reverse.dropWhile (· == 0)).reverse
  toString (thousandths / 1000) ++
    if shown.isEmpty then "" else "." ++ String.join (shown.map (fun digit => toString digit))

def prepareItem (context : ResolvedOrderContext) (createdAt : Instant) (item : OrderItemBody) :
    Except MarketplaceError PreparedItem := do
  let product ← activeProduct db item.productGuid
  let packageRecord ← findPackage db product item
  if isSet item.unitGuid && packageRecord.isNone &&
      product.baseUnit.all (fun unit => some unit.guid ≠ item.unitGuid) then
    throw ⟨400, .validationError,
      "unitGuid можно указывать только для базовой единицы товара или вместе с packageGuid"⟩
  let quantityBase := item.quantity * (packageRecord.map (·.multiplier)).getD 1
  let resolved ← resolveEffectivePrice db
    ⟨product.guid, some context.counterparty.guid, context.agreement.map (·.guid),
      context.priceType.map (·.guid), createdAt⟩
  if resolved.minQty.any (fun minQty => decide (item.quantity < minQty)) then
    throw ⟨400, .validationError, "Количество для товара " ++ product.guid ++
      " меньше минимального (" ++ (resolved.minQty.map quantityText).getD "" ++ ")"⟩
  return {
    productId := product.id
    packageId := packageRecord.map (·.id)
    unitId := (packageRecord.map (·.unitId)).or (product.baseUnit.map (·.id))
    quantity := item.quantity
    quantityBase := quantityBase
    basePrice := resolved.price
    price := resolved.price
    priceSource := resolved.source ++ ":" ++ matchLevelLabel resolved.level
    lineAmount := quantityBase * resolved.price }

structure NewOrder extends FreshIds where
  lineGuid : Nat → String

def createdItem (item : PreparedItem) (lineGuid : String) : OrderItem where
  lineGuid := lineGuid
  productId := item.productId
  packageId := item.packageId
  unitId := item.unitId
  priceTypeId := none
  quantity := item.quantity
  quantityBase := some item.quantityBase
  basePrice := some item.basePrice
  price := item.price
  isManualPrice := false
  manualPrice := none
  priceSource := some item.priceSource
  isCancelled := false
  cancelReasonGuid := none
  cancelReasonName := none
  cancelReason := none
  cancelledAmount := none
  discountPercent := none
  appliedDiscountPercent := none
  lineAmount := some item.lineAmount
  comment := none

def marketplaceHeader (context : ResolvedOrderContext) (body : OrderCreateBody)
    (items : List PreparedItem) : OrderHeader where
  organizationId := none
  counterpartyId := context.counterparty.id
  agreementId := context.agreement.map (·.id)
  contractId := (context.contract.map (·.id)).or (context.agreement.bind (·.contractId))
  warehouseId := (context.warehouse.map (·.id)).or (context.agreement.bind (·.warehouseId))
  deliveryAddressId := context.deliveryAddress.map (·.id)
  priceTypeId := none
  comment := body.comment
  deliveryDate := body.deliveryDate
  paymentForm := none
  deliveryMethod := none
  invoiceRequested := false
  currency := body.currency.or (context.agreement.bind (·.currency))
  totalAmount := some (items.map (·.lineAmount)).sum
  generalDiscountPercent := none
  generalDiscountAmount := none

def createdOrder (userId : Nat) (context : ResolvedOrderContext) (body : OrderCreateBody)
    (items : List PreparedItem) (createdAt : Instant) (new : NewOrder) : Order :=
  let lines := items.zipIdx.map (fun entry => createdItem entry.1 (new.lineGuid entry.2))
  { blankOrder new.toFreshIds userId none ⟨marketplaceHeader context body items, lines⟩ with
    source := .marketplaceClient
    syncState := .queued
    status := .queued
    queuedAt := some createdAt
    sourceUpdatedAt := some createdAt }

def placeOrder (userId : Nat) (body : OrderCreateBody) (createdAt : Instant) (new : NewOrder) :
    Except OrderFailure Order :=
  match resolveOrderContext db userId body with
  | .error error => throw (.refused error)
  | .ok context =>
    match body.items.mapM (prepareItem db context createdAt) with
    | .error error => throw (.refused error)
    | .ok items =>
      if db.orders.any (fun order => order.guid == some new.guid) then throw .guidTaken
      else return createdOrder userId context body items createdAt new

def getOrderByGuid (userId : Nat) (guid : String) : Except MarketplaceError Order :=
  match getClientProfileOrThrow db userId with
  | .error error => throw error
  | .ok profile =>
    if isSet profile.counterpartyId then
      match db.orders.find? (fun order =>
        order.guid == some guid && some order.header.counterpartyId == profile.counterpartyId) with
      | none => throw ⟨404, .notFound, "Заказ " ++ guid ++ " не найден"⟩
      | some order => return order
    else throw ⟨400, .validationError, "У клиента не выбран контрагент"⟩

def createOrder (userId : Nat) (body : OrderCreateBody) (createdAt : Instant) (new : NewOrder) :
    Marketplace × Except OrderFailure Order :=
  match placeOrder db userId body createdAt new with
  | .error failure => (db, throw failure)
  | .ok order =>
    let stored := { db with orders := db.orders ++ [order] }
    match getOrderByGuid stored userId new.guid with
    | .error error => (stored, throw (.refused error))
    | .ok order => (stored, return order)

end Orders

section AllOrNothing
variable {db : Marketplace}

structure SettledCounterparty (db : Marketplace) (own found : Option MarketReference) : Prop where
  active : ∀ c ∈ found, counterpartyById db c.id = some c ∧ c.isActive = true
  same : ∀ known ∈ own, found.map (·.id) = some known.id

theorem settled_own (counterpartyId : Option Id) : SettledCounterparty db
    ((counterpartyId.bind (counterpartyById db)).filter (·.isActive))
    ((counterpartyId.bind (counterpartyById db)).filter (·.isActive)) := by
  constructor
  · intro c here
    obtain ⟨found, active⟩ := Option.filter_eq_some_iff.mp here
    obtain ⟨id, _, known⟩ := Option.bind_eq_some_iff.mp found
    have named : c.id = id := key_of_lookup known
    rw [named]
    exact ⟨known, active⟩
  · intro known here
    rw [Option.mem_def.mp here]
    rfl

variable {message : String} {userId : Nat} {body : OrderCreateBody} {createdAt : Instant}
    {new : NewOrder}

theorem ensureActive_ok {R : Type} {isActive : R → Bool} {entity : Option R} {row : R} :
    ensureActive isActive entity message = .ok row ↔
      entity = some row ∧ isActive row = true := by
  unfold ensureActive
  cases entity with
  | none => simp [throw, throwThe, MonadExceptOf.throw]
  | some known =>
    dsimp only
    split
    · next active =>
      simp only [pure, Except.pure, Except.ok.injEq, Option.some.injEq]
      constructor
      · rintro rfl
        exact ⟨rfl, active⟩
      · exact And.left
    · next passive =>
      simp only [throw, throwThe, MonadExceptOf.throw, reduceCtorEq, Option.some.injEq, false_iff]
      rintro ⟨rfl, active⟩
      exact passive active

theorem ownerCounterparty_ok {found found' : Option MarketReference} {counterpartyId : Id}
    (accepted : ownerCounterparty db found counterpartyId message = .ok found') :
    (∀ known ∈ found, known.id = counterpartyId) ∧
      ∃ c, counterpartyById db counterpartyId = some c ∧ c.isActive = true ∧ found' = some c := by
  unfold ownerCounterparty at accepted
  split at accepted
  · cases accepted
  · next own =>
    cases loaded : loadCounterpartyById db counterpartyId with
    | error e =>
      rw [loaded] at accepted
      cases accepted
    | ok c =>
      rw [loaded] at accepted
      cases accepted
      obtain ⟨here, active⟩ := ensureActive_ok.mp loaded
      refine ⟨fun known is_found => ?_, c, here, active, rfl⟩
      by_contra other
      exact own (by simp [Option.mem_def.mp is_found, other])

theorem settled_owner {own found found' : Option MarketReference} {counterpartyId : Id}
    (settled : SettledCounterparty db own found)
    (accepted : ownerCounterparty db found counterpartyId message = .ok found') :
    SettledCounterparty db own found' := by
  obtain ⟨stays, c, here, active, rfl⟩ := ownerCounterparty_ok accepted
  have named : c.id = counterpartyId := key_of_lookup here
  constructor
  · intro c' same
    cases same
    rw [named]
    exact ⟨here, active⟩
  · intro known is_own
    have kept := settled.same known is_own
    cases found with
    | none => cases kept
    | some before =>
      simp only [Option.map_some, Option.some.injEq] at kept ⊢
      rw [named, ← stays before rfl, kept]

section Keeps
variable {P : Option MarketReference → Prop} {found found' : Option MarketReference}
  (owner_keeps : ∀ found found' counterpartyId message, P found →
    ownerCounterparty db found counterpartyId message = .ok found' → P found')
include owner_keeps

theorem agreement_keeps {agreement : Option AgreementRef} (start : P found)
    (accepted : agreementCounterparty db agreement found = .ok found') : P found' := by
  unfold agreementCounterparty at accepted
  split at accepted
  · cases accepted
    exact start
  · split at accepted
    · cases accepted
      exact start
    · exact owner_keeps _ _ _ _ start accepted

theorem contract_keeps {contract : Option ContractRef} (start : P found)
    (accepted : contractCounterparty db contract found = .ok found') : P found' := by
  unfold contractCounterparty at accepted
  split at accepted
  · cases accepted
    exact start
  · exact owner_keeps _ _ _ _ start accepted

theorem address_keeps {address : Option DeliveryAddressRef} (start : P found)
    (accepted : addressCounterparty db address found = .ok found') : P found' := by
  unfold addressCounterparty at accepted
  split at accepted
  · cases accepted
    exact start
  · split at accepted
    · cases accepted
      exact start
    · exact owner_keeps _ _ _ _ start accepted

end Keeps

theorem getClientProfileOrThrow_ok {profile : ClientProfile} :
    getClientProfileOrThrow db userId = .ok profile ↔
      lookup ClientProfile.userId db.profiles userId = some profile := by
  unfold getClientProfileOrThrow
  cases lookup ClientProfile.userId db.profiles userId with
  | none => simp [throw, throwThe, MonadExceptOf.throw]
  | some known => simp [pure, Except.pure]

theorem resolveOrderContext_ok {context : ResolvedOrderContext}
    (resolved : resolveOrderContext db userId body = .ok context) :
    ∃ profile, lookup ClientProfile.userId db.profiles userId = some profile ∧
      SettledCounterparty db ((profile.counterpartyId.bind (counterpartyById db)).filter (·.isActive))
        (some context.counterparty) := by
  simp only [resolveOrderContext, except_bind_ok] at resolved
  obtain ⟨profile, loaded, agreement, _, contract, _, warehouse, _, priceType, _, address, _,
    first, by_agreement, second, by_contract, third, by_address, last⟩ := resolved
  refine ⟨profile, getClientProfileOrThrow_ok.mp loaded, ?_⟩
  have settled_first := agreement_keeps (fun _ _ _ _ => settled_owner)
    (settled_own profile.counterpartyId) by_agreement
  have settled_second := contract_keeps (fun _ _ _ _ => settled_owner) settled_first by_contract
  have settled := address_keeps (fun _ _ _ _ => settled_owner) settled_second by_address
  cases third with
  | none => cases last
  | some counterparty =>
    simp only [except_bind_ok] at last
    obtain ⟨_, _, same⟩ := last
    cases same
    exact settled

def ownCounterparty (db : Marketplace) (userId : Nat) : Option MarketReference :=
  (lookup ClientProfile.userId db.profiles userId).bind (fun profile =>
    if isSet profile.counterpartyId then
      (profile.counterpartyId.bind (counterpartyById db)).filter (·.isActive)
    else none)

/-- Every context that resolves meets an item that is refused, or the guid is taken. -/
def RefusedBefore (db : Marketplace) (userId : Nat) (body : OrderCreateBody) (createdAt : Instant)
    (new : NewOrder) : Prop :=
  ∀ context, resolveOrderContext db userId body = .ok context →
    (∃ item ∈ body.items, ∀ prepared, prepareItem db context createdAt item ≠ .ok prepared) ∨
      ∃ order ∈ db.orders, order.guid = some new.guid

theorem mapM_refused_iff {α β ε : Type} (f : α → Except ε β) (items : List α) :
    (∃ e, items.mapM f = .error e) ↔ ∃ item ∈ items, ∀ b, f item ≠ .ok b := by
  induction items with
  | nil => simp [pure, Except.pure]
  | cons item rest ih =>
    rw [List.mapM_cons, List.exists_mem_cons_iff, ← ih]
    cases first : f item with
    | error e => simp [bind, Except.bind]
    | ok b =>
      cases others : rest.mapM f with
      | error e => simp [bind, Except.bind]
      | ok bs => simp [bind, Except.bind, pure, Except.pure]

theorem placeOrder_refused_iff :
    (∃ failure, placeOrder db userId body createdAt new = .error failure) ↔
      RefusedBefore db userId body createdAt new := by
  unfold placeOrder RefusedBefore
  cases resolved : resolveOrderContext db userId body with
  | error e => exact iff_of_true ⟨_, rfl⟩ (fun _ here => by cases here)
  | ok context =>
    simp only [Except.ok.injEq, forall_eq']
    rw [← mapM_refused_iff]
    cases prepared : body.items.mapM (prepareItem db context createdAt) with
    | error e => exact iff_of_true ⟨_, rfl⟩ (Or.inl ⟨e, rfl⟩)
    | ok items =>
      dsimp only
      split
      · next taken => exact iff_of_true ⟨_, rfl⟩ (Or.inr (by simpa using taken))
      · next free =>
        refine iff_of_false (fun ⟨_, here⟩ => by cases here) ?_
        rintro (⟨_, here⟩ | taken)
        · cases here
        · exact free (by simpa using taken)

theorem placeOrder_ok {order : Order}
    (placed : placeOrder db userId body createdAt new = .ok order) :
    (∀ other ∈ db.orders, other.guid ≠ some new.guid) ∧ order.guid = some new.guid ∧
      ∃ context, resolveOrderContext db userId body = .ok context ∧
        order.header.counterpartyId = context.counterparty.id := by
  unfold placeOrder at placed
  split at placed
  · cases placed
  · next context resolved =>
    split at placed
    · cases placed
    · split at placed
      · cases placed
      · next free =>
        cases placed
        refine ⟨fun other there taken => free ?_, rfl, context, resolved, rfl⟩
        simp only [List.any_eq_true, beq_iff_eq]
        exact ⟨other, there, taken⟩

theorem readBack_iff {order : Order}
    (placed : placeOrder db userId body createdAt new = .ok order) :
    (∃ found, getOrderByGuid { db with orders := db.orders ++ [order] } userId new.guid = .ok found) ↔
      (ownCounterparty db userId).isSome = true := by
  obtain ⟨fresh, named, context, resolved, counterparty⟩ := placeOrder_ok placed
  obtain ⟨profile, known, settled⟩ := resolveOrderContext_ok resolved
  obtain ⟨here, active⟩ := settled.active context.counterparty rfl
  have found : (db.orders ++ [order]).find? (fun order =>
      order.guid == some new.guid && some order.header.counterpartyId == profile.counterpartyId) =
      if profile.counterpartyId = some context.counterparty.id then some order else none := by
    have none_before : db.orders.find? (fun order => order.guid == some new.guid &&
        some order.header.counterpartyId == profile.counterpartyId) = none := by
      rw [List.find?_eq_none]
      intro other there
      simp [fresh other there]
    rw [List.find?_append, none_before, Option.none_or, List.find?_singleton, named, counterparty,
      beq_self_eq_true, Bool.true_and]
    simp only [beq_iff_eq, @eq_comm _ (some context.counterparty.id)]
  have own : ownCounterparty db userId =
      if isSet profile.counterpartyId then
        (profile.counterpartyId.bind (counterpartyById db)).filter (·.isActive) else none := by
    rw [ownCounterparty, known, Option.bind_some]
  have same_iff : profile.counterpartyId = some context.counterparty.id ↔
      ((profile.counterpartyId.bind (counterpartyById db)).filter (·.isActive)).isSome = true := by
    constructor
    · intro same
      rw [same, Option.bind_some, here, Option.filter_some, if_pos active]
      rfl
    · intro some_own
      obtain ⟨mine, is_own⟩ := Option.isSome_iff_exists.mp some_own
      obtain ⟨there, _⟩ := Option.filter_eq_some_iff.mp is_own
      obtain ⟨id, stored, by_id⟩ := Option.bind_eq_some_iff.mp there
      have mine_id : mine.id = id := key_of_lookup by_id
      have kept := settled.same mine is_own
      rw [Option.map_some, Option.some.injEq, mine_id] at kept
      rw [stored, kept]
  rw [own]
  simp only [getOrderByGuid, getClientProfileOrThrow, known, pure, Except.pure, found]
  split
  · rw [← same_iff]
    by_cases same : profile.counterpartyId = some context.counterparty.id
    · rw [if_pos same]
      exact iff_of_true ⟨order, rfl⟩ same
    · rw [if_neg same]
      refine iff_of_false ?_ same
      rintro ⟨_, here⟩
      cases here
  · refine iff_of_false ?_ Bool.false_ne_true
    rintro ⟨_, here⟩
    cases here

/-- An order that fails has not been created exactly when the client has an active counterparty
of their own or the order is refused before it is stored. -/
theorem order_all_or_nothing_iff (db : Marketplace) (userId : Nat) (body : OrderCreateBody)
    (createdAt : Instant) (new : NewOrder) :
    (∀ failure, (createOrder db userId body createdAt new).2 = .error failure →
        (createOrder db userId body createdAt new).1.orders = db.orders) ↔
      (ownCounterparty db userId).isSome = true ∨ RefusedBefore db userId body createdAt new := by
  rw [← placeOrder_refused_iff]
  unfold createOrder
  cases placed : placeOrder db userId body createdAt new with
  | error failure => exact iff_of_true (fun _ _ => rfl) (Or.inr ⟨failure, rfl⟩)
  | ok order =>
    rw [← readBack_iff placed]
    dsimp only
    cases read : getOrderByGuid { db with orders := db.orders ++ [order] } userId new.guid with
    | error error =>
      refine iff_of_false (fun all => ?_) ?_
      · have unchanged := all _ rfl
        simp at unchanged
      · rintro (⟨_, here⟩ | ⟨_, here⟩) <;> cases here
    | ok found => exact iff_of_true (fun _ here => by cases here) (Or.inl ⟨found, rfl⟩)

def agreementMarket : Marketplace where
  profiles := [⟨1, none, none, none, none, none, none⟩]
  counterparties := [⟨"c", "c-guid", "ООО", true⟩]
  agreements := [⟨"a", "a-guid", "Соглашение", none, true, some "c", none, none, none⟩]
  contracts := []
  warehouses := []
  priceTypes := []
  addresses := []
  products := [⟨"p", "p-guid", true, none⟩]
  packages := []
  specialPrices := []
  productPrices := [⟨⟨10, none, none, none⟩, "p", none, true⟩]
  orders := []

def agreementBody : OrderCreateBody where
  agreementGuid := some (some "a-guid")
  contractGuid := none
  warehouseGuid := none
  deliveryAddressGuid := none
  priceTypeGuid := none
  deliveryDate := none
  comment := none
  currency := none
  items := [⟨"p-guid", none, none, 2⟩]

theorem unread_order_stays : ¬ ∀ (db : Marketplace) (userId : Nat) (body : OrderCreateBody)
    (createdAt : Instant) (new : NewOrder) (failure : OrderFailure),
    (createOrder db userId body createdAt new).2 = .error failure →
      (createOrder db userId body createdAt new).1.orders = db.orders := by
  intro always
  have unchanged := always agreementMarket 1 agreementBody 0 ⟨⟨"o", "o-guid"⟩, fun _ => "l"⟩
    (.refused ⟨400, .validationError, "У клиента не выбран контрагент"⟩) rfl
  exact absurd (congrArg List.length unchanged) (by decide +kernel)

end AllOrNothing

end LeaderProduct
