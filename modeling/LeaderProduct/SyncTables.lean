import Mathlib.Data.List.Sort
import LeaderProduct.CatalogChanges
import LeaderProduct.OnecInbound

/-! The tables that a sync session is promoted to, the items that 1C stages for them, and
what one write does. A table with a guid in every row is a function of the guid, and other
rows refer to its rows by guid. Of organizations, warehouses, counterparties, contracts and
price types only the rows' being there is kept, for that is all that other rows ask of them. -/
namespace LeaderProduct

def present (text : Option String) : Option String := text.filter (fun t => t ≠ "")

def zeroGuid : String := "00000000-0000-0000-0000-000000000000"

def optionalGuid (value : Option String) : Option String :=
  (trimmed value).filter (fun guid => guid ≠ zeroGuid)

section Items

structure UnitItem where
  guid : String
  name : String
  code : Option String
  symbol : Option String

structure PackageItem where
  guid : Option String
  name : String
  unit : UnitItem
  multiplier : Rat
  barcode : Option String
  isDefault : Option Bool
  sortOrder : Option Int

structure NomenclatureItem where
  guid : String
  isGroup : Bool
  parentGuid : Option String
  name : String
  code : Option String
  isActive : Option Bool
  article : Option String
  sku : Option String
  isWeight : Option Bool
  isService : Option Bool
  baseUnit : Option UnitItem
  packages : List PackageItem
  sourceUpdatedAt : Option Instant

structure AddressItem where
  guid : Option String
  name : Option String
  fullAddress : String
  city : Option String
  street : Option String
  house : Option String
  building : Option String
  apartment : Option String
  postcode : Option String
  isDefault : Option Bool
  isActive : Option Bool

structure CounterpartyItem where
  guid : String
  defaultAgreementGuid : Option String
  defaultContractGuid : Option String
  defaultWarehouseGuid : Option String
  defaultDeliveryAddressGuid : Option String
  addresses : List AddressItem

structure ContractItem where
  guid : String
  counterpartyGuid : String
  organizationGuid : Option String

structure AgreementFields where
  guid : String
  counterpartyGuid : Option String
  organizationGuid : Option String
  contractGuid : Option String
  priceTypeGuid : Option String
  warehouseGuid : Option String

structure AgreementItem where
  priceType : Option String
  contract : Option ContractItem
  agreement : AgreementFields

structure PriceFields where
  price : Rat
  currency : Option String
  endDate : Option Instant
  minQty : Option Rat
  isActive : Option Bool

structure ProductPriceItem where
  guid : Option String
  productGuid : String
  priceTypeGuid : Option String
  priceType : Option String
  startDate : Option Instant
  fields : PriceFields

structure SpecialPriceItem where
  guid : Option String
  productGuid : String
  counterpartyGuid : Option String
  agreementGuid : Option String
  priceTypeGuid : Option String
  startDate : Option Instant
  fields : PriceFields

structure StockItem where
  productGuid : String
  warehouseGuid : String
  organizationGuid : String
  seriesGuid : Option String
  quantity : Option Rat
  reserved : Option Rat
  inStock : Option Rat
  shipping : Option Rat
  clientReserved : Option Rat
  managerReserved : Option Rat
  available : Option Rat
  seriesNumber : Option String
  seriesProductionDate : Option Instant
  seriesExpiresAt : Option Instant

end Items

section Units

def pieceTokens : List String := ["pce", "pc", "pcs", "piece", "pieces", "шт", "штука", "штуки", "штук"]

def kilogramTokens : List String := ["kg", "kgs", "кг", "килограмм", "килограмма", "килограммы"]

def withoutPunctuation (text : String) : String :=
  String.ofList (text.toList.filter (fun c => !("().".toList.contains c)))

def normalizeUnitToken (value : Option String) : String :=
  let token := JsString.removeSpaces
    (withoutPunctuation (JsString.toLowerCase (JsString.trim (value.getD ""))))
  if token = "" then ""
  else if pieceTokens.contains token then "piece"
  else if kilogramTokens.contains token then "kg"
  else token

def unitLabelIdentities (unit : UnitItem) : List String :=
  [normalizeUnitToken unit.symbol, normalizeUnitToken (some unit.name),
    normalizeUnitToken (some (unit.symbol.getD "" ++ unit.name))].filter (fun label => label ≠ "")

def sameUnitIdentity (left right : UnitItem) : Bool :=
  let leftGuid := JsString.toLowerCase (JsString.trim left.guid)
  let rightGuid := JsString.toLowerCase (JsString.trim right.guid)
  (leftGuid ≠ "" && leftGuid == rightGuid) ||
    (unitLabelIdentities left).any (unitLabelIdentities right).contains

def sameMultiplier (multiplier : Rat) : Bool :=
  decide (multiplier ≤ 0) ||
    decide (multiplier - 1 < 1 / 1000000 ∧ 1 - multiplier < 1 / 1000000)

def isBaseUnitPackage (pack : PackageItem) (baseUnit : Option UnitItem) : Bool :=
  baseUnit.any (fun unit => sameMultiplier pack.multiplier && sameUnitIdentity pack.unit unit)

end Units

section Rows

structure UnitRow where
  name : String
  code : Option String
  symbol : Option String

structure GroupRow where
  name : String
  code : Option String
  isActive : Bool
  parent : Option String

structure ProductRow where
  name : String
  code : Option String
  article : Option String
  sku : Option String
  isWeight : Bool
  isService : Bool
  isActive : Bool
  group : Option String
  baseUnit : Option String
  sourceUpdatedAt : Option Instant
  catalogHash : Option String
  catalogRevision : Nat

structure PackageRow where
  product : String
  unit : String
  name : String
  multiplier : Rat
  barcode : Option String
  isDefault : Bool
  sortOrder : Int

structure AddressRow where
  counterparty : String
  name : Option String
  fullAddress : String
  city : Option String
  street : Option String
  house : Option String
  building : Option String
  apartment : Option String
  postcode : Option String
  isDefault : Bool
  isActive : Bool

structure AgreementRow where
  warehouse : Option String

structure PriceData where
  price : Rat
  currency : Option String
  endDate : Option Instant
  minQty : Option Rat
  isActive : Bool

structure ProductPriceKey where
  product : String
  priceType : Option String
  startDate : Option Instant
  deriving DecidableEq, Repr

structure SpecialPriceKey where
  product : String
  counterparty : Option String
  agreement : Option String
  priceType : Option String
  startDate : Option Instant
  deriving DecidableEq, Repr

structure PriceRow (κ : Type) where
  guid : Option String
  key : κ
  data : PriceData

structure StockKey where
  product : String
  warehouse : String
  organization : String
  series : String
  deriving DecidableEq, Repr

structure StockData where
  quantity : Rat
  reserved : Rat
  inStock : Rat
  shipping : Option Rat
  clientReserved : Option Rat
  managerReserved : Option Rat
  available : Rat
  seriesGuid : Option String
  seriesNumber : Option String
  seriesProductionDate : Option Instant
  seriesExpiresAt : Option Instant

/-- `productIndex` is the unique index of the products by guid. The packages and addresses
without a guid, which nothing can find again, stand beside the others. -/
structure Tables where
  units : String → Option UnitRow
  groups : String → Option GroupRow
  products : String → Option ProductRow
  productIndex : List String
  packages : String → Option PackageRow
  loosePackages : List PackageRow
  organizations : String → Bool
  warehouses : String → Bool
  counterparties : String → Bool
  addresses : String → Option AddressRow
  looseAddresses : List AddressRow
  contracts : String → Bool
  agreements : String → Option AgreementRow
  priceTypes : String → Bool
  productPrices : List (PriceRow ProductPriceKey)
  specialPrices : List (PriceRow SpecialPriceKey)
  stock : StockKey → Option StockData
  changes : CatalogLog
  sequence : Nat
  catalogState : CatalogState

def Tables.empty (epoch : String) : Tables where
  units _ := none
  groups _ := none
  products _ := none
  productIndex := []
  packages _ := none
  loosePackages := []
  organizations _ := false
  warehouses _ := false
  counterparties _ := false
  addresses _ := none
  looseAddresses := []
  contracts _ := false
  agreements _ := none
  priceTypes _ := false
  productPrices := []
  specialPrices := []
  stock _ := none
  changes _ := none
  sequence := 0
  catalogState := ⟨epoch, 0, 0⟩

end Rows

section Writes
variable (t : Tables)

/-- The row after an upsert. A column whose value is undefined keeps what is stored. -/
def unitRow (item : UnitItem) (stored : Option UnitRow) : UnitRow where
  name := item.name
  code := item.code.or (stored.bind (·.code))
  symbol := item.symbol.or (stored.bind (·.symbol))

def Tables.upsertUnit (item : UnitItem) : Tables :=
  { t with units := Function.update t.units item.guid (some (unitRow item (t.units item.guid))) }

def groupRow (item : NomenclatureItem) (parent : Option String) (stored : Option GroupRow) :
    GroupRow where
  name := item.name
  code := item.code.or (stored.bind (·.code))
  isActive := item.isActive.getD true
  parent := parent

def Tables.upsertGroup (item : NomenclatureItem) (parent : Option String) : Tables :=
  { t with
    groups := Function.update t.groups item.guid
      (some (groupRow item parent (t.groups item.guid))) }

def productRow (item : NomenclatureItem) (syncedAt : Instant) (stored : Option ProductRow) :
    ProductRow where
  name := item.name
  code := item.code.or (stored.bind (·.code))
  article := item.article.or (stored.bind (·.article))
  sku := item.sku.or (stored.bind (·.sku))
  isWeight := item.isWeight.getD false
  isService := item.isService.getD false
  isActive := item.isActive.getD true
  group := present item.parentGuid
  baseUnit := item.baseUnit.map (·.guid)
  sourceUpdatedAt := some (item.sourceUpdatedAt.getD syncedAt)
  catalogHash := stored.bind (·.catalogHash)
  catalogRevision := (stored.map (·.catalogRevision)).getD 0

def Tables.setProduct (guid : String) (row : ProductRow) : Tables :=
  { t with
    products := Function.update t.products guid (some row)
    productIndex :=
      if guid ∈ t.productIndex then t.productIndex
      else t.productIndex.orderedInsert (· ≤ ·) guid }

def packageRow (product unit : String) (item : PackageItem) (stored : Option PackageRow) :
    PackageRow where
  product := product
  unit := unit
  name := item.name
  multiplier := item.multiplier
  barcode := item.barcode.or (stored.bind (·.barcode))
  isDefault := item.isDefault.getD false
  sortOrder := item.sortOrder.getD 0

def Tables.dropPackage (product guid : String) : Tables :=
  { t with
    packages := Function.update t.packages guid
      ((t.packages guid).filter (fun row => row.product ≠ product)) }

def Tables.upsertPackage (guid : String) (row : Option PackageRow → PackageRow) : Tables :=
  { t with packages := Function.update t.packages guid (some (row (t.packages guid))) }

def addressRow (counterparty : String) (item : AddressItem) : AddressRow where
  counterparty := counterparty
  name := item.name
  fullAddress := item.fullAddress
  city := item.city
  street := item.street
  house := item.house
  building := item.building
  apartment := item.apartment
  postcode := item.postcode
  isDefault := item.isDefault.getD false
  isActive := item.isActive.getD true

def Tables.putAddress (counterparty : String) (item : AddressItem) : Tables :=
  match trimmed item.guid with
  | some guid =>
    { t with addresses := Function.update t.addresses guid (some (addressRow counterparty item)) }
  | none => { t with looseAddresses := t.looseAddresses ++ [addressRow counterparty item] }

def priceData (item : PriceFields) (stored : Option PriceData) : PriceData where
  price := item.price
  currency := item.currency.or (stored.bind (·.currency))
  endDate := item.endDate
  minQty := item.minQty.or (stored.bind (·.minQty))
  isActive := item.isActive.getD true

/-- What the upsert of a price comes to: the rows, an argument that the client library
refuses, or a second row under a key that the unique index allows once. -/
inductive PriceWrite (κ : Type) where
  | rows (rows : List (PriceRow κ))
  | invalid
  | duplicate

/-- `complete` says that a key has no empty part. The unique index compares only such keys,
and only such a key can be looked up. -/
def upsertPrice {κ : Type} [DecidableEq κ] (complete : κ → Bool) (guid : Option String) (key : κ)
    (item : PriceFields) (rows : List (PriceRow κ)) : PriceWrite κ :=
  match guid with
  | some g =>
    if complete key && rows.any (fun row => row.guid ≠ some g && row.key == key) then .duplicate
    else if rows.any (fun row => row.guid == some g) then
      .rows (rows.map (fun row =>
        if row.guid = some g then ⟨row.guid, key, priceData item (some row.data)⟩ else row))
    else .rows (rows ++ [⟨some g, key, priceData item none⟩])
  | none =>
    if !complete key then .invalid
    else if rows.any (fun row => row.key == key) then
      .rows (rows.map (fun row =>
        if row.key = key then ⟨row.guid, row.key, priceData item (some row.data)⟩ else row))
    else .rows (rows ++ [⟨none, key, priceData item none⟩])

def ProductPriceKey.complete (key : ProductPriceKey) : Bool :=
  key.priceType.isSome && key.startDate.isSome

def SpecialPriceKey.complete (key : SpecialPriceKey) : Bool :=
  key.counterparty.isSome && key.agreement.isSome && key.priceType.isSome && key.startDate.isSome

def stockData (item : StockItem) (stored : Option StockData) : StockData :=
  let quantity := (item.quantity.or item.inStock).getD 0
  let reserved := item.reserved.getD (item.clientReserved.getD 0 + item.managerReserved.getD 0)
  { quantity := quantity
    reserved := reserved
    inStock := item.inStock.getD quantity
    shipping := item.shipping.or (stored.bind (·.shipping))
    clientReserved := item.clientReserved.or (stored.bind (·.clientReserved))
    managerReserved := item.managerReserved.or (stored.bind (·.managerReserved))
    available := item.available.getD (quantity - reserved)
    seriesGuid := item.seriesGuid
    seriesNumber := item.seriesNumber
    seriesProductionDate := item.seriesProductionDate
    seriesExpiresAt := item.seriesExpiresAt }

def Tables.upsertStock (key : StockKey) (item : StockItem) : Tables :=
  { t with stock := Function.update t.stock key (some (stockData item (t.stock key))) }

/-- The change takes the next revision, and the product and the state are set to it. -/
def Tables.recordProductCatalogChange (guid : String) (operation : CatalogChangeOperation)
    (payloadHash : String) (changedAt : Instant) : Tables :=
  { t with
    changes := Function.update t.changes (t.sequence + 1)
      (some ⟨guid, operation, payloadHash, changedAt⟩)
    sequence := t.sequence + 1
    products := Function.update t.products guid ((t.products guid).map (fun row =>
      { row with catalogHash := some payloadHash, catalogRevision := t.sequence + 1 }))
    catalogState := { t.catalogState with currentRevision := t.sequence + 1 } }

end Writes

end LeaderProduct
