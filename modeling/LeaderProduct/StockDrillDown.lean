import LeaderProduct.StockTotals
import LeaderProduct.StoredPages

/-! The drill-down of the stock. The tree shows the roots with their children and leaves in one
answer; the drill-down reads the children of a root and the leaves of a child page by page, and each
page is cut from an answer of its own. -/
namespace LeaderProduct.DrillDown
open RowTable TiedPages

section Rows

structure UnitRef where
  guid : Option String
  name : String
  symbol : Option String
  deriving DecidableEq, Repr

structure Product where
  guid : String
  name : String
  code : Option String
  article : Option String
  sku : Option String
  baseUnit : Option UnitRef
  deriving DecidableEq, Repr

structure Place where
  guid : String
  name : String
  code : Option String
  deriving DecidableEq, Repr

structure Balance where
  id : String
  product : Product
  warehouse : Place
  organization : Option Place
  seriesGuid : Option String
  seriesNumber : Option String
  seriesProductionDate : Option Int
  seriesExpiresAt : Option Int
  quantity : Rat
  reserved : Option Rat
  inStock : Option Rat
  shipping : Option Rat
  clientReserved : Option Rat
  managerReserved : Option Rat
  available : Option Rat
  updatedAt : Int
  deriving DecidableEq, Repr

structure StockTable where
  rows : List Balance
  unique : (rows.map Balance.id).Nodup
  products : ∀ a ∈ rows, ∀ b ∈ rows, a.product.guid = b.product.guid → a.product = b.product
  warehouses : ∀ a ∈ rows, ∀ b ∈ rows, a.warehouse.guid = b.warehouse.guid →
    a.warehouse = b.warehouse

structure Series where
  guid : Option String
  number : Option String
  productionDate : Option Int
  expiresAt : Option Int

structure LeafRow where
  id : String
  product : Product
  warehouse : Place
  organization : Option Place
  series : Option Series
  figures : StockFigures
  updatedAt : Int

def figures (balance : Balance) : StockFigures where
  quantity := balance.quantity
  reserved := balance.reserved.getD 0
  inStock := balance.inStock.getD balance.quantity
  shipping := balance.shipping.getD 0
  clientReserved := balance.clientReserved.getD 0
  managerReserved := balance.managerReserved.getD 0
  available := balance.available.getD (balance.quantity - balance.reserved.getD 0)

def isGiven (text : Option String) : Bool := text.any (· != "")

def toLeafRow (balance : Balance) : LeafRow where
  id := balance.id
  product := balance.product
  warehouse := balance.warehouse
  organization := balance.organization
  series :=
    if isGiven balance.seriesGuid || isGiven balance.seriesNumber ||
        balance.seriesProductionDate.isSome || balance.seriesExpiresAt.isSome then
      some ⟨balance.seriesGuid, balance.seriesNumber, balance.seriesProductionDate,
        balance.seriesExpiresAt⟩
    else none
  figures := figures balance
  updatedAt := balance.updatedAt

end Rows

section Queries

def parseHierarchy (value : Option String) : HierarchyMode :=
  if value = some "product-warehouse" then .productWarehouse else .warehouseProduct

/-- The number that the text is, `none` where it is not finite. -/
def parseNonNegativeInt (parsed : Option Rat) (fallback max : Nat) : Nat :=
  match parsed with
  | none => fallback
  | some parsed => min (if 0 ≤ parsed then parsed.floor else parsed.ceil).toNat max

def parseBooleanFlag (value : Option String) : Bool :=
  let normalized := JsString.toLowerCase (JsString.trim (value.getD ""))
  normalized == "1" || normalized == "true" || normalized == "yes"

def trimmedText (value : Option String) : String := JsString.trim (value.getD "")

structure TreeQuery where
  hierarchy : Option String
  offset : Option Rat
  limit : Option Rat
  search : Option String
  organizationGuid : Option String
  compact : Option String

structure ChildrenQuery where
  hierarchy : Option String
  level : Option String
  nodeGuid : Option String
  rootGuid : Option String
  search : Option String
  organizationGuid : Option String
  offset : Option Rat
  limit : Option Rat

structure Collation where
  names : Ranking String
  contains : String → String → Bool
  localeCompare : Ranking String

def buildBalancesWhere (c : Collation) (search organizationGuid : String) (balance : Balance) :
    Bool :=
  (organizationGuid == "" || balance.organization.any (·.guid == organizationGuid)) &&
    (search == "" || c.contains balance.warehouse.name search ||
      balance.warehouse.code.any (c.contains · search) ||
      c.contains balance.product.name search || balance.product.code.any (c.contains · search) ||
      balance.product.article.any (c.contains · search) ||
      balance.product.sku.any (c.contains · search) ||
      balance.organization.any (fun organization => c.contains organization.name search) ||
      balance.organization.any (fun organization => organization.code.any (c.contains · search)) ||
      balance.seriesNumber.any (c.contains · search) ||
      balance.seriesGuid.any (c.contains · search))

end Queries

section Tree

inductive NodeType where
  | warehouse | product

def NodeType.text : NodeType → String
  | .warehouse => "warehouse"
  | .product => "product"

structure NodeRef where
  id : String
  type : NodeType
  name : String
  code : Option String

def warehouseRef (balance : Balance) : NodeRef :=
  ⟨balance.warehouse.guid, .warehouse, balance.warehouse.name, balance.warehouse.code⟩

def productRef (balance : Balance) : NodeRef :=
  ⟨balance.product.guid, .product, balance.product.name, balance.product.code⟩

variable (hierarchy : HierarchyMode)

def rootRef (balance : Balance) : NodeRef :=
  match hierarchy with
  | .warehouseProduct => warehouseRef balance
  | .productWarehouse => productRef balance

def childRef (balance : Balance) : NodeRef :=
  match hierarchy with
  | .warehouseProduct => productRef balance
  | .productWarehouse => warehouseRef balance

structure GroupChildNode where
  id : String
  type : NodeType
  guid : String
  name : String
  code : Option String
  figures : StockFigures
  leafCount : Nat
  leaves : List LeafRow

structure GroupNode where
  id : String
  type : NodeType
  guid : String
  name : String
  code : Option String
  figures : StockFigures
  childCount : Nat
  children : List GroupChildNode

def newChild (rootGuid : String) (ref : NodeRef) : GroupChildNode where
  id := rootGuid ++ ":" ++ ref.type.text ++ ":" ++ ref.id
  type := ref.type
  guid := ref.id
  name := ref.name
  code := ref.code
  figures := noFigures
  leafCount := 0
  leaves := []

def addToChild (compact : Bool) (child : GroupChildNode) (balance : Balance) : GroupChildNode :=
  { child with
    figures := addTotals child.figures (figures balance)
    leafCount := child.leafCount + 1
    leaves := if compact then child.leaves else child.leaves ++ [toLeafRow balance] }

def newRoot (ref : NodeRef) : GroupNode where
  id := ref.type.text ++ ":" ++ ref.id
  type := ref.type
  guid := ref.id
  name := ref.name
  code := ref.code
  figures := noFigures
  childCount := 0
  children := []

def childId (balance : Balance) : String := (childRef hierarchy balance).id

def rootId (balance : Balance) : String := (rootRef hierarchy balance).id

def openChild (balance : Balance) : GroupChildNode :=
  newChild (rootId hierarchy balance) (childRef hierarchy balance)

def addToRoot (compact : Bool) (root : GroupNode) (balance : Balance) : GroupNode :=
  { root with
    figures := addTotals root.figures (figures balance)
    childCount :=
      if root.children.any (fun child => child.guid == childId hierarchy balance) then
        root.childCount
      else root.childCount + 1
    children := place GroupChildNode.guid (childId hierarchy) (openChild hierarchy)
      (addToChild compact) root.children balance }

def treeRoots (compact : Bool) (balances : List Balance) : List GroupNode :=
  gather GroupNode.guid (rootId hierarchy) (fun balance => newRoot (rootRef hierarchy balance))
    (addToRoot hierarchy compact) balances

structure TreePayload where
  hierarchy : HierarchyMode
  offset : Nat
  limit : Nat
  totalRoots : Nat
  totalLeaves : Nat
  roots : List GroupNode

variable (c : Collation)

def byRootName : Ranking Balance := c.names.on fun balance => (rootRef hierarchy balance).name

def byChildName : Ranking Balance := c.names.on fun balance => (childRef hierarchy balance).name

def byUpdatedAt : Ranking Balance := Ranking.newest.on Balance.updatedAt

def childOrder : Ranking Balance := (byChildName hierarchy c).lex byUpdatedAt

def treeBalances {table : StockTable} (store : Store table.rows) (query : TreeQuery) :
    List Balance :=
  let hierarchy := parseHierarchy query.hierarchy
  store.findMany
    (buildBalancesWhere c (trimmedText query.search) (trimmedText query.organizationGuid))
    ((byRootName hierarchy c).lex (childOrder hierarchy c))

def getTree {table : StockTable} (store : Store table.rows) (query : TreeQuery) : TreePayload :=
  let hierarchy := parseHierarchy query.hierarchy
  let offset := parseNonNegativeInt query.offset 0 5000
  let limit := parseNonNegativeInt query.limit 20 200
  let balances := treeBalances c store query
  let roots := treeRoots hierarchy (parseBooleanFlag query.compact) balances
  { hierarchy := hierarchy
    offset := offset
    limit := limit
    totalRoots := roots.length
    totalLeaves := balances.length
    roots := (roots.drop offset).take limit }

end Tree

section Children
variable (hierarchy : HierarchyMode) (c : Collation)

structure ErrorResponse where
  status : Nat
  message : String
  code : ErrorCode

structure RootLevel where
  rootGuid : String
  offset : Nat
  limit : Nat
  totalChildren : Nat
  hasMore : Bool
  children : List GroupChildNode

structure GroupLevel where
  rootGuid : String
  nodeGuid : String
  offset : Nat
  limit : Nat
  totalLeaves : Nat
  hasMore : Bool
  leaves : List LeafRow

inductive ChildrenPayload where
  | root (payload : RootLevel)
  | group (payload : GroupLevel)

def childNodes (nodeGuid : String) (balances : List Balance) : List GroupChildNode :=
  gather GroupChildNode.guid (childId hierarchy)
    (fun balance => newChild nodeGuid (childRef hierarchy balance)) (addToChild true) balances

def byNodeName : Ranking GroupChildNode := c.localeCompare.on GroupChildNode.name

def ofRoot (search organizationGuid rootGuid : String) (balance : Balance) : Bool :=
  buildBalancesWhere c search organizationGuid balance &&
    rootId hierarchy balance == rootGuid

def ofChild (search organizationGuid rootGuid childGuid : String) (balance : Balance) : Bool :=
  ofRoot hierarchy c search organizationGuid rootGuid balance &&
    childId hierarchy balance == childGuid

variable {table : StockTable}

def rootLevel (store : Store table.rows) (nodeGuid search organizationGuid : String)
    (offset limit : Nat) : RootLevel :=
  let balances := store.findMany (ofRoot hierarchy c search organizationGuid nodeGuid)
    (childOrder hierarchy c)
  let children := sort (byNodeName c) (childNodes hierarchy nodeGuid balances)
  { rootGuid := nodeGuid
    offset := offset
    limit := limit
    totalChildren := children.length
    hasMore := decide (offset + limit < children.length)
    children := (children.drop offset).take limit }

def groupLevel (store : Store table.rows) (rootGuid nodeGuid search organizationGuid : String)
    (offset limit : Nat) : GroupLevel :=
  let groupWhere := ofChild hierarchy c search organizationGuid rootGuid nodeGuid
  let totalLeaves := table.rows.countP groupWhere
  let balances := ((store.findMany groupWhere byUpdatedAt).drop offset).take limit
  { rootGuid := rootGuid
    nodeGuid := nodeGuid
    offset := offset
    limit := limit
    totalLeaves := totalLeaves
    hasMore := decide (offset + limit < totalLeaves)
    leaves := balances.map toLeafRow }

/-- `GET /stock-balances/children` -/
def getChildren (store : Store table.rows) (query : ChildrenQuery) :
    Except ErrorResponse ChildrenPayload :=
  let hierarchy := parseHierarchy query.hierarchy
  let nodeGuid := trimmedText query.nodeGuid
  let rootGuid := trimmedText query.rootGuid
  let search := trimmedText query.search
  let organizationGuid := trimmedText query.organizationGuid
  let offset := parseNonNegativeInt query.offset 0 5000
  let limit := parseNonNegativeInt query.limit 50 200
  if nodeGuid = "" then .error ⟨400, "nodeGuid is required", .validationError⟩
  else if query.level = some "group" then
    if rootGuid = "" then .error ⟨400, "rootGuid is required for group level", .validationError⟩
    else .ok (.group
      (groupLevel hierarchy c store rootGuid nodeGuid search organizationGuid offset limit))
  else .ok (.root (rootLevel hierarchy c store nodeGuid search organizationGuid offset limit))

end Children

end LeaderProduct.DrillDown
