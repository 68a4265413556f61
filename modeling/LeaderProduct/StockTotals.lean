import Mathlib.Algebra.BigOperators.Group.List.Lemmas
import Mathlib.Algebra.Ring.Rat
import LeaderProduct.KeyedTotals
import LeaderProduct.StagedPromotion
import LeaderProduct.Transition

/-! The stock that is shown for a product in a warehouse. The synchronization keeps a row for each
product, warehouse, organization and series, and a live product leaves a row of its own for the
whole warehouse in the same table; the readers add all of them up. -/
namespace LeaderProduct
open Transition RowTable

section Rows

inductive BalanceKey where
  | sync (key : StockKey)
  | live (warehouse product : String)
  deriving DecidableEq, Repr

structure LiveStock where
  quantity : Option Rat
  reserved : Option Rat
  available : Option Rat
  freeAvailable : Option Rat

structure LiveStockData where
  quantity : Rat
  reserved : Option Rat
  available : Option Rat

inductive StockBalance where
  | sync (key : StockKey) (data : StockData)
  | live (warehouse product : String) (data : LiveStockData)

namespace StockBalance

def syncKey : StockBalance → BalanceKey
  | .sync key _ => .sync key
  | .live warehouse product _ => .live warehouse product

def product : StockBalance → String
  | .sync key _ => key.product
  | .live _ product _ => product

def warehouse : StockBalance → String
  | .sync key _ => key.warehouse
  | .live warehouse _ _ => warehouse

def quantity : StockBalance → Rat
  | .sync _ data => data.quantity
  | .live _ _ data => data.quantity

def reserved : StockBalance → Option Rat
  | .sync _ data => some data.reserved
  | .live _ _ data => data.reserved

def available : StockBalance → Option Rat
  | .sync _ data => some data.available
  | .live _ _ data => data.available

def syncData : StockBalance → Option StockData
  | .sync _ data => some data
  | .live _ _ _ => none

end StockBalance

structure BalanceTable where
  rows : List StockBalance
  unique : (rows.map StockBalance.syncKey).Nodup

def emptyBalances : BalanceTable := ⟨[], List.nodup_nil⟩

def syncBalance (key : StockKey) (item : StockItem) (stored : Option StockBalance) :
    StockBalance :=
  .sync key (stockData item (stored.bind (·.syncData)))

def sharedAvailable (stock : LiveStock) : Option Rat := stock.freeAvailable.or stock.available

def liveStockData (stock : LiveStock) : LiveStockData where
  quantity := (stock.quantity.or (sharedAvailable stock)).getD 0
  reserved := stock.reserved
  available := sharedAvailable stock

def liveBalance (warehouse product : String) (stock : LiveStock) : StockBalance :=
  .live warehouse product (liveStockData stock)

def BalanceTable.upsertSync (table : BalanceTable) (key : StockKey) (item : StockItem) :
    BalanceTable where
  rows := upsert StockBalance.syncKey table.rows (.sync key) (syncBalance key item)
  unique := nodup_upsert (fun _ => rfl) table.unique

def BalanceTable.upsertLive (table : BalanceTable) (warehouse product : String)
    (stock : LiveStock) : BalanceTable where
  rows := upsert StockBalance.syncKey table.rows (.live warehouse product) (fun _ =>
    liveBalance warehouse product stock)
  unique := nodup_upsert (fun _ => rfl) table.unique

end Rows

section Readers

structure WarehouseStock where
  quantity : Option Rat
  reserved : Option Rat
  available : Option Rat

/-- The sum of a nullable column is null where no row has a value. -/
def sumColumn (values : List (Option Rat)) : Option Rat :=
  if values.any (·.isSome) then some (values.map (·.getD 0)).sum else none

/-- The warehouse is the one that the guid leads to, if any. -/
def loadStockByProductIdForWarehouse (balances : List StockBalance) (warehouse : Option String)
    (productIds : List String) (product : String) : Option WarehouseStock :=
  match warehouse with
  | none => none
  | some warehouse =>
    let rows := balances.filter (fun row =>
      decide (row.warehouse = warehouse ∧ row.product ∈ productIds ∧ row.product = product))
    if rows.isEmpty then none
    else some
      { quantity := sumColumn (rows.map (fun row => some row.quantity))
        reserved := sumColumn (rows.map (·.reserved))
        available := sumColumn (rows.map (·.available)) }

inductive HierarchyMode where
  | warehouseProduct
  | productWarehouse

structure StockFigures where
  quantity : Rat
  reserved : Rat
  inStock : Rat
  shipping : Rat
  clientReserved : Rat
  managerReserved : Rat
  available : Rat

def noFigures : StockFigures := ⟨0, 0, 0, 0, 0, 0, 0⟩

structure LeafRow where
  product : String
  warehouse : String
  figures : StockFigures

def toLeafRow (balance : StockBalance) : LeafRow where
  product := balance.product
  warehouse := balance.warehouse
  figures :=
    match balance with
    | .sync _ data =>
      ⟨data.quantity, data.reserved, data.inStock, data.shipping.getD 0,
        data.clientReserved.getD 0, data.managerReserved.getD 0, data.available⟩
    | .live _ _ data =>
      ⟨data.quantity, data.reserved.getD 0, data.quantity, 0, 0, 0,
        data.available.getD (data.quantity - data.reserved.getD 0)⟩

def addTotals (target leaf : StockFigures) : StockFigures where
  quantity := target.quantity + leaf.quantity
  reserved := target.reserved + leaf.reserved
  inStock := target.inStock + leaf.inStock
  shipping := target.shipping + leaf.shipping
  clientReserved := target.clientReserved + leaf.clientReserved
  managerReserved := target.managerReserved + leaf.managerReserved
  available := target.available + leaf.available

structure GroupChildNode where
  guid : String
  figures : StockFigures
  leafCount : Nat
  leaves : List LeafRow

structure GroupNode where
  guid : String
  figures : StockFigures
  childCount : Nat
  children : List GroupChildNode

variable (hierarchy : HierarchyMode) (compact : Bool)

def rootRef (leaf : LeafRow) : String :=
  match hierarchy with
  | .warehouseProduct => leaf.warehouse
  | .productWarehouse => leaf.product

def childRef (leaf : LeafRow) : String :=
  match hierarchy with
  | .warehouseProduct => leaf.product
  | .productWarehouse => leaf.warehouse

def newChild (leaf : LeafRow) : GroupChildNode := ⟨childRef hierarchy leaf, noFigures, 0, []⟩

def addToChild (child : GroupChildNode) (leaf : LeafRow) : GroupChildNode :=
  { child with
    figures := addTotals child.figures leaf.figures
    leafCount := child.leafCount + 1
    leaves := if compact then child.leaves else child.leaves ++ [leaf] }

def newRoot (leaf : LeafRow) : GroupNode := ⟨rootRef hierarchy leaf, noFigures, 0, []⟩

def addToRoot (root : GroupNode) (leaf : LeafRow) : GroupNode :=
  { root with
    figures := addTotals root.figures leaf.figures
    childCount :=
      if root.children.any (fun child => child.guid == childRef hierarchy leaf) then
        root.childCount
      else root.childCount + 1
    children := place GroupChildNode.guid (childRef hierarchy) (newChild hierarchy)
      (addToChild compact) root.children leaf }

def treeRoots (balances : List StockBalance) : List GroupNode :=
  gather GroupNode.guid (rootRef hierarchy) (newRoot hierarchy) (addToRoot hierarchy compact)
    (balances.map toLeafRow)

def treeAvailable (roots : List GroupNode) (product warehouse : String) : Rat :=
  let pair : LeafRow := ⟨product, warehouse, noFigures⟩
  ((lookup GroupNode.guid roots (rootRef hierarchy pair)).bind (fun root =>
    lookup GroupChildNode.guid root.children (childRef hierarchy pair))).elim 0
      (·.figures.available)

end Readers

section Channels

def stockKey (item : StockItem) : StockKey :=
  ⟨item.productGuid, item.warehouseGuid, item.organizationGuid, item.seriesGuid.getD ""⟩

def stockFound (refs : Tables) (item : StockItem) : Bool :=
  (refs.products item.productGuid).isSome && refs.warehouses item.warehouseGuid &&
    item.organizationGuid ≠ "" && refs.organizations item.organizationGuid

structure StockReport where
  key : StockKey
  available : Rat

/-- `reports` is what the synchronization has reported last for each key, for the statements
alone. A report in replace mode takes the place of all before it. -/
structure StockSystem where
  balances : BalanceTable
  reports : List StockReport

def emptyStock : StockSystem := ⟨emptyBalances, []⟩

inductive StockAction where
  | promote (replaceMode : Bool) (refs : Tables) (items : List StockItem)
  | live (product : String) (warehouse : Option String) (stock : Option LiveStock)

def reportOf (item : StockItem) : StockReport := ⟨stockKey item, (stockData item none).available⟩

def applyStagedItem (refs : Tables) (s : StockSystem) (item : StockItem) : StockSystem :=
  if stockFound refs item then
    { balances := s.balances.upsertSync (stockKey item) item
      reports := upsert StockReport.key s.reports (stockKey item) (fun _ => reportOf item) }
  else s

/-- In replace mode a blocked row rolls the promotion back. -/
def stockStep (s : StockSystem) : StockAction → StockSystem
  | .promote replaceMode refs items =>
    if replaceMode && items.any (fun item => !stockFound refs item) then s
    else items.foldl (applyStagedItem refs) (if replaceMode then emptyStock else s)
  | .live product (some warehouse) (some stock) =>
    { s with balances := s.balances.upsertLive warehouse product stock }
  | .live _ _ _ => s

/-- The sum of the current reports for a product in a warehouse. -/
def reportedTotal (s : StockSystem) (product warehouse : String) : Rat :=
  (s.reports.map (fun report =>
    if report.key.product = product ∧ report.key.warehouse = warehouse then report.available
    else 0)).sum

def ShowsReported (s : StockSystem) : Prop :=
  ∀ product warehouse,
    (∀ productIds, product ∈ productIds →
      (loadStockByProductIdForWarehouse s.balances.rows (some warehouse) productIds product).elim 0
        (·.available.getD 0) = reportedTotal s product warehouse) ∧
    ∀ hierarchy compact balances, balances.Perm s.balances.rows →
      treeAvailable hierarchy (treeRoots hierarchy compact balances) product warehouse =
        reportedTotal s product warehouse

/-- A live product reports the stock that the synchronization reports. -/
def SameStock (s : StockSystem) : StockAction → Prop
  | .live product (some warehouse) (some stock) =>
    ∀ total ∈ sharedAvailable stock, total = reportedTotal s product warehouse
  | _ => True

/-- A live product brings no stock: its total is zero, or it has none and is reserved whole. -/
def BringsNone : StockAction → Prop
  | .live _ (some _) (some stock) =>
    match sharedAvailable stock with
    | some total => total = 0
    | none => stock.quantity.getD 0 = stock.reserved.getD 0
  | _ => True

end Channels

section Promotion

def HoldsStock (t : Tables) (table : BalanceTable) : Prop :=
  ∀ key, t.stock key =
    (lookup StockBalance.syncKey table.rows (.sync key)).bind (·.syncData)

theorem applyStock_tables (row : StagedRow StockItem) (t : Tables) :
    (applyStock row t).2 =
      if stockFound t row.payload then t.upsertStock (stockKey row.payload) row.payload else t := by
  simp only [applyStock, requireRef, stockFound]
  by_cases product : (t.products row.payload.productGuid).isSome = true
  · by_cases warehouse : t.warehouses row.payload.warehouseGuid = true
    · by_cases missing : row.payload.organizationGuid = ""
      · simp [product, warehouse, missing]
      · by_cases organization : t.organizations row.payload.organizationGuid = true
        · simp [product, warehouse, missing, organization, stockKey]
        · simp [product, warehouse, missing, organization]
    · simp [product, warehouse]
  · simp [product]

theorem holds_upsert {t : Tables} {table : BalanceTable} (holds : HoldsStock t table)
    (item : StockItem) :
    HoldsStock (t.upsertStock (stockKey item) item) (table.upsertSync (stockKey item) item) := by
  intro key
  have own (row : Option StockBalance) :
      (syncBalance (stockKey item) item row).syncKey = .sync (stockKey item) := rfl
  rw [BalanceTable.upsertSync, lookup_upsert own]
  change Function.update t.stock (stockKey item) _ key = _
  by_cases same : key = stockKey item
  · rw [same, Function.update_self, if_pos rfl, holds (stockKey item)]
    rfl
  · rw [Function.update_of_ne same, if_neg (fun equal => same (BalanceKey.sync.inj equal))]
    exact holds key

theorem applyStagedStock_holds (rows : List (StagedRow StockItem)) {t refs : Tables}
    {s : StockSystem} (holds : HoldsStock t s.balances)
    (same : ∀ item, stockFound t item = stockFound refs item) :
    HoldsStock (rows.foldl (fun t row => (applyStock row t).2) t)
      ((rows.map (·.payload)).foldl (applyStagedItem refs) s).balances := by
  induction rows generalizing t s with
  | nil => exact holds
  | cons row rest ih =>
    rw [List.foldl_cons, List.map_cons, List.foldl_cons, applyStock_tables, applyStagedItem,
      ← same row.payload]
    split
    · exact ih (holds_upsert holds row.payload) (fun item => same item)
    · exact ih holds same

end Promotion

section Sums
variable {product warehouse : String}

def amountOf (value : StockBalance → Rat) (product warehouse : String) (row : StockBalance) : Rat :=
  if row.product = product ∧ row.warehouse = warehouse then value row else 0

def orderAvailable (row : StockBalance) : Rat := row.available.getD 0

def leafAvailable (row : StockBalance) : Rat := (toLeafRow row).figures.available

theorem getD_sumColumn (values : List (Option Rat)) :
    (sumColumn values).getD 0 = (values.map (·.getD 0)).sum := by
  unfold sumColumn
  split
  · rfl
  · next none_set =>
    have zero : ∀ x ∈ values.map (·.getD 0), x = 0 := by
      intro x member
      obtain ⟨value, listed, rfl⟩ := List.mem_map.mp member
      rw [Bool.not_eq_true, List.any_eq_false] at none_set
      have unset := none_set value listed
      rw [Bool.not_eq_true, Option.isSome_eq_false_iff, Option.isNone_iff_eq_none] at unset
      rw [unset, Option.getD_none]
    rw [Option.getD_none, List.sum_eq_zero zero]

theorem load_available {balances : List StockBalance} {productIds : List String}
    (asked : product ∈ productIds) :
    (loadStockByProductIdForWarehouse balances (some warehouse) productIds product).elim 0
        (·.available.getD 0) =
      (balances.map (amountOf orderAvailable product warehouse)).sum := by
  have listed : balances.filter (fun row => decide (row.warehouse = warehouse ∧
      row.product ∈ productIds ∧ row.product = product)) = balances.filter (fun row =>
        decide (row.product = product ∧ row.warehouse = warehouse)) := by
    apply List.filter_congr
    intro row member
    apply decide_eq_decide.mpr
    constructor
    · rintro ⟨there, -, own⟩
      exact ⟨own, there⟩
    · rintro ⟨own, there⟩
      exact ⟨there, own ▸ asked, own⟩
  have total := sum_filter orderAvailable
    (fun row => decide (row.product = product ∧ row.warehouse = warehouse)) balances
  simp only [decide_eq_true_eq] at total
  simp only [loadStockByProductIdForWarehouse, listed]
  rw [show amountOf orderAvailable product warehouse = (fun row =>
    if row.product = product ∧ row.warehouse = warehouse then orderAvailable row else 0) from rfl,
    ← total]
  split
  · next none_listed =>
    rw [List.isEmpty_iff.mp none_listed]
    rfl
  · rw [Option.elim_some, getD_sumColumn, List.map_map]
    rfl

theorem newRoot_guid (hierarchy : HierarchyMode) (leaf : LeafRow) :
    (newRoot hierarchy leaf).guid = rootRef hierarchy leaf := rfl

theorem addToRoot_guid (hierarchy : HierarchyMode) (compact : Bool) (root : GroupNode)
    (leaf : LeafRow) : (addToRoot hierarchy compact root leaf).guid = root.guid := rfl

theorem newChild_guid (hierarchy : HierarchyMode) (leaf : LeafRow) :
    (newChild hierarchy leaf).guid = childRef hierarchy leaf := rfl

theorem addToChild_guid (compact : Bool) (child : GroupChildNode) (leaf : LeafRow) :
    (addToChild compact child leaf).guid = child.guid := rfl

theorem lookup_root (hierarchy : HierarchyMode) (compact : Bool) (balances : List StockBalance)
    (guid : String) : lookup GroupNode.guid (treeRoots hierarchy compact balances) guid =
      groupOf (newRoot hierarchy) (addToRoot hierarchy compact)
        ((balances.map toLeafRow).filter (fun leaf => decide (rootRef hierarchy leaf = guid))) :=
  lookup_gather (newRoot_guid hierarchy) (addToRoot_guid hierarchy compact) _ guid

theorem children_of_root (hierarchy : HierarchyMode) (compact : Bool) (leaves : List LeafRow) :
    (groupOf (newRoot hierarchy) (addToRoot hierarchy compact) leaves).elim [] GroupNode.children =
      gather GroupChildNode.guid (childRef hierarchy) (newChild hierarchy) (addToChild compact)
        leaves := by
  have starts (leaf : LeafRow) : (newRoot hierarchy leaf).children = [] := rfl
  have steps (root : GroupNode) (leaf : LeafRow) :
      (addToRoot hierarchy compact root leaf).children = place GroupChildNode.guid
        (childRef hierarchy) (newChild hierarchy) (addToChild compact) root.children leaf := rfl
  exact view_groupOf GroupNode.children _ starts steps leaves

theorem lookup_child (hierarchy : HierarchyMode) (compact : Bool) (leaves : List LeafRow)
    (guid : String) : lookup GroupChildNode.guid
      (gather GroupChildNode.guid (childRef hierarchy) (newChild hierarchy) (addToChild compact)
        leaves) guid = groupOf (newChild hierarchy) (addToChild compact)
          (leaves.filter (fun leaf => decide (childRef hierarchy leaf = guid))) :=
  lookup_gather (newChild_guid hierarchy) (addToChild_guid compact) _ guid

theorem available_of_child (hierarchy : HierarchyMode) (compact : Bool) (leaves : List LeafRow) :
    (groupOf (newChild hierarchy) (addToChild compact) leaves).elim 0 (·.figures.available) =
      (leaves.map (·.figures.available)).sum :=
  total_groupOf (fun child : GroupChildNode => child.figures.available) (fun _ => rfl)
    (fun _ _ => rfl) leaves

theorem tree_available (hierarchy : HierarchyMode) (compact : Bool) (balances : List StockBalance) :
    treeAvailable hierarchy (treeRoots hierarchy compact balances) product warehouse =
      (balances.map (amountOf leafAvailable product warehouse)).sum := by
  let pair : LeafRow := ⟨product, warehouse, noFigures⟩
  let atRoot : LeafRow → Bool := fun leaf => decide (rootRef hierarchy leaf = rootRef hierarchy pair)
  let atChild : LeafRow → Bool := fun leaf =>
    decide (childRef hierarchy leaf = childRef hierarchy pair)
  have nodes : (lookup GroupNode.guid (treeRoots hierarchy compact balances)
      (rootRef hierarchy pair)).bind (fun root =>
        lookup GroupChildNode.guid root.children (childRef hierarchy pair)) =
      groupOf (newChild hierarchy) (addToChild compact)
        (((balances.map toLeafRow).filter atRoot).filter atChild) := by
    rw [lookup_root, ← lookup_child, ← children_of_root hierarchy compact]
    cases groupOf (newRoot hierarchy) (addToRoot hierarchy compact)
      ((balances.map toLeafRow).filter atRoot) with
    | none => rfl
    | some node => rfl
  have both (leaf : LeafRow) : (atChild leaf && atRoot leaf) =
      decide (leaf.product = product ∧ leaf.warehouse = warehouse) := by
    rw [← Bool.decide_and]
    apply decide_eq_decide.mpr
    cases hierarchy with
    | warehouseProduct => exact Iff.rfl
    | productWarehouse => exact and_comm
  rw [treeAvailable, nodes, available_of_child, List.filter_filter, sum_filter, List.map_map]
  congr 1
  apply List.map_congr_left
  intro balance member
  rw [Function.comp_apply, both, amountOf]
  simp only [decide_eq_true_eq]
  rfl

end Sums

section Runs
variable {s : StockSystem} {product warehouse : String} {value : StockBalance → Rat}

def syncAmount (product warehouse : String) : StockBalance → Rat
  | .sync key data =>
    if key.product = product ∧ key.warehouse = warehouse then data.available else 0
  | .live _ _ _ => 0

def liveAmount (value : StockBalance → Rat) (table : BalanceTable) (product warehouse : String) :
    Rat :=
  (lookup StockBalance.syncKey table.rows (.live warehouse product)).elim 0 value

theorem amountOf_split (own : ∀ key data, value (.sync key data) = data.available)
    (row : StockBalance) : amountOf value product warehouse row =
      syncAmount product warehouse row +
        (if row.syncKey = .live warehouse product then value row else 0) := by
  cases row with
  | sync key data => simp [amountOf, syncAmount, own, StockBalance.syncKey, StockBalance.product,
      StockBalance.warehouse]
  | live w p data =>
    simp only [amountOf, syncAmount, StockBalance.syncKey, StockBalance.product,
      StockBalance.warehouse, BalanceKey.live.injEq, zero_add]
    exact if_congr and_comm rfl rfl

theorem sum_amountOf (own : ∀ key data, value (.sync key data) = data.available)
    (table : BalanceTable) (product warehouse : String) :
    (table.rows.map (amountOf value product warehouse)).sum =
      (table.rows.map (syncAmount product warehouse)).sum +
        liveAmount value table product warehouse := by
  rw [liveAmount, ← sum_of_key table.unique, ← List.sum_map_add]
  exact congrArg List.sum (List.map_congr_left fun row _ => amountOf_split own row)

structure Tracked (s : StockSystem) : Prop where
  unique : (s.reports.map StockReport.key).Nodup
  latest : ∀ key, (lookup StockBalance.syncKey s.balances.rows (.sync key)).map orderAvailable =
    (lookup StockReport.key s.reports key).map (·.available)
  totals : ∀ product warehouse,
    (s.balances.rows.map (syncAmount product warehouse)).sum = reportedTotal s product warehouse

def LiveSilent (s : StockSystem) : Prop :=
  ∀ product warehouse, liveAmount orderAvailable s.balances product warehouse = 0 ∧
    liveAmount leafAvailable s.balances product warehouse = 0

theorem showsReported_iff (tracked : Tracked s) : ShowsReported s ↔ LiveSilent s := by
  have order_sync (key : StockKey) (data : StockData) :
      orderAvailable (.sync key data) = data.available := rfl
  have leaf_sync (key : StockKey) (data : StockData) :
      leafAvailable (.sync key data) = data.available := rfl
  have order := sum_amountOf order_sync s.balances
  have tree := sum_amountOf leaf_sync s.balances
  constructor
  · intro shows product warehouse
    obtain ⟨loads, trees⟩ := shows product warehouse
    have loaded := loads [product] List.mem_cons_self
    have shown := trees .warehouseProduct true s.balances.rows (List.Perm.refl _)
    rw [load_available List.mem_cons_self, order, tracked.totals] at loaded
    rw [tree_available, tree, tracked.totals] at shown
    exact ⟨add_eq_left.mp loaded, add_eq_left.mp shown⟩
  · intro silent product warehouse
    obtain ⟨order_none, tree_none⟩ := silent product warehouse
    constructor
    · intro productIds asked
      rw [load_available asked, order, tracked.totals, order_none, add_zero]
    · intro hierarchy compact balances same
      rw [tree_available, (same.map _).sum_eq, tree, tracked.totals, tree_none, add_zero]

theorem syncAmount_of_key {row : StockBalance} {key : StockKey} (own : row.syncKey = .sync key) :
    syncAmount product warehouse row =
      if key.product = product ∧ key.warehouse = warehouse then orderAvailable row else 0 := by
  cases row with
  | sync key' data =>
    cases BalanceKey.sync.inj own
    rfl
  | live w p data => cases own

theorem available_syncBalance (item : StockItem) (stored : Option StockBalance) :
    orderAvailable (syncBalance (stockKey item) item stored) = (reportOf item).available := rfl

theorem tracked_applyStagedItem (refs : Tables) (item : StockItem) (tracked : Tracked s) :
    Tracked (applyStagedItem refs s item) := by
  unfold applyStagedItem
  split
  · have row_key (stored : Option StockBalance) :
        (syncBalance (stockKey item) item stored).syncKey = .sync (stockKey item) := rfl
    have report_key (stored : Option StockReport) : (reportOf item).key = stockKey item := rfl
    refine ⟨nodup_upsert report_key tracked.unique, fun key => ?_, fun product warehouse => ?_⟩
    · rw [BalanceTable.upsertSync, lookup_upsert row_key, lookup_upsert report_key]
      by_cases same : key = stockKey item
      · rw [if_pos (congrArg BalanceKey.sync same), if_pos same, Option.map_some, Option.map_some,
          available_syncBalance]
      · rw [if_neg (fun equal => same (BalanceKey.sync.inj equal)), if_neg same]
        exact tracked.latest key
    · have rows := sum_upsert (syncAmount product warehouse) (.sync (stockKey item))
        (syncBalance (stockKey item) item) s.balances.unique
      have reports := sum_upsert (fun report : StockReport =>
          if report.key.product = product ∧ report.key.warehouse = warehouse then report.available
          else 0) (stockKey item) (fun _ => reportOf item) tracked.unique
      have replaced : (lookup StockBalance.syncKey s.balances.rows (.sync (stockKey item))).elim 0
          (syncAmount product warehouse) =
          (lookup StockReport.key s.reports (stockKey item)).elim 0 (fun report =>
            if report.key.product = product ∧ report.key.warehouse = warehouse then
              report.available else 0) := by
        have latest := tracked.latest (stockKey item)
        cases row : lookup StockBalance.syncKey s.balances.rows (.sync (stockKey item)) with
        | none =>
          rw [row] at latest
          cases report : lookup StockReport.key s.reports (stockKey item) with
          | none => rfl
          | some report' => rw [report] at latest; cases latest
        | some row' =>
          rw [row] at latest
          cases report : lookup StockReport.key s.reports (stockKey item) with
          | none => rw [report] at latest; cases latest
          | some report' =>
            rw [report] at latest
            rw [Option.elim_some, Option.elim_some, syncAmount_of_key (key_of_lookup row),
              key_of_lookup report, Option.some.inj latest]
      have written : syncAmount product warehouse (syncBalance (stockKey item) item
          (lookup StockBalance.syncKey s.balances.rows (.sync (stockKey item)))) =
          if (reportOf item).key.product = product ∧ (reportOf item).key.warehouse = warehouse then
            (reportOf item).available else 0 := rfl
      have before := tracked.totals product warehouse
      rw [written, replaced, before, reportedTotal] at rows
      exact add_right_cancel (rows.trans reports.symm)
  · exact tracked

theorem tracked_items (refs : Tables) (items : List StockItem) (tracked : Tracked s) :
    Tracked (items.foldl (applyStagedItem refs) s) := by
  induction items generalizing s with
  | nil => exact tracked
  | cons item rest ih => exact ih (tracked_applyStagedItem refs item tracked)

theorem tracked_empty : Tracked emptyStock := ⟨List.nodup_nil, fun _ => rfl, fun _ _ => rfl⟩

theorem lookup_upsertLive (table : BalanceTable) (w p : String) (stock : LiveStock)
    (key : BalanceKey) : lookup StockBalance.syncKey (table.upsertLive w p stock).rows key =
      if key = .live w p then some (liveBalance w p stock)
      else lookup StockBalance.syncKey table.rows key := by
  have own (stored : Option StockBalance) :
      (liveBalance w p stock).syncKey = .live w p := rfl
  exact lookup_upsert own key

theorem tracked_upsertLive (w p : String) (stock : LiveStock) (tracked : Tracked s) :
    Tracked { s with balances := s.balances.upsertLive w p stock } := by
  refine ⟨tracked.unique, fun key => ?_, fun product warehouse => ?_⟩
  · rw [lookup_upsertLive, if_neg (fun equal => by cases equal)]
    exact tracked.latest key
  · have rows := sum_upsert (syncAmount product warehouse) (.live w p)
      (fun _ => liveBalance w p stock) s.balances.unique
    have replaced : (lookup StockBalance.syncKey s.balances.rows (.live w p)).elim 0
        (syncAmount product warehouse) = 0 := by
      cases row : lookup StockBalance.syncKey s.balances.rows (.live w p) with
      | none => rfl
      | some row' =>
        have own := key_of_lookup row
        cases row' with
        | sync key data => cases own
        | live w' p' data => rfl
    have written : syncAmount product warehouse (liveBalance w p stock) = 0 := rfl
    rw [replaced, written, add_zero, add_zero] at rows
    exact rows.trans (tracked.totals product warehouse)

theorem tracked_step (s : StockSystem) (a : StockAction) (tracked : Tracked s) :
    Tracked (stockStep s a) := by
  cases a with
  | promote replaceMode refs items =>
    simp only [stockStep]
    split
    · exact tracked
    · cases replaceMode with
      | true => exact tracked_items refs items tracked_empty
      | false => exact tracked_items refs items tracked
  | live product warehouse stock =>
    cases warehouse with
    | none => exact tracked
    | some warehouse =>
      cases stock with
      | none => exact tracked
      | some stock => exact tracked_upsertLive warehouse product stock tracked

theorem liveAmount_items (refs : Tables) (items : List StockItem) (s : StockSystem) :
    liveAmount value (items.foldl (applyStagedItem refs) s).balances product warehouse =
      liveAmount value s.balances product warehouse := by
  induction items generalizing s with
  | nil => rfl
  | cons item rest ih =>
    rw [List.foldl_cons, ih, applyStagedItem]
    split
    · have row_key (stored : Option StockBalance) :
          (syncBalance (stockKey item) item stored).syncKey = .sync (stockKey item) := rfl
      rw [liveAmount, BalanceTable.upsertSync, lookup_upsert row_key,
        if_neg (fun equal => by cases equal)]
      rfl
    · rfl

theorem silent_promote (replaceMode : Bool) (refs : Tables) (items : List StockItem)
    (silent : LiveSilent s) : LiveSilent (stockStep s (.promote replaceMode refs items)) := by
  simp only [stockStep]
  split
  · exact silent
  · intro product warehouse
    rw [liveAmount_items, liveAmount_items]
    cases replaceMode with
    | true => exact ⟨rfl, rfl⟩
    | false => exact silent product warehouse

theorem liveAmount_upsertLive (table : BalanceTable) (w p : String) (stock : LiveStock) :
    liveAmount value (table.upsertLive w p stock) product warehouse =
      if warehouse = w ∧ product = p then value (liveBalance w p stock)
      else liveAmount value table product warehouse := by
  rw [liveAmount, lookup_upsertLive]
  simp only [BalanceKey.live.injEq]
  split
  · rfl
  · rfl

theorem silent_upsertLive (w p : String) (stock : LiveStock) (silent : LiveSilent s) :
    LiveSilent { s with balances := s.balances.upsertLive w p stock } ↔
      orderAvailable (liveBalance w p stock) = 0 ∧ leafAvailable (liveBalance w p stock) = 0 := by
  constructor
  · intro after
    have own := after p w
    rw [liveAmount_upsertLive, liveAmount_upsertLive, if_pos ⟨rfl, rfl⟩, if_pos ⟨rfl, rfl⟩] at own
    exact own
  · intro adds_none product warehouse
    rw [liveAmount_upsertLive, liveAmount_upsertLive]
    split
    · exact adds_none
    · exact silent product warehouse

theorem adds_none_iff (w p : String) (stock : LiveStock) :
    (orderAvailable (liveBalance w p stock) = 0 ∧ leafAvailable (liveBalance w p stock) = 0) ↔
      match sharedAvailable stock with
      | some total => total = 0
      | none => stock.quantity.getD 0 = stock.reserved.getD 0 := by
  simp only [orderAvailable, leafAvailable, toLeafRow, liveBalance, liveStockData,
    StockBalance.available]
  cases sharedAvailable stock with
  | some total => simp
  | none => simp [sub_eq_zero]

theorem silent_step (s : StockSystem) (a : StockAction) (silent : LiveSilent s) :
    LiveSilent (stockStep s a) ↔ BringsNone a := by
  cases a with
  | promote replaceMode refs items =>
    exact iff_of_true (silent_promote replaceMode refs items silent) trivial
  | live product warehouse stock =>
    cases warehouse with
    | none => exact iff_of_true silent trivial
    | some warehouse =>
      cases stock with
      | none => exact iff_of_true silent trivial
      | some stock =>
        exact (silent_upsertLive warehouse product stock silent).trans
          (adds_none_iff warehouse product stock)

end Runs

namespace StockSample

def refs : Tables :=
  { Tables.empty "epoch" with
    products := fun guid => if guid = "p" then
      some ⟨"Молоко", none, none, none, false, false, true, none, none, none, none, 0⟩ else none
    warehouses := fun guid => guid == "w"
    organizations := fun guid => guid == "o" }

def five : StockItem :=
  ⟨"p", "w", "o", none, some 5, none, none, none, none, none, some 5, none, none, none⟩

def fiveTwice : List StockAction :=
  [.promote true refs [five], .live "p" (some "w") (some ⟨some 5, none, some 5, none⟩)]

end StockSample

end LeaderProduct
