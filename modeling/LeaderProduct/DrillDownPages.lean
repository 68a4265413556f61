import LeaderProduct.StockDrillDown

/-! A client that opens a root of the stock tree and reads what is under it page by page. -/
namespace LeaderProduct.DrillDown
open RowTable TiedPages

section Client

structure Drill where
  collation : Collation
  table : StockTable
  hierarchy : Option String
  search : Option String
  organizationGuid : Option String
  treeOffset : Option Rat
  treeLimit : Option Rat
  compact : Option String
  tree : Store table.rows
  root : GroupNode
  shown : root ∈ (getTree collation tree
    ⟨hierarchy, treeOffset, treeLimit, search, organizationGuid, compact⟩).roots
  rootLimits : Nat → Option Rat
  leafLimits : String → Nat → Option Rat

def bare (child : GroupChildNode) : GroupChildNode := { child with leaves := [] }

namespace Drill
variable (d : Drill)

def mode : HierarchyMode := parseHierarchy d.hierarchy

def treeQuery (compact : Option String) : TreeQuery :=
  ⟨d.hierarchy, d.treeOffset, d.treeLimit, d.search, d.organizationGuid, compact⟩

def treeLeaves (childGuid : String) : List LeafRow :=
  ((lookup GroupNode.guid
    (treeRoots d.mode false (treeBalances d.collation d.tree (d.treeQuery none))) d.root.guid).bind
      fun root => lookup GroupChildNode.guid root.children childGuid).elim [] (·.leaves)

def nodesPage (stores : Nat → Store d.table.rows) (k offset : Nat) : Option (Page GroupChildNode) :=
  match getChildren d.collation (stores k) ⟨d.hierarchy, some "root", some d.root.guid, none,
    d.search, d.organizationGuid, some (offset : Rat), d.rootLimits k⟩ with
  | .ok (.root payload) => some ⟨payload.offset, payload.limit, payload.hasMore, payload.children⟩
  | _ => none

def leavesPage (childGuid : String) (stores : Nat → Store d.table.rows) (k offset : Nat) :
    Option (Page LeafRow) :=
  match getChildren d.collation (stores k) ⟨d.hierarchy, some "group", some childGuid,
    some d.root.guid, d.search, d.organizationGuid, some (offset : Rat),
    d.leafLimits childGuid k⟩ with
  | .ok (.group payload) => some ⟨payload.offset, payload.limit, payload.hasMore, payload.leaves⟩
  | _ => none

/-- The pages give the children of the root as the tree shows them, and each of their leaves
once. -/
structure Agrees : Prop where
  nodes : ∀ stores : Nat → Store d.table.rows, ∃ fuel nodes,
    readAll (d.nodesPage stores) fuel 0 0 = some nodes ∧ nodes.Perm (d.root.children.map bare)
  leaves : ∀ child ∈ d.root.children, ∀ stores : Nat → Store d.table.rows, ∃ fuel leaves,
    readAll (d.leavesPage child.guid stores) fuel 0 0 = some leaves ∧
      leaves.Perm (d.treeLeaves child.guid)

end Drill

end Client

section Condition

def pageLimits (limits : Nat → Option Rat) (k : Nat) : Nat := parseNonNegativeInt (limits k) 50 200

def Given (guid : String) : Prop := JsString.trim guid = guid ∧ guid ≠ ""

instance (guid : String) : Decidable (Given guid) := inferInstanceAs (Decidable (_ ∧ _))

namespace Drill
variable (d : Drill)

def rows : List Balance :=
  d.table.rows.filter (ofRoot d.mode d.collation (trimmedText d.search)
    (trimmedText d.organizationGuid) d.root.guid)

def childRows (guid : String) : List Balance :=
  d.rows.filter fun balance => decide (childId d.mode balance = guid)

def childGuids : List String := (d.rows.map (childId d.mode)).dedup

def childName (guid : String) : String :=
  (d.childRows guid).head?.elim "" fun balance => (childRef d.mode balance).name

/-- The children by their names, as they are compared last; those of one name stand as their first
rows are asked for. -/
def childRanking : Ranking String :=
  (d.collation.localeCompare.on d.childName).lex
    ((childOrder d.mode d.collation).ofGroups d.childRows)

structure Settled : Prop where
  root : Given d.root.guid
  nodes : Seamless d.childRanking d.childGuids 5000 (pageLimits d.rootLimits)
  children : ∀ guid ∈ d.childGuids, Given guid
  leaves : ∀ guid ∈ d.childGuids,
    Seamless byUpdatedAt (d.childRows guid) 5000 (pageLimits (d.leafLimits guid))

end Drill

end Condition

section Requests
variable {d : Drill} {stores : Nat → Store d.table.rows} {child : String}

theorem parse_offset (offset : Nat) :
    parseNonNegativeInt (some (offset : Rat)) 0 5000 = min offset 5000 := by
  have whole : (offset : Rat).floor = offset := Rat.floor_intCast offset
  rw [parseNonNegativeInt, if_pos Rat.natCast_nonneg, whole, Int.toNat_natCast]

def shownNodes (d : Drill) (guid : String) (store : Store d.table.rows) : List GroupChildNode :=
  sort (byNodeName d.collation) (childNodes d.mode guid (store.findMany
    (ofRoot d.mode d.collation (trimmedText d.search) (trimmedText d.organizationGuid) guid)
    (childOrder d.mode d.collation)))

def shownLeaves (d : Drill) (guid child : String) (store : Store d.table.rows) : List LeafRow :=
  (store.findMany (ofChild d.mode d.collation (trimmedText d.search)
    (trimmedText d.organizationGuid) guid child) byUpdatedAt).map toLeafRow

theorem nodesPage_eq (given : JsString.trim d.root.guid ≠ "") :
    d.nodesPage stores = window 5000 (pageLimits d.rootLimits) fun k =>
      shownNodes d (JsString.trim d.root.guid) (stores k) := by
  funext k offset
  simp only [Drill.nodesPage, getChildren, trimmedText, Option.getD_some, if_neg given,
    parse_offset]
  rfl

theorem nodesPage_eq_none (blank : JsString.trim d.root.guid = "") (k offset : Nat) :
    d.nodesPage stores k offset = none := by
  simp [Drill.nodesPage, getChildren, trimmedText, blank]

theorem leavesPage_eq (root_given : JsString.trim d.root.guid ≠ "")
    (given : JsString.trim child ≠ "") :
    d.leavesPage child stores = window 5000 (pageLimits (d.leafLimits child)) fun k =>
      shownLeaves d (JsString.trim d.root.guid) (JsString.trim child) (stores k) := by
  funext k offset
  have length : (shownLeaves d (JsString.trim d.root.guid) (JsString.trim child)
      (stores k)).length = d.table.rows.countP (ofChild d.mode d.collation (trimmedText d.search)
        (trimmedText d.organizationGuid) (JsString.trim d.root.guid) (JsString.trim child)) := by
    rw [shownLeaves, List.length_map, ((stores k).perm _ _).length_eq, List.countP_eq_length_filter]
  rw [window, length, shownLeaves]
  simp only [Drill.leavesPage, getChildren, trimmedText, Option.getD_some, if_neg given,
    if_neg root_given, parse_offset, groupLevel, List.map_take, List.map_drop]
  rfl

theorem leavesPage_eq_none (blank : JsString.trim child = "") (k offset : Nat) :
    d.leavesPage child stores k offset = none := by
  simp [Drill.leavesPage, getChildren, trimmedText, blank]

theorem readAll_eq_none {α : Type} {fetch : Nat → Nat → Option (Page α)}
    (refused : ∀ k offset, fetch k offset = none) (fuel k offset : Nat) :
    readAll fetch fuel k offset = none := by
  cases fuel with
  | zero => rfl
  | succ fuel => simp [readAll, refused]

end Requests

section Nodes
variable {d : Drill} (hierarchy : HierarchyMode) (compact : Bool)

theorem newRoot_guid (balance : Balance) :
    (newRoot (rootRef hierarchy balance)).guid = rootId hierarchy balance := rfl

theorem addToRoot_guid (root : GroupNode) (balance : Balance) :
    (addToRoot hierarchy compact root balance).guid = root.guid := rfl

theorem newChild_guid (nodeGuid : String) (balance : Balance) :
    (newChild nodeGuid (childRef hierarchy balance)).guid = childId hierarchy balance := rfl

theorem openChild_guid (balance : Balance) :
    (openChild hierarchy balance).guid = childId hierarchy balance := rfl

theorem addToChild_guid (child : GroupChildNode) (balance : Balance) :
    (addToChild compact child balance).guid = child.guid := rfl

variable {hierarchy} {compact}

theorem childRef_eq (table : StockTable) {a b : Balance}
    (here : a ∈ table.rows) (there : b ∈ table.rows)
    (same : childId hierarchy a = childId hierarchy b) :
    childRef hierarchy a = childRef hierarchy b := by
  cases hierarchy with
  | warehouseProduct =>
    simp only [childRef, productRef, table.products a here b there same]
  | productWarehouse =>
    simp only [childRef, warehouseRef, table.warehouses a here b there same]

theorem addTotals_right_comm (target first second : StockFigures) :
    addTotals (addTotals target first) second = addTotals (addTotals target second) first := by
  simp only [addTotals, StockFigures.mk.injEq]
  refine ⟨?_, ?_, ?_, ?_, ?_, ?_, ?_⟩ <;> exact add_right_comm _ _ _

theorem gathers_children (table : StockTable) (hierarchy : HierarchyMode) (nodeGuid : String) :
    Gathers GroupChildNode.guid (childId hierarchy)
      (fun balance => newChild nodeGuid (childRef hierarchy balance)) (addToChild true)
      table.rows where
  opens := newChild_guid hierarchy nodeGuid
  stays := addToChild_guid true
  alike a here b there same := by rw [childRef_eq table here there same]
  join child a b := by simp only [addToChild, addTotals_right_comm, if_true]

theorem mem_childNodes {nodeGuid : String} {balances : List Balance}
    {node : GroupChildNode} (listed : node ∈ childNodes hierarchy nodeGuid balances) :
    ∃ balance, (balances.filter fun balance =>
        decide (childId hierarchy balance = node.guid)).head? = some balance ∧
      node.id = (newChild nodeGuid (childRef hierarchy balance)).id ∧
      node.type = (childRef hierarchy balance).type ∧
      node.guid = (childRef hierarchy balance).id ∧
        node.name = (childRef hierarchy balance).name := by
  have made := groupOf_of_gather (newChild_guid hierarchy nodeGuid) (addToChild_guid true) listed
  have stays (node : GroupChildNode) (balance : Balance) :
      ((addToChild true node balance).id, (addToChild true node balance).type,
        (addToChild true node balance).guid, (addToChild true node balance).name) =
      (node.id, node.type, node.guid, node.name) := rfl
  obtain ⟨balance, first, same⟩ :=
    view_of_groupOf (fun node => (node.id, node.type, node.guid, node.name)) stays made
  simp only [Prod.mk.injEq] at same
  exact ⟨balance, first, same⟩

def Drill.treeRows (d : Drill) : List Balance :=
  (treeBalances d.collation d.tree (d.treeQuery d.compact)).filter fun balance =>
    decide (rootId d.mode balance = d.root.guid)

theorem filter_ofRoot (rows : List Balance) (hierarchy : HierarchyMode) (c : Collation)
    (search organizationGuid guid : String) :
    (rows.filter (buildBalancesWhere c search organizationGuid)).filter
        (fun balance => decide (rootId hierarchy balance = guid)) =
      rows.filter (ofRoot hierarchy c search organizationGuid guid) := by
  rw [List.filter_filter]
  apply List.filter_congr
  intro balance _
  rw [ofRoot, Bool.and_comm]
  rfl

theorem treeRows_perm : d.treeRows.Perm d.rows := by
  rw [Drill.rows, ← filter_ofRoot]
  exact (d.tree.perm _ _).filter _

theorem root_made (compact : Bool) (root : GroupNode) (listed : root ∈ treeRoots d.mode compact
      (treeBalances d.collation d.tree (d.treeQuery d.compact))) (own : root.guid = d.root.guid) :
    groupOf (fun balance => newRoot (rootRef d.mode balance)) (addToRoot d.mode compact)
      d.treeRows = some root := by
  have made := groupOf_of_gather (newRoot_guid d.mode) (addToRoot_guid d.mode compact) listed
  rw [own] at made
  exact made

theorem root_listed : d.root ∈ treeRoots d.mode (parseBooleanFlag d.compact)
    (treeBalances d.collation d.tree (d.treeQuery d.compact)) :=
  List.mem_of_mem_drop (List.mem_of_mem_take d.shown)

theorem children_of_groupOf (hierarchy : HierarchyMode) (compact : Bool) (balances : List Balance) :
    (groupOf (fun balance => newRoot (rootRef hierarchy balance)) (addToRoot hierarchy compact)
      balances).elim [] GroupNode.children =
      gather GroupChildNode.guid (childId hierarchy) (openChild hierarchy) (addToChild compact)
        balances := by
  have starts (balance : Balance) : (newRoot (rootRef hierarchy balance)).children = [] := rfl
  have steps (root : GroupNode) (balance : Balance) :
      (addToRoot hierarchy compact root balance).children = place GroupChildNode.guid
        (childId hierarchy) (openChild hierarchy) (addToChild compact) root.children balance := rfl
  exact view_groupOf GroupNode.children _ starts steps balances

theorem root_children : d.root.children = gather GroupChildNode.guid (childId d.mode)
    (openChild d.mode) (addToChild (parseBooleanFlag d.compact)) d.treeRows := by
  have children := children_of_groupOf d.mode (parseBooleanFlag d.compact) d.treeRows
  rw [root_made _ _ root_listed rfl, Option.elim_some] at children
  exact children

theorem bare_children : d.root.children.map bare =
    childNodes d.mode d.root.guid d.treeRows := by
  have keeps (child : GroupChildNode) : (bare child).guid = child.guid := rfl
  have starts (balance : Balance) : bare (openChild d.mode balance) = openChild d.mode balance :=
    rfl
  have steps (child : GroupChildNode) (balance : Balance) :
      bare (addToChild (parseBooleanFlag d.compact) child balance) =
        addToChild true (bare child) balance := rfl
  rw [root_children, map_gather bare keeps starts steps]
  apply gather_congr
  intro balance listed
  rw [openChild, of_decide_eq_true (List.mem_filter.mp listed).2]

theorem mem_rows {balance : Balance} (listed : balance ∈ d.rows) : balance ∈ d.table.rows :=
  List.mem_of_mem_filter listed

theorem bare_children_perm : (d.root.children.map bare).Perm
    (childNodes d.mode d.root.guid d.rows) := by
  rw [bare_children]
  have gathers := gathers_children d.table d.mode d.root.guid
  apply gather_perm gathers.opens gathers.stays treeRows_perm _ gathers.join
  intro a here b there
  exact gathers.alike a (mem_rows (treeRows_perm.mem_iff.mp here)) b
    (mem_rows (treeRows_perm.mem_iff.mp there))

theorem nodup_childNodes (hierarchy : HierarchyMode) (guid : String) (balances : List Balance) :
    ((childNodes hierarchy guid balances).map GroupChildNode.guid).Nodup :=
  nodup_gather (newChild_guid hierarchy guid) (addToChild_guid true) balances

theorem mem_keys_childNodes {guid child : String} {balances : List Balance} :
    child ∈ (childNodes hierarchy guid balances).map GroupChildNode.guid ↔
      ∃ balance ∈ balances, childId hierarchy balance = child :=
  mem_keys_gather (newChild_guid hierarchy guid) (addToChild_guid true) balances child

theorem childGuids_perm : ((childNodes d.mode d.root.guid d.rows).map GroupChildNode.guid).Perm
    d.childGuids := by
  rw [Drill.childGuids, List.perm_ext_iff_of_nodup (nodup_childNodes _ _ _) (List.nodup_dedup _)]
  intro guid
  rw [mem_keys_childNodes, List.mem_dedup, List.mem_map]

theorem name_of_node {node : GroupChildNode}
    (listed : node ∈ childNodes d.mode d.root.guid d.rows) :
    node.name = d.childName node.guid := by
  obtain ⟨balance, first, -, -, -, name⟩ := mem_childNodes listed
  rw [name, Drill.childName, Drill.childRows, first, Option.elim_some]

theorem nodup_rows : d.table.rows.Nodup := .of_map Balance.id d.table.unique

theorem nodes_agree_iff (given : Given d.root.guid) :
    (∀ stores : Nat → Store d.table.rows, ∃ fuel nodes,
      readAll (d.nodesPage stores) fuel 0 0 = some nodes ∧ nodes.Perm (d.root.children.map bare)) ↔
      Seamless d.childRanking d.childGuids 5000 (pageLimits d.rootLimits) := by
  have pages (stores : Nat → Store d.table.rows) : d.nodesPage stores =
      window 5000 (pageLimits d.rootLimits) fun k => shownNodes d d.root.guid (stores k) := by
    have here : JsString.trim d.root.guid ≠ "" := by
      rw [given.1]
      exact given.2
    rw [nodesPage_eq here, given.1]
  have alike (nodes : List GroupChildNode) : nodes.Perm (d.root.children.map bare) ↔
      nodes.Perm (childNodes d.mode d.root.guid d.rows) :=
    ⟨fun same => same.trans bare_children_perm, fun same => same.trans bare_children_perm.symm⟩
  simp only [pages, alike]
  have gathers := gathers_children d.table d.mode d.root.guid
  have arranges := gathers.arranges nodup_rows (ofRoot d.mode d.collation (trimmedText d.search)
    (trimmedText d.organizationGuid) d.root.guid) (childOrder d.mode d.collation)
    (byNodeName d.collation)
  refine (readsOnce_iff arranges (.of_map _ (nodup_childNodes _ _ _))).trans ?_
  rw [← seamless_perm childGuids_perm, seamless_map]
  apply seamless_congr
  intro a here b there
  simp only [groupRanking, byNodeName, Drill.childRanking, Ranking.lex, Ranking.on,
    ← name_of_node here, ← name_of_node there]
  rfl

theorem root_has_child : ∃ node, node ∈ d.root.children.map bare := by
  have made := root_made (d := d) (parseBooleanFlag d.compact) d.root root_listed rfl
  obtain ⟨balance, first, -⟩ := view_of_groupOf GroupNode.guid (addToRoot_guid d.mode _) made
  have listed : childId d.mode balance ∈
      (childNodes d.mode d.root.guid d.treeRows).map GroupChildNode.guid :=
    mem_keys_childNodes.mpr ⟨balance, List.mem_of_mem_head? first, rfl⟩
  obtain ⟨node, here, -⟩ := List.mem_map.mp listed
  rw [bare_children]
  exact ⟨node, here⟩

theorem root_given_of_agrees (agrees : ∃ fuel nodes,
    readAll (d.nodesPage fun _ => d.tree) fuel 0 0 = some nodes ∧
      nodes.Perm (d.root.children.map bare)) : Given d.root.guid := by
  obtain ⟨fuel, nodes, reads, same⟩ := agrees
  by_cases blank : JsString.trim d.root.guid = ""
  · rw [readAll_eq_none (nodesPage_eq_none blank)] at reads
    cases reads
  · obtain ⟨node, listed⟩ := root_has_child (d := d)
    rw [nodesPage_eq blank] at reads
    obtain ⟨_, there⟩ := mem_of_readAll reads (same.mem_iff.mpr listed)
    rw [shownNodes, (perm_sort _ _).mem_iff] at there
    rw [bare_children] at listed
    obtain ⟨_, -, id, type, guid, -⟩ := mem_childNodes listed
    obtain ⟨_, -, id', type', guid', -⟩ := mem_childNodes there
    rw [newChild, ← type, ← guid] at id
    rw [newChild, ← type', ← guid'] at id'
    have sent : JsString.trim d.root.guid = d.root.guid := by
      have texts := congrArg String.toList (id'.symm.trans id)
      exact String.toList_inj.mp (by simpa using texts)
    exact ⟨sent, sent ▸ blank⟩

end Nodes

section Leaves
variable {d : Drill} {guid : String}

theorem leaves_of_groupOf (hierarchy : HierarchyMode) (balances : List Balance) :
    (groupOf (openChild hierarchy) (addToChild false) balances).elim [] GroupChildNode.leaves =
      balances.map toLeafRow := by
  have starts (balance : Balance) : (openChild hierarchy balance).leaves = [] := rfl
  have steps (child : GroupChildNode) (balance : Balance) :
      (addToChild false child balance).leaves = child.leaves ++ [toLeafRow balance] := rfl
  have general (shown : List LeafRow) :
      balances.foldl (fun leaves balance => leaves ++ [toLeafRow balance]) shown =
        shown ++ balances.map toLeafRow := by
    induction balances generalizing shown with
    | nil => simp
    | cons balance rest ih => simp [ih]
  rw [view_groupOf GroupChildNode.leaves (fun leaves balance => leaves ++ [toLeafRow balance])
    starts steps, general, List.nil_append]

theorem treeLeaves_eq (d : Drill) (guid : String) : d.treeLeaves guid =
    (d.treeRows.filter fun balance => decide (childId d.mode balance = guid)).map toLeafRow := by
  have children := children_of_groupOf d.mode false d.treeRows
  have child := lookup_gather (openChild_guid d.mode) (addToChild_guid false) d.treeRows guid
  have root := lookup_gather (newRoot_guid d.mode) (addToRoot_guid d.mode false)
    (treeBalances d.collation d.tree (d.treeQuery none)) d.root.guid
  rw [Drill.treeLeaves, treeRoots, root, ← leaves_of_groupOf]
  change Option.elim (Option.bind (groupOf _ _ d.treeRows) _) _ _ = _
  cases made : groupOf (fun balance => newRoot (rootRef d.mode balance))
      (addToRoot d.mode false) d.treeRows with
  | none =>
    rw [made, Option.elim_none] at children
    rw [← children] at child
    rw [Option.bind_none, ← child]
    rfl
  | some node =>
    rw [made, Option.elim_some] at children
    rw [Option.bind_some, children, child]

theorem filter_ofChild (rows : List Balance) (hierarchy : HierarchyMode) (c : Collation)
    (search organizationGuid guid child : String) :
    (rows.filter (ofRoot hierarchy c search organizationGuid guid)).filter
        (fun balance => decide (childId hierarchy balance = child)) =
      rows.filter (ofChild hierarchy c search organizationGuid guid child) := by
  rw [List.filter_filter]
  apply List.filter_congr
  intro balance _
  rw [ofChild, Bool.and_comm]
  rfl

theorem treeLeaves_perm (d : Drill) (guid : String) :
    (d.treeLeaves guid).Perm ((d.childRows guid).map toLeafRow) := by
  rw [treeLeaves_eq]
  exact (treeRows_perm.filter _).map _

theorem nodup_leaves (d : Drill) (guid : String) :
    ((d.childRows guid).map toLeafRow).Nodup := by
  have kept : (d.childRows guid).Sublist d.table.rows :=
    List.filter_sublist.trans List.filter_sublist
  apply List.Nodup.of_map LeafRow.id
  rw [List.map_map]
  exact d.table.unique.sublist (kept.map Balance.id)

theorem leaves_agree_iff (root_given : Given d.root.guid) (given : Given guid) :
    (∀ stores : Nat → Store d.table.rows, ∃ fuel leaves,
      readAll (d.leavesPage guid stores) fuel 0 0 = some leaves ∧
        leaves.Perm (d.treeLeaves guid)) ↔
      Seamless byUpdatedAt (d.childRows guid) 5000 (pageLimits (d.leafLimits guid)) := by
  have pages (stores : Nat → Store d.table.rows) : d.leavesPage guid stores =
      window 5000 (pageLimits (d.leafLimits guid)) fun k =>
        shownLeaves d d.root.guid guid (stores k) := by
    have root_here : JsString.trim d.root.guid ≠ "" := by
      rw [root_given.1]
      exact root_given.2
    have here : JsString.trim guid ≠ "" := by
      rw [given.1]
      exact given.2
    rw [leavesPage_eq root_here here, root_given.1, given.1]
  have alike (leaves : List LeafRow) : leaves.Perm (d.treeLeaves guid) ↔
      leaves.Perm ((d.childRows guid).map toLeafRow) :=
    ⟨fun same => same.trans (treeLeaves_perm d guid),
      fun same => same.trans (treeLeaves_perm d guid).symm⟩
  simp only [pages, alike]
  let byTime : Ranking LeafRow := Ranking.newest.on LeafRow.updatedAt
  have listed : Arranges (byTime.on toLeafRow) (d.childRows guid) fun store : Store d.table.rows =>
      store.findMany (ofChild d.mode d.collation (trimmedText d.search)
        (trimmedText d.organizationGuid) d.root.guid guid) byUpdatedAt := by
    rw [Drill.childRows, Drill.rows, filter_ofChild]
    exact arranges_findMany _ _
  exact (readsOnce_iff (listed.map toLeafRow) (nodup_leaves d guid)).trans
    (seamless_map byTime toLeafRow)

theorem childId_of_leaf {hierarchy : HierarchyMode} {a b : Balance}
    (same : toLeafRow a = toLeafRow b) : childId hierarchy a = childId hierarchy b := by
  cases hierarchy with
  | warehouseProduct => exact congrArg (fun leaf => leaf.product.guid) same
  | productWarehouse => exact congrArg (fun leaf => leaf.warehouse.guid) same

theorem child_given_of_agrees (root_given : Given d.root.guid) (listed : guid ∈ d.childGuids)
    (agrees : ∃ fuel leaves, readAll (d.leavesPage guid fun _ => d.tree) fuel 0 0 = some leaves ∧
      leaves.Perm (d.treeLeaves guid)) : Given guid := by
  obtain ⟨fuel, leaves, reads, same⟩ := agrees
  by_cases blank : JsString.trim guid = ""
  · rw [readAll_eq_none (leavesPage_eq_none blank)] at reads
    cases reads
  · have root_here : JsString.trim d.root.guid ≠ "" := by
      rw [root_given.1]
      exact root_given.2
    obtain ⟨balance, member, own⟩ := List.mem_map.mp (List.mem_dedup.mp listed)
    have leaf : toLeafRow balance ∈ leaves := by
      rw [(same.trans (treeLeaves_perm d guid)).mem_iff]
      exact List.mem_map_of_mem (List.mem_filter.mpr ⟨member, decide_eq_true own⟩)
    rw [leavesPage_eq root_here blank] at reads
    obtain ⟨_, there⟩ := mem_of_readAll reads leaf
    rw [shownLeaves, List.mem_map] at there
    obtain ⟨other, there, alike⟩ := there
    have kept := (List.mem_filter.mp ((d.tree.perm _ _).mem_iff.mp there)).2
    rw [ofChild, Bool.and_eq_true, beq_iff_eq, childId_of_leaf alike, own] at kept
    exact ⟨kept.2.symm, kept.2 ▸ blank⟩

end Leaves

theorem forall_children {d : Drill} (holds : String → Prop) :
    (∀ child ∈ d.root.children, holds child.guid) ↔ ∀ guid ∈ d.childGuids, holds guid := by
  have guids : (d.root.children.map GroupChildNode.guid).Perm d.childGuids := by
    have same := (bare_children_perm (d := d)).map GroupChildNode.guid
    rw [List.map_map] at same
    exact same.trans childGuids_perm
  constructor
  · intro all guid listed
    obtain ⟨child, here, rfl⟩ := List.mem_map.mp (guids.mem_iff.mpr listed)
    exact all child here
  · intro all child here
    exact all child.guid (guids.mem_iff.mp (List.mem_map_of_mem here))

section Sample

def byCodePoint : Ranking String where
  le a b := decide (a ≤ b)
  total a b := by simpa using String.le_total a b
  trans a b c := by simpa using String.le_trans

def sample : Collation := ⟨byCodePoint, JsString.includes, byCodePoint⟩

def synced (id : String) : Balance :=
  ⟨id, ⟨"p", "Молоко", none, none, none, none⟩, ⟨"w", "Склад", none⟩, none, none, none, none, none,
    5, some 0, none, none, none, none, none, 1000⟩

def twoSynced : StockTable where
  rows := [synced "b1", synced "b2"]
  unique := by decide
  products := by simp [synced]
  warehouses := by simp [synced]

def asStored : Store twoSynced.rows := .lying twoSynced.rows (List.Perm.refl _)

def oneByOne : Drill where
  collation := sample
  table := twoSynced
  hierarchy := none
  search := none
  organizationGuid := none
  treeOffset := none
  treeLimit := none
  compact := none
  tree := asStored
  root := (getTree sample asStored ⟨none, none, none, none, none, none⟩).roots.head
    (by decide +kernel)
  shown := List.head_mem _
  rootLimits := fun _ => none
  leafLimits := fun _ _ => some 1

end Sample

end LeaderProduct.DrillDown
