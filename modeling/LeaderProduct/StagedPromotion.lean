import Mathlib.Data.List.Nodup
import LeaderProduct.SyncTables

/-! The promotion of a sync session: in one transaction the selected tables are cleared in
replace mode and the staged rows are applied entity by entity. What the rows came to is kept
in memory and written to the staged rows after the transaction, whatever became of it. -/
namespace LeaderProduct

inductive BatchEntityCode where
  | nomenclature | organizations | warehouses | counterparties | contracts | agreements
  | productPrices | specialPrices | stock
  deriving DecidableEq, Repr

def reconcileOrder : List BatchEntityCode :=
  [.nomenclature, .organizations, .warehouses, .counterparties, .contracts, .agreements,
    .productPrices, .specialPrices, .stock]

structure StageIssue where
  stageId : String
  message : String

structure ApplySummary where
  resolvedStageIds : List String
  blocked : List StageIssue
  errors : List StageIssue

def emptyApplySummary : ApplySummary := ⟨[], [], []⟩

def mergeApplySummaries (base extra : ApplySummary) : ApplySummary where
  resolvedStageIds := (base.resolvedStageIds ++ extra.resolvedStageIds).eraseDups.filter
    (fun stageId => !extra.blocked.any (fun issue => issue.stageId == stageId) &&
      !extra.errors.any (fun issue => issue.stageId == stageId))
  blocked := base.blocked ++ extra.blocked
  errors := base.errors ++ extra.errors

structure StagedRow (ι : Type) where
  id : String
  payloadHash : String
  payload : ι

structure Staged (ι : Type) where
  rows : List (StagedRow ι)
  distinct : (rows.map (·.id)).Nodup

structure StagedSession where
  nomenclature : Staged NomenclatureItem
  organizations : Staged String
  warehouses : Staged String
  counterparties : Staged CounterpartyItem
  contracts : Staged ContractItem
  agreements : Staged AgreementItem
  productPrices : Staged ProductPriceItem
  specialPrices : Staged SpecialPriceItem
  stock : Staged StockItem

structure SyncSession where
  replaceMode : Bool
  acceptedCount : Nat
  selectedEntities : List BatchEntityCode

def SyncSession.entities (session : SyncSession) : List BatchEntityCode :=
  if session.selectedEntities.isEmpty then reconcileOrder
  else reconcileOrder.filter session.selectedEntities.contains

/-- What the database makes of the promotion: whether the transaction begins, how many of its
calls are answered before it is lost (`none` when it is not), and whether the end of an aborted
one throws. A call after the loss throws `lostMessage`. -/
structure Database where
  begins : Bool
  answers : Option Nat
  commitThrows : Bool
  lostMessage : String
  lost_named : lostMessage ≠ ""
  invalidMessage : String
  duplicateMessage : String
  epoch : String

/-- A statement that the database refuses loses the transaction; an argument that the client
library refuses does not. -/
inductive RowResult where
  | resolved
  | blocked (message : String)
  | invalid
  | refused

section Clear
variable (t : Tables)

def Tables.clearStock : Tables := { t with stock := fun _ => none }

/-- The agreements that a condition picks are deleted, and no price refers to them any more. -/
def Tables.dropAgreements (picked : AgreementRow → Bool) : Tables :=
  { t with
    agreements := fun guid => (t.agreements guid).filter (fun row => !picked row)
    specialPrices := t.specialPrices.map (fun row =>
      if (row.key.agreement.bind t.agreements).any picked then
        { row with key := { row.key with agreement := none } }
      else row) }

def Tables.dropPriceTypes : Tables :=
  { t with
    priceTypes := fun _ => false
    productPrices := t.productPrices.map (fun row =>
      { row with key := { row.key with priceType := none } })
    specialPrices := t.specialPrices.map (fun row =>
      { row with key := { row.key with priceType := none } }) }

/-- A product that older orders refer to stays, switched off and out of the catalog. -/
def deactivated (row : ProductRow) : ProductRow :=
  { row with isActive := false, group := none, catalogHash := none, catalogRevision := 0 }

def clearEntityInTx (epoch : String) : BatchEntityCode → Tables
  | .stock => t.clearStock
  | .organizations => { t.clearStock with organizations := fun _ => false }
  | .specialPrices => { t with specialPrices := [] }
  | .productPrices => { t with productPrices := [] }
  | .agreements =>
    ({ t with specialPrices := t.specialPrices.filter (fun row => row.key.agreement.isNone) }
      |>.dropAgreements (fun _ => true)).dropPriceTypes
  | .contracts => { t with contracts := fun _ => false }
  | .counterparties =>
    { ({ t with specialPrices := t.specialPrices.filter (fun row => row.key.counterparty.isNone) }
        |>.dropAgreements (fun _ => true)) with
      contracts := fun _ => false
      addresses := fun _ => none
      looseAddresses := []
      counterparties := fun _ => false }
  | .warehouses =>
    { t.clearStock.dropAgreements (fun row => row.warehouse.isSome) with
      warehouses := fun _ => false }
  | .nomenclature =>
    { t.clearStock with
      changes := fun _ => none
      catalogState := ⟨epoch, 0, 0⟩
      specialPrices := []
      productPrices := []
      packages := fun _ => none
      loosePackages := []
      products := fun guid => (t.products guid).map deactivated
      groups := fun _ => none }

end Clear

section Rows
variable (syncedAt : Instant)

def requireRef (guid : Option String) (found : String → Bool) (kind : String) (t : Tables)
    (next : RowResult × Tables) : RowResult × Tables :=
  match guid with
  | none => next
  | some guid =>
    if found guid then next else (.blocked (kind ++ " " ++ guid ++ " not found"), t)

def applyPackage (item : NomenclatureItem) (t : Tables) (pack : PackageItem) : Tables :=
  if isBaseUnitPackage pack item.baseUnit then
    match present pack.guid with
    | some guid => t.dropPackage item.guid guid
    | none => t
  else
    let t := t.upsertUnit pack.unit
    match present pack.guid with
    | some guid => t.upsertPackage guid (packageRow item.guid pack.unit.guid pack)
    | none =>
      { t with loosePackages := t.loosePackages ++ [packageRow item.guid pack.unit.guid pack none] }

def writeProduct (item : NomenclatureItem) (t : Tables) : Tables :=
  let t := (item.baseUnit.map t.upsertUnit).getD t
  let t := t.setProduct item.guid (productRow item syncedAt (t.products item.guid))
  item.packages.foldl (applyPackage item) t

def catalogOperation (item : NomenclatureItem) : CatalogChangeOperation :=
  if item.isActive = some false then .delete else .upsert

def applyProduct (row : StagedRow NomenclatureItem) (t : Tables) : RowResult × Tables :=
  let item := row.payload
  let catalogChanged := (t.products item.guid).bind (·.catalogHash) ≠ some row.payloadHash
  requireRef (present item.parentGuid) (fun guid => (t.groups guid).isSome) "Group" t
    (.resolved,
      if catalogChanged then
        (writeProduct syncedAt item t).recordProductCatalogChange item.guid (catalogOperation item)
          row.payloadHash syncedAt
      else writeProduct syncedAt item t)

def applyGroup (row : StagedRow NomenclatureItem) (t : Tables) : RowResult × Tables :=
  (.resolved, t.upsertGroup row.payload
    ((present row.payload.parentGuid).filter (fun guid => (t.groups guid).isSome)))

def applyOrganization (row : StagedRow String) (t : Tables) : RowResult × Tables :=
  (.resolved, { t with organizations := Function.update t.organizations row.payload true })

def applyWarehouse (row : StagedRow String) (t : Tables) : RowResult × Tables :=
  (.resolved, { t with warehouses := Function.update t.warehouses row.payload true })

def applyCounterparty (row : StagedRow CounterpartyItem) (t : Tables) : RowResult × Tables :=
  (.resolved, row.payload.addresses.foldl (fun t => t.putAddress row.payload.guid)
    { t with counterparties := Function.update t.counterparties row.payload.guid true })

def Tables.putContract (t : Tables) (guid : String) : Tables :=
  { t with contracts := Function.update t.contracts guid true }

def Tables.putPriceType (t : Tables) (guid : String) : Tables :=
  { t with priceTypes := Function.update t.priceTypes guid true }

def applyContract (row : StagedRow ContractItem) (t : Tables) : RowResult × Tables :=
  let item := row.payload
  requireRef (some item.counterpartyGuid) t.counterparties "Counterparty" t
    (requireRef (present item.organizationGuid) t.organizations "Organization" t
      (.resolved, t.putContract item.guid))

def agreementContract (item : AgreementItem) (counterparty : Option String) (t : Tables)
    (next : Tables → RowResult × Tables) : RowResult × Tables :=
  match item.contract with
  | some contract =>
    if counterparty.isNone then
      (.blocked ("Counterparty " ++ contract.counterpartyGuid ++ " not found"), t)
    else
      requireRef
        (if contract.organizationGuid = item.agreement.organizationGuid then none
          else present contract.organizationGuid)
        t.organizations "Organization" t (next (t.putContract contract.guid))
  | none =>
    requireRef (present item.agreement.contractGuid) t.contracts "Contract" t (next t)

def applyAgreement (row : StagedRow AgreementItem) (t : Tables) : RowResult × Tables :=
  let item := row.payload
  let counterparty := present
    (item.agreement.counterpartyGuid.or (item.contract.map (·.counterpartyGuid)))
  requireRef counterparty t.counterparties "Counterparty" t
    (requireRef (present item.agreement.organizationGuid) t.organizations "Organization" t
      (requireRef (if item.priceType.isSome then none else present item.agreement.priceTypeGuid)
        t.priceTypes "Price type" t
        (agreementContract item counterparty ((item.priceType.map t.putPriceType).getD t) (fun t =>
          requireRef (present item.agreement.warehouseGuid) t.warehouses "Warehouse" t
            (.resolved, { t with
              agreements := Function.update t.agreements item.agreement.guid
                (some ⟨present item.agreement.warehouseGuid⟩) })))))

/-- The columns of the default links themselves are left out: nothing here reads them. -/
def applyDefaultLinks (row : StagedRow CounterpartyItem) (t : Tables) : RowResult × Tables :=
  let item := row.payload
  requireRef (some item.guid) t.counterparties "Counterparty" t
    (requireRef (present item.defaultAgreementGuid) (fun guid => (t.agreements guid).isSome)
      "Default agreement" t
      (requireRef (present item.defaultContractGuid) t.contracts "Default contract" t
        (requireRef (present item.defaultWarehouseGuid) t.warehouses "Default warehouse" t
          (requireRef (present item.defaultDeliveryAddressGuid)
            (fun guid => (t.addresses guid).any (fun row => row.counterparty == item.guid))
            "Default delivery address" t (.resolved, t)))))

def priceResult {κ : Type} (t : Tables) (store : List (PriceRow κ) → Tables) :
    PriceWrite κ → RowResult × Tables
  | .rows rows => (.resolved, store rows)
  | .invalid => (.invalid, t)
  | .duplicate => (.refused, t)

def applyProductPrice (row : StagedRow ProductPriceItem) (t : Tables) : RowResult × Tables :=
  let item := row.payload
  let priceType := item.priceType.or (present item.priceTypeGuid)
  requireRef (some item.productGuid) (fun guid => (t.products guid).isSome) "Product" t
    (requireRef (if item.priceType.isSome then none else present item.priceTypeGuid) t.priceTypes
      "Price type" t
      (let t := (item.priceType.map t.putPriceType).getD t
      priceResult t (fun rows => { t with productPrices := rows })
        (upsertPrice ProductPriceKey.complete (optionalGuid item.guid)
          ⟨item.productGuid, priceType, item.startDate⟩ item.fields t.productPrices)))

def applySpecialPrice (row : StagedRow SpecialPriceItem) (t : Tables) : RowResult × Tables :=
  let item := row.payload
  requireRef (some item.productGuid) (fun guid => (t.products guid).isSome) "Product" t
    (requireRef (present item.counterpartyGuid) t.counterparties "Counterparty" t
      (requireRef (present item.agreementGuid) (fun guid => (t.agreements guid).isSome)
        "Agreement" t
        (requireRef (present item.priceTypeGuid) t.priceTypes "Price type" t
          (priceResult t (fun rows => { t with specialPrices := rows })
            (upsertPrice SpecialPriceKey.complete (optionalGuid item.guid)
              ⟨item.productGuid, present item.counterpartyGuid, present item.agreementGuid,
                present item.priceTypeGuid, item.startDate⟩ item.fields t.specialPrices)))))

def applyStock (row : StagedRow StockItem) (t : Tables) : RowResult × Tables :=
  let item := row.payload
  requireRef (some item.productGuid) (fun guid => (t.products guid).isSome) "Product" t
    (requireRef (some item.warehouseGuid) t.warehouses "Warehouse" t
      (if item.organizationGuid = "" then (.blocked "Organization GUID is missing", t)
      else
        requireRef (some item.organizationGuid) t.organizations "Organization" t
          (.resolved, t.upsertStock
            ⟨item.productGuid, item.warehouseGuid, item.organizationGuid,
              item.seriesGuid.getD ""⟩ item)))

end Rows

section Transaction
variable (db : Database) (syncedAt : Instant)

inductive PromotePass where
  | base (entity : BatchEntityCode)
  | defaultLinks

/-- The transaction of a promotion. `applied` notes the rows whose writes are all in the
tables, for the statements alone. A transaction is aborted once a row has met its loss: it is
rolled back at its end, which need not throw any more. -/
structure PromoteTx where
  tables : Tables
  applied : List (PromotePass × String)
  answers : Option Nat
  aborted : Bool

def PromoteTx.call (tx : PromoteTx) : Option PromoteTx :=
  match tx.answers with
  | none => some tx
  | some 0 => none
  | some (n + 1) => some { tx with answers := some n }

def ApplySummary.record (summary : ApplySummary) (id : String) : RowResult → ApplySummary
  | .resolved => { summary with resolvedStageIds := summary.resolvedStageIds ++ [id] }
  | .blocked message => { summary with blocked := summary.blocked ++ [⟨id, message⟩] }
  | .invalid => { summary with errors := summary.errors ++ [⟨id, db.invalidMessage⟩] }
  | .refused => { summary with errors := summary.errors ++ [⟨id, db.duplicateMessage⟩] }

def runRow (pass : PromotePass) (work : Tables → RowResult × Tables) (id : String)
    (summary : ApplySummary) (tx : PromoteTx) : ApplySummary × PromoteTx :=
  match tx.call with
  | none =>
    ({ summary with errors := summary.errors ++ [⟨id, db.lostMessage⟩] }, { tx with aborted := true })
  | some tx =>
    match work tx.tables with
    | (.resolved, tables) =>
      (summary.record db id .resolved,
        { tx with tables := tables, applied := tx.applied ++ [(pass, id)] })
    | (.refused, _) => (summary.record db id .refused, { tx with answers := some 0, aborted := true })
    | (result, tables) => (summary.record db id result, { tx with tables := tables })

def runRows {ι : Type} (pass : PromotePass) (work : StagedRow ι → Tables → RowResult × Tables)
    (rows : List (StagedRow ι)) (summary : ApplySummary) (tx : PromoteTx) :
    ApplySummary × PromoteTx :=
  rows.foldl (fun acc row => runRow db pass (work row) row.id acc.1 acc.2) (summary, tx)

/-- The staged rows are read outside of any `try` of the loop. -/
def applyStaged {ι : Type} (pass : PromotePass) (work : StagedRow ι → Tables → RowResult × Tables)
    (staged : Staged ι) (tx : PromoteTx) : Option (ApplySummary × PromoteTx) :=
  match tx.call with
  | none => none
  | some tx => some (runRows db pass work staged.rows emptyApplySummary tx)

structure GroupRound where
  pending : List (StagedRow NomenclatureItem)
  resolvedGroupGuids : List String
  summary : ApplySummary
  tx : PromoteTx
  progressed : Bool

/-- The upsert of a group fails only with the transaction. -/
def GroupRound.resolve (s : GroupRound) (row : StagedRow NomenclatureItem) : GroupRound :=
  let ran := runRow db (.base .nomenclature) (applyGroup row) row.id s.summary s.tx
  { s with
    resolvedGroupGuids :=
      if s.tx.call.isSome then s.resolvedGroupGuids ++ [row.payload.guid]
      else s.resolvedGroupGuids
    summary := ran.1
    tx := ran.2
    progressed := s.progressed || s.tx.call.isSome }

/-- A group whose parent is not there yet waits; the parent is looked up outside of a `try`. -/
def GroupRound.visit (s : GroupRound) (row : StagedRow NomenclatureItem) :
    Option GroupRound :=
  match (present row.payload.parentGuid).filter (fun guid => guid ∉ s.resolvedGroupGuids) with
  | none => some (s.resolve db row)
  | some parent =>
    match s.tx.call with
    | none => none
    | some tx =>
      if (tx.tables.groups parent).isSome then some ({ s with tx := tx }.resolve db row)
      else some { s with tx := tx, pending := row :: s.pending }

/-- A round goes through the pending groups from the last one to the first. -/
def GroupRound.next (s : GroupRound) : Option GroupRound :=
  s.pending.reverse.foldlM (fun s row => s.visit db row)
    { s with pending := [], progressed := false }

/-- Rounds while groups are pending and the last round got on. Every such round takes a group
away, so as many rounds as groups are enough. -/
def resolveGroups : Nat → GroupRound → Option GroupRound
  | 0, s => some s
  | fuel + 1, s =>
    if s.pending.isEmpty then some s
    else
      (s.next db).bind (fun s => if s.progressed then resolveGroups fuel s else some s)

def pendingIssue (row : StagedRow NomenclatureItem) : StageIssue :=
  ⟨row.id, "Parent group " ++ row.payload.parentGuid.getD "null" ++ " not found"⟩

def blockPending (s : GroupRound) : ApplySummary :=
  { s.summary with blocked := s.summary.blocked ++ s.pending.map pendingIssue }

def applyStagedNomenclature (staged : StagedSession) (tx : PromoteTx) :
    Option (ApplySummary × PromoteTx) :=
  match tx.call with
  | none => none
  | some tx =>
    let groups := staged.nomenclature.rows.filter (fun row => row.payload.isGroup)
    let products := staged.nomenclature.rows.filter (fun row => !row.payload.isGroup)
    (resolveGroups db groups.length ⟨groups, [], emptyApplySummary, tx, false⟩).map (fun s =>
      runRows db (.base .nomenclature) (applyProduct syncedAt) products (blockPending s) s.tx)

def applyStagedEntity (staged : StagedSession) (tx : PromoteTx) :
    BatchEntityCode → Option (ApplySummary × PromoteTx)
  | .nomenclature => applyStagedNomenclature db syncedAt staged tx
  | .organizations =>
    applyStaged db (.base .organizations) applyOrganization staged.organizations tx
  | .warehouses => applyStaged db (.base .warehouses) applyWarehouse staged.warehouses tx
  | .counterparties =>
    applyStaged db (.base .counterparties) applyCounterparty staged.counterparties tx
  | .contracts => applyStaged db (.base .contracts) applyContract staged.contracts tx
  | .agreements => applyStaged db (.base .agreements) applyAgreement staged.agreements tx
  | .productPrices =>
    applyStaged db (.base .productPrices) applyProductPrice staged.productPrices tx
  | .specialPrices =>
    applyStaged db (.base .specialPrices) applySpecialPrice staged.specialPrices tx
  | .stock => applyStaged db (.base .stock) applyStock staged.stock tx

def applyCounterpartyDefaultLinks (staged : StagedSession) (tx : PromoteTx) :
    Option (ApplySummary × PromoteTx) :=
  applyStaged db .defaultLinks applyDefaultLinks staged.counterparties tx

abbrev Summaries := BatchEntityCode → Option ApplySummary

/-- The summaries are kept outside of the transaction, so they are there also when a call
that no row catches has thrown, which leaves no transaction. -/
structure PromoteResult where
  summaries : Summaries
  tx : Option PromoteTx

def applyEntities (staged : StagedSession) :
    List BatchEntityCode → Summaries → PromoteTx → PromoteResult
  | [], summaries, tx => ⟨summaries, some tx⟩
  | entity :: rest, summaries, tx =>
    match applyStagedEntity db syncedAt staged tx entity with
    | none => ⟨summaries, none⟩
    | some (summary, tx) =>
      applyEntities staged rest (Function.update summaries entity (some summary)) tx

def clearEntities (entities : List BatchEntityCode) (tx : PromoteTx) : Option PromoteTx :=
  entities.foldlM (fun tx entity =>
    match tx.call with
    | none => none
    | some tx => some { tx with tables := clearEntityInTx tx.tables db.epoch entity }) tx

def linkCounterparties (staged : StagedSession) (entities : List BatchEntityCode)
    (result : PromoteResult) : PromoteResult :=
  match result.tx with
  | none => result
  | some tx =>
    if BatchEntityCode.counterparties ∈ entities then
      match applyCounterpartyDefaultLinks db staged tx with
      | none => { result with tx := none }
      | some (defaultsSummary, tx) =>
        ⟨Function.update result.summaries .counterparties
          (some (mergeApplySummaries
            ((result.summaries .counterparties).getD emptyApplySummary) defaultsSummary)),
          some tx⟩
    else result

def summaryOf (summaries : Summaries) (entity : BatchEntityCode) : ApplySummary :=
  (summaries entity).getD emptyApplySummary

def totalOf (count : ApplySummary → Nat) (summaries : Summaries)
    (entities : List BatchEntityCode) : Nat :=
  entities.foldl (fun sum entity => sum + count (summaryOf summaries entity)) 0

/-- In replace mode a blocked or failed row makes the callback throw, with its own notes. -/
def checkReplaced (session : SyncSession) (result : PromoteResult) :
    PromoteResult × Option String :=
  if result.tx.isSome && session.replaceMode &&
      (decide (0 < totalOf (·.blocked.length) result.summaries session.entities) ||
        decide (0 < totalOf (·.errors.length) result.summaries session.entities)) then
    ({ result with tx := none },
      some (if 0 < totalOf (·.blocked.length) result.summaries session.entities then
          "Session has unresolved references. Final promote rolled back."
        else "Session failed during promote."))
  else (result, none)

def openPromotion (session : SyncSession) (tables : Tables) : Option PromoteTx :=
  if session.replaceMode then
    clearEntities db session.entities ⟨tables, [], db.answers, false⟩
  else some ⟨tables, [], db.answers, false⟩

def promote (session : SyncSession) (staged : StagedSession) (tables : Tables) :
    PromoteResult × Option String :=
  match openPromotion db session tables with
  | none => (⟨fun _ => none, none⟩, none)
  | some tx =>
    checkReplaced session (linkCounterparties db staged session.entities
      (applyEntities db syncedAt staged session.entities (fun _ => none) tx))

end Transaction

section Rounds
variable {db : Database} {s s' : GroupRound}

/-- What a visit keeps to, for the rows that are still to come, a round keeps to. -/
theorem GroupRound.next_rule {P : List (StagedRow NomenclatureItem) → GroupRound → Prop}
    (visit : ∀ row rows s s', P (row :: rows) s → s.visit db row = some s' → P rows s')
    (start : P s.pending.reverse { s with pending := [], progressed := false })
    (run : s.next db = some s') : P [] s' := by
  have general (rows : List (StagedRow NomenclatureItem)) (s : GroupRound) (now : P rows s)
      (run : rows.foldlM (fun s row => s.visit db row) s = some s') : P [] s' := by
    induction rows generalizing s with
    | nil => cases run; exact now
    | cons row rows ih =>
      rw [List.foldlM_cons] at run
      obtain ⟨next, visited, rest⟩ := Option.bind_eq_some_iff.mp run
      exact ih next (visit row rows s next now visited) rest
  exact general s.pending.reverse _ start run

theorem resolveGroups_rule {P : GroupRound → Prop}
    (round : ∀ s s', P s → s.next db = some s' → P s') {fuel : Nat} (now : P s)
    (run : resolveGroups db fuel s = some s') : P s' := by
  induction fuel generalizing s with
  | zero => cases run; exact now
  | succ fuel ih =>
    unfold resolveGroups at run
    split at run
    · cases run; exact now
    · obtain ⟨next, here, rest⟩ := Option.bind_eq_some_iff.mp run
      have after := round s next now here
      split at rest
      · exact ih after rest
      · cases rest; exact after

end Rounds

end LeaderProduct
