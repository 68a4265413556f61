import Mathlib.Data.String.Basic
import LeaderProduct.CatalogFeed

/-! What the writes of the catalog do to its log: it grows at its end, is pruned from its
beginning, or starts over with a new epoch. -/
namespace LeaderProduct
open Transition

section Log

structure LogFacts (now : Instant) (t : Tables) : Prop where
  stored : ∀ {revision change}, t.changes revision = some change →
    t.catalogState.minAvailableRevision ≤ revision ∧
      revision ≤ t.catalogState.currentRevision ∧ change.changedAt ≤ now
  ordered : ∀ {earlier later change change'}, t.changes earlier = some change →
    t.changes later = some change' → earlier ≤ later → change.changedAt ≤ change'.changedAt
  current : t.catalogState.currentRevision ≤ t.sequence
  least : t.catalogState.minAvailableRevision ≤ t.catalogState.currentRevision

structure IndexFacts (t : Tables) : Prop where
  listed : ∀ guid, guid ∈ t.productIndex ↔ (t.products guid).isSome = true
  ascending : t.productIndex.Pairwise (· < ·)

structure LogKept (t t' : Tables) : Prop where
  changes : ∀ {revision}, revision ≤ t.sequence → t'.changes revision = t.changes revision
  sequence : t.sequence ≤ t'.sequence
  current : t'.catalogState.currentRevision = t.catalogState.currentRevision ∨
    t.sequence < t'.catalogState.currentRevision
  least : t'.catalogState.minAvailableRevision = t.catalogState.minAvailableRevision
  epoch : t'.catalogState.epoch = t.catalogState.epoch

structure LogWritten (epoch : String) (now : Instant) (t t' : Tables) : Prop where
  log : LogFacts now t → LogFacts now t'
  index : IndexFacts t → IndexFacts t'
  kept : LogKept t t' ∨ t'.catalogState.epoch = epoch

variable {epoch : String} {now : Instant} {s t u : Tables}

theorem LogKept.refl (t : Tables) : LogKept t t :=
  ⟨fun _ => rfl, Nat.le_refl _, .inl rfl, rfl, rfl⟩

theorem LogKept.trans (first : LogKept s t) (second : LogKept t u) : LogKept s u where
  changes below :=
    (second.changes (Nat.le_trans below first.sequence)).trans (first.changes below)
  sequence := Nat.le_trans first.sequence second.sequence
  current := by
    have := first.sequence
    rcases second.current with same | grown
    · rw [same]
      exact first.current
    · exact .inr (by omega)
  least := second.least.trans first.least
  epoch := second.epoch.trans first.epoch

theorem LogWritten.trans (first : LogWritten epoch now s t) (second : LogWritten epoch now t u) :
    LogWritten epoch now s u where
  log facts := second.log (first.log facts)
  index facts := second.index (first.index facts)
  kept := by
    rcases second.kept with kept | new
    · rcases first.kept with before | new
      · exact .inl (before.trans kept)
      · exact .inr (kept.epoch.trans new)
    · exact .inr new

structure SameCatalog (t t' : Tables) : Prop where
  units : t'.units = t.units
  groups : t'.groups = t.groups
  products : t'.products = t.products
  productIndex : t'.productIndex = t.productIndex
  packages : t'.packages = t.packages
  loosePackages : t'.loosePackages = t.loosePackages
  changes : t'.changes = t.changes
  sequence : t'.sequence = t.sequence
  catalogState : t'.catalogState = t.catalogState

theorem SameCatalog.refl (t : Tables) : SameCatalog t t := ⟨rfl, rfl, rfl, rfl, rfl, rfl, rfl, rfl, rfl⟩

theorem SameCatalog.trans (first : SameCatalog s t) (second : SameCatalog t u) : SameCatalog s u where
  units := second.units.trans first.units
  groups := second.groups.trans first.groups
  products := second.products.trans first.products
  productIndex := second.productIndex.trans first.productIndex
  packages := second.packages.trans first.packages
  loosePackages := second.loosePackages.trans first.loosePackages
  changes := second.changes.trans first.changes
  sequence := second.sequence.trans first.sequence
  catalogState := second.catalogState.trans first.catalogState

theorem SameCatalog.served (same : SameCatalog s t) : served t = served s := by
  have packages : servePackage t = servePackage s := by
    funext row
    rw [servePackage, servePackage, same.units]
  have products : serializeProduct t = serializeProduct s := by
    funext guid row
    rw [serializeProduct, serializeProduct, same.units, same.groups, same.packages,
      same.loosePackages, packages]
  funext guid
  rw [LeaderProduct.served, LeaderProduct.served, same.products, products]

theorem LogWritten.beside (changes : u.changes = t.changes) (sequence : u.sequence = t.sequence)
    (state : u.catalogState = t.catalogState) (index : u.productIndex = t.productIndex)
    (products : ∀ guid, (u.products guid).isSome = (t.products guid).isSome) :
    LogWritten epoch now t u where
  log facts := by
    constructor
    · rw [changes, state]
      exact facts.stored
    · rw [changes]
      exact facts.ordered
    · rw [state, sequence]
      exact facts.current
    · rw [state]
      exact facts.least
  index facts := by
    constructor
    · intro guid
      rw [index, products]
      exact facts.listed guid
    · rw [index]
      exact facts.ascending
  kept := by
    refine .inl ⟨fun _ => by rw [changes], Nat.le_of_eq sequence.symm, ?_, ?_, ?_⟩
    · exact .inl (by rw [state])
    · rw [state]
    · rw [state]

theorem SameCatalog.logWritten (same : SameCatalog t u) : LogWritten epoch now t u :=
  .beside same.changes same.sequence same.catalogState same.productIndex
    (fun guid => by rw [same.products])

theorem LogWritten.refl (t : Tables) : LogWritten epoch now t t := (SameCatalog.refl t).logWritten

theorem pairwise_orderedInsert {guid : String} {index : List String}
    (ascending : index.Pairwise (· < ·)) (new : guid ∉ index) :
    (index.orderedInsert (· ≤ ·) guid).Pairwise (· < ·) := by
  induction index with
  | nil => exact List.pairwise_singleton _ _
  | cons first rest ih =>
    rw [List.pairwise_cons] at ascending
    rw [List.mem_cons, not_or] at new
    rw [List.orderedInsert]
    split
    · rename_i before
      have below : guid < first := lt_of_le_of_ne before new.1
      refine List.pairwise_cons.mpr ⟨fun other member => ?_, List.pairwise_cons.mpr ascending⟩
      rcases List.mem_cons.mp member with rfl | later
      · exact below
      · exact lt_trans below (ascending.1 other later)
    · rename_i behind
      refine List.pairwise_cons.mpr ⟨fun other member => ?_, ih ascending.2 new.2⟩
      rcases (List.mem_orderedInsert (· ≤ ·)).mp member with rfl | later
      · exact lt_of_not_ge behind
      · exact ascending.1 other later

theorem LogWritten.setProduct (guid : String) (row : ProductRow) :
    LogWritten epoch now t (t.setProduct guid row) where
  log facts := ⟨facts.stored, facts.ordered, facts.current, facts.least⟩
  index facts := by
    have stored (other : String) : ((t.setProduct guid row).products other).isSome = true ↔
        other = guid ∨ (t.products other).isSome = true := by
      simp only [Tables.setProduct]
      by_cases same : other = guid
      · rw [same, Function.update_self]
        exact ⟨fun _ => .inl rfl, fun _ => rfl⟩
      · rw [Function.update_of_ne same]
        exact ⟨.inr, fun either => either.resolve_left same⟩
    by_cases known : guid ∈ t.productIndex
    · have index : (t.setProduct guid row).productIndex = t.productIndex := if_pos known
      refine ⟨fun other => ?_, ?_⟩
      · rw [stored, index, facts.listed]
        refine ⟨.inr, fun either => either.elim (fun same => ?_) id⟩
        rw [same]
        exact (facts.listed guid).mp known
      · rw [index]
        exact facts.ascending
    · have index : (t.setProduct guid row).productIndex =
          t.productIndex.orderedInsert (· ≤ ·) guid := if_neg known
      refine ⟨fun other => ?_, ?_⟩
      · rw [stored, index, List.mem_orderedInsert, facts.listed]
      · rw [index]
        exact pairwise_orderedInsert facts.ascending known
  kept := .inl ⟨fun _ => rfl, Nat.le_refl _, .inl rfl, rfl, rfl⟩

theorem LogWritten.record (guid : String) (operation : CatalogChangeOperation) (hash : String) :
    LogWritten epoch now t (t.recordProductCatalogChange guid operation hash now) where
  log facts := by
    have entries {revision : Nat} {change : CatalogChange}
        (stored : (t.recordProductCatalogChange guid operation hash now).changes revision =
          some change) :
        (revision = t.sequence + 1 ∧ change.changedAt = now) ∨
          (revision ≤ t.sequence ∧ t.changes revision = some change) := by
      simp only [Tables.recordProductCatalogChange] at stored
      by_cases new : revision = t.sequence + 1
      · rw [new, Function.update_self, Option.some.injEq] at stored
        exact .inl ⟨new, by rw [← stored]⟩
      · rw [Function.update_of_ne new] at stored
        exact .inr ⟨Nat.le_trans (facts.stored stored).2.1 facts.current, stored⟩
    refine ⟨fun stored => ?_, fun stored stored' before => ?_, Nat.le_refl _, ?_⟩
    · have current := facts.current
      have least := facts.least
      simp only [Tables.recordProductCatalogChange]
      rcases entries stored with ⟨new, time⟩ | ⟨_, old⟩
      · exact ⟨by omega, by omega, Nat.le_of_eq time⟩
      · obtain ⟨above, below, time⟩ := facts.stored old
        exact ⟨above, by omega, time⟩
    · rcases entries stored' with ⟨_, time'⟩ | ⟨below, old'⟩
      · rcases entries stored with ⟨_, time⟩ | ⟨_, old⟩
        · rw [time, time']
        · rw [time']
          exact (facts.stored old).2.2
      · rcases entries stored with ⟨new, _⟩ | ⟨_, old⟩
        · omega
        · exact facts.ordered old old' before
    · have current := facts.current
      have least := facts.least
      simp only [Tables.recordProductCatalogChange]
      omega
  index facts := by
    refine ⟨fun other => ?_, facts.ascending⟩
    have same : ((t.recordProductCatalogChange guid operation hash now).products other).isSome =
        (t.products other).isSome := by
      simp only [Tables.recordProductCatalogChange]
      by_cases here : other = guid
      · rw [here, Function.update_self, Option.isSome_map]
      · rw [Function.update_of_ne here]
    rw [same]
    exact facts.listed other
  kept := by
    refine .inl ⟨fun {revision} below => ?_, Nat.le_succ _, .inr (Nat.lt_succ_self _), rfl, rfl⟩
    simp only [Tables.recordProductCatalogChange]
    exact Function.update_of_ne (by omega) _ _

end Log

section Writes
variable {epoch : String} {now : Instant} {t : Tables}

theorem putPriceType_same (priceType : Option String) :
    SameCatalog t ((priceType.map t.putPriceType).getD t) := by
  cases priceType with
  | none => exact .refl t
  | some guid => exact ⟨rfl, rfl, rfl, rfl, rfl, rfl, rfl, rfl, rfl⟩

theorem clearEntityInTx_same {entity : BatchEntityCode} (other : entity ≠ .nomenclature) :
    SameCatalog t (clearEntityInTx t epoch entity) := by
  cases entity with
  | nomenclature => exact absurd rfl other
  | organizations => exact ⟨rfl, rfl, rfl, rfl, rfl, rfl, rfl, rfl, rfl⟩
  | warehouses => exact ⟨rfl, rfl, rfl, rfl, rfl, rfl, rfl, rfl, rfl⟩
  | counterparties => exact ⟨rfl, rfl, rfl, rfl, rfl, rfl, rfl, rfl, rfl⟩
  | contracts => exact ⟨rfl, rfl, rfl, rfl, rfl, rfl, rfl, rfl, rfl⟩
  | agreements => exact ⟨rfl, rfl, rfl, rfl, rfl, rfl, rfl, rfl, rfl⟩
  | productPrices => exact ⟨rfl, rfl, rfl, rfl, rfl, rfl, rfl, rfl, rfl⟩
  | specialPrices => exact ⟨rfl, rfl, rfl, rfl, rfl, rfl, rfl, rfl, rfl⟩
  | stock => exact ⟨rfl, rfl, rfl, rfl, rfl, rfl, rfl, rfl, rfl⟩

theorem clearNomenclature_logWritten :
    LogWritten epoch now t (clearEntityInTx t epoch .nomenclature) := by
  refine ⟨fun _ => ⟨(fun stored => by cases stored), (fun stored => by cases stored),
    Nat.zero_le _, Nat.le_refl _⟩, fun facts => ⟨fun guid => ?_, facts.ascending⟩, .inr rfl⟩
  simp only [clearEntityInTx, Option.isSome_map]
  exact facts.listed guid

theorem applyPackage_logWritten (item : NomenclatureItem) (pack : PackageItem) :
    LogWritten epoch now t (applyPackage item t pack) := by
  unfold applyPackage
  split
  · split
    · exact .beside rfl rfl rfl rfl (fun _ => rfl)
    · exact .refl t
  · dsimp only
    split <;> exact .beside rfl rfl rfl rfl (fun _ => rfl)

theorem applyPackages_logWritten (item : NomenclatureItem) (packs : List PackageItem) :
    LogWritten epoch now t (packs.foldl (applyPackage item) t) := by
  induction packs generalizing t with
  | nil => exact .refl t
  | cons pack packs ih => exact (applyPackage_logWritten item pack).trans ih

theorem writeProduct_logWritten (item : NomenclatureItem) :
    LogWritten epoch now t (writeProduct now item t) := by
  have unit : LogWritten epoch now t ((item.baseUnit.map t.upsertUnit).getD t) := by
    cases item.baseUnit with
    | none => exact .refl t
    | some unit => exact .beside rfl rfl rfl rfl (fun _ => rfl)
  exact unit.trans ((LogWritten.setProduct _ _).trans (applyPackages_logWritten item item.packages))

theorem applyProduct_logWritten (row : StagedRow NomenclatureItem) :
    LogWritten epoch now t (applyProduct now row t).2 := by
  refine requireRef_related (.refl t) ?_
  split
  · exact (writeProduct_logWritten row.payload).trans (.record _ _ _)
  · exact writeProduct_logWritten row.payload

theorem putAddresses_same (counterparty : String) (addresses : List AddressItem) :
    SameCatalog t (addresses.foldl (fun t => t.putAddress counterparty) t) := by
  induction addresses generalizing t with
  | nil => exact .refl t
  | cons address addresses ih =>
    have put : SameCatalog t (t.putAddress counterparty address) := by
      unfold Tables.putAddress
      split <;> exact ⟨rfl, rfl, rfl, rfl, rfl, rfl, rfl, rfl, rfl⟩
    exact put.trans ih

theorem applyAgreement_same (row : StagedRow AgreementItem) :
    SameCatalog t (applyAgreement row t).2 := by
  have typed := @putPriceType_same t row.payload.priceType
  have stored (s : Tables) (before : SameCatalog t s) :
      SameCatalog t (requireRef (present row.payload.agreement.warehouseGuid) s.warehouses
        "Warehouse" s (.resolved, { s with
          agreements := Function.update s.agreements row.payload.agreement.guid
            (some ⟨present row.payload.agreement.warehouseGuid⟩) })).2 :=
    requireRef_related' before (before.trans ⟨rfl, rfl, rfl, rfl, rfl, rfl, rfl, rfl, rfl⟩)
  refine requireRef_related (.refl t) (requireRef_related (.refl t)
    (requireRef_related (.refl t) ?_))
  unfold agreementContract
  split
  · split
    · exact typed
    · exact requireRef_related' typed
        (stored _ (typed.trans ⟨rfl, rfl, rfl, rfl, rfl, rfl, rfl, rfl, rfl⟩))
  · exact requireRef_related' typed (stored _ typed)

theorem applyProductPrice_same (row : StagedRow ProductPriceItem) :
    SameCatalog t (applyProductPrice row t).2 := by
  refine requireRef_related (.refl t) (requireRef_related (.refl t) ?_)
  have typed := @putPriceType_same t row.payload.priceType
  dsimp only
  cases upsertPrice ProductPriceKey.complete (optionalGuid row.payload.guid) _ _ _ with
  | rows rows => exact typed.trans ⟨rfl, rfl, rfl, rfl, rfl, rfl, rfl, rfl, rfl⟩
  | invalid => exact typed
  | duplicate => exact typed

theorem applySpecialPrice_same (row : StagedRow SpecialPriceItem) :
    SameCatalog t (applySpecialPrice row t).2 := by
  refine requireRef_related (.refl t) (requireRef_related (.refl t)
    (requireRef_related (.refl t) (requireRef_related (.refl t) ?_)))
  cases upsertPrice SpecialPriceKey.complete (optionalGuid row.payload.guid) _ _ _ with
  | rows rows => exact ⟨rfl, rfl, rfl, rfl, rfl, rfl, rfl, rfl, rfl⟩
  | invalid => exact .refl t
  | duplicate => exact .refl t

theorem applyStock_same (row : StagedRow StockItem) : SameCatalog t (applyStock row t).2 := by
  refine requireRef_related (.refl t) (requireRef_related (.refl t) ?_)
  split
  · exact .refl t
  · exact requireRef_related (.refl t) ⟨rfl, rfl, rfl, rfl, rfl, rfl, rfl, rfl, rfl⟩

/-- Only the clearing of the nomenclature and the rows of groups and products reach the catalog. -/
theorem WriteRule.ofCatalog {staged : StagedSession} {R : Tables → Tables → Prop}
    (same : ∀ {t t'}, SameCatalog t t' → R t t')
    (trans : ∀ {s t u}, R s t → R t u → R s u)
    (clear : ∀ t, R t (clearEntityInTx t epoch .nomenclature))
    (group : ∀ row ∈ staged.nomenclature.rows, row.payload.isGroup = true →
      ∀ t, R t (applyGroup row t).2)
    (product : ∀ row ∈ staged.nomenclature.rows, row.payload.isGroup = false →
      ∀ t, R t (applyProduct now row t).2) : WriteRule epoch now staged R where
  refl t := same (.refl t)
  trans := trans
  clear t entity := by
    by_cases nomenclature : entity = .nomenclature
    · rw [nomenclature]
      exact clear t
    · exact same (clearEntityInTx_same nomenclature)
  group := group
  product := product
  organization _ _ := same ⟨rfl, rfl, rfl, rfl, rfl, rfl, rfl, rfl, rfl⟩
  warehouse _ _ := same ⟨rfl, rfl, rfl, rfl, rfl, rfl, rfl, rfl, rfl⟩
  counterparty row t := by
    have put : SameCatalog t
        { t with counterparties := Function.update t.counterparties row.payload.guid true } :=
      ⟨rfl, rfl, rfl, rfl, rfl, rfl, rfl, rfl, rfl⟩
    exact same (put.trans (putAddresses_same row.payload.guid row.payload.addresses))
  contract _ t :=
    same (requireRef_related (.refl t) (requireRef_related (.refl t)
      ⟨rfl, rfl, rfl, rfl, rfl, rfl, rfl, rfl, rfl⟩))
  agreement row _ := same (applyAgreement_same row)
  productPrice row _ := same (applyProductPrice_same row)
  specialPrice row _ := same (applySpecialPrice_same row)
  stock row _ := same (applyStock_same row)
  defaultLinks _ t :=
    same (requireRef_related (.refl t) (requireRef_related (.refl t) (requireRef_related (.refl t)
      (requireRef_related (.refl t) (requireRef_related (.refl t) (.refl t))))))

theorem promotion_logWritten (staged : StagedSession) :
    WriteRule epoch now staged (LogWritten epoch now) :=
  .ofCatalog SameCatalog.logWritten .trans (fun _ => clearNomenclature_logWritten)
    (fun _ _ _ _ => .beside rfl rfl rfl rfl (fun _ => rfl))
    (fun row _ _ _ => applyProduct_logWritten row)

theorem upsertLiveProduct_logWritten (item : LiveProduct) :
    LogWritten epoch now t (upsertLiveProduct t item now) := by
  have packs (packs : List LivePackage) (s : Tables) :
      LogWritten epoch now s (packs.foldl (applyLivePackage item) s) := by
    induction packs generalizing s with
    | nil => exact .refl s
    | cons pack packs ih =>
      refine LogWritten.trans ?_ (ih _)
      unfold applyLivePackage
      split
      · exact .refl s
      · split <;> exact .beside rfl rfl rfl rfl (fun _ => rfl)
  have unit : LogWritten epoch now t
      (t.upsertLiveUnit item.baseUnit ("default-unit-" ++ item.guid)) :=
    .beside rfl rfl rfl rfl (fun _ => rfl)
  have product := unit.trans (.setProduct item.guid (liveProductRow item now
    ((t.upsertLiveUnit item.baseUnit ("default-unit-" ++ item.guid)).products item.guid)))
  exact product.trans (packs item.packages _)

theorem upsertLiveProduct_log (item : LiveProduct) :
    (upsertLiveProduct t item now).catalogState = t.catalogState ∧
      (upsertLiveProduct t item now).changes = t.changes := by
  have packs (packs : List LivePackage) (s : Tables) :
      (packs.foldl (applyLivePackage item) s).catalogState = s.catalogState ∧
        (packs.foldl (applyLivePackage item) s).changes = s.changes := by
    induction packs generalizing s with
    | nil => exact ⟨rfl, rfl⟩
    | cons pack packs ih =>
      rw [List.foldl_cons, (ih _).1, (ih _).2, applyLivePackage]
      split
      · exact ⟨rfl, rfl⟩
      · split <;> exact ⟨rfl, rfl⟩
  exact packs item.packages _

end Writes

section Catalog
variable {epochs : Epochs} {c : Catalog} {earlier later revision : Nat}
  {change change' : CatalogChange}

theorem pruneChanges_early (early : c.now < c.lastChangePruneAt + changePruneIntervalMs) :
    pruneChanges c = c := if_pos early

theorem pruneChanges_due (due : ¬ c.now < c.lastChangePruneAt + changePruneIntervalMs) :
    (pruneChanges c).tables.changes revision =
      (c.tables.changes revision).filter (fun change => !expired c.now change) := by
  rw [pruneChanges, if_neg due]

theorem pruneChanges_shape : ∃ changes lastChangePruneAt, pruneChanges c =
    { c with
      tables := { c.tables with changes := changes }
      lastChangePruneAt := lastChangePruneAt } := by
  by_cases early : c.now < c.lastChangePruneAt + changePruneIntervalMs
  · exact ⟨c.tables.changes, c.lastChangePruneAt, pruneChanges_early early⟩
  · exact ⟨_, _, if_neg early⟩

theorem pruneChanges_stored (stored : (pruneChanges c).tables.changes revision = some change) :
    c.tables.changes revision = some change := by
  by_cases early : c.now < c.lastChangePruneAt + changePruneIntervalMs
  · rw [pruneChanges_early early] at stored
    exact stored
  · rw [pruneChanges_due early] at stored
    exact (Option.filter_eq_some_iff.mp stored).1

theorem pruneChanges_keeps (facts : LogFacts c.now c.tables)
    (first : (pruneChanges c).tables.changes earlier = some change)
    (stored : c.tables.changes later = some change') (before : earlier ≤ later) :
    (pruneChanges c).tables.changes later = some change' := by
  have older := facts.ordered (pruneChanges_stored first) stored before
  by_cases early : c.now < c.lastChangePruneAt + changePruneIntervalMs
  · rw [pruneChanges_early early]
    exact stored
  · rw [pruneChanges_due early] at first ⊢
    have fresh := (Option.filter_eq_some_iff.mp first).2
    refine Option.filter_eq_some_iff.mpr ⟨stored, ?_⟩
    rw [expired, Bool.not_eq_true', decide_eq_false_iff_not, Nat.not_lt] at fresh ⊢
    exact Nat.le_trans fresh (Nat.add_le_add_right older _)

theorem firstRevision_least (log : CatalogLog) (sequence current : Nat) :
    ((∃ change, log ((firstRevision log sequence).getD current) = some change) ∧
        ∀ revision change, log revision = some change → revision ≤ sequence →
          (firstRevision log sequence).getD current ≤ revision) ∨
      (firstRevision log sequence).getD current = current ∧
        ∀ revision ≤ sequence, log revision = none := by
  cases found : firstRevision log sequence with
  | some first =>
    obtain ⟨there, -, before⟩ := List.find?_range_eq_some.mp found
    refine .inl ⟨Option.isSome_iff_exists.mp there, fun revision change stored _ => ?_⟩
    refine Nat.le_of_not_lt fun below => ?_
    have absent := before revision below
    rw [stored] at absent
    cases absent
  | none =>
    refine .inr ⟨rfl, fun revision below => ?_⟩
    have absent := List.find?_range_eq_none.mp found revision (Nat.lt_succ_of_le below)
    rw [Bool.not_eq_true', Option.isSome_eq_false_iff, Option.isNone_iff_eq_none] at absent
    exact absent

structure CatalogFacts (epochs : Epochs) (c : Catalog) : Prop where
  log : LogFacts c.now c.tables
  index : IndexFacts c.tables
  epoch : ∃ k < c.drawn, c.tables.catalogState.epoch = epochs.uuid k

inductive WriteOutcome (epochs : Epochs) (c c' : Catalog) : Prop
  | grown (kept : LogKept c.tables c'.tables)
  | renewed (epoch : c'.tables.catalogState.epoch = epochs.uuid c.drawn)
      (drawn : c'.drawn = c.drawn + 1)
  | pruned (same : served c'.tables = served c.tables)
      (epoch : c'.tables.catalogState.epoch = c.tables.catalogState.epoch)
      (current : c'.tables.catalogState.currentRevision = c.tables.catalogState.currentRevision)
      (least : c.tables.catalogState.minAvailableRevision ≤
        c'.tables.catalogState.minAvailableRevision)
      (changes : ∀ {revision change}, c.tables.changes revision = some change →
        c'.tables.catalogState.minAvailableRevision < revision →
        c'.tables.changes revision = some change)

/-- A manifest leaves a part of the log that is closed upwards, and says where it begins. -/
theorem CatalogFacts.manifest (facts : CatalogFacts epochs c) {log : CatalogLog}
    (lastChangePruneAt : Instant)
    (stored : ∀ {revision change}, log revision = some change →
      c.tables.changes revision = some change)
    (keeps : ∀ {earlier later change change'}, log earlier = some change →
      c.tables.changes later = some change' → earlier ≤ later → log later = some change') :
    let c' : Catalog :=
      { c with
        tables := { c.tables with
          changes := log
          catalogState := { c.tables.catalogState with
            minAvailableRevision :=
              (firstRevision log c.tables.sequence).getD c.tables.catalogState.currentRevision } }
        lastChangePruneAt := lastChangePruneAt }
    CatalogFacts epochs c' ∧ WriteOutcome epochs c c' := by
  have least := firstRevision_least log c.tables.sequence c.tables.catalogState.currentRevision
  have bound {revision : Nat} {change : CatalogChange} (there : log revision = some change) :
      revision ≤ c.tables.sequence :=
    Nat.le_trans (facts.log.stored (stored there)).2.1 facts.log.current
  have current : (firstRevision log c.tables.sequence).getD c.tables.catalogState.currentRevision ≤
      c.tables.catalogState.currentRevision := by
    rcases least with ⟨⟨change, there⟩, -⟩ | ⟨same, -⟩
    · exact (facts.log.stored (stored there)).2.1
    · exact Nat.le_of_eq same
  have begins {revision : Nat} {change : CatalogChange} (there : log revision = some change) :
      (firstRevision log c.tables.sequence).getD c.tables.catalogState.currentRevision ≤
        revision := by
    rcases least with ⟨-, first⟩ | ⟨-, empty⟩
    · exact first revision change there (bound there)
    · have absent := empty revision (bound there)
      rw [there] at absent
      cases absent
  refine ⟨⟨⟨fun there => ⟨begins there, (facts.log.stored (stored there)).2⟩,
    fun there there' before => facts.log.ordered (stored there) (stored there') before,
    facts.log.current, current⟩, ⟨facts.index.listed, facts.index.ascending⟩, facts.epoch⟩,
    .pruned rfl rfl rfl ?_ (fun {revision change} there (above : _ < revision) => ?_)⟩
  · rcases least with ⟨⟨change, there⟩, -⟩ | ⟨same, -⟩
    · exact (facts.log.stored (stored there)).1
    · exact Nat.le_trans facts.log.least (Nat.le_of_eq same.symm)
  · rcases least with ⟨⟨first, begins⟩, -⟩ | ⟨same, -⟩
    · exact keeps begins there (Nat.le_of_lt above)
    · have below := (facts.log.stored there).2.1
      exact absurd below (Nat.not_le_of_lt (same ▸ above))

theorem getCatalogManifest_outcome (facts : CatalogFacts epochs c) :
    CatalogFacts epochs (getCatalogManifest c) ∧ WriteOutcome epochs c (getCatalogManifest c) := by
  obtain ⟨log, lastChangePruneAt, shape⟩ := @pruneChanges_shape c
  have stored {revision : Nat} {change : CatalogChange} :=
    @pruneChanges_stored c revision change
  have keeps {earlier later : Nat} {change change' : CatalogChange} :=
    @pruneChanges_keeps c earlier later change change' facts.log
  have whole := @CatalogFacts.manifest epochs c facts log lastChangePruneAt
  rw [getCatalogManifest]
  rw [shape] at stored keeps ⊢
  exact whole stored keeps

theorem getCatalogManifest_drawn : (getCatalogManifest c).drawn = c.drawn := by
  obtain ⟨_, _, shape⟩ := @pruneChanges_shape c
  rw [getCatalogManifest, shape]

theorem CatalogFacts.written {c' : Catalog} (facts : CatalogFacts epochs c)
    (wrote : LogWritten (epochs.uuid c.drawn) c.now c.tables c'.tables) (now : c'.now = c.now)
    (drawn : c.drawn ≤ c'.drawn)
    (draws : c'.tables.catalogState.epoch = epochs.uuid c.drawn → c'.drawn = c.drawn + 1) :
    CatalogFacts epochs c' ∧ WriteOutcome epochs c c' := by
  have log : LogFacts c'.now c'.tables := by
    rw [now]
    exact wrote.log facts.log
  rcases wrote.kept with kept | renewed
  · obtain ⟨k, below, same⟩ := facts.epoch
    exact ⟨⟨log, wrote.index facts.index, k, Nat.lt_of_lt_of_le below drawn, kept.epoch.trans same⟩,
      .grown kept⟩
  · have once := draws renewed
    exact ⟨⟨log, wrote.index facts.index, c.drawn, by omega, renewed⟩, .renewed renewed once⟩

theorem writeCatalog_outcome (facts : CatalogFacts epochs c) (w : CatalogWrite) :
    CatalogFacts epochs (writeCatalog epochs c w) ∧
      WriteOutcome epochs c (writeCatalog epochs c w) := by
  cases w with
  | promote db session staged =>
    exact facts.written (complete_related (promotion_logWritten staged)) rfl (Nat.le_succ _) (fun _ => rfl)
  | live item =>
    refine facts.written (upsertLiveProduct_logWritten item) rfl (Nat.le_refl _) (fun renewed => ?_)
    obtain ⟨k, below, drawn⟩ := facts.epoch
    have same : epochs.uuid k = epochs.uuid c.drawn := by
      rw [← drawn, ← renewed]
      exact congrArg CatalogState.epoch (upsertLiveProduct_log item).1.symm
    exact absurd (epochs.distinct same) (Nat.ne_of_lt below)
  | manifest => exact getCatalogManifest_outcome facts
  | wait time =>
    refine ⟨⟨⟨fun stored => ?_, facts.log.ordered, facts.log.current, facts.log.least⟩, facts.index,
      facts.epoch⟩, .grown (.refl _)⟩
    obtain ⟨above, below, changed⟩ := facts.log.stored stored
    exact ⟨above, below, Nat.le_trans changed (Nat.le_add_right _ _)⟩

end Catalog

end LeaderProduct
