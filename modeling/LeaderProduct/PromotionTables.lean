import LeaderProduct.SessionReport

/-! What holds between the tables before and after a promotion: every relation that is
reflexive and transitive and that each single write keeps to. -/
namespace LeaderProduct

structure WriteRule (epoch : String) (syncedAt : Instant) (staged : StagedSession)
    (R : Tables → Tables → Prop) : Prop where
  refl : ∀ t, R t t
  trans : ∀ {s t u}, R s t → R t u → R s u
  clear : ∀ t entity, R t (clearEntityInTx t epoch entity)
  group : ∀ row ∈ staged.nomenclature.rows, row.payload.isGroup = true →
    ∀ t, R t (applyGroup row t).2
  product : ∀ row ∈ staged.nomenclature.rows, row.payload.isGroup = false →
    ∀ t, R t (applyProduct syncedAt row t).2
  organization : ∀ row t, R t (applyOrganization row t).2
  warehouse : ∀ row t, R t (applyWarehouse row t).2
  counterparty : ∀ row t, R t (applyCounterparty row t).2
  contract : ∀ row t, R t (applyContract row t).2
  agreement : ∀ row t, R t (applyAgreement row t).2
  productPrice : ∀ row t, R t (applyProductPrice row t).2
  specialPrice : ∀ row t, R t (applySpecialPrice row t).2
  stock : ∀ row t, R t (applyStock row t).2
  defaultLinks : ∀ row t, R t (applyDefaultLinks row t).2

section References
variable {R : Tables → Tables → Prop} {t : Tables}

theorem requireRef_related {guid : Option String} {found : String → Bool} {kind : String}
    {next : RowResult × Tables} (same : R t t) (onward : R t next.2) :
    R t (requireRef guid found kind t next).2 := by
  unfold requireRef
  split
  · exact onward
  · split
    · exact onward
    · exact same

theorem requireRef_related' {s : Tables} {guid : Option String} {found : String → Bool}
    {kind : String} {next : RowResult × Tables} (before : R s t) (onward : R s next.2) :
    R s (requireRef guid found kind t next).2 := by
  unfold requireRef
  split
  · exact onward
  · split
    · exact onward
    · exact before

end References

section Promotion
variable {db : Database} {syncedAt : Instant} {R : Tables → Tables → Prop}
  {staged : StagedSession} {session : SyncSession} {tables : Tables} {tx tx' : PromoteTx}
  {summary : ApplySummary} {entities : List BatchEntityCode}

theorem call_tables (answered : tx.call = some tx') : tx'.tables = tx.tables := by
  unfold PromoteTx.call at answered
  split at answered <;> cases answered <;> rfl

theorem runRow_related (rule : WriteRule db.epoch syncedAt staged R) {pass : PromotePass}
    {work : Tables → RowResult × Tables} (keeps : ∀ t, R t (work t).2) {id : String} :
    R tx.tables (runRow db pass work id summary tx).2.tables := by
  rw [runRow]
  cases answered : tx.call with
  | none => exact rule.refl _
  | some called =>
    have same := call_tables answered
    have kept := keeps called.tables
    rw [same] at kept
    simp only [same]
    cases done : work tx.tables with
    | mk result tables =>
      rw [done] at kept
      cases result with
      | resolved => exact kept
      | blocked message => exact kept
      | invalid => exact kept
      | refused => exact rule.refl _

theorem runRows_related (rule : WriteRule db.epoch syncedAt staged R) {ι : Type} {pass : PromotePass}
    {work : StagedRow ι → Tables → RowResult × Tables} (rows : List (StagedRow ι))
    (keeps : ∀ row ∈ rows, ∀ t, R t (work row t).2) :
    R tx.tables (runRows db pass work rows summary tx).2.tables := by
  induction rows generalizing summary tx with
  | nil => exact rule.refl _
  | cons row rows ih =>
    rw [List.forall_mem_cons] at keeps
    exact rule.trans (runRow_related rule keeps.1) (ih keeps.2)

theorem applyStaged_related (rule : WriteRule db.epoch syncedAt staged R) {ι : Type} {pass : PromotePass}
    {work : StagedRow ι → Tables → RowResult × Tables} (keeps : ∀ row t, R t (work row t).2)
    {rows : Staged ι} (run : applyStaged db pass work rows tx = some (summary, tx')) :
    R tx.tables tx'.tables := by
  unfold applyStaged at run
  split at run
  · cases run
  · rename_i begun answered
    have kept := @runRows_related db syncedAt R staged begun emptyApplySummary rule ι pass work
      rows.rows (fun row _ => keeps row)
    rw [Option.some.injEq] at run
    rw [run, call_tables answered] at kept
    exact kept

structure GroupsRelated (staged : StagedSession) (R : Tables → Tables → Prop) (t : Tables)
    (rows : List (StagedRow NomenclatureItem)) (s : GroupRound) : Prop where
  tables : R t s.tx.tables
  staged : ∀ row ∈ rows ++ s.pending,
    row ∈ staged.nomenclature.rows ∧ row.payload.isGroup = true

section
variable (rule : WriteRule db.epoch syncedAt staged R)
include rule

theorem GroupRound.visit_related {t : Tables}
    {s s' : GroupRound} {row : StagedRow NomenclatureItem} {rows : List (StagedRow NomenclatureItem)}
    (before : GroupsRelated staged R t (row :: rows) s) (run : s.visit db row = some s') :
    GroupsRelated staged R t rows s' := by
  have here := before.staged row List.mem_cons_self
  have rest : ∀ other ∈ rows ++ s.pending, other ∈ staged.nomenclature.rows ∧
      other.payload.isGroup = true := fun other member =>
    before.staged other (List.mem_cons_of_mem _ member)
  have applied {tx : PromoteTx} : R tx.tables
      (runRow db (.base .nomenclature) (applyGroup row) row.id s.summary tx).2.tables :=
    runRow_related rule (rule.group row here.1 here.2)
  unfold GroupRound.visit at run
  split at run
  · cases run
    exact ⟨rule.trans before.tables applied, rest⟩
  · split at run
    · cases run
    · rename_i called answered
      have same := call_tables answered
      have kept : R t called.tables := by
        rw [same]
        exact before.tables
      split at run
      · cases run
        exact ⟨rule.trans kept applied, rest⟩
      · cases run
        exact ⟨kept, fun other member => before.staged other (List.perm_middle.mem_iff.mp member)⟩

theorem resolveGroups_related {fuel : Nat}
    {t : Tables} {s s' : GroupRound} (before : GroupsRelated staged R t [] s)
    (run : resolveGroups db fuel s = some s') : GroupsRelated staged R t [] s' := by
  refine resolveGroups_rule (P := GroupsRelated staged R t []) (fun first next kept round => ?_)
    before run
  refine GroupRound.next_rule (P := GroupsRelated staged R t)
    (fun row rows s s' kept visited => GroupRound.visit_related rule kept visited) ?_ round
  refine ⟨kept.tables, fun row member => kept.staged row ?_⟩
  rw [List.append_nil, List.mem_reverse] at member
  exact member

theorem applyStagedNomenclature_related
    (run : applyStagedNomenclature db syncedAt staged tx = some (summary, tx')) :
    R tx.tables tx'.tables := by
  unfold applyStagedNomenclature at run
  split at run
  · cases run
  · rename_i begun answered
    obtain ⟨s, rounds, ran⟩ := Option.map_eq_some_iff.mp run
    have start : GroupsRelated staged R tx.tables []
        ⟨staged.nomenclature.rows.filter (fun row => row.payload.isGroup), [], emptyApplySummary,
          begun, false⟩ := by
      refine ⟨?_, fun row member => List.mem_filter.mp member⟩
      rw [call_tables answered]
      exact rule.refl _
    have groups := (resolveGroups_related rule start rounds).tables
    have products := @runRows_related db syncedAt R staged s.tx (blockPending s) rule _
      (.base .nomenclature) (applyProduct syncedAt)
      (staged.nomenclature.rows.filter (fun row => !row.payload.isGroup))
      (fun row member => by
        obtain ⟨there, single⟩ := List.mem_filter.mp member
        exact rule.product row there (by simpa using single))
    rw [ran] at products
    exact rule.trans groups products

theorem applyStagedEntity_related {entity : BatchEntityCode}
    (run : applyStagedEntity db syncedAt staged tx entity = some (summary, tx')) :
    R tx.tables tx'.tables := by
  cases entity with
  | nomenclature => exact applyStagedNomenclature_related rule run
  | organizations => exact applyStaged_related rule rule.organization run
  | warehouses => exact applyStaged_related rule rule.warehouse run
  | counterparties => exact applyStaged_related rule rule.counterparty run
  | contracts => exact applyStaged_related rule rule.contract run
  | agreements => exact applyStaged_related rule rule.agreement run
  | productPrices => exact applyStaged_related rule rule.productPrice run
  | specialPrices => exact applyStaged_related rule rule.specialPrice run
  | stock => exact applyStaged_related rule rule.stock run

theorem applyEntities_related {summaries : Summaries}
    (run : (applyEntities db syncedAt staged entities summaries tx).tx = some tx') :
    R tx.tables tx'.tables := by
  induction entities generalizing summaries tx with
  | nil => cases run; exact rule.refl _
  | cons entity rest ih =>
    unfold applyEntities at run
    cases applied : applyStagedEntity db syncedAt staged tx entity with
    | none =>
      rw [applied] at run
      cases run
    | some result =>
      rw [applied] at run
      exact rule.trans (applyStagedEntity_related rule applied) (ih run)

theorem clearEntities_related
    (run : clearEntities db entities tx = some tx') : R tx.tables tx'.tables := by
  unfold clearEntities at run
  induction entities generalizing tx with
  | nil => cases run; exact rule.refl _
  | cons entity rest ih =>
    rw [List.foldlM_cons] at run
    obtain ⟨next, cleared, run⟩ := Option.bind_eq_some_iff.mp run
    have later := ih run
    cases answered : tx.call with
    | none =>
      rw [answered] at cleared
      cases cleared
    | some called =>
      have same := call_tables answered
      rw [answered] at cleared
      cases cleared
      rw [← same]
      exact rule.trans (rule.clear called.tables entity) later

theorem openPromotion_related
    (run : openPromotion db session tables = some tx) : R tables tx.tables := by
  unfold openPromotion at run
  split at run
  · exact clearEntities_related rule run
  · cases run
    exact rule.refl _

theorem promote_related (run : (promote db syncedAt session staged tables).1.tx = some tx') :
    R tables tx'.tables := by
  unfold promote at run
  cases begun : openPromotion db session tables with
  | none =>
    rw [begun] at run
    cases run
  | some tx =>
    simp only [begun] at run
    have whole := run
    rw [checkReplaced_some run] at whole
    unfold linkCounterparties at whole
    have opened := openPromotion_related rule begun
    cases reached : (applyEntities db syncedAt staged session.entities (fun _ => none) tx).tx with
    | none =>
      simp only [reached] at whole
      cases whole
    | some applied =>
      have entities := rule.trans opened (applyEntities_related rule reached)
      simp only [reached] at whole
      split at whole
      · split at whole
        · cases whole
        · rename_i linked
          cases whole
          exact rule.trans entities (applyStaged_related rule rule.defaultLinks linked)
      · rw [reached] at whole
        cases whole
        exact entities

theorem complete_related :
    R tables (completeOnecSyncSession db syncedAt session staged tables).tables := by
  unfold completeOnecSyncSession
  cases ended : (runPromotion db syncedAt session staged tables).committed with
  | none =>
    simp only [ended]
    exact rule.refl _
  | some committed =>
    simp only [ended]
    unfold runPromotion at ended
    split at ended
    · unfold endPromotion at ended
      split at ended
      · cases ended
      · rename_i last reached
        split at ended
        · rename_i answered
          cases ended
          change R tables committed.tables
          rw [call_tables answered]
          exact promote_related rule reached
        · cases ended
    · cases ended

end

end Promotion

end LeaderProduct
