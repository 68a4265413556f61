import LeaderProduct.StagedPromotion

/-! What the passes of a promotion note about their rows: each staged row once, as resolved or
as an issue, and as resolved exactly when its writes are all in the tables. -/
namespace LeaderProduct

def issueIds (summary : ApplySummary) : List String :=
  (summary.blocked ++ summary.errors).map (·.stageId)

def Staged.ids {ι : Type} (staged : Staged ι) : List String := staged.rows.map (·.id)

@[simp] theorem issueIds_resolved (summary : ApplySummary) (ids : List String) :
    issueIds { summary with resolvedStageIds := ids } = issueIds summary := rfl

variable {id : String} {summary : ApplySummary}

theorem mem_issueIds_blocked {issue : StageIssue} :
    id ∈ issueIds { summary with blocked := summary.blocked ++ [issue] } ↔
      id ∈ issueIds summary ∨ id = issue.stageId := by
  simp only [issueIds, List.map_append, List.mem_append, List.map_cons, List.map_nil,
    List.mem_singleton]
  exact or_right_comm

theorem mem_issueIds_errors {issue : StageIssue} :
    id ∈ issueIds { summary with errors := summary.errors ++ [issue] } ↔
      id ∈ issueIds summary ∨ id = issue.stageId := by
  simp only [issueIds, List.map_append, List.mem_append, List.map_cons, List.map_nil,
    List.mem_singleton]
  exact (or_assoc).symm

structure PassNoted (pass : PromotePass) (before : PromoteTx) (all rest : List String)
    (summary : ApplySummary) (tx : PromoteTx) : Prop where
  own : ∀ id, (pass, id) ∈ tx.applied ↔ id ∈ summary.resolvedStageIds
  others : ∀ other, other ≠ pass → ∀ id, (other, id) ∈ tx.applied ↔ (other, id) ∈ before.applied
  single : ∀ id ∈ summary.resolvedStageIds, id ∉ issueIds summary
  seen : ∀ id, (id ∈ summary.resolvedStageIds ∨ id ∈ issueIds summary) ↔ id ∈ all ∧ id ∉ rest
  aborted : tx.aborted = true → before.aborted = true ∨ summary.errors ≠ []

section Pass
variable {db : Database} {pass : PromotePass} {before tx tx' : PromoteTx}
  {all rest : List String} {summary summary' : ApplySummary} {id : String}

theorem call_applied (answered : tx.call = some tx') : tx'.applied = tx.applied := by
  unfold PromoteTx.call at answered
  split at answered <;> cases answered <;> rfl

theorem call_aborted (answered : tx.call = some tx') : tx'.aborted = tx.aborted := by
  unfold PromoteTx.call at answered
  split at answered <;> cases answered <;> rfl

theorem PassNoted.start (fresh : ∀ id, (pass, id) ∉ tx.applied)
    (applied : tx'.applied = tx.applied) (aborted : tx'.aborted = tx.aborted) :
    PassNoted pass tx all all emptyApplySummary tx' where
  own id := by
    rw [applied]
    exact iff_of_false (fresh id) List.not_mem_nil
  others other _ id := by rw [applied]
  single id resolved := absurd resolved List.not_mem_nil
  seen id := by simp [emptyApplySummary, issueIds]
  aborted lost := .inl (aborted ▸ lost)

theorem PassNoted.move (noted : PassNoted pass before all rest summary tx)
    (applied : tx'.applied = tx.applied) (aborted : tx'.aborted = tx.aborted) :
    PassNoted pass before all rest summary tx' where
  own id := by rw [applied]; exact noted.own id
  others other foreign id := by rw [applied]; exact noted.others other foreign id
  single := noted.single
  seen := noted.seen
  aborted lost := noted.aborted (aborted ▸ lost)

theorem PassNoted.reorder {rest' : List String} (noted : PassNoted pass before all rest summary tx)
    (same : rest.Perm rest') : PassNoted pass before all rest' summary tx :=
  { noted with seen := fun id => by rw [noted.seen, same.mem_iff] }

section
variable (noted : PassNoted pass before all (id :: rest) summary tx)
include noted

theorem PassNoted.new :
    id ∉ summary.resolvedStageIds ∧ id ∉ issueIds summary := by
  have unseen : ¬(id ∈ summary.resolvedStageIds ∨ id ∈ issueIds summary) := fun seen =>
    ((noted.seen id).mp seen).2 List.mem_cons_self
  exact not_or.mp unseen

theorem PassNoted.resolve
    (member : id ∈ all) (unique : id ∉ rest) (applied : tx'.applied = tx.applied ++ [(pass, id)])
    (aborted : tx'.aborted = tx.aborted) :
    PassNoted pass before all rest
      { summary with resolvedStageIds := summary.resolvedStageIds ++ [id] } tx' where
  own other := by
    rw [applied, List.mem_append, List.mem_append, noted.own]
    simp
  others other foreign id' := by
    rw [applied, List.mem_append, noted.others other foreign]
    simp [foreign]
  single other resolved := by
    rcases List.mem_append.mp resolved with earlier | here
    · exact noted.single other earlier
    · rw [List.mem_singleton.mp here]
      exact noted.new.2
  seen other := by
    rw [issueIds_resolved, List.mem_append, List.mem_singleton, or_right_comm, noted.seen]
    by_cases same : other = id
    · subst same
      simp [member, unique]
    · simp [same]
  aborted lost := noted.aborted (aborted ▸ lost)

theorem PassNoted.issue (member : id ∈ all) (unique : id ∉ rest)
    (resolved : summary'.resolvedStageIds = summary.resolvedStageIds)
    (issues : ∀ other, other ∈ issueIds summary' ↔ other ∈ issueIds summary ∨ other = id)
    (applied : tx'.applied = tx.applied)
    (aborted : tx'.aborted = true → tx.aborted = true ∨ summary'.errors ≠ [])
    (errors : summary.errors ≠ [] → summary'.errors ≠ []) :
    PassNoted pass before all rest summary' tx' where
  own other := by rw [applied, resolved]; exact noted.own other
  others other foreign id' := by rw [applied]; exact noted.others other foreign id'
  single other kept := by
    rw [resolved] at kept
    rw [issues, not_or]
    refine ⟨noted.single other kept, fun same => ?_⟩
    subst same
    exact noted.new.1 kept
  seen other := by
    rw [issues, resolved, ← or_assoc, noted.seen]
    by_cases same : other = id
    · subst same
      simp [member, unique]
    · simp [same]
  aborted lost := by
    rcases aborted lost with earlier | here
    · exact (noted.aborted earlier).imp_right errors
    · exact .inr here

end

theorem runRow_noted (db : Database) (work : Tables → RowResult × Tables)
    (noted : PassNoted pass before all (id :: rest) summary tx) (member : id ∈ all)
    (unique : id ∉ rest) :
    PassNoted pass before all rest (runRow db pass work id summary tx).1
      (runRow db pass work id summary tx).2 := by
  rw [runRow]
  cases answered : tx.call with
  | none =>
    exact noted.issue member unique rfl (fun _ => mem_issueIds_errors) rfl
      (fun _ => .inr (by simp)) (fun _ => by simp)
  | some tx' =>
    have moved := noted.move (call_applied answered) (call_aborted answered)
    cases done : work tx'.tables with
    | mk result tables =>
      simp only [done]
      cases result with
      | resolved => exact moved.resolve member unique rfl rfl
      | blocked message =>
        exact moved.issue member unique rfl (fun _ => mem_issueIds_blocked) rfl .inl
          (fun kept => kept)
      | invalid =>
        exact moved.issue member unique rfl (fun _ => mem_issueIds_errors) rfl .inl
          (fun _ => by simp [ApplySummary.record])
      | refused =>
        exact moved.issue member unique rfl (fun _ => mem_issueIds_errors) rfl
          (fun _ => .inr (by simp [ApplySummary.record]))
          (fun _ => by simp [ApplySummary.record])

theorem runRows_noted {ι : Type} (db : Database) (work : StagedRow ι → Tables → RowResult × Tables)
    (rows : List (StagedRow ι)) {tx : PromoteTx}
    (noted : PassNoted pass before all (rows.map (·.id) ++ rest) summary tx)
    (members : ∀ row ∈ rows, row.id ∈ all) (unique : (rows.map (·.id) ++ rest).Nodup) :
    PassNoted pass before all rest (runRows db pass work rows summary tx).1
      (runRows db pass work rows summary tx).2 := by
  induction rows generalizing summary tx with
  | nil => exact noted
  | cons row rows ih =>
    rw [List.map_cons, List.cons_append, List.nodup_cons] at unique
    have here := runRow_noted db (work row) noted
      (members row List.mem_cons_self) unique.1
    exact ih here (fun later member => members later (List.mem_cons_of_mem row member)) unique.2

theorem applyStaged_noted {ι : Type} {work : StagedRow ι → Tables → RowResult × Tables}
    {staged : Staged ι} (run : applyStaged db pass work staged tx = some (summary, tx'))
    (fresh : ∀ id, (pass, id) ∉ tx.applied) :
    PassNoted pass tx staged.ids [] summary tx' := by
  unfold applyStaged at run
  split at run
  · cases run
  · rename_i begun answered
    have start : PassNoted pass tx staged.ids (staged.ids ++ []) emptyApplySummary begun := by
      rw [List.append_nil]
      exact PassNoted.start fresh (call_applied answered) (call_aborted answered)
    have ran := runRows_noted db work staged.rows start
      (fun row member => List.mem_map_of_mem member)
      (by rw [List.append_nil]; exact staged.distinct)
    rw [Option.some.injEq] at run
    rw [run] at ran
    exact ran

end Pass

section Groups
variable {db : Database} {before : PromoteTx} {all later : List String}

def ids (rows : List (StagedRow NomenclatureItem)) : List String := rows.map (·.id)

structure GroupsNoted (before : PromoteTx) (all later : List String)
    (round : List (StagedRow NomenclatureItem)) (s : GroupRound) : Prop where
  noted : PassNoted (.base .nomenclature) before all (ids round ++ (ids s.pending ++ later))
    s.summary s.tx
  unique : (ids round ++ (ids s.pending ++ later)).Nodup
  members : ∀ id ∈ ids round ++ (ids s.pending ++ later), id ∈ all

variable {s s' : GroupRound}

theorem GroupRound.resolve_noted {row : StagedRow NomenclatureItem}
    {round : List (StagedRow NomenclatureItem)}
    (now : GroupsNoted before all later (row :: round) s) :
    GroupsNoted before all later round (s.resolve db row) := by
  have unique := now.unique
  rw [ids, List.map_cons, List.cons_append, List.nodup_cons] at unique
  have ran := runRow_noted db (applyGroup row) now.noted
    (now.members row.id List.mem_cons_self) unique.1
  exact ⟨ran, unique.2, fun id member => now.members id (List.mem_cons_of_mem _ member)⟩

theorem GroupRound.visit_noted {row : StagedRow NomenclatureItem}
    {round : List (StagedRow NomenclatureItem)}
    (now : GroupsNoted before all later (row :: round) s) (run : s.visit db row = some s') :
    GroupsNoted before all later round s' := by
  unfold GroupRound.visit at run
  split at run
  · cases run
    exact resolve_noted now
  · split at run
    · cases run
    · rename_i tx answered
      have moved := now.noted.move (call_applied answered) (call_aborted answered)
      split at run
      · cases run
        exact resolve_noted ⟨moved, now.unique, now.members⟩
      · cases run
        have same : (row.id :: (ids round ++ (ids s.pending ++ later))).Perm
            (ids round ++ (row.id :: ids s.pending ++ later)) := List.perm_middle.symm
        exact ⟨moved.reorder same, same.nodup_iff.mp now.unique,
          fun id member => now.members id (same.mem_iff.mpr member)⟩

theorem GroupRound.next_noted (now : GroupsNoted before all later [] s)
    (run : s.next db = some s') : GroupsNoted before all later [] s' := by
  have turned : (ids s.pending.reverse ++ later).Perm (ids s.pending ++ later) := by
    rw [ids, List.map_reverse]
    exact (List.reverse_perm _).append_right _
  refine GroupRound.next_rule (P := GroupsNoted before all later)
    (fun row rows s s' now visited => GroupRound.visit_noted now visited) ⟨?_, ?_, ?_⟩ run
  · exact now.noted.reorder turned.symm
  · exact turned.nodup_iff.mpr now.unique
  · exact fun id member => now.members id (turned.mem_iff.mp member)

theorem resolveGroups_noted {fuel : Nat} (now : GroupsNoted before all later [] s)
    (run : resolveGroups db fuel s = some s') :
    GroupsNoted before all later [] s' :=
  resolveGroups_rule (fun _ _ now round => GroupRound.next_noted now round) now run

theorem blockPending_noted (now : GroupsNoted before all later [] s) :
    PassNoted (.base .nomenclature) before all later (blockPending s) s.tx := by
  have general (pending : List (StagedRow NomenclatureItem)) (summary : ApplySummary)
      (noted : PassNoted (.base .nomenclature) before all (ids pending ++ later) summary s.tx)
      (unique : (ids pending ++ later).Nodup) (members : ∀ id ∈ ids pending ++ later, id ∈ all) :
      PassNoted (.base .nomenclature) before all later
        { summary with blocked := summary.blocked ++ pending.map pendingIssue } s.tx := by
    induction pending generalizing summary with
    | nil => simpa [ids] using noted
    | cons row pending ih =>
      rw [ids, List.map_cons, List.cons_append] at noted unique members
      rw [List.nodup_cons] at unique
      have here : PassNoted (.base .nomenclature) before all (ids pending ++ later)
          { summary with blocked := summary.blocked ++ [pendingIssue row] } s.tx :=
        noted.issue (members row.id List.mem_cons_self) unique.1 rfl
          (fun _ => mem_issueIds_blocked) rfl .inl (fun kept => kept)
      have rest := ih _ here unique.2 (fun id member => members id (List.mem_cons_of_mem _ member))
      simpa using rest
  exact general s.pending s.summary now.noted now.unique now.members

end Groups

section Entities
variable {db : Database} {syncedAt : Instant} {staged : StagedSession} {session : SyncSession}
  {tables : Tables} {tx tx' : PromoteTx} {summary : ApplySummary} {summaries : Summaries}
  {entities done : List BatchEntityCode}

def StagedSession.ids (staged : StagedSession) : BatchEntityCode → List String
  | .nomenclature => staged.nomenclature.ids
  | .organizations => staged.organizations.ids
  | .warehouses => staged.warehouses.ids
  | .counterparties => staged.counterparties.ids
  | .contracts => staged.contracts.ids
  | .agreements => staged.agreements.ids
  | .productPrices => staged.productPrices.ids
  | .specialPrices => staged.specialPrices.ids
  | .stock => staged.stock.ids

theorem applyStagedNomenclature_noted
    (run : applyStagedNomenclature db syncedAt staged tx = some (summary, tx'))
    (fresh : ∀ id, (PromotePass.base .nomenclature, id) ∉ tx.applied) :
    PassNoted (.base .nomenclature) tx staged.nomenclature.ids [] summary tx' := by
  unfold applyStagedNomenclature at run
  split at run
  · cases run
  · rename_i begun answered
    obtain ⟨s, rounds, ran⟩ := Option.map_eq_some_iff.mp run
    have split : (ids (staged.nomenclature.rows.filter (fun row => row.payload.isGroup)) ++
        ids (staged.nomenclature.rows.filter (fun row => !row.payload.isGroup))).Perm
        staged.nomenclature.ids := by
      rw [ids, ids, ← List.map_append]
      exact (List.filter_append_perm _ _).map _
    have start := @PassNoted.start _ tx begun staged.nomenclature.ids fresh (call_applied answered)
      (call_aborted answered)
    have groups := blockPending_noted (resolveGroups_noted
      ⟨start.reorder split.symm, split.symm.nodup_iff.mp staged.nomenclature.distinct,
        fun id member => split.mem_iff.mp member⟩ rounds)
    have products := runRows_noted db (applyProduct syncedAt)
      (staged.nomenclature.rows.filter (fun row => !row.payload.isGroup))
      (by rw [List.append_nil]; exact groups)
      (fun row member => List.mem_map_of_mem (List.mem_of_mem_filter member))
      (by
        rw [List.append_nil]
        exact (split.symm.nodup_iff.mp staged.nomenclature.distinct).of_append_right)
    rw [ran] at products
    exact products

variable {entity : BatchEntityCode} {base extra : ApplySummary}

theorem applyStagedEntity_noted
    (run : applyStagedEntity db syncedAt staged tx entity = some (summary, tx'))
    (fresh : ∀ id, (PromotePass.base entity, id) ∉ tx.applied) :
    PassNoted (.base entity) tx (staged.ids entity) [] summary tx' := by
  cases entity with
  | nomenclature => exact applyStagedNomenclature_noted run fresh
  | organizations => exact applyStaged_noted run fresh
  | warehouses => exact applyStaged_noted run fresh
  | counterparties => exact applyStaged_noted run fresh
  | contracts => exact applyStaged_noted run fresh
  | agreements => exact applyStaged_noted run fresh
  | productPrices => exact applyStaged_noted run fresh
  | specialPrices => exact applyStaged_noted run fresh
  | stock => exact applyStaged_noted run fresh

structure EntitiesNoted (staged : StagedSession) (done : List BatchEntityCode)
    (summaries : Summaries) (tx : PromoteTx) : Prop where
  own : ∀ entity id, (PromotePass.base entity, id) ∈ tx.applied ↔
    id ∈ (summaryOf summaries entity).resolvedStageIds
  links : ∀ id, (PromotePass.defaultLinks, id) ∉ tx.applied
  single : ∀ entity, ∀ id ∈ (summaryOf summaries entity).resolvedStageIds,
    id ∉ issueIds (summaryOf summaries entity)
  seen : ∀ entity ∈ done, ∀ id, (id ∈ (summaryOf summaries entity).resolvedStageIds ∨
    id ∈ issueIds (summaryOf summaries entity)) ↔ id ∈ staged.ids entity
  untouched : ∀ entity, entity ∉ done → summaries entity = none
  aborted : tx.aborted = true → ∃ entity ∈ done, (summaryOf summaries entity).errors ≠ []

theorem summaryOf_update (entity other : BatchEntityCode) :
    summaryOf (Function.update summaries entity (some summary)) other =
      if other = entity then summary else summaryOf summaries other := by
  unfold summaryOf
  by_cases same : other = entity
  · rw [same, Function.update_self, if_pos rfl]
    rfl
  · rw [Function.update_of_ne same, if_neg same]

theorem EntitiesNoted.step (now : EntitiesNoted staged done summaries tx) (new : entity ∉ done)
    (noted : PassNoted (.base entity) tx (staged.ids entity) [] summary tx') :
    EntitiesNoted staged (done ++ [entity]) (Function.update summaries entity (some summary)) tx' := by
  refine ⟨fun other id => ?_, fun id => ?_, fun other => ?_, fun other member => ?_,
    fun other absent => ?_, fun lost => ?_⟩
  · rw [summaryOf_update]
    by_cases same : other = entity
    · rw [same, if_pos rfl, noted.own]
    · rw [if_neg same, noted.others _ (by simp [same]), now.own]
  · rw [noted.others _ (by simp)]
    exact now.links id
  · rw [summaryOf_update]
    split
    · exact noted.single
    · exact now.single other
  · rw [summaryOf_update]
    by_cases same : other = entity
    · rw [same, if_pos rfl]
      intro id
      rw [noted.seen]
      simp
    · rw [if_neg same]
      exact now.seen other ((List.mem_append.mp member).resolve_right (by simp [same]))
  · rw [List.mem_append, List.mem_singleton, not_or] at absent
    rw [Function.update_of_ne absent.2]
    exact now.untouched other absent.1
  · rcases noted.aborted lost with earlier | here
    · obtain ⟨other, member, failed⟩ := now.aborted earlier
      refine ⟨other, List.mem_append_left _ member, ?_⟩
      rw [summaryOf_update, if_neg (fun same : other = entity => new (same ▸ member))]
      exact failed
    · exact ⟨entity, by simp, by rw [summaryOf_update, if_pos rfl]; exact here⟩

theorem applyEntities_noted (now : EntitiesNoted staged done summaries tx)
    (unique : (done ++ entities).Nodup)
    (run : (applyEntities db syncedAt staged entities summaries tx).tx = some tx') :
    EntitiesNoted staged (done ++ entities)
      (applyEntities db syncedAt staged entities summaries tx).summaries tx' := by
  induction entities generalizing done summaries tx with
  | nil =>
    rw [List.append_nil]
    cases run
    exact now
  | cons entity rest ih =>
    have new : entity ∉ done := fun member =>
      List.disjoint_of_nodup_append unique member List.mem_cons_self
    unfold applyEntities at run ⊢
    cases applied : applyStagedEntity db syncedAt staged tx entity with
    | none =>
      rw [applied] at run
      cases run
    | some result =>
      obtain ⟨summary, next⟩ := result
      rw [applied] at run
      have noted := applyStagedEntity_noted applied (fun id member => by
        have resolved := (now.own entity id).mp member
        rw [summaryOf, now.untouched entity new] at resolved
        cases resolved)
      have rest_noted := ih (now.step new noted) (by simpa using unique) run
      rw [List.append_assoc] at rest_noted
      exact rest_noted

/-- Everything that a staged row asks for is applied: for a counterparty its base and, in the
second pass, its default links. -/
def rowApplied (applied : List (PromotePass × String)) (entity : BatchEntityCode) (id : String) :
    Prop :=
  (PromotePass.base entity, id) ∈ applied ∧
    (entity = .counterparties → (PromotePass.defaultLinks, id) ∈ applied)

structure PromotionNoted (staged : StagedSession) (entities : List BatchEntityCode)
    (summaries : Summaries) (tx : PromoteTx) : Prop where
  own : ∀ entity id, rowApplied tx.applied entity id ↔
    id ∈ (summaryOf summaries entity).resolvedStageIds ∧
      id ∉ issueIds (summaryOf summaries entity)
  seen : ∀ entity ∈ entities, ∀ id, (id ∈ (summaryOf summaries entity).resolvedStageIds ∨
    id ∈ issueIds (summaryOf summaries entity)) ↔ id ∈ staged.ids entity
  untouched : ∀ entity, entity ∉ entities → summaries entity = none
  aborted : tx.aborted = true → ∃ entity ∈ entities, (summaryOf summaries entity).errors ≠ []

theorem mem_merge_resolved :
    id ∈ (mergeApplySummaries base extra).resolvedStageIds ↔
      (id ∈ base.resolvedStageIds ∨ id ∈ extra.resolvedStageIds) ∧ id ∉ issueIds extra := by
  simp only [mergeApplySummaries, List.mem_filter, List.mem_eraseDups, List.mem_append,
    Bool.and_eq_true, Bool.not_eq_true', List.any_eq_false, beq_iff_eq, issueIds, List.mem_map,
    not_exists, not_and, or_imp, forall_and]

theorem mem_merge_issues :
    id ∈ issueIds (mergeApplySummaries base extra) ↔ id ∈ issueIds base ∨ id ∈ issueIds extra := by
  simp only [mergeApplySummaries, issueIds, List.map_append, List.mem_append]
  exact or_or_or_comm

theorem EntitiesNoted.other (now : EntitiesNoted staged entities summaries tx)
    (foreign : entity ≠ .counterparties) :
    rowApplied tx.applied entity id ↔ id ∈ (summaryOf summaries entity).resolvedStageIds ∧
      id ∉ issueIds (summaryOf summaries entity) := by
  rw [rowApplied, now.own]
  constructor
  · rintro ⟨resolved, _⟩
    exact ⟨resolved, now.single entity id resolved⟩
  · rintro ⟨resolved, _⟩
    exact ⟨resolved, fun same => absurd same foreign⟩

/-- A counterparty is resolved in the end when both of its passes have resolved it: either
pass notes every row, so a row without an issue was resolved twice. -/
theorem merge_resolved {all : List String}
    (seen : ∀ id, (id ∈ base.resolvedStageIds ∨ id ∈ issueIds base) ↔ id ∈ all)
    (seen' : ∀ id, (id ∈ extra.resolvedStageIds ∨ id ∈ issueIds extra) ↔ id ∈ all)
    (single : ∀ id ∈ base.resolvedStageIds, id ∉ issueIds base)
    (single' : ∀ id ∈ extra.resolvedStageIds, id ∉ issueIds extra) :
    id ∈ (mergeApplySummaries base extra).resolvedStageIds ∧
        id ∉ issueIds (mergeApplySummaries base extra) ↔
      id ∈ base.resolvedStageIds ∧ id ∈ extra.resolvedStageIds := by
  rw [mem_merge_resolved, mem_merge_issues, not_or]
  constructor
  · rintro ⟨⟨either, noIssue'⟩, noIssue, _⟩
    have member : id ∈ all := either.elim (fun here => (seen id).mp (.inl here))
      (fun here => (seen' id).mp (.inl here))
    exact ⟨((seen id).mpr member).resolve_right noIssue,
      ((seen' id).mpr member).resolve_right noIssue'⟩
  · rintro ⟨here, there⟩
    exact ⟨⟨.inl here, single' id there⟩, single id here, single' id there⟩

theorem merge_seen {all : List String}
    (seen : ∀ id, (id ∈ base.resolvedStageIds ∨ id ∈ issueIds base) ↔ id ∈ all)
    (seen' : ∀ id, (id ∈ extra.resolvedStageIds ∨ id ∈ issueIds extra) ↔ id ∈ all) :
    (id ∈ (mergeApplySummaries base extra).resolvedStageIds ∨
        id ∈ issueIds (mergeApplySummaries base extra)) ↔ id ∈ all := by
  rw [mem_merge_resolved, mem_merge_issues]
  constructor
  · rintro (⟨resolved | resolved, _⟩ | issue | issue)
    · exact (seen id).mp (.inl resolved)
    · exact (seen' id).mp (.inl resolved)
    · exact (seen id).mp (.inr issue)
    · exact (seen' id).mp (.inr issue)
  · intro member
    by_cases issue : id ∈ issueIds extra
    · exact .inr (.inr issue)
    · exact ((seen id).mpr member).imp (fun resolved => ⟨.inl resolved, issue⟩) .inl

theorem linkCounterparties_noted {result : PromoteResult}
    (now : ∀ tx, result.tx = some tx → EntitiesNoted staged entities result.summaries tx)
    (run : (linkCounterparties db staged entities result).tx = some tx') :
    PromotionNoted staged entities (linkCounterparties db staged entities result).summaries tx' := by
  unfold linkCounterparties at run ⊢
  cases reached : result.tx with
  | none =>
    simp only [reached] at run
    cases run
  | some tx =>
    have noted := now tx reached
    simp only [reached] at run ⊢
    by_cases selected : BatchEntityCode.counterparties ∈ entities
    · rw [if_pos selected] at run ⊢
      cases applied : applyCounterpartyDefaultLinks db staged tx with
      | none =>
        simp only [applied] at run
        cases run
      | some linked =>
        obtain ⟨defaults, next⟩ := linked
        simp only [applied] at run ⊢
        cases run
        have links := applyStaged_noted applied noted.links
        have seen_links (id : String) : (id ∈ defaults.resolvedStageIds ∨ id ∈ issueIds defaults) ↔
            id ∈ staged.ids .counterparties := by
          rw [links.seen]
          simp [StagedSession.ids]
        refine ⟨fun entity id => ?_, fun entity member id => ?_, fun entity absent => ?_,
          fun lost => ?_⟩
        · rw [summaryOf_update]
          by_cases same : entity = .counterparties
          · rw [same, if_pos rfl, rowApplied, links.others _ (by simp), noted.own, links.own]
            refine Iff.trans ?_ (merge_resolved (noted.seen _ selected) seen_links (noted.single _)
              links.single).symm
            exact and_congr_right (fun _ => ⟨fun both => both rfl, fun both _ => both⟩)
          · rw [if_neg same, ← noted.other same, rowApplied, rowApplied,
              links.others _ (by simp)]
            exact and_congr_right (fun _ => ⟨fun _ here => absurd here same,
              fun _ here => absurd here same⟩)
        · rw [summaryOf_update]
          by_cases same : entity = .counterparties
          · rw [same, if_pos rfl]
            exact merge_seen (noted.seen _ selected) seen_links
          · rw [if_neg same]
            exact noted.seen entity member id
        · rw [Function.update_of_ne (fun same : entity = .counterparties => absent (same ▸ selected))]
          exact noted.untouched entity absent
        · rcases links.aborted lost with earlier | here
          · obtain ⟨entity, member, failed⟩ := noted.aborted earlier
            refine ⟨entity, member, ?_⟩
            rw [summaryOf_update]
            split
            · rename_i same
              rw [same] at failed
              exact fun none_left => failed (List.append_eq_nil_iff.mp none_left).1
            · exact failed
          · refine ⟨.counterparties, selected, ?_⟩
            rw [summaryOf_update, if_pos rfl]
            exact fun none_left => here (List.append_eq_nil_iff.mp none_left).2
    · rw [if_neg selected] at run ⊢
      rw [reached] at run
      cases run
      refine ⟨fun entity id => ?_, noted.seen, noted.untouched, noted.aborted⟩
      by_cases same : entity = .counterparties
      · have none_resolved : summaryOf result.summaries entity = emptyApplySummary := by
          rw [summaryOf, noted.untouched entity (same ▸ selected)]
          rfl
        rw [rowApplied, noted.own, none_resolved]
        exact iff_of_false (fun here => List.not_mem_nil here.1) (fun here => List.not_mem_nil here.1)
      · exact noted.other same

theorem clearEntities_noted (run : clearEntities db entities tx = some tx') :
    tx'.applied = tx.applied ∧ tx'.aborted = tx.aborted := by
  unfold clearEntities at run
  induction entities generalizing tx with
  | nil => cases run; exact ⟨rfl, rfl⟩
  | cons entity rest ih =>
    rw [List.foldlM_cons] at run
    obtain ⟨next, cleared, run⟩ := Option.bind_eq_some_iff.mp run
    obtain ⟨applied, aborted⟩ := ih run
    cases answered : tx.call with
    | none =>
      rw [answered] at cleared
      cases cleared
    | some called =>
      have kept := call_applied answered
      have whole := call_aborted answered
      rw [answered] at cleared
      cases cleared
      exact ⟨applied.trans kept, aborted.trans whole⟩

theorem entities_nodup : session.entities.Nodup := by
  have order : reconcileOrder.Nodup := by decide
  unfold SyncSession.entities
  split
  · exact order
  · exact order.filter _

theorem checkReplaced_some {result : PromoteResult}
    (run : (checkReplaced session result).1.tx = some tx') :
    checkReplaced session result = (result, none) := by
  unfold checkReplaced at run ⊢
  split at run
  · cases run
  · rename_i kept
    exact if_neg kept

theorem openPromotion_noted (begun : openPromotion db session tables = some tx) :
    EntitiesNoted staged [] (fun _ => none) tx := by
  have fresh : tx.applied = [] ∧ tx.aborted = false := by
    unfold openPromotion at begun
    split at begun
    · exact clearEntities_noted begun
    · cases begun
      exact ⟨rfl, rfl⟩
  exact ⟨fun entity id => by rw [fresh.1]; exact iff_of_false List.not_mem_nil List.not_mem_nil,
    fun id => by rw [fresh.1]; exact List.not_mem_nil,
    fun entity id resolved => absurd resolved List.not_mem_nil,
    fun entity member => absurd member List.not_mem_nil, fun entity _ => rfl,
    fun lost => by rw [fresh.2] at lost; cases lost⟩

def promoteRows (db : Database) (syncedAt : Instant) (session : SyncSession)
    (staged : StagedSession) (tx : PromoteTx) : PromoteResult :=
  linkCounterparties db staged session.entities
    (applyEntities db syncedAt staged session.entities (fun _ => none) tx)

theorem promoteRows_noted (begun : openPromotion db session tables = some tx)
    (reached : (promoteRows db syncedAt session staged tx).tx = some tx') :
    PromotionNoted staged session.entities (promoteRows db syncedAt session staged tx).summaries
      tx' :=
  linkCounterparties_noted
    (fun _ here => applyEntities_noted (openPromotion_noted begun) entities_nodup here) reached

theorem promote_noted (run : (promote db syncedAt session staged tables).1.tx = some tx') :
    PromotionNoted staged session.entities
      (promote db syncedAt session staged tables).1.summaries tx' := by
  unfold promote at run ⊢
  cases begun : openPromotion db session tables with
  | none =>
    rw [begun] at run
    cases run
  | some tx =>
    rw [begun] at run
    simp only [checkReplaced_some run] at run ⊢
    exact promoteRows_noted begun run

end Entities

end LeaderProduct
