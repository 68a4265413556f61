import LeaderProduct.GroupForest
import LeaderProduct.PromotionTables

/-! The groups that a promotion resolves: the rounds of its loop, what each visit of a group does,
and what holds of the batch when no round gets on any more. -/
namespace LeaderProduct
open Cycles

section Rounds
variable {db : Database}

def Shrinks (n : Nat) (s : GroupRound) : Prop :=
  s.pending.length ≤ n ∧ (s.progressed = true → s.pending.length < n)

theorem GroupRound.visit_shrinks {n : Nat} {s s' : GroupRound} {row : StagedRow NomenclatureItem}
    (now : Shrinks n s) (run : s.visit db row = some s') : Shrinks (n + 1) s' := by
  have gone (s : GroupRound) (few : s.pending.length ≤ n) : Shrinks (n + 1) (s.resolve db row) :=
    ⟨Nat.le_succ_of_le few, fun _ => Nat.lt_succ_of_le few⟩
  unfold GroupRound.visit at run
  split at run
  · cases run
    exact gone s now.1
  · split at run
    · cases run
    · split at run
      · cases run
        exact gone _ now.1
      · cases run
        exact ⟨Nat.succ_le_succ now.1, fun got_on => Nat.succ_lt_succ (now.2 got_on)⟩

theorem GroupRound.next_shrinks {s s' : GroupRound} (run : s.next db = some s') :
    Shrinks s.pending.length s' := by
  have start : Shrinks (s.pending.length - s.pending.reverse.length)
      { s with pending := [], progressed := false } :=
    ⟨Nat.zero_le _, fun got_on => by cases got_on⟩
  refine GroupRound.next_rule (P := fun rows next => rows.length ≤ s.pending.length ∧
    Shrinks (s.pending.length - rows.length) next) ?_ ⟨by simp, start⟩ run |>.2
  rintro row rows next next' ⟨within, now⟩ visited
  have after := GroupRound.visit_shrinks now visited
  rw [List.length_cons] at within after
  exact ⟨by omega, by rwa [show s.pending.length - (rows.length + 1) + 1 =
    s.pending.length - rows.length by omega] at after⟩

theorem resolveGroups_enough {fuel fuel' : Nat} {s : GroupRound} (enough : s.pending.length ≤ fuel)
    (enough' : s.pending.length ≤ fuel') : resolveGroups db fuel s = resolveGroups db fuel' s := by
  have finished (fuel : Nat) (s : GroupRound) (empty : s.pending = []) :
      resolveGroups db fuel s = some s := by
    cases fuel with
    | zero => rfl
    | succ fuel => simp [resolveGroups, empty]
  induction fuel generalizing fuel' s with
  | zero =>
    have empty := List.length_eq_zero_iff.mp (Nat.le_zero.mp enough)
    rw [finished _ s empty, finished _ s empty]
  | succ fuel ih =>
    cases fuel' with
    | zero =>
      have empty := List.length_eq_zero_iff.mp (Nat.le_zero.mp enough')
      rw [finished _ s empty, finished _ s empty]
    | succ fuel' =>
      unfold resolveGroups
      refine if_congr Iff.rfl rfl (Option.bind_congr fun next round => ?_)
      have shrinks := GroupRound.next_shrinks round
      split
      · next got_on =>
        have fewer := shrinks.2 got_on
        exact ih (by omega) (by omega)
      · rfl

def Answering (tx : PromoteTx) (s : GroupRound) : Prop :=
  s.tx.answers = none ∧ s.tx.aborted = tx.aborted

theorem call_of_answering {tx : PromoteTx} (answers : tx.answers = none) : tx.call = some tx := by
  rw [PromoteTx.call, answers]

theorem GroupRound.resolve_answering {tx : PromoteTx} {s : GroupRound}
    (now : Answering tx s) (row : StagedRow NomenclatureItem) :
    Answering tx (s.resolve db row) := by
  simpa [Answering, GroupRound.resolve, runRow, call_of_answering now.1, applyGroup] using now

theorem GroupRound.visit_answering {tx : PromoteTx} {s : GroupRound} (now : Answering tx s)
    (row : StagedRow NomenclatureItem) : ∃ s', s.visit db row = some s' ∧ Answering tx s' := by
  unfold GroupRound.visit
  split
  · exact ⟨_, rfl, resolve_answering now row⟩
  · rw [call_of_answering now.1]
    dsimp only
    split
    · exact ⟨_, rfl, resolve_answering now row⟩
    · exact ⟨_, rfl, now⟩

theorem GroupRound.next_answering {tx : PromoteTx} {s : GroupRound} (now : Answering tx s) :
    ∃ s', s.next db = some s' ∧ Answering tx s' := by
  have general (rows : List (StagedRow NomenclatureItem)) (s : GroupRound) (now : Answering tx s) :
      ∃ s', rows.foldlM (fun s row => s.visit db row) s = some s' ∧ Answering tx s' := by
    induction rows generalizing s with
    | nil => exact ⟨s, rfl, now⟩
    | cons row rows ih =>
      obtain ⟨next, visited, after⟩ := GroupRound.visit_answering now row
      obtain ⟨last, rest, done⟩ := ih next after
      exact ⟨last, by rw [List.foldlM_cons, visited]; exact rest, done⟩
  exact general s.pending.reverse { s with pending := [], progressed := false } now

theorem resolveGroups_answering {tx : PromoteTx} {s : GroupRound} (now : Answering tx s)
    (fuel : Nat) : ∃ s', resolveGroups db fuel s = some s' ∧ Answering tx s' := by
  induction fuel generalizing s with
  | zero => exact ⟨s, rfl, now⟩
  | succ fuel ih =>
    unfold resolveGroups
    split
    · exact ⟨s, rfl, now⟩
    · obtain ⟨next, round, after⟩ : ∃ s', s.next db = some s' ∧ Answering tx s' :=
        GroupRound.next_answering now
      rw [round, Option.bind_some]
      split
      · exact ih after
      · exact ⟨next, rfl, after⟩

end Rounds

def Stuck (s : GroupRound) (row : StagedRow NomenclatureItem) : Prop :=
  ∃ parent, stagedParent row = some parent ∧ parent ∉ s.resolvedGroupGuids ∧
    ¬IsLive s.tx.tables parent

structure Promoted (s s' : GroupRound) (row : StagedRow NomenclatureItem) : Prop where
  pending : s'.pending = s.pending
  guids : s'.resolvedGroupGuids = s.resolvedGroupGuids ++ [row.payload.guid]
  summary : s'.summary =
    { s.summary with resolvedStageIds := s.summary.resolvedStageIds ++ [row.id] }
  tables : s'.tx.tables = (applyGroup row s.tx.tables).2
  aborted : s'.tx.aborted = s.tx.aborted
  got_on : s'.progressed = true

structure Waits (s s' : GroupRound) (row : StagedRow NomenclatureItem) : Prop where
  pending : s'.pending = row :: s.pending
  guids : s'.resolvedGroupGuids = s.resolvedGroupGuids
  summary : s'.summary = s.summary
  tables : s'.tx.tables = s.tx.tables
  aborted : s'.tx.aborted = s.tx.aborted
  progressed : s'.progressed = s.progressed

section Visit
variable {db : Database} {s s' : GroupRound} {row : StagedRow NomenclatureItem}

theorem GroupRound.resolve_cases (s : GroupRound) (row : StagedRow NomenclatureItem) :
    (s.resolve db row).tx.aborted = true ∨ Promoted s (s.resolve db row) row := by
  cases called : s.tx.call with
  | none => exact .inl (by simp [GroupRound.resolve, runRow, called])
  | some tx =>
    refine .inr ⟨rfl, ?_, ?_, ?_, ?_, ?_⟩ <;>
      simp [GroupRound.resolve, runRow, called, applyGroup, ApplySummary.record, call_tables called,
        call_aborted called]

theorem GroupRound.visit_cases (run : s.visit db row = some s') :
    s'.tx.aborted = true ∨ (¬Stuck s row ∧ Promoted s s' row) ∨ (Stuck s row ∧ Waits s s' row) := by
  unfold GroupRound.visit at run
  split at run
  · next none_waits =>
    cases run
    have free : ¬Stuck s row := by
      rintro ⟨parent, staged, unresolved, _⟩
      exact absurd (Option.filter_eq_none_iff.mp none_waits parent staged) (by simpa using unresolved)
    exact (s.resolve_cases row).imp_right fun promoted => .inl ⟨free, promoted⟩
  · next parent waits =>
    obtain ⟨staged, unresolved⟩ := Option.filter_eq_some_iff.mp waits
    split at run
    · cases run
    · next tx called =>
      have same := call_tables called
      split at run
      · next live =>
        cases run
        have free : ¬Stuck s row := by
          rintro ⟨other, staged', _, gone⟩
          cases staged.symm.trans staged'
          exact gone (same ▸ live)
        refine (GroupRound.resolve_cases { s with tx := tx } row).imp_right
          fun promoted => .inl ⟨free, { promoted with tables := ?_, aborted := ?_ }⟩
        · rw [promoted.tables, same]
        · rw [promoted.aborted, call_aborted called]
      · next gone =>
        cases run
        have unlive : ¬IsLive s.tx.tables parent := same ▸ gone
        exact .inr (.inr ⟨⟨parent, staged, by simpa using unresolved, unlive⟩,
          ⟨rfl, rfl, rfl, same, call_aborted called, rfl⟩⟩)

theorem GroupRound.visit_lost (run : s.visit db row = some s') (lost : s.tx.aborted = true) :
    s'.tx.aborted = true := by
  rcases GroupRound.visit_cases run with lost' | ⟨_, promoted⟩ | ⟨_, waits⟩
  · exact lost'
  · rw [promoted.aborted, lost]
  · rw [waits.aborted, lost]

theorem resolveGroups_lost {fuel : Nat} (run : resolveGroups db fuel s = some s')
    (lost : s.tx.aborted = true) : s'.tx.aborted = true := by
  refine resolveGroups_rule (P := fun s => s.tx.aborted = true) (fun s s' lost round => ?_) lost run
  exact GroupRound.next_rule (P := fun _ s => s.tx.aborted = true)
    (fun row rows s s' lost visited => GroupRound.visit_lost visited lost) lost round

end Visit

structure Promoting (batch : GroupBatch) (t : Tables) (gone round : List (StagedRow NomenclatureItem))
    (s : GroupRound) : Prop where
  split : (gone ++ (round ++ s.pending)).Perm batch.rows
  guids : s.resolvedGroupGuids = gone.map (·.payload.guid)
  grounded : ∀ row ∈ gone, Grounded batch t row
  summary : s.summary = ⟨gone.map (·.id), [], []⟩
  staged : ∀ row ∈ gone, IsLive s.tx.tables row.payload.guid ∧
    parentOf s.tx.tables row.payload.guid = stagedParent row
  others : ∀ guid, (∀ row ∈ gone, row.payload.guid ≠ guid) →
    s.tx.tables.groups guid = t.groups guid

section Run
variable {db : Database} {batch : GroupBatch} {t : Tables}
  {gone round : List (StagedRow NomenclatureItem)} {s s' : GroupRound}
  {row : StagedRow NomenclatureItem}

theorem Promoting.isLive_iff (now : Promoting batch t gone round s) (guid : String) :
    IsLive s.tx.tables guid ↔ IsLive t guid ∨ ∃ row ∈ gone, row.payload.guid = guid := by
  by_cases promoted : ∃ row ∈ gone, row.payload.guid = guid
  · obtain ⟨row, member, rfl⟩ := promoted
    exact iff_of_true (now.staged row member).1 (.inr ⟨row, member, rfl⟩)
  · have same := now.others guid fun row member same => promoted ⟨row, member, same⟩
    rw [IsLive, IsLive, same, or_iff_left promoted]

section
variable (now : Promoting batch t gone (row :: round) s)
include now

theorem Promoting.fresh :
    ∀ other ∈ gone, other.payload.guid ≠ row.payload.guid := by
  intro other member same
  have keyed := (now.split.map (·.payload.guid)).nodup_iff.mpr batch.keyed
  rw [List.map_append] at keyed
  exact List.disjoint_of_nodup_append keyed (List.mem_map_of_mem member)
    (List.mem_map.mpr ⟨row, by simp, same.symm⟩)

theorem Promoting.free (free : ¬Stuck s row) :
    Grounded batch t row ∧ (present row.payload.parentGuid).filter
      (fun guid => (s.tx.tables.groups guid).isSome) = stagedParent row := by
  cases staged : stagedParent row with
  | none => exact ⟨.root staged, by rw [show present row.payload.parentGuid = none from staged]; rfl⟩
  | some parent =>
    have live : IsLive s.tx.tables parent := by
      by_contra gone_parent
      refine free ⟨parent, staged, fun resolved => gone_parent ?_, gone_parent⟩
      rw [now.guids] at resolved
      exact (now.isLive_iff parent).mpr (.inr (List.mem_map.mp resolved))
    refine ⟨?_, ?_⟩
    · rcases (now.isLive_iff parent).mp live with there | ⟨above, member, same⟩
      · exact .live staged there
      · exact .staged above staged (now.split.mem_iff.mp (List.mem_append_left _ member)) same
          (now.grounded above member)
    · rw [show present row.payload.parentGuid = some parent from staged]
      exact Option.filter_some_pos live

theorem Promoting.promote (free : ¬Stuck s row)
    (promoted : Promoted s s' row) : Promoting batch t (gone ++ [row]) round s' := by
  obtain ⟨grounded, parent⟩ := now.free free
  have here : s'.tx.tables.groups row.payload.guid =
      some (groupRow row.payload (stagedParent row) (s.tx.tables.groups row.payload.guid)) := by
    rw [promoted.tables, applyGroup, parent]
    exact Function.update_self ..
  have elsewhere (guid : String) (other : row.payload.guid ≠ guid) :
      s'.tx.tables.groups guid = s.tx.tables.groups guid := by
    rw [promoted.tables, applyGroup]
    exact Function.update_of_ne other.symm ..
  refine ⟨?_, ?_, ?_, ?_, ?_, ?_⟩
  · rw [promoted.pending]
    simpa using now.split
  · rw [promoted.guids, now.guids, List.map_append]
    rfl
  · exact List.forall_mem_append.mpr ⟨now.grounded, List.forall_mem_singleton.mpr grounded⟩
  · rw [promoted.summary, now.summary, List.map_append]
    rfl
  · refine List.forall_mem_append.mpr ⟨fun other member => ?_, List.forall_mem_singleton.mpr ?_⟩
    · rw [IsLive, parentOf, elsewhere _ (now.fresh other member).symm]
      exact now.staged other member
    · rw [IsLive, parentOf, here]
      exact ⟨rfl, rfl⟩
  · intro guid none_gone
    obtain ⟨others, this⟩ := List.forall_mem_append.mp none_gone
    rw [elsewhere guid (this row (List.mem_singleton_self row))]
    exact now.others guid others

theorem Promoting.wait (waits : Waits s s' row) :
    Promoting batch t gone round s' := by
  refine ⟨?_, ?_, now.grounded, ?_, ?_, ?_⟩
  · rw [waits.pending]
    exact (List.perm_middle.append_left gone).trans now.split
  · rw [waits.guids, now.guids]
  · rw [waits.summary, now.summary]
  · rw [waits.tables]
    exact now.staged
  · rw [waits.tables]
    exact now.others

end

def Settled (s : GroupRound) : Prop := ∀ row ∈ s.pending, Stuck s row

theorem Settled.wait (settled : Settled s) (stuck : Stuck s row) (waits : Waits s s' row) :
    Settled s' := by
  intro other member
  rw [waits.pending] at member
  rw [Stuck, waits.guids, waits.tables]
  rcases List.mem_cons.mp member with rfl | earlier
  · exact stuck
  · exact settled other earlier

def RoundStands (batch : GroupBatch) (t : Tables) (round : List (StagedRow NomenclatureItem))
    (s : GroupRound) : Prop :=
  s.tx.aborted = true ∨
    (∃ gone, Promoting batch t gone round s) ∧ (s.progressed = false → Settled s)

theorem visit_stands (now : RoundStands batch t (row :: round) s) (run : s.visit db row = some s') :
    RoundStands batch t round s' := by
  obtain lost | ⟨⟨gone, now⟩, settled⟩ := now
  · exact .inl (GroupRound.visit_lost run lost)
  · rcases GroupRound.visit_cases run with lost | ⟨free, promoted⟩ | ⟨stuck, waits⟩
    · exact .inl lost
    · refine .inr ⟨⟨_, now.promote free promoted⟩, fun idle => ?_⟩
      cases promoted.got_on.symm.trans idle
    · refine .inr ⟨⟨gone, now.wait waits⟩, fun idle => ?_⟩
      exact (settled (waits.progressed ▸ idle)).wait stuck waits

theorem next_stands (now : Promoting batch t gone [] s) (run : s.next db = some s') :
    RoundStands batch t [] s' := by
  have turned : (gone ++ (s.pending.reverse ++ [])).Perm (gone ++ ([] ++ s.pending)) := by
    simpa using (List.reverse_perm s.pending).append_left gone
  have start : Promoting batch t gone s.pending.reverse { s with pending := [], progressed := false } :=
    ⟨turned.trans now.split, now.guids, now.grounded, now.summary, now.staged, now.others⟩
  exact GroupRound.next_rule (fun row rows s s' now visited => visit_stands now visited)
    (.inr ⟨⟨gone, start⟩, fun _ row member => absurd member List.not_mem_nil⟩) run

theorem resolveGroups_promoting {fuel : Nat} (now : Promoting batch t gone [] s)
    (enough : s.pending.length ≤ fuel) (run : resolveGroups db fuel s = some s') :
    s'.tx.aborted = true ∨ (∃ gone', Promoting batch t gone' [] s') ∧ Settled s' := by
  have finished {s : GroupRound} (empty : s.pending = []) : Settled s := fun row member => by
    rw [empty] at member
    exact absurd member List.not_mem_nil
  induction fuel generalizing gone s with
  | zero =>
    cases run
    exact .inr ⟨⟨gone, now⟩, finished (List.length_eq_zero_iff.mp (Nat.le_zero.mp enough))⟩
  | succ fuel ih =>
    unfold resolveGroups at run
    split at run
    · next empty =>
      cases run
      exact .inr ⟨⟨gone, now⟩, finished (List.isEmpty_iff.mp empty)⟩
    · obtain ⟨next, round, rest⟩ := Option.bind_eq_some_iff.mp run
      rcases next_stands now round with lost | ⟨⟨gone', after⟩, settled⟩
      · split at rest
        · exact .inl (resolveGroups_lost rest lost)
        · cases rest
          exact .inl lost
      · split at rest
        · next got_on =>
          have fewer := (GroupRound.next_shrinks round).2 got_on
          exact ih after (by omega) rest
        · next idle =>
          cases rest
          exact .inr ⟨⟨gone', after⟩, settled (Bool.not_eq_true _ ▸ idle)⟩

theorem Promoting.grounded_gone (now : Promoting batch t gone [] s) (settled : Settled s)
    (grounded : Grounded batch t row) : row ∈ batch.rows → row ∈ gone := by
  have place {row : StagedRow NomenclatureItem} (member : row ∈ batch.rows) :
      row ∈ gone ∨ Stuck s row := by
    rcases List.mem_append.mp (now.split.mem_iff.mpr member) with there | waiting
    · exact .inl there
    · exact .inr (settled row waiting)
  induction grounded with
  | root top =>
    intro member
    refine (place member).resolve_right ?_
    rintro ⟨parent, staged, _⟩
    cases top.symm.trans staged
  | live has there =>
    intro member
    refine (place member).resolve_right ?_
    rintro ⟨parent, staged, _, unlive⟩
    cases has.symm.trans staged
    exact unlive ((now.isLive_iff _).mpr (.inl there))
  | @staged row parent above has at_above same _ ih =>
    intro member
    refine (place member).resolve_right ?_
    rintro ⟨other, staged, unresolved, _⟩
    cases has.symm.trans staged
    rw [now.guids] at unresolved
    exact unresolved (List.mem_map.mpr ⟨above, ih at_above, same⟩)

theorem Promoting.parentRel_iff (now : Promoting batch t gone [] s) (settled : Settled s)
    (child parent : String) : ParentRel s.tx.tables child parent ↔ Above batch t child parent := by
  by_cases promoted : ∃ row ∈ gone, row.payload.guid = child
  · obtain ⟨row, member, rfl⟩ := promoted
    have at_row : row ∈ batch.rows := now.split.mem_iff.mp (List.mem_append_left _ member)
    rw [ParentRel, (now.staged row member).2]
    constructor
    · exact fun has => .inl ⟨row, at_row, rfl, now.grounded row member, has⟩
    · rintro (⟨other, at_other, same, _, has⟩ | ⟨unstaged, _⟩)
      · rwa [batch.row_eq at_row at_other same.symm]
      · exact absurd (now.grounded row member) (unstaged row at_row rfl)
  · have same := now.others child fun row member same => promoted ⟨row, member, same⟩
    rw [ParentRel, parentOf, same]
    constructor
    · exact fun has => .inr ⟨fun row at_row same grounded =>
        promoted ⟨row, now.grounded_gone settled grounded at_row, same⟩, has⟩
    · rintro (⟨row, at_row, same, grounded, _⟩ | ⟨_, has⟩)
      · exact absurd ⟨row, now.grounded_gone settled grounded at_row, same⟩ promoted
      · exact has

end Run

section Loop
variable {db : Database} {batch : GroupBatch} {tx : PromoteTx}

def firstRound (batch : GroupBatch) (tx : PromoteTx) : GroupRound :=
  ⟨batch.rows, [], emptyApplySummary, tx, false⟩

def applyGroups (db : Database) (batch : GroupBatch) (tx : PromoteTx) : Option GroupRound :=
  resolveGroups db batch.rows.length (firstRound batch tx)

theorem promoting_firstRound : Promoting batch tx.tables [] [] (firstRound batch tx) where
  split := .refl _
  guids := rfl
  grounded _ member := absurd member List.not_mem_nil
  summary := rfl
  staged _ member := absurd member List.not_mem_nil
  others _ _ := rfl

theorem Promoting.resolved_iff {t : Tables} {gone : List (StagedRow NomenclatureItem)}
    {s : GroupRound} {row : StagedRow NomenclatureItem} (now : Promoting batch t gone [] s)
    (settled : Settled s) (at_row : row ∈ batch.rows) :
    row.id ∈ s.summary.resolvedStageIds ↔ Grounded batch t row := by
  rw [now.summary]
  constructor
  · intro resolved
    obtain ⟨other, member, same⟩ := List.mem_map.mp resolved
    have at_other : other ∈ batch.rows := now.split.mem_iff.mp (List.mem_append_left _ member)
    rw [← List.inj_on_of_nodup_map batch.distinct at_other at_row same]
    exact now.grounded other member
  · exact fun grounded => List.mem_map_of_mem (now.grounded_gone settled grounded at_row)

theorem Promoting.blocked_iff {t : Tables} {gone : List (StagedRow NomenclatureItem)}
    {s : GroupRound} (now : Promoting batch t gone [] s) (settled : Settled s) (issue : StageIssue) :
    issue ∈ (blockPending s).blocked ↔
      ∃ row ∈ batch.rows, ¬Grounded batch t row ∧ pendingIssue row = issue := by
  have split : (gone ++ s.pending).Perm batch.rows := now.split
  have apart : gone.Disjoint s.pending :=
    List.disjoint_of_nodup_append (split.nodup_iff.mpr batch.keyed.of_map)
  rw [blockPending, now.summary, List.nil_append, List.mem_map]
  refine exists_congr fun row => ⟨fun ⟨waits, same⟩ => ?_, fun ⟨at_row, ungrounded, same⟩ => ?_⟩
  · have at_row := split.mem_iff.mp (List.mem_append_right gone waits)
    exact ⟨at_row, fun grounded => apart (now.grounded_gone settled grounded at_row) waits, same⟩
  · refine ⟨(List.mem_append.mp (split.mem_iff.mpr at_row)).resolve_left fun promoted => ?_, same⟩
    exact ungrounded (now.grounded row promoted)

/-- The loop ends; unless the database fails it promotes the grounded groups and blocks the others,
and what it leaves is a forest exactly when no existing group was staged below itself. -/
theorem groups_promoted_forest_iff (db : Database) (batch : GroupBatch) (tx : PromoteTx)
    (forest : IsForest tx.tables) :
    (∀ fuel, batch.rows.length ≤ fuel →
      resolveGroups db fuel (firstRound batch tx) = applyGroups db batch tx) ∧
    (tx.answers = none → ∃ s, applyGroups db batch tx = some s ∧ s.tx.aborted = tx.aborted) ∧
    ∀ s, applyGroups db batch tx = some s → s.tx.aborted = false →
      (∀ row ∈ batch.rows, row.id ∈ s.summary.resolvedStageIds ↔ Grounded batch tx.tables row) ∧
      (∀ issue, issue ∈ (blockPending s).blocked ↔
        ∃ row ∈ batch.rows, ¬Grounded batch tx.tables row ∧ pendingIssue row = issue) ∧
      (Acyclic (ParentRel s.tx.tables) ↔ NoneBelowItself batch tx.tables) := by
  refine ⟨fun fuel enough => resolveGroups_enough enough le_rfl, fun answers => ?_,
    fun s run kept => ?_⟩
  · have begun : Answering tx (firstRound batch tx) := ⟨answers, rfl⟩
    obtain ⟨s, run, _, same⟩ := resolveGroups_answering begun batch.rows.length
    exact ⟨s, run, same⟩
  · obtain lost | ⟨⟨gone, now⟩, settled⟩ := resolveGroups_promoting promoting_firstRound le_rfl run
    · cases kept.symm.trans lost
    · refine ⟨fun row at_row => now.resolved_iff settled at_row, now.blocked_iff settled, ?_⟩
      have same : ParentRel s.tx.tables = Above batch tx.tables := by
        funext child parent
        exact propext (now.parentRel_iff settled child parent)
      rw [same]
      exact above_acyclic_iff forest

end Loop

namespace GroupSample

def tables : Tables :=
  { Tables.empty "epoch" with
    groups := fun guid =>
      if guid = "dairy" then some ⟨"Молочное", none, true, none⟩
      else if guid = "milk" then some ⟨"Молоко", none, true, some "dairy"⟩ else none }

def tx : PromoteTx := ⟨tables, [], none, false⟩

def database : Database where
  begins := true
  answers := none
  commitThrows := false
  lostMessage := "Transaction already closed"
  lost_named := by decide
  invalidMessage := "Invalid invocation"
  duplicateMessage := "Unique constraint failed"
  epoch := "epoch"

def row (id guid : String) (parent : Option String) : StagedRow NomenclatureItem :=
  ⟨id, "hash", ⟨guid, true, parent, "Группа", none, none, none, none, none, none, none, [], none⟩⟩

def mixed : GroupBatch where
  rows := [row "1" "hard" (some "cheese"), row "2" "cheese" (some "milk"),
    row "3" "left" (some "right"), row "4" "right" (some "left"), row "5" "odd" (some "gone")]
  distinct := by decide
  keyed := by decide

def swapped : GroupBatch where
  rows := [row "1" "dairy" (some "milk")]
  distinct := by decide
  keyed := by decide

theorem parentRel_iff {child parent : String} :
    ParentRel tables child parent ↔ child = "milk" ∧ parent = "dairy" := by
  rw [ParentRel, parentOf]
  by_cases dairy : child = "dairy"
  · subst dairy
    simp [tables]
  · by_cases milk : child = "milk"
    · subst milk
      simp [tables, eq_comm]
    · simp [tables, dairy, milk]

theorem forest : IsForest tables where
  parents_live child parent has := by
    rw [(parentRel_iff.mp has).2]
    rfl
  acyclic guid on := by
    obtain ⟨parent, step, back⟩ := on.exists_next
    obtain ⟨rfl, rfl⟩ := parentRel_iff.mp step
    obtain same | ⟨_, again, _⟩ := Relation.ReflTransGen.cases_head back
    · exact absurd same (by decide)
    · exact absurd (parentRel_iff.mp again).1 (by decide)

end GroupSample

open GroupSample in
theorem mixed_groups_promoted : ∃ s, applyGroups database mixed tx = some s ∧
    s.summary.resolvedStageIds = ["2", "1"] ∧
    ∀ row ∈ mixed.rows, row.id ∈ s.summary.resolvedStageIds ↔ Grounded mixed tables row := by
  obtain ⟨_, answered, applied⟩ := groups_promoted_forest_iff database mixed tx forest
  obtain ⟨s, run, kept⟩ := answered rfl
  refine ⟨s, run, ?_, (applied s run kept).1⟩
  cases run
  rfl

open GroupSample in
/-- A group comes under its own child. -/
theorem parent_under_child_makes_cycle :
    ¬∀ (db : Database) (batch : GroupBatch) (tx : PromoteTx), IsForest tx.tables →
      ∀ s, applyGroups db batch tx = some s → s.tx.aborted = false →
        Acyclic (ParentRel s.tx.tables) := by
  intro law
  obtain ⟨s, run, kept, up, down⟩ : ∃ s, applyGroups database swapped tx = some s ∧
      s.tx.aborted = false ∧ ParentRel s.tx.tables "dairy" "milk" ∧
      ParentRel s.tx.tables "milk" "dairy" := ⟨_, rfl, rfl, rfl, rfl⟩
  exact law database swapped tx forest s run kept "dairy" (.tail (.single up) down)

end LeaderProduct
