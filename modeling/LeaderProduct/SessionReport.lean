import LeaderProduct.PromotionNotes

/-! What `completeOnecSyncSession` writes to the staged rows and to the session once the
transaction of the promotion is over, and when that is what was committed. -/
namespace LeaderProduct

inductive OnecStageResolveStatus where
  | pending | resolved | blocked | error
  deriving DecidableEq, Repr

inductive OnecSyncSessionStatus where
  | completed | partially | failed
  deriving DecidableEq, Repr

/-- What a completion has written to the staged rows: nothing to a row without a mark. -/
abbrev StageMarks := BatchEntityCode → String → Option OnecStageResolveStatus

structure SessionOutcome where
  status : OnecSyncSessionStatus
  acceptedCount : Nat
  resolvedCount : Nat
  blockedCount : Nat
  errorCount : Nat
  notes : Option String

section Completion
variable (db : Database) (syncedAt : Instant) (session : SyncSession) (staged : StagedSession)
  (tables : Tables)

structure PromotionEnd where
  summaries : Summaries
  committed : Option PromoteTx
  notes : Option String

def syncSessionTxTimeoutMs : Nat := 600000

def failureNotes (message : String) : String :=
  if JsString.includes message "expired transaction" then
    "Session promote transaction timed out after " ++ toString syncSessionTxTimeoutMs ++ " ms."
  else message

/-- The commit is the last call of the transaction. The client library sends it to an aborted
one as well, which then is rolled back without an error. -/
def endPromotion (ended : PromoteResult × Option String) : PromotionEnd :=
  match ended.1.tx with
  | none => ⟨ended.1.summaries, none, some (ended.2.getD (failureNotes db.lostMessage))⟩
  | some tx =>
    match tx.call with
    | some tx => ⟨ended.1.summaries, some tx, none⟩
    | none =>
      ⟨ended.1.summaries, none,
        if tx.aborted && !db.commitThrows then none else some (failureNotes db.lostMessage)⟩

def runPromotion : PromotionEnd :=
  if db.begins then endPromotion db (promote db syncedAt session staged tables)
  else ⟨fun _ => none, none, some (failureNotes db.lostMessage)⟩

def markRows (entity : BatchEntityCode) (ids : List String) (status : OnecStageResolveStatus)
    (marks : StageMarks) : StageMarks :=
  fun e id => if e = entity ∧ id ∈ ids then some status else marks e id

def updateStageStatuses (entity : BatchEntityCode) (summary : ApplySummary) (marks : StageMarks) :
    StageMarks :=
  markRows entity (summary.errors.map (·.stageId)) .error
    (markRows entity (summary.blocked.map (·.stageId)) .blocked
      (markRows entity summary.resolvedStageIds .resolved marks))

def writeStatuses (summaries : Summaries) (entities : List BatchEntityCode) : StageMarks :=
  entities.foldl (fun marks entity =>
    updateStageStatuses entity (summaryOf summaries entity) marks) (fun _ _ => none)

def sessionStatus (replaceMode : Bool) (notes : Option String)
    (resolvedCount blockedCount errorCount : Nat) : OnecSyncSessionStatus :=
  if isSet notes && replaceMode then
    if 0 < blockedCount ∨ 0 < resolvedCount then .partially else .failed
  else if 0 < errorCount ∧ resolvedCount = 0 then .failed
  else if 0 < blockedCount ∨ 0 < errorCount then .partially
  else .completed

/-- `applied` holds the rows of which everything was committed, pass by pass. -/
structure Completion where
  tables : Tables
  committed : Bool
  applied : List (PromotePass × String)
  marks : StageMarks
  outcome : SessionOutcome

def completeOnecSyncSession : Completion :=
  let ended := runPromotion db syncedAt session staged tables
  let resolvedCount := totalOf (·.resolvedStageIds.length) ended.summaries session.entities
  let blockedCount := totalOf (·.blocked.length) ended.summaries session.entities
  let errorCount := totalOf (·.errors.length) ended.summaries session.entities
  { tables := (ended.committed.map (·.tables)).getD tables
    committed := ended.committed.isSome
    applied := (ended.committed.map (·.applied)).getD []
    marks := writeStatuses ended.summaries session.entities
    outcome :=
      ⟨sessionStatus session.replaceMode ended.notes resolvedCount blockedCount errorCount,
        session.acceptedCount, resolvedCount, blockedCount, errorCount, ended.notes⟩ }

end Completion

/-- A completion reports what was committed: a row is resolved by it exactly when its data
was, and the session is completed only when the transaction was committed. -/
structure ReportsCommitted (c : Completion) : Prop where
  rows : ∀ entity id, c.marks entity id = some .resolved ↔ rowApplied c.applied entity id
  session : c.outcome.status = .completed → c.committed = true

section Report
variable (db : Database) (syncedAt : Instant) (session : SyncSession) (staged : StagedSession)
  (tables : Tables)

def Commits : Prop :=
  (runPromotion db syncedAt session staged tables).committed.isSome = true

/-- Of the entities that were gone through, every row is blocked or has failed. -/
def NoneResolved : Prop :=
  ∀ entity ∈ session.entities,
    ∀ id ∈ (summaryOf (runPromotion db syncedAt session staged tables).summaries
        entity).resolvedStageIds,
      id ∈ issueIds (summaryOf (runPromotion db syncedAt session staged tables).summaries entity)

def SomeIssue : Prop :=
  ∃ entity ∈ session.entities,
    issueIds (summaryOf (runPromotion db syncedAt session staged tables).summaries entity) ≠ []

end Report

section Marks
variable {summaries : Summaries} {entities : List BatchEntityCode} {marks : StageMarks}

theorem updateStageStatuses_resolved {entity e : BatchEntityCode} {summary : ApplySummary}
    {id : String} : updateStageStatuses entity summary marks e id = some .resolved ↔
      if e = entity then
        id ∉ issueIds summary ∧ (id ∈ summary.resolvedStageIds ∨ marks e id = some .resolved)
      else marks e id = some .resolved := by
  simp only [updateStageStatuses, markRows, issueIds, List.map_append, List.mem_append, not_or]
  by_cases same : e = entity
  · by_cases failed : id ∈ summary.errors.map (·.stageId)
    · simp [same, failed]
    · by_cases stuck : id ∈ summary.blocked.map (·.stageId)
      · simp [same, failed, stuck]
      · by_cases done : id ∈ summary.resolvedStageIds
        · simp [same, failed, stuck, done]
        · simp [same, failed, stuck, done]
  · simp [same]

theorem writeStatuses_resolved {entity : BatchEntityCode} {id : String} :
    writeStatuses summaries entities entity id = some .resolved ↔
      entity ∈ entities ∧ id ∈ (summaryOf summaries entity).resolvedStageIds ∧
        id ∉ issueIds (summaryOf summaries entity) := by
  have general (marks : StageMarks)
      (sound : marks entity id = some .resolved → id ∈ (summaryOf summaries entity).resolvedStageIds) :
      entities.foldl (fun marks e => updateStageStatuses e (summaryOf summaries e) marks) marks
          entity id = some .resolved ↔
        (entity ∈ entities ∧ id ∈ (summaryOf summaries entity).resolvedStageIds ∧
            id ∉ issueIds (summaryOf summaries entity)) ∨
          (entity ∉ entities ∧ marks entity id = some .resolved) := by
    induction entities generalizing marks with
    | nil => simp
    | cons first rest ih =>
      have here := @updateStageStatuses_resolved marks first entity (summaryOf summaries first) id
      rw [List.foldl_cons, ih, here, List.mem_cons, not_or]
      · by_cases same : entity = first
        · subst same
          by_cases later : entity ∈ rest
          · simp [later]
          · simp only [later, if_true, false_and, not_false_eq_true, true_and, false_or,
              not_true_eq_false, or_false]
            exact ⟨fun ⟨fine, either⟩ => ⟨either.elim (fun done => done) sound, fine⟩,
              fun ⟨done, fine⟩ => ⟨fine, .inl done⟩⟩
        · simp [same]
      · intro resolved
        have before := here.mp resolved
        split at before
        · rename_i same
          subst same
          exact before.2.elim (fun done => done) sound
        · exact sound before
  have start := general (fun _ _ => none) (fun resolved => by cases resolved)
  rw [writeStatuses, start]
  simp

end Marks

section Status
variable {db : Database} {syncedAt : Instant} {session : SyncSession} {staged : StagedSession}
  {tables : Tables} {summaries : Summaries} {entities : List BatchEntityCode}

theorem totalOf_pos {count : ApplySummary → Nat} : 0 < totalOf count summaries entities ↔
    ∃ entity ∈ entities, 0 < count (summaryOf summaries entity) := by
  have general (sum : Nat) :
      0 < entities.foldl (fun sum entity => sum + count (summaryOf summaries entity)) sum ↔
        0 < sum ∨ ∃ entity ∈ entities, 0 < count (summaryOf summaries entity) := by
    induction entities generalizing sum with
    | nil => simp
    | cons first rest ih =>
      rw [List.foldl_cons, ih, Nat.add_pos_iff_pos_or_pos, List.exists_mem_cons_iff, or_assoc]
  exact (general 0).trans (or_iff_right (Nat.lt_irrefl 0))

theorem sessionStatus_completed {replaceMode : Bool} {notes : Option String}
    {resolvedCount blockedCount errorCount : Nat} :
    sessionStatus replaceMode notes resolvedCount blockedCount errorCount = .completed ↔
      ¬(isSet notes = true ∧ replaceMode = true) ∧ ¬(0 < blockedCount ∨ 0 < errorCount) := by
  unfold sessionStatus
  by_cases noted : (isSet notes && replaceMode) = true
  · rw [if_pos noted]
    rw [Bool.and_eq_true] at noted
    split <;> simp [noted]
  · rw [if_neg noted]
    rw [Bool.and_eq_true] at noted
    by_cases failed : 0 < errorCount ∧ resolvedCount = 0
    · rw [if_pos failed]
      simp [failed]
    · rw [if_neg failed]
      split <;> simp [*]

theorem failureNotes_set {message : String} (named : message ≠ "") :
    isSet (some (failureNotes message)) = true := by
  change (failureNotes message != "") = true
  rw [bne_iff_ne, failureNotes]
  split
  · decide
  · exact named

theorem checkReplaced_notes {result : PromoteResult} {text : String}
    (noted : (checkReplaced session result).2 = some text) : text ≠ "" := by
  unfold checkReplaced at noted
  split at noted
  · cases noted
    split <;> decide
  · cases noted

theorem promote_notes {text : String}
    (noted : (promote db syncedAt session staged tables).2 = some text) : text ≠ "" := by
  unfold promote at noted
  split at noted
  · cases noted
  · exact checkReplaced_notes noted

/-- A transaction that was not committed has left a note, or else a failed row. -/
theorem rolledBack_noted (lost : ¬Commits db syncedAt session staged tables) :
    isSet (runPromotion db syncedAt session staged tables).notes = true ∨
      0 < totalOf (·.errors.length) (runPromotion db syncedAt session staged tables).summaries
        session.entities := by
  rw [Commits, runPromotion] at lost
  rw [runPromotion]
  split
  · rename_i begun
    rw [if_pos begun] at lost
    unfold endPromotion at lost ⊢
    cases reached : (promote db syncedAt session staged tables).1.tx with
    | none =>
      refine .inl ?_
      cases noted : (promote db syncedAt session staged tables).2 with
      | none => exact failureNotes_set db.lost_named
      | some text => exact bne_iff_ne.mpr (promote_notes noted)
    | some tx =>
      simp only [reached] at lost
      cases answered : tx.call with
      | some _ =>
        rw [answered] at lost
        exact absurd rfl lost
      | none =>
        simp only [answered]
        by_cases silent : (tx.aborted && !db.commitThrows) = true
        · rw [Bool.and_eq_true] at silent
          obtain ⟨entity, member, failed⟩ := (promote_noted reached).aborted silent.1
          exact .inr (totalOf_pos.mpr ⟨entity, member, List.length_pos_iff.mpr failed⟩)
        · rw [if_neg silent]
          exact .inl (failureNotes_set db.lost_named)
  · exact .inl (failureNotes_set db.lost_named)

theorem committed_noted {tx : PromoteTx}
    (done : (runPromotion db syncedAt session staged tables).committed = some tx) :
    PromotionNoted staged session.entities
      (runPromotion db syncedAt session staged tables).summaries tx := by
  rw [runPromotion] at done ⊢
  split at done
  · rename_i begun
    rw [if_pos begun]
    unfold endPromotion at done ⊢
    cases reached : (promote db syncedAt session staged tables).1.tx with
    | none =>
      simp only [reached] at done
      cases done
    | some before =>
      simp only [reached] at done
      cases answered : before.call with
      | none =>
        simp only [answered] at done
        cases done
      | some after =>
        simp only [answered] at done ⊢
        cases done
        have noted := promote_noted reached
        refine ⟨fun entity id => ?_, noted.seen, noted.untouched, fun lost => ?_⟩
        · rw [call_applied answered]
          exact noted.own entity id
        · exact noted.aborted (call_aborted answered ▸ lost)
  · cases done

theorem someIssue_iff : SomeIssue db syncedAt session staged tables ↔
    0 < totalOf (·.blocked.length) (runPromotion db syncedAt session staged tables).summaries
        session.entities ∨
      0 < totalOf (·.errors.length) (runPromotion db syncedAt session staged tables).summaries
        session.entities := by
  rw [totalOf_pos, totalOf_pos, SomeIssue, ← exists_or]
  refine exists_congr fun entity => ?_
  rw [← and_or_left]
  refine and_congr_right fun _ => ?_
  rw [issueIds, ne_eq, List.map_eq_nil_iff, List.append_eq_nil_iff, not_and_or,
    List.length_pos_iff, List.length_pos_iff]

theorem runPromotion_summaries {tx : PromoteTx} (begins : db.begins = true)
    (begun : openPromotion db session tables = some tx) :
    (runPromotion db syncedAt session staged tables).summaries =
      (promoteRows db syncedAt session staged tx).summaries := by
  have own : (promote db syncedAt session staged tables).1.summaries =
      (promoteRows db syncedAt session staged tx).summaries := by
    unfold promote
    rw [begun]
    change (checkReplaced session (promoteRows db syncedAt session staged tx)).1.summaries = _
    unfold checkReplaced
    split <;> rfl
  rw [runPromotion, if_pos begins, ← own]
  unfold endPromotion
  split
  · rfl
  · split <;> rfl

theorem report_unbegun (begins : db.begins = false) : NoneResolved db syncedAt session staged tables ∧
    ¬SomeIssue db syncedAt session staged tables := by
  have blank (entity : BatchEntityCode) :
      summaryOf (runPromotion db syncedAt session staged tables).summaries entity =
        emptyApplySummary := by
    rw [runPromotion, begins]
    rfl
  refine ⟨fun entity _ id resolved => ?_, fun ⟨entity, _, issue⟩ => issue ?_⟩
  · rw [blank] at resolved
    cases resolved
  · rw [blank]
    rfl

/-- Where the rows were gone through to the last one, none is resolved when the writes of none were
all in the tables. -/
theorem noneResolved_iff_rows {tx tx' : PromoteTx} (begins : db.begins = true)
    (begun : openPromotion db session tables = some tx)
    (reached : (promoteRows db syncedAt session staged tx).tx = some tx') :
    NoneResolved db syncedAt session staged tables ↔
      ∀ entity ∈ session.entities, ∀ id ∈ staged.ids entity, ¬rowApplied tx'.applied entity id := by
  have noted := promoteRows_noted begun reached
  rw [NoneResolved, runPromotion_summaries begins begun]
  refine forall₂_congr fun entity member => ?_
  constructor
  · intro issue id _ applied
    obtain ⟨resolved, fine⟩ := (noted.own entity id).mp applied
    exact fine (issue id resolved)
  · intro lost id resolved
    by_contra fine
    exact lost id ((noted.seen entity member id).mp (.inl resolved))
      ((noted.own entity id).mpr ⟨resolved, fine⟩)

/-- And an issue is a staged row whose writes were not all in the tables. -/
theorem someIssue_iff_rows {tx tx' : PromoteTx} (begins : db.begins = true)
    (begun : openPromotion db session tables = some tx)
    (reached : (promoteRows db syncedAt session staged tx).tx = some tx') :
    SomeIssue db syncedAt session staged tables ↔
      ∃ entity ∈ session.entities, ∃ id ∈ staged.ids entity, ¬rowApplied tx'.applied entity id := by
  have noted := promoteRows_noted begun reached
  rw [SomeIssue, runPromotion_summaries begins begun]
  refine exists_congr fun entity => and_congr_right fun member => ?_
  constructor
  · intro some_left
    obtain ⟨id, issue⟩ := List.exists_mem_of_ne_nil _ some_left
    exact ⟨id, (noted.seen entity member id).mp (.inr issue),
      fun applied => ((noted.own entity id).mp applied).2 issue⟩
  · rintro ⟨id, here, lost⟩ none_left
    have fine : id ∉ issueIds (summaryOf (promoteRows db syncedAt session staged tx).summaries
        entity) := by
      rw [none_left]
      exact List.not_mem_nil
    have resolved := ((noted.seen entity member id).mpr here).resolve_right fine
    exact lost ((noted.own entity id).mpr ⟨resolved, fine⟩)

end Status

/-- For every session, staged rows, tables and behaviour of the database: what the completion
reports is what was committed exactly when the transaction was, or else no row was resolved
and the session was in replace mode or some row was blocked or has failed. -/
theorem session_report_iff (db : Database) (syncedAt : Instant) (session : SyncSession)
    (staged : StagedSession) (tables : Tables) :
    ReportsCommitted (completeOnecSyncSession db syncedAt session staged tables) ↔
      Commits db syncedAt session staged tables ∨
        NoneResolved db syncedAt session staged tables ∧
          (session.replaceMode = true ∨ SomeIssue db syncedAt session staged tables) := by
  by_cases commits : Commits db syncedAt session staged tables
  · refine iff_of_true ⟨fun entity id => ?_, fun _ => commits⟩ (.inl commits)
    obtain ⟨tx, done⟩ := Option.isSome_iff_exists.mp commits
    have noted := committed_noted done
    have applied : (completeOnecSyncSession db syncedAt session staged tables).applied =
        tx.applied := by
      simp only [completeOnecSyncSession, done, Option.map_some, Option.getD_some]
    rw [applied, noted.own]
    refine writeStatuses_resolved.trans (and_iff_right_of_imp fun resolved => ?_)
    by_contra outside
    rw [summaryOf, noted.untouched entity outside] at resolved
    cases resolved.1
  · have lost : (runPromotion db syncedAt session staged tables).committed = none :=
      Option.not_isSome_iff_eq_none.mp commits
    have applied : (completeOnecSyncSession db syncedAt session staged tables).applied = [] := by
      simp only [completeOnecSyncSession, lost, Option.map_none, Option.getD_none]
    have rows : (∀ entity id, (completeOnecSyncSession db syncedAt session staged tables).marks
        entity id = some .resolved ↔ rowApplied (completeOnecSyncSession db syncedAt session staged
          tables).applied entity id) ↔ NoneResolved db syncedAt session staged tables := by
      rw [applied]
      constructor
      · intro none_marked entity member id resolved
        by_contra noIssue
        have marked := (none_marked entity id).mp
          (writeStatuses_resolved.mpr ⟨member, resolved, noIssue⟩)
        cases marked.1
      · intro none_resolved entity id
        refine iff_of_false (fun marked => ?_) (fun here => List.not_mem_nil here.1)
        obtain ⟨member, resolved, noIssue⟩ := writeStatuses_resolved.mp marked
        exact noIssue (none_resolved entity member id resolved)
    have status : ((completeOnecSyncSession db syncedAt session staged tables).outcome.status =
        .completed → (completeOnecSyncSession db syncedAt session staged tables).committed = true) ↔
        (session.replaceMode = true ∨ SomeIssue db syncedAt session staged tables) := by
      have noted := rolledBack_noted commits
      have rolledBack : (completeOnecSyncSession db syncedAt session staged tables).committed =
          false := by
        simp only [completeOnecSyncSession, lost, Option.isSome_none]
      have reported := @sessionStatus_completed session.replaceMode
        (runPromotion db syncedAt session staged tables).notes
        (totalOf (·.resolvedStageIds.length)
          (runPromotion db syncedAt session staged tables).summaries session.entities)
        (totalOf (·.blocked.length)
          (runPromotion db syncedAt session staged tables).summaries session.entities)
        (totalOf (·.errors.length)
          (runPromotion db syncedAt session staged tables).summaries session.entities)
      rw [rolledBack, someIssue_iff]
      change (sessionStatus _ _ _ _ _ = _ → _) ↔ _
      rw [reported]
      constructor
      · intro fails
        by_contra neither
        obtain ⟨incremental, clean⟩ := not_or.mp neither
        cases fails ⟨fun both => incremental both.2, clean⟩
      · rintro replacing ⟨silent, clean⟩
        have failed := noted.resolve_left (fun set => silent ⟨set, replacing.resolve_right clean⟩)
        exact absurd (.inr failed) clean
    constructor
    · intro reports
      exact .inr ⟨rows.mp reports.rows, status.mp reports.session⟩
    · rintro (done | ⟨none_resolved, session⟩)
      · exact absurd done commits
      · exact ⟨rows.mpr none_resolved, status.mpr session⟩

namespace ReportSample

def empty {ι : Type} : Staged ι := ⟨[], List.nodup_nil⟩

def staged : StagedSession where
  nomenclature := empty
  organizations := ⟨[⟨"organization-row", "hash", "organization"⟩], List.nodup_singleton _⟩
  warehouses := empty
  counterparties := empty
  contracts := ⟨[⟨"contract-row", "hash", ⟨"contract", "nobody", none⟩⟩], List.nodup_singleton _⟩
  agreements := empty
  productPrices := empty
  specialPrices := empty
  stock := empty

def database (answers : Option Nat) : Database where
  begins := true
  answers := answers
  commitThrows := true
  lostMessage := "Transaction already closed: a query cannot be executed on an expired transaction."
  lost_named := by decide
  invalidMessage := "Invalid invocation"
  duplicateMessage := "Unique constraint failed"
  epoch := "epoch-2"

def replacing : Completion :=
  completeOnecSyncSession (database none) 1
    ⟨true, 2, [.organizations, .contracts]⟩ staged (.empty "epoch")

def timedOut : Completion :=
  completeOnecSyncSession (database (some 2)) 1
    ⟨false, 1, [.organizations, .warehouses]⟩ staged (.empty "epoch")

end ReportSample

open ReportSample in
/-- A contract without its counterparty rolls back the organization, which is left resolved.
And a session whose transaction has run out of time ends as completed. -/
theorem rolledBack_reported :
    ¬ReportsCommitted replacing ∧ ¬ReportsCommitted timedOut ∧
      timedOut.outcome.status = .completed := by
  have marked : replacing.marks .organizations "organization-row" = some .resolved := by decide
  have completed : timedOut.outcome.status = .completed := by decide
  refine ⟨fun reports => ?_, fun reports => ?_, completed⟩
  · have applied := ((reports.rows .organizations "organization-row").mp marked).1
    cases applied
  · have committed := reports.session completed
    cases committed

end LeaderProduct
