import LeaderProduct.ManagerActions
import LeaderProduct.Transition

/-! Two transactions with an expected revision on one order, statement by statement under
READ COMMITTED. A transaction reads the row and then the lines, deletes the lines that
its DELETE saw, updates the row, inserts its own lines and commits. A DELETE waits for
the locks of the other's deleted lines, an UPDATE for the other's lock of the row, and a
waiting statement goes on from what is committed by then. -/
namespace LeaderProduct
open Transition

inductive Side where
  | first | second
  deriving DecidableEq, Repr

def Side.other : Side → Side
  | .first => .second
  | .second => .first

structure RevisionedAction where
  action : ManagerAction
  carries : (expectedRevision action).isSome = true

structure LineRow where
  writer : Option Side
  item : OrderItem

inductive TxError where
  | refused (error : ClientOrdersError)
  | duplicateLine

structure Replacement where
  w : OrderWrite
  lines : List OrderItem
  seen : List (Option Side)

inductive Phase where
  | started
  | rowRead (row : Order)
  | decided (w : OrderWrite)
  | deleting (p : Replacement)
  | deleted (p : Replacement)
  | updated (p : Replacement)
  | inserted (p : Replacement)
  | touched (w : OrderWrite)
  | succeeded
  | failed (error : TxError)

/-- `read` is for the proofs alone: the row and the lines that the transaction decided on. -/
structure Tx where
  phase : Phase
  read : Option Order

structure LockState where
  row : Order
  lines : List LineRow
  tx : Side → Tx

def Phase.seen : Phase → Option (List (Option Side))
  | .deleting p | .deleted p | .updated p | .inserted p => some p.seen
  | _ => none

def Phase.lockedLines : Phase → List (Option Side)
  | .deleted p | .updated p | .inserted p => p.seen
  | _ => []

def Phase.locksOrder : Phase → Bool
  | .updated _ | .inserted _ | .touched _ => true
  | _ => false

def Phase.isSucceeded : Phase → Bool
  | .succeeded => true
  | _ => false

def Phase.failure : Phase → Option TxError
  | .failed error => some error
  | _ => none

def LockState.set (s : LockState) (side : Side) (t : Tx) : LockState :=
  { s with tx := fun x => if x = side then t else s.tx x }

def decidedPhase : Except ClientOrdersError TxOutcome → Phase
  | .error e => .failed (.refused e)
  | .ok (.write w) => .decided w
  | .ok (.create _) | .ok .unchanged => .succeeded

def Insertable (lines : List LineRow) (p : Replacement) : Prop :=
  (p.lines.map (·.lineGuid)).Nodup ∧
    ∀ row ∈ lines, row.writer ∉ p.seen → row.item.lineGuid ∉ p.lines.map (·.lineGuid)

instance (lines : List LineRow) (p : Replacement) : Decidable (Insertable lines p) :=
  inferInstanceAs (Decidable (_ ∧ _))

def txStep (m : Side → RevisionedAction) (s : LockState) (side : Side) : LockState :=
  let other := (s.tx side.other).phase
  let goto (phase : Phase) := s.set side { s.tx side with phase := phase }
  match (s.tx side).phase with
  | .started => goto (.rowRead s.row)
  | .rowRead row =>
    let read := { row with items := s.lines.map (·.item) }
    s.set side ⟨decidedPhase (outcome (m side).action (some read)), some read⟩
  | .decided w =>
    match w.items with
    | some lines => goto (.deleting ⟨w, lines, s.lines.map (·.writer)⟩)
    | none => if other.locksOrder then s else goto (.touched w)
  | .deleting p =>
    if p.seen.any (fun writer => writer ∈ other.lockedLines) then s else goto (.deleted p)
  | .deleted p => if other.locksOrder then s else goto (.updated p)
  | .updated p =>
    if Insertable s.lines p then goto (.inserted p) else goto (.failed .duplicateLine)
  | .inserted p =>
    { goto .succeeded with
      row := p.w.data s.row
      lines := s.lines.filter (fun row => row.writer ∉ p.seen) ++ p.lines.map (⟨some side, ·⟩) }
  | .touched w => { goto .succeeded with row := w.data s.row }
  | .succeeded | .failed _ => s

def startState (order : Order) : LockState where
  row := order
  lines := order.items.map (⟨none, ·⟩)
  tx _ := ⟨.started, none⟩

def Succeeded (s : LockState) (side : Side) : Prop := (s.tx side).phase.isSucceeded = true

def Finished (s : LockState) (side : Side) : Prop :=
  Succeeded s side ∨ (s.tx side).phase.failure.isSome = true

instance (s : LockState) (side : Side) : Decidable (Succeeded s side) :=
  inferInstanceAs (Decidable (_ = _))

instance (s : LockState) (side : Side) : Decidable (Finished s side) :=
  inferInstanceAs (Decidable (_ ∨ _))

def linesLeft (stored : List OrderItem) : Except ClientOrdersError TxOutcome → List OrderItem
  | .ok (.write w) => w.items.getD stored
  | _ => stored

def FailedWithConflict (s : LockState) (side : Side) : Prop :=
  ∃ read, (s.tx side).read = some read ∧
    (s.tx side).phase.failure = some (.refused (revisionConflict read.revision))

/-- If one of the two commits, the other fails with the revision conflict and the lines
are those of the one; if none does, the lines are as before. -/
structure NoLostUpdate (m : Side → RevisionedAction) (order : Order) (s : LockState) : Prop where
  winner : ∀ side, Succeeded s side → FailedWithConflict s side.other ∧
    ∃ read, (s.tx side).read = some read ∧
      s.lines.map (·.item) = linesLeft order.items (outcome (m side).action (some read))
  untouched : (∀ side, ¬Succeeded s side) → s.lines.map (·.item) = order.items

def Accepts (action : ManagerAction) (read : Order) : Prop :=
  ∃ out, outcome action (some read) = .ok out ∧
    ∀ w lines, out = .write w → w.items = some lines → (lines.map (·.lineGuid)).Nodup

def FindsConflict (action : ManagerAction) (read : Order) : Prop :=
  outcome action (some read) = .error (revisionConflict read.revision)

/-- Whenever the rows that one of the two read let it through, the rows that the other
read have moved on. -/
def ConflictFound (m : Side → RevisionedAction) (s : LockState) : Prop :=
  ∀ side read, (s.tx side).read = some read → Accepts (m side).action read →
    ∃ read', (s.tx side.other).read = some read' ∧ FindsConflict (m side.other).action read'

def PhaseFacts (action : ManagerAction) (t : Tx) (otherDone : Prop) : Prop :=
  match t.phase with
  | .started | .rowRead _ => True
  | .decided w => ∃ read, t.read = some read ∧ outcome action (some read) = .ok (.write w)
  | .touched w =>
    ∃ read, t.read = some read ∧ outcome action (some read) = .ok (.write w) ∧ w.items = none
  | .deleting p | .deleted p | .updated p =>
    ∃ read, t.read = some read ∧ outcome action (some read) = .ok (.write p.w) ∧
      p.w.items = some p.lines
  | .inserted p =>
    ∃ read, t.read = some read ∧ outcome action (some read) = .ok (.write p.w) ∧
      p.w.items = some p.lines ∧ (p.lines.map (·.lineGuid)).Nodup
  | .succeeded => ∃ read, t.read = some read ∧ Accepts action read
  | .failed (.refused e) => ∃ read, t.read = some read ∧ outcome action (some read) = .error e
  | .failed .duplicateLine =>
    ∃ read w lines, t.read = some read ∧ outcome action (some read) = .ok (.write w) ∧
      w.items = some lines ∧ ((lines.map (·.lineGuid)).Nodup → otherDone)

structure LockInvariant (m : Side → RevisionedAction) (order : Order) (s : LockState) : Prop where
  facts : ∀ side, PhaseFacts (m side).action (s.tx side) (Succeeded s side.other)
  seen : ∀ side writers, ¬Succeeded s side.other → (s.tx side).phase.seen = some writers →
    ∀ row ∈ s.lines, row.writer ∈ writers
  untouched : (∀ side, ¬Succeeded s side) → s.lines.map (·.item) = order.items
  winner : ∀ side, Succeeded s side → ¬Succeeded s side.other →
    ∃ read, (s.tx side).read = some read ∧
      s.lines.map (·.item) = linesLeft order.items (outcome (m side).action (some read))

@[simp] theorem Side.other_other (side : Side) : side.other.other = side := by
  cases side <;> rfl

theorem Side.other_ne (side : Side) : side.other ≠ side := by
  cases side <;> decide

theorem Side.eq_or_other (side x : Side) : x = side ∨ x = side.other := by
  cases side <;> cases x <;> decide

@[simp] theorem LockState.set_same (s : LockState) (side : Side) (t : Tx) :
    (s.set side t).tx side = t := if_pos rfl

@[simp] theorem LockState.set_other (s : LockState) (side : Side) (t : Tx) :
    (s.set side t).tx side.other = s.tx side.other := if_neg side.other_ne

@[simp] theorem LockState.set_lines (s : LockState) (side : Side) (t : Tx) :
    (s.set side t).lines = s.lines := rfl

variable {action : ManagerAction} {read : Order}

theorem PhaseFacts.mono {t : Tx} {done done' : Prop} (facts : PhaseFacts action t done)
    (later : done → done') : PhaseFacts action t done' := by
  unfold PhaseFacts at facts ⊢
  split <;> rename_i phase <;> rw [phase] at facts
  all_goals first
    | exact facts
    | (obtain ⟨read, w, lines, found, result, items, clash⟩ := facts
       exact ⟨read, w, lines, found, result, items, fun distinct => later (clash distinct)⟩)

theorem startState_invariant (m : Side → RevisionedAction) (order : Order) :
    LockInvariant m order (startState order) where
  facts _ := trivial
  seen _ _ _ phase := by cases phase
  untouched _ := by simp [startState, Function.comp_def]
  winner _ done := by cases done

section Step
variable {m : Side → RevisionedAction} {order : Order} {s : LockState} {side : Side}

section
variable (inv : LockInvariant m order s)
include inv

theorem LockInvariant.set (running : ¬Succeeded s side) {t : Tx}
    (facts : PhaseFacts (m side).action t (Succeeded s side.other))
    (unfinished : t.phase.isSucceeded = false)
    (seen : ∀ writers, ¬Succeeded s side.other → t.phase.seen = some writers →
      ∀ row ∈ s.lines, row.writer ∈ writers) :
    LockInvariant m order (s.set side t) := by
  have still : ∀ x, Succeeded (s.set side t) x ↔ Succeeded s x := by
    intro x
    rcases side.eq_or_other x with rfl | rfl
    · simp [Succeeded, unfinished, Bool.eq_false_iff.mpr running]
    · simp [Succeeded]
  constructor
  · intro x
    rw [still]
    rcases side.eq_or_other x with rfl | rfl
    · simpa using facts
    · simpa using inv.facts side.other
  · intro x writers
    rw [still]
    rcases side.eq_or_other x with rfl | rfl
    · simpa using seen writers
    · simpa using inv.seen side.other writers
  · intro none_done
    exact inv.untouched (fun x done => none_done x ((still x).mpr done))
  · intro x
    rw [still, still]
    rcases side.eq_or_other x with rfl | rfl
    · exact fun done => absurd done running
    · simpa using inv.winner side.other

theorem LockInvariant.commit {t : Tx} (success : t.phase = .succeeded) (found : t.read = some read)
    (accepts : Accepts (m side).action read) {row : Order} {lines : List LineRow}
    (left : ¬Succeeded s side.other → lines.map (·.item) =
      linesLeft order.items (outcome (m side).action (some read))) :
    LockInvariant m order { s.set side t with row := row, lines := lines } := by
  have done : Succeeded { s.set side t with row := row, lines := lines } side := by
    simp [Succeeded, success, Phase.isSucceeded]
  have still : Succeeded { s.set side t with row := row, lines := lines } side.other ↔
      Succeeded s side.other := by simp [Succeeded]
  constructor
  · intro x
    rcases side.eq_or_other x with rfl | rfl
    · simpa [PhaseFacts, success] using ⟨read, found, accepts⟩
    · have facts := inv.facts side.other
      simp only [LockState.set_other, Side.other_other] at facts ⊢
      exact facts.mono (fun _ => done)
  · intro x writers pending phase
    rcases side.eq_or_other x with rfl | rfl
    · simp [success, Phase.seen] at phase
    · rw [Side.other_other] at pending
      exact absurd done pending
  · exact fun none_done => absurd done (none_done side)
  · intro x _ pending
    rcases side.eq_or_other x with rfl | rfl
    · rw [still] at pending
      exact ⟨read, by simpa using found, left pending⟩
    · rw [Side.other_other] at pending
      exact absurd done pending

theorem LockInvariant.lines_before (running : ¬Succeeded s side)
    (pending : ¬Succeeded s side.other) : s.lines.map (·.item) = order.items := by
  have none_done : ∀ x, ¬Succeeded s x := by
    intro x
    rcases side.eq_or_other x with rfl | rfl
    · exact running
    · exact pending
  exact inv.untouched none_done

theorem LockInvariant.decide (running : ¬Succeeded s side) (read : Order) :
    LockInvariant m order
      (s.set side ⟨decidedPhase (outcome (m side).action (some read)), some read⟩) := by
  have through {out : TxOutcome} (result : outcome (m side).action (some read) = .ok out)
      (unwritten : ∀ w, out ≠ .write w) :
      LockInvariant m order (s.set side ⟨.succeeded, some read⟩) := by
    have accepts : Accepts (m side).action read :=
      ⟨out, result, fun w _ wrote => absurd wrote (unwritten w)⟩
    have left : ¬Succeeded s side.other → s.lines.map (·.item) =
        linesLeft order.items (outcome (m side).action (some read)) := by
      intro pending
      rw [result]
      cases out with
      | write w => exact absurd rfl (unwritten w)
      | create _ | unchanged => exact inv.lines_before running pending
    exact inv.commit rfl rfl accepts left
  cases result : outcome (m side).action (some read) with
  | error e => exact inv.set running ⟨read, rfl, result⟩ rfl (fun _ _ phase => by cases phase)
  | ok out =>
    cases out with
    | write w => exact inv.set running ⟨read, rfl, result⟩ rfl (fun _ _ phase => by cases phase)
    | create fresh => exact through result (fun _ => by simp)
    | unchanged => exact through result (fun _ => by simp)

/-- A commit of lines leaves those of the transaction alone: its DELETE saw every line,
unless the other transaction committed in between. -/
theorem LockInvariant.replaced {p : Replacement}
    (pending : ¬Succeeded s side.other) (phase : (s.tx side).phase.seen = some p.seen) :
    (s.lines.filter (fun row : LineRow => row.writer ∉ p.seen) ++
      p.lines.map (LineRow.mk (some side))).map LineRow.item = p.lines := by
  have none_left : s.lines.filter (fun row : LineRow => row.writer ∉ p.seen) = [] := by
    rw [List.filter_eq_nil_iff]
    intro row member
    have seen := inv.seen side p.seen pending phase row member
    simpa using seen
  rw [none_left]
  simp [Function.comp_def]

end

theorem accepts_of_write {w : OrderWrite} (result : outcome action (some read) = .ok (.write w))
    (distinct : ∀ lines, w.items = some lines → (lines.map (·.lineGuid)).Nodup) :
    Accepts action read := by
  refine ⟨_, result, fun w' lines wrote own => ?_⟩
  cases wrote
  exact distinct lines own

/-- Its own lines clash only with lines that its DELETE did not see, which the other one has
committed since. -/
theorem LockInvariant.done_of_clash (inv : LockInvariant m order s) {p : Replacement}
    (saw : (s.tx side).phase.seen = some p.seen) (clash : ¬Insertable s.lines p)
    (distinct : (p.lines.map (·.lineGuid)).Nodup) : Succeeded s side.other := by
  by_cases done : Succeeded s side.other
  · exact done
  · have fits : Insertable s.lines p :=
      ⟨distinct, fun row member unseen => absurd (inv.seen side p.seen done saw row member) unseen⟩
    exact absurd fits clash

theorem txStep_invariant (inv : LockInvariant m order s) :
    LockInvariant m order (txStep m s side) := by
  have facts := inv.facts side
  have running {phase : Phase} (here : (s.tx side).phase = phase)
      (unfinished : phase.isSucceeded = false) : ¬Succeeded s side := by
    simp [Succeeded, here, unfinished]
  have still_seen {phase next : Phase} (here : (s.tx side).phase = phase)
      (same : next.seen = phase.seen) : ∀ writers, ¬Succeeded s side.other →
        next.seen = some writers → ∀ row ∈ s.lines, row.writer ∈ writers := by
    intro writers pending saw
    rw [same, ← here] at saw
    exact inv.seen side writers pending saw
  unfold txStep
  unfold PhaseFacts at facts
  cases phase : (s.tx side).phase with
  | succeeded | failed => exact inv
  | started => exact inv.set (running phase rfl) trivial rfl (still_seen phase rfl)
  | rowRead row => exact inv.decide (running phase rfl) _
  | decided w =>
    rw [phase] at facts
    obtain ⟨read, found, result⟩ := facts
    dsimp only
    split
    · rename_i lines items
      have saw_all : ∀ writers, ¬Succeeded s side.other →
          some (s.lines.map (·.writer)) = some writers → ∀ row ∈ s.lines, row.writer ∈ writers := by
        intro writers _ saw row member
        cases saw
        exact List.mem_map_of_mem member
      exact inv.set (running phase rfl) ⟨read, found, result, items⟩ rfl saw_all
    · rename_i kept
      split
      · exact inv
      · exact inv.set (running phase rfl) ⟨read, found, result, kept⟩ rfl (still_seen phase rfl)
  | deleting p =>
    rw [phase] at facts
    dsimp only
    split
    · exact inv
    · have saw_all : ∀ writers, ¬Succeeded s side.other → some p.seen = some writers →
          ∀ row ∈ s.lines, row.writer ∈ writers := still_seen phase rfl
      exact inv.set (running phase rfl) facts rfl saw_all
  | deleted p =>
    rw [phase] at facts
    dsimp only
    split
    · exact inv
    · exact inv.set (running phase rfl) facts rfl (still_seen phase rfl)
  | updated p =>
    rw [phase] at facts
    obtain ⟨read, found, result, items⟩ := facts
    dsimp only
    split
    · rename_i fits
      exact inv.set (running phase rfl) ⟨read, found, result, items, fits.1⟩ rfl
        (still_seen phase rfl)
    · rename_i clash
      have saw : (s.tx side).phase.seen = some p.seen := by
        rw [phase]
        rfl
      exact inv.set (running phase rfl)
        ⟨read, p.w, p.lines, found, result, items, inv.done_of_clash saw clash⟩ rfl
        (fun _ _ h => by cases h)
  | inserted p =>
    rw [phase] at facts
    obtain ⟨read, found, result, items, distinct⟩ := facts
    have saw : (s.tx side).phase.seen = some p.seen := by
      rw [phase]
      rfl
    have accepts : Accepts (m side).action read := by
      refine accepts_of_write result (fun lines own => ?_)
      cases items.symm.trans own
      exact distinct
    have left : ¬Succeeded s side.other →
        (s.lines.filter (fun row : LineRow => row.writer ∉ p.seen) ++
          p.lines.map (LineRow.mk (some side))).map (·.item) =
          linesLeft order.items (outcome (m side).action (some read)) := by
      intro pending
      rw [result, inv.replaced pending saw]
      simp [linesLeft, items]
    exact inv.commit (t := { s.tx side with phase := .succeeded }) rfl found accepts left
  | touched w =>
    rw [phase] at facts
    obtain ⟨read, found, result, kept⟩ := facts
    have accepts : Accepts (m side).action read := by
      refine accepts_of_write result (fun lines own => ?_)
      cases kept.symm.trans own
    have left : ¬Succeeded s side.other → s.lines.map (·.item) =
        linesLeft order.items (outcome (m side).action (some read)) := by
      intro pending
      have before := inv.lines_before (running phase rfl) pending
      rw [result]
      simpa [linesLeft, kept] using before
    exact inv.commit (t := { s.tx side with phase := .succeeded }) rfl found accepts left

end Step

section Outcome
variable {m : Side → RevisionedAction} {order : Order} {s : LockState} {side : Side}

theorem succeeded_phase : Succeeded s side ↔ (s.tx side).phase = .succeeded := by
  unfold Succeeded
  cases (s.tx side).phase <;> simp [Phase.isSucceeded]

theorem failure_phase {phase : Phase} {error : TxError} :
    phase.failure = some error ↔ phase = .failed error := by
  cases phase <;> simp [Phase.failure]

theorem LockInvariant.accepted (inv : LockInvariant m order s) (done : Succeeded s side) :
    ∃ read, (s.tx side).read = some read ∧ Accepts (m side).action read := by
  have facts := inv.facts side
  rw [PhaseFacts, succeeded_phase.mp done] at facts
  exact facts

theorem LockInvariant.refused (inv : LockInvariant m order s) {error : ClientOrdersError}
    (failure : (s.tx side).phase.failure = some (.refused error)) :
    ∃ read, (s.tx side).read = some read ∧ outcome (m side).action (some read) = .error error := by
  have facts := inv.facts side
  rw [PhaseFacts, failure_phase.mp failure] at facts
  exact facts

theorem LockInvariant.clashed (inv : LockInvariant m order s)
    (failure : (s.tx side).phase.failure = some .duplicateLine)
    (found : (s.tx side).read = some read) (accepts : Accepts (m side).action read) :
    Succeeded s side.other := by
  have facts := inv.facts side
  rw [PhaseFacts, failure_phase.mp failure] at facts
  obtain ⟨_, w, lines, found', result, items, clash⟩ := facts
  rw [found, Option.some.injEq] at found'
  subst found'
  obtain ⟨out, accepted, distinct⟩ := accepts
  rw [result, Except.ok.injEq] at accepted
  exact clash (distinct w lines accepted.symm items)

theorem not_accepts_of_error {error : ClientOrdersError}
    (result : outcome action (some read) = .error error) : ¬Accepts action read := by
  rintro ⟨out, accepted, _⟩
  rw [result] at accepted
  cases accepted

theorem LockInvariant.loser (inv : LockInvariant m order s) (finished : Finished s side)
    (found : (s.tx side).read = some read) (conflict : FindsConflict (m side).action read) :
    ¬Succeeded s side ∧ FailedWithConflict s side := by
  have rejects := not_accepts_of_error conflict
  have unfinished : ¬Succeeded s side := by
    intro done
    obtain ⟨_, found', accepts⟩ := inv.accepted done
    rw [found, Option.some.injEq] at found'
    exact rejects (found' ▸ accepts)
  refine ⟨unfinished, read, found, ?_⟩
  obtain ⟨error, failure⟩ := Option.isSome_iff_exists.mp (finished.resolve_left unfinished)
  have facts := inv.facts side
  rw [PhaseFacts, failure_phase.mp failure] at facts
  cases error with
  | refused error =>
    obtain ⟨_, found', result⟩ := facts
    rw [found, Option.some.injEq] at found'
    rw [← found', conflict, Except.error.injEq] at result
    rw [failure, result]
  | duplicateLine =>
    obtain ⟨_, w, _, found', result, _⟩ := facts
    rw [found, Option.some.injEq] at found'
    rw [← found', conflict] at result
    cases result

theorem noLostUpdate_iff (inv : LockInvariant m order s) (finished : ∀ side, Finished s side) :
    NoLostUpdate m order s ↔ ConflictFound m s := by
  constructor
  · intro law side read found accepts
    have done : Succeeded s side := by
      refine (finished side).resolve_right fun failed => ?_
      obtain ⟨error, failure⟩ := Option.isSome_iff_exists.mp failed
      cases error with
      | refused error =>
        obtain ⟨_, found', result⟩ := inv.refused failure
        rw [found, Option.some.injEq] at found'
        exact not_accepts_of_error (found' ▸ result) accepts
      | duplicateLine =>
        -- the other one committed, so this one would have to fail with the conflict
        obtain ⟨_, _, conflict⟩ := (law.winner side.other (inv.clashed failure found accepts)).1
        rw [Side.other_other, failure] at conflict
        cases conflict
    obtain ⟨⟨read', found', failure⟩, _⟩ := law.winner side done
    obtain ⟨_, again, result⟩ := inv.refused failure
    rw [found', Option.some.injEq] at again
    subst again
    exact ⟨read', found', result⟩
  · intro moved
    refine ⟨fun side done => ?_, inv.untouched⟩
    obtain ⟨read, found, accepts⟩ := inv.accepted done
    obtain ⟨read', found', conflict⟩ := moved side read found accepts
    obtain ⟨pending, failed⟩ := inv.loser (finished side.other) found' conflict
    exact ⟨failed, inv.winner side done pending⟩

end Outcome

/-- For every two operations and every schedule of their statements that ends both, no
update is lost exactly when, whenever one of the two reads an order that lets it through,
the other reads an order that has moved on and whose revision is the check that stops it. -/
theorem no_lost_update_iff (m : Side → RevisionedAction) (order : Order) (schedule : List Side)
    (finished : ∀ side, Finished (run (txStep m) (startState order) schedule) side) :
    NoLostUpdate m order (run (txStep m) (startState order) schedule) ↔
      ConflictFound m (run (txStep m) (startState order) schedule) :=
  noLostUpdate_iff
    (run_invariant (I := LockInvariant m order) (fun _ _ _ => txStep_invariant)
      (startState_invariant m order))
    finished

namespace Sample

def edits : Side → RevisionedAction
  | .first => ⟨update 1 2 5, rfl⟩
  | .second =>
    ⟨.update ref
      ⟨{ body 3 with items := [{ item 3 with lineGuid := some "other" }] }, 1⟩ references (clock 6),
      rfl⟩

def inTurn : List Side := List.replicate 7 .first ++ List.replicate 7 .second

def overlapping : List Side :=
  List.replicate 3 .first ++ List.replicate 3 .second ++ List.replicate 4 .first ++
    List.replicate 4 .second

end Sample

theorem edits_in_turn_keep_first :
    (∀ side, Finished (run (txStep Sample.edits) (startState Sample.queued) Sample.inTurn) side) ∧
      NoLostUpdate Sample.edits Sample.queued
        (run (txStep Sample.edits) (startState Sample.queued) Sample.inTurn) := by
  have finished : ∀ side,
      Finished (run (txStep Sample.edits) (startState Sample.queued) Sample.inTurn) side := by
    intro side
    cases side <;> decide
  refine ⟨finished, (no_lost_update_iff _ _ _ finished).mpr ?_⟩
  intro side read found accepts
  cases side with
  | first => exact ⟨_, rfl, rfl⟩
  | second =>
    cases found
    obtain ⟨out, accepted, _⟩ := accepts
    cases accepted

/-- Overlapping, both commit and the lines are a mixture. -/
theorem overlapping_edits_both_commit :
    expectedRevision (Sample.edits .first).action =
        expectedRevision (Sample.edits .second).action ∧
      (∀ side, Succeeded
        (run (txStep Sample.edits) (startState Sample.queued) Sample.overlapping) side) ∧
      (run (txStep Sample.edits) (startState Sample.queued) Sample.overlapping).lines.map
        (fun row => (row.item.lineGuid, row.item.quantity)) = [("line", 2), ("other", 3)] ∧
      ¬NoLostUpdate Sample.edits Sample.queued
        (run (txStep Sample.edits) (startState Sample.queued) Sample.overlapping) := by
  have done : ∀ side, Succeeded
      (run (txStep Sample.edits) (startState Sample.queued) Sample.overlapping) side := by
    intro side
    cases side <;> decide
  refine ⟨rfl, done, by decide, fun law => ?_⟩
  obtain ⟨_, _, failure⟩ := (law.winner .first (done .first)).1
  cases failure

end LeaderProduct
