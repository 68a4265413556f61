import LeaderProduct.CatalogChanges
import LeaderProduct.Transition

/-! The change log under concurrent promotions, the pruning and a client that asks for
changes. A promotion draws its revisions long before it commits; it holds the state row from
its first write of it on, so the others wait there with a revision already drawn. -/
namespace LeaderProduct
open Transition

inductive StateWrite where
  | reset
  | record (revision : Nat)

structure CatalogTx where
  changes : CatalogLog
  deleted : Nat → Bool
  pending : Option StateWrite
  written : Option CatalogState

structure ManifestRead where
  state : Option CatalogState
  first : Option (Option Nat)

structure CatalogClient where
  cursor : Nat
  epoch : Option String
  admitted : Bool

/-- `owed` marks the committed changes that the client has not received yet, for the
statements alone. -/
structure CatalogSystem where
  log : CatalogLog
  sequence : Nat
  state : CatalogState
  stateLockedBy : Option Nat
  transactions : Nat → Option CatalogTx
  manifests : Nat → Option ManifestRead
  lastChangePruneAt : Instant
  client : Option CatalogClient
  owed : Nat → Bool

inductive CatalogAction where
  | begin (tx : Nat)
  | clear (tx : Nat)
  | create (tx : Nat) (change : CatalogChange)
  | writeState (tx : Nat) (epoch : String)
  | commit (tx : Nat)
  | rollback (tx : Nat)
  | prune (now : Instant)
  | openManifest (request : Nat)
  | readState (request : Nat)
  | readFirst (request : Nat)
  | writeMin (request : Nat)
  | join (cursor : Nat) (epoch : Option String)
  | check
  | read (limit : Nat)

def CatalogTx.opened : CatalogTx := ⟨fun _ => none, fun _ => false, none, none⟩

def expired (now : Instant) (change : CatalogChange) : Bool :=
  decide (change.changedAt + changeRetentionMs < now)

def firstRevision (log : CatalogLog) (sequence : Nat) : Option Nat :=
  (List.range (sequence + 1)).find? (fun revision => (log revision).isSome)

section Steps
variable (s : CatalogSystem)

def CatalogSystem.setTx (tx : Nat) (value : Option CatalogTx) : CatalogSystem :=
  { s with transactions := Function.update s.transactions tx value }

/-- `deleteMany({})` of `clearEntityInTx`: the rows committed by now, and its own. -/
def clearChanges (current : CatalogTx) : CatalogTx :=
  { current with
    changes := fun _ => none
    deleted := fun revision => current.deleted revision || (s.log revision).isSome
    pending := some .reset }

def createChange (tx : Nat) (current : CatalogTx) (change : CatalogChange) : CatalogSystem :=
  { s.setTx tx (some { current with
      changes := Function.update current.changes (s.sequence + 1) (some change)
      pending := some (.record (s.sequence + 1)) }) with
    sequence := s.sequence + 1 }

def writtenState (current : CatalogTx) (epoch : String) : StateWrite → CatalogState
  | .reset => ⟨epoch, 0, 0⟩
  | .record revision => { current.written.getD s.state with currentRevision := revision }

def writeState (tx : Nat) (current : CatalogTx) (epoch : String) : CatalogSystem :=
  match current.pending with
  | none => s
  | some write =>
    if s.stateLockedBy = none ∨ s.stateLockedBy = some tx then
      { s.setTx tx (some { current with
          pending := none
          written := some (writtenState s current epoch write) }) with
        stateLockedBy := some tx }
    else s

def releaseState (tx : Nat) : Option Nat :=
  if s.stateLockedBy = some tx then none else s.stateLockedBy

def committedLog (current : CatalogTx) : CatalogLog :=
  fun revision => (current.changes revision).or
    (if current.deleted revision then none else s.log revision)

def commitCatalog (tx : Nat) (current : CatalogTx) : CatalogSystem :=
  match current.pending with
  | some _ => s
  | none =>
    { s.setTx tx none with
      log := committedLog s current
      state := current.written.getD s.state
      stateLockedBy := releaseState s tx
      owed := fun revision =>
        s.owed revision || s.client.isSome && (current.changes revision).isSome }

def pruneCatalogChangesIfNeeded (now : Instant) : CatalogSystem :=
  if now < s.lastChangePruneAt + changePruneIntervalMs then s
  else
    { s with
      log := fun revision => (s.log revision).filter (fun change => !expired now change)
      lastChangePruneAt := now }

def writeMinAvailable (request : Nat) (state : CatalogState) (first : Option Nat) :
    CatalogSystem :=
  let minAvailableRevision := first.getD state.currentRevision
  if minAvailableRevision = state.minAvailableRevision then
    { s with manifests := Function.update s.manifests request none }
  else if s.stateLockedBy.isSome then s
  else
    { s with
      manifests := Function.update s.manifests request none
      state := { s.state with minAvailableRevision := minAvailableRevision } }

def checkClient (client : CatalogClient) : CatalogSystem :=
  if (refuseChanges s.state client.cursor client.epoch).isSome then
    { s with client := none, owed := fun _ => false }
  else { s with client := some { client with admitted := true } }

def readChanges (client : CatalogClient) (limit : Nat) : CatalogSystem :=
  { s with
    client := some { client with
      cursor := nextRevision s.log s.sequence client.cursor limit
      admitted := false }
    owed := fun revision => s.owed revision &&
      !(changesPage s.log s.sequence client.cursor limit).any (fun entry => entry.1 == revision) }

def catalogStep : CatalogAction → CatalogSystem
  | .begin tx =>
    match s.transactions tx with
    | none => s.setTx tx (some .opened)
    | some _ => s
  | .clear tx =>
    match s.transactions tx with
    | some current =>
      if current.pending.isNone then s.setTx tx (some (clearChanges s current)) else s
    | none => s
  | .create tx change =>
    match s.transactions tx with
    | some current => if current.pending.isNone then createChange s tx current change else s
    | none => s
  | .writeState tx epoch =>
    match s.transactions tx with
    | some current => writeState s tx current epoch
    | none => s
  | .commit tx =>
    match s.transactions tx with
    | some current => commitCatalog s tx current
    | none => s
  | .rollback tx => { s.setTx tx none with stateLockedBy := releaseState s tx }
  | .prune now => pruneCatalogChangesIfNeeded s now
  | .openManifest request =>
    { s with manifests := Function.update s.manifests request (some ⟨none, none⟩) }
  | .readState request =>
    { s with
      manifests := Function.update s.manifests request
        ((s.manifests request).map (fun seen => { seen with state := some s.state })) }
  | .readFirst request =>
    { s with
      manifests := Function.update s.manifests request
        ((s.manifests request).map (fun seen =>
          { seen with first := some (firstRevision s.log s.sequence) })) }
  | .writeMin request =>
    match s.manifests request with
    | some ⟨some state, some first⟩ => writeMinAvailable s request state first
    | _ => s
  | .join cursor epoch =>
    { s with
      client := some ⟨cursor, epoch, false⟩
      owed := fun revision => decide (cursor < revision) && (s.log revision).isSome }
  | .check =>
    match s.client with
    | some client => if client.admitted then s else checkClient s client
    | none => s
  | .read limit =>
    match s.client with
    | some client => if client.admitted then readChanges s client limit else s
    | none => s

end Steps

def emptyCatalog (epoch : String) : CatalogSystem where
  log _ := none
  sequence := 0
  state := ⟨epoch, 0, 0⟩
  stateLockedBy := none
  transactions _ := none
  manifests _ := none
  lastChangePruneAt := 0
  client := none
  owed _ := false

def Refused (state : CatalogState) (client : CatalogClient) : Prop :=
  client.admitted = false ∧ (refuseChanges state client.cursor client.epoch).isSome = true

/-- Every change that the client is still to receive is in the log, above its cursor. -/
def Ahead (s : CatalogSystem) (client : CatalogClient) : Prop :=
  ∀ revision, s.owed revision = true →
    client.cursor < revision ∧ (s.log revision).isSome = true

def NothingLost (s : CatalogSystem) : Prop :=
  ∀ client ∈ s.client, Refused s.state client ∨ Ahead s client

/-- A commit brings changes above the client's cursor and has deleted none that the client
is still to receive, a pruning deletes none of these either; or the client is refused. The
write of `minAvailableRevision` lets in no client that has missed a change. -/
def SparesClient (s : CatalogSystem) : CatalogAction → Prop
  | .commit tx => ∀ current ∈ s.transactions tx, current.pending = none → ∀ client ∈ s.client,
    Refused (current.written.getD s.state) client ∨
      Ahead s client ∧
        (∀ revision, (current.changes revision).isSome = true → client.cursor < revision) ∧
        ∀ revision, s.owed revision = true → current.deleted revision = false
  | .prune now => s.lastChangePruneAt + changePruneIntervalMs ≤ now → ∀ client ∈ s.client,
    Refused s.state client ∨
      Ahead s client ∧
        ∀ revision, s.owed revision = true → ∀ change ∈ s.log revision, expired now change = false
  | .writeMin request => ∀ state first, s.manifests request = some ⟨some state, some first⟩ →
    first.getD state.currentRevision ≠ state.minAvailableRevision → s.stateLockedBy = none →
      ∀ client ∈ s.client,
        Refused { s.state with minAvailableRevision := first.getD state.currentRevision } client ∨
          Ahead s client
  | _ => True

/-- A promotion that has written the state row commits no smaller revision than is stored. -/
def KeepsCurrent (s : CatalogSystem) : CatalogAction → Prop
  | .commit tx => ∀ current ∈ s.transactions tx, current.pending = none →
    ∀ state ∈ current.written, s.state.currentRevision ≤ state.currentRevision
  | _ => True

structure DrawnRevisions (s : CatalogSystem) : Prop where
  stored : ∀ revision, (s.log revision).isSome = true → revision ≤ s.sequence
  owed : ∀ revision, s.owed revision = true → revision ≤ s.sequence
  drawn : ∀ tx current revision, s.transactions tx = some current →
    (current.changes revision).isSome = true →
      revision ≤ s.sequence ∧ s.log revision = none ∧ s.owed revision = false
  own : ∀ tx tx' current current' revision, s.transactions tx = some current →
    s.transactions tx' = some current' → (current.changes revision).isSome = true →
      (current'.changes revision).isSome = true → tx = tx'

variable {tx : Nat} {current : CatalogTx}

section Drawn
variable {s : CatalogSystem}

theorem DrawnRevisions.setTx (inv : DrawnRevisions s) {tx : Nat} {value : Option CatalogTx}
    (fewer : ∀ after ∈ value, ∀ revision, (after.changes revision).isSome = true →
      ∃ current, s.transactions tx = some current ∧
        (current.changes revision).isSome = true) : DrawnRevisions (s.setTx tx value) := by
  have before {t : Nat} {current : CatalogTx} {revision : Nat}
      (running : (s.setTx tx value).transactions t = some current)
      (changed : (current.changes revision).isSome = true) :
      ∃ earlier, s.transactions t = some earlier ∧
        (earlier.changes revision).isSome = true := by
    simp only [CatalogSystem.setTx, Function.update_apply] at running
    split at running
    · rename_i here
      subst here
      exact fewer current running revision changed
    · exact ⟨current, running, changed⟩
  refine ⟨inv.stored, inv.owed, fun t current revision running changed => ?_,
    fun t t' current current' revision running running' changed changed' => ?_⟩
  · obtain ⟨earlier, running, changed⟩ := before running changed
    exact inv.drawn t earlier revision running changed
  · obtain ⟨earlier, running, changed⟩ := before running changed
    obtain ⟨earlier', running', changed'⟩ := before running' changed'
    exact inv.own t t' earlier earlier' revision running running' changed changed'

theorem DrawnRevisions.create (inv : DrawnRevisions s) (running : s.transactions tx = some current)
    (change : CatalogChange) :
    DrawnRevisions (createChange s tx current change) := by
  -- A change of a promotion is one from before, or the new one of the promotion that draws.
  have before {t : Nat} {after : CatalogTx} {revision : Nat}
      (running' : (createChange s tx current change).transactions t = some after)
      (changed : (after.changes revision).isSome = true) :
      t = tx ∧ revision = s.sequence + 1 ∨ ∃ earlier, s.transactions t = some earlier ∧
        (earlier.changes revision).isSome = true := by
    simp only [createChange, CatalogSystem.setTx, Function.update_apply] at running'
    split at running'
    · rename_i here
      rw [Option.some.injEq] at running'
      subst running' here
      simp only [Function.update_apply] at changed
      split at changed
      · rename_i new
        exact .inl ⟨rfl, new⟩
      · exact .inr ⟨current, running, changed⟩
    · exact .inr ⟨after, running', changed⟩
  refine ⟨fun revision stored => Nat.le_succ_of_le (inv.stored revision stored),
    fun revision owed => Nat.le_succ_of_le (inv.owed revision owed),
    fun t after revision running' changed => ?_,
    fun t t' after after' revision running' running'' changed changed' => ?_⟩
  · rcases before running' changed with ⟨_, rfl⟩ | ⟨earlier, running', changed⟩
    · refine ⟨Nat.le_refl _, ?_, ?_⟩
      · refine Option.not_isSome_iff_eq_none.mp (fun stored => ?_)
        exact Nat.not_succ_le_self _ (inv.stored _ stored)
      · refine Bool.eq_false_iff.mpr (fun owed => ?_)
        exact Nat.not_succ_le_self _ (inv.owed _ owed)
    · obtain ⟨numbered, unstored⟩ := inv.drawn t earlier revision running' changed
      exact ⟨Nat.le_succ_of_le numbered, unstored⟩
  · rcases before running' changed with ⟨here, new⟩ | ⟨earlier, running', changed⟩ <;>
      rcases before running'' changed' with ⟨here', new'⟩ | ⟨earlier', running'', changed'⟩
    · exact here.trans here'.symm
    · rw [new] at changed'
      exact absurd (inv.drawn t' earlier' _ running'' changed').1 (Nat.not_succ_le_self _)
    · rw [new'] at changed
      exact absurd (inv.drawn t earlier _ running' changed).1 (Nat.not_succ_le_self _)
    · exact inv.own t t' earlier earlier' revision running' running'' changed changed'

theorem DrawnRevisions.commit (inv : DrawnRevisions s)
    (running : s.transactions tx = some current) : DrawnRevisions (commitCatalog s tx current) := by
  unfold commitCatalog
  split
  · exact inv
  · have others {t : Nat} {other : CatalogTx}
        (running' : (s.setTx tx none).transactions t = some other) :
        t ≠ tx ∧ s.transactions t = some other := by
      simp only [CatalogSystem.setTx, Function.update_apply] at running'
      split at running'
      · cases running'
      · rename_i elsewhere
        exact ⟨elsewhere, running'⟩
    refine ⟨fun revision stored => ?_, fun revision owed => ?_,
      fun t other revision running' changed => ?_,
      fun t t' other other' revision running' running'' => ?_⟩
    · simp only [committedLog, Option.isSome_or, Bool.or_eq_true] at stored
      rcases stored with changed | kept
      · exact (inv.drawn tx current revision running changed).1
      · split at kept
        · cases kept
        · exact inv.stored revision kept
    · rcases Bool.or_eq_true_iff.mp owed with before | new
      · exact inv.owed revision before
      · exact (inv.drawn tx current revision running (Bool.and_eq_true_iff.mp new).2).1
    · obtain ⟨elsewhere, running'⟩ := others running'
      obtain ⟨numbered, unstored, unowed⟩ := inv.drawn t other revision running' changed
      have unchanged : current.changes revision = none := by
        refine Option.not_isSome_iff_eq_none.mp (fun changed' => ?_)
        exact elsewhere (inv.own t tx other current revision running' running changed changed')
      refine ⟨numbered, ?_, ?_⟩
      · simp [committedLog, unchanged, unstored]
      · simp [unowed, unchanged]
    · exact inv.own t t' other other' revision (others running').2 (others running'').2

theorem DrawnRevisions.fewer (inv : DrawnRevisions s) {after : CatalogSystem}
    (sequence : after.sequence = s.sequence) (transactions : after.transactions = s.transactions)
    (log : ∀ revision, (after.log revision).isSome = true → (s.log revision).isSome = true)
    (owed : ∀ revision, after.owed revision = true →
      s.owed revision = true ∨ (s.log revision).isSome = true) : DrawnRevisions after := by
  refine ⟨fun revision stored => ?_, fun revision marked => ?_,
    fun tx current revision running changed => ?_, ?_⟩
  · rw [sequence]
    exact inv.stored revision (log revision stored)
  · rw [sequence]
    exact (owed revision marked).elim (inv.owed revision) (inv.stored revision)
  · rw [transactions] at running
    obtain ⟨numbered, unstored, unowed⟩ := inv.drawn tx current revision running changed
    refine ⟨Nat.le_trans numbered (Nat.le_of_eq sequence.symm), ?_, ?_⟩
    · refine Option.not_isSome_iff_eq_none.mp (fun stored => ?_)
      have still := log revision stored
      rw [unstored] at still
      cases still
    · refine Bool.eq_false_iff.mpr (fun marked => ?_)
      rcases owed revision marked with before | stored
      · rw [unowed] at before
        cases before
      · rw [unstored] at stored
        cases stored
  · rw [transactions]
    exact inv.own

theorem DrawnRevisions.step (inv : DrawnRevisions s) (a : CatalogAction) :
    DrawnRevisions (catalogStep s a) := by
  cases a with
  | begin tx =>
    simp only [catalogStep]
    split
    · refine inv.setTx (fun after opened revision changed => ?_)
      cases opened
      cases changed
    · exact inv
  | clear tx =>
    simp only [catalogStep]
    split
    · split
      · refine inv.setTx (fun after cleared revision changed => ?_)
        cases cleared
        cases changed
      · exact inv
    · exact inv
  | create tx change =>
    simp only [catalogStep]
    split
    · rename_i current running
      split
      · exact inv.create running change
      · exact inv
    · exact inv
  | writeState tx epoch =>
    simp only [catalogStep]
    split
    · rename_i current running
      unfold writeState
      split
      · exact inv
      · rename_i write pending
        split
        · have kept : DrawnRevisions (s.setTx tx (some { current with
              pending := none
              written := some (writtenState s current epoch write) })) := by
            refine inv.setTx (fun after same revision changed => ?_)
            cases same
            exact ⟨current, running, changed⟩
          exact ⟨kept.stored, kept.owed, kept.drawn, kept.own⟩
        · exact inv
    · exact inv
  | commit tx =>
    simp only [catalogStep]
    split
    · rename_i current running
      exact inv.commit running
    · exact inv
  | rollback tx =>
    have kept := @DrawnRevisions.setTx s inv tx none nofun
    exact ⟨kept.stored, kept.owed, kept.drawn, kept.own⟩
  | prune now =>
    simp only [catalogStep, pruneCatalogChangesIfNeeded]
    split
    · exact inv
    · refine inv.fewer rfl rfl (fun revision stored => ?_) (fun revision => .inl)
      exact Option.isSome_of_isSome_filter _ _ stored
  | openManifest request => exact inv.fewer rfl rfl (fun _ => id) (fun _ => .inl)
  | readState request => exact inv.fewer rfl rfl (fun _ => id) (fun _ => .inl)
  | readFirst request => exact inv.fewer rfl rfl (fun _ => id) (fun _ => .inl)
  | writeMin request =>
    simp only [catalogStep]
    split
    · unfold writeMinAvailable
      dsimp only
      split
      · exact inv.fewer rfl rfl (fun _ => id) (fun _ => .inl)
      · split
        · exact inv
        · exact inv.fewer rfl rfl (fun _ => id) (fun _ => .inl)
    · exact inv
  | join cursor epoch =>
    refine inv.fewer rfl rfl (fun _ => id) (fun revision marked => .inr ?_)
    exact (Bool.and_eq_true_iff.mp marked).2
  | check =>
    simp only [catalogStep]
    split
    · split
      · exact inv
      · unfold checkClient
        split
        · exact inv.fewer rfl rfl (fun _ => id) (fun _ none => by cases none)
        · exact inv.fewer rfl rfl (fun _ => id) (fun _ => .inl)
    · exact inv
  | read limit =>
    simp only [catalogStep]
    split
    · split
      · refine inv.fewer rfl rfl (fun _ => id) (fun revision marked => .inl ?_)
        exact (Bool.and_eq_true_iff.mp marked).1
      · exact inv
    · exact inv

end Drawn

section Exact
variable {s : CatalogSystem}

theorem ahead_commit_iff (inv : DrawnRevisions s) {client : CatalogClient}
    (running : s.transactions tx = some current) (settled : current.pending = none)
    (joined : s.client = some client) :
    Ahead (commitCatalog s tx current) client ↔
      Ahead s client ∧
        (∀ revision, (current.changes revision).isSome = true → client.cursor < revision) ∧
        ∀ revision, s.owed revision = true → current.deleted revision = false := by
  have committed : commitCatalog s tx current =
      { s.setTx tx none with
        log := committedLog s current
        state := current.written.getD s.state
        stateLockedBy := releaseState s tx
        owed := fun revision =>
          s.owed revision || s.client.isSome && (current.changes revision).isSome } := by
    rw [commitCatalog, settled]
  rw [committed]
  simp only [Ahead, joined, Option.isSome_some, Bool.true_and, Bool.or_eq_true, committedLog,
    Option.isSome_or]
  constructor
  · intro ahead
    have old {revision : Nat} (marked : s.owed revision = true) :
        current.deleted revision = false ∧ (s.log revision).isSome = true := by
      have unchanged : (current.changes revision).isSome = false := by
        refine Bool.eq_false_iff.mpr (fun changed => ?_)
        rw [(inv.drawn tx current revision running changed).2.2] at marked
        cases marked
      rcases (ahead revision (.inl marked)).2 with changed | kept
      · rw [unchanged] at changed
        cases changed
      · split at kept
        · cases kept
        · rename_i spared
          exact ⟨Bool.eq_false_iff.mpr spared, kept⟩
    refine ⟨fun revision marked => ⟨(ahead revision (.inl marked)).1, (old marked).2⟩, ?_, ?_⟩
    · exact fun revision changed => (ahead revision (.inr changed)).1
    · exact fun revision marked => (old marked).1
  · rintro ⟨ahead, above, spared⟩ revision (marked | changed)
    · refine ⟨(ahead revision marked).1, .inr ?_⟩
      rw [if_neg (Bool.eq_false_iff.mp (spared revision marked))]
      exact (ahead revision marked).2
    · exact ⟨above revision changed, .inl changed⟩

theorem nothingLost_commit_iff (inv : DrawnRevisions s) (kept : NothingLost s) (tx : Nat) :
    NothingLost (catalogStep s (.commit tx)) ↔ SparesClient s (.commit tx) := by
  simp only [catalogStep, SparesClient]
  cases running : s.transactions tx with
  | none => exact iff_of_true kept nofun
  | some current =>
    simp only [Option.mem_def, Option.some.injEq, forall_eq']
    cases pending : current.pending with
    | some write =>
      simp only [commitCatalog, pending]
      exact iff_of_true kept nofun
    | none =>
      rw [NothingLost, forall_prop_of_true rfl]
      have client : (commitCatalog s tx current).client = s.client := by
        rw [commitCatalog, pending]
        rfl
      have state : (commitCatalog s tx current).state = current.written.getD s.state := by
        rw [commitCatalog, pending]
      rw [client, state]
      refine forall_congr' (fun joiner => ?_)
      refine ⟨fun lost joined => ?_, fun spares joined => ?_⟩
      · exact (lost joined).imp id (ahead_commit_iff inv running pending joined).mp
      · exact (spares joined).imp id (ahead_commit_iff inv running pending joined).mpr

theorem nothingLost_prune_iff (kept : NothingLost s) (now : Instant) :
    NothingLost (catalogStep s (.prune now)) ↔ SparesClient s (.prune now) := by
  simp only [catalogStep, pruneCatalogChangesIfNeeded, SparesClient]
  split
  · rename_i early
    exact iff_of_true kept (fun due => absurd early (Nat.not_lt_of_le due))
  · rename_i due
    rw [forall_prop_of_true (Nat.le_of_not_lt due)]
    refine forall_congr' (fun client => forall_congr' (fun joined => or_congr_right ?_))
    simp only [Ahead, Option.isSome_filter]
    constructor
    · intro ahead
      refine ⟨fun revision marked => ⟨(ahead revision marked).1, ?_⟩,
        fun revision marked change stored => ?_⟩
      · exact Option.isSome_of_any (ahead revision marked).2
      · have stays := (ahead revision marked).2
        rw [Option.mem_def.mp stored, Option.any_some, Bool.not_eq_true'] at stays
        exact stays
    · rintro ⟨ahead, spared⟩ revision marked
      obtain ⟨above, stays⟩ := ahead revision marked
      obtain ⟨change, stored⟩ := Option.isSome_iff_exists.mp stays
      refine ⟨above, ?_⟩
      rw [stored, Option.any_some, spared revision marked change stored]
      rfl

theorem nothingLost_writeMin_iff (kept : NothingLost s) (request : Nat) :
    NothingLost (catalogStep s (.writeMin request)) ↔ SparesClient s (.writeMin request) := by
  simp only [catalogStep, SparesClient]
  split
  · rename_i state first seen
    unfold writeMinAvailable
    dsimp only
    split
    · rename_i same
      refine iff_of_true kept (fun state' first' seen' changed => ?_)
      rw [seen] at seen'
      cases seen'
      exact absurd same changed
    · rename_i changed
      split
      · rename_i locked
        refine iff_of_true kept (fun _ _ _ _ free => ?_)
        rw [free] at locked
        cases locked
      · rename_i free
        constructor
        · intro lost state' first' seen' _ _
          rw [seen] at seen'
          cases seen'
          exact lost
        · exact fun spares =>
            spares state first seen changed (Option.not_isSome_iff_eq_none.mp free)
  · rename_i unread
    exact iff_of_true kept (fun state first seen => absurd seen (unread state first))

theorem nothingLost_check (kept : NothingLost s) : NothingLost (catalogStep s .check) := by
  simp only [catalogStep]
  split
  · rename_i client joined
    split
    · exact kept
    · rename_i waiting
      unfold checkClient
      split
      · exact fun _ gone => by cases gone
      · rename_i accepted
        rintro _ ⟨⟩
        refine .inr ((kept client joined).resolve_left (fun refused => ?_))
        exact accepted refused.2
  · exact kept

theorem nothingLost_read (inv : DrawnRevisions s) (kept : NothingLost s) (limit : Nat) :
    NothingLost (catalogStep s (.read limit)) := by
  simp only [catalogStep]
  split
  · rename_i client joined
    split
    · rename_i admitted
      rintro _ ⟨⟩
      refine .inr (fun revision marked => ?_)
      obtain ⟨owed, missing⟩ := Bool.and_eq_true_iff.mp marked
      have ahead : Ahead s client := by
        refine (kept client joined).resolve_left (fun refused => ?_)
        have waiting := refused.1
        rw [admitted] at waiting
        cases waiting
      obtain ⟨above, stays⟩ := ahead revision owed
      obtain ⟨change, stored⟩ := Option.isSome_iff_exists.mp stays
      refine ⟨?_, stays⟩
      have listed : (revision, change) ∈ changesAfter s.log s.sequence client.cursor :=
        mem_changesAfter.mpr ⟨inv.owed revision owed, above, stored⟩
      refine (mem_page_or_nextRevision_lt listed).resolve_left (fun onPage => ?_)
      rw [Bool.not_eq_true', List.any_eq_false] at missing
      exact missing _ onPage (beq_self_eq_true revision)
    · exact kept
  · exact kept

theorem sparesClient_exact (inv : DrawnRevisions s) (kept : NothingLost s) (a : CatalogAction) :
    NothingLost (catalogStep s a) ↔ SparesClient s a := by
  cases a with
  | begin tx =>
    refine iff_of_true ?_ trivial
    simp only [catalogStep]
    split <;> exact kept
  | clear tx =>
    refine iff_of_true ?_ trivial
    simp only [catalogStep]
    split
    · split <;> exact kept
    · exact kept
  | create tx change =>
    refine iff_of_true ?_ trivial
    simp only [catalogStep]
    split
    · split <;> exact kept
    · exact kept
  | writeState tx epoch =>
    refine iff_of_true ?_ trivial
    simp only [catalogStep]
    split
    · unfold writeState
      split
      · exact kept
      · split <;> exact kept
    · exact kept
  | commit tx => exact nothingLost_commit_iff inv kept tx
  | rollback tx => exact iff_of_true kept trivial
  | prune now => exact nothingLost_prune_iff kept now
  | openManifest request => exact iff_of_true kept trivial
  | readState request => exact iff_of_true kept trivial
  | readFirst request => exact iff_of_true kept trivial
  | writeMin request => exact nothingLost_writeMin_iff kept request
  | join cursor epoch =>
    refine iff_of_true ?_ trivial
    rintro _ ⟨⟩
    refine .inr (fun revision marked => ?_)
    obtain ⟨above, stored⟩ := Bool.and_eq_true_iff.mp marked
    exact ⟨of_decide_eq_true above, stored⟩
  | check => exact iff_of_true (nothingLost_check kept) trivial
  | read limit => exact iff_of_true (nothingLost_read inv kept limit) trivial

theorem keepsCurrent_iff (s : CatalogSystem) (a : CatalogAction) :
    s.state.currentRevision ≤ (catalogStep s a).state.currentRevision ↔ KeepsCurrent s a := by
  have same {t : CatalogSystem} (state : t.state = s.state) :
      s.state.currentRevision ≤ t.state.currentRevision := Nat.le_of_eq (by rw [state])
  cases a with
  | commit tx =>
    simp only [catalogStep, KeepsCurrent]
    cases running : s.transactions tx with
    | none => exact iff_of_true (same rfl) nofun
    | some current =>
      simp only [Option.mem_def, Option.some.injEq, forall_eq']
      cases pending : current.pending with
      | some write =>
        simp only [commitCatalog, pending]
        exact iff_of_true (same rfl) nofun
      | none =>
        simp only [commitCatalog, pending, forall_true_left]
        cases current.written with
        | none => exact iff_of_true (same rfl) nofun
        | some state => simp
  | writeMin request =>
    refine iff_of_true ?_ trivial
    simp only [catalogStep]
    split
    · unfold writeMinAvailable
      dsimp only
      split
      · exact same rfl
      · split
        · exact same rfl
        · exact Nat.le_refl _
    · exact same rfl
  | writeState tx epoch =>
    refine iff_of_true ?_ trivial
    simp only [catalogStep]
    split
    · unfold writeState
      split
      · exact same rfl
      · split <;> exact same rfl
    · exact same rfl
  | prune now =>
    refine iff_of_true ?_ trivial
    simp only [catalogStep, pruneCatalogChangesIfNeeded]
    split <;> exact same rfl
  | check =>
    refine iff_of_true ?_ trivial
    simp only [catalogStep]
    split
    · split
      · exact same rfl
      · unfold checkClient
        split <;> exact same rfl
    · exact same rfl
  | begin tx =>
    refine iff_of_true ?_ trivial
    simp only [catalogStep]
    split <;> exact same rfl
  | clear tx | create tx change | read limit =>
    refine iff_of_true ?_ trivial
    simp only [catalogStep]
    split
    · split <;> exact same rfl
    · exact same rfl
  | _ => exact iff_of_true (same rfl) trivial

end Exact

theorem drawnRevisions_emptyCatalog (epoch : String) : DrawnRevisions (emptyCatalog epoch) := by
  refine ⟨?_, ?_, ?_, ?_⟩
  · exact fun _ stored => by cases stored
  · exact fun _ marked => by cases marked
  · exact fun _ _ _ running => by cases running
  · exact fun _ _ _ _ _ running => by cases running

theorem current_grows_iff (s : CatalogSystem) (actions : List CatalogAction) :
    (trace catalogStep s actions).Pairwise (fun s t =>
        s.state.currentRevision ≤ t.state.currentRevision) ↔
      EachStep catalogStep (fun s a =>
        s.state.currentRevision ≤ (catalogStep s a).state.currentRevision) s actions :=
  pairwise_trace_iff (R := fun (s t : CatalogSystem) =>
    s.state.currentRevision ≤ t.state.currentRevision) Nat.le_trans s actions

theorem nothingLost_emptyCatalog (epoch : String) : NothingLost (emptyCatalog epoch) := by
  intro _ joined
  cases joined

/-- In every run of promotions, prunings and requests, a client that asks on from any cursor
receives every change that is committed or is refused, and the current revision never
decreases, exactly when every commit and pruning spares the client and no commit writes a
smaller revision. -/
theorem changes_complete_iff (epoch : String) (actions : List CatalogAction) :
    (Always catalogStep NothingLost (emptyCatalog epoch) actions ∧
        (trace catalogStep (emptyCatalog epoch) actions).Pairwise (fun s t =>
          s.state.currentRevision ≤ t.state.currentRevision)) ↔
      EachStep catalogStep (fun s a => SparesClient s a ∧ KeepsCurrent s a)
        (emptyCatalog epoch) actions := by
  have complete : Always catalogStep NothingLost (emptyCatalog epoch) actions ↔
      EachStep catalogStep SparesClient (emptyCatalog epoch) actions :=
    always_iff_eachStep_of_inv (J := DrawnRevisions) (fun _ a inv => inv.step a)
      (fun _ a inv kept => sparesClient_exact inv kept a) (drawnRevisions_emptyCatalog epoch)
      (nothingLost_emptyCatalog epoch) actions
  have grows : (trace catalogStep (emptyCatalog epoch) actions).Pairwise (fun s t =>
      s.state.currentRevision ≤ t.state.currentRevision) ↔
        EachStep catalogStep KeepsCurrent (emptyCatalog epoch) actions := by
    rw [current_grows_iff]
    simp only [keepsCurrent_iff]
  rw [complete, grows, eachStep_and]

namespace Sample

def catalogChange (guid : String) (changedAt : Instant) : CatalogChange :=
  ⟨guid, .upsert, "hash", changedAt⟩

def crossedPromotions : List CatalogAction :=
  [.begin 0, .begin 1, .create 0 (catalogChange "a" 5), .create 1 (catalogChange "b" 5),
    .writeState 1 "", .commit 1, .join 0 none, .check, .read 50, .writeState 0 "", .commit 0]

def prunedChange : List CatalogAction :=
  [.begin 0, .create 0 (catalogChange "a" 5), .writeState 0 "", .commit 0, .join 0 (some "e"),
    .prune (changeRetentionMs + 6), .check, .read 50]

end Sample

/-- A change that commits later with a lower revision is skipped by the client and takes the
current revision back; and one that is pruned is skipped as well. -/
theorem change_skipped :
    ¬Always catalogStep NothingLost (emptyCatalog "e") Sample.crossedPromotions ∧
      ¬(trace catalogStep (emptyCatalog "e") Sample.crossedPromotions).Pairwise (fun s t =>
        s.state.currentRevision ≤ t.state.currentRevision) ∧
      ¬Always catalogStep NothingLost (emptyCatalog "e") Sample.prunedChange := by
  refine ⟨fun always => ?_, fun grows => ?_, fun always => ?_⟩
  · rcases always.last ⟨2, none, false⟩ rfl with refused | ahead
    · exact absurd refused.2 (by decide)
    · exact absurd (ahead 1 rfl).1 (by decide)
  · rw [current_grows_iff] at grows
    revert grows
    decide
  · rcases always.last ⟨0, some "e", false⟩ rfl with refused | ahead
    · exact absurd refused.2 (by decide)
    · exact absurd (ahead 1 rfl).2 (by decide)

end LeaderProduct
