import Mathlib.Logic.Function.Basic
import LeaderProduct.Transition

/-! Transactions of the isolation level READ COMMITTED. Every statement sees what is committed
by then and what its own transaction has written; the writes of a transaction reach the others
all at once, when it commits. -/
namespace ReadCommitted
open Transition

universe u v w x

/-- The statements of a transaction, each depending on what the earlier ones have read. Numbers
drawn from a sequence are never given back. -/
inductive Program (S : Type u) (W : Type v) (A : Type w) where
  | done (result : A)
  | read (next : S → Program S W A)
  | draw (next : Nat → Program S W A)
  | write (w : W) (next : Program S W A)

structure Tx (S : Type u) (W : Type v) (A : Type w) where
  rest : Program S W A
  writes : List W

structure System (S : Type u) (W : Type v) (A : Type w) where
  committed : S
  drawn : Nat
  transactions : Nat → Option (Tx S W A)

inductive Action (S : Type u) (W : Type v) (A : Type w) where
  | begin (tx : Nat) (program : Program S W A)
  | step (tx : Nat)
  | abort (tx : Nat)

variable {S : Type u} {W : Type v} {A : Type w} (apply : W → S → S)

/-- The database as a transaction with these writes sees it. -/
def view (committed : S) (writes : List W) : S := writes.foldl (fun s w => apply w s) committed

def System.set (s : System S W A) (tx : Nat) (value : Option (Tx S W A)) : System S W A :=
  { s with transactions := Function.update s.transactions tx value }

def System.advance (s : System S W A) (tx : Nat) : Tx S W A → System S W A
  | ⟨.done _, writes⟩ => { s.set tx none with committed := view apply s.committed writes }
  | ⟨.read next, writes⟩ => s.set tx (some ⟨next (view apply s.committed writes), writes⟩)
  | ⟨.draw next, writes⟩ => { s.set tx (some ⟨next s.drawn, writes⟩) with drawn := s.drawn + 1 }
  | ⟨.write w next, writes⟩ => s.set tx (some ⟨next, writes ++ [w]⟩)

def step (s : System S W A) : Action S W A → System S W A
  | .begin tx program =>
    if (s.transactions tx).isSome then s else s.set tx (some ⟨program, []⟩)
  | .step tx => (s.transactions tx).elim s (s.advance apply tx)
  | .abort tx => s.set tx none

def System.start (committed : S) (drawn : Nat) : System S W A := ⟨committed, drawn, fun _ => none⟩

def Program.alone : Program S W A → S → Nat → S × Nat × A
  | .done result, s, drawn => (s, drawn, result)
  | .read next, s, drawn => (next s).alone s drawn
  | .draw next, s, drawn => (next drawn).alone s (drawn + 1)
  | .write w next, s, drawn => next.alone (apply w s) drawn

inductive Call (Q : Type x) where
  | begin (tx : Nat) (request : Q)
  | step (tx : Nat)
  | abort (tx : Nat)

def Call.action {Q : Type x} (program : Q → Program S W A) : Call Q → Action S W A
  | .begin tx request => .begin tx (program request)
  | .step tx => .step tx
  | .abort tx => .abort tx

/-- The committed database that a statement meets, and what it writes. -/
structure Statement (S : Type u) (W : Type v) where
  met : S
  wrote : Option W

def Program.statement : Program S W A → S → Option (Statement S W)
  | .read _, s => some ⟨s, none⟩
  | .write w _, s => some ⟨s, some w⟩
  | _, _ => none

structure Watched (S : Type u) (W : Type v) (A : Type w) (Q : Type x) where
  system : System S W A
  requests : Nat → Option Q
  statements : Nat → List (Statement S W)

section Watching
variable {Q : Type x} (program : Q → Program S W A)

def Watched.start (committed : S) (drawn : Nat) : Watched S W A Q :=
  ⟨.start committed drawn, fun _ => none, fun _ => []⟩

def watch (r : Watched S W A Q) (a : Call Q) : Watched S W A Q where
  system := step apply r.system (a.action program)
  requests :=
    match a with
    | .begin tx request =>
      if (r.system.transactions tx).isSome then r.requests
      else Function.update r.requests tx (some request)
    | _ => r.requests
  statements :=
    match a with
    | .begin tx _ =>
      if (r.system.transactions tx).isSome then r.statements
      else Function.update r.statements tx []
    | .step tx =>
      let made := (r.system.transactions tx).bind (fun running =>
        running.rest.statement r.system.committed)
      Function.update r.statements tx (made.toList ++ r.statements tx)
    | .abort _ => r.statements

/-- If the step commits, `C` holds of the request, of its statements and writes, and of the database
that is committed before. -/
def CommitMeets (C : Q → List (Statement S W) → List W → S → Prop) (r : Watched S W A Q) :
    Call Q → Prop
  | .step tx => ∀ request result writes, r.requests tx = some request →
      r.system.transactions tx = some ⟨.done result, writes⟩ →
        C request (r.statements tx) writes r.system.committed
  | _ => True

def Program.Ends (K : S → Prop) (P : List (Statement S W) → List W → Prop) :
    Program S W A → List (Statement S W) → List W → Prop
  | .done _, past, writes => P past writes
  | .read next, past, writes =>
    ∀ s, K s → (next (view apply s writes)).Ends K P (⟨s, none⟩ :: past) writes
  | .draw next, past, writes => ∀ n, (next n).Ends K P past writes
  | .write w next, past, writes => ∀ s, K s → next.Ends K P (⟨s, some w⟩ :: past) (writes ++ [w])

def Program.Writes (P : W → Prop) : Program S W A → Prop
  | .done _ => True
  | .read next => ∀ s, (next s).Writes P
  | .draw next => ∀ n, (next n).Writes P
  | .write w next => P w ∧ next.Writes P

variable {apply program} {K I : S → Prop}

/-- What the program leaves to its end alone: `P` once it holds before all that may follow. -/
theorem Program.Writes.ends {allowed : W → Prop} {P : List (Statement S W) → List W → Prop}
    (keeps : ∀ {past writes} s, P past writes → P (⟨s, none⟩ :: past) writes)
    (keeps_write : ∀ {past writes} s w, allowed w → P past writes →
      P (⟨s, some w⟩ :: past) (writes ++ [w]))
    {p : Program S W A} (within : p.Writes allowed) {past : List (Statement S W)} {writes : List W}
    (now : P past writes) : p.Ends apply K P past writes := by
  induction p generalizing past writes with
  | done result => exact now
  | read next ih => exact fun s _ => ih _ (within _) (keeps s now)
  | draw next ih => exact fun n => ih n (within n) now
  | write w next ih => exact fun s _ => ih within.2 (keeps_write s w within.1 now)

theorem Program.Ends.mono {P P' : List (Statement S W) → List W → Prop}
    {p : Program S W A} {past : List (Statement S W)} {writes : List W}
    (ends : p.Ends apply K P past writes) (weaken : ∀ past writes, P past writes → P' past writes) :
    p.Ends apply K P' past writes := by
  induction p generalizing past writes with
  | done result => exact weaken past writes ends
  | read next ih => exact fun s known => ih _ (ends s known)
  | draw next ih => exact fun n => ih n (ends n)
  | write w next ih => exact fun s known => ih (ends s known)

def Watched.Sound (apply : W → S → S) (K : S → Prop)
    (B : Q → List (Statement S W) → List W → Prop) (r : Watched S W A Q) : Prop :=
  ∀ tx rest writes, r.system.transactions tx = some ⟨rest, writes⟩ →
    ∃ request, r.requests tx = some request ∧
      rest.Ends apply K (B request) (r.statements tx) writes

variable {B : Q → List (Statement S W) → List W → Prop}

theorem Watched.sound_start (committed : S) (drawn : Nat) :
    (Watched.start committed drawn : Watched S W A Q).Sound apply K B :=
  fun _ _ _ here => by cases here

theorem Watched.Sound.set {r : Watched S W A Q} (sound : r.Sound apply K B) {s : System S W A}
    {tx : Nat} {running : Option (Tx S W A)} {requests : Nat → Option Q}
    {statements : Nat → List (Statement S W)}
    (transactions : s.transactions = Function.update r.system.transactions tx running)
    (others : ∀ other, other ≠ tx → requests other = r.requests other ∧
      statements other = r.statements other)
    (mine : ∀ rest writes, running = some ⟨rest, writes⟩ → ∃ request, requests tx = some request ∧
      rest.Ends apply K (B request) (statements tx) writes) :
    (⟨s, requests, statements⟩ : Watched S W A Q).Sound apply K B := by
  intro other rest writes here
  dsimp only at here ⊢
  rw [transactions] at here
  by_cases same : other = tx
  · subst same
    rw [Function.update_self] at here
    exact mine rest writes here
  · rw [Function.update_of_ne same] at here
    rw [(others other same).1, (others other same).2]
    exact sound other rest writes here

theorem Watched.Sound.step {r : Watched S W A Q} (sound : r.Sound apply K B)
    (now : K r.system.committed)
    (ends : ∀ request, (program request).Ends apply K (B request) [] []) (a : Call Q) :
    (watch apply program r a).Sound apply K B := by
  have apart (tx : Nat) (past : List (Statement S W)) (other : Nat) (unlike : other ≠ tx) :
      r.requests other = r.requests other ∧
        Function.update r.statements tx past other = r.statements other :=
    ⟨rfl, Function.update_of_ne unlike _ _⟩
  cases a with
  | abort tx => exact sound.set rfl (fun _ _ => ⟨rfl, rfl⟩) (fun _ _ => nofun)
  | begin tx request =>
    simp only [watch, Call.action, ReadCommitted.step]
    split
    · exact sound
    · refine sound.set rfl (fun other unlike => ?_) ?_
      · exact ⟨Function.update_of_ne unlike _ _, Function.update_of_ne unlike _ _⟩
      · rintro rest writes here
        cases here
        refine ⟨request, Function.update_self _ _ _, ?_⟩
        rw [Function.update_self]
        exact ends request
  | step tx =>
    simp only [watch, Call.action, ReadCommitted.step]
    cases running : r.system.transactions tx with
    | none =>
      have set : r.system.transactions = Function.update r.system.transactions tx none := by
        rw [← running, Function.update_eq_self]
      exact sound.set set (apart tx _) (fun _ _ => nofun)
    | some open_tx =>
      obtain ⟨rest, writes⟩ := open_tx
      obtain ⟨request, mine, later⟩ := sound tx rest writes running
      have goes {s : System S W A} {next : Program S W A} {past : List (Statement S W)}
          {written : List W}
          (set : s.transactions = Function.update r.system.transactions tx (some ⟨next, written⟩))
          (onward : next.Ends apply K (B request) past written) :
          (⟨s, r.requests, Function.update r.statements tx past⟩ : Watched S W A Q).Sound
            apply K B := by
        refine sound.set set (apart tx past) ?_
        rintro rest' writes' here
        cases here
        rw [Function.update_self]
        exact ⟨request, mine, onward⟩
      cases rest with
      | done result => exact sound.set rfl (apart tx _) (fun _ _ => nofun)
      | read next => exact goes rfl (later r.system.committed now)
      | draw next => exact goes rfl (later r.system.drawn)
      | write w next => exact goes rfl (later r.system.committed now)

theorem watch_keeps_iff {r : Watched S W A Q} (now : I r.system.committed) (a : Call Q) :
    I (watch apply program r a).system.committed ↔
      ∀ tx result writes, a = .step tx → r.system.transactions tx = some ⟨.done result, writes⟩ →
        I (view apply r.system.committed writes) := by
  cases a with
  | begin tx request =>
    refine iff_of_true ?_ (fun _ _ _ here => by cases here)
    simp only [watch, Call.action, step]
    split <;> exact now
  | abort tx => exact iff_of_true now (fun _ _ _ here => by cases here)
  | step tx =>
    simp only [watch, Call.action, step]
    cases running : r.system.transactions tx with
    | none =>
      refine iff_of_true now (fun other result writes here there => ?_)
      cases here
      rw [running] at there
      cases there
    | some open_tx =>
      obtain ⟨rest, written⟩ := open_tx
      have idle (going : ∀ result, rest ≠ .done result)
          (stays : (r.system.advance apply tx ⟨rest, written⟩).committed = r.system.committed) :
          I (r.system.advance apply tx ⟨rest, written⟩).committed ↔
            ∀ other result writes, (Call.step tx : Call Q) = .step other →
              r.system.transactions other = some ⟨.done result, writes⟩ →
                I (view apply r.system.committed writes) := by
        rw [stays]
        refine iff_of_true now (fun other result writes here there => ?_)
        cases here
        rw [running] at there
        cases there
        exact absurd rfl (going result)
      cases rest with
      | done result =>
        constructor
        · intro after other result' writes' here there
          cases here
          rw [running] at there
          cases there
          exact after
        · exact fun kept => kept tx result written rfl running
      | read next => exact idle (fun _ => nofun) rfl
      | draw next => exact idle (fun _ => nofun) rfl
      | write w next => exact idle (fun _ => nofun) rfl

/-- The rule for runs: what a transaction has met decides what its commit may do. -/
theorem always_iff_commits {C : Q → List (Statement S W) → List W → S → Prop}
    (ends : ∀ request, (program request).Ends apply K (B request) [] [])
    (known : ∀ s, I s → K s)
    (exact_commit : ∀ {request past writes s}, B request past writes → I s →
      (I (view apply s writes) ↔ C request past writes s)) {committed : S} (start : I committed)
    (drawn : Nat) (calls : List (Call Q)) :
    Always (watch apply program) (fun r => I r.system.committed) (.start committed drawn) calls ↔
      EachStep (watch apply program) (CommitMeets C) (.start committed drawn) calls := by
  refine always_iff_eachStep_along (I := fun r : Watched S W A Q => I r.system.committed)
    (J := Watched.Sound apply K B) (fun r a sound now => sound.step (known _ now) ends a)
    (fun r a sound now => ?_) (Watched.sound_start committed drawn) start calls
  rw [watch_keeps_iff now]
  cases a with
  | begin tx request => exact iff_of_true (fun _ _ _ here => by cases here) trivial
  | abort tx => exact iff_of_true (fun _ _ _ here => by cases here) trivial
  | step tx =>
    constructor
    · intro kept request result writes mine here
      obtain ⟨request', same, end_of⟩ := sound tx _ writes here
      rw [mine, Option.some.injEq] at same
      cases same
      exact (exact_commit end_of now).mp (kept tx result writes rfl here)
    · intro fits other result writes same here
      cases same
      obtain ⟨request, mine, end_of⟩ := sound tx _ writes here
      exact (exact_commit end_of now).mpr (fits request result writes mine here)

end Watching

end ReadCommitted
