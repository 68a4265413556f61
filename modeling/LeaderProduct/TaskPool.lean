import Mathlib.Data.List.Basic
import LeaderProduct.Transition

/-! A fixed number of workers on one list of tasks. A worker takes the task at the shared cursor,
waits for it, notes its failure and comes back; with the list used up it ends. The turns come in
any order, and a task fails or not as it likes. -/
namespace TaskPool
open Transition

inductive Worker where
  | starting | waiting | ended
  deriving DecidableEq, Repr

universe u v
variable {T : Type u} {E : Type v} {n : Nat}

structure Pool (T : Type u) (E : Type v) (n : Nat) where
  cursor : Nat
  handed : List T
  errors : List E
  workers : Fin n → Worker

def opened : Pool T E n := ⟨0, [], [], fun _ => .starting⟩

def setWorker (pool : Pool T E n) (w : Fin n) (worker : Worker) : Pool T E n :=
  { pool with workers := fun v => if v = w then worker else pool.workers v }

def takeNext (tasks : List T) (pool : Pool T E n) (w : Fin n) : Pool T E n :=
  match tasks[pool.cursor]? with
  | some task =>
    setWorker { pool with cursor := pool.cursor + 1, handed := pool.handed ++ [task] } w .waiting
  | none => setWorker pool w .ended

def turn (tasks : List T) (pool : Pool T E n) (t : Fin n × Except E Unit) : Pool T E n :=
  match pool.workers t.1 with
  | .starting => takeNext tasks pool t.1
  | .waiting =>
    match t.2 with
    | .ok () => takeNext tasks pool t.1
    | .error e => takeNext tasks { pool with errors := pool.errors ++ [e] } t.1
  | .ended => pool

def AllEnded (pool : Pool T E n) : Prop := ∀ w, pool.workers w = .ended

instance (pool : Pool T E n) : Decidable (AllEnded pool) :=
  inferInstanceAs (Decidable (∀ w, pool.workers w = .ended))

structure InOrder (tasks : List T) (pool : Pool T E n) : Prop where
  handed : pool.handed = tasks.take pool.cursor
  ended : ∀ w, pool.workers w = .ended → tasks.length ≤ pool.cursor

theorem inOrder_opened (tasks : List T) : InOrder tasks (opened : Pool T E n) :=
  ⟨rfl, fun w ended => by cases ended⟩

theorem inOrder_takeNext {tasks : List T} {pool : Pool T E n} (sound : InOrder tasks pool)
    (w : Fin n) : InOrder tasks (takeNext tasks pool w) := by
  unfold takeNext
  cases next : tasks[pool.cursor]? with
  | none =>
    refine ⟨sound.handed, fun v ended => ?_⟩
    exact List.getElem?_eq_none_iff.mp next
  | some task =>
    constructor
    · simp only [setWorker, sound.handed, List.take_add_one, next, Option.toList_some]
    · intro v ended
      simp only [setWorker] at ended ⊢
      split at ended
      · cases ended
      · exact Nat.le_succ_of_le (sound.ended v ended)

theorem inOrder_turn {tasks : List T} {pool : Pool T E n} (sound : InOrder tasks pool)
    (t : Fin n × Except E Unit) : InOrder tasks (turn tasks pool t) := by
  unfold turn
  cases pool.workers t.1 with
  | starting => exact inOrder_takeNext sound t.1
  | ended => exact sound
  | waiting =>
    cases t.2 with
    | ok => exact inOrder_takeNext sound t.1
    | error e =>
      have noted : InOrder tasks { pool with errors := pool.errors ++ [e] } :=
        ⟨sound.handed, sound.ended⟩
      exact inOrder_takeNext noted t.1

theorem inOrder_run (tasks : List T) (turns : List (Fin n × Except E Unit)) :
    InOrder tasks (run (turn tasks) opened turns) :=
  run_invariant (I := InOrder tasks) (fun _ t _ sound => inOrder_turn sound t)
    (inOrder_opened tasks)

theorem handed_of_allEnded {tasks : List T} {turns : List (Fin n × Except E Unit)}
    (manned : tasks ≠ [] → 0 < n) (ended : AllEnded (run (turn tasks) opened turns)) :
    (run (turn tasks) opened turns).handed = tasks := by
  have sound := inOrder_run tasks turns
  rw [sound.handed]
  apply List.take_of_length_le
  cases tasks with
  | nil => exact Nat.zero_le _
  | cons task rest => exact sound.ended ⟨0, manned (List.cons_ne_nil task rest)⟩ (ended _)

end TaskPool
