import Mathlib.Data.Rat.Floor
import Mathlib.Data.List.NodupEquivFin
import LeaderProduct.TaskPool

/-! The two pools of workers over one list: which task each worker waits for, what every task comes
to, and how the whole comes to an end. -/
namespace LeaderProduct
open Transition

section Numbers

inductive JsNumber where
  | nan
  | negativeInfinity
  | finite (value : Rat)
  | positiveInfinity

/-- The number is at least so large. -/
def JsNumber.reaches (number : JsNumber) (count : Nat) : Prop :=
  match number with
  | .nan | .negativeInfinity => False
  | .finite value => (count : Rat) ≤ value
  | .positiveInfinity => True

def JsNumber.atLeastOne : JsNumber → JsNumber
  | .nan => .nan
  | .negativeInfinity => .finite 1
  | .finite value => .finite (max 1 value)
  | .positiveInfinity => .positiveInfinity

/-- The length of `Array.from({ length: Math.min(Math.max(1, concurrency), length) })`. -/
def workerCount (concurrency : JsNumber) (length : Nat) : Nat :=
  match concurrency.atLeastOne with
  | .nan | .negativeInfinity => 0
  | .finite value => min ⌊value⌋₊ length
  | .positiveInfinity => length

theorem workerCount_pos {concurrency : JsNumber} (number : concurrency ≠ .nan) {length : Nat}
    (some_items : 0 < length) : 0 < workerCount concurrency length := by
  have floor_pos (value : Rat) (one : 1 ≤ value) : 0 < ⌊value⌋₊ := Nat.floor_pos.mpr one
  cases concurrency with
  | nan => exact absurd rfl number
  | negativeInfinity => exact lt_min (floor_pos 1 (le_refl 1)) some_items
  | finite value => exact lt_min (floor_pos _ (le_max_left 1 value)) some_items
  | positiveInfinity => exact some_items

theorem reaches_workerCount {concurrency : JsNumber} (number : concurrency ≠ .nan)
    {length count : Nat} (fits : count ≤ workerCount concurrency length) :
    concurrency.atLeastOne.reaches count := by
  have below (value : Rat) (positive : 0 ≤ value) (few : count ≤ min ⌊value⌋₊ length) :
      (count : Rat) ≤ value := by
    have floor : count ≤ ⌊value⌋₊ := Nat.le_trans few (Nat.min_le_left _ _)
    exact (Nat.le_floor_iff positive).mp floor
  cases concurrency with
  | nan => exact absurd rfl number
  | negativeInfinity => exact below 1 (by decide) fits
  | finite value => exact below _ (le_trans (by decide) (le_max_left 1 value)) fits
  | positiveInfinity => trivial

end Numbers

section Pools
variable {R E : Type} {n : Nat}

inductive PoolWorker where
  | starting
  | waiting (index : Nat)
  | ended
  | rejected
  deriving DecidableEq, Repr

def PoolWorker.unfinished : PoolWorker → Bool
  | .starting | .waiting _ => true
  | .ended | .rejected => false

/-- `called` are the indices in the order of the calls, `settled` what the tasks have come to, in
the order in which they did. -/
structure PoolRun (R E : Type) (n : Nat) where
  cursor : Nat
  called : List Nat
  settled : List (Nat × Except E R)
  workers : Fin n → PoolWorker

namespace PoolRun

def opened : PoolRun R E n := ⟨0, [], [], fun _ => .starting⟩

def setWorker (s : PoolRun R E n) (w : Fin n) (worker : PoolWorker) : PoolRun R E n :=
  { s with workers := fun v => if v = w then worker else s.workers v }

def settle (s : PoolRun R E n) (index : Nat) (outcome : Except E R) : PoolRun R E n :=
  { s with settled := s.settled ++ [(index, outcome)] }

def takeNext (length : Nat) (s : PoolRun R E n) (w : Fin n) : PoolRun R E n :=
  if s.cursor < length then
    { s with cursor := s.cursor + 1, called := s.called ++ [s.cursor] }.setWorker w
      (.waiting s.cursor)
  else s.setWorker w .ended

/-- A turn of a worker; its task, if it waits for one, comes to the given end. `goesOn` says after
which of them the worker takes up another. -/
def turn (goesOn : Except E R → Bool) (length : Nat) (s : PoolRun R E n)
    (t : Fin n × Except E R) : PoolRun R E n :=
  match s.workers t.1 with
  | .starting => s.takeNext length t.1
  | .waiting index =>
    let settled := s.settle index t.2
    if goesOn t.2 then settled.takeNext length t.1 else settled.setWorker t.1 .rejected
  | .ended | .rejected => s

def indices (s : PoolRun R E n) : List Nat := s.settled.map Prod.fst

def errors (s : PoolRun R E n) : List E :=
  s.settled.filterMap fun settled =>
    match settled.2 with
    | .ok _ => none
    | .error e => some e

def resultAt (s : PoolRun R E n) (index : Nat) : Option R :=
  s.settled.findSome? fun settled => if settled.1 = index then settled.2.toOption else none

def running (s : PoolRun R E n) : Nat :=
  (List.finRange n).countP fun w =>
    match s.workers w with
    | .waiting _ => true
    | _ => false

def AllEnded (s : PoolRun R E n) : Prop := ∀ w, s.workers w = .ended

instance (s : PoolRun R E n) : Decidable s.AllEnded :=
  inferInstanceAs (Decidable (∀ w, s.workers w = .ended))

end PoolRun

/-- A worker of `forEachConcurrent` goes on whatever its task comes to. -/
def forEachConcurrentTurn (length : Nat) : PoolRun Unit E n → Fin n × Except E Unit →
    PoolRun Unit E n :=
  PoolRun.turn (fun _ => true) length

def mapWithConcurrencyTurn (length : Nat) : PoolRun R E n → Fin n × Except E R → PoolRun R E n :=
  PoolRun.turn Except.isOk length

/-- What `forEachConcurrent` comes to, once all workers have ended. -/
def forEachConcurrent (s : PoolRun Unit E n) : Option (Except E Unit) :=
  if s.AllEnded then
    match s.errors with
    | [] => some (.ok ())
    | e :: _ => some (.error e)
  else none

/-- What `mapWithConcurrency` comes to: the first rejection, or the results of all. -/
def mapWithConcurrency (length : Nat) (s : PoolRun R E n) : Option (Except E (List (Option R))) :=
  match s.errors with
  | e :: _ => some (.error e)
  | [] => if s.AllEnded then some (.ok ((List.range length).map s.resultAt)) else none

end Pools

section Invariant
variable {R E : Type} {n length : Nat} {s : PoolRun R E n}

structure PoolRun.Sound (length : Nat) (s : PoolRun R E n) : Prop where
  called : s.called = List.range s.cursor
  inside : s.cursor ≤ length
  held : ∀ w index, s.workers w = .waiting index → index < s.cursor ∧ index ∉ s.indices
  apart : ∀ v w index, s.workers v = .waiting index → s.workers w = .waiting index → v = w
  settled_inside : ∀ index ∈ s.indices, index < s.cursor
  once : s.indices.Nodup
  covered : ∀ index < s.cursor, index ∈ s.indices ∨ ∃ w, s.workers w = .waiting index
  ended : ∀ w, s.workers w = .ended → length ≤ s.cursor

theorem sound_opened : (PoolRun.opened : PoolRun R E n).Sound length where
  called := rfl
  inside := Nat.zero_le _
  held := fun _ _ waits => by cases waits
  apart := fun _ _ _ waits => by cases waits
  settled_inside := fun _ none => absurd none List.not_mem_nil
  once := List.nodup_nil
  covered := fun _ none => absurd none (Nat.not_lt_zero _)
  ended := fun _ ended => by cases ended

structure PoolRun.Between (length : Nat) (s : PoolRun R E n) (w : Fin n) : Prop where
  called : s.called = List.range s.cursor
  inside : s.cursor ≤ length
  held : ∀ v index, v ≠ w → s.workers v = .waiting index → index < s.cursor ∧ index ∉ s.indices
  apart : ∀ u v index, u ≠ w → v ≠ w → s.workers u = .waiting index →
    s.workers v = .waiting index → u = v
  settled_inside : ∀ index ∈ s.indices, index < s.cursor
  once : s.indices.Nodup
  covered : ∀ index < s.cursor, index ∈ s.indices ∨ ∃ v, v ≠ w ∧ s.workers v = .waiting index
  ended : ∀ v, v ≠ w → s.workers v = .ended → length ≤ s.cursor

theorem between_starting (sound : s.Sound length) {w : Fin n} (starts : s.workers w = .starting) :
    s.Between length w where
  called := sound.called
  inside := sound.inside
  held := fun v index _ => sound.held v index
  apart := fun u v index _ _ => sound.apart u v index
  settled_inside := sound.settled_inside
  once := sound.once
  covered := by
    intro index before
    rcases sound.covered index before with settled | ⟨v, waits⟩
    · exact .inl settled
    · refine .inr ⟨v, ?_, waits⟩
      rintro rfl
      rw [starts] at waits
      cases waits
  ended := fun v _ => sound.ended v

theorem between_settled (sound : s.Sound length) {w : Fin n} {index : Nat}
    (waits : s.workers w = .waiting index) (outcome : Except E R) :
    (s.settle index outcome).Between length w := by
  have indices : (s.settle index outcome).indices = s.indices ++ [index] := by
    simp [PoolRun.indices, PoolRun.settle]
  have mine := sound.held w index waits
  refine ⟨sound.called, sound.inside, ?_, ?_, ?_, ?_, ?_, fun v _ => sound.ended v⟩
  · intro v other others held
    obtain ⟨before, open_task⟩ := sound.held v other held
    refine ⟨before, ?_⟩
    rw [indices, List.mem_append, List.mem_singleton, not_or]
    refine ⟨open_task, ?_⟩
    rintro rfl
    exact others (sound.apart v w other held waits)
  · exact fun u v other _ _ => sound.apart u v other
  · intro other settled
    rw [indices, List.mem_append, List.mem_singleton] at settled
    rcases settled with old | rfl
    · exact sound.settled_inside other old
    · exact mine.1
  · rw [indices]
    refine List.nodup_append.mpr ⟨sound.once, List.nodup_singleton _, fun other old last new => ?_⟩
    rw [List.mem_singleton.mp new]
    rintro rfl
    exact mine.2 old
  · intro other before
    rw [indices, List.mem_append, List.mem_singleton]
    rcases sound.covered other before with settled | ⟨v, held⟩
    · exact .inl (.inl settled)
    · by_cases own : v = w
      · rw [own, waits] at held
        cases held
        exact .inl (.inr rfl)
      · exact .inr ⟨v, own, held⟩

theorem sound_setWorker {w : Fin n} (between : s.Between length w) {worker : PoolWorker}
    (idle : ∀ index, worker ≠ .waiting index) (ends : worker = .ended → length ≤ s.cursor) :
    (s.setWorker w worker).Sound length where
  called := between.called
  inside := between.inside
  held := by
    intro v index waits
    simp only [PoolRun.setWorker] at waits
    split at waits
    · exact absurd waits (idle index)
    · next other => exact between.held v index other waits
  apart := by
    intro u v index first second
    simp only [PoolRun.setWorker] at first second
    split at first
    · exact absurd first (idle index)
    · next other =>
      split at second
      · exact absurd second (idle index)
      · next others => exact between.apart u v index other others first second
  settled_inside := between.settled_inside
  once := between.once
  covered := by
    intro index before
    rcases between.covered index before with settled | ⟨v, other, waits⟩
    · exact .inl settled
    · refine .inr ⟨v, ?_⟩
      simp only [PoolRun.setWorker, if_neg other]
      exact waits
  ended := by
    intro v ended
    simp only [PoolRun.setWorker] at ended
    split at ended
    · exact ends ended
    · next other => exact between.ended v other ended

theorem sound_takeNext {w : Fin n} (between : s.Between length w) :
    (s.takeNext length w).Sound length := by
  unfold PoolRun.takeNext
  split
  · next more =>
    refine ⟨?_, more, ?_, ?_, ?_, between.once, ?_, ?_⟩
    · simp only [PoolRun.setWorker]
      rw [between.called, List.range_succ]
    · intro v index waits
      simp only [PoolRun.setWorker] at waits ⊢
      split at waits
      · cases waits
        exact ⟨Nat.lt_succ_self _,
          fun settled => Nat.lt_irrefl _ (between.settled_inside _ settled)⟩
      · next other =>
        obtain ⟨before, open_task⟩ := between.held v index other waits
        exact ⟨Nat.lt_succ_of_lt before, open_task⟩
    · intro u v index first second
      simp only [PoolRun.setWorker] at first second
      split at first
      · next own =>
        cases first
        split at second
        · next too => exact own.trans too.symm
        · next other => exact absurd (between.held v _ other second).1 (Nat.lt_irrefl _)
      · next other =>
        split at second
        · cases second
          exact absurd (between.held u _ other first).1 (Nat.lt_irrefl _)
        · next others => exact between.apart u v index other others first second
    · exact fun index settled => Nat.lt_succ_of_lt (between.settled_inside index settled)
    · intro index before
      rcases Nat.lt_succ_iff_lt_or_eq.mp before with earlier | last
      · rcases between.covered index earlier with settled | ⟨v, other, waits⟩
        · exact .inl settled
        · refine .inr ⟨v, ?_⟩
          simp only [PoolRun.setWorker, if_neg other]
          exact waits
      · refine .inr ⟨w, ?_⟩
        simp only [PoolRun.setWorker, if_true]
        rw [last]
    · intro v ended
      simp only [PoolRun.setWorker] at ended ⊢
      split at ended
      · cases ended
      · next other => exact Nat.le_succ_of_le (between.ended v other ended)
  · next none_left =>
    exact sound_setWorker between (fun _ waits => by cases waits)
      (fun _ => Nat.le_of_not_lt none_left)

theorem sound_turn (sound : s.Sound length) (goesOn : Except E R → Bool)
    (t : Fin n × Except E R) : (s.turn goesOn length t).Sound length := by
  unfold PoolRun.turn
  split
  · next starts => exact sound_takeNext (between_starting sound starts)
  · next index waits =>
    dsimp only
    split
    · exact sound_takeNext (between_settled sound waits t.2)
    · exact sound_setWorker (between_settled sound waits t.2) (fun _ waits => by cases waits)
        (fun ended => by cases ended)
  · exact sound
  · exact sound

theorem sound_poolRun (goesOn : Except E R → Bool) (length : Nat)
    (turns : List (Fin n × Except E R)) :
    (run (PoolRun.turn goesOn length) PoolRun.opened turns).Sound length :=
  run_invariant (I := PoolRun.Sound length) (fun _ t _ sound => sound_turn sound goesOn t)
    sound_opened

end Invariant

section Ends
variable {R E : Type} {n length : Nat} {s : PoolRun R E n}

theorem PoolRun.Sound.cursor_ended (sound : s.Sound length) (manned : 0 < length → 0 < n)
    (ended : s.AllEnded) : s.cursor = length := by
  apply Nat.le_antisymm sound.inside
  rcases Nat.eq_zero_or_pos length with none_there | some_there
  · rw [none_there]
    exact Nat.zero_le _
  · exact sound.ended ⟨0, manned some_there⟩ (ended _)

theorem PoolRun.Sound.called_ended (sound : s.Sound length) (manned : 0 < length → 0 < n)
    (ended : s.AllEnded) : s.called = List.range length := by
  rw [sound.called, sound.cursor_ended manned ended]

theorem PoolRun.Sound.settled_ended (sound : s.Sound length) (manned : 0 < length → 0 < n)
    (ended : s.AllEnded) : s.indices.Perm (List.range length) := by
  have cursor := sound.cursor_ended manned ended
  rw [List.perm_ext_iff_of_nodup sound.once List.nodup_range]
  intro index
  rw [List.mem_range, ← cursor]
  refine ⟨sound.settled_inside index, fun before => ?_⟩
  rcases sound.covered index before with settled | ⟨w, waits⟩
  · exact settled
  · rw [ended w] at waits
    cases waits

theorem running_le (s : PoolRun R E n) : s.running ≤ n := by
  have few := List.countP_le_length (p := fun w =>
    match s.workers w with
    | .waiting _ => true
    | _ => false) (l := List.finRange n)
  rw [List.length_finRange] at few
  exact few

theorem running_ended (ended : s.AllEnded) : s.running = 0 := by
  rw [PoolRun.running, List.countP_eq_zero]
  intro w _
  rw [ended w]
  exact Bool.false_ne_true

theorem mem_errors {e : E} : e ∈ s.errors ↔ ∃ index, (index, .error e) ∈ s.settled := by
  simp only [PoolRun.errors, List.mem_filterMap, Prod.exists]
  constructor
  · rintro ⟨index, outcome, member, same⟩
    cases outcome with
    | ok r => cases same
    | error thrown =>
      cases same
      exact ⟨index, member⟩
  · rintro ⟨index, member⟩
    exact ⟨index, .error e, member, rfl⟩

theorem resultAt_eq_some (once : s.indices.Nodup) {index : Nat} {r : R} :
    s.resultAt index = some r ↔ (index, .ok r) ∈ s.settled := by
  unfold PoolRun.resultAt
  unfold PoolRun.indices at once
  generalize s.settled = settled at once ⊢
  induction settled with
  | nil => simp
  | cons first rest ih =>
    rw [List.map_cons, List.nodup_cons] at once
    rw [List.findSome?_cons, List.mem_cons]
    by_cases here : first.1 = index
    · have absent : (index, .ok r) ∉ rest := by
        intro member
        exact once.1 (List.mem_map.mpr ⟨_, member, here.symm⟩)
      rw [if_pos here]
      obtain ⟨own, outcome⟩ := first
      dsimp only at here ⊢
      subst here
      cases outcome with
      | ok found => simp [Except.toOption, absent, eq_comm]
      | error e =>
        have nothing : (Except.error e : Except E R).toOption = none := rfl
        rw [nothing]
        dsimp only
        rw [ih once.2]
        simp [absent]
    · rw [if_neg here]
      dsimp only
      rw [ih once.2]
      refine ⟨.inr, fun member => ?_⟩
      rcases member with rfl | later
      · exact absurd rfl here
      · exact later

end Ends

section Progress
variable {R E : Type} {n length : Nat}

def PoolRun.unfinished (s : PoolRun R E n) : Nat :=
  (List.finRange n).countP fun w => (s.workers w).unfinished

def PoolRun.left (length : Nat) (s : PoolRun R E n) : Nat := length - s.cursor + s.unfinished

def turnsTaken (step : PoolRun R E n → Fin n × Except E R → PoolRun R E n) :
    PoolRun R E n → List (Fin n × Except E R) → Nat
  | _, [] => 0
  | s, t :: rest => (if (s.workers t.1).unfinished then 1 else 0) + turnsTaken step (step s t) rest

theorem unfinished_setWorker (s : PoolRun R E n) (w : Fin n) (worker : PoolWorker) :
    (s.setWorker w worker).unfinished + (if (s.workers w).unfinished then 1 else 0) =
      s.unfinished + (if worker.unfinished then 1 else 0) := by
  have general (ws : List (Fin n)) (distinct : ws.Nodup) :
      ws.countP (fun v => ((s.setWorker w worker).workers v).unfinished) +
          (if w ∈ ws ∧ (s.workers w).unfinished then 1 else 0) =
        ws.countP (fun v => (s.workers v).unfinished) +
          (if w ∈ ws ∧ worker.unfinished then 1 else 0) := by
    induction ws with
    | nil => simp
    | cons v rest ih =>
      rw [List.nodup_cons] at distinct
      have later := ih distinct.2
      rw [List.countP_cons, List.countP_cons]
      by_cases own : v = w
      · subst own
        simp only [distinct.1, false_and, if_false, add_zero] at later
        simp only [PoolRun.setWorker, if_true, List.mem_cons, true_or, true_and] at later ⊢
        omega
      · have other : (s.setWorker w worker).workers v = s.workers v := by
          simp only [PoolRun.setWorker, if_neg own]
        rw [other]
        simp only [List.mem_cons, Ne.symm own, false_or] at later ⊢
        omega
  have all := general (List.finRange n) (List.nodup_finRange n)
  simp only [List.mem_finRange, true_and] at all
  exact all

theorem unfinished_kept {s : PoolRun R E n} {w : Fin n} (worker : PoolWorker)
    (before : (s.workers w).unfinished = true) (after : worker.unfinished = true) :
    (s.setWorker w worker).unfinished = s.unfinished := by
  have count := unfinished_setWorker s w worker
  rw [before, after] at count
  exact Nat.add_right_cancel count

theorem unfinished_done {s : PoolRun R E n} {w : Fin n} (worker : PoolWorker)
    (before : (s.workers w).unfinished = true) (after : worker.unfinished = false) :
    (s.setWorker w worker).unfinished + 1 = s.unfinished := by
  have count := unfinished_setWorker s w worker
  rw [before, after] at count
  exact count

theorem left_takeNext {s : PoolRun R E n} {w : Fin n}
    (open_worker : (s.workers w).unfinished = true) :
    (s.takeNext length w).left length + 1 = s.left length := by
  unfold PoolRun.takeNext PoolRun.left
  split
  · next more =>
    have kept := unfinished_kept
      (s := { s with cursor := s.cursor + 1, called := s.called ++ [s.cursor] }) (.waiting s.cursor)
      open_worker rfl
    rw [kept]
    simp only [PoolRun.setWorker, PoolRun.unfinished]
    omega
  · have fewer := unfinished_done .ended open_worker rfl
    simp only [PoolRun.setWorker] at fewer ⊢
    omega

theorem left_turn (goesOn : Except E R → Bool) (length : Nat) {s : PoolRun R E n}
    {t : Fin n × Except E R} (open_worker : (s.workers t.1).unfinished = true) :
    (s.turn goesOn length t).left length + 1 = s.left length := by
  unfold PoolRun.turn
  cases worker : s.workers t.1 with
  | starting => exact left_takeNext open_worker
  | waiting index =>
    have same : (s.settle index t.2).left length = s.left length := rfl
    dsimp only
    rw [← same]
    split
    · exact left_takeNext open_worker
    · have fewer := unfinished_done (s := s.settle index t.2) .rejected open_worker rfl
      simp only [PoolRun.left]
      rw [← fewer]
      rfl
  | ended =>
    rw [worker] at open_worker
    cases open_worker
  | rejected =>
    rw [worker] at open_worker
    cases open_worker

theorem turn_done (goesOn : Except E R → Bool) {s : PoolRun R E n} {t : Fin n × Except E R}
    (done : (s.workers t.1).unfinished = false) : s.turn goesOn length t = s := by
  unfold PoolRun.turn
  cases worker : s.workers t.1 with
  | starting =>
    rw [worker] at done
    cases done
  | waiting index =>
    rw [worker] at done
    cases done
  | ended => rfl
  | rejected => rfl

theorem turnsTaken_add_left (goesOn : Except E R → Bool) (length : Nat) (s : PoolRun R E n)
    (turns : List (Fin n × Except E R)) :
    turnsTaken (PoolRun.turn goesOn length) s turns +
      (run (PoolRun.turn goesOn length) s turns).left length = s.left length := by
  induction turns generalizing s with
  | nil => simp [turnsTaken, run]
  | cons t rest ih =>
    have later := ih (s.turn goesOn length t)
    rw [turnsTaken, run]
    cases worker : (s.workers t.1).unfinished with
    | true =>
      have first := left_turn goesOn length worker
      rw [if_pos rfl]
      omega
    | false =>
      rw [turn_done goesOn worker] at later ⊢
      rw [if_neg Bool.false_ne_true]
      omega

theorem left_opened : (PoolRun.opened : PoolRun R E n).left length = length + n := by
  have all : (PoolRun.opened : PoolRun R E n).unfinished = n := by
    have every := List.countP_eq_length (p := fun w : Fin n =>
      ((PoolRun.opened : PoolRun R E n).workers w).unfinished) (l := List.finRange n)
    rw [List.length_finRange] at every
    exact every.mpr fun _ _ => rfl
  rw [PoolRun.left, all]
  rfl

def PoolRun.RejectedByTask (goesOn : Except E R → Bool) (s : PoolRun R E n) : Prop :=
  ∀ w, s.workers w = .rejected → ∃ settled ∈ s.settled, goesOn settled.2 = false

theorem rejectedByTask_setWorker {goesOn : Except E R → Bool} {s : PoolRun R E n}
    (before : s.RejectedByTask goesOn) (w : Fin n) {worker : PoolWorker}
    (rejects : worker = .rejected → ∃ settled ∈ s.settled, goesOn settled.2 = false) :
    (s.setWorker w worker).RejectedByTask goesOn := by
  intro v rejected
  simp only [PoolRun.setWorker] at rejected ⊢
  split at rejected
  · exact rejects rejected
  · exact before v rejected

theorem rejectedByTask_takeNext {goesOn : Except E R → Bool} {s : PoolRun R E n}
    (before : s.RejectedByTask goesOn) (w : Fin n) :
    (s.takeNext length w).RejectedByTask goesOn := by
  unfold PoolRun.takeNext
  split
  · exact rejectedByTask_setWorker
      (s := { s with cursor := s.cursor + 1, called := s.called ++ [s.cursor] }) before w nofun
  · exact rejectedByTask_setWorker before w nofun

theorem rejectedByTask_turn {goesOn : Except E R → Bool} {s : PoolRun R E n}
    (before : s.RejectedByTask goesOn) (t : Fin n × Except E R) :
    (s.turn goesOn length t).RejectedByTask goesOn := by
  unfold PoolRun.turn
  split
  · exact rejectedByTask_takeNext before t.1
  · next index waits =>
    have noted : (s.settle index t.2).RejectedByTask goesOn := by
      intro v rejected
      obtain ⟨settled, member, stops⟩ := before v rejected
      exact ⟨settled, List.mem_append_left _ member, stops⟩
    dsimp only
    split
    · exact rejectedByTask_takeNext noted t.1
    · next stops =>
      refine rejectedByTask_setWorker noted t.1 fun _ => ⟨(index, t.2), ?_, by simpa using stops⟩
      exact List.mem_append_right _ (List.mem_singleton_self _)
  · exact before
  · exact before

theorem rejectedByTask_run (goesOn : Except E R → Bool) (length : Nat)
    (turns : List (Fin n × Except E R)) :
    (run (PoolRun.turn goesOn length) PoolRun.opened turns).RejectedByTask goesOn :=
  run_invariant (I := PoolRun.RejectedByTask goesOn)
    (fun _ t _ before => rejectedByTask_turn before t)
    (fun _ rejected => by cases rejected)

theorem allEnded_iff_left {s : PoolRun R E n} (sound : s.Sound length)
    (manned : 0 < length → 0 < n) (none_rejected : ∀ w, s.workers w ≠ .rejected) :
    s.AllEnded ↔ s.left length = 0 := by
  have done : s.unfinished = 0 ↔ s.AllEnded := by
    rw [PoolRun.unfinished, List.countP_eq_zero]
    constructor
    · intro none_open w
      have closed := none_open w (List.mem_finRange w)
      cases worker : s.workers w with
      | starting =>
        rw [worker] at closed
        exact absurd rfl closed
      | waiting index =>
        rw [worker] at closed
        exact absurd rfl closed
      | ended => rfl
      | rejected => exact absurd worker (none_rejected w)
    · intro ended w _
      rw [ended w]
      exact Bool.false_ne_true
  rw [PoolRun.left, Nat.add_eq_zero_iff, done]
  refine ⟨fun ended => ⟨?_, ended⟩, And.right⟩
  rw [sound.cursor_ended manned ended, Nat.sub_self]

/-- The pool is through after one turn for every task and one for every worker, and not before. -/
theorem allEnded_iff_turnsTaken (goesOn : Except E R → Bool) (manned : 0 < length → 0 < n)
    (turns : List (Fin n × Except E R))
    (none_rejected : ∀ w,
      (run (PoolRun.turn goesOn length) PoolRun.opened turns).workers w ≠ .rejected) :
    (run (PoolRun.turn goesOn length) PoolRun.opened turns).AllEnded ↔
      turnsTaken (PoolRun.turn goesOn length) PoolRun.opened turns = length + n := by
  have total := turnsTaken_add_left goesOn length PoolRun.opened turns
  rw [left_opened] at total
  rw [allEnded_iff_left (sound_poolRun goesOn length turns) manned none_rejected]
  omega

end Progress

section Simulation
variable {T E : Type} {n : Nat} (items : List T)

def PoolRun.forget (s : PoolRun Unit E n) : TaskPool.Pool T E n where
  cursor := s.cursor
  handed := s.called.filterMap (items[·]?)
  errors := s.errors
  workers w :=
    match s.workers w with
    | .starting => .starting
    | .waiting _ => .waiting
    | .ended | .rejected => .ended

variable {items}

theorem forget_takeNext (s : PoolRun Unit E n) (w : Fin n) :
    (s.takeNext items.length w).forget items = TaskPool.takeNext items (s.forget items) w := by
  have workers (cursor : Nat) (handed : List T) (called : List Nat) (worker : PoolWorker)
      (same : called.filterMap (items[·]?) = handed) (kind : TaskPool.Worker)
      (as : (match worker with
        | .starting => TaskPool.Worker.starting
        | .waiting _ => .waiting
        | .ended | .rejected => .ended) = kind) :
      ({ s with cursor := cursor, called := called }.setWorker w worker).forget items =
        TaskPool.setWorker { s.forget items with cursor := cursor, handed := handed } w kind := by
    simp only [PoolRun.forget, PoolRun.setWorker, TaskPool.setWorker, same]
    congr 1
    funext v
    by_cases own : v = w
    · simp only [if_pos own]
      exact as
    · simp only [if_neg own]
  unfold PoolRun.takeNext TaskPool.takeNext
  have cursor : (s.forget items).cursor = s.cursor := rfl
  rw [cursor]
  by_cases more : s.cursor < items.length
  · rw [if_pos more, List.getElem?_eq_getElem more]
    refine workers (s.cursor + 1) _ _ _ ?_ _ rfl
    rw [List.filterMap_append]
    simp [PoolRun.forget, List.getElem?_eq_getElem more]
  · rw [if_neg more, List.getElem?_eq_none_iff.mpr (Nat.le_of_not_lt more)]
    exact workers s.cursor _ _ _ rfl _ rfl

theorem forget_turn (s : PoolRun Unit E n) (t : Fin n × Except E Unit) :
    (forEachConcurrentTurn items.length s t).forget items =
      TaskPool.turn items (s.forget items) t := by
  unfold forEachConcurrentTurn PoolRun.turn TaskPool.turn
  have worker : (s.forget items).workers t.1 =
    match s.workers t.1 with
    | .starting => .starting
    | .waiting _ => .waiting
    | .ended | .rejected => .ended := rfl
  rw [worker]
  cases s.workers t.1 with
  | starting => exact forget_takeNext s t.1
  | ended => rfl
  | rejected => rfl
  | waiting index =>
    dsimp only
    rw [if_pos rfl, forget_takeNext]
    cases outcome : t.2 with
    | ok r =>
      have same : (s.settle index (.ok r)).forget items = s.forget items := by
        simp [PoolRun.forget, PoolRun.settle, PoolRun.errors]
      rw [same]
    | error e =>
      have noted : (s.settle index (.error e)).forget items =
          { s.forget items with errors := (s.forget items).errors ++ [e] } := by
        simp [PoolRun.forget, PoolRun.settle, PoolRun.errors]
      rw [noted]

theorem forget_run (turns : List (Fin n × Except E Unit)) :
    (run (forEachConcurrentTurn items.length) PoolRun.opened turns).forget items =
      run (TaskPool.turn items) TaskPool.opened turns := by
  have general (s : PoolRun Unit E n) :
      (run (forEachConcurrentTurn items.length) s turns).forget items =
        run (TaskPool.turn items) (s.forget items) turns := by
    induction turns generalizing s with
    | nil => rfl
    | cons t rest ih => rw [run, run, ih, forget_turn]
  exact general PoolRun.opened

end Simulation

section Results
variable {T R E : Type}

theorem map_eq_map_some {A B : Type} {f : A → Option B} {l : List A}
    (complete : ∀ a ∈ l, (f a).isSome = true) : l.map f = (l.filterMap f).map some := by
  induction l with
  | nil => rfl
  | cons a rest ih =>
    rw [List.forall_mem_cons] at complete
    obtain ⟨b, found⟩ := Option.isSome_iff_exists.mp complete.1
    rw [List.map_cons, List.filterMap_cons_some found, List.map_cons, ← ih complete.2, found]

theorem none_rejected_of_no_errors {n length : Nat} {turns : List (Fin n × Except E R)}
    (no_errors : (run (mapWithConcurrencyTurn length) PoolRun.opened turns).errors = [])
    (w : Fin n) :
    (run (mapWithConcurrencyTurn length) PoolRun.opened turns).workers w ≠ .rejected := by
  intro rejected
  obtain ⟨⟨index, outcome⟩, member, stops⟩ :=
    rejectedByTask_run Except.isOk length turns w rejected
  cases outcome with
  | ok r => cases stops
  | error e =>
    have thrown : e ∈ (run (mapWithConcurrencyTurn length) PoolRun.opened turns).errors :=
      mem_errors.mpr ⟨index, member⟩
    rw [no_errors] at thrown
    cases thrown

theorem none_rejected_forEach {n length : Nat} (turns : List (Fin n × Except E Unit)) (w : Fin n) :
    (run (forEachConcurrentTurn length) PoolRun.opened turns).workers w ≠ .rejected := by
  intro rejected
  obtain ⟨settled, _, stops⟩ := rejectedByTask_run (fun _ => true) length turns w rejected
  cases stops

theorem mapWithConcurrency_results {n length : Nat} {s : PoolRun R E n} (sound : s.Sound length)
    (manned : 0 < length → 0 < n) (no_errors : s.errors = [])
    {outcome : Except E (List (Option R))} (returned : mapWithConcurrency length s = some outcome) :
    s.called = List.range length ∧ ∃ results : List R, outcome = .ok (results.map some) ∧
      results.length = length ∧
        ∀ index r, results[index]? = some r ↔ (index, .ok r) ∈ s.settled := by
  unfold mapWithConcurrency at returned
  rw [no_errors] at returned
  dsimp only at returned
  split at returned
  · next ended =>
    cases returned
    have settled := sound.settled_ended manned ended
    have complete (index : Nat) (inside : index < length) : (s.resultAt index).isSome = true := by
      have member : index ∈ s.indices := settled.mem_iff.mpr (List.mem_range.mpr inside)
      obtain ⟨⟨own, outcome⟩, here, rfl⟩ := List.mem_map.mp member
      cases outcome with
      | ok r => rw [(resultAt_eq_some sound.once).mpr here, Option.isSome_some]
      | error e =>
        have thrown : e ∈ s.errors := mem_errors.mpr ⟨own, here⟩
        rw [no_errors] at thrown
        cases thrown
    have whole := map_eq_map_some (f := s.resultAt) (l := List.range length)
      fun index inside => complete index (List.mem_range.mp inside)
    refine ⟨sound.called_ended manned ended, (List.range length).filterMap s.resultAt, ?_, ?_, ?_⟩
    · rw [whole]
    · have lengths := congrArg List.length whole
      rw [List.length_map, List.length_map, List.length_range] at lengths
      exact lengths.symm
    · intro index r
      have here := congrArg (fun results => results[index]?) whole
      simp only [List.getElem?_map] at here
      have placed : ((List.range length).filterMap s.resultAt)[index]? = some r ↔
          (List.range length)[index]?.map s.resultAt = some (some r) := by
        rw [here]
        simp
      rw [placed, ← resultAt_eq_some sound.once, Option.map_eq_some_iff]
      constructor
      · rintro ⟨own, inside, found⟩
        obtain ⟨_, same⟩ := List.getElem?_eq_some_iff.mp inside
        rw [List.getElem_range] at same
        rw [same]
        exact found
      · intro found
        have member := (resultAt_eq_some sound.once).mp found
        have settled_index : index ∈ s.indices := List.mem_map.mpr ⟨_, member, rfl⟩
        have inside := List.mem_range.mp (settled.mem_iff.mp settled_index)
        exact ⟨index, by rw [List.getElem?_range inside], found⟩
  · cases returned

theorem isError_iff_errors {n : Nat} {s : PoolRun Unit E n} (ended : s.AllEnded) :
    (∃ e, forEachConcurrent s = some (.error e)) ↔ s.errors ≠ [] := by
  rw [forEachConcurrent, if_pos ended]
  cases s.errors with
  | nil => simp
  | cons e rest => simp

/-- Whatever the number of workers that is asked for, if it is a number: every item is worked on
once, the results stand in the order of the items, no more tasks run than the number says or one,
and an error of a task is thrown when all are through. -/
theorem pools_process_everything_once (concurrency : JsNumber) (number : concurrency ≠ .nan)
    (items : List T) :
    (∀ turns : List (Fin (workerCount concurrency items.length) × Except E R),
      (run (mapWithConcurrencyTurn items.length) .opened turns).errors = [] →
        ((run (mapWithConcurrencyTurn items.length) .opened turns).AllEnded ↔
          turnsTaken (mapWithConcurrencyTurn items.length) .opened turns =
            items.length + workerCount concurrency items.length) ∧
        ((run (mapWithConcurrencyTurn items.length) .opened turns).AllEnded ↔
          (mapWithConcurrency items.length
            (run (mapWithConcurrencyTurn items.length) .opened turns)).isSome = true) ∧
        ∀ outcome, mapWithConcurrency items.length
            (run (mapWithConcurrencyTurn items.length) .opened turns) = some outcome →
          (run (mapWithConcurrencyTurn items.length) .opened turns).called =
              List.range items.length ∧
            ∃ results : List R, outcome = .ok (results.map some) ∧
              results.length = items.length ∧
              ∀ index r, results[index]? = some r ↔
                (index, .ok r) ∈
                  (run (mapWithConcurrencyTurn items.length) .opened turns).settled) ∧
    ∀ turns : List (Fin (workerCount concurrency items.length) × Except E Unit),
      concurrency.atLeastOne.reaches
          (run (forEachConcurrentTurn items.length) .opened turns).running ∧
        ((run (forEachConcurrentTurn items.length) .opened turns).AllEnded ↔
          turnsTaken (forEachConcurrentTurn items.length) .opened turns =
            items.length + workerCount concurrency items.length) ∧
        ∀ outcome, forEachConcurrent
            (run (forEachConcurrentTurn items.length) .opened turns) = some outcome →
          (run (forEachConcurrentTurn items.length) .opened turns).called.filterMap (items[·]?) =
              items ∧
            (run (forEachConcurrentTurn items.length) .opened turns).indices.Perm
              (List.range items.length) ∧
            (run (forEachConcurrentTurn items.length) .opened turns).running = 0 ∧
            ((∃ e, outcome = .error e) ↔ ∃ index e,
              (index, .error e) ∈
                (run (forEachConcurrentTurn items.length) .opened turns).settled) := by
  have manned : 0 < items.length → 0 < workerCount concurrency items.length :=
    workerCount_pos number
  constructor
  · intro turns no_errors
    have sound := sound_poolRun Except.isOk items.length turns
    refine ⟨?_, ?_, fun outcome returned => ?_⟩
    · exact allEnded_iff_turnsTaken Except.isOk manned turns (none_rejected_of_no_errors no_errors)
    · unfold mapWithConcurrency
      rw [no_errors]
      dsimp only
      split
      · next ended => exact iff_of_true ended rfl
      · next going => exact iff_of_false going Bool.false_ne_true
    · exact mapWithConcurrency_results sound manned no_errors returned
  · intro turns
    have sound := sound_poolRun (fun _ : Except E Unit => true) items.length turns
    refine ⟨?_, ?_, fun outcome returned => ?_⟩
    · exact reaches_workerCount number (running_le _)
    · exact allEnded_iff_turnsTaken _ manned turns (none_rejected_forEach turns)
    · have ended : (run (forEachConcurrentTurn items.length) .opened turns).AllEnded := by
        by_contra going
        rw [forEachConcurrent, if_neg going] at returned
        cases returned
      refine ⟨?_, sound.settled_ended manned ended, running_ended ended, ?_⟩
      · have pool_ended : TaskPool.AllEnded (run (TaskPool.turn items) TaskPool.opened turns) := by
          rw [← forget_run]
          intro w
          simp only [PoolRun.forget, ended w]
        have handed := TaskPool.handed_of_allEnded
          (fun some_items => manned (List.length_pos_of_ne_nil some_items)) pool_ended
        rw [← forget_run] at handed
        exact handed
      · have thrown := isError_iff_errors ended
        rw [returned] at thrown
        simp only [Option.some.injEq] at thrown
        rw [thrown, Ne, List.eq_nil_iff_forall_not_mem, not_forall]
        simp only [not_not, mem_errors]
        exact exists_comm

def sampleTurns : List (Fin (workerCount (.finite 4) 2) × Except String Unit) :=
  [(⟨0, by decide +kernel⟩, .ok ()), (⟨1, by decide +kernel⟩, .ok ()),
    (⟨1, by decide +kernel⟩, .error "late"), (⟨0, by decide +kernel⟩, .ok ())]

theorem sample_runs_each_once :
    (run (forEachConcurrentTurn 2) .opened sampleTurns).indices.Perm (List.range 2) :=
  (((pools_process_everything_once (R := Unit) (.finite 4) nofun ["first", "second"]).2
    sampleTurns).2.2 (.error "late") (by decide +kernel)).2.1

/-- The number 0 lets one task run, and what is not a number none at all. -/
theorem zero_runs_one_and_nan_none :
    ¬(JsNumber.finite 0).reaches
        (run (forEachConcurrentTurn 1)
          (.opened : PoolRun Unit Unit (workerCount (.finite 0) 1))
          [(⟨0, by decide +kernel⟩, .ok ())]).running ∧
      mapWithConcurrency 1 (.opened : PoolRun Unit Unit (workerCount .nan 1)) =
        some (.ok [none]) := by
  refine ⟨?_, rfl⟩
  have one_runs : (run (forEachConcurrentTurn 1)
      (.opened : PoolRun Unit Unit (workerCount (.finite 0) 1))
      [(⟨0, by decide +kernel⟩, .ok ())]).running = 1 := by decide +kernel
  have too_many : ¬((1 : Nat) : Rat) ≤ 0 := by decide
  rw [one_runs]
  exact too_many

end Results

end LeaderProduct
