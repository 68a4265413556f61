import Mathlib.Data.List.Nodup
import LeaderProduct.Transition

/-! The slots for reads of counterparty cards in 1C. A call that finds all of them taken waits in a
line, and a call that ends hands its slot on to the head of the line without touching the
counter. -/
namespace LeaderProduct
open Transition

section Limits

abbrev IntegerEnv := Option Int

def positiveIntegerEnv (parsed : IntegerEnv) (fallback max : Nat) : Nat :=
  match parsed with
  | some n => if 0 < n then min n.toNat max else fallback
  | none => fallback

structure CardReadEnv where
  maxConcurrency : IntegerEnv
  maxQueue : IntegerEnv

def maxConcurrentCardReads (env : CardReadEnv) : Nat := positiveIntegerEnv env.maxConcurrency 3 12

def maxQueuedCardReads (env : CardReadEnv) : Nat := positiveIntegerEnv env.maxQueue 18 100

theorem positiveIntegerEnv_pos (parsed : IntegerEnv) {fallback max : Nat} (usable : 0 < fallback)
    (allowed : 0 < max) : 0 < positiveIntegerEnv parsed fallback max := by
  unfold positiveIntegerEnv
  cases parsed with
  | none => exact usable
  | some n =>
    dsimp only
    split
    · omega
    · exact usable

theorem maxConcurrentCardReads_pos (env : CardReadEnv) : 0 < maxConcurrentCardReads env :=
  positiveIntegerEnv_pos _ (by decide) (by decide)

end Limits

section Calls
variable {T E : Type}

structure CardReadMetrics where
  upstreamReads : Nat
  queueWaits : Nat
  rejectedReads : Nat

inductive ErrorCodes where
  | tooManyRequests | validationError | forbidden | notFound

structure CounterpartiesError where
  status : Nat
  code : ErrorCodes
  message : String

def tooManyCardReads : CounterpartiesError :=
  ⟨429, .tooManyRequests,
    "1С обрабатывает другие карточки. Повторите запрос через несколько секунд."⟩

inductive CardReadAnswer (T E : Type) where
  | task (outcome : Except E T)
  | refused (error : CounterpartiesError)

/-- Calls are numbered as they arrive. `resolved` are those whose wait is over and which have not
gone on yet, in the order of their turns; `queued` and `started` are kept for the statements
alone. -/
structure CardReads (T E : Type) where
  activeCardReads : Nat
  cardReadWaiters : List Nat
  resolved : List Nat
  running : List Nat
  answers : List (Nat × CardReadAnswer T E)
  arrived : Nat
  metrics : CardReadMetrics
  queued : List Nat
  started : List Nat

def noCardReads : CardReads T E := ⟨0, [], [], [], [], 0, ⟨0, 0, 0⟩, [], []⟩

inductive CardReadAction (T E : Type) where
  | call
  | resume
  | finish (call : Nat) (outcome : Except E T)

namespace CardReads

def answer (s : CardReads T E) (call : Nat) (given : CardReadAnswer T E) : CardReads T E :=
  { s with answers := s.answers ++ [(call, given)] }

/-- The task is called. -/
def start (s : CardReads T E) (call : Nat) : CardReads T E :=
  { s with
    metrics := { s.metrics with upstreamReads := s.metrics.upstreamReads + 1 }
    running := s.running ++ [call]
    started := s.started ++ [call] }

def enqueue (s : CardReads T E) (call : Nat) : CardReads T E :=
  { s with
    metrics := { s.metrics with queueWaits := s.metrics.queueWaits + 1 }
    cardReadWaiters := s.cardReadWaiters ++ [call]
    queued := s.queued ++ [call] }

def reject (s : CardReads T E) (call : Nat) : CardReads T E :=
  { s with metrics := { s.metrics with rejectedReads := s.metrics.rejectedReads + 1 } }.answer call
    (.refused tooManyCardReads)

def withCardReadSlot (env : CardReadEnv) (s : CardReads T E) : CardReads T E :=
  let called := { s with arrived := s.arrived + 1 }
  if maxConcurrentCardReads env ≤ s.activeCardReads then
    if maxQueuedCardReads env ≤ s.cardReadWaiters.length then called.reject s.arrived
    else called.enqueue s.arrived
  else { called with activeCardReads := s.activeCardReads + 1 }.start s.arrived

def release (s : CardReads T E) : CardReads T E :=
  match s.cardReadWaiters with
  | next :: rest => { s with cardReadWaiters := rest, resolved := s.resolved ++ [next] }
  | [] => { s with activeCardReads := s.activeCardReads - 1 }

def resume (s : CardReads T E) : CardReads T E :=
  match s.resolved with
  | [] => s
  | call :: rest => { s with resolved := rest }.start call

def finish (s : CardReads T E) (call : Nat) (outcome : Except E T) : CardReads T E :=
  if call ∈ s.running then
    ({ s with running := s.running.erase call }.answer call (.task outcome)).release
  else s

def step (env : CardReadEnv) (s : CardReads T E) : CardReadAction T E → CardReads T E
  | .call => s.withCardReadSlot env
  | .resume => s.resume
  | .finish call outcome => s.finish call outcome

def ended (s : CardReads T E) : List Nat := s.answers.map Prod.fst

def Rejected (s : CardReads T E) (call : Nat) : Prop := ∃ error, (call, .refused error) ∈ s.answers

def startedAfterWait (s : CardReads T E) : List Nat := s.started.filter (s.queued.contains ·)

def AllFinished (s : CardReads T E) : Prop := ∀ call < s.arrived, call ∈ s.ended

end CardReads

end Calls

variable {call : Nat}

section Invariant
variable {T E : Type} {env : CardReadEnv} {s : CardReads T E}

structure CardReads.Sound (env : CardReadEnv) (s : CardReads T E) : Prop where
  counted : s.activeCardReads = s.running.length + s.resolved.length
  bounded : s.activeCardReads ≤ maxConcurrentCardReads env
  full : s.cardReadWaiters ≠ [] → s.activeCardReads = maxConcurrentCardReads env
  everyone : (s.cardReadWaiters ++ (s.resolved ++ (s.running ++ s.ended))).Perm
    (List.range s.arrived)
  inTurn : s.startedAfterWait ++ (s.resolved ++ s.cardReadWaiters) = s.queued
  queued_old : ∀ call ∈ s.queued, call < s.arrived
  queued_ascending : s.queued.Pairwise (· < ·)
  started_old : ∀ call ∈ s.started, call < s.arrived

theorem sound_noCardReads : (noCardReads : CardReads T E).Sound env where
  counted := rfl
  bounded := Nat.zero_le _
  full := fun some_wait => absurd rfl some_wait
  everyone := .refl _
  inTurn := rfl
  queued_old := fun _ none => absurd none List.not_mem_nil
  queued_ascending := .nil
  started_old := fun _ none => absurd none List.not_mem_nil

theorem CardReads.Sound.count (sound : s.Sound env) (call : Nat) :
    s.cardReadWaiters.count call + (s.resolved.count call + (s.running.count call +
      s.ended.count call)) = (List.range s.arrived).count call := by
  have counts := List.perm_iff_count.mp sound.everyone call
  simpa only [List.count_append] using counts

theorem everyone_of_count (counts : ∀ call, s.cardReadWaiters.count call + (s.resolved.count call +
      (s.running.count call + s.ended.count call)) = (List.range s.arrived).count call) :
    (s.cardReadWaiters ++ (s.resolved ++ (s.running ++ s.ended))).Perm (List.range s.arrived) := by
  rw [List.perm_iff_count]
  intro call
  simpa only [List.count_append] using counts call

section
variable (sound : s.Sound env)
include sound

theorem started_filter_arrived :
    s.started.filter ((s.queued ++ [s.arrived]).contains ·) = s.startedAfterWait := by
  apply List.filter_congr
  intro call member
  have old : call ≠ s.arrived := Nat.ne_of_lt (sound.started_old call member)
  simp [old]

theorem arrived_not_queued : s.arrived ∉ s.queued :=
  fun queued => Nat.lt_irrefl _ (sound.queued_old _ queued)

theorem sound_reject :
    ({ s with arrived := s.arrived + 1 }.reject s.arrived).Sound env where
  counted := sound.counted
  bounded := sound.bounded
  full := sound.full
  everyone := by
    apply everyone_of_count
    intro call
    have before := sound.count call
    simp only [CardReads.reject, CardReads.answer, CardReads.ended, List.map_append,
      List.map_cons, List.map_nil, List.count_append, List.range_succ] at before ⊢
    omega
  inTurn := sound.inTurn
  queued_old := fun call member => Nat.lt_succ_of_lt (sound.queued_old call member)
  queued_ascending := sound.queued_ascending
  started_old := fun call member => Nat.lt_succ_of_lt (sound.started_old call member)

theorem sound_enqueue (taken : maxConcurrentCardReads env ≤ s.activeCardReads) :
    ({ s with arrived := s.arrived + 1 }.enqueue s.arrived).Sound env where
  counted := sound.counted
  bounded := sound.bounded
  full := fun _ => Nat.le_antisymm sound.bounded taken
  everyone := by
    apply everyone_of_count
    intro call
    have before := sound.count call
    simp only [CardReads.enqueue, CardReads.ended, List.count_append, List.range_succ] at before ⊢
    omega
  inTurn := by
    have waited := started_filter_arrived sound
    have before := sound.inTurn
    simp only [CardReads.enqueue, CardReads.startedAfterWait] at waited before ⊢
    rw [waited]
    conv_rhs => rw [← before]
    simp only [List.append_assoc]
  queued_old := by
    intro call member
    rcases List.mem_append.mp member with old | new
    · exact Nat.lt_succ_of_lt (sound.queued_old call old)
    · rw [List.mem_singleton.mp new]
      exact Nat.lt_succ_self _
  queued_ascending := by
    refine List.pairwise_append.mpr ⟨sound.queued_ascending, List.pairwise_singleton _ _, ?_⟩
    intro call member last new
    rw [List.mem_singleton.mp new]
    exact sound.queued_old call member
  started_old := fun call member => Nat.lt_succ_of_lt (sound.started_old call member)

theorem sound_start_at_once (free : s.activeCardReads < maxConcurrentCardReads env) :
    ({ s with arrived := s.arrived + 1, activeCardReads := s.activeCardReads + 1 }.start
      s.arrived).Sound env where
  counted := by
    have before := sound.counted
    simp only [CardReads.start, List.length_append, List.length_singleton]
    omega
  bounded := free
  full := by
    intro waits
    have none_free := sound.full waits
    omega
  everyone := by
    apply everyone_of_count
    intro call
    have before := sound.count call
    simp only [CardReads.start, CardReads.ended, List.count_append, List.range_succ] at before ⊢
    omega
  inTurn := by
    have new := arrived_not_queued sound
    have before := sound.inTurn
    simp only [CardReads.start, CardReads.startedAfterWait] at before ⊢
    have dropped : [s.arrived].filter (s.queued.contains ·) = [] := by simp [new]
    rw [List.filter_append, dropped, List.append_nil]
    exact before
  queued_old := fun call member => Nat.lt_succ_of_lt (sound.queued_old call member)
  queued_ascending := sound.queued_ascending
  started_old := by
    intro call member
    rcases List.mem_append.mp member with old | new
    · exact Nat.lt_succ_of_lt (sound.started_old call old)
    · rw [List.mem_singleton.mp new]
      exact Nat.lt_succ_self _

theorem sound_withCardReadSlot : (s.withCardReadSlot env).Sound env := by
  unfold CardReads.withCardReadSlot
  dsimp only
  split
  · next taken =>
    split
    · exact sound_reject sound
    · exact sound_enqueue sound taken
  · next free => exact sound_start_at_once sound (Nat.lt_of_not_le free)

theorem sound_resume : s.resume.Sound env := by
  unfold CardReads.resume
  cases waits : s.resolved with
  | nil => exact sound
  | cons call rest =>
    have before := sound.inTurn
    have queued : call ∈ s.queued := by
      rw [← before, waits]
      simp
    have everyone := sound.count
    have counted := sound.counted
    rw [waits] at before everyone counted
    refine ⟨?_, sound.bounded, sound.full, ?_, ?_, sound.queued_old, sound.queued_ascending, ?_⟩
    · simp only [CardReads.start, List.length_append, List.length_cons,
        List.length_nil] at counted ⊢
      omega
    · apply everyone_of_count
      intro other
      have counts := everyone other
      simp only [CardReads.start, CardReads.ended, List.count_append, List.count_cons,
        List.count_nil] at counts ⊢
      omega
    · have kept : [call].filter (s.queued.contains ·) = [call] := by simp [queued]
      simp only [CardReads.start, CardReads.startedAfterWait, List.filter_append, kept,
        List.append_assoc] at before ⊢
      exact before
    · intro other member
      rcases List.mem_append.mp member with old | new
      · exact sound.started_old other old
      · rw [List.mem_singleton.mp new]
        exact sound.queued_old call queued

end

theorem finish_alone (runs : call ∈ s.running) (line : s.cardReadWaiters = [])
    (outcome : Except E T) : s.finish call outcome =
      { s with
        activeCardReads := s.activeCardReads - 1
        running := s.running.erase call
        answers := s.answers ++ [(call, .task outcome)] } := by
  simp only [CardReads.finish, CardReads.answer, CardReads.release, if_pos runs, line]

theorem finish_handing_on {next : Nat} {rest : List Nat} (runs : call ∈ s.running)
    (line : s.cardReadWaiters = next :: rest) (outcome : Except E T) : s.finish call outcome =
      { s with
        cardReadWaiters := rest
        resolved := s.resolved ++ [next]
        running := s.running.erase call
        answers := s.answers ++ [(call, .task outcome)] } := by
  simp only [CardReads.finish, CardReads.answer, CardReads.release, if_pos runs, line]

theorem count_erase_running (runs : call ∈ s.running) (other : Nat) :
    (s.running.erase call).count other + [call].count other = s.running.count other := by
  have same := (List.perm_cons_erase runs).count_eq other
  rw [List.count_cons] at same
  rw [same, List.count_singleton]

theorem length_erase_running (runs : call ∈ s.running) :
    (s.running.erase call).length + 1 = s.running.length := by
  rw [List.length_erase_of_mem runs]
  exact Nat.sub_add_cancel (List.length_pos_of_mem runs)

theorem sound_finish (sound : s.Sound env) (call : Nat) (outcome : Except E T) :
    (s.finish call outcome).Sound env := by
  by_cases runs : call ∈ s.running
  · have counted := sound.counted
    have fewer := length_erase_running runs
    have inTurn := sound.inTurn
    cases line : s.cardReadWaiters with
    | nil =>
      rw [finish_alone runs line]
      refine ⟨?_, ?_, ?_, ?_, inTurn, sound.queued_old, sound.queued_ascending, sound.started_old⟩
      · dsimp only
        omega
      · exact Nat.le_trans (Nat.sub_le _ _) sound.bounded
      · exact fun waits => absurd line waits
      · apply everyone_of_count
        intro other
        have counts := sound.count other
        have here := count_erase_running runs other
        simp only [CardReads.ended, List.map_append, List.map_cons, List.map_nil,
          List.count_append] at counts ⊢
        omega
    | cons next rest =>
      have full := sound.full (by rw [line]; exact List.cons_ne_nil next rest)
      rw [finish_handing_on runs line]
      refine ⟨?_, sound.bounded, fun _ => full, ?_, ?_, sound.queued_old, sound.queued_ascending,
        sound.started_old⟩
      · simp only [List.length_append, List.length_singleton]
        omega
      · apply everyone_of_count
        intro other
        have counts := sound.count other
        have here := count_erase_running runs other
        rw [line] at counts
        simp only [CardReads.ended, List.map_append, List.map_cons, List.map_nil,
          List.count_append, List.count_cons, List.count_nil] at counts here ⊢
        omega
      · rw [line] at inTurn
        simp only [CardReads.startedAfterWait, List.append_assoc, List.singleton_append] at inTurn ⊢
        exact inTurn
  · rw [CardReads.finish, if_neg runs]
    exact sound

theorem sound_step (sound : s.Sound env) (action : CardReadAction T E) :
    (s.step env action).Sound env := by
  cases action with
  | call => exact sound_withCardReadSlot sound
  | resume => exact sound_resume sound
  | finish call outcome => exact sound_finish sound call outcome

end Invariant

section Turns
variable {T E : Type} (env : CardReadEnv) {s : CardReads T E}

def CardReadAnswer.isTask : CardReadAnswer T E → Bool
  | .task _ => true
  | .refused _ => false

def CardReads.tasksEnded (s : CardReads T E) : Nat := s.answers.countP (·.2.isTask)

def CardReads.GoesOn (s : CardReads T E) (call : Nat) : Prop :=
  call ∈ s.resolved ∨ call ∈ s.started

def CardReads.caughtUp (s : CardReads T E) : CardReads T E :=
  run (CardReads.step env) s (List.replicate s.resolved.length .resume)

structure CardReads.Throttled (s : CardReads T E) : Prop where
  bounded : s.running.length ≤ maxConcurrentCardReads env
  everyone : (s.cardReadWaiters ++ (s.resolved ++ (s.running ++ s.ended))).Perm
    (List.range s.arrived)
  arrival : s.queued.Pairwise (· < ·)
  inTurn : s.startedAfterWait <+: s.queued
  unblocked : s.cardReadWaiters ≠ [] → s.running ≠ [] ∨ s.resolved ≠ []
  served : ∀ (place call : Nat), s.cardReadWaiters[place]? = some call →
    ∀ later, s.tasksEnded + place < (run (CardReads.step env) s later).tasksEnded →
      call ∈ ((run (CardReads.step env) s later).caughtUp env).started
  freed : s.AllFinished → s.activeCardReads = 0

/-- A call that is refused meets no free slot and a full line. -/
def RefusesOnlyWhenFull (s : CardReads T E) (action : CardReadAction T E) : Prop :=
  ∀ call, (s.step env action).Rejected call → s.Rejected call ∨
    (maxConcurrentCardReads env ≤ s.activeCardReads ∧
      maxQueuedCardReads env ≤ s.cardReadWaiters.length)

variable {env}

theorem refusesOnlyWhenFull (s : CardReads T E) (action : CardReadAction T E) :
    RefusesOnlyWhenFull env s action := by
  intro call
  have task (other : Nat) (outcome : Except E T)
      (refused : ∃ error, (call, .refused error) ∈ s.answers ++ [(other, .task outcome)]) :
      s.Rejected call := by
    obtain ⟨error, member⟩ := refused
    rcases List.mem_append.mp member with before | new
    · exact ⟨error, before⟩
    · simp at new
  cases action with
  | call =>
    simp only [CardReads.step, CardReads.withCardReadSlot]
    split
    · next taken =>
      split
      · next full => exact fun _ => .inr ⟨taken, full⟩
      · exact .inl
    · exact .inl
  | resume =>
    simp only [CardReads.step, CardReads.resume]
    split <;> exact .inl
  | finish other outcome =>
    intro refused
    left
    by_cases runs : other ∈ s.running
    · cases line : s.cardReadWaiters with
      | nil =>
        rw [CardReads.step, finish_alone runs line] at refused
        exact task other outcome refused
      | cons next rest =>
        rw [CardReads.step, finish_handing_on runs line] at refused
        exact task other outcome refused
    · rw [CardReads.step, CardReads.finish, if_neg runs] at refused
      exact refused

theorem goesOn_step (goes : s.GoesOn call) (action : CardReadAction T E) :
    (s.step env action).GoesOn call := by
  cases action with
  | call =>
    simp only [CardReads.step, CardReads.withCardReadSlot]
    split
    · split
      · exact goes
      · exact goes
    · exact goes.imp_right (List.mem_append_left _)
  | resume =>
    simp only [CardReads.step, CardReads.resume]
    cases waits : s.resolved with
    | nil => exact goes
    | cons first rest =>
      rw [CardReads.GoesOn, waits] at goes
      rcases goes with woken | started
      · rcases List.mem_cons.mp woken with rfl | later
        · exact .inr (List.mem_append_right _ (List.mem_singleton_self call))
        · exact .inl later
      · exact .inr (List.mem_append_left _ started)
  | finish other outcome =>
    by_cases runs : other ∈ s.running
    · cases line : s.cardReadWaiters with
      | nil =>
        rw [CardReads.step, finish_alone runs line]
        exact goes
      | cons next rest =>
        rw [CardReads.step, finish_handing_on runs line]
        exact goes.imp_left (List.mem_append_left _)
    · rw [CardReads.step, CardReads.finish, if_neg runs]
      exact goes

theorem place_step (env : CardReadEnv) {place : Nat} (waits : s.cardReadWaiters[place]? = some call)
    (action : CardReadAction T E) :
    (s.step env action).tasksEnded = s.tasksEnded ∧
        (s.step env action).cardReadWaiters[place]? = some call ∨
      (s.step env action).tasksEnded = s.tasksEnded + 1 ∧
        (place = 0 ∧ (s.step env action).GoesOn call ∨
          ∃ nearer, place = nearer + 1 ∧
            (s.step env action).cardReadWaiters[nearer]? = some call) := by
  cases action with
  | call =>
    left
    simp only [CardReads.step, CardReads.withCardReadSlot]
    split
    · split
      · refine ⟨?_, waits⟩
        simp [CardReads.tasksEnded, CardReads.reject, CardReads.answer, CardReadAnswer.isTask]
      · refine ⟨rfl, ?_⟩
        obtain ⟨inside, _⟩ := List.getElem?_eq_some_iff.mp waits
        simp only [CardReads.enqueue]
        rw [List.getElem?_append_left inside]
        exact waits
    · exact ⟨rfl, waits⟩
  | resume =>
    left
    simp only [CardReads.step, CardReads.resume]
    split
    · exact ⟨rfl, waits⟩
    · exact ⟨rfl, waits⟩
  | finish other outcome =>
    by_cases runs : other ∈ s.running
    · right
      cases line : s.cardReadWaiters with
      | nil =>
        rw [line] at waits
        cases waits
      | cons next rest =>
        rw [CardReads.step, finish_handing_on runs line]
        refine ⟨by simp [CardReads.tasksEnded, CardReadAnswer.isTask], ?_⟩
        rw [line] at waits
        cases place with
        | zero =>
          cases waits
          exact .inl ⟨rfl, .inl (List.mem_append_right _ (List.mem_singleton_self _))⟩
        | succ nearer => exact .inr ⟨nearer, rfl, waits⟩
    · left
      rw [CardReads.step, CardReads.finish, if_neg runs]
      exact ⟨rfl, waits⟩

/-- Who waits behind others goes on once one more task has ended than they are. -/
theorem goesOn_run {place : Nat} (waits : s.cardReadWaiters[place]? = some call)
    (later : List (CardReadAction T E))
    (enough : s.tasksEnded + place < (run (CardReads.step env) s later).tasksEnded) :
    (run (CardReads.step env) s later).GoesOn call := by
  induction later generalizing s place with
  | nil => exact absurd enough (Nat.not_lt.mpr (Nat.le_add_right _ _))
  | cons action rest ih =>
    rw [run] at enough ⊢
    rcases place_step env waits action with ⟨same, there⟩ | ⟨one_more, turn⟩
    · exact ih there (by omega)
    · rcases turn with ⟨rfl, goes⟩ | ⟨nearer, rfl, there⟩
      · exact run_invariant (I := fun s : CardReads T E => s.GoesOn call)
          (fun _ next _ goes => goesOn_step goes next) goes
      · exact ih there (by omega)

theorem started_replicate (s : CardReads T E) :
    (s.caughtUp env).started = s.started ++ s.resolved := by
  unfold CardReads.caughtUp
  obtain ⟨woken, same⟩ : ∃ woken, s.resolved = woken := ⟨_, rfl⟩
  rw [same]
  induction woken generalizing s with
  | nil => simp [run]
  | cons call rest ih =>
    have next : s.step env .resume = { s with resolved := rest }.start call := by
      rw [CardReads.step, CardReads.resume, same]
    rw [List.length_cons, List.replicate_succ, run, next, ih]
    · simp [CardReads.start]
    · rfl

theorem throttled_of_sound (sound : s.Sound env) : s.Throttled env where
  bounded := by
    have counted := sound.counted
    have bounded := sound.bounded
    omega
  everyone := sound.everyone
  arrival := sound.queued_ascending
  inTurn := ⟨_, sound.inTurn⟩
  unblocked := by
    intro waits
    have full := sound.full waits
    have counted := sound.counted
    have some_slot := maxConcurrentCardReads_pos env
    by_contra blocked
    rw [not_or, not_not, not_not] at blocked
    rw [blocked.1, blocked.2, List.length_nil] at counted
    omega
  served := by
    intro place call waits later enough
    rw [started_replicate]
    rcases goesOn_run waits later enough with woken | started
    · exact List.mem_append_right _ woken
    · exact List.mem_append_left _ started
  freed := by
    intro finished
    have counted := sound.counted
    have elsewhere (call : Nat) (open_call : 0 < s.running.count call + s.resolved.count call) :
        False := by
      have counts := sound.count call
      have once := List.nodup_iff_count_le_one.mp (List.nodup_range (n := s.arrived)) call
      have known : call ∈ List.range s.arrived := by
        rw [← List.count_pos_iff]
        omega
      have answered := List.count_pos_iff.mpr (finished call (List.mem_range.mp known))
      omega
    have none_runs : s.running = [] := by
      rw [List.eq_nil_iff_forall_not_mem]
      intro call runs
      have here := List.count_pos_iff.mpr runs
      exact elsewhere call (by omega)
    have none_over : s.resolved = [] := by
      rw [List.eq_nil_iff_forall_not_mem]
      intro call woken
      have here := List.count_pos_iff.mpr woken
      exact elsewhere call (by omega)
    rw [counted, none_runs, none_over]
    rfl

/-- However calls arrive, go on and end, the slots are kept to, in turn, and nobody is lost. -/
theorem card_reads_throttled (env : CardReadEnv) (actions : List (CardReadAction T E)) :
    Always (CardReads.step env) (CardReads.Throttled env) noCardReads actions ∧
      EachStep (CardReads.step env) (RefusesOnlyWhenFull env) noCardReads actions :=
  ⟨always_of_invariant (J := CardReads.Sound env) (fun _ action sound => sound_step sound action)
      (fun _ sound => throttled_of_sound sound) sound_noCardReads actions,
    eachStep_of_inv (J := fun _ => True) (fun _ _ _ => trivial)
      (fun s action _ => refusesOnlyWhenFull s action) trivial actions⟩

end Turns

end LeaderProduct
