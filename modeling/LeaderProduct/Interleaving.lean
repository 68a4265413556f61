import Mathlib.Logic.Function.Basic
import LeaderProduct.Transition

/-! Requests without transactions on one database. Each is a list of statements, and between two
of them the statements of others may run. -/
namespace Interleaving
open Transition

universe u v w x

/-- The statements of a request. What follows a write depends on the database that it met (the
rows it found, how many they were). -/
inductive Job (S : Type u) (W : Type v) (A : Type w) where
  | done (result : A)
  | read (next : S → Job S W A)
  | write (w : W) (next : S → Job S W A)

structure System (S : Type u) (W : Type v) (A : Type w) where
  shared : S
  jobs : Nat → Option (Job S W A)

/-- A request may stop between two statements, when the process or the connection fails. -/
inductive Action (Q : Type x) where
  | begin (n : Nat) (request : Q)
  | step (n : Nat)
  | stop (n : Nat)

variable {S : Type u} {W : Type v} {A : Type w} {Q : Type x} (apply : W → S → S)
  (job : Q → Job S W A)

def System.set (s : System S W A) (n : Nat) (running : Option (Job S W A)) : System S W A :=
  { s with jobs := Function.update s.jobs n running }

def System.advance (s : System S W A) (n : Nat) : Job S W A → System S W A
  | .done _ => s.set n none
  | .read next => s.set n (some (next s.shared))
  | .write w next => { s.set n (some (next s.shared)) with shared := apply w s.shared }

def step (s : System S W A) : Action Q → System S W A
  | .begin n request => if (s.jobs n).isSome then s else s.set n (some (job request))
  | .step n => (s.jobs n).elim s (s.advance apply n)
  | .stop n => s.set n none

def System.start (shared : S) : System S W A := ⟨shared, fun _ => none⟩

/-- A request by itself: the database it leaves and its result. -/
def Job.alone : Job S W A → S → S × A
  | .done result, s => (s, result)
  | .read next, s => (next s).alone s
  | .write w next, s => (next s).alone (apply w s)

def Job.writes : Job S W A → Option W
  | .write w _ => some w
  | _ => none

def System.writes (s : System S W A) : Action Q → Option W
  | .step n => (s.jobs n).bind Job.writes
  | _ => none

/-- If the action makes a write, the write and the database it meets are as `P` asks. -/
def Meets (P : W → S → Prop) (s : System S W A) (a : Action Q) : Prop :=
  ∀ w, s.writes a = some w → P w s.shared

instance Meets.decidable (P : W → S → Prop) [∀ w t, Decidable (P w t)] (s : System S W A)
    (a : Action Q) : Decidable (Meets P s a) :=
  match here : s.writes a with
  | none => isTrue (fun w there => by rw [here] at there; cases there)
  | some w =>
    decidable_of_iff (P w s.shared)
      ⟨fun met w' there => by rw [here] at there; cases there; exact met, fun all => all w here⟩

def Job.Within (P : W → Prop) : Job S W A → Prop
  | .done _ => True
  | .read next => ∀ s, (next s).Within P
  | .write w next => P w ∧ ∀ s, (next s).Within P

variable {apply job}

theorem step_shared (s : System S W A) (a : Action Q) :
    (step apply job s a).shared = (s.writes a).elim s.shared (fun w => apply w s.shared) := by
  cases a with
  | begin n request =>
    simp only [step, System.writes]
    split <;> rfl
  | stop n => rfl
  | step n =>
    simp only [step, System.writes]
    cases s.jobs n with
    | none => rfl
    | some running =>
      cases running with
      | done result => rfl
      | read next => rfl
      | write w next => rfl

theorem step_rel_iff {R : S → S → Prop} (refl : ∀ t, R t t) (s : System S W A) (a : Action Q) :
    R s.shared (step apply job s a).shared ↔ Meets (fun w t => R t (apply w t)) s a := by
  rw [step_shared, Meets]
  cases s.writes a with
  | none => exact iff_of_true (refl _) (fun w here => by cases here)
  | some w =>
    constructor
    · intro rel w' here
      cases here
      exact rel
    · exact fun all => all w rfl

variable {J I : S → Prop} {P : W → S → Prop} {R : S → S → Prop}

theorem step_keeps (keeps : ∀ w t, J t → J (apply w t)) (s : System S W A) (a : Action Q)
    (now : J s.shared) : J (step apply job s a).shared := by
  rw [step_shared]
  cases s.writes a with
  | none => exact now
  | some w => exact keeps w _ now

/-- `I` is kept by a run exactly when each of its writes meets a database where `P` allows it,
if that is what a write needs to keep `I` where the invariant `J` holds. -/
theorem always_iff_meets (keeps : ∀ w t, J t → J (apply w t))
    (exact_write : ∀ w t, J t → I t → (I (apply w t) ↔ P w t)) {s : System S W A}
    (inv : J s.shared) (start : I s.shared) (actions : List (Action Q)) :
    Always (step apply job) (fun s : System S W A => I s.shared) s actions ↔
      EachStep (step apply job) (Meets P) s actions := by
  refine always_iff_eachStep_of_inv (I := fun s : System S W A => I s.shared)
    (J := fun s : System S W A => J s.shared) (fun s a now => step_keeps keeps s a now)
    (fun s a inv now => ?_) inv start actions
  rw [step_shared, Meets]
  cases s.writes a with
  | none => exact iff_of_true now (fun w here => by cases here)
  | some w =>
    rw [Option.elim_some, exact_write w _ inv now]
    exact ⟨fun met w' here => by cases here; exact met, fun all => all w rfl⟩

/-- The same for a relation between any two states of the run, the earlier one first. -/
theorem pairwise_iff_meets (refl : ∀ t, R t t) (trans : ∀ {s t u}, R s t → R t u → R s u)
    (keeps : ∀ w t, J t → J (apply w t)) (exact_write : ∀ w t, J t → (R t (apply w t) ↔ P w t))
    {s : System S W A} (inv : J s.shared) (actions : List (Action Q)) :
    (trace (step apply job) s actions).Pairwise (fun s t => R s.shared t.shared) ↔
      EachStep (step apply job) (Meets P) s actions := by
  rw [pairwise_trace_iff (R := fun s t : System S W A => R s.shared t.shared) trans]
  refine eachStep_congr (I := fun s : System S W A => J s.shared)
    (fun s a now _ => step_keeps keeps s a now) (fun s a now => ?_) inv actions
  rw [step_rel_iff refl]
  exact forall_congr' fun w => imp_congr_right fun _ => exact_write w _ now

/-- A step of a run whose writes all meet `P`, where `P` keeps the invariant. -/
theorem step_of_meets (keeps : ∀ w t, J t → P w t → J (apply w t)) {s : System S W A}
    {a : Action Q} (now : J s.shared) (met : Meets P s a) : J (step apply job s a).shared := by
  rw [step_shared]
  cases here : s.writes a with
  | none => exact now
  | some w => exact keeps w _ now (met w here)

/-- What holds at first holds always when every write meets a database where it keeps it. -/
theorem always_of_meets (keeps : ∀ w t, J t → P w t → J (apply w t)) {s : System S W A}
    (start : J s.shared) {actions : List (Action Q)}
    (each : EachStep (step apply job) (Meets P) s actions) :
    Always (step apply job) (fun s : System S W A => J s.shared) s actions := by
  induction actions generalizing s with
  | nil => exact start
  | cons a rest ih => exact ⟨start, ih (step_of_meets keeps start each.1) each.2⟩

theorem pairwise_of_meets (refl : ∀ t, R t t) (trans : ∀ {s t u}, R s t → R t u → R s u)
    (keeps : ∀ w t, J t → P w t → J (apply w t)) (relates : ∀ w t, J t → P w t → R t (apply w t))
    {s : System S W A} (start : J s.shared) {actions : List (Action Q)}
    (each : EachStep (step apply job) (Meets P) s actions) :
    (trace (step apply job) s actions).Pairwise (fun s t => R s.shared t.shared) := by
  rw [pairwise_trace_iff (R := fun s t : System S W A => R s.shared t.shared) trans]
  induction actions generalizing s with
  | nil => trivial
  | cons a rest ih =>
    have related : R s.shared (step apply job s a).shared :=
      (step_rel_iff refl s a).mpr fun w here => relates w _ start (each.1 w here)
    exact ⟨related, ih (step_of_meets keeps start each.1) each.2⟩

theorem alone_keeps {P : W → Prop} (keeps : ∀ w t, P w → J t → J (apply w t))
    {running : Job S W A} (within : running.Within P) {s : S} (now : J s) :
    J (running.alone apply s).1 := by
  induction running generalizing s with
  | done result => exact now
  | read next ih => exact ih s (within s) now
  | write w next ih => exact ih s (within.2 s) (keeps w s within.1 now)

theorem alone_keeps_all (keeps : ∀ w t, J t → J (apply w t)) (running : Job S W A) {s : S}
    (now : J s) : J (running.alone apply s).1 := by
  induction running generalizing s with
  | done result => exact now
  | read next ih => exact ih s now
  | write w next ih => exact ih s (keeps w s now)

theorem set_within {P : W → Prop} {s : System S W A}
    (open_jobs : ∀ n running, s.jobs n = some running → running.Within P) (n : Nat)
    {running : Option (Job S W A)} (fits : ∀ job, running = some job → job.Within P) :
    ∀ m job, (s.set n running).jobs m = some job → job.Within P := by
  intro m job here
  change Function.update s.jobs n running m = some job at here
  by_cases same : m = n
  · rw [same, Function.update_self] at here
    exact fits job here
  · rw [Function.update_of_ne same] at here
    exact open_jobs m job here

theorem writes_within {P : W → Prop} {s : System S W A}
    (open_jobs : ∀ n running, s.jobs n = some running → running.Within P) {a : Action Q} {w : W}
    (here : s.writes a = some w) : P w := by
  cases a with
  | begin n q => cases here
  | stop n => cases here
  | step n =>
    simp only [System.writes] at here
    cases running : s.jobs n with
    | none => simp [running] at here
    | some current =>
      have fits := open_jobs n current running
      rw [running, Option.bind_some] at here
      cases current with
      | write w' next =>
        cases here
        exact fits.1
      | done result => cases here
      | read next => cases here

/-- What the requests in progress may still write, when the new ones keep to it. -/
theorem step_within {P : W → Prop} (all : ∀ q, (job q).Within P) {s : System S W A}
    (open_jobs : ∀ n running, s.jobs n = some running → running.Within P) (a : Action Q) :
    ∀ n running, (step apply job s a).jobs n = some running → running.Within P := by
  cases a with
  | begin n q =>
    simp only [step]
    split
    · exact open_jobs
    · exact set_within open_jobs n (fun job here => by cases here; exact all q)
  | stop n => exact set_within open_jobs n (fun _ here => by cases here)
  | step n =>
    cases running : s.jobs n with
    | none =>
      simp only [step, running, Option.elim_none]
      exact open_jobs
    | some current =>
      have fits := open_jobs n current running
      simp only [step, running, Option.elim_some]
      cases current with
      | done result => exact set_within open_jobs n (fun _ here => by cases here)
      | read next => exact set_within open_jobs n (fun _ here => by cases here; exact fits _)
      | write w next =>
        exact set_within open_jobs n (fun _ here => by cases here; exact fits.2 _)

theorem each_write_within {P : W → Prop} (all : ∀ q, (job q).Within P) {s : System S W A}
    (open_jobs : ∀ n running, s.jobs n = some running → running.Within P)
    (actions : List (Action Q)) : EachStep (step apply job) (Meets fun w _ => P w) s actions := by
  induction actions generalizing s with
  | nil => trivial
  | cons a rest ih =>
    exact ⟨fun w here => writes_within open_jobs here, ih (step_within all open_jobs a)⟩

theorem start_within {P : W → Prop} (t : S) :
    ∀ n running, (System.start t : System S W A).jobs n = some running → running.Within P :=
  fun _ _ here => by cases here

/-- `I` is kept exactly when each write meets a database where `C` allows it, if that is what the
writes need that the requests make. -/
theorem always_iff_meets_within {P : W → Prop} {C : W → S → Prop} (all : ∀ q, (job q).Within P)
    (exact_write : ∀ w t, P w → I t → (I (apply w t) ↔ C w t)) {t : S} (start : I t)
    (actions : List (Action Q)) :
    Always (step apply job) (fun s : System S W A => I s.shared) (System.start t) actions ↔
      EachStep (step apply job) (Meets C) (System.start t) actions := by
  refine always_iff_eachStep_of_inv (I := fun s : System S W A => I s.shared)
    (J := fun s : System S W A => ∀ n running, s.jobs n = some running → running.Within P)
    (fun s a open_jobs => step_within all open_jobs a) (fun s a open_jobs now => ?_)
    (start_within t) start actions
  rw [step_shared, Meets]
  cases here : s.writes a with
  | none => exact iff_of_true now (fun w none => by cases none)
  | some w =>
    rw [Option.elim_some, exact_write w _ (writes_within open_jobs here) now]
    exact ⟨fun met w' same => by cases same; exact met, fun all => all w rfl⟩

theorem eachStep_meets_and {P' : W → S → Prop} {s : System S W A} {actions : List (Action Q)} :
    EachStep (step apply job) (Meets fun w t => P w t ∧ P' w t) s actions ↔
      EachStep (step apply job) (Meets P) s actions ∧
        EachStep (step apply job) (Meets P') s actions := by
  rw [← eachStep_and]
  have both : (Meets (Q := Q) fun w t => P w t ∧ P' w t) =
      fun (s : System S W A) a => Meets P s a ∧ Meets P' s a := by
    funext s a
    refine propext ⟨fun met => ⟨fun w here => (met w here).1, fun w here => (met w here).2⟩, ?_⟩
    exact fun met w here => ⟨met.1 w here, met.2 w here⟩
  rw [both]

end Interleaving
