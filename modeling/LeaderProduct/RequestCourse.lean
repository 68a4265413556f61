import LeaderProduct.Interleaving

/-! What a request meets in the course of a run, and what it writes. Its statements meet databases
of the run, and what it writes follows from these alone; so a property of its writes that holds
whatever it meets holds in every run. -/
namespace Interleaving
open Transition

universe u v w x
variable {S : Type u} {W : Type v} {A : Type w} {Q : Type x}

section Course
variable (apply : W → S → S) (job : Q → Job S W A)

def Job.outcome : Job S W A → List S → Option (List W × A)
  | _, [] => none
  | .done result, _ :: _ => some ([], result)
  | .read next, s :: met => (next s).outcome met
  | .write w next, s :: met => ((next s).outcome met).map fun rest => (w :: rest.1, rest.2)

def System.takes (s : System S W A) (n : Nat) : Action Q → Bool
  | .step m => decide (m = n) && (s.jobs n).isSome
  | _ => false

/-- The action neither begins a request under this number nor stops it. -/
def Action.Spares (n : Nat) : Action Q → Prop
  | .begin m _ | .stop m => m ≠ n
  | .step _ => True

def metBy (n : Nat) : System S W A → List (Action Q) → List S
  | _, [] => []
  | s, a :: rest =>
    (if s.takes n a then [s.shared] else []) ++ metBy n (step apply job s a) rest

def writesBy (n : Nat) : System S W A → List (Action Q) → List W
  | _, [] => []
  | s, a :: rest =>
    (if s.takes n a then (s.writes a).toList else []) ++ writesBy n (step apply job s a) rest

def written : System S W A → List (Action Q) → List W
  | _, [] => []
  | s, a :: rest => (s.writes a).toList ++ written (step apply job s a) rest

def Job.Yields (C : S → Prop) : Job S W A → (List W → A → Prop) → Prop
  | .done result, P => P [] result
  | .read next, P => ∀ s, C s → (next s).Yields C P
  | .write w next, P => ∀ s, C s → (next s).Yields C fun rest result => P (w :: rest) result

end Course

section Rules
variable {apply : W → S → S} {job : Q → Job S W A} {C : S → Prop}

theorem Job.Yields.outcome {running : Job S W A} {P : List W → A → Prop}
    (yields : running.Yields C P) {met : List S} (each : ∀ s ∈ met, C s) {writes : List W}
    {result : A} (over_with : running.outcome met = some (writes, result)) : P writes result := by
  induction met generalizing running writes P with
  | nil => cases running <;> cases over_with
  | cons s met ih =>
    have later : ∀ s ∈ met, C s := fun t here => each t (List.mem_cons_of_mem s here)
    cases running with
    | done result =>
      cases over_with
      exact yields
    | read next => exact ih (yields s (each s List.mem_cons_self)) later over_with
    | write w next =>
      obtain ⟨⟨rest, _⟩, rest_over, same⟩ := Option.map_eq_some_iff.mp over_with
      cases same
      exact ih (yields s (each s List.mem_cons_self)) later rest_over

theorem run_shared (s : System S W A) (actions : List (Action Q)) :
    (run (step apply job) s actions).shared =
      (written apply job s actions).foldl (fun t w => apply w t) s.shared := by
  induction actions generalizing s with
  | nil => rfl
  | cons a rest ih =>
    rw [run, ih, step_shared, written, List.foldl_append]
    cases s.writes a <;> rfl

variable {n : Nat} {s : System S W A} {actions : List (Action Q)}

theorem mem_metBy {t : S} (here : t ∈ metBy apply job n s actions) :
    ∃ early late, actions = early ++ late ∧ t = (run (step apply job) s early).shared := by
  induction actions generalizing s with
  | nil => cases here
  | cons a rest ih =>
    rw [metBy, List.mem_append] at here
    rcases here with now | later
    · split at now
      · exact ⟨[], a :: rest, rfl, List.mem_singleton.mp now⟩
      · cases now
    · obtain ⟨early, late, rfl, same⟩ := ih later
      exact ⟨a :: early, late, rfl, same⟩

theorem takes_of_free (free : s.jobs n = none) (a : Action Q) :
    s.takes n a = false := by
  cases a <;> simp [System.takes, free]

theorem jobs_of_other (apply : W → S → S) (job : Q → Job S W A) {a : Action Q} (spares : a.Spares n)
    (other : s.takes n a = false) : (step apply job s a).jobs n = s.jobs n := by
  cases a with
  | begin m request =>
    simp only [step]
    split
    · rfl
    · exact Function.update_of_ne (Ne.symm spares) _ _
  | stop m => exact Function.update_of_ne (Ne.symm spares) _ _
  | step m =>
    simp only [step]
    by_cases same : m = n
    · subst same
      cases known : s.jobs m with
      | none => exact known
      | some running => simp [System.takes, known] at other
    · have kept (t : S) (left : Option (Job S W A)) :
          (({ s with shared := t } : System S W A).set m left).jobs n = s.jobs n :=
        Function.update_of_ne (Ne.symm same) _ _
      cases s.jobs m with
      | none => rfl
      | some running => cases running <;> exact kept _ _

theorem free_course (apply : W → S → S) (job : Q → Job S W A) (free : s.jobs n = none)
    (spared : ∀ a ∈ actions, a.Spares n) :
    writesBy apply job n s actions = [] ∧ metBy apply job n s actions = [] := by
  induction actions generalizing s with
  | nil => exact ⟨rfl, rfl⟩
  | cons a rest ih =>
    have other := takes_of_free free a
    have still := jobs_of_other apply job (spared a List.mem_cons_self) other
    have later := ih (still.trans free) fun b here => spared b (List.mem_cons_of_mem a here)
    simp [writesBy, metBy, other, later]

/-- A request that has come to its end has written and answered what it does on the databases that
it has met. -/
theorem outcome_of_over {running : Job S W A} (known : s.jobs n = some running)
    (spared : ∀ a ∈ actions, a.Spares n) (ended : (run (step apply job) s actions).jobs n = none) :
    ∃ result, running.outcome (metBy apply job n s actions) =
      some (writesBy apply job n s actions, result) := by
  induction actions generalizing s running with
  | nil =>
    have still : s.jobs n = none := ended
    rw [known] at still
    cases still
  | cons a rest ih =>
    have later : ∀ b ∈ rest, b.Spares n := fun b here => spared b (List.mem_cons_of_mem a here)
    cases own : s.takes n a with
    | false =>
      have still := jobs_of_other apply job (spared a List.mem_cons_self) own
      simpa [metBy, writesBy, own] using ih (still.trans known) later ended
    | true =>
      cases a with
      | begin m request => simp [System.takes] at own
      | stop m => simp [System.takes] at own
      | step m =>
        have same : m = n := by simp [System.takes] at own; exact own.1
        subst same
        have next (t : S) (left : Option (Job S W A)) :
            (({ s with shared := t } : System S W A).set m left).jobs m = left :=
          Function.update_self _ _ _
        simp only [metBy, writesBy, own, if_true]
        cases running with
        | done result =>
          have free : (step apply job s (.step m)).jobs m = none := by
            simp only [step, known, Option.elim_some, System.advance]
            exact next s.shared none
          obtain ⟨no_write, no_meeting⟩ := free_course apply job free later
          exact ⟨result, by simp [no_write, no_meeting, Job.outcome, System.writes, known, Job.writes]⟩
        | read rest_of =>
          have goes_on : (step apply job s (.step m)).jobs m = some (rest_of s.shared) := by
            simp only [step, known, Option.elim_some, System.advance]
            exact next s.shared _
          obtain ⟨result, rest_over⟩ := ih goes_on later ended
          exact ⟨result, by simpa [Job.outcome, System.writes, known, Job.writes] using rest_over⟩
        | write w rest_of =>
          have goes_on : (step apply job s (.step m)).jobs m = some (rest_of s.shared) := by
            simp only [step, known, Option.elim_some, System.advance]
            exact next (apply w s.shared) _
          obtain ⟨result, rest_over⟩ := ih goes_on later ended
          exact ⟨result, by simp [Job.outcome, System.writes, known, Job.writes, rest_over]⟩

/-- The rule for requests: what a request yields on the databases of its course holds of what it has
written in a run when it is over. -/
theorem course_rule {request : Q} (free : s.jobs n = none) (spared : ∀ a ∈ actions, a.Spares n)
    (ended : (run (step apply job) (step apply job s (.begin n request)) actions).jobs n = none)
    {P : List W → A → Prop}
    (yields : (job request).Yields (fun t => ∃ early late, actions = early ++ late ∧
      t = (run (step apply job) (step apply job s (.begin n request)) early).shared) P) :
    ∃ result, P (writesBy apply job n (step apply job s (.begin n request)) actions) result := by
  have known : (step apply job s (.begin n request)).jobs n = some (job request) := by
    simp only [step, free]
    exact Function.update_self _ _ _
  obtain ⟨result, over_with⟩ := outcome_of_over known spared ended
  exact ⟨result, yields.outcome (fun t here => mem_metBy here) over_with⟩

end Rules

section LastWord
variable {B : Type w} (tells : W → Option B)

def lastWord (past : List W) (start : B) : B := (past.filterMap tells).getLastD start

variable {tells} {apply : W → S → S}

/-- A view of the database that changes with the writes that speak of it, and as they say, shows the
last word. -/
theorem view_eq_lastWord (view : S → B)
    (heard : ∀ w t, view (apply w t) = (tells w).getD (view t)) (past : List W)
    (t : S) : view (past.foldl (fun t w => apply w t) t) = lastWord tells past (view t) := by
  induction past generalizing t with
  | nil => rfl
  | cons w rest ih =>
    rw [List.foldl_cons, ih, heard]
    cases said : tells w with
    | none => simp [lastWord, said]
    | some b =>
      rw [Option.getD_some, lastWord, lastWord, List.filterMap_cons_some said]
      cases rest.filterMap tells <;> rfl

end LastWord

end Interleaving
