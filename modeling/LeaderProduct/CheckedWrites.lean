import LeaderProduct.Interleaving

/-! Requests that look before they write. Beside a run stands what each request in progress has met,
so that a condition can say what may happen between its look and its write. -/
namespace Interleaving
open Transition

universe u v w x y

/-- The database that a statement meets, and what it writes. -/
structure Statement (S : Type u) (W : Type v) where
  met : S
  wrote : Option W

structure Watched (S : Type u) (W : Type v) (A : Type w) (G : Type y) where
  system : System S W A
  statements : Nat → List (Statement S W)
  notes : G

variable {S : Type u} {W : Type v} {A : Type w} {Q : Type x} {G : Type y}

def Statement.left (apply : W → S → S) (statement : Statement S W) : S :=
  statement.wrote.elim statement.met (fun w => apply w statement.met)

def Watched.start (shared : S) (notes : G) : Watched S W A G := ⟨.start shared, fun _ => [], notes⟩

/-- A number that is used again begins without statements. -/
def watch (apply : W → S → S) (job : Q → Job S W A) (note : W → S → G → G) (r : Watched S W A G)
    (a : Action Q) : Watched S W A G where
  system := step apply job r.system a
  statements :=
    match a with
    | .begin n _ =>
      if (r.system.jobs n).isSome then r.statements else Function.update r.statements n []
    | .step n =>
      Function.update r.statements n (⟨r.system.shared, r.system.writes a⟩ :: r.statements n)
    | .stop _ => r.statements
  notes := (r.system.writes a).elim r.notes (fun w => note w r.system.shared r.notes)

/-- If the action makes a write, `C` holds of what its request has met, of the write, and of the
database and the notes at that moment. -/
def Finds (C : List (Statement S W) → W → S → G → Prop) (r : Watched S W A G) :
    Action Q → Prop
  | .step n => ∀ w, r.system.writes (.step n : Action Q) = some w →
      C (r.statements n) w r.system.shared r.notes
  | _ => True

instance Finds.decidable (C : List (Statement S W) → W → S → G → Prop)
    [∀ past w t g, Decidable (C past w t g)] (r : Watched S W A G) :
    ∀ a : Action Q, Decidable (Finds C r a)
  | .begin _ _ | .stop _ => isTrue trivial
  | .step n =>
    match here : r.system.writes (.step n : Action Q) with
    | none => isTrue (fun w there => by rw [here] at there; cases there)
    | some w =>
      decidable_of_iff (C (r.statements n) w r.system.shared r.notes)
        ⟨fun met w' there => by rw [here] at there; cases there; exact met, fun all => all w here⟩

def Job.Backed (K : S → Prop) (B : List (Statement S W) → W → Prop) :
    Job S W A → List (Statement S W) → Prop
  | .done _, _ => True
  | .read next, past => ∀ s, K s → (next s).Backed K B (⟨s, none⟩ :: past)
  | .write w next, past => B past w ∧ ∀ s, K s → (next s).Backed K B (⟨s, some w⟩ :: past)

structure Guards (apply : W → S → S) (job : Q → Job S W A) (note : W → S → G → G) (K : S → Prop)
    (B : List (Statement S W) → W → Prop) (rel : S → S → Prop) (J : S → G → Prop)
    (C : List (Statement S W) → W → S → G → Prop) (P : W → S → Prop) : Prop where
  backed : ∀ q, (job q).Backed K B []
  known : ∀ {t g}, J t g → K t
  refl : ∀ t, rel t t
  keeps_rel : ∀ {s t g w}, J t g → P w t → rel s t → rel s (apply w t)
  keeps : ∀ {past t g w}, B past w → J t g → P w t → J (apply w t) (note w t g)
  exact_write : ∀ {past t g w}, B past w →
    (∀ e ∈ past, K e.met ∧ rel (e.left apply) t) → J t g → (C past w t g ↔ P w t)

section Rules
variable {apply : W → S → S} {job : Q → Job S W A} {note : W → S → G → G}
  {K : S → Prop} {B : List (Statement S W) → W → Prop} {rel : S → S → Prop} {J : S → G → Prop}
  {C : List (Statement S W) → W → S → G → Prop} {P : W → S → Prop}

structure Watched.Sound (apply : W → S → S) (K : S → Prop) (B : List (Statement S W) → W → Prop)
    (rel : S → S → Prop) (J : S → G → Prop) (r : Watched S W A G) : Prop where
  now : J r.system.shared r.notes
  backed : ∀ n running, r.system.jobs n = some running → running.Backed K B (r.statements n)
  met : ∀ n running, r.system.jobs n = some running →
    ∀ e ∈ r.statements n, K e.met ∧ rel (e.left apply) r.system.shared

variable {t : S} {g : G} {r : Watched S W A G}

theorem Watched.sound_start (now : J t g) :
    (Watched.start t g : Watched S W A G).Sound apply K B rel J where
  now := now
  backed := fun _ _ here => by cases here
  met := fun _ _ here => by cases here

theorem Guards.finds_iff (guards : Guards apply job note K B rel J C P)
    (sound : r.Sound apply K B rel J) (a : Action Q) : Finds C r a ↔ Meets P r.system a := by
  cases a with
  | begin n q => exact iff_of_true trivial (fun w here => by cases here)
  | stop n => exact iff_of_true trivial (fun w here => by cases here)
  | step n =>
    refine forall_congr' fun w => imp_congr_right fun here => ?_
    cases running : r.system.jobs n with
    | none => simp [System.writes, running] at here
    | some current =>
      have backed := sound.backed n current running
      have met := sound.met n current running
      rw [System.writes, running, Option.bind_some] at here
      cases current with
      | done result => cases here
      | read next => cases here
      | write w' next =>
        cases here
        exact guards.exact_write backed.1 met sound.now

theorem Watched.Sound.fewer {r r' : Watched S W A G} (sound : r.Sound apply K B rel J)
    (shared : r'.system.shared = r.system.shared) (notes : r'.notes = r.notes)
    (fewer : ∀ n running, r'.system.jobs n = some running →
      r.system.jobs n = some running ∧ r'.statements n = r.statements n) :
    r'.Sound apply K B rel J := by
  refine ⟨?_, fun n running here => ?_, fun n running here => ?_⟩
  · rw [shared, notes]
    exact sound.now
  · obtain ⟨known, same⟩ := fewer n running here
    rw [same]
    exact sound.backed n running known
  · obtain ⟨known, same⟩ := fewer n running here
    rw [same, shared]
    exact sound.met n running known

/-- A request goes on to `next` with these statements behind it, in a database that all others may
be met in too. -/
theorem Watched.Sound.goesOn (sound : r.Sound apply K B rel J) {n : Nat} {next : Job S W A}
    {past : List (Statement S W)} (now : J t g) (backed : next.Backed K B past)
    (met : ∀ e ∈ past, K e.met ∧ rel (e.left apply) t)
    (others : ∀ {s}, rel s r.system.shared → rel s t) :
    (⟨{ r.system.set n (some next) with shared := t }, Function.update r.statements n past, g⟩ :
      Watched S W A G).Sound apply K B rel J := by
  have cases_on {m : Nat} {running : Job S W A}
      (here : Function.update r.system.jobs n (some next) m = some running) :
      m = n ∧ running = next ∨ m ≠ n ∧ r.system.jobs m = some running := by
    by_cases same : m = n
    · rw [same, Function.update_self] at here
      exact .inl ⟨same, (Option.some.inj here).symm⟩
    · rw [Function.update_of_ne same] at here
      exact .inr ⟨same, here⟩
  refine ⟨now, fun m running here => ?_, fun m running here => ?_⟩
  · dsimp only
    rcases cases_on here with ⟨rfl, rfl⟩ | ⟨other, known⟩
    · rw [Function.update_self]
      exact backed
    · rw [Function.update_of_ne other]
      exact sound.backed m running known
  · dsimp only
    rcases cases_on here with ⟨rfl, rfl⟩ | ⟨other, known⟩
    · rw [Function.update_self]
      exact met
    · rw [Function.update_of_ne other]
      exact fun e there => (sound.met m running known e there).imp id others

theorem Guards.sound_step (guards : Guards apply job note K B rel J C P)
    (sound : r.Sound apply K B rel J) (a : Action Q) (met : Meets P r.system a) :
    (watch apply job note r a).Sound apply K B rel J := by
  -- A request that has nothing left to do leaves the others as they are.
  have ends {n : Nat} (over_with : (step apply job r.system (.step n : Action Q)).jobs n = none)
      (others : ∀ m, m ≠ n →
        (step apply job r.system (.step n : Action Q)).jobs m = r.system.jobs m)
      (shared : (step apply job r.system (.step n : Action Q)).shared = r.system.shared)
      (silent : r.system.writes (.step n : Action Q) = none) :
      (watch apply job note r (.step n)).Sound apply K B rel J := by
    refine sound.fewer shared ?_ (fun m running here => ?_)
    · simp only [watch, silent, Option.elim_none]
    · have apart : m ≠ n := by
        rintro rfl
        exact absurd (over_with.symm.trans here) nofun
      exact ⟨(others m apart).symm.trans here, Function.update_of_ne apart _ _⟩
  cases a with
  | stop n =>
    refine sound.fewer rfl rfl (fun m running here => ⟨?_, rfl⟩)
    change Function.update r.system.jobs n none m = some running at here
    by_cases same : m = n
    · rw [same, Function.update_self] at here
      cases here
    · rwa [Function.update_of_ne same] at here
  | begin n q =>
    simp only [watch, step]
    split
    · exact sound
    · exact sound.goesOn sound.now (guards.backed q) (fun _ there => by cases there) id
  | step n =>
    cases running : r.system.jobs n with
    | none =>
      have idle : step apply job r.system (.step n : Action Q) = r.system := by
        simp only [step, running, Option.elim_none]
      refine ends ?_ (fun m _ => ?_) ?_ ?_
      · rw [idle, running]
      · rw [idle]
      · rw [idle]
      · simp only [System.writes, running, Option.bind_none]
    | some current =>
      have backed := sound.backed n current running
      have past := sound.met n current running
      cases current with
      | done result =>
        have ended : step apply job r.system (.step n : Action Q) = r.system.set n none := by
          simp only [step, running, Option.elim_some, System.advance]
        refine ends ?_ (fun m apart => ?_) ?_ ?_
        · rw [ended]
          exact Function.update_self _ _ _
        · rw [ended]
          exact Function.update_of_ne apart _ _
        · rw [ended]
          rfl
        · simp only [System.writes, running, Option.bind_some, Job.writes]
      | read next =>
        have goes := sound.goesOn (n := n) sound.now (backed r.system.shared (guards.known sound.now))
          (List.forall_mem_cons.mpr ⟨⟨guards.known sound.now, guards.refl _⟩, past⟩) id
        simpa only [watch, step, running, Option.elim_some, System.advance, System.writes,
          Option.bind_some, Job.writes, Option.elim_none, System.set] using goes
      | write w next =>
        have allowed : P w r.system.shared := met w (by simp [System.writes, running, Job.writes])
        have later := guards.keeps backed.1 sound.now allowed
        have onward {s : S} (before : rel s r.system.shared) : rel s (apply w r.system.shared) :=
          guards.keeps_rel sound.now allowed before
        have goes := sound.goesOn (n := n) later (backed.2 r.system.shared (guards.known sound.now))
          (List.forall_mem_cons.mpr ⟨⟨guards.known sound.now, guards.refl _⟩,
            fun e there => (past e there).imp id onward⟩) onward
        simpa only [watch, step, running, Option.elim_some, System.advance, System.writes,
          Option.bind_some, Job.writes] using goes

/-- The rule for runs: what a request has met decides what it may write. -/
theorem Guards.eachStep_iff (guards : Guards apply job note K B rel J C P) (start : J t g)
    (actions : List (Action Q)) :
    EachStep (watch apply job note) (Finds C) (Watched.start t g) actions ↔
      EachStep (step apply job) (Meets P) (System.start t) actions := by
  have plain : EachStep (watch apply job note) (fun r a => Meets P r.system a)
      (Watched.start t g) actions ↔ EachStep (step apply job) (Meets P) (System.start t) actions :=
    eachStep_map (fun r : Watched S W A G => r.system) (fun _ _ => rfl) _ actions
  rw [← plain]
  exact (eachStep_congr (I := Watched.Sound apply K B rel J)
    (fun r a sound found => guards.sound_step sound a ((guards.finds_iff sound a).mp found))
    (fun r a sound => (guards.finds_iff sound a).symm) (Watched.sound_start start) actions).symm

end Rules

end Interleaving
