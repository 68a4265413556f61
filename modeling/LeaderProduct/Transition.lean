/-! Runs of a deterministic system over its whole list of actions, oldest first.
`EachStep` speaks of the steps of a run, `Always` of the states it meets. The
rules below turn a fact about one step into a fact about every run, and
`always_iff_eachStep` turns the exact condition of one step into that of a run. -/
namespace Transition

universe u v w
variable {S : Type u} {A : Type v}

def run (step : S → A → S) : S → List A → S
  | s, [] => s
  | s, a :: rest => run step (step s a) rest

/-- `P` holds of every step of the run: of the state it is taken in and its action. -/
def EachStep (step : S → A → S) (P : S → A → Prop) : S → List A → Prop
  | _, [] => True
  | s, a :: rest => P s a ∧ EachStep step P (step s a) rest

/-- `I` holds of every state of the run, the first and the last included. -/
def Always (step : S → A → S) (I : S → Prop) : S → List A → Prop
  | s, [] => I s
  | s, a :: rest => I s ∧ Always step I (step s a) rest

def trace (step : S → A → S) : S → List A → List S
  | s, [] => [s]
  | s, a :: rest => s :: trace step (step s a) rest

instance EachStep.decidable (step : S → A → S) (P : S → A → Prop)
    [∀ s a, Decidable (P s a)] : ∀ s as, Decidable (EachStep step P s as)
  | _, [] => inferInstanceAs (Decidable True)
  | s, a :: rest =>
    have := EachStep.decidable step P (step s a) rest
    inferInstanceAs (Decidable (P s a ∧ EachStep step P (step s a) rest))

instance Always.decidable (step : S → A → S) (I : S → Prop)
    [∀ s, Decidable (I s)] : ∀ s as, Decidable (Always step I s as)
  | s, [] => inferInstanceAs (Decidable (I s))
  | s, a :: rest =>
    have := Always.decidable step I (step s a) rest
    inferInstanceAs (Decidable (I s ∧ Always step I (step s a) rest))

variable {step : S → A → S}

@[simp] theorem run_append (s : S) (as later : List A) :
    run step s (as ++ later) = run step (run step s as) later := by
  induction as generalizing s with
  | nil => rfl
  | cons a rest ih => exact ih (step s a)

theorem Always.first {I : S → Prop} {s : S} {as : List A} (h : Always step I s as) : I s := by
  cases as with
  | nil => exact h
  | cons a rest => exact h.1

theorem Always.last {I : S → Prop} {s : S} {as : List A} (h : Always step I s as) :
    I (run step s as) := by
  induction as generalizing s with
  | nil => exact h
  | cons a rest ih => exact ih h.2

theorem Always.mono {I J : S → Prop} (weaken : ∀ s, I s → J s) {s : S} {as : List A}
    (h : Always step I s as) : Always step J s as := by
  induction as generalizing s with
  | nil => exact weaken s h
  | cons a rest ih => exact ⟨weaken s h.1, ih h.2⟩

theorem always_of_invariant {I J : S → Prop} (keeps : ∀ s a, J s → J (step s a))
    (implies : ∀ s, J s → I s) {s : S} (start : J s) (as : List A) : Always step I s as := by
  induction as generalizing s with
  | nil => exact implies s start
  | cons a rest ih => exact ⟨implies s start, ih (keeps s a start)⟩

theorem always_of_eachStep {I : S → Prop} {C : S → A → Prop}
    (keeps : ∀ s a, I s → C s a → I (step s a)) {s : S} (start : I s) (as : List A)
    (met : EachStep step C s as) : Always step I s as := by
  induction as generalizing s with
  | nil => exact start
  | cons a rest ih => exact ⟨start, ih (keeps s a start met.1) met.2⟩

/-- A step condition that is exact for one step, where an invariant `J` of the runs that keep `I`
holds, is exact for the whole run. -/
theorem always_iff_eachStep_along {I J : S → Prop} {C : S → A → Prop}
    (keeps : ∀ s a, J s → I s → J (step s a))
    (exact_step : ∀ s a, J s → I s → (I (step s a) ↔ C s a)) {s : S} (inv : J s) (start : I s)
    (as : List A) : Always step I s as ↔ EachStep step C s as := by
  induction as generalizing s with
  | nil => exact ⟨fun _ => trivial, fun _ => start⟩
  | cons a rest ih =>
    have later := keeps s a inv start
    constructor
    · intro h
      have next : I (step s a) := h.2.first
      exact ⟨(exact_step s a inv start).mp next, (ih later next).mp h.2⟩
    · intro h
      have next : I (step s a) := (exact_step s a inv start).mpr h.1
      exact ⟨start, (ih later next).mpr h.2⟩

theorem always_iff_eachStep_of_inv {I J : S → Prop} {C : S → A → Prop}
    (keeps : ∀ s a, J s → J (step s a))
    (exact_step : ∀ s a, J s → I s → (I (step s a) ↔ C s a)) {s : S} (inv : J s) (start : I s)
    (as : List A) : Always step I s as ↔ EachStep step C s as :=
  always_iff_eachStep_along (fun s a now _ => keeps s a now) exact_step inv start as

theorem always_iff_eachStep_of_mem {I J : S → Prop} {C : S → A → Prop} {as : List A}
    (keeps : ∀ s, ∀ a ∈ as, J s → J (step s a))
    (exact_step : ∀ s, ∀ a ∈ as, J s → I s → (I (step s a) ↔ C s a)) {s : S} (inv : J s)
    (start : I s) : Always step I s as ↔ EachStep step C s as := by
  induction as generalizing s with
  | nil => exact ⟨fun _ => trivial, fun _ => start⟩
  | cons a rest ih =>
    have first := exact_step s a List.mem_cons_self inv start
    have later (next : I (step s a)) := ih (fun s b here => keeps s b (List.mem_cons_of_mem a here))
      (fun s b here => exact_step s b (List.mem_cons_of_mem a here))
      (keeps s a List.mem_cons_self inv) next
    constructor
    · intro h
      exact ⟨first.mp h.2.first, (later h.2.first).mp h.2⟩
    · intro h
      have next := first.mpr h.1
      exact ⟨start, (later next).mpr h.2⟩

theorem always_iff_eachStep {I : S → Prop} {C : S → A → Prop}
    (exact_step : ∀ s a, I s → (I (step s a) ↔ C s a)) {s : S} (start : I s) (as : List A) :
    Always step I s as ↔ EachStep step C s as :=
  always_iff_eachStep_of_inv (J := fun _ => True) (fun _ _ _ => trivial)
    (fun s a _ => exact_step s a) trivial start as

/-- A system that only adds to the states of another meets the same states of that one. -/
theorem always_map {T : Type w} {step' : T → A → T} {I : S → Prop} (f : T → S)
    (simulates : ∀ t a, f (step' t a) = step (f t) a) (t : T) (as : List A) :
    Always step I (f t) as ↔ Always step' (fun t => I (f t)) t as := by
  induction as generalizing t with
  | nil => exact Iff.rfl
  | cons a rest ih =>
    simp only [Always]
    rw [← simulates, ih]

theorem eachStep_map {T : Type w} {step' : T → A → T} {P : S → A → Prop} (f : T → S)
    (simulates : ∀ t a, f (step' t a) = step (f t) a) (t : T) (as : List A) :
    EachStep step' (fun t a => P (f t) a) t as ↔ EachStep step P (f t) as := by
  induction as generalizing t with
  | nil => exact Iff.rfl
  | cons a rest ih =>
    simp only [EachStep]
    rw [← simulates, ih]

/-- What is never regained holds at the end of a run when it held all along. -/
theorem always_iff_last {I : S → Prop} (lost : ∀ s a, I (step s a) → I s) {s : S}
    (as : List A) : Always step I s as ↔ I (run step s as) := by
  induction as generalizing s with
  | nil => exact Iff.rfl
  | cons a rest ih =>
    constructor
    · exact fun h => ih.mp h.2
    · intro last
      have later := ih.mpr last
      exact ⟨lost s a later.first, later⟩

/-- Two step conditions that agree where the invariant holds agree on the run, when one
of them keeps it. -/
theorem eachStep_congr {I : S → Prop} {P C : S → A → Prop}
    (keeps : ∀ s a, I s → C s a → I (step s a)) (agree : ∀ s a, I s → (P s a ↔ C s a))
    {s : S} (start : I s) (as : List A) : EachStep step P s as ↔ EachStep step C s as := by
  induction as generalizing s with
  | nil => exact Iff.rfl
  | cons a rest ih =>
    constructor
    · rintro ⟨first, later⟩
      have met := (agree s a start).mp first
      exact ⟨met, (ih (keeps s a start met)).mp later⟩
    · rintro ⟨met, later⟩
      exact ⟨(agree s a start).mpr met, (ih (keeps s a start met)).mpr later⟩

theorem eachStep_congr_of_mem {I : S → Prop} {P C : S → A → Prop} {as : List A}
    (keeps : ∀ s, ∀ a ∈ as, I s → I (step s a)) (agree : ∀ s, ∀ a ∈ as, I s → (P s a ↔ C s a))
    {s : S} (start : I s) : EachStep step P s as ↔ EachStep step C s as := by
  induction as generalizing s with
  | nil => exact Iff.rfl
  | cons a rest ih =>
    rw [EachStep, EachStep, agree s a List.mem_cons_self start,
      ih (fun s b later => keeps s b (List.mem_cons_of_mem a later))
        (fun s b later => agree s b (List.mem_cons_of_mem a later))
        (keeps s a List.mem_cons_self start)]

theorem eachStep_of_inv {J : S → Prop} {C : S → A → Prop} (keeps : ∀ s a, J s → J (step s a))
    (implies : ∀ s a, J s → C s a) {s : S} (inv : J s) (as : List A) : EachStep step C s as := by
  induction as generalizing s with
  | nil => trivial
  | cons a rest ih => exact ⟨implies s a inv, ih (keeps s a inv)⟩

theorem EachStep.mono {P C : S → A → Prop} (weaken : ∀ s a, P s a → C s a) {s : S} {as : List A}
    (h : EachStep step P s as) : EachStep step C s as := by
  induction as generalizing s with
  | nil => trivial
  | cons a rest ih => exact ⟨weaken s a h.1, ih h.2⟩

theorem EachStep.of_concat {P : S → A → Prop} {s : S} {as : List A} {a : A}
    (h : EachStep step P s (as ++ [a])) : P (run step s as) a := by
  induction as generalizing s with
  | nil => exact h.1
  | cons b rest ih => exact ih h.2

theorem eachStep_and {P Q : S → A → Prop} {s : S} {as : List A} :
    EachStep step (fun s a => P s a ∧ Q s a) s as ↔
      EachStep step P s as ∧ EachStep step Q s as := by
  induction as generalizing s with
  | nil => simp [EachStep]
  | cons a rest ih =>
    simp only [EachStep, ih]
    exact and_and_and_comm

/-- A transitive relation holds between any two states of a run, the earlier one first,
exactly when every step keeps to it. -/
theorem pairwise_trace_iff {R : S → S → Prop} (trans : ∀ {s t u}, R s t → R t u → R s u)
    (s : S) (as : List A) :
    (trace step s as).Pairwise R ↔ EachStep step (fun s a => R s (step s a)) s as := by
  induction as generalizing s with
  | nil => exact iff_of_true (List.pairwise_singleton R s) trivial
  | cons a rest ih =>
    have met (t : S) (later : List A) : ∃ tail, trace step t later = t :: tail := by
      cases later <;> exact ⟨_, rfl⟩
    simp only [trace, List.pairwise_cons, EachStep, ih]
    obtain ⟨tail, next⟩ := met (step s a) rest
    rw [next]
    constructor
    · rintro ⟨all, later⟩
      exact ⟨all _ List.mem_cons_self, later⟩
    · rintro ⟨first, later⟩
      refine ⟨fun t member => ?_, later⟩
      rcases List.mem_cons.mp member with rfl | inTail
      · exact first
      · have sorted := (ih (step s a)).mpr later
        rw [next, List.pairwise_cons] at sorted
        exact trans first (sorted.1 t inTail)

section Fallen
variable {T : Type w} (step : S → A → S) (fell : S → T → Prop)

/-- The run together with everything that fell in a state of it so far. -/
def markStep (p : S × (T → Prop)) (a : A) : S × (T → Prop) :=
  (step p.1 a, fun t => p.2 t ∨ fell (step p.1 a) t)

variable {step fell} {quiet : S → S → T → Prop}

theorem quiet_of_pairwise (refl : ∀ {s t}, fell s t → quiet s s t) {s : S} {as : List A}
    (law : (trace step s as).Pairwise (fun s u => ∀ t, fell s t → quiet s u t)) {t : T}
    (down : fell s t) : ∀ u ∈ trace step s as, quiet s u t := by
  intro u member
  cases as with
  | nil =>
    cases List.mem_singleton.mp member
    exact refl down
  | cons a rest =>
    rcases List.mem_cons.mp member with rfl | later
    · exact refl down
    · exact (List.pairwise_cons.mp law).1 u later t down

/-- Whatever falls stays quiet in the rest of the run exactly when every step leaves all
that fell before it quiet. -/
theorem pairwise_fallen_iff {C : S × (T → Prop) → A → Prop} (refl : ∀ {s t}, fell s t → quiet s s t)
    (trans : ∀ {s u v t}, quiet s u t → quiet u v t → quiet s v t)
    (rest_of : ∀ {s u v t}, quiet s u t → quiet s v t → quiet u v t)
    (exact_step : ∀ p a, (∀ t, p.2 t → quiet p.1 p.1 t) →
      ((∀ t, p.2 t → quiet p.1 (step p.1 a) t) ↔ C p a)) (s : S) (as : List A) :
    (trace step s as).Pairwise (fun s u => ∀ t, fell s t → quiet s u t) ↔
      EachStep (markStep step fell) C (s, fell s) as := by
  suffices general : ∀ (s : S) (fallen : T → Prop), (∀ t, fell s t → fallen t) →
      (∀ t, fallen t → quiet s s t) →
      ((∀ u ∈ trace step s as, ∀ t, fallen t → quiet s u t) ∧
          (trace step s as).Pairwise (fun s u => ∀ t, fell s t → quiet s u t) ↔
        EachStep (markStep step fell) C (s, fallen) as) by
    rw [← general s (fell s) (fun _ => id) (fun _ => refl)]
    exact ⟨fun law => ⟨fun u member t down => quiet_of_pairwise refl law down u member, law⟩,
      And.right⟩
  intro s fallen marked still
  induction as generalizing s fallen with
  | nil => simpa [trace, EachStep] using still
  | cons a rest ih =>
    have first : step s a ∈ trace step (step s a) rest := by
      cases rest <;> exact List.mem_cons_self
    simp only [trace, List.forall_mem_cons, List.pairwise_cons, EachStep]
    rw [← exact_step (s, fallen) a still]
    constructor
    · rintro ⟨⟨_, quiet_later⟩, _, law⟩
      have next := quiet_later (step s a) first
      refine ⟨next, (ih (step s a) _ (fun t => .inr) ?_).mp ⟨?_, law⟩⟩
      · rintro t (down | down)
        · exact rest_of (next t down) (next t down)
        · exact refl down
      · rintro u member t (down | down)
        · exact rest_of (next t down) (quiet_later u member t down)
        · exact quiet_of_pairwise refl law down u member
    · rintro ⟨next, later⟩
      have still_next : ∀ t, fallen t ∨ fell (step s a) t → quiet (step s a) (step s a) t := by
        rintro t (down | down)
        · exact rest_of (next t down) (next t down)
        · exact refl down
      obtain ⟨quiet_later, law⟩ := (ih (step s a) _ (fun t => .inr) still_next).mpr later
      have quiet_rest : ∀ u ∈ trace step (step s a) rest, ∀ t, fallen t → quiet s u t :=
        fun u member t down => trans (next t down) (quiet_later u member t (.inl down))
      exact ⟨⟨still, quiet_rest⟩, fun u member t down => quiet_rest u member t (marked t down), law⟩

end Fallen

theorem run_invariant {I : S → Prop} {as : List A}
    (keeps : ∀ s, ∀ a ∈ as, I s → I (step s a)) {s : S} (start : I s) : I (run step s as) := by
  induction as generalizing s with
  | nil => exact start
  | cons a rest ih =>
    exact ih (fun s b member => keeps s b (List.mem_cons_of_mem a member))
      (keeps s a List.mem_cons_self start)

/-- What one action brings about and the others keep holds after any run with that action. -/
theorem run_after_mem {I P : S → Prop} {as : List A}
    (keeps : ∀ s, ∀ b ∈ as, I s → I (step s b)) (stable : ∀ s, ∀ b ∈ as, P s → P (step s b))
    {a : A} (reached : ∀ s, I s → P (step s a)) {s : S} (start : I s) (member : a ∈ as) :
    P (run step s as) := by
  induction as generalizing s with
  | nil => cases member
  | cons b rest ih =>
    have later : ∀ c ∈ rest, c ∈ b :: rest := fun c => List.mem_cons_of_mem b
    rcases List.mem_cons.mp member with rfl | inRest
    · exact run_invariant (fun s c here => stable s c (later c here)) (reached s start)
    · exact ih (fun s c here => keeps s c (later c here))
        (fun s c here => stable s c (later c here))
        (keeps s b List.mem_cons_self start) inRest

end Transition
