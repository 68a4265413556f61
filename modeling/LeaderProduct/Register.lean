import LeaderProduct.Transition

/-! A versioned register that messages write. A message may arrive late, twice or after a
newer one; it names its version, a tag of what it carries, and whether it raises the
register's flag. A register whose flag is up takes complete values only, and the flag
stays up. The rules say what a run leaves behind whatever the order of its messages. -/
namespace Register
open Transition

structure Message (T V : Type) where
  version : Nat
  tag : T
  raises : Bool
  loads : Bool
  value : Option V

structure Cell (T V : Type) where
  version : Nat
  tag : T
  value : V
  raised : Bool

def flag {T V : Type} : Option (Cell T V) → Bool
  | none => false
  | some c => c.raised

def store {T V : Type} (complete : V → Bool) (raised : Bool) (m : Message T V) :
    Option (Cell T V) :=
  match m.value with
  | none => none
  | some v =>
    if m.loads && (!raised || complete v) then some ⟨m.version, m.tag, v, raised⟩ else none

def Effective {T V : Type} (complete : V → Bool) (m : Message T V) : Prop :=
  m.loads = true ∧ ∃ v, m.value = some v ∧ (m.raises = true → complete v = true)

def Agree {T V : Type} (m m' : Message T V) : Prop :=
  m.version = m'.version → m.loads = m'.loads ∧ m.value = m'.value

theorem store_eq_some {T V : Type} {complete : V → Bool} {raised : Bool} {m : Message T V}
    {c : Cell T V} :
    store complete raised m = some c ↔
      m.loads = true ∧ ∃ v, m.value = some v ∧ (raised = true → complete v = true) ∧
        c = ⟨m.version, m.tag, v, raised⟩ := by
  unfold store
  cases m.value with
  | none => simp
  | some v =>
    simp only [Option.ite_none_right_eq_some, Bool.and_eq_true, Bool.or_eq_true, Bool.not_eq_true',
      Option.some.injEq, exists_eq_left', and_assoc, @eq_comm _ c]
    cases raised <;> simp

theorem store_eq_none {T V : Type} {complete : V → Bool} {raised : Bool} {m : Message T V} :
    store complete raised m = none ↔
      ∀ v, m.loads = true → m.value = some v → raised = true ∧ complete v = false := by
  unfold store
  cases m.value with
  | none => simp
  | some v => cases m.loads <;> cases raised <;> cases complete v <;> simp

theorem store_none_mono {T V : Type} {complete : V → Bool} {raised raised' : Bool} {m : Message T V}
    (refused : store complete raised m = none) (mono : raised = true → raised' = true) :
    store complete raised' m = none := by
  rw [store_eq_none] at refused ⊢
  intro v loads value
  obtain ⟨up, incomplete⟩ := refused v loads value
  exact ⟨mono up, incomplete⟩

theorem refused_beside {T V : Type} {complete : V → Bool} {raised raised' : Bool}
    {m m' : Message T V} {v : V} (agree : Agree m m') (same : m.version = m'.version)
    (refused : store complete (m.raises || raised) m = none)
    (loads : m'.loads = true) (value : m'.value = some v)
    (whole : (m'.raises || raised') = true → complete v = true) :
    complete v = false ∧ raised' = false := by
  obtain ⟨sameLoads, sameValue⟩ := agree same
  obtain ⟨_, incomplete⟩ := store_eq_none.mp refused v (sameLoads.trans loads)
    (sameValue.trans value)
  have down : raised' = false := by
    cases up : raised' with
    | false => rfl
    | true =>
      rw [whole (by simp [up])] at incomplete
      cases incomplete
  exact ⟨incomplete, down⟩

structure Newest {T V : Type} (s : Option (Cell T V)) (seen : List (Message T V)) : Prop where
  newest : ∀ m ∈ seen, ∃ c, s = some c ∧ m.version ≤ c.version
  origin : ∀ c, s = some c → ∃ m ∈ seen, m.version = c.version ∧ m.value = some c.value

theorem newest_empty {T V : Type} : Newest (none : Option (Cell T V)) [] where
  newest _ member := by cases member
  origin _ filled := by cases filled

variable {T V : Type} [DecidableEq T] (complete : V → Bool)

def offer : Option (Cell T V) → Message T V → Option (Cell T V)
  | none, m => store complete m.raises m
  | some c, m =>
    if m.version < c.version then some c
    else if m.version = c.version then
      if m.tag ≠ c.tag then none
      else if !m.raises || c.raised then some c
      else if m.loads && complete c.value then some { c with raised := true }
      else none
    else store complete (m.raises || c.raised) m

def deliver (s : Option (Cell T V)) (m : Message T V) : Option (Cell T V) :=
  (offer complete s m).or s

def answered : Option (Cell T V) → List (Message T V) → List (Message T V)
  | _, [] => []
  | s, m :: rest =>
    if (offer complete s m).isSome then m :: answered (deliver complete s m) rest
    else answered (deliver complete s m) rest

inductive Change (s : Option (Cell T V)) (m : Message T V) : Option (Cell T V) → Prop where
  | none : Change s m s
  | raise {c : Cell T V} (filled : s = some c) (version : m.version = c.version)
      (tag : m.tag = c.tag) (raises : m.raises = true) (loads : m.loads = true)
      (whole : complete c.value = true) : Change s m (some { c with raised := true })
  | store {v : V} (newer : ∀ c, s = some c → c.version < m.version) (loads : m.loads = true)
      (value : m.value = some v) (whole : (m.raises || flag s) = true → complete v = true) :
      Change s m (some ⟨m.version, m.tag, v, m.raises || flag s⟩)

theorem deliver_change (s : Option (Cell T V)) (m : Message T V) :
    Change complete s m (deliver complete s m) := by
  cases s with
  | none =>
    cases stored : store complete m.raises m with
    | none =>
      rw [deliver, offer, stored]
      exact .none
    | some c =>
      obtain ⟨loads, v, value, whole, rfl⟩ := store_eq_some.mp stored
      have change := Change.store (s := none) (fun _ h => nomatch h) loads value
        (by simpa [flag] using whole)
      simpa [deliver, offer, stored, flag] using change
  | some c =>
    simp only [deliver, offer]
    split
    · exact .none
    split
    · rename_i version
      split
      · exact .none
      rename_i tag
      split
      · exact .none
      rename_i raises
      split
      · rename_i loads
        simp only [Bool.or_eq_true, Bool.not_eq_true', not_or, Bool.not_eq_false] at raises
        simp only [Bool.and_eq_true] at loads
        exact .raise rfl version (Decidable.not_not.mp tag) raises.1 loads.1 loads.2
      · exact .none
    · rename_i older other
      cases stored : store complete (m.raises || c.raised) m with
      | none => exact .none
      | some c' =>
        obtain ⟨loads, v, value, whole, rfl⟩ := store_eq_some.mp stored
        have newer : ∀ old, some c = some old → old.version < m.version := by
          rintro _ ⟨⟩
          omega
        exact .store newer loads value whole

theorem deliver_version (c : Cell T V) (m : Message T V) :
    ∃ c', deliver complete (some c) m = some c' ∧ c.version ≤ c'.version ∧
      (c.version = c'.version → c.tag = c'.tag ∧ c.value = c'.value) ∧
      (c.raised = true → c'.raised = true) := by
  have change := deliver_change complete (some c) m
  generalize deliver complete (some c) m = after at change ⊢
  cases change with
  | none => exact ⟨c, rfl, Nat.le_refl _, fun _ => ⟨rfl, rfl⟩, id⟩
  | raise filled =>
    cases filled
    exact ⟨_, rfl, Nat.le_refl _, fun _ => ⟨rfl, rfl⟩, fun _ => rfl⟩
  | store newer =>
    have older : c.version < m.version := newer c rfl
    exact ⟨_, rfl, Nat.le_of_lt older, fun same => absurd same (Nat.ne_of_lt older),
      fun raised => by simp [flag, raised]⟩

variable {complete}

theorem offer_version {s : Option (Cell T V)} {m : Message T V} {c : Cell T V}
    (taken : offer complete s m = some c) : m.version ≤ c.version := by
  cases s with
  | none =>
    obtain ⟨_, _, _, _, rfl⟩ := store_eq_some.mp taken
    exact Nat.le_refl _
  | some old =>
    simp only [offer] at taken
    split at taken
    · rename_i older
      cases taken
      exact Nat.le_of_lt older
    split at taken
    · rename_i version
      split at taken
      · cases taken
      split at taken
      · cases taken
        exact Nat.le_of_eq version
      split at taken
      · cases taken
        exact Nat.le_of_eq version
      · cases taken
    · obtain ⟨_, _, _, _, rfl⟩ := store_eq_some.mp taken
      exact Nat.le_refl _

/-! ## The value a run leaves -/

theorem Newest.deliver_answered {s : Option (Cell T V)} {seen : List (Message T V)}
    {m : Message T V} (held : Newest s seen) (taken : (offer complete s m).isSome = true) :
    Newest (deliver complete s m) (seen ++ [m]) := by
  obtain ⟨c, offered⟩ := Option.isSome_iff_exists.mp taken
  have after : deliver complete s m = some c := by rw [deliver, offered, Option.some_or]
  constructor
  · intro m' member
    rcases List.mem_append.mp member with earlier | last
    · obtain ⟨old, rfl, le⟩ := held.newest m' earlier
      obtain ⟨c', delivered, grows, _⟩ := deliver_version complete old m
      exact ⟨c', delivered, Nat.le_trans le grows⟩
    · cases List.mem_singleton.mp last
      exact ⟨c, after, offer_version offered⟩
  · have change := deliver_change complete s m
    rw [after] at change ⊢
    rintro _ ⟨⟩
    generalize stored : some c = slot at change
    cases change with
    | none =>
      obtain ⟨m', earlier, same⟩ := held.origin c stored.symm
      exact ⟨m', List.mem_append_left _ earlier, same⟩
    | raise filled =>
      cases stored
      obtain ⟨m', earlier, same⟩ := held.origin _ filled
      exact ⟨m', List.mem_append_left _ earlier, same⟩
    | store newer loads value =>
      cases stored
      exact ⟨m, List.mem_append_right _ (List.mem_singleton.mpr rfl), rfl, value⟩

variable (complete) in
theorem Newest.run {s : Option (Cell T V)} {seen : List (Message T V)} (held : Newest s seen)
    (ms : List (Message T V)) :
    Newest (Transition.run (deliver complete) s ms) (seen ++ answered complete s ms) := by
  induction ms generalizing s seen with
  | nil => simpa [answered, Transition.run] using held
  | cons m rest ih =>
    unfold answered
    split
    · rename_i taken
      simpa [Transition.run] using ih (held.deliver_answered taken)
    · rename_i refused
      have same : deliver complete s m = s := by
        rw [deliver, Option.not_isSome_iff_eq_none.mp refused, Option.none_or]
      rw [Transition.run, same]
      exact ih held

/-! ## Late copies of a message -/

def Spent {T V : Type} (complete : V → Bool) (m : Message T V) : Option (Cell T V) → Prop
  | none => store complete m.raises m = none
  | some c =>
    m.version < c.version ∨
      (m.version = c.version ∧
        (m.tag ≠ c.tag ∨ m.raises = false ∨ c.raised = true ∨
          (m.loads && complete c.value) = false)) ∨
      (c.version < m.version ∧ store complete (m.raises || c.raised) m = none)

theorem Spent.deliver {s : Option (Cell T V)} {m : Message T V} (spent : Spent complete m s) :
    deliver complete s m = s := by
  cases s with
  | none =>
    have refused : store complete m.raises m = none := spent
    rw [Register.deliver, offer, refused, Option.none_or]
  | some c =>
    simp only [Register.deliver, offer]
    rcases spent with older | ⟨same, nothing⟩ | ⟨newer, refused⟩
    · rw [if_pos older, Option.some_or]
    · rw [if_neg (by omega), if_pos same]
      split
      · rfl
      rename_i tag
      split
      · rfl
      rename_i unraised
      simp only [Bool.or_eq_true, Bool.not_eq_true', not_or, Bool.not_eq_false] at unraised
      rcases nothing with other | mild | raised | missing
      · exact absurd other tag
      · rw [unraised.1] at mild
        cases mild
      · exact absurd raised unraised.2
      · rw [if_neg (by simp [missing]), Option.none_or]
    · rw [if_neg (by omega), if_neg (by omega), refused, Option.none_or]

theorem spent_of_delivered (s : Option (Cell T V)) (m : Message T V) :
    Spent complete m (deliver complete s m) := by
  cases s with
  | none =>
    simp only [deliver, offer, Option.or_none]
    cases stored : store complete m.raises m with
    | none => exact stored
    | some c =>
      obtain ⟨_, _, _, _, rfl⟩ := store_eq_some.mp stored
      refine .inr (.inl ⟨rfl, ?_⟩)
      cases m.raises <;> simp
  | some c =>
    simp only [deliver, offer]
    split
    · rename_i older
      exact .inl older
    split
    · rename_i version
      split
      · rename_i other
        exact .inr (.inl ⟨version, .inl other⟩)
      split
      · rename_i idle
        rw [Bool.or_eq_true, Bool.not_eq_true'] at idle
        exact .inr (.inl ⟨version, .inr (idle.imp_right .inl)⟩)
      split
      · exact .inr (.inl ⟨version, .inr (.inr (.inl rfl))⟩)
      · rename_i missing
        exact .inr (.inl ⟨version, .inr (.inr (.inr (Bool.eq_false_iff.mpr missing)))⟩)
    · rename_i older other
      have newer : c.version < m.version := by omega
      cases stored : store complete (m.raises || c.raised) m with
      | none => exact .inr (.inr ⟨newer, stored⟩)
      | some c' =>
        obtain ⟨_, _, _, _, rfl⟩ := store_eq_some.mp stored
        refine .inr (.inl ⟨rfl, ?_⟩)
        cases raises : m.raises <;> simp

theorem Spent.deliver_other {s : Option (Cell T V)} {m m' : Message T V} (agree : Agree m m')
    (spent : Spent complete m s) : Spent complete m (Register.deliver complete s m') := by
  have change := deliver_change complete s m'
  generalize Register.deliver complete s m' = after at change ⊢
  cases change with
  | none => exact spent
  | @raise c filled version tag raises loads whole =>
    subst filled
    rcases spent with older | ⟨same, nothing⟩ | ⟨newer, refused⟩
    · exact .inl older
    · exact .inr (.inl ⟨same, .inr (.inr (.inl rfl))⟩)
    · have still : store complete (m.raises || true) m = none :=
        store_none_mono refused (by simp)
      exact .inr (.inr ⟨newer, still⟩)
  | @store v newer loads value whole =>
    rcases Nat.lt_trichotomy m.version m'.version with below | same | above
    · exact .inl below
    · have refused : store complete (m.raises || flag s) m = none := by
        cases s with
        | none => simpa [flag, Spent] using spent
        | some c =>
          have older := newer c rfl
          rcases spent with lower | ⟨level, _⟩ | ⟨_, refused⟩
          · omega
          · omega
          · exact refused
      have incomplete := (refused_beside agree same refused loads value whole).1
      exact .inr (.inl ⟨same, .inr (.inr (.inr (by simp [incomplete])))⟩)
    · have still : store complete (m.raises || (m'.raises || flag s)) m = none := by
        cases s with
        | none => exact store_none_mono spent (fun up => by simp [up])
        | some c =>
          have older := newer c rfl
          rcases spent with lower | ⟨level, _⟩ | ⟨_, refused⟩
          · omega
          · omega
          · have more : (m.raises || c.raised) = true →
                (m.raises || (m'.raises || c.raised)) = true := by
              intro up
              simp only [Bool.or_eq_true] at up ⊢
              exact up.imp_right .inr
            exact store_none_mono refused more
      exact .inr (.inr ⟨above, still⟩)

theorem spent_of_run {M : List (Message T V)} (agree : ∀ m ∈ M, ∀ m' ∈ M, Agree m m')
    {ms : List (Message T V)} (subset : ∀ m ∈ ms, m ∈ M) {s : Option (Cell T V)}
    {m : Message T V} (member : m ∈ ms) :
    Spent complete m (run (deliver complete) s ms) :=
  run_after_mem (I := fun _ => True) (fun _ _ _ _ => trivial)
    (fun _ m' here spent => spent.deliver_other (agree m (subset m member) m' (subset m' here)))
    (fun s _ => spent_of_delivered s m) trivial member

/-! ## The flag a run leaves -/

def StoredFrom (complete : V → Bool) (M : List (Message T V)) (s : Option (Cell T V)) : Prop :=
  ∀ c, s = some c → ∃ m ∈ M, Effective complete m ∧ m.version = c.version ∧ m.tag = c.tag ∧
    m.value = some c.value ∧ (m.raises = true → c.raised = true)

omit [DecidableEq T] in
theorem storedFrom_none (M : List (Message T V)) : StoredFrom complete M none := by
  intro c filled
  cases filled

theorem storedFrom_deliver {M : List (Message T V)} {s : Option (Cell T V)} {m : Message T V}
    (member : m ∈ M) (stored : StoredFrom complete M s) :
    StoredFrom complete M (deliver complete s m) := by
  have change := deliver_change complete s m
  generalize deliver complete s m = after at change ⊢
  cases change with
  | none => exact stored
  | raise filled =>
    rintro _ ⟨⟩
    obtain ⟨origin, listed, effective, version, tag, value, _⟩ := stored _ filled
    exact ⟨origin, listed, effective, version, tag, value, fun _ => rfl⟩
  | store newer loads value whole =>
    have effective : Effective complete m :=
      ⟨loads, _, value, fun raises => whole (by simp [raises])⟩
    rintro _ ⟨⟩
    exact ⟨m, member, effective, rfl, rfl, value, fun raises => by simp [raises]⟩

section Flag
variable {M : List (Message T V)} (agree : ∀ m ∈ M, ∀ m' ∈ M, Agree m m')
include agree

omit [DecidableEq T] in
theorem effective_of_raise {c : Cell T V} {m : Message T V} (member : m ∈ M)
    (stored : StoredFrom complete M (some c)) (version : m.version = c.version)
    (loads : m.loads = true) (whole : complete c.value = true) : Effective complete m := by
  obtain ⟨origin, listed, _, sameVersion, _, value, _⟩ := stored c rfl
  have same := (agree m member origin listed (version.trans sameVersion.symm)).2
  exact ⟨loads, c.value, same.trans value, fun _ => whole⟩

theorem flag_deliver_down (down : ∀ m ∈ M, m.raises = true → ¬Effective complete m)
    {s : Option (Cell T V)} {m : Message T V} (member : m ∈ M) (stored : StoredFrom complete M s)
    (unraised : flag s = false) : flag (deliver complete s m) = false := by
  have change := deliver_change complete s m
  generalize deliver complete s m = after at change ⊢
  cases change with
  | none => exact unraised
  | raise filled version tag raises loads whole =>
    subst filled
    exact absurd (effective_of_raise agree member stored version loads whole) (down m member raises)
  | @store v newer loads value whole =>
    have mild : m.raises = false := by
      cases raises : m.raises with
      | false => rfl
      | true =>
        have effective : Effective complete m :=
          ⟨loads, v, value, fun _ => whole (by simp [raises])⟩
        exact absurd effective (down m member raises)
    change (m.raises || flag s) = false
    rw [mild, unraised]
    rfl

def Outrun (m : Message T V) (s : Option (Cell T V)) : Prop :=
  ∃ c, s = some c ∧ c.raised = false ∧ m.version ≤ c.version ∧
    (c.version = m.version → c.tag = m.tag)

theorem outrun_deliver {m : Message T V}
    (unmatched : ∀ m' ∈ M, Effective complete m' → m'.raises = true →
      ¬(m.version < m'.version ∨ (m.version = m'.version ∧ m.tag = m'.tag)))
    {s : Option (Cell T V)} {m' : Message T V} (member : m' ∈ M) (stored : StoredFrom complete M s)
    (outrun : Outrun m s) : Outrun m (deliver complete s m') := by
  obtain ⟨c, rfl, unraised, reached, sameTag⟩ := outrun
  have change := deliver_change complete (some c) m'
  generalize deliver complete (some c) m' = after at change ⊢
  cases change with
  | none => exact ⟨c, rfl, unraised, reached, sameTag⟩
  | raise filled version tag raises loads whole =>
    cases filled
    have effective := effective_of_raise agree member stored version loads whole
    have reaches : m.version < m'.version ∨ (m.version = m'.version ∧ m.tag = m'.tag) := by
      rcases Nat.lt_or_eq_of_le reached with below | level
      · exact .inl (version ▸ below)
      · exact .inr ⟨level.trans version.symm, (tag.trans (sameTag level.symm)).symm⟩
    exact absurd reaches (unmatched m' member effective raises)
  | @store v newer loads value whole =>
    have older := newer c rfl
    have below : m.version < m'.version := Nat.lt_of_le_of_lt reached older
    have mild : m'.raises = false := by
      cases raises : m'.raises with
      | false => rfl
      | true =>
        have effective : Effective complete m' :=
          ⟨loads, v, value, fun _ => whole (by simp [raises])⟩
        exact absurd (.inl below) (unmatched m' member effective raises)
    exact ⟨_, rfl, by simp [flag, mild, unraised], Nat.le_of_lt below,
      fun same => absurd same (Nat.ne_of_gt below)⟩

def Passed (m : Message T V) (s : Option (Cell T V)) : Prop :=
  ∃ c, s = some c ∧ (c.raised = true ∨ m.version < c.version ∨
    (m.version = c.version ∧ m.tag ≠ c.tag))

theorem passed_of_delivered {m : Message T V} (member : m ∈ M) (effective : Effective complete m)
    (raises : m.raises = true) {s : Option (Cell T V)} (stored : StoredFrom complete M s) :
    Passed m (deliver complete s m) := by
  obtain ⟨loads, v, value, whole⟩ := effective
  have makes : ∀ b, store complete (m.raises || b) m = some ⟨m.version, m.tag, v, true⟩ := by
    intro b
    exact store_eq_some.mpr ⟨loads, v, value, fun _ => whole raises, by simp [raises]⟩
  cases s with
  | none =>
    have made := makes false
    rw [Bool.or_false] at made
    exact ⟨_, by rw [deliver, offer, made, Option.some_or], .inl rfl⟩
  | some c =>
    obtain ⟨origin, listed, _, sameVersion, _, stored, _⟩ := stored c rfl
    simp only [deliver, offer]
    split
    · rename_i older
      exact ⟨c, rfl, .inr (.inl older)⟩
    split
    · rename_i version
      have same := (agree m member origin listed (version.trans sameVersion.symm)).2
      have whole : complete c.value = true := by
        rw [value, stored] at same
        cases same
        exact whole raises
      split
      · rename_i other
        exact ⟨c, rfl, .inr (.inr ⟨version, other⟩)⟩
      split
      · rename_i idle
        have up : c.raised = true := by simpa [raises] using idle
        exact ⟨c, rfl, .inl up⟩
      · rw [if_pos (by simp [loads, whole])]
        exact ⟨_, rfl, .inl rfl⟩
    · exact ⟨_, by rw [makes c.raised, Option.some_or], .inl rfl⟩

omit agree in
theorem passed_deliver {m m' : Message T V} {s : Option (Cell T V)} (passed : Passed m s) :
    Passed m (deliver complete s m') := by
  obtain ⟨c, rfl, passed⟩ := passed
  obtain ⟨c', delivered, grows, sameTag, raised⟩ := deliver_version complete c m'
  rcases passed with up | below | ⟨level, other⟩
  · exact ⟨c', delivered, .inl (raised up)⟩
  · have further : m.version < c'.version := by omega
    exact ⟨c', delivered, .inr (.inl further)⟩
  · rcases Nat.lt_or_eq_of_le grows with above | same
    · have further : m.version < c'.version := by omega
      exact ⟨c', delivered, .inr (.inl further)⟩
    · exact ⟨c', delivered, .inr (.inr ⟨level.trans same, (sameTag same).1 ▸ other⟩)⟩

end Flag

theorem flag_deliver_up {s : Option (Cell T V)} (m : Message T V) (up : flag s = true) :
    flag (deliver complete s m) = true := by
  cases s with
  | none => cases up
  | some c =>
    obtain ⟨c', delivered, _, _, raised⟩ := deliver_version complete c m
    rw [delivered]
    exact raised up

theorem deliver_none {m : Message T V} (effective : Effective complete m) :
    ∃ v, deliver complete none m = some ⟨m.version, m.tag, v, m.raises⟩ := by
  obtain ⟨loads, v, value, whole⟩ := effective
  have stored := store_eq_some.mpr ⟨loads, v, value, whole, rfl⟩
  exact ⟨v, by rw [deliver, offer, stored, Option.some_or]⟩

structure Delivers (M ms : List (Message T V)) : Prop where
  only : ∀ m ∈ ms, m ∈ M
  all : ∀ m ∈ M, m ∈ ms

def Matched (complete : V → Bool) (M : List (Message T V)) : Prop :=
  (∀ m ∈ M, m.raises = true → ¬Effective complete m) ∨
    ∀ m ∈ M, Effective complete m → m.raises = false →
      ∃ m' ∈ M, Effective complete m' ∧ m'.raises = true ∧
        (m.version < m'.version ∨ (m.version = m'.version ∧ m.tag = m'.tag))

section Order
variable {M : List (Message T V)} (agree : ∀ m ∈ M, ∀ m' ∈ M, Agree m m')
include agree

theorem flag_run_down (down : ∀ m ∈ M, m.raises = true → ¬Effective complete m)
    {ms : List (Message T V)} (only : ∀ m ∈ ms, m ∈ M) :
    flag (run (deliver complete) none ms) = false := by
  have held : StoredFrom complete M (run (deliver complete) none ms) ∧
      flag (run (deliver complete) none ms) = false :=
    run_invariant (I := fun s => StoredFrom complete M s ∧ flag s = false)
      (fun s m member h => ⟨storedFrom_deliver (only m member) h.1,
        flag_deliver_down agree down (only m member) h.1 h.2⟩)
      ⟨storedFrom_none M, rfl⟩
  exact held.2

theorem flag_run_up {ms : List (Message T V)} (delivers : Delivers M ms)
    (matched : ∀ m ∈ M, Effective complete m → m.raises = false →
      ∃ m' ∈ M, Effective complete m' ∧ m'.raises = true ∧
        (m.version < m'.version ∨ (m.version = m'.version ∧ m.tag = m'.tag)))
    {raiser : Message T V} (listed : raiser ∈ M) (effective : Effective complete raiser)
    (raises : raiser.raises = true) : flag (run (deliver complete) none ms) = true := by
  have stored : StoredFrom complete M (run (deliver complete) none ms) :=
    run_invariant (fun s m member h => storedFrom_deliver (delivers.only m member) h)
      (storedFrom_none M)
  have passed : ∀ m ∈ M, Effective complete m → m.raises = true →
      Passed m (run (deliver complete) none ms) := fun m member effective raises =>
    run_after_mem (I := StoredFrom complete M)
      (fun s m member h => storedFrom_deliver (delivers.only m member) h)
      (fun s m' _ h => passed_deliver h)
      (fun s h => passed_of_delivered agree member effective raises h)
      (storedFrom_none M) (delivers.all m member)
  obtain ⟨c, filled, _⟩ := passed raiser listed effective raises
  obtain ⟨origin, originListed, originEffective, version, tag, _, raised⟩ := stored c filled
  rw [filled]
  cases mild : origin.raises with
  | true => exact raised mild
  | false =>
    obtain ⟨m, member, meffective, mraises, newer⟩ :=
      matched origin originListed originEffective mild
    obtain ⟨c', filled', up | below | ⟨level, other⟩⟩ := passed m member meffective mraises
    · cases filled.symm.trans filled'
      exact up
    · cases filled.symm.trans filled'
      omega
    · cases filled.symm.trans filled'
      rcases newer with above | ⟨_, sameTag⟩
      · omega
      · exact absurd (sameTag.symm.trans tag) other

theorem flag_run_outrun {m : Message T V} (member : m ∈ M) (effective : Effective complete m)
    (mild : m.raises = false)
    (unmatched : ∀ m' ∈ M, Effective complete m' → m'.raises = true →
      ¬(m.version < m'.version ∨ (m.version = m'.version ∧ m.tag = m'.tag))) :
    flag (run (deliver complete) none (m :: M)) = false := by
  obtain ⟨v, filled⟩ := deliver_none effective
  have held : StoredFrom complete M (run (deliver complete) none (m :: M)) ∧
      Outrun m (run (deliver complete) none (m :: M)) :=
    run_invariant (I := fun s => StoredFrom complete M s ∧ Outrun m s)
      (fun s m' member' h => ⟨storedFrom_deliver member' h.1,
        outrun_deliver agree unmatched member' h.1 h.2⟩)
      ⟨storedFrom_deliver member (storedFrom_none M),
        ⟨_, filled, mild, Nat.le_refl _, fun _ => rfl⟩⟩
  obtain ⟨c, final, unraised, _⟩ := held.2
  rw [final]
  exact unraised

theorem matched_of_first
    (independent : ∀ m ∈ M, ∀ m' ∈ M, flag (run (deliver complete) none (m :: M)) =
      flag (run (deliver complete) none (m' :: M))) : Matched complete M := by
  refine Classical.or_iff_not_imp_left.mpr (fun raisable m member effective mild => ?_)
  refine Classical.byContradiction (fun unmatched => ?_)
  simp only [Classical.not_forall, Classical.not_not] at raisable
  obtain ⟨raiser, listed, raises, raiserEffective⟩ := raisable
  have lower : flag (run (deliver complete) none (m :: M)) = false :=
    flag_run_outrun agree member effective mild
      (fun m' member' effective' raises' newer =>
        unmatched ⟨m', member', effective', raises', newer⟩)
  have upper : flag (run (deliver complete) none (raiser :: M)) = true := by
    obtain ⟨v, filled⟩ := deliver_none raiserEffective
    have first : flag (deliver complete none raiser) = true := by
      rw [filled, raises]
      rfl
    change flag (run (deliver complete) (deliver complete none raiser) M) = true
    exact run_invariant (I := fun s => flag s = true)
      (fun s m' _ up => flag_deliver_up m' up) first
  rw [independent m member raiser listed, upper] at lower
  cases lower

/-- After all messages of a matched list the flag does not depend on their order and copies. -/
theorem flag_eq_of_matched (matched : Matched complete M) {ms ms' : List (Message T V)}
    (delivers : Delivers M ms) (delivers' : Delivers M ms') :
    flag (run (deliver complete) none ms) = flag (run (deliver complete) none ms') := by
  by_cases down : ∀ m ∈ M, m.raises = true → ¬Effective complete m
  · rw [flag_run_down agree down delivers.only, flag_run_down agree down delivers'.only]
  · have covered := matched.resolve_left down
    simp only [Classical.not_forall, Classical.not_not] at down
    obtain ⟨raiser, listed, raises, effective⟩ := down
    rw [flag_run_up agree delivers covered listed effective raises,
      flag_run_up agree delivers' covered listed effective raises]

end Order

end Register
