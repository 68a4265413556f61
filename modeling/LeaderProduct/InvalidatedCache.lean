import Mathlib.Logic.Function.Basic

/-! A cache over a store that others write. -/
namespace LeaderProduct.InvalidatedCache

section Operations

structure Read (V : Type) where
  value : V
  seen : Nat

structure Kept (V : Type) extends Read V where
  expiresAt : Nat

inductive LoadPhase (V : Type) where
  | querying
  | fetched (read : Read V)
  /-- Kept or failed, but still registered; its lookups are told when it is not any more. -/
  | closing (outcome : Option (Read V))

structure Load (K V : Type) where
  key : K
  epoch : Nat
  phase : LoadPhase V

inductive LookupPhase (V : Type) where
  | waiting (load : Nat)
  | answered (read : Read V)
  | failed

structure Lookup (K V : Type) where
  key : K
  since : Nat
  epoch : Nat
  phase : LookupPhase V

/-- `writes` have been done to the store; of these `cleared` and `returned` are the last whose
invalidation has run and that has returned. An epoch lasts from one invalidation to the next. -/
structure Cache (K V : Type) where
  now : Nat
  kept : K → Option (Kept V)
  registered : K → Option Nat
  loads : Nat → Option (Load K V)
  lookups : Nat → Option (Lookup K V)
  epoch : Nat
  writes : Nat
  cleared : Nat
  returned : Nat

variable {K V : Type}

def Cache.empty (now : Nat) : Cache K V where
  now := now
  kept := fun _ => none
  registered := fun _ => none
  loads := fun _ => none
  lookups := fun _ => none
  epoch := 0
  writes := 0
  cleared := 0
  returned := 0

def Lookup.toldBy (load : Nat) (outcome : Option (Read V)) (lookup : Lookup K V) : Lookup K V :=
  match lookup.phase with
  | .waiting other =>
    if other = load then { lookup with phase := outcome.elim .failed .answered } else lookup
  | _ => lookup

namespace Cache
variable [DecidableEq K] (s : Cache K V)

def begin (id : Nat) (key : K) (phase : LookupPhase V) : Cache K V :=
  { s with lookups := Function.update s.lookups id (some ⟨key, s.returned, s.epoch, phase⟩) }

/-- A lookup by a number that is not used yet, which is that of the load too where it starts one. -/
def lookup (id : Nat) (key : K) : Cache K V :=
  if (s.lookups id).isSome then s
  else match (s.kept key).filter (fun kept => decide (s.now < kept.expiresAt)) with
    | some kept => s.begin id key (.answered kept.toRead)
    | none =>
      match s.registered key with
      | some load => s.begin id key (.waiting load)
      | none =>
        { s.begin id key (.waiting id) with
          registered := Function.update s.registered key (some id)
          loads := Function.update s.loads id (some ⟨key, s.epoch, .querying⟩) }

def setPhase (id : Nat) (load : Load K V) (phase : LoadPhase V) : Cache K V :=
  { s with loads := Function.update s.loads id (some { load with phase := phase }) }

/-- The store answers the query of a load. -/
def query (read : K → V) (id : Nat) : Cache K V :=
  match s.loads id with
  | none => s
  | some load =>
    match load.phase with
    | .querying => s.setPhase id load (.fetched ⟨read load.key, s.writes⟩)
    | _ => s

/-- A load keeps what it has read. -/
def keep (ttl : Nat) (id : Nat) : Cache K V :=
  match s.loads id with
  | none => s
  | some load =>
    match load.phase with
    | .fetched read =>
      { s.setPhase id load (.closing (some read)) with
        kept := Function.update s.kept load.key (some ⟨read, s.now + ttl⟩) }
    | _ => s

def fail (id : Nat) : Cache K V :=
  match s.loads id with
  | none => s
  | some load =>
    match load.phase with
    | .closing _ => s
    | _ => s.setPhase id load (.closing none)

def finish (id : Nat) : Cache K V :=
  match s.loads id with
  | none => s
  | some load =>
    match load.phase with
    | .closing outcome =>
      { s with
        registered := Function.update s.registered load.key none
        loads := Function.update s.loads id none
        lookups := fun other => (s.lookups other).map (Lookup.toldBy id outcome) }
    | _ => s

def write : Cache K V := { s with writes := s.writes + 1 }

def clear (index : Nat) : Cache K V :=
  { s with
    kept := fun _ => none
    registered := fun _ => none
    epoch := s.epoch + 1
    cleared := max s.cleared index }

def answer (index : Nat) : Cache K V := { s with returned := max s.returned index }

def wait (time : Nat) : Cache K V := { s with now := s.now + time }

end Cache
end Operations

section Safety
variable {K V : Type}

/-- No lookup has been given what was read before a write that had returned, and those of one epoch
that wait at one time for one key wait for one load. -/
structure NeverStale (s : Cache K V) : Prop where
  fresh : ∀ id lookup read, s.lookups id = some lookup → lookup.phase = .answered read →
    lookup.since ≤ read.seen
  shared : ∀ i j a b l m, s.lookups i = some a → s.lookups j = some b → a.key = b.key →
    a.epoch = b.epoch → a.phase = .waiting l → b.phase = .waiting m → l = m

def LoadPhase.read : LoadPhase V → Option (Read V)
  | .querying => none
  | .fetched read => some read
  | .closing outcome => outcome

structure Sound (s : Cache K V) : Prop where
  returned : s.returned ≤ s.cleared
  cleared : s.cleared ≤ s.writes
  kept : ∀ key kept, s.kept key = some kept → s.cleared ≤ kept.seen
  joined : ∀ key id load read, s.registered key = some id → s.loads id = some load →
    load.phase.read = some read → s.cleared ≤ read.seen
  running : ∀ key id, s.registered key = some id →
    ∃ load, s.loads id = some load ∧ load.key = key ∧ load.epoch = s.epoch
  epoch : ∀ id load, s.loads id = some load → load.epoch ≤ s.epoch
  listed : ∀ id load, s.loads id = some load → load.epoch = s.epoch → s.registered load.key = some id
  single : ∀ i j a b, s.loads i = some a → s.loads j = some b → a.key = b.key →
    a.epoch = b.epoch → i = j
  started : ∀ id load, s.loads id = some load → (s.lookups id).isSome = true
  since : ∀ id lookup, s.lookups id = some lookup → lookup.since ≤ s.returned
  waiting : ∀ id lookup l, s.lookups id = some lookup → lookup.phase = .waiting l →
    ∃ load, s.loads l = some load ∧ load.key = lookup.key ∧ load.epoch = lookup.epoch ∧
      ∀ read, load.phase.read = some read → lookup.since ≤ read.seen
  fresh : ∀ id lookup read, s.lookups id = some lookup → lookup.phase = .answered read →
    lookup.since ≤ read.seen

theorem Sound.empty (now : Nat) : Sound (Cache.empty now : Cache K V) := by
  constructor <;> simp [Cache.empty]

theorem Sound.neverStale {s : Cache K V} (sound : Sound s) : NeverStale s := by
  refine ⟨sound.fresh, fun i j a b l m here there key epoch first second => ?_⟩
  obtain ⟨loadA, knownA, keyA, epochA, -⟩ := sound.waiting i a l here first
  obtain ⟨loadB, knownB, keyB, epochB, -⟩ := sound.waiting j b m there second
  exact sound.single l m loadA loadB knownA knownB (keyA.trans (key.trans keyB.symm))
    (epochA.trans (epoch.trans epochB.symm))

end Safety

section Steps
variable {K V : Type} {s : Cache K V} {id : Nat} {load : Load K V}

theorem of_update_some {A B : Type} [DecidableEq A] {f : A → Option B} {a i : A} {new b : B}
    (there : Function.update f a (some new) i = some b) : i = a ∧ b = new ∨ i ≠ a ∧ f i = some b := by
  by_cases own : i = a
  · subst own
    rw [Function.update_self] at there
    exact .inl ⟨rfl, (Option.some.inj there).symm⟩
  · rw [Function.update_of_ne own] at there
    exact .inr ⟨own, there⟩

theorem each_update {A B : Type} [DecidableEq A] {f : A → Option B} {P : A → B → Prop} {a : A} {new : B}
    (kept : ∀ i b, f i = some b → P i b) (holds : P a new) :
    ∀ i b, Function.update f a (some new) i = some b → P i b := by
  intro i b there
  rcases of_update_some there with ⟨rfl, rfl⟩ | ⟨-, before⟩
  · exact holds
  · exact kept i b before

theorem of_update_none {A B : Type} [DecidableEq A] {f : A → Option B} {a i : A} {b : B}
    (there : Function.update f a none i = some b) : i ≠ a ∧ f i = some b := by
  by_cases own : i = a
  · subst own
    rw [Function.update_self] at there
    cases there
  · rw [Function.update_of_ne own] at there
    exact ⟨own, there⟩

theorem toldBy_same (l : Nat) (outcome : Option (Read V)) (lookup : Lookup K V) :
    (lookup.toldBy l outcome).key = lookup.key ∧ (lookup.toldBy l outcome).since = lookup.since ∧
      (lookup.toldBy l outcome).epoch = lookup.epoch := by
  unfold Lookup.toldBy
  split
  · split <;> exact ⟨rfl, rfl, rfl⟩
  · exact ⟨rfl, rfl, rfl⟩

theorem toldBy_waiting {l m : Nat} {outcome : Option (Read V)} {lookup : Lookup K V}
    (after : (lookup.toldBy l outcome).phase = .waiting m) : lookup.phase = .waiting m ∧ m ≠ l := by
  unfold Lookup.toldBy at after
  split at after
  · next other phase =>
    split at after
    · cases outcome <;> cases after
    · next apart =>
      rw [phase] at after
      cases after
      exact ⟨phase, apart⟩
  · next none_waits =>
    exact absurd after (none_waits m)

theorem toldBy_answered {l : Nat} {outcome : Option (Read V)} {read : Read V} {lookup : Lookup K V}
    (after : (lookup.toldBy l outcome).phase = .answered read) :
    lookup.phase = .answered read ∨ lookup.phase = .waiting l ∧ outcome = some read := by
  unfold Lookup.toldBy at after
  split at after
  · next other phase =>
    split at after
    · next same =>
      subst same
      cases outcome with
      | none => cases after
      | some given =>
        cases after
        exact .inr ⟨phase, rfl⟩
    · rw [phase] at after
      cases after
  · exact .inl after

theorem begin_lookups {key : K} {phase : LookupPhase V} : (s.begin id key phase).lookups =
    Function.update s.lookups id (some ⟨key, s.returned, s.epoch, phase⟩) := rfl

section
variable (sound : Sound s)
include sound

theorem Sound.begin {key : K} {phase : LookupPhase V}
    (waits : ∀ l, phase = .waiting l → ∃ load, s.loads l = some load ∧ load.key = key ∧
      load.epoch = s.epoch ∧ ∀ read, load.phase.read = some read → s.returned ≤ read.seen)
    (gets : ∀ read, phase = .answered read → s.returned ≤ read.seen) :
    Sound (s.begin id key phase) := by
  constructor
  case returned => exact sound.returned
  case cleared => exact sound.cleared
  case kept => exact sound.kept
  case joined => exact sound.joined
  case running => exact sound.running
  case epoch => exact sound.epoch
  case listed => exact sound.listed
  case single => exact sound.single
  case started =>
    intro i load there
    by_cases own : i = id
    · rw [begin_lookups, own, Function.update_self]
      rfl
    · rw [begin_lookups, Function.update_of_ne own]
      exact sound.started i load there
  case since => exact each_update sound.since (Nat.le_refl _)
  case waiting =>
    intro i lookup l there phase
    rcases of_update_some there with ⟨-, rfl⟩ | ⟨-, before⟩
    · exact waits l phase
    · exact sound.waiting i lookup l before phase
  case fresh =>
    intro i lookup read there phase
    rcases of_update_some there with ⟨-, rfl⟩ | ⟨-, before⟩
    · exact gets read phase
    · exact sound.fresh i lookup read before phase

theorem Sound.setPhase {phase : LoadPhase V} (known : s.loads id = some load)
    (reads : ∀ read, phase.read = some read → load.phase.read = some read ∨ read.seen = s.writes) :
    Sound (s.setPhase id load phase) := by
  have cases_of {l : Nat} {now : Load K V} (there : (s.setPhase id load phase).loads l = some now) :
      ∃ old, s.loads l = some old ∧ old.key = now.key ∧ old.epoch = now.epoch ∧
        ∀ read, now.phase.read = some read → old.phase.read = some read ∨ read.seen = s.writes := by
    rcases of_update_some there with ⟨rfl, rfl⟩ | ⟨-, before⟩
    · exact ⟨load, known, rfl, rfl, reads⟩
    · exact ⟨now, before, rfl, rfl, fun read same => .inl same⟩
  have image {l : Nat} {old : Load K V} (there : s.loads l = some old) :
      ∃ now, (s.setPhase id load phase).loads l = some now := by
    by_cases own : l = id
    · subst own
      exact ⟨_, Function.update_self ..⟩
    · exact ⟨old, (Function.update_of_ne own ..).trans there⟩
  have follows {l : Nat} {old now : Load K V} (there : s.loads l = some old)
      (after : (s.setPhase id load phase).loads l = some now) : now.key = old.key ∧
        now.epoch = old.epoch ∧
        ∀ read, now.phase.read = some read → old.phase.read = some read ∨ read.seen = s.writes := by
    obtain ⟨before, same, key, epoch, phase⟩ := cases_of after
    cases same.symm.trans there
    exact ⟨key.symm, epoch.symm, phase⟩
  constructor
  case returned => exact sound.returned
  case cleared => exact sound.cleared
  case kept => exact sound.kept
  case since => exact sound.since
  case fresh => exact sound.fresh
  case joined =>
    intro key l now read there after same
    obtain ⟨old, before, -, -, read_of⟩ := cases_of after
    rcases read_of read same with kept | recent
    · exact sound.joined key l old read there before kept
    · rw [recent]
      exact sound.cleared
  case running =>
    intro key l there
    obtain ⟨old, before, ofKey, ofEpoch⟩ := sound.running key l there
    obtain ⟨now, after⟩ := image before
    obtain ⟨key, epoch, -⟩ := follows before after
    exact ⟨now, after, key.trans ofKey, epoch.trans ofEpoch⟩
  case epoch =>
    intro l now after
    obtain ⟨old, before, -, epoch, -⟩ := cases_of after
    exact epoch ▸ sound.epoch l old before
  case listed =>
    intro l now after current
    obtain ⟨old, before, key, epoch, -⟩ := cases_of after
    exact key ▸ sound.listed l old before (epoch.trans current)
  case single =>
    intro i j a b here there keys epochs
    obtain ⟨first, known_a, key_a, epoch_a, -⟩ := cases_of here
    obtain ⟨second, known_b, key_b, epoch_b, -⟩ := cases_of there
    exact sound.single i j first second known_a known_b (key_a.trans (keys.trans key_b.symm))
      (epoch_a.trans (epochs.trans epoch_b.symm))
  case started =>
    intro l now after
    obtain ⟨old, before, -⟩ := cases_of after
    exact sound.started l old before
  case waiting =>
    intro i lookup l there phase
    obtain ⟨old, before, ofKey, ofEpoch, reads⟩ := sound.waiting i lookup l there phase
    obtain ⟨now, after⟩ := image before
    obtain ⟨key, epoch, read_of⟩ := follows before after
    refine ⟨now, after, key.trans ofKey, epoch.trans ofEpoch, fun read same => ?_⟩
    rcases read_of read same with kept | recent
    · exact reads read kept
    · rw [recent]
      exact Nat.le_trans (sound.since i lookup there) (Nat.le_trans sound.returned sound.cleared)

theorem Sound.query (read : K → V) (id : Nat) : Sound (s.query read id) := by
  unfold Cache.query
  split
  · exact sound
  · next load known =>
    split
    · refine sound.setPhase known (fun found same => .inr ?_)
      cases same
      rfl
    · exact sound

theorem Sound.fail (id : Nat) : Sound (s.fail id) := by
  unfold Cache.fail
  split
  · exact sound
  · next load known =>
    split
    · exact sound
    · exact sound.setPhase known (fun found same => nomatch same)

theorem Sound.write : Sound s.write :=
  { sound with cleared := Nat.le_succ_of_le sound.cleared }

theorem Sound.wait (time : Nat) : Sound (s.wait time) := { sound with }

theorem Sound.clear {index : Nat} (done : index ≤ s.writes) :
    Sound (s.clear index) := by
  have past {l : Nat} {load : Load K V} (there : s.loads l = some load) : load.epoch ≠ s.epoch + 1 :=
    Nat.ne_of_lt (Nat.lt_succ_of_le (sound.epoch l load there))
  exact
    { sound with
      returned := Nat.le_trans sound.returned (Nat.le_max_left ..)
      cleared := Nat.max_le.mpr ⟨sound.cleared, done⟩
      kept := fun key kept there => nomatch there
      joined := fun key l load read there => nomatch there
      running := fun key l there => nomatch there
      epoch := fun l load there => Nat.le_succ_of_le (sound.epoch l load there)
      listed := fun l load there current => absurd current (past there) }

theorem Sound.answer {index : Nat} (done : index ≤ s.cleared) :
    Sound (s.answer index) :=
  { sound with
    returned := Nat.max_le.mpr ⟨sound.returned, done⟩
    since := fun i lookup there => Nat.le_trans (sound.since i lookup there) (Nat.le_max_left ..) }

end

def SameCounts (s s' : Cache K V) : Prop := s'.writes = s.writes ∧ s'.cleared = s.cleared

theorem query_counts (read : K → V) : SameCounts s (s.query read id) := by
  unfold Cache.query
  split
  · exact ⟨rfl, rfl⟩
  · split <;> exact ⟨rfl, rfl⟩

theorem fail_counts : SameCounts s (s.fail id) := by
  unfold Cache.fail
  split
  · exact ⟨rfl, rfl⟩
  · split <;> exact ⟨rfl, rfl⟩

variable [DecidableEq K]

theorem Sound.start {key : K} (sound : Sound s) (unused : s.lookups id = none)
    (free : s.registered key = none) :
    Sound { s.begin id key (.waiting id) with
      registered := Function.update s.registered key (some id)
      loads := Function.update s.loads id (some ⟨key, s.epoch, .querying⟩) } := by
  have absent : s.loads id = none := by
    rw [Option.eq_none_iff_forall_ne_some]
    intro load there
    have started := sound.started id load there
    rw [unused] at started
    cases started
  have other {l : Nat} {load : Load K V} (there : s.loads l = some load) : l ≠ id := by
    rintro rfl
    rw [absent] at there
    cases there
  have alone {l : Nat} {load : Load K V} (there : s.loads l = some load) (same : load.key = key) :
      load.epoch ≠ s.epoch := by
    intro epoch
    have listed := sound.listed l load there epoch
    rw [same, free] at listed
    cases listed
  constructor
  case returned => exact sound.returned
  case cleared => exact sound.cleared
  case kept => exact sound.kept
  case epoch => exact each_update sound.epoch (Nat.le_refl _)
  case joined =>
    intro k l load read there known phase
    rcases of_update_some known with ⟨-, rfl⟩ | ⟨apart, before⟩
    · cases phase
    · rcases of_update_some there with ⟨-, same⟩ | ⟨-, listed⟩
      · exact absurd same apart
      · exact sound.joined k l load read listed before phase
  case running =>
    intro k l there
    rcases of_update_some there with ⟨rfl, rfl⟩ | ⟨-, listed⟩
    · exact ⟨_, Function.update_self .., rfl, rfl⟩
    · obtain ⟨load, known, same⟩ := sound.running k l listed
      exact ⟨load, (Function.update_of_ne (other known) ..).trans known, same⟩
  case listed =>
    intro l load there epoch
    rcases of_update_some there with ⟨rfl, rfl⟩ | ⟨-, before⟩
    · exact Function.update_self ..
    · have elsewhere : load.key ≠ key := fun same => alone before same epoch
      exact (Function.update_of_ne elsewhere ..).trans (sound.listed l load before epoch)
  case single =>
    intro i j a b here there keys epochs
    rcases of_update_some here with ⟨rfl, rfl⟩ | ⟨-, first⟩
    · rcases of_update_some there with ⟨rfl, -⟩ | ⟨-, second⟩
      · rfl
      · exact absurd epochs.symm (alone second keys.symm)
    · rcases of_update_some there with ⟨rfl, rfl⟩ | ⟨-, second⟩
      · exact absurd epochs (alone first keys)
      · exact sound.single i j a b first second keys epochs
  case started =>
    intro l load there
    dsimp only [begin_lookups]
    rcases of_update_some there with ⟨rfl, -⟩ | ⟨own, before⟩
    · rw [Function.update_self]
      rfl
    · rw [Function.update_of_ne own]
      exact sound.started l load before
  case since => exact each_update sound.since (Nat.le_refl _)
  case waiting =>
    intro i lookup l there phase
    rcases of_update_some there with ⟨-, rfl⟩ | ⟨-, before⟩
    · cases phase
      exact ⟨_, Function.update_self .., rfl, rfl, fun read none_read => nomatch none_read⟩
    · obtain ⟨load, known, same⟩ := sound.waiting i lookup l before phase
      exact ⟨load, (Function.update_of_ne (other known) ..).trans known, same⟩
  case fresh =>
    intro i lookup read there phase
    rcases of_update_some there with ⟨-, rfl⟩ | ⟨-, before⟩
    · cases phase
    · exact sound.fresh i lookup read before phase

theorem Sound.lookup (sound : Sound s) (id : Nat) (key : K) : Sound (s.lookup id key) := by
  have upTo {n : Nat} (recent : s.cleared ≤ n) : s.returned ≤ n := Nat.le_trans sound.returned recent
  unfold Cache.lookup
  split
  · exact sound
  · next unused =>
    split
    · next kept here =>
      have found : s.kept key = some kept := (Option.filter_eq_some_iff.mp here).1
      refine sound.begin (fun l wrong => nomatch wrong) (fun read same => ?_)
      cases same
      exact upTo (sound.kept key kept found)
    · split
      · next l there =>
        refine sound.begin (fun m same => ?_) (fun read wrong => nomatch wrong)
        cases same
        obtain ⟨load, known, same, epoch⟩ := sound.running key l there
        exact ⟨load, known, same, epoch, fun read phase =>
          upTo (sound.joined key l load read there known phase)⟩
      · next free => exact sound.start (by simpa using unused) free

/-- A load that keeps its value has read it after the writes that were cleared. -/
def Cache.KeepsNew (s : Cache K V) (id : Nat) : Prop :=
  ∀ load read, s.loads id = some load → load.phase = .fetched read → s.cleared ≤ read.seen

/-- A load that ends is still the registered one, where there is one. -/
def Cache.EndsOwn (s : Cache K V) (id : Nat) : Prop :=
  ∀ load, s.loads id = some load → s.registered load.key = none ∨ s.registered load.key = some id

theorem Sound.keep (sound : Sound s) (ttl : Nat) (keeps : s.KeepsNew id) : Sound (s.keep ttl id) := by
  unfold Cache.keep
  split
  · exact sound
  · next load known =>
    split
    · next read phase =>
      have closed : Sound (s.setPhase id load (.closing (some read))) :=
        sound.setPhase known (fun found same => .inl (by rw [phase]; exact same))
      refine { closed with kept := fun key kept there => ?_ }
      rcases of_update_some there with ⟨-, rfl⟩ | ⟨-, before⟩
      · exact keeps load read known phase
      · exact sound.kept key kept before
    · exact sound

theorem Sound.finish (sound : Sound s) (own : s.EndsOwn id) : Sound (s.finish id) := by
  unfold Cache.finish
  split
  · exact sound
  · next load known =>
    split
    · next outcome phase =>
      have told {i : Nat} {lookup : Lookup K V}
          (there : (s.lookups i).map (Lookup.toldBy id outcome) = some lookup) :
          ∃ old, s.lookups i = some old ∧ lookup = old.toldBy id outcome := by
        obtain ⟨old, before, rfl⟩ := Option.map_eq_some_iff.mp there
        exact ⟨old, before, rfl⟩
      constructor
      case returned => exact sound.returned
      case cleared => exact sound.cleared
      case kept => exact sound.kept
      case epoch => exact fun l other there => sound.epoch l other (of_update_none there).2
      case joined =>
        intro key l other read there after
        exact sound.joined key l other read (of_update_none there).2 (of_update_none after).2
      case running =>
        intro key l there
        obtain ⟨apart, listed⟩ := of_update_none there
        obtain ⟨other, before, same, epoch⟩ := sound.running key l listed
        have ne : l ≠ id := by
          rintro rfl
          cases known.symm.trans before
          exact apart same.symm
        exact ⟨other, (Function.update_of_ne ne ..).trans before, same, epoch⟩
      case listed =>
        intro l other there current
        obtain ⟨ne, before⟩ := of_update_none there
        have listed := sound.listed l other before current
        have apart : other.key ≠ load.key := by
          intro same
          rw [same] at listed
          rcases own load known with none_there | mine
          · rw [none_there] at listed
            cases listed
          · exact ne (Option.some.inj (listed.symm.trans mine))
        exact (Function.update_of_ne apart ..).trans listed
      case single =>
        intro i j a b here there
        exact sound.single i j a b (of_update_none here).2 (of_update_none there).2
      case started =>
        intro l other there
        have before := sound.started l other (of_update_none there).2
        rw [Option.isSome_map]
        exact before
      case since =>
        intro i lookup there
        obtain ⟨old, before, rfl⟩ := told there
        rw [(toldBy_same id outcome old).2.1]
        exact sound.since i old before
      case waiting =>
        intro i lookup l there phase
        obtain ⟨old, before, rfl⟩ := told there
        obtain ⟨waits, ne⟩ := toldBy_waiting phase
        obtain ⟨other, listed, key, epoch, reads⟩ := sound.waiting i old l before waits
        obtain ⟨sameKey, sameSince, sameEpoch⟩ := toldBy_same id outcome old
        rw [sameKey, sameSince, sameEpoch]
        exact ⟨other, (Function.update_of_ne ne ..).trans listed, key, epoch, reads⟩
      case fresh =>
        intro i lookup read there answered
        obtain ⟨old, before, rfl⟩ := told there
        rw [(toldBy_same id outcome old).2.1]
        rcases toldBy_answered answered with already | ⟨waits, rfl⟩
        · exact sound.fresh i old read before already
        · obtain ⟨other, listed, -, -, reads⟩ := sound.waiting i old id before waits
          cases known.symm.trans listed
          exact reads read (by rw [phase]; rfl)
    · exact sound

theorem lookup_counts (key : K) : SameCounts s (s.lookup id key) := by
  unfold Cache.lookup
  split
  · exact ⟨rfl, rfl⟩
  · split
    · exact ⟨rfl, rfl⟩
    · split <;> exact ⟨rfl, rfl⟩

theorem keep_counts (ttl : Nat) : SameCounts s (s.keep ttl id) := by
  unfold Cache.keep
  split
  · exact ⟨rfl, rfl⟩
  · split <;> exact ⟨rfl, rfl⟩

theorem finish_counts : SameCounts s (s.finish id) := by
  unfold Cache.finish
  split
  · exact ⟨rfl, rfl⟩
  · split <;> exact ⟨rfl, rfl⟩

end Steps
end LeaderProduct.InvalidatedCache
