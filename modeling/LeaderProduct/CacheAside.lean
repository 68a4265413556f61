import LeaderProduct.InvalidatedCache

/-! A cache beside a store, by itself: a lookup that finds no live entry reads the store and keeps
what it has read for some time. -/
namespace LeaderProduct.CacheAside

section Operations

structure Copy (V : Type) where
  value : V
  seen : Nat

/-- A copy in the cache, with the lookup that has kept it. It is late when a sweep for a write that
it has not seen had asked for the keys before. -/
structure Entry (V : Type) extends Copy V where
  storedBy : Nat
  storedAt : Nat
  late : Bool

structure Sweep (K P : Type) where
  index : Nat
  scope : P
  found : K → Bool
  ended : Bool

inductive LookupPhase (V : Type) where
  | querying
  | fetched (copy : Copy V)
  /-- Answered from the store. -/
  | loaded (copy : Copy V)
  /-- Answered from the cache. -/
  | hit (entry : Entry V)
  | failed

/-- A lookup, with the writes and the scopes of the sweeps that had ended at its start. -/
structure Lookup (K P V : Type) where
  key : K
  startedAt : Nat
  past : List (Nat × P)
  phase : LookupPhase V

structure Cache (K P V : Type) where
  now : Nat
  writes : Nat
  entries : K → Option (Entry V)
  sweeps : List (Sweep K P)
  lookups : Nat → Option (Lookup K P V)

variable {K P V : Type}

def Cache.empty (now : Nat) : Cache K P V := ⟨now, 0, fun _ => none, [], fun _ => none⟩

namespace Cache
variable (s : Cache K P V)

def live (ttl : Nat) (key : K) : Option (Entry V) :=
  (s.entries key).filter (fun entry => decide (s.now < entry.storedAt + ttl))

def ended : List (Nat × P) :=
  (s.sweeps.filter (·.ended)).map fun sweep => (sweep.index, sweep.scope)

def setLookup (id : Nat) (lookup : Lookup K P V) : Cache K P V :=
  { s with lookups := Function.update s.lookups id (some lookup) }

def lookup (ttl id : Nat) (key : K) (reached : Bool) : Cache K P V :=
  match s.lookups id with
  | some _ => s
  | none =>
    let phase := match (if reached then s.live ttl key else none) with
      | some entry => LookupPhase.hit entry
      | none => .querying
    s.setLookup id ⟨key, s.now, s.ended, phase⟩

def query (id : Nat) (value : Option V) : Cache K P V :=
  match s.lookups id with
  | none => s
  | some lookup =>
    match lookup.phase with
    | .querying =>
      match value with
      | some value => s.setLookup id { lookup with phase := .fetched ⟨value, s.writes⟩ }
      | none => s.setLookup id { lookup with phase := .failed }
    | _ => s

def wait (time : Nat) : Cache K P V := { s with now := s.now + time }

def write : Cache K P V := { s with writes := s.writes + 1 }

variable (covers : P → K → Bool)

/-- The sweeps that have begun would have to see this copy deleted. -/
def comesLate (key : K) (copy : Copy V) : Bool :=
  s.sweeps.any fun sweep => covers sweep.scope key && decide (copy.seen < sweep.index)

def store [DecidableEq K] (id : Nat) (reached : Bool) : Cache K P V :=
  match s.lookups id with
  | none => s
  | some lookup =>
    match lookup.phase with
    | .fetched copy =>
      let answered := s.setLookup id { lookup with phase := .loaded copy }
      if reached then
        { answered with
          entries := Function.update s.entries lookup.key
            (some ⟨copy, id, s.now, s.comesLate covers lookup.key copy⟩) }
      else answered
    | _ => s

def sweep (index : Nat) (scope : P) : Cache K P V :=
  if index ≤ s.writes then
    { s with sweeps := s.sweeps ++
      [⟨index, scope, fun key => covers scope key && (s.entries key).isSome, false⟩] }
  else s

def delete (n : Nat) : Cache K P V :=
  match s.sweeps[n]? with
  | none => s
  | some sweep =>
    { s with
      entries := fun key => if sweep.found key then none else s.entries key
      sweeps := s.sweeps.set n { sweep with ended := true } }

end Cache
end Operations

section Invariant
variable {K P V : Type}

def LookupPhase.shown : LookupPhase V → Option (Copy V)
  | .loaded copy => some copy
  | .hit entry => some entry.toCopy
  | _ => none

def LookupPhase.read : LookupPhase V → Option (Copy V)
  | .fetched copy | .loaded copy => some copy
  | _ => none

namespace Cache
variable (covers : P → K → Bool) (ttl : Nat)

def LoadedBy (s : Cache K P V) (key : K) (entry : Entry V) : Prop :=
  ∃ lookup, s.lookups entry.storedBy = some lookup ∧ lookup.key = key ∧
    lookup.phase = .loaded entry.toCopy

def Spared (key : K) (copy : Copy V) (sweep : Sweep K P) : Prop :=
  covers sweep.scope key = true →
    sweep.index ≤ copy.seen ∨ sweep.ended = false ∧ sweep.found key = true

structure SoundHit (s : Cache K P V) (lookup : Lookup K P V) (entry : Entry V) : Prop where
  source : s.LoadedBy lookup.key entry
  stored : entry.storedAt ≤ lookup.startedAt
  live : lookup.startedAt < entry.storedAt + ttl
  fresh : entry.late = false → ∀ past ∈ lookup.past, covers past.2 lookup.key = true →
    past.1 ≤ entry.seen

structure Sound (s : Cache K P V) : Prop where
  indexed : ∀ sweep ∈ s.sweeps, sweep.index ≤ s.writes
  source : ∀ key entry, s.entries key = some entry → s.LoadedBy key entry
  stored : ∀ key entry, s.entries key = some entry → entry.storedAt ≤ s.now
  spared : ∀ key entry, s.entries key = some entry → entry.late = false →
    ∀ sweep ∈ s.sweeps, Spared covers key entry.toCopy sweep
  past : ∀ id lookup, s.lookups id = some lookup → ∀ past ∈ lookup.past, past.1 ≤ s.writes
  read : ∀ id lookup, s.lookups id = some lookup → ∀ copy, lookup.phase.read = some copy →
    ∀ past ∈ lookup.past, past.1 ≤ copy.seen
  hit : ∀ id lookup, s.lookups id = some lookup → ∀ entry, lookup.phase = .hit entry →
    SoundHit covers ttl s lookup entry

end Cache
end Invariant

namespace Cache
variable {K P V : Type} {covers : P → K → Bool} {ttl : Nat} {s : Cache K P V}

theorem SoundHit.kept {s' : Cache K P V} {lookup : Lookup K P V} {entry : Entry V}
    (hit : SoundHit covers ttl s lookup entry)
    (source : s.LoadedBy lookup.key entry → s'.LoadedBy lookup.key entry) :
    SoundHit covers ttl s' lookup entry :=
  ⟨source hit.source, hit.stored, hit.live, hit.fresh⟩

theorem sound_empty (now : Nat) : Sound covers ttl (empty now : Cache K P V) := by
  constructor <;> simp [empty]

theorem mem_ended {past : Nat × P} (here : past ∈ s.ended) :
    ∃ sweep ∈ s.sweeps, sweep.ended = true ∧ past = (sweep.index, sweep.scope) := by
  obtain ⟨sweep, known, rfl⟩ := List.mem_map.mp here
  obtain ⟨member, past⟩ := List.mem_filter.mp known
  exact ⟨sweep, member, past, rfl⟩

theorem LoadedBy.setLookup {key : K} {entry : Entry V} (source : s.LoadedBy key entry) {id : Nat}
    (replaces : ∀ old, s.lookups id = some old → ∀ copy, old.phase ≠ .loaded copy)
    (lookup : Lookup K P V) : (s.setLookup id lookup).LoadedBy key entry := by
  obtain ⟨reader, known, keyed, loaded⟩ := source
  have other : entry.storedBy ≠ id := by
    rintro rfl
    exact replaces reader known _ loaded
  refine ⟨reader, ?_, keyed, loaded⟩
  exact (Function.update_of_ne other _ _).trans known

theorem sound_setLookup (sound : Sound covers ttl s) {id : Nat} {lookup : Lookup K P V}
    (replaces : ∀ old, s.lookups id = some old → ∀ copy, old.phase ≠ .loaded copy)
    (past : ∀ past ∈ lookup.past, past.1 ≤ s.writes)
    (read : ∀ copy, lookup.phase.read = some copy → ∀ past ∈ lookup.past, past.1 ≤ copy.seen)
    (hit : ∀ entry, lookup.phase = .hit entry → SoundHit covers ttl s lookup entry) :
    Sound covers ttl (s.setLookup id lookup) := by
  refine ⟨sound.indexed, ?_, sound.stored, sound.spared, ?_, ?_, ?_⟩
  · intro key entry kept
    exact (sound.source key entry kept).setLookup replaces lookup
  · exact InvalidatedCache.each_update sound.past past
  · exact InvalidatedCache.each_update sound.read read
  · have moved {reader : Lookup K P V} {entry : Entry V} (here : SoundHit covers ttl s reader entry) :
        SoundHit covers ttl (s.setLookup id lookup) reader entry :=
      here.kept fun source => source.setLookup replaces lookup
    exact InvalidatedCache.each_update
      (fun i reader known entry told => moved (sound.hit i reader known entry told))
      fun entry told => moved (hit entry told)

theorem sound_lookup (sound : Sound covers ttl s) (id : Nat) (key : K) (reached : Bool) :
    Sound covers ttl (s.lookup ttl id key reached) := by
  unfold Cache.lookup
  cases unused : s.lookups id with
  | some _ => exact sound
  | none =>
    dsimp only
    have replaces : ∀ old, s.lookups id = some old → ∀ copy, old.phase ≠ .loaded copy := by
      intro old known
      rw [unused] at known
      cases known
    have past : ∀ past ∈ s.ended, past.1 ≤ s.writes := by
      intro past here
      obtain ⟨sweep, member, -, rfl⟩ := mem_ended here
      exact sound.indexed sweep member
    split
    · next entry found =>
      refine sound_setLookup sound replaces past nofun ?_
      rintro _ ⟨⟩
      split at found
      · obtain ⟨kept, live⟩ := Option.filter_eq_some_iff.mp found
        refine ⟨sound.source key entry kept, sound.stored key entry kept, by simpa using live, ?_⟩
        intro onTime past here covered
        obtain ⟨sweep, member, past, rfl⟩ := mem_ended here
        rcases sound.spared key entry kept onTime sweep member covered with seen | ⟨running, -⟩
        · exact seen
        · rw [past] at running
          cases running
      · cases found
    · exact sound_setLookup sound replaces past nofun nofun

theorem unloaded {id : Nat} {lookup : Lookup K P V} (known : s.lookups id = some lookup)
    (unloaded : ∀ copy, lookup.phase ≠ .loaded copy) :
    ∀ old, s.lookups id = some old → ∀ copy, old.phase ≠ .loaded copy := by
  rintro _ same
  rw [known] at same
  cases same
  exact unloaded

theorem sound_query (sound : Sound covers ttl s) (id : Nat) (value : Option V) :
    Sound covers ttl (s.query id value) := by
  unfold query
  cases known : s.lookups id with
  | none => exact sound
  | some lookup =>
    dsimp only
    split
    · next querying =>
      have replaces := unloaded known (by rw [querying]; exact nofun)
      have past := sound.past id lookup known
      cases value with
      | none => exact sound_setLookup sound replaces past nofun nofun
      | some value =>
        refine sound_setLookup sound replaces past ?_ nofun
        rintro _ ⟨⟩
        exact past
    · exact sound

/-- A copy that no sweep so far has anything against, or that is marked as late. -/
theorem spared_of_onTime {key : K} {copy : Copy V} (onTime : s.comesLate covers key copy = false)
    (sweep : Sweep K P) (known : sweep ∈ s.sweeps) : Spared covers key copy sweep := by
  intro covered
  have here := List.any_eq_false.mp onTime sweep known
  rw [covered, Bool.true_and, decide_eq_true_eq, Nat.not_lt] at here
  exact .inl here

section
variable (sound : Sound covers ttl s)
include sound

theorem sound_store [DecidableEq K] (id : Nat) (reached : Bool) :
    Sound covers ttl (s.store covers id reached) := by
  unfold store
  cases known : s.lookups id with
  | none => exact sound
  | some lookup =>
    dsimp only
    split
    · next copy fetched =>
      have replaces := unloaded known (by rw [fetched]; exact nofun)
      have answered : Sound covers ttl (s.setLookup id { lookup with phase := .loaded copy }) := by
        refine sound_setLookup sound replaces (sound.past id lookup known) ?_ nofun
        rintro _ ⟨⟩
        exact sound.read id lookup known copy (by rw [fetched]; rfl)
      split
      · have reader : (s.setLookup id { lookup with phase := .loaded copy }).lookups id =
            some { lookup with phase := .loaded copy } := Function.update_self _ _ _
        refine ⟨answered.indexed, ?_, ?_, ?_, answered.past, answered.read, ?_⟩
        · exact InvalidatedCache.each_update answered.source ⟨_, reader, rfl, rfl⟩
        · exact InvalidatedCache.each_update answered.stored (Nat.le_refl _)
        · exact InvalidatedCache.each_update answered.spared spared_of_onTime
        · intro i reader there entry told
          exact (answered.hit i reader there entry told).kept fun source => source
      · exact answered
    · exact sound

theorem sound_write : Sound covers ttl s.write where
  indexed sweep known := Nat.le_succ_of_le (sound.indexed sweep known)
  source := sound.source
  stored := sound.stored
  spared := sound.spared
  past id lookup known past here := Nat.le_succ_of_le (sound.past id lookup known past here)
  read := sound.read
  hit i lookup known entry told := (sound.hit i lookup known entry told).kept id

theorem sound_wait (time : Nat) : Sound covers ttl (s.wait time) where
  indexed := sound.indexed
  source := sound.source
  stored key entry kept := Nat.le_add_right_of_le (sound.stored key entry kept)
  spared := sound.spared
  past := sound.past
  read := sound.read
  hit i lookup known entry told := (sound.hit i lookup known entry told).kept id

theorem sound_sweep (index : Nat) (scope : P) :
    Sound covers ttl (s.sweep covers index scope) := by
  unfold Cache.sweep
  split
  · next written =>
    refine ⟨?_, sound.source, sound.stored, ?_, sound.past, sound.read, ?_⟩
    · intro sweep here
      rcases List.mem_append.mp here with known | new
      · exact sound.indexed sweep known
      · cases List.mem_singleton.mp new
        exact written
    · intro key entry kept onTime sweep here
      rcases List.mem_append.mp here with known | new
      · exact sound.spared key entry kept onTime sweep known
      · cases List.mem_singleton.mp new
        intro covered
        have there : s.entries key = some entry := kept
        have covers_key : covers scope key = true := covered
        right
        simp [there, covers_key]
    · intro i lookup known entry told
      exact (sound.hit i lookup known entry told).kept id
  · exact sound

theorem sound_delete (n : Nat) : Sound covers ttl (s.delete n) := by
  unfold delete
  cases running : s.sweeps[n]? with
  | none => exact sound
  | some sweep =>
    have member := List.mem_of_getElem? running
    have kept_before {key : K} {entry : Entry V}
        (kept : (if sweep.found key then none else s.entries key) = some entry) :
        sweep.found key = false ∧ s.entries key = some entry := by
      cases told : sweep.found key with
      | true =>
        rw [told, if_pos rfl] at kept
        cases kept
      | false =>
        rw [told] at kept
        exact ⟨rfl, kept⟩
    refine ⟨?_, ?_, ?_, ?_, sound.past, sound.read, ?_⟩
    · intro other here
      rcases List.mem_or_eq_of_mem_set here with known | rfl
      · exact sound.indexed other known
      · exact sound.indexed sweep member
    · intro key entry kept
      exact sound.source key entry (kept_before kept).2
    · intro key entry kept
      exact sound.stored key entry (kept_before kept).2
    · intro key entry kept onTime other here
      obtain ⟨untold, before⟩ := kept_before kept
      rcases List.mem_or_eq_of_mem_set here with known | rfl
      · exact sound.spared key entry before onTime other known
      · intro covered
        rcases sound.spared key entry before onTime sweep member covered with seen | ⟨-, found⟩
        · exact .inl seen
        · rw [untold] at found
          cases found
    · intro i lookup known entry told
      exact (sound.hit i lookup known entry told).kept id

/-- What an answer has seen: every write whose sweep had ended when the lookup came, unless the
answer is an entry that came late, for the time that it lives. -/
theorem Sound.answered {id : Nat} {lookup : Lookup K P V}
    (known : s.lookups id = some lookup) {copy : Copy V} (shown : lookup.phase.shown = some copy)
    {past : Nat × P} (here : past ∈ lookup.past) (covered : covers past.2 lookup.key = true) :
    past.1 ≤ copy.seen ∨ ∃ entry, lookup.phase = .hit entry ∧ entry.late = true ∧
      entry.storedAt ≤ lookup.startedAt ∧ lookup.startedAt < entry.storedAt + ttl := by
  cases phase : lookup.phase with
  | loaded own =>
    rw [phase] at shown
    cases shown
    exact .inl (sound.read id lookup known copy (by rw [phase]; rfl) past here)
  | hit entry =>
    have sound_hit := sound.hit id lookup known entry phase
    rw [phase] at shown
    cases shown
    cases when_stored : entry.late with
    | false => exact .inl (sound_hit.fresh when_stored past here covered)
    | true => exact .inr ⟨entry, rfl, when_stored, sound_hit.stored, sound_hit.live⟩
  | querying | fetched | failed =>
    rw [phase] at shown
    cases shown

end

section Frames

theorem mem_ended_iff {past : Nat × P} : past ∈ s.ended ↔
    ∃ (n : Nat) (sweep : Sweep K P), s.sweeps[n]? = some sweep ∧ sweep.ended = true ∧
      past = (sweep.index, sweep.scope) := by
  constructor
  · intro here
    obtain ⟨sweep, member, past, same⟩ := mem_ended here
    obtain ⟨n, at_n⟩ := List.mem_iff_getElem?.mp member
    exact ⟨n, sweep, at_n, past, same⟩
  · rintro ⟨n, sweep, at_n, past, rfl⟩
    exact List.mem_map.mpr ⟨sweep, List.mem_filter.mpr ⟨List.mem_of_getElem? at_n, past⟩, rfl⟩

structure SweepsKept (s s' : Cache K P V) : Prop where
  sweeps : ∀ (n : Nat) (sweep : Sweep K P), s.sweeps[n]? = some sweep →
    ∃ later : Sweep K P, s'.sweeps[n]? = some later ∧ later.index = sweep.index ∧
      later.scope = sweep.scope ∧ (sweep.ended = true → later.ended = true)

theorem SweepsKept.of_eq {s' : Cache K P V} (sweeps : s'.sweeps = s.sweeps) : SweepsKept s s' :=
  ⟨fun n sweep here => ⟨sweep, by rw [sweeps, here], rfl, rfl, id⟩⟩

theorem SweepsKept.ended {s' : Cache K P V} (kept : SweepsKept s s') {past : Nat × P}
    (here : past ∈ s.ended) : past ∈ s'.ended := by
  obtain ⟨n, sweep, at_n, past, rfl⟩ := mem_ended_iff.mp here
  obtain ⟨later, there, index, scope, stays⟩ := kept.sweeps n sweep at_n
  exact mem_ended_iff.mpr ⟨n, later, there, stays past, by rw [index, scope]⟩

theorem sweepsKept_lookup (id : Nat) (key : K) (reached : Bool) :
    SweepsKept s (s.lookup ttl id key reached) := by
  unfold Cache.lookup
  split
  · exact .of_eq rfl
  · exact .of_eq rfl

theorem sweepsKept_query (id : Nat) (value : Option V) : SweepsKept s (s.query id value) := by
  unfold query
  split
  · exact .of_eq rfl
  · split
    · split
      · exact .of_eq rfl
      · exact .of_eq rfl
    · exact .of_eq rfl

theorem sweepsKept_store [DecidableEq K] (id : Nat) (reached : Bool) :
    SweepsKept s (s.store covers id reached) := by
  unfold store
  split
  · exact .of_eq rfl
  · split
    · dsimp only
      split
      · exact .of_eq rfl
      · exact .of_eq rfl
    · exact .of_eq rfl

theorem sweepsKept_sweep (index : Nat) (scope : P) :
    SweepsKept s (s.sweep covers index scope) := by
  unfold Cache.sweep
  split
  · refine ⟨fun n sweep here => ⟨sweep, ?_, rfl, rfl, id⟩⟩
    exact List.getElem?_append_left (List.getElem?_eq_some_iff.mp here).1 |>.trans here
  · exact .of_eq rfl

theorem sweep_last {index : Nat} (written : index ≤ s.writes) (scope : P) :
    ∃ sweep : Sweep K P, (s.sweep covers index scope).sweeps[s.sweeps.length]? = some sweep ∧
      sweep.index = index ∧ sweep.scope = scope := by
  refine ⟨⟨index, scope, fun key => covers scope key && (s.entries key).isSome, false⟩, ?_, rfl, rfl⟩
  rw [Cache.sweep, if_pos written]
  exact List.getElem?_concat_length

theorem sweepsKept_delete (n : Nat) : SweepsKept s (s.delete n) := by
  unfold delete
  cases running : s.sweeps[n]? with
  | none => exact .of_eq rfl
  | some sweep =>
    refine ⟨fun m other here => ?_⟩
    by_cases same : m = n
    · subst same
      rw [running] at here
      cases here
      have inside := (List.getElem?_eq_some_iff.mp running).1
      exact ⟨_, List.getElem?_set_self inside, rfl, rfl, fun _ => rfl⟩
    · exact ⟨other, (List.getElem?_set_ne (Ne.symm same)).trans here, rfl, rfl, id⟩

theorem ended_delete {n : Nat} {sweep : Sweep K P} (running : s.sweeps[n]? = some sweep) :
    (sweep.index, sweep.scope) ∈ (s.delete n).ended := by
  have inside := (List.getElem?_eq_some_iff.mp running).1
  refine mem_ended_iff.mpr ⟨n, { sweep with ended := true }, ?_, rfl, rfl⟩
  rw [delete, running]
  exact List.getElem?_set_self inside

variable {Q : Nat → Lookup K P V → Prop} {id : Nat}

section
variable (all : ∀ i reader, s.lookups i = some reader → Q i reader)
include all

theorem each_lookup {key : K} {reached : Bool} (next : ∀ phase : LookupPhase V, phase.read = none →
      (∀ entry, phase = .hit entry → reached = true ∧ s.live ttl key = some entry) →
      Q id ⟨key, s.now, s.ended, phase⟩) :
    ∀ i reader, (s.lookup ttl id key reached).lookups i = some reader → Q i reader := by
  unfold Cache.lookup
  cases s.lookups id with
  | some _ => exact all
  | none =>
    refine InvalidatedCache.each_update all (next _ ?_ ?_)
    · split <;> rfl
    · intro entry same
      split at same
      · next found =>
        cases same
        split at found
        · next in_reach => exact ⟨in_reach, found⟩
        · cases found
      · cases same

theorem each_query {value : Option V}
    (told : ∀ reader found, s.lookups id = some reader → value = some found →
      Q id { reader with phase := .fetched ⟨found, s.writes⟩ })
    (lost : ∀ reader, s.lookups id = some reader → Q id { reader with phase := .failed }) :
    ∀ i reader, (s.query id value).lookups i = some reader → Q i reader := by
  unfold query
  cases known : s.lookups id with
  | none => exact all
  | some reader =>
    dsimp only
    split
    · cases value with
      | none => exact InvalidatedCache.each_update all (lost reader known)
      | some found => exact InvalidatedCache.each_update all (told reader found known rfl)
    · exact all

theorem each_store [DecidableEq K] {reached : Bool}
    (next : ∀ reader copy, s.lookups id = some reader → reader.phase = .fetched copy →
      Q id { reader with phase := .loaded copy }) :
    ∀ i reader, (s.store covers id reached).lookups i = some reader → Q i reader := by
  unfold store
  cases known : s.lookups id with
  | none => exact all
  | some reader =>
    dsimp only
    split
    · next copy fetched =>
      have changed := InvalidatedCache.each_update all (next reader copy known fetched)
      split
      · exact changed
      · exact changed
    · exact all

end

@[simp] theorem writes_lookup (key : K) (reached : Bool) :
    (s.lookup ttl id key reached).writes = s.writes := by
  unfold Cache.lookup
  split <;> rfl

@[simp] theorem writes_query (value : Option V) : (s.query id value).writes = s.writes := by
  unfold query
  split
  · rfl
  · split
    · split <;> rfl
    · rfl

@[simp] theorem writes_store [DecidableEq K] (reached : Bool) :
    (s.store covers id reached).writes = s.writes := by
  unfold store
  split
  · rfl
  · split
    · dsimp only
      split <;> rfl
    · rfl

@[simp] theorem writes_sweep (index : Nat) (scope : P) :
    (s.sweep covers index scope).writes = s.writes := by
  unfold Cache.sweep
  split <;> rfl

@[simp] theorem writes_delete (n : Nat) : (s.delete n).writes = s.writes := by
  unfold delete
  split <;> rfl

theorem lookups_delete (n : Nat) : (s.delete n).lookups = s.lookups := by
  unfold delete
  split <;> rfl

theorem lookups_sweep (index : Nat) (scope : P) :
    (s.sweep covers index scope).lookups = s.lookups := by
  unfold Cache.sweep
  split <;> rfl

end Frames

end Cache

end LeaderProduct.CacheAside
