import LeaderProduct.OrdersCache
import LeaderProduct.Transition

/-! What an open circuit still serves. Beside the caches it is noted what the memory of a process
was last given for a key, until newer keys push it out, and whether a lookup has come past its fresh
time, which deletes it though it is not stale yet. -/
namespace LeaderProduct
open Transition

section Touches
variable {V E : Type} (config : CacheConfig V) (s : OrdersCache V E)

inductive MemoryTouch (V : Type) where
  | look (process : Nat) (key : OrdersCacheKey) (mode : LookupMode)
  | remember (process : Nat) (key : OrdersCacheKey) (value : V) (ttl : Nat) (copied : Bool)

def OrdersCache.callTouch (id process : Nat) (read : CacheRead V E) : Option (MemoryTouch V) :=
  if (s.calls id).isSome then none
  else if read.bypasses config process then none
  else if read.forceRefresh then none
  else some (.look process read.key .fresh)

def OrdersCache.copyTouch (call : OrdersCall V E) (answered : Bool) : Option (MemoryTouch V) :=
  (s.foundInRedis config call answered).map (fun found =>
    .remember call.process call.read.key found.1 found.2 true)

def OrdersLoad.touch (load : OrdersLoad V E) (value : V) : Option (MemoryTouch V) :=
  match resolveTtl load.read.ttlSeconds value with
  | .ok (ttl + 1) => some (.remember load.process load.read.key value (ttl + 1) false)
  | .ok 0 | .error _ => none

def OrdersCache.continueTouch (action : CacheAction V E) (call : OrdersCall V E) :
    Option (MemoryTouch V) :=
  match action, call.phase with
  | .redisRead _ answered, .redisRead => s.copyTouch config call answered
  | .proceed _, .circuitKnown true => some (.look call.process call.read.key .stale)
  | _, _ => none

def OrdersLoad.settleTouch (load : OrdersLoad V E) : Except E V → Option (MemoryTouch V)
  | .ok value => match load.phase with
    | .running => load.touch value
    | .closing _ => none
  | .error _ => none

def OrdersCache.touch : CacheAction V E → Option (MemoryTouch V)
  | .call id process read => s.callTouch config id process read
  | .redisRead id answered => (s.calls id).bind (s.continueTouch config (.redisRead id answered))
  | .proceed id => (s.calls id).bind (s.continueTouch config (.proceed id))
  | .load id outcome => (s.loads id).bind (·.settleTouch outcome)
  | _ => none

abbrev Memory (V : Type) := Nat → MemoryReads V

def OrdersCache.memory (process : Nat) : MemoryReads V := (s.processes process).memoryReads

def MemoryTouch.apply (isNull : V → Bool) (now : Instant) (memory : Memory V) :
    Option (MemoryTouch V) → Memory V
  | none => memory
  | some (.look process key mode) =>
    Function.update memory process (getMemoryValue isNull (memory process) key mode now).2
  | some (.remember process key value ttl _) =>
    Function.update memory process (rememberMemoryValue (memory process) key value ttl now)

variable {config s}

theorem memory_setReads (process : Nat) (reads : MemoryReads V) :
    (s.setReads process reads).memory = Function.update s.memory process reads := by
  funext other
  simp only [OrdersCache.memory, OrdersCache.setReads, OrdersCache.setProcess, Function.update_apply]
  split <;> rfl

theorem memory_setProcess {process : Nat} {p : ReaderProcess V}
    (same : p.memoryReads = (s.processes process).memoryReads) :
    (s.setProcess process p).memory = s.memory := by
  funext other
  simp only [OrdersCache.memory, OrdersCache.setProcess, Function.update_apply]
  split
  · next here => rw [here, same]
  · rfl

theorem memory_askCircuit (id : Nat) (call : OrdersCall V E) :
    (s.askCircuit id call).memory = s.memory := by
  unfold OrdersCache.askCircuit
  dsimp only
  split
  · rfl
  · split
    · rfl
    · exact memory_setProcess rfl

theorem callStep_memory (id process : Nat) (read : CacheRead V E) :
    (s.callStep config id process read).memory =
      MemoryTouch.apply config.isNull s.now s.memory (s.callTouch config id process read) := by
  unfold OrdersCache.callStep OrdersCache.callTouch
  dsimp only
  split
  · rfl
  · split
    · rfl
    · split
      · exact memory_askCircuit ..
      · exact memory_setReads ..

theorem continueCall_memory (id : Nat) (action : CacheAction V E) (call : OrdersCall V E) :
    (s.continueCall config id action call).memory =
      MemoryTouch.apply config.isNull s.now s.memory (s.continueTouch config action call) := by
  unfold OrdersCache.continueCall OrdersCache.continueTouch
  cases action with
  | redisRead _ answered =>
    cases call.phase with
    | redisRead =>
      simp only [OrdersCache.redisReadStep, OrdersCache.copyTouch]
      cases s.foundInRedis config call answered with
      | none => exact memory_askCircuit ..
      | some found => exact memory_setReads ..
    | _ => rfl
  | proceed =>
    cases call.phase with
    | circuitKnown isOpen =>
      cases isOpen with
      | true => exact memory_setReads ..
      | false =>
        simp only [OrdersCache.loadStep]
        split
        · rfl
        · exact memory_setProcess rfl
    | _ => rfl
  | _ => cases call.phase <;> rfl

theorem rejectStep_memory (id : Nat) (load : OrdersLoad V E) (error : E) :
    (s.rejectStep config id load error).memory = s.memory := by
  unfold OrdersCache.rejectStep
  dsimp only
  split
  · exact memory_setProcess rfl
  · rfl

theorem settleStep_memory (id : Nat) (load : OrdersLoad V E) (running : load.phase = .running)
    (outcome : Except E V) :
    (s.settleStep config id load outcome).memory =
      MemoryTouch.apply config.isNull s.now s.memory (load.settleTouch outcome) := by
  unfold OrdersCache.settleStep OrdersLoad.settleTouch
  cases outcome with
  | error error => exact rejectStep_memory ..
  | ok value =>
    rw [running]
    simp only [OrdersLoad.touch]
    cases resolveTtl load.read.ttlSeconds value with
    | error error => exact rejectStep_memory ..
    | ok ttl =>
      cases ttl with
      | zero => rfl
      | succ ttl => exact memory_setReads ..

theorem cacheStep_memory (action : CacheAction V E) :
    (cacheStep config s action).memory =
      MemoryTouch.apply config.isNull s.now s.memory (s.touch config action) := by
  have onCall (id : Nat) (action : CacheAction V E) :
      ((s.calls id).elim s (s.continueCall config id action)).memory =
        MemoryTouch.apply config.isNull s.now s.memory
          ((s.calls id).bind (s.continueTouch config action)) := by
    cases s.calls id with
    | none => rfl
    | some call => exact continueCall_memory id action call
  cases action with
  | call id process read => exact callStep_memory id process read
  | redisRead id answered => exact onCall id _
  | proceed id => exact onCall id _
  | direct id outcome =>
    refine (onCall id _).trans (congrArg _ ?_)
    cases s.calls id <;> rfl
  | circuitRead id answered =>
    refine (onCall id _).trans (congrArg _ ?_)
    cases s.calls id <;> rfl
  | load id outcome =>
    simp only [cacheStep, OrdersCache.touch]
    cases s.loads id with
    | none => rfl
    | some load =>
      simp only [Option.elim_some, Option.bind_some, OrdersCache.continueLoad]
      cases phase : load.phase with
      | running => exact settleStep_memory id load phase outcome
      | closing _ =>
        cases outcome <;> simp only [OrdersLoad.settleTouch, phase] <;> rfl
  | finish id =>
    simp only [cacheStep]
    cases s.loads id with
    | none => rfl
    | some load =>
      simp only [Option.elim_some, OrdersCache.continueLoad]
      cases load.phase with
      | running => rfl
      | closing outcome => exact memory_setProcess (s := s) rfl
  | land position =>
    simp only [cacheStep, OrdersCache.landStep]
    split
    · rfl
    · next write _ => cases write <;> rfl
  | clearClientOrdersOnecCircuit process scope => exact memory_setProcess rfl
  | tick | forgetRead | forgetCircuit => rfl

theorem askCircuit_now (id : Nat) (call : OrdersCall V E) : (s.askCircuit id call).now = s.now := by
  unfold OrdersCache.askCircuit
  dsimp only
  split
  · rfl
  · split <;> rfl

theorem callStep_now (id process : Nat) (read : CacheRead V E) :
    (s.callStep config id process read).now = s.now := by
  unfold OrdersCache.callStep
  dsimp only
  split
  · rfl
  · split
    · rfl
    · split
      · exact askCircuit_now ..
      · rfl

theorem continueCall_now (id : Nat) (action : CacheAction V E) (call : OrdersCall V E) :
    (s.continueCall config id action call).now = s.now := by
  unfold OrdersCache.continueCall
  split
  · rfl
  · unfold OrdersCache.redisReadStep
    split
    · rfl
    · exact askCircuit_now ..
  · rfl
  · rfl
  · unfold OrdersCache.loadStep
    dsimp only
    split <;> rfl
  · rfl

theorem rejectStep_now (id : Nat) (load : OrdersLoad V E) (error : E) :
    (s.rejectStep config id load error).now = s.now := by
  unfold OrdersCache.rejectStep
  dsimp only
  split <;> rfl

theorem continueLoad_now (id : Nat) (action : CacheAction V E) (load : OrdersLoad V E) :
    (s.continueLoad config id action load).now = s.now := by
  unfold OrdersCache.continueLoad
  split
  · unfold OrdersCache.settleStep
    split
    · exact rejectStep_now ..
    · split
      · exact rejectStep_now ..
      · rfl
      · rfl
  · rfl
  · rfl

theorem cacheStep_now (action : CacheAction V E) : s.now ≤ (cacheStep config s action).now := by
  have onCall (id : Nat) (action : CacheAction V E) :
      s.now ≤ ((s.calls id).elim s (s.continueCall config id action)).now :=
    elim_rule (P := fun after : OrdersCache V E => s.now ≤ after.now) le_rfl
      fun call _ => (continueCall_now id action call).ge
  have onLoad (id : Nat) (action : CacheAction V E) :
      s.now ≤ ((s.loads id).elim s (s.continueLoad config id action)).now :=
    elim_rule (P := fun after : OrdersCache V E => s.now ≤ after.now) le_rfl
      fun load _ => (continueLoad_now id action load).ge
  cases action with
  | tick milliseconds => exact Nat.le_add_right ..
  | call id process read => exact (callStep_now id process read).ge
  | direct id outcome => exact onCall id _
  | redisRead id answered => exact onCall id _
  | circuitRead id answered => exact onCall id _
  | proceed id => exact onCall id _
  | load id outcome => exact onLoad id _
  | finish id => exact onLoad id _
  | land position =>
    simp only [cacheStep, OrdersCache.landStep]
    split
    · exact le_rfl
    · next write _ => cases write <;> exact le_rfl
  | forgetRead | forgetCircuit | clearClientOrdersOnecCircuit => exact le_rfl

end Touches

section Notes
variable {V E : Type}

/-- What was last given to a memory for a key; `missed` if a lookup has come after its fresh
time. -/
structure Noted (V : Type) where
  entry : MemoryRead V
  missed : Bool
  deriving DecidableEq, Repr

abbrev Notes (V : Type) := Nat → OrdersCacheKey → Option (Noted V)

def Noted.look (noted : Noted V) (now : Instant) : Noted V :=
  if noted.entry.freshUntil ≤ now then { noted with missed := true } else noted

def MemoryTouch.note (now : Instant) (memory : Memory V) (notes : Notes V) :
    Option (MemoryTouch V) → Notes V
  | none | some (.look _ _ .stale) => notes
  | some (.look process key .fresh) => Function.update notes process
      (Function.update (notes process) key ((notes process key).map (·.look now)))
  | some (.remember process key value ttl _) => Function.update notes process
      (fun other =>
        if other = key then some ⟨rememberedRead value ttl now, false⟩
        else if evictedKey (memory process) = some other then none
        else notes process other)

inductive SlotNoted (now : Instant) : Option (MemoryRead V) → Option (Noted V) → Prop
  | unknown : SlotNoted now none none
  | missed (noted : Noted V) (missed : noted.missed = true) : SlotNoted now none (some noted)
  | stale (noted : Noted V) (stale : noted.entry.staleUntil ≤ now) : SlotNoted now none (some noted)
  | kept (noted : Noted V) (seen : noted.missed = false) :
      SlotNoted now (some noted.entry) (some noted)

def AllNoted (now : Instant) (memory : Memory V) (notes : Notes V) : Prop :=
  ∀ process key, SlotNoted now ((memory process).get key) (notes process key)

variable {noted : Option (Noted V)}

theorem SlotNoted.mono {now later : Instant} {slot : Option (MemoryRead V)}
    (known : SlotNoted now slot noted) (le : now ≤ later) :
    SlotNoted later slot noted := by
  cases known with
  | unknown => exact .unknown
  | missed noted missed => exact .missed noted missed
  | stale noted stale => exact .stale noted (stale.trans le)
  | kept noted seen => exact .kept noted seen

theorem getMemoryValue_get_of_ne {isNull : V → Bool} {reads : MemoryReads V}
    {key other : OrdersCacheKey} (ne : other ≠ key) (mode : LookupMode) (now : Instant) :
    (getMemoryValue isNull reads key mode now).2.get other = reads.get other := by
  unfold getMemoryValue
  split
  · rfl
  · split
    · exact InsertionMap.get_erase_of_ne ne
    · rfl

theorem getMemoryValue_get_self {isNull : V → Bool} {reads : MemoryReads V} {key : OrdersCacheKey}
    (mode : LookupMode) (now : Instant) :
    (getMemoryValue isNull reads key mode now).2.get key =
      (reads.get key).filter (fun entry => decide (now < entry.expiresAt mode)) := by
  unfold getMemoryValue
  cases there : reads.get key with
  | none => exact there
  | some entry =>
    dsimp only
    split
    · next expired =>
      rw [InsertionMap.get_erase_self, Option.filter_some_neg]
      simpa using expired
    · next live =>
      rw [there, Option.filter_some_pos]
      simpa using live

theorem evict_get (reads : MemoryReads V) (key : OrdersCacheKey) :
    (evict reads).get key = if evictedKey reads = some key then none else reads.get key := by
  unfold evict
  cases gone : evictedKey reads with
  | none => simp
  | some first =>
    dsimp only
    by_cases same : key = first
    · rw [same, if_pos rfl, InsertionMap.get_erase_self]
    · rw [if_neg (fun equal => same (Option.some.inj equal).symm), InsertionMap.get_erase_of_ne same]

theorem SlotNoted.look_fresh {now : Instant} {slot : Option (MemoryRead V)}
    (known : SlotNoted now slot noted) :
    SlotNoted now (slot.filter (fun entry => decide (now < entry.expiresAt .fresh)))
      (noted.map (·.look now)) := by
  cases known with
  | unknown => exact .unknown
  | missed noted missed =>
    refine .missed _ ?_
    dsimp only [Noted.look]
    split
    · rfl
    · exact missed
  | stale noted stale =>
    rw [Option.filter_none, Option.map_some]
    by_cases late : noted.entry.freshUntil ≤ now
    · exact .missed _ (by rw [Noted.look, if_pos late])
    · refine .stale _ ?_
      rw [Noted.look, if_neg late]
      exact stale
  | kept noted seen =>
    rw [Option.map_some, Noted.look]
    by_cases late : noted.entry.freshUntil ≤ now
    · rw [if_pos late, Option.filter_some_neg]
      · exact .missed _ rfl
      · exact decide_eq_false (Nat.not_lt.mpr late)
    · rw [if_neg late, Option.filter_some_pos]
      · exact .kept noted seen
      · exact decide_eq_true (Nat.lt_of_not_le late)

theorem SlotNoted.look_stale {now : Instant} {slot : Option (MemoryRead V)}
    (known : SlotNoted now slot noted) :
    SlotNoted now (slot.filter (fun entry => decide (now < entry.expiresAt .stale))) noted := by
  cases known with
  | unknown => exact .unknown
  | missed noted missed => exact .missed noted missed
  | stale noted stale => exact .stale noted stale
  | kept noted seen =>
    by_cases late : noted.entry.staleUntil ≤ now
    · rw [Option.filter_some_neg]
      · exact .stale noted late
      · exact decide_eq_false (Nat.not_lt.mpr late)
    · rw [Option.filter_some_pos]
      · exact .kept noted seen
      · exact decide_eq_true (Nat.lt_of_not_le late)

section Touch
variable {isNull : V → Bool} {now : Instant} {memory : Memory V} {notes : Notes V}

theorem allNoted_look (all : AllNoted now memory notes) (process : Nat) (key : OrdersCacheKey)
    (mode : LookupMode) :
    AllNoted now (MemoryTouch.apply isNull now memory (some (.look process key mode)))
      (MemoryTouch.note now memory notes (some (.look process key mode))) := by
  intro p k
  have here := all p k
  have elsewhere (other : ¬(p = process ∧ k = key)) :
      (MemoryTouch.apply isNull now memory (some (.look process key mode)) p).get k =
        (memory p).get k := by
    dsimp only [MemoryTouch.apply]
    by_cases own : p = process
    · subst own
      rw [Function.update_self, getMemoryValue_get_of_ne (fun same => other ⟨rfl, same⟩)]
    · rw [Function.update_of_ne own]
  by_cases own : p = process ∧ k = key
  · obtain ⟨rfl, rfl⟩ := own
    rw [MemoryTouch.apply, Function.update_self, getMemoryValue_get_self]
    cases mode with
    | fresh =>
      rw [MemoryTouch.note, Function.update_self, Function.update_self]
      exact here.look_fresh
    | stale => exact here.look_stale
  · rw [elsewhere own]
    cases mode with
    | stale => exact here
    | fresh =>
      dsimp only [MemoryTouch.note]
      by_cases process' : p = process
      · subst process'
        rw [Function.update_self, Function.update_of_ne (fun same => own ⟨rfl, same⟩)]
        exact here
      · rw [Function.update_of_ne process']
        exact here

theorem allNoted_remember (all : AllNoted now memory notes) (process : Nat) (key : OrdersCacheKey)
    (value : V) (ttl : Nat) (copied : Bool) :
    AllNoted now (MemoryTouch.apply isNull now memory (some (.remember process key value ttl copied)))
      (MemoryTouch.note now memory notes (some (.remember process key value ttl copied))) := by
  intro p k
  have here := all p k
  dsimp only [MemoryTouch.apply, MemoryTouch.note]
  by_cases own : p = process
  · subst own
    rw [Function.update_self, Function.update_self, rememberMemoryValue]
    by_cases same : k = key
    · subst same
      rw [InsertionMap.get_set_self, if_pos rfl]
      exact .kept ⟨rememberedRead value ttl now, false⟩ rfl
    · rw [InsertionMap.get_set_of_ne _ same, if_neg same, evict_get]
      split
      · exact .unknown
      · exact here
  · rw [Function.update_of_ne own, Function.update_of_ne own]
    exact here

theorem allNoted_touch (all : AllNoted now memory notes) (touch : Option (MemoryTouch V)) :
    AllNoted now (MemoryTouch.apply isNull now memory touch)
      (MemoryTouch.note now memory notes touch) := by
  cases touch with
  | none => exact all
  | some touch =>
    cases touch with
    | look process key mode => exact allNoted_look all process key mode
    | remember process key value ttl copied => exact allNoted_remember all process key value ttl copied

end Touch

end Notes

section Runs
variable {V E : Type} {config : CacheConfig V}

/-- The caches together with the notes. -/
def notedStep (config : CacheConfig V) (p : OrdersCache V E × Notes V) (action : CacheAction V E) :
    OrdersCache V E × Notes V :=
  (cacheStep config p.1 action,
    MemoryTouch.note p.1.now p.1.memory p.2 (p.1.touch config action))

def notedStart (now : Instant) : OrdersCache V E × Notes V := (.start now, fun _ _ => none)

def NotesKept (p : OrdersCache V E × Notes V) : Prop := AllNoted p.1.now p.1.memory p.2

theorem notesKept_start (now : Instant) : NotesKept (notedStart now : OrdersCache V E × Notes V) :=
  fun _ _ => .unknown

theorem notedStep_kept {p : OrdersCache V E × Notes V} (kept : NotesKept p)
    (action : CacheAction V E) : NotesKept (notedStep config p action) := by
  intro process key
  have touched : AllNoted p.1.now
      (MemoryTouch.apply config.isNull p.1.now p.1.memory (p.1.touch config action))
      (MemoryTouch.note p.1.now p.1.memory p.2 (p.1.touch config action)) := allNoted_touch kept _
  have later : p.1.now ≤ (cacheStep config p.1 action).now := cacheStep_now action
  have here := (touched process key).mono later
  rw [← cacheStep_memory] at here
  exact here

structure AsksKnown (p : OrdersCache V E × Notes V) (action : CacheAction V E) (id : Nat)
    (call : OrdersCall V E) (noted : Noted V) : Prop where
  goes_on : action = .proceed id
  known : p.1.calls id = some call
  circuit_open : call.phase = .circuitKnown true
  last : p.2 call.process call.read.key = some noted
  in_time : p.1.now < noted.entry.staleUntil

/-- A call with an open circuit gets the last value of its key in the stale time of that. -/
def Serves (config : CacheConfig V) (p : OrdersCache V E × Notes V) (action : CacheAction V E) :
    Prop :=
  ∀ id call noted, AsksKnown p action id call noted →
    ((cacheStep config p.1 action).calls id).map (·.phase) =
      some (.answered (.value noted.entry.value))

/-- The value has not been looked up past its fresh time, and is not null. -/
def NotLookedPast (config : CacheConfig V) (p : OrdersCache V E × Notes V)
    (action : CacheAction V E) : Prop :=
  ∀ id call noted, AsksKnown p action id call noted →
    noted.missed = false ∧ config.isNull noted.entry.value = false

theorem AsksKnown.served_iff {p : OrdersCache V E × Notes V} {action : CacheAction V E} {id : Nat}
    {call : OrdersCall V E} {noted : Noted V} (kept : NotesKept p)
    (asks : AsksKnown p action id call noted) :
    ((cacheStep config p.1 action).calls id).map (·.phase) =
        some (.answered (.value noted.entry.value)) ↔
      noted.missed = false ∧ config.isNull noted.entry.value = false := by
  have step : cacheStep config p.1 action = p.1.staleStep config id call := by
    rw [asks.goes_on]
    simp only [cacheStep, asks.known, Option.elim_some, OrdersCache.continueCall, asks.circuit_open]
  have slot := kept call.process call.read.key
  rw [asks.last] at slot
  have phase : ((cacheStep config p.1 action).calls id).map (·.phase) =
      some ((getMemoryValue config.isNull (p.1.memory call.process) call.read.key .stale
        p.1.now).1.elim (.answered .circuitOpen) fun value => .answered (.value value)) := by
    rw [step]
    unfold OrdersCache.staleStep OrdersCache.setPhase OrdersCache.memory
    simp only [Function.update_self, Option.map_some]
    generalize (getMemoryValue config.isNull (p.1.processes call.process).memoryReads
      call.read.key .stale p.1.now).1 = found
    cases found <;> rfl
  rw [phase, getMemoryValue]
  generalize (p.1.memory call.process).get call.read.key = found at slot
  cases slot with
  | missed noted missed => simp [missed]
  | stale noted stale => exact absurd asks.in_time (Nat.not_lt.mpr stale)
  | kept noted seen =>
    have live : ¬noted.entry.expiresAt .stale ≤ p.1.now := Nat.not_le.mpr asks.in_time
    simp only [if_neg live]
    cases config.isNull noted.entry.value with
    | true => simp
    | false => simp [seen]

/-- In every run an open circuit serves the last known values exactly when none of those that are
asked for has been looked up past its fresh time, or is null. -/
theorem last_known_served_iff (config : CacheConfig V) (now : Instant)
    (actions : List (CacheAction V E)) :
    EachStep (notedStep config) (Serves config) (notedStart now) actions ↔
      EachStep (notedStep config) (NotLookedPast config) (notedStart now) actions := by
  refine eachStep_congr (I := NotesKept) (fun _ action kept _ => notedStep_kept kept action)
    (fun p action kept => ?_) (notesKept_start now) actions
  exact forall_congr' fun id => forall_congr' fun call => forall_congr' fun noted =>
    forall_congr' fun asks => asks.served_iff kept

/-- A call after the fresh time drops the value, its load fails, and the next call is refused, long
before the stale time is over. -/
theorem expired_lookup_loses_value :
    ¬ ∀ (config : CacheConfig Nat) (now : Instant) (actions : List (CacheAction Nat Unit)),
      EachStep (notedStep config) (Serves config) (notedStart now) actions := by
  intro always
  let read : CacheRead Nat Unit := ⟨⟨"orders:list", "h"⟩, .fixed 20, false, fun _ => true⟩
  let miss (id : Nat) : List (CacheAction Nat Unit) :=
    [.call id 0 read, .redisRead id false, .circuitRead id false, .proceed id]
  have served := (always ⟨fun _ => true, fun _ => 20, fun _ => false⟩ 1000
    (miss 1 ++ [.load 1 (.ok 7), .finish 1, .tick 21000] ++ miss 2 ++ [.load 2 (.error ()),
      .finish 2, .call 3 0 read, .redisRead 3 false] ++ [.proceed 3])).of_concat
  generalize state : run (notedStep _) _ _ = p at served
  have asked : (p.1.calls 3).map (fun call => (call.process, call.read.key, call.phase)) =
      some (0, read.key, .circuitKnown true) := by
    rw [← state]
    decide +kernel
  have last : p.2 0 read.key = some ⟨⟨7, 21000, 81000⟩, true⟩ ∧ p.1.now < 81000 := by
    rw [← state]
    decide +kernel
  have refused : ((cacheStep ⟨fun _ => true, fun _ => 20, fun _ => false⟩ p.1 (.proceed 3)).calls
      3).map (·.phase) = some (.answered .circuitOpen) := by
    rw [← state]
    decide +kernel
  obtain ⟨call, known, same⟩ := Option.map_eq_some_iff.mp asked
  simp only [Prod.mk.injEq] at same
  obtain ⟨process, key, phase⟩ := same
  have got := served 3 call _ ⟨rfl, known, phase, by rw [process, key, last.1], last.2⟩
  rw [refused] at got
  cases got

end Runs

end LeaderProduct
