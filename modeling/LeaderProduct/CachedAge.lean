import LeaderProduct.LastKnownValue
import LeaderProduct.OneLoadPerKey

/-! How old a cached value is when it is handed out. A value carries the time of its load, which
the source does not keep, so that its age can be told wherever it has been copied to; beside the
caches it is noted since when a memory or Redis has had what they have for a key. -/
namespace LeaderProduct
open Transition

section Aged
variable {V E : Type}

structure Stamped (V : Type) where
  value : V
  loadedAt : Instant
  deriving DecidableEq, Repr

/-- What a loader gives carries the time at which it does. -/
def CacheAction.stamp (now : Instant) : CacheAction (Stamped V) E → CacheAction (Stamped V) E
  | .load id (.ok v) => .load id (.ok { v with loadedAt := now })
  | .direct id (.ok v) => .direct id (.ok { v with loadedAt := now })
  | action => action

structure Given where
  since : Instant
  copied : Bool

structure AgedCache (V E : Type) where
  cache : OrdersCache (Stamped V) E
  given : Nat → OrdersCacheKey → Option Given
  landed : OrdersCacheKey → Option Instant

def OrdersCache.landing (s : OrdersCache V E) : CacheAction V E → Option OrdersCacheKey
  | .land position => match s.sent[position]? with
    | some (.read key _ _) => some key
    | _ => none
  | _ => none

def agedStep (config : CacheConfig (Stamped V)) (p : AgedCache V E)
    (action : CacheAction (Stamped V) E) : AgedCache V E where
  cache := cacheStep config p.cache (action.stamp p.cache.now)
  given := match p.cache.touch config (action.stamp p.cache.now) with
    | some (.remember process key _ _ copied) => Function.update p.given process
        (Function.update (p.given process) key (some ⟨p.cache.now, copied⟩))
    | _ => p.given
  landed := match p.cache.landing action with
    | some key => Function.update p.landed key (some p.cache.now)
    | none => p.landed

def agedStart (now : Instant) : AgedCache V E := ⟨.start now, fun _ _ => none, fun _ => none⟩

def CallPhase.got : CallPhase V E → Option V
  | .answered (.value v) | .loaded _ (.value v) => some v
  | _ => none

structure Answers (config : CacheConfig (Stamped V)) (p : AgedCache V E)
    (action : CacheAction (Stamped V) E) (id : Nat) (call : OrdersCall (Stamped V) E)
    (v : Stamped V) : Prop where
  after : (agedStep config p action).cache.calls id = some call
  told : call.phase.got = some v
  unanswered : ∀ old, p.cache.calls id = some old → old.phase.got = none
  closed : action ≠ .proceed id

def OrdersCall.Young (call : OrdersCall (Stamped V) E) (v : Stamped V) (ttl : Nat) : Prop :=
  call.startedAt ≤ v.loadedAt + ttl * 1000

/-- Every value that is handed out is at most as old as its lifetime. -/
def HandsOutYoung (config : CacheConfig (Stamped V)) (p : AgedCache V E)
    (action : CacheAction (Stamped V) E) : Prop :=
  ∀ id call v ttl, Answers config p action id call v →
    resolveTtl call.read.ttlSeconds v = .ok ttl → call.Young v ttl

/-- The lifetime that began anew at `since` goes on when that of the value was over before the
call. -/
def Outlived (v : Stamped V) (ttl : Nat) (since startedAt now : Instant) : Prop :=
  v.loadedAt + ttl * 1000 < startedAt ∧ now < since + ttl * 1000

structure OrdersCache.LooksUp (config : CacheConfig V) (s : OrdersCache V E) (id process : Nat)
    (read : CacheRead V E) : Prop where
  fresh : s.calls id = none
  cached : read.bypasses config process = false
  unforced : read.forceRefresh = false

/-- No call comes to a copy in memory, or to Redis, in the time for which these have made the
lifetime of the value longer, and none that waits for a load has begun after the lifetime of its
value. -/
def AsksInTime (config : CacheConfig (Stamped V)) (p : AgedCache V E) :
    CacheAction (Stamped V) E → Prop
  | .call id process read => p.cache.LooksUp config id process read →
      ∀ entry since ttl, (p.cache.memory process).get read.key = some entry →
        p.given process read.key = some ⟨since, true⟩ →
        resolveTtl read.ttlSeconds entry.value = .ok ttl →
        ¬Outlived entry.value ttl since p.cache.now p.cache.now
  | .redisRead id true => ∀ call found since ttl, p.cache.calls id = some call →
      call.phase = .redisRead → p.cache.redisReads call.read.key = some found →
      config.isNull found.value = false → p.landed call.read.key = some since →
      resolveTtl call.read.ttlSeconds found.value = .ok ttl →
      ¬Outlived found.value ttl since call.startedAt p.cache.now
  | .finish l => ∀ load v, p.cache.loads l = some load → load.phase = .closing (.ok v) →
      ∀ id call ttl, p.cache.calls id = some call → call.phase = .waiting l →
        resolveTtl call.read.ttlSeconds v = .ok ttl → ¬v.loadedAt + ttl * 1000 < call.startedAt
  | _ => True

end Aged

variable {key : OrdersCacheKey} {now : Instant} {process ttl : Nat}

section Answering
variable {V E : Type} {config : CacheConfig V} {s : OrdersCache V E}

inductive AnswerBy (config : CacheConfig V) (s : OrdersCache V E) (id : Nat)
    (call : OrdersCall V E) (v : V) : CacheAction V E → Prop
  | memory (entry : MemoryRead V) (looks : s.LooksUp config id call.process call.read)
      (there : (s.memory call.process).get call.read.key = some entry)
      (fresh : s.now < entry.freshUntil) (value : entry.value = v) (now : call.startedAt = s.now) :
      AnswerBy config s id call v (.call id call.process call.read)
  | redis (old : OrdersCall V E) (ttl : Nat) (known : s.calls id = some old)
      (phase : old.phase = .redisRead) (found : s.foundInRedis config old true = some (v, ttl))
      (same : call.read = old.read ∧ call.startedAt = old.startedAt) :
      AnswerBy config s id call v (.redisRead id true)
  | direct (old : OrdersCall V E) (known : s.calls id = some old)
      (same : call.startedAt = old.startedAt) : AnswerBy config s id call v (.direct id (.ok v))
  | stale : AnswerBy config s id call v (.proceed id)
  | finish (l : Nat) (load : OrdersLoad V E) (old : OrdersCall V E) (known : s.calls id = some old)
      (waits : old.phase = .waiting l) (there : s.loads l = some load)
      (closes : load.phase = .closing (.ok v))
      (same : call.read = old.read ∧ call.startedAt = old.startedAt) :
      AnswerBy config s id call v (.finish l)

theorem askCircuit_calls (id : Nat) (call : OrdersCall V E) :
    ∃ phase : CallPhase V E, phase.got = none ∧
      (s.askCircuit id call).calls = Function.update s.calls id (some { call with phase := phase }) := by
  unfold OrdersCache.askCircuit
  dsimp only
  split
  · exact ⟨_, rfl, rfl⟩
  · split
    · exact ⟨_, rfl, rfl⟩
    · exact ⟨_, rfl, rfl⟩

theorem foundInRedis_eq_some {call : OrdersCall V E} {answered : Bool} {v : V} :
    s.foundInRedis config call answered = some (v, ttl) ↔
      answered = true ∧ resolveTtl call.read.ttlSeconds v = .ok ttl ∧
        ∃ entry, s.redisReads call.read.key = some entry ∧ s.now < entry.expiresAt ∧
          config.isNull entry.value = false ∧ entry.value = v := by
  constructor
  · intro hit
    unfold OrdersCache.foundInRedis at hit
    split at hit
    · next redis_answered =>
      obtain ⟨value, live, resolved⟩ := Option.bind_eq_some_iff.mp hit
      obtain ⟨entry, kept, rfl⟩ := Option.map_eq_some_iff.mp live
      obtain ⟨there, usable⟩ := Option.filter_eq_some_iff.mp kept
      simp only [Bool.and_eq_true, decide_eq_true_eq, Bool.not_eq_true'] at usable
      split at resolved
      · next ttl_found =>
        cases resolved
        exact ⟨redis_answered, ttl_found, entry, there, usable.1, usable.2, rfl⟩
      · cases resolved
    · cases hit
  · rintro ⟨rfl, ttl_found, entry, there, live, present, rfl⟩
    have usable : (decide (s.now < entry.expiresAt) && !config.isNull entry.value) = true := by
      simp [live, present]
    have known : s.redisValue config call.read.key = some entry.value :=
      Option.map_eq_some_iff.mpr ⟨entry, Option.filter_eq_some_iff.mpr ⟨there, usable⟩, rfl⟩
    simp only [OrdersCache.foundInRedis, if_true, known, Option.bind_some, ttl_found]

theorem getMemoryValue_eq_some {isNull : V → Bool} {reads : MemoryReads V} {mode : LookupMode}
    {v : V} :
    (getMemoryValue isNull reads key mode now).1 = some v ↔
      ∃ entry, reads.get key = some entry ∧ now < entry.expiresAt mode ∧
        isNull entry.value = false ∧ entry.value = v := by
  unfold getMemoryValue
  cases there : reads.get key with
  | none => simp
  | some entry =>
    simp only [Option.some.injEq, exists_eq_left']
    by_cases expired : entry.expiresAt mode ≤ now
    · simp [expired]
    · simp [expired, Nat.lt_of_not_le expired]

theorem getMemoryValue_kept {isNull : V → Bool} {reads : MemoryReads V} {other : OrdersCacheKey}
    {mode : LookupMode} {entry : MemoryRead V}
    (there : (getMemoryValue isNull reads key mode now).2.get other = some entry) :
    reads.get other = some entry := by
  by_cases same : other = key
  · subst same
    rw [getMemoryValue_get_self] at there
    exact (Option.filter_eq_some_iff.mp there).1
  · rwa [getMemoryValue_get_of_ne same] at there

theorem rememberMemoryValue_kept {reads : MemoryReads V} {other : OrdersCacheKey} {v : V}
    {entry : MemoryRead V}
    (there : (rememberMemoryValue reads key v ttl now).get other = some entry) :
    (other = key ∧ entry = rememberedRead v ttl now) ∨
      (other ≠ key ∧ reads.get other = some entry) := by
  unfold rememberMemoryValue at there
  by_cases same : other = key
  · subst same
    rw [InsertionMap.get_set_self] at there
    exact .inl ⟨rfl, (Option.some.inj there).symm⟩
  · rw [InsertionMap.get_set_of_ne _ same, evict_get] at there
    split at there
    · cases there
    · exact .inr ⟨same, there⟩

structure Answered (s s' : OrdersCache V E) (id : Nat) (call : OrdersCall V E) (v : V) : Prop where
  after : s'.calls id = some call
  told : call.phase.got = some v
  unanswered : ∀ old, s.calls id = some old → old.phase.got = none

variable {s' : OrdersCache V E} {id : Nat} {call : OrdersCall V E} {v : V}

theorem Answered.changed (answered : Answered s s' id call v) : s'.calls ≠ s.calls := by
  intro same
  have told := answered.told
  rw [answered.unanswered call (by rw [← same, answered.after])] at told
  cases told

variable {i : Nat}

theorem Answered.updated {new : OrdersCall V E} (answered : Answered s s' id call v)
    (calls : s'.calls = Function.update s.calls i (some new)) : id = i ∧ call = new := by
  have after := answered.after
  rw [calls] at after
  by_cases own : id = i
  · subst own
    rw [Function.update_self] at after
    exact ⟨rfl, (Option.some.inj after).symm⟩
  · rw [Function.update_of_ne own] at after
    have told := answered.told
    rw [answered.unanswered call after] at told
    cases told

theorem Answered.not_askCircuit {asking : OrdersCall V E} :
    ¬Answered s (s.askCircuit i asking) id call v := by
  intro answered
  obtain ⟨phase, quiet, calls⟩ := askCircuit_calls (s := s) i asking
  obtain ⟨-, rfl⟩ := answered.updated calls
  have told := answered.told
  rw [quiet] at told
  cases told

theorem callStep_answers {read : CacheRead V E}
    (answered : Answered s (s.callStep config i process read) id call v) :
    AnswerBy config s id call v (.call i process read) := by
  unfold OrdersCache.callStep at answered
  dsimp only at answered
  split at answered
  · exact absurd rfl answered.changed
  · next unused =>
    split at answered
    · obtain ⟨rfl, rfl⟩ := answered.updated rfl
      cases answered.told
    · next cached =>
      split at answered
      · exact absurd answered Answered.not_askCircuit
      · next unforced =>
        obtain ⟨rfl, rfl⟩ := answered.updated rfl
        have told := answered.told
        dsimp only at told
        split at told
        · next found =>
          cases told
          obtain ⟨entry, there, fresh, -, value⟩ := getMemoryValue_eq_some.mp found
          exact .memory entry ⟨by simpa using unused, by simpa using cached, by simpa using unforced⟩
            there fresh value rfl
        · cases told

theorem OrdersCache.LooksUp.answers {read : CacheRead V E}
    (looks : s.LooksUp config id process read) {entry : MemoryRead V}
    (there : (s.memory process).get read.key = some entry) (fresh : s.now < entry.freshUntil)
    (present : config.isNull entry.value = false) :
    (s.callStep config id process read).calls id =
      some ⟨process, read, s.now, .answered (.value entry.value)⟩ := by
  have found : (getMemoryValue config.isNull (s.processes process).memoryReads read.key .fresh
      s.now).1 = some entry.value :=
    getMemoryValue_eq_some.mpr ⟨entry, there, fresh, present, rfl⟩
  unfold OrdersCache.callStep
  simp [looks.fresh, looks.cached, looks.unforced, found, OrdersCache.setPhase]

def CacheAction.callId : CacheAction V E → Option Nat
  | .direct id _ | .redisRead id _ | .circuitRead id _ | .proceed id => some id
  | _ => none

theorem continueCall_answers {old : OrdersCall V E} {action : CacheAction V E}
    (known : s.calls i = some old) (own : action.callId = some i)
    (answered : Answered s (s.continueCall config i action old) id call v) :
    AnswerBy config s id call v action := by
  unfold OrdersCache.continueCall at answered
  split at answered
  · next i' outcome _ =>
    obtain rfl : i' = i := Option.some.inj own
    obtain ⟨rfl, rfl⟩ := answered.updated rfl
    have told := answered.told
    cases outcome with
    | error error => cases told
    | ok value =>
      cases told
      exact .direct old known rfl
  · next i' redisAnswered phase =>
    obtain rfl : i' = i := Option.some.inj own
    unfold OrdersCache.redisReadStep at answered
    cases found : s.foundInRedis config old redisAnswered with
    | none =>
      rw [found] at answered
      exact absurd answered Answered.not_askCircuit
    | some pair =>
      rw [found] at answered
      obtain ⟨rfl, rfl⟩ := answered.updated rfl
      cases answered.told
      obtain rfl := (foundInRedis_eq_some.mp found).1
      exact .redis old pair.2 known phase found ⟨rfl, rfl⟩
  · obtain ⟨-, rfl⟩ := answered.updated rfl
    cases answered.told
  · next i' _ =>
    obtain rfl : i' = i := Option.some.inj own
    obtain ⟨rfl, rfl⟩ := answered.updated rfl
    exact .stale
  · unfold OrdersCache.loadStep at answered
    dsimp only at answered
    split at answered
    · obtain ⟨-, rfl⟩ := answered.updated rfl
      cases answered.told
    · obtain ⟨-, rfl⟩ := answered.updated rfl
      cases answered.told
  · exact absurd rfl answered.changed

theorem settleStep_calls (i : Nat) (load : OrdersLoad V E) (outcome : Except E V) :
    (s.settleStep config i load outcome).calls = s.calls := by
  have reject (error : E) : (s.rejectStep config i load error).calls = s.calls := by
    unfold OrdersCache.rejectStep
    dsimp only
    split <;> rfl
  unfold OrdersCache.settleStep
  split
  · exact reject _
  · split
    · exact reject _
    · rfl
    · rfl

theorem finishStep_answers {l : Nat} {load : OrdersLoad V E} {outcome : Except E V}
    (there : s.loads l = some load) (closes : load.phase = .closing outcome)
    (answered : Answered s (s.finishStep l load outcome) id call v) :
    AnswerBy config s id call v (.finish l) := by
  obtain ⟨old, known, rfl⟩ := Option.map_eq_some_iff.mp answered.after
  have told := answered.told
  have unanswered := answered.unanswered old known
  unfold OrdersCall.toldBy at told ⊢
  split at told
  · next joined waits =>
    split at told
    · next same =>
      subst same
      cases outcome with
      | error error => cases told
      | ok value =>
        cases told
        rw [if_pos rfl]
        exact .finish joined load old known waits there closes ⟨rfl, rfl⟩
    · rw [unanswered] at told
      cases told
  · rw [unanswered] at told
    cases told

theorem cacheStep_answers {action : CacheAction V E}
    (answered : Answered s (cacheStep config s action) id call v) :
    AnswerBy config s id call v action := by
  have onCall (i : Nat) (act : CacheAction V E) (own : act.callId = some i)
      (here : Answered s ((s.calls i).elim s (s.continueCall config i act)) id call v) :
      AnswerBy config s id call v act := by
    cases known : s.calls i with
    | none =>
      rw [known] at here
      exact absurd rfl here.changed
    | some old =>
      rw [known] at here
      exact continueCall_answers known own here
  cases action with
  | call i process read => exact callStep_answers answered
  | direct i outcome => exact onCall i _ rfl answered
  | redisRead i redisAnswered => exact onCall i _ rfl answered
  | circuitRead i redisAnswered => exact onCall i _ rfl answered
  | proceed i => exact onCall i _ rfl answered
  | load i outcome =>
    refine absurd ?_ answered.changed
    simp only [cacheStep]
    cases s.loads i with
    | none => rfl
    | some load =>
      simp only [Option.elim_some, OrdersCache.continueLoad]
      cases load.phase with
      | running => exact settleStep_calls ..
      | closing _ => rfl
  | finish i =>
    simp only [cacheStep] at answered
    cases there : s.loads i with
    | none =>
      rw [there] at answered
      exact absurd rfl answered.changed
    | some load =>
      rw [there] at answered
      simp only [Option.elim_some, OrdersCache.continueLoad] at answered
      split at answered
      · next same _ => cases same
      · next same closes =>
        cases same
        exact finishStep_answers there closes answered
      · exact absurd rfl answered.changed
  | land position =>
    refine absurd ?_ answered.changed
    simp only [cacheStep, OrdersCache.landStep]
    split
    · rfl
    · next write _ => cases write <;> rfl
  | tick | forgetRead | forgetCircuit | clearClientOrdersOnecCircuit => exact absurd rfl answered.changed

def OrdersCache.SameRedis (s s' : OrdersCache V E) : Prop :=
  s'.redisReads = s.redisReads ∧ s'.sent = s.sent

theorem askCircuit_redis (i : Nat) (asking : OrdersCall V E) : s.SameRedis (s.askCircuit i asking) := by
  unfold OrdersCache.askCircuit
  dsimp only
  split
  · exact ⟨rfl, rfl⟩
  · split <;> exact ⟨rfl, rfl⟩

theorem callStep_redis (i process : Nat) (read : CacheRead V E) :
    s.SameRedis (s.callStep config i process read) := by
  unfold OrdersCache.callStep
  dsimp only
  split
  · exact ⟨rfl, rfl⟩
  · split
    · exact ⟨rfl, rfl⟩
    · split
      · exact askCircuit_redis ..
      · exact ⟨rfl, rfl⟩

theorem continueCall_redis (i : Nat) (action : CacheAction V E) (asking : OrdersCall V E) :
    s.SameRedis (s.continueCall config i action asking) := by
  unfold OrdersCache.continueCall
  split
  · exact ⟨rfl, rfl⟩
  · unfold OrdersCache.redisReadStep
    split
    · exact ⟨rfl, rfl⟩
    · exact askCircuit_redis ..
  · exact ⟨rfl, rfl⟩
  · exact ⟨rfl, rfl⟩
  · unfold OrdersCache.loadStep
    dsimp only
    split <;> exact ⟨rfl, rfl⟩
  · exact ⟨rfl, rfl⟩

theorem cacheStep_call_redis (action : CacheAction V E) (own : action.callId.isSome) :
    s.SameRedis (cacheStep config s action) := by
  have onCall (i : Nat) (act : CacheAction V E) :
      s.SameRedis ((s.calls i).elim s (s.continueCall config i act)) :=
    elim_rule ⟨rfl, rfl⟩ fun asking _ => continueCall_redis i act asking
  cases action with
  | direct i outcome => exact onCall i _
  | redisRead i redisAnswered => exact onCall i _
  | circuitRead i redisAnswered => exact onCall i _
  | proceed i => exact onCall i _
  | _ => cases own

theorem rejectStep_redis (i : Nat) (load : OrdersLoad V E) (error : E) :
    (s.rejectStep config i load error).redisReads = s.redisReads ∧
      ∀ key value ttl, .read key value ttl ∈ (s.rejectStep config i load error).sent →
        .read key value ttl ∈ s.sent := by
  unfold OrdersCache.rejectStep
  dsimp only
  split
  · refine ⟨rfl, fun key value ttl there => ?_⟩
    rcases List.mem_append.mp there with old | new
    · exact old
    · cases List.mem_singleton.mp new
  · exact ⟨rfl, fun _ _ _ there => there⟩

theorem continueLoad_redis (i : Nat) (action : CacheAction V E) (load : OrdersLoad V E) :
    (s.continueLoad config i action load).redisReads = s.redisReads ∧
      ∀ key value ttl, .read key value ttl ∈ (s.continueLoad config i action load).sent →
        .read key value ttl ∈ s.sent ∨
          load.read.key = key ∧ resolveTtl load.read.ttlSeconds value = .ok ttl := by
  have rejected (error : E) := @rejectStep_redis _ _ config s i load error
  unfold OrdersCache.continueLoad
  split
  · unfold OrdersCache.settleStep
    split
    · exact ⟨(rejected _).1, fun key value ttl there => .inl ((rejected _).2 key value ttl there)⟩
    · split
      · exact ⟨(rejected _).1, fun key value ttl there => .inl ((rejected _).2 key value ttl there)⟩
      · exact ⟨rfl, fun _ _ _ there => .inl there⟩
      · next found =>
        refine ⟨rfl, fun key value ttl there => ?_⟩
        rcases List.mem_append.mp there with old | new
        · exact .inl old
        · cases List.mem_singleton.mp new
          exact .inr ⟨rfl, found⟩
  · exact ⟨rfl, fun _ _ _ there => .inl there⟩
  · exact ⟨rfl, fun _ _ _ there => .inl there⟩

structure RedisDated (s s' : OrdersCache V E) (landing : Option OrdersCacheKey) : Prop where
  reads : ∀ key found, s'.redisReads key = some found →
    (landing ≠ some key ∧ s.redisReads key = some found) ∨
      (landing = some key ∧ ∃ ttl, .read key found.value ttl ∈ s.sent ∧
        found.expiresAt = s.now + ttl * 1000)
  sent : ∀ key value ttl, .read key value ttl ∈ s'.sent → .read key value ttl ∈ s.sent ∨
    ∃ l load, s.loads l = some load ∧ load.read.key = key ∧
      resolveTtl load.read.ttlSeconds value = .ok ttl

theorem OrdersCache.SameRedis.dated {s' : OrdersCache V E} (same : s.SameRedis s') :
    RedisDated s s' none where
  reads := by
    intro key found there
    rw [same.1] at there
    exact .inl ⟨nofun, there⟩
  sent := by
    intro key value ttl there
    rw [same.2] at there
    exact .inl there

theorem landStep_dated (position : Nat) :
    RedisDated s (s.landStep position) (s.landing (.land position : CacheAction V E)) := by
  unfold OrdersCache.landStep
  cases landed : s.sent[position]? with
  | none =>
    have landing : s.landing (.land position : CacheAction V E) = none := by
      simp only [OrdersCache.landing, landed]
    rw [landing]
    exact ⟨fun _ _ there => .inl ⟨nofun, there⟩, fun _ _ _ there => .inl there⟩
  | some write =>
    have member := List.mem_of_getElem? landed
    cases write with
    | circuit scope ttl =>
      have landing : s.landing (.land position : CacheAction V E) = none := by
        simp only [OrdersCache.landing, landed]
      rw [landing]
      exact ⟨fun _ _ there => .inl ⟨nofun, there⟩,
        fun _ _ _ there => .inl (List.mem_of_mem_eraseIdx there)⟩
    | read key value ttl =>
      have landing : s.landing (.land position : CacheAction V E) = some key := by
        simp only [OrdersCache.landing, landed]
      rw [landing]
      refine ⟨fun other found there => ?_, fun _ _ _ there => .inl (List.mem_of_mem_eraseIdx there)⟩
      dsimp only [OrdersCache.carryOut] at there
      by_cases own : other = key
      · subst own
        rw [Function.update_self] at there
        cases there
        exact .inr ⟨rfl, ttl, member, rfl⟩
      · rw [Function.update_of_ne own] at there
        exact .inl ⟨fun same => own (Option.some.inj same).symm, there⟩

theorem cacheStep_dated (action : CacheAction V E) :
    RedisDated s (cacheStep config s action) (s.landing action) := by
  have onLoad (i : Nat) (act : CacheAction V E) :
      RedisDated s ((s.loads i).elim s (s.continueLoad config i act)) none := by
    refine elim_rule (P := fun after : OrdersCache V E => RedisDated s after none)
      (OrdersCache.SameRedis.dated ⟨rfl, rfl⟩) fun load there => ?_
    obtain ⟨reads, sent⟩ := @continueLoad_redis _ _ config s i act load
    refine ⟨fun key found here => .inl ⟨nofun, reads ▸ here⟩, fun key value ttl here => ?_⟩
    exact (sent key value ttl here).imp_right fun own => ⟨i, load, there, own⟩
  cases action with
  | call i process read => exact (callStep_redis i process read).dated
  | direct i outcome => exact (cacheStep_call_redis _ rfl).dated
  | redisRead i redisAnswered => exact (cacheStep_call_redis _ rfl).dated
  | circuitRead i redisAnswered => exact (cacheStep_call_redis _ rfl).dated
  | proceed i => exact (cacheStep_call_redis _ rfl).dated
  | load i outcome => exact onLoad i _
  | finish i => exact onLoad i _
  | land position => exact landStep_dated position
  | forgetRead key =>
    refine ⟨fun other found there => .inl ⟨nofun, ?_⟩, fun _ _ _ there => .inl there⟩
    by_cases own : other = key
    · subst own
      simp [cacheStep] at there
    · exact (Function.update_of_ne own none s.redisReads) ▸ there
  | tick | forgetCircuit | clearClientOrdersOnecCircuit => exact OrdersCache.SameRedis.dated ⟨rfl, rfl⟩

end Answering

section Invariant
variable {V E : Type} {config : CacheConfig (Stamped V)}
  {lifetime : OrdersCacheKey → CacheTtl (Stamped V) E} {p : AgedCache V E}
  {action : CacheAction (Stamped V) E}

/-- Every call of a key gives it the same lifetime. -/
def OneLifetime (lifetime : OrdersCacheKey → CacheTtl V E) : CacheAction V E → Prop
  | .call _ _ read => read.ttlSeconds = lifetime read.key
  | _ => True

theorem eq_of_stamp {stamped : CacheAction (Stamped V) E} (same : action.stamp now = stamped)
    (not_load : ∀ id v, stamped ≠ .load id (.ok v))
    (not_direct : ∀ id v, stamped ≠ .direct id (.ok v)) : action = stamped := by
  unfold CacheAction.stamp at same
  split at same
  · next id v => exact absurd same.symm (not_load id _)
  · next id v => exact absurd same.symm (not_direct id _)
  · exact same

theorem stamp_load {id : Nat} {v : Stamped V} (stamped : action.stamp now = .load id (.ok v)) :
    v.loadedAt = now := by
  unfold CacheAction.stamp at stamped
  split at stamped
  · cases stamped
    rfl
  · cases stamped
  · next other _ => exact absurd stamped (other id v)

theorem stamp_direct {id : Nat} {v : Stamped V} (stamped : action.stamp now = .direct id (.ok v)) :
    v.loadedAt = now := by
  unfold CacheAction.stamp at stamped
  split at stamped
  · cases stamped
  · cases stamped
    rfl
  · next other => exact absurd stamped (other id v)

theorem landing_stamp (s : OrdersCache (Stamped V) E) (now : Instant) :
    s.landing (action.stamp now) = s.landing action := by
  unfold CacheAction.stamp
  split <;> rfl

structure EntryDated (config : CacheConfig (Stamped V)) (ttlSeconds : CacheTtl (Stamped V) E)
    (given : Given) (entry : MemoryRead (Stamped V)) : Prop where
  until_ttl : ∀ ttl, resolveTtl ttlSeconds entry.value = .ok ttl →
    entry.freshUntil = given.since + ttl * 1000
  loaded : given.copied = false → entry.value.loadedAt = given.since
  present : given.copied = true → config.isNull entry.value = false

structure AgesKept (config : CacheConfig (Stamped V))
    (lifetime : OrdersCacheKey → CacheTtl (Stamped V) E) (p : AgedCache V E) : Prop where
  memory : ∀ process key entry, (p.cache.memory process).get key = some entry →
    ∃ given, p.given process key = some given ∧ EntryDated config (lifetime key) given entry
  redis : ∀ key found, p.cache.redisReads key = some found → ∃ since, p.landed key = some since ∧
    ∀ ttl, resolveTtl (lifetime key) found.value = .ok ttl → found.expiresAt = since + ttl * 1000
  sent : ∀ key value ttl, .read key value ttl ∈ p.cache.sent →
    resolveTtl (lifetime key) value = .ok ttl
  calls : ∀ id call, p.cache.calls id = some call →
    call.read.ttlSeconds = lifetime call.read.key ∧ call.startedAt ≤ p.cache.now
  loads : ∀ l load, p.cache.loads l = some load → load.read.ttlSeconds = lifetime load.read.key

theorem agesKept_start (now : Instant) : AgesKept config lifetime (agedStart now) where
  memory := fun _ _ _ here => by cases here
  redis := fun _ _ here => by cases here
  sent := fun _ _ _ here => by cases here
  calls := fun _ _ here => by cases here
  loads := fun _ _ here => by cases here

theorem touch_remember {s : OrdersCache (Stamped V) E} {v : Stamped V} {copied : Bool}
    (touch : s.touch config action = some (.remember process key v ttl copied)) :
    (copied = false ∧ ∃ id load, action = .load id (.ok v) ∧ s.loads id = some load ∧
      load.read.key = key ∧ resolveTtl load.read.ttlSeconds v = .ok ttl) ∨
    (copied = true ∧ ∃ id call answered, s.calls id = some call ∧ call.read.key = key ∧
      s.foundInRedis config call answered = some (v, ttl)) := by
  have onCall (i : Nat) (act : CacheAction (Stamped V) E)
      (here : (s.calls i).bind (s.continueTouch config act) =
        some (.remember process key v ttl copied)) :
      copied = true ∧ ∃ id call answered, s.calls id = some call ∧ call.read.key = key ∧
        s.foundInRedis config call answered = some (v, ttl) := by
    obtain ⟨call, known, here⟩ := Option.bind_eq_some_iff.mp here
    unfold OrdersCache.continueTouch at here
    split at here
    · next answered _ _ =>
      obtain ⟨found, hit, same⟩ := Option.map_eq_some_iff.mp here
      cases same
      exact ⟨rfl, i, call, answered, known, rfl, hit⟩
    · cases here
    · cases here
  cases action with
  | call id process read =>
    simp only [OrdersCache.touch, OrdersCache.callTouch] at touch
    split at touch
    · cases touch
    · split at touch
      · cases touch
      · split at touch <;> cases touch
  | redisRead id answered => exact .inr (onCall id _ touch)
  | proceed id => exact .inr (onCall id _ touch)
  | load id outcome =>
    obtain ⟨load, known, here⟩ := Option.bind_eq_some_iff.mp touch
    cases outcome with
    | error error => cases here
    | ok value =>
      simp only [OrdersLoad.settleTouch] at here
      split at here
      · unfold OrdersLoad.touch at here
        split at here
        · next found =>
          cases here
          exact .inl ⟨rfl, id, load, rfl, known, rfl, found⟩
        · cases here
        · cases here
      · cases here
  | _ => cases touch

/-- An entry that a touch leaves in a memory was there, or is the one that the memory is given. -/
theorem apply_get {isNull : V → Bool} {memory : Memory V} {entry : MemoryRead V}
    {touch : Option (MemoryTouch V)}
    (there : (MemoryTouch.apply isNull now memory touch process).get key = some entry) :
    (∃ v ttl copied, touch = some (.remember process key v ttl copied) ∧
      entry = rememberedRead v ttl now) ∨
    (memory process).get key = some entry ∧
      ∀ v ttl copied, touch ≠ some (.remember process key v ttl copied) := by
  cases touch with
  | none => exact .inr ⟨there, nofun⟩
  | some touch =>
    cases touch with
    | look process' key' mode =>
      refine .inr ⟨?_, nofun⟩
      dsimp only [MemoryTouch.apply] at there
      by_cases own : process = process'
      · subst own
        rw [Function.update_self] at there
        exact getMemoryValue_kept there
      · rwa [Function.update_of_ne own] at there
    | remember process' key' v ttl copied =>
      dsimp only [MemoryTouch.apply] at there
      by_cases own : process = process'
      · subst own
        rw [Function.update_self] at there
        rcases rememberMemoryValue_kept there with ⟨rfl, rfl⟩ | ⟨ne, before⟩
        · exact .inl ⟨v, ttl, copied, rfl, rfl⟩
        · refine .inr ⟨before, ?_⟩
          rintro v' ttl' copied' ⟨⟩
          exact ne rfl
      · rw [Function.update_of_ne own] at there
        refine .inr ⟨there, ?_⟩
        rintro v' ttl' copied' ⟨⟩
        exact own rfl

theorem given_remembered {v : Stamped V} {copied : Bool}
    (touch : p.cache.touch config (action.stamp p.cache.now) =
      some (.remember process key v ttl copied)) :
    (agedStep config p action).given process key = some ⟨p.cache.now, copied⟩ := by
  simp [agedStep, touch]

theorem given_kept (other : ∀ v ttl copied, p.cache.touch config (action.stamp p.cache.now) ≠
      some (.remember process key v ttl copied)) :
    (agedStep config p action).given process key = p.given process key := by
  dsimp only [agedStep]
  cases touch : p.cache.touch config (action.stamp p.cache.now) with
  | none => rfl
  | some touched =>
    cases touched with
    | look process' key' mode => rfl
    | remember process' key' v ttl copied =>
      dsimp only
      by_cases own : process = process'
      · subst own
        have ne : key ≠ key' := by
          rintro rfl
          exact other v ttl copied touch
        rw [Function.update_self, Function.update_of_ne ne]
      · rw [Function.update_of_ne own]

section
variable (kept : AgesKept config lifetime p)
include kept

theorem AgesKept.memory_step {entry : MemoryRead (Stamped V)}
    (there : ((agedStep config p action).cache.memory process).get key = some entry) :
    ∃ given, (agedStep config p action).given process key = some given ∧
      EntryDated config (lifetime key) given entry := by
  have touched : (agedStep config p action).cache.memory = _ := cacheStep_memory _
  rw [touched] at there
  rcases apply_get there with ⟨v, ttl, copied, touch, rfl⟩ | ⟨before, other⟩
  · refine ⟨_, given_remembered touch, ?_⟩
    rcases touch_remember touch with
      ⟨rfl, id, load, stamped, known, rfl, found⟩ | ⟨rfl, id, call, answered, known, rfl, hit⟩
    · rw [kept.loads id load known] at found
      refine ⟨fun ttl' resolved => ?_, fun _ => stamp_load stamped, nofun⟩
      cases found.symm.trans resolved
      rfl
    · obtain ⟨-, found, _, -, -, present, rfl⟩ := foundInRedis_eq_some.mp hit
      rw [(kept.calls id call known).1] at found
      refine ⟨fun ttl' resolved => ?_, nofun, fun _ => present⟩
      cases found.symm.trans resolved
      rfl
  · rw [given_kept other]
    exact kept.memory process key entry before

theorem AgesKept.redis_step {found : RedisRead (Stamped V)}
    (there : (agedStep config p action).cache.redisReads key = some found) :
    ∃ since, (agedStep config p action).landed key = some since ∧
      ∀ ttl, resolveTtl (lifetime key) found.value = .ok ttl →
        found.expiresAt = since + ttl * 1000 := by
  have dated := (cacheStep_dated (action.stamp p.cache.now)).reads key found there
  rw [landing_stamp] at dated
  rcases dated with ⟨elsewhere, before⟩ | ⟨here, ttl, sent, expires⟩
  · have same : (agedStep config p action).landed key = p.landed key := by
      dsimp only [agedStep]
      cases landing : p.cache.landing action with
      | none => rfl
      | some other =>
        refine Function.update_of_ne ?_ _ _
        rintro rfl
        exact elsewhere landing
    rw [same]
    exact kept.redis key found before
  · refine ⟨p.cache.now, by simp [agedStep, here], fun ttl' resolved => ?_⟩
    cases (kept.sent key found.value ttl sent).symm.trans resolved
    exact expires

theorem agedStep_kept (one : OneLifetime lifetime action) :
    AgesKept config lifetime (agedStep config p action) := by
  have effect : CacheEffect p.cache (agedStep config p action).cache (action.stamp p.cache.now) :=
    cacheStep_effect _
  have later : p.cache.now ≤ (agedStep config p action).cache.now := cacheStep_now _
  constructor
  case memory => exact fun _ _ _ there => kept.memory_step there
  case redis => exact fun _ _ there => kept.redis_step there
  case sent =>
    intro key value ttl there
    rcases (cacheStep_dated _).sent key value ttl there with before | ⟨l, load, known, rfl, found⟩
    · exact kept.sent key value ttl before
    · rwa [kept.loads l load known] at found
  case calls =>
    intro id call after
    rcases effect.origin after with ⟨asked, now⟩ | ⟨old, known, read, startedAt⟩
    · rw [eq_of_stamp asked (fun _ _ => nofun) (fun _ _ => nofun)] at one
      exact ⟨one, now.le.trans later⟩
    · obtain ⟨same, before⟩ := kept.calls id old known
      rw [read] at same
      rw [startedAt] at before
      exact ⟨same, before.trans later⟩
  case loads =>
    intro l load after
    rcases effect.load_origin after with ⟨old, known, read⟩ | ⟨call, known, read⟩
    · rw [← read]
      exact kept.loads l old known
    · rw [← read]
      exact (kept.calls l call known).1

theorem AgesKept.young {id : Nat} {call : OrdersCall (Stamped V) E} {v : Stamped V}
    (one : OneLifetime lifetime action)
    (in_time : AsksInTime config p action) (answers : Answers config p action id call v)
    (found : resolveTtl call.read.ttlSeconds v = .ok ttl) : call.Young v ttl := by
  have by_answer : AnswerBy config p.cache id call v (action.stamp p.cache.now) :=
    cacheStep_answers ⟨answers.after, answers.told, answers.unanswered⟩
  generalize stamped : action.stamp p.cache.now = stampedAction at by_answer
  cases by_answer with
  | memory entry looks there fresh value now =>
    obtain rfl := eq_of_stamp stamped (fun _ _ => nofun) (fun _ _ => nofun)
    subst value
    obtain ⟨⟨since, copied⟩, given, dated⟩ := kept.memory _ _ entry there
    have lifetime_found := found
    rw [show call.read.ttlSeconds = lifetime call.read.key from one] at lifetime_found
    have until_ttl := dated.until_ttl ttl lifetime_found
    rw [until_ttl] at fresh
    rw [OrdersCall.Young, now]
    cases copied with
    | false =>
      rw [dated.loaded rfl]
      exact Nat.le_of_lt fresh
    | true =>
      exact Nat.le_of_not_lt fun gone => in_time looks entry since ttl there given found ⟨gone, fresh⟩
  | redis old ttl' known phase hit same =>
    obtain rfl := eq_of_stamp stamped (fun _ _ => nofun) (fun _ _ => nofun)
    obtain ⟨-, -, entry, there, live, present, rfl⟩ := foundInRedis_eq_some.mp hit
    obtain ⟨since, landed, expires⟩ := kept.redis _ entry there
    rw [same.1] at found
    have lifetime_found := found
    rw [(kept.calls id old known).1] at lifetime_found
    rw [expires ttl lifetime_found] at live
    rw [OrdersCall.Young, same.2]
    exact Nat.le_of_not_lt fun gone =>
      in_time old entry since ttl known phase there present landed found ⟨gone, live⟩
  | direct old known same =>
    have time := stamp_direct stamped
    have before := (kept.calls id old known).2
    rw [OrdersCall.Young, same, time]
    exact before.trans (Nat.le_add_right ..)
  | stale =>
    have asked := eq_of_stamp stamped (fun _ _ => nofun) (fun _ _ => nofun)
    exact absurd asked answers.closed
  | finish l load old known waits there closes same =>
    obtain rfl := eq_of_stamp stamped (fun _ _ => nofun) (fun _ _ => nofun)
    rw [same.1] at found
    rw [OrdersCall.Young, same.2]
    exact Nat.le_of_not_lt (in_time load v there closes id old ttl known waits found)

/-- A call that comes too late is answered, and with a value that is too old. -/
theorem AgesKept.asksInTime (one : OneLifetime lifetime action)
    (young : HandsOutYoung config p action) : AsksInTime config p action := by
  cases action with
  | call id process read =>
    intro looks entry since ttl there given found gone
    obtain ⟨_, known, dated⟩ := kept.memory process read.key entry there
    cases given.symm.trans known
    have lifetime_found := found
    rw [show read.ttlSeconds = lifetime read.key from one] at lifetime_found
    have fresh : p.cache.now < entry.freshUntil := by
      rw [dated.until_ttl ttl lifetime_found]
      exact gone.2
    have after := looks.answers there fresh (dated.present rfl)
    exact absurd (young id _ entry.value ttl ⟨after, rfl, by simp [looks.fresh], by simp⟩ found)
      (Nat.not_le.mpr gone.1)
  | redisRead id answered =>
    cases answered with
    | false => exact trivial
    | true =>
      intro call found since ttl known phase there present landed resolved gone
      obtain ⟨_, landed', expires⟩ := kept.redis _ found there
      cases landed.symm.trans landed'
      have lifetime_found := resolved
      rw [(kept.calls id call known).1] at lifetime_found
      have live : p.cache.now < found.expiresAt := by
        rw [expires ttl lifetime_found]
        exact gone.2
      have hit := foundInRedis_eq_some.mpr ⟨rfl, resolved, found, there, live, present, rfl⟩
      have after : (agedStep config p (.redisRead id true)).cache.calls id =
          some { call with phase := .answered (.value found.value) } := by
        simp [agedStep, CacheAction.stamp, cacheStep, known, OrdersCache.continueCall, phase,
          OrdersCache.redisReadStep, hit, OrdersCache.setPhase]
      have unanswered (old : OrdersCall (Stamped V) E) (here : p.cache.calls id = some old) :
          old.phase.got = none := by
        cases known.symm.trans here
        rw [phase]
        rfl
      exact absurd (young id _ found.value ttl ⟨after, rfl, unanswered, by simp⟩ resolved)
        (Nat.not_le.mpr gone.1)
  | finish l =>
    intro load v there closes id call ttl known waits resolved gone
    have after : (agedStep config p (.finish l)).cache.calls id =
        some { call with phase := .loaded l (.value v) } := by
      simp [agedStep, CacheAction.stamp, cacheStep, there, OrdersCache.continueLoad, closes,
        OrdersCache.finishStep, known, OrdersCall.toldBy, waits, replyOf]
    have unanswered (old : OrdersCall (Stamped V) E) (here : p.cache.calls id = some old) :
        old.phase.got = none := by
      cases known.symm.trans here
      rw [waits]
      rfl
    exact absurd (young id _ v ttl ⟨after, rfl, unanswered, by simp⟩ resolved) (Nat.not_le.mpr gone)
  | _ => exact trivial

theorem handsOutYoung_iff (one : OneLifetime lifetime action) :
    HandsOutYoung config p action ↔ AsksInTime config p action :=
  ⟨kept.asksInTime one, fun in_time _ _ _ _ answers => kept.young one in_time answers⟩

end

/-- In every run values are handed out within their lifetime exactly when no call comes in the time
by which a copy in memory or a late write to Redis has made it longer, or joins a load too late. -/
theorem cached_age_iff (config : CacheConfig (Stamped V))
    (lifetime : OrdersCacheKey → CacheTtl (Stamped V) E) (now : Instant)
    (actions : List (CacheAction (Stamped V) E)) (one : ∀ a ∈ actions, OneLifetime lifetime a) :
    EachStep (agedStep config) (HandsOutYoung config) (agedStart now) actions ↔
      EachStep (agedStep config) (AsksInTime config) (agedStart now) actions :=
  eachStep_congr_of_mem (I := AgesKept config lifetime)
    (fun _ a here kept => agedStep_kept kept (one a here))
    (fun _ a here kept => handsOutYoung_iff kept (one a here)) (agesKept_start now)

end Invariant

section Copied

def twentySeconds (force : Bool) : CacheRead (Stamped Nat) Unit :=
  ⟨⟨"orders:list", "h"⟩, .fixed 20, force, fun _ => true⟩

def copyConfig : CacheConfig (Stamped Nat) := ⟨fun _ => true, fun _ => 20, fun _ => false⟩

def copyActions : List (CacheAction (Stamped Nat) Unit) :=
  [.call 1 0 (twentySeconds false), .redisRead 1 true, .circuitRead 1 true, .proceed 1,
    .load 1 (.ok ⟨7, 0⟩), .land 0, .finish 1, .tick 19000, .call 2 1 (twentySeconds false),
    .redisRead 2 true, .tick 19000]

theorem copyActions_not_young : ¬EachStep (agedStep copyConfig) (HandsOutYoung copyConfig)
    (agedStart 0) (copyActions ++ [.call 3 1 (twentySeconds false)]) := by
  intro young
  have last := young.of_concat
  generalize state : run (agedStep _) _ _ = p at last
  have unanswered : (p.cache.calls 3).isNone := by
    rw [← state]
    decide +kernel
  have told : (((agedStep copyConfig p (.call 3 1 (twentySeconds false))).cache.calls 3).map
      (fun call => (call.phase.got, call.startedAt,
        (resolveTtl call.read.ttlSeconds ⟨7, 0⟩).toOption))) =
        some (some ⟨7, 0⟩, 38000, some 20) := by
    rw [← state]
    decide +kernel
  obtain ⟨call, after, same⟩ := Option.map_eq_some_iff.mp told
  simp only [Prod.mk.injEq] at same
  obtain ⟨got, startedAt, ttl⟩ := same
  have resolved : resolveTtl call.read.ttlSeconds ⟨7, 0⟩ = .ok 20 := by
    cases found : resolveTtl call.read.ttlSeconds (⟨7, 0⟩ : Stamped Nat) with
    | error error => simp [found, Except.toOption] at ttl
    | ok seconds => simpa [found, Except.toOption] using ttl
  have before (old : OrdersCall (Stamped Nat) Unit) (known : p.cache.calls 3 = some old) :
      old.phase.got = none := by
    rw [known] at unanswered
    cases unanswered
  have fresh := last 3 call ⟨7, 0⟩ 20 ⟨after, got, before, by simp⟩ resolved
  rw [OrdersCall.Young, startedAt] at fresh
  exact absurd fresh (by decide)

theorem copyActions_one_lifetime : ∀ a ∈ copyActions ++ [.call 3 1 (twentySeconds false)],
    OneLifetime (fun _ => .fixed 20) a := by
  intro a here
  simp only [copyActions, List.cons_append, List.nil_append, List.mem_cons, List.not_mem_nil,
    or_false] at here
  rcases here with rfl | rfl | rfl | rfl | rfl | rfl | rfl | rfl | rfl | rfl | rfl | rfl <;> trivial

/-- The copy is what hands out the value after 38 seconds. -/
theorem copy_restarts_age : ¬EachStep (agedStep copyConfig) (AsksInTime copyConfig)
    (agedStart 0) (copyActions ++ [.call 3 1 (twentySeconds false)]) := fun young =>
  copyActions_not_young ((cached_age_iff copyConfig (fun _ => .fixed 20) 0 _
    copyActions_one_lifetime).mpr young)

theorem copied_value_too_old : ¬ ∀ (config : CacheConfig (Stamped Nat))
    (lifetime : OrdersCacheKey → CacheTtl (Stamped Nat) Unit) (now : Instant)
    (actions : List (CacheAction (Stamped Nat) Unit)), (∀ a ∈ actions, OneLifetime lifetime a) →
      EachStep (agedStep config) (HandsOutYoung config) (agedStart now) actions := fun always =>
  copyActions_not_young (always copyConfig (fun _ => .fixed 20) 0 _ copyActions_one_lifetime)

end Copied

end LeaderProduct
