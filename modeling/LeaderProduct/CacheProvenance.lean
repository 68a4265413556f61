import LeaderProduct.CachedAge
import LeaderProduct.InvalidatedCache

/-! Where a cached value comes from. Through the memories, Redis, the copies and the joined loads of
all processes, a call is told only what a loader has delivered for its own key. -/
namespace LeaderProduct
open InvalidatedCache (each_update of_update_none of_update_some)
open Transition

section Deliveries
variable {V E : Type} (config : CacheConfig V)

def OrdersCache.delivered (s : OrdersCache V E) : CacheAction V E → Option (OrdersCacheKey × V)
  | .load id (.ok v) => (s.loads id).bind fun load => match load.phase with
    | .running => some (load.read.key, v)
    | .closing _ => none
  | .direct id (.ok v) => (s.calls id).bind fun call => match call.phase with
    | .direct => some (call.read.key, v)
    | _ => none
  | _ => none

def deliveries : OrdersCache V E → List (CacheAction V E) → List (OrdersCacheKey × V)
  | _, [] => []
  | s, action :: rest => (s.delivered action).toList ++ deliveries (cacheStep config s action) rest

structure Sourced (P : OrdersCacheKey → V → Prop) (s : OrdersCache V E) : Prop where
  memory : ∀ process key entry, (s.memory process).get key = some entry → P key entry.value
  redis : ∀ key found, s.redisReads key = some found → P key found.value
  sent : ∀ key value ttl, RedisWrite.read key value ttl ∈ s.sent → P key value
  joined : ∀ id call l load, s.calls id = some call → call.phase = .waiting l →
    s.loads l = some load → load.read.key = call.read.key
  closing : ∀ l load v, s.loads l = some load → load.phase = .closing (.ok v) → P load.read.key v
  told : ∀ id call v, s.calls id = some call → call.phase.got = some v → P call.read.key v

end Deliveries

section Steps
variable {V E : Type} {config : CacheConfig V} {P : OrdersCacheKey → V → Prop} {s : OrdersCache V E}

section
variable (sourced : Sourced P s)
include sourced

theorem Sourced.mono {P' : OrdersCacheKey → V → Prop}
    (weaken : ∀ key v, P key v → P' key v) : Sourced P' s where
  memory process key entry there := weaken _ _ (sourced.memory process key entry there)
  redis key found there := weaken _ _ (sourced.redis key found there)
  sent key value ttl there := weaken _ _ (sourced.sent key value ttl there)
  joined := sourced.joined
  closing l load v there closes := weaken _ _ (sourced.closing l load v there closes)
  told id call v there got := weaken _ _ (sourced.told id call v there got)

theorem Sourced.setProcess {process : Nat} {p : ReaderProcess V}
    (kept : ∀ key entry, p.memoryReads.get key = some entry → P key entry.value) :
    Sourced P (s.setProcess process p) where
  memory := by
    intro other key entry there
    by_cases same : other = process
    · subst same
      simp only [OrdersCache.memory, OrdersCache.setProcess, Function.update_self] at there
      exact kept key entry there
    · simp only [OrdersCache.memory, OrdersCache.setProcess, Function.update_of_ne same] at there
      exact sourced.memory other key entry there
  redis := sourced.redis
  sent := sourced.sent
  joined := sourced.joined
  closing := sourced.closing
  told := sourced.told

theorem Sourced.setPhase {id : Nat} {call : OrdersCall V E}
    {phase : CallPhase V E} (told : ∀ v, phase.got = some v → P call.read.key v)
    (joins : ∀ l load, phase = .waiting l → s.loads l = some load →
      load.read.key = call.read.key) : Sourced P (s.setPhase id call phase) where
  memory := sourced.memory
  redis := sourced.redis
  sent := sourced.sent
  closing := sourced.closing
  joined := by
    intro other after l load there waits known
    rcases of_update_some there with ⟨-, rfl⟩ | ⟨-, before⟩
    · exact joins l load waits known
    · exact sourced.joined other after l load before waits known
  told := by
    intro other after v there got
    rcases of_update_some there with ⟨-, rfl⟩ | ⟨-, before⟩
    · exact told v got
    · exact sourced.told other after v before got

theorem Sourced.quiet {id : Nat} {call : OrdersCall V E}
    {phase : CallPhase V E} (silent : phase.got = none) (alone : phase.Alone) :
    Sourced P (s.setPhase id call phase) :=
  sourced.setPhase (fun v got => by rw [silent] at got; cases got)
    fun l _ waits => absurd waits (alone.not_waiting l)

theorem Sourced.looked (process : Nat) (key : OrdersCacheKey)
    (mode : LookupMode) : Sourced P (s.setReads process
      (getMemoryValue config.isNull (s.processes process).memoryReads key mode s.now).2) :=
  sourced.setProcess fun _ _ there => sourced.memory process _ _ (getMemoryValue_kept there)

theorem Sourced.memory_value {process : Nat} {key : OrdersCacheKey} {mode : LookupMode} {v : V}
    (found : (getMemoryValue config.isNull (s.processes process).memoryReads key mode s.now).1 =
      some v) : P key v := by
  obtain ⟨entry, there, -, -, rfl⟩ := getMemoryValue_eq_some.mp found
  exact sourced.memory process key entry there

theorem Sourced.remember (process : Nat) {key : OrdersCacheKey} {value : V}
    (own : P key value) (ttl : Nat) : Sourced P (s.remember process key value ttl) := by
  refine sourced.setProcess fun other entry there => ?_
  rcases rememberMemoryValue_kept there with ⟨rfl, rfl⟩ | ⟨-, before⟩
  · exact own
  · exact sourced.memory process other entry before

theorem Sourced.askCircuit (id : Nat) (call : OrdersCall V E) :
    Sourced P (s.askCircuit id call) := by
  unfold OrdersCache.askCircuit
  dsimp only
  split
  · exact sourced.quiet rfl trivial
  · split
    · exact sourced.quiet rfl trivial
    · have forgot : Sourced P (s.setProcess call.process { s.processes call.process with
          memoryCircuit := Function.update (s.processes call.process).memoryCircuit
            call.read.key.scope none }) :=
        sourced.setProcess fun key entry there => sourced.memory call.process key entry there
      exact forgot.quiet rfl trivial

theorem Sourced.callStep (id process : Nat) (read : CacheRead V E) :
    Sourced P (s.callStep config id process read) := by
  unfold OrdersCache.callStep
  dsimp only
  split
  · exact sourced
  · split
    · exact sourced.quiet rfl trivial
    · split
      · exact sourced.askCircuit ..
      · refine (sourced.looked process read.key .fresh).setPhase (fun v got => ?_)
          fun l load waits => ?_
        · split at got
          · next found =>
            cases got
            exact sourced.memory_value found
          · cases got
        · split at waits <;> cases waits

theorem Sourced.redisReadStep (id : Nat) (call : OrdersCall V E)
    (answered : Bool) : Sourced P (s.redisReadStep config id call answered) := by
  unfold OrdersCache.redisReadStep
  split
  · next value ttl found =>
    obtain ⟨-, -, entry, there, -, -, same⟩ := foundInRedis_eq_some.mp found
    have own : P call.read.key value := by
      have kept := sourced.redis _ entry there
      rwa [same] at kept
    exact (sourced.remember call.process own ttl).setPhase
      (fun v got => by cases got; exact own) nofun
  · exact sourced.askCircuit ..

theorem Sourced.loadStep (reg : Registered s) {id : Nat}
    {call : OrdersCall V E} (known : s.calls id = some call) (alone : call.phase.Alone) :
    Sourced P (s.loadStep id call) := by
  unfold OrdersCache.loadStep
  dsimp only
  split
  · next l there =>
    obtain ⟨load, here, -, key⟩ := reg.live _ _ l there
    refine sourced.setPhase nofun fun l' load' waits known' => ?_
    cases waits
    cases here.symm.trans known'
    exact key
  · have unloaded : s.loads id = none := by
      cases here : s.loads id with
      | none => rfl
      | some load =>
        obtain ⟨first, found, waits⟩ := reg.started id load here
        cases known.symm.trans found
        exact absurd waits (alone.not_waiting id)
    have registered : Sourced P (s.setProcess call.process { s.processes call.process with
        pendingReads := Function.update (s.processes call.process).pendingReads call.read.key
          (some id) }) :=
      sourced.setProcess fun key entry there => sourced.memory call.process key entry there
    have entered : Sourced P ((s.setProcess call.process { s.processes call.process with
        pendingReads := Function.update (s.processes call.process).pendingReads call.read.key
          (some id) }).setPhase id call (.waiting id)) := by
      refine registered.setPhase (fun v got => by cases got) fun l load waits there => ?_
      cases waits
      cases unloaded.symm.trans there
    refine ⟨entered.memory, entered.redis, entered.sent, ?_, ?_, entered.told⟩
    · intro other after l load there waits loaded
      rcases of_update_some loaded with ⟨rfl, rfl⟩ | ⟨-, before⟩
      · rcases of_update_some there with ⟨-, rfl⟩ | ⟨-, waiting⟩
        · rfl
        · have somewhere := reg.waiting other after l waiting waits
          rw [unloaded] at somewhere
          cases somewhere
      · exact entered.joined other after l load there waits before
    · intro l load v loaded closes
      rcases of_update_some loaded with ⟨-, rfl⟩ | ⟨-, before⟩
      · cases closes
      · exact entered.closing l load v before closes

theorem Sourced.send {write : RedisWrite V}
    (own : ∀ key value ttl, write = .read key value ttl → P key value) :
    Sourced P (s.send write) where
  memory := sourced.memory
  redis := sourced.redis
  joined := sourced.joined
  closing := sourced.closing
  told := sourced.told
  sent := by
    intro key value ttl there
    rcases List.mem_append.mp there with old | new
    · exact sourced.sent key value ttl old
    · exact own key value ttl (List.mem_singleton.mp new).symm

theorem Sourced.setLoad {id : Nat} {load : OrdersLoad V E}
    (known : s.loads id = some load) {outcome : Except E V}
    (own : ∀ v, outcome = .ok v → P load.read.key v) : Sourced P (s.setLoad id load outcome) where
  memory := sourced.memory
  redis := sourced.redis
  sent := sourced.sent
  told := sourced.told
  joined := by
    intro other call l after there waits loaded
    rcases of_update_some loaded with ⟨rfl, rfl⟩ | ⟨-, before⟩
    · exact sourced.joined other call l load there waits known
    · exact sourced.joined other call l after there waits before
  closing := by
    intro l after v loaded closes
    rcases of_update_some loaded with ⟨-, rfl⟩ | ⟨-, before⟩
    · cases closes
      exact own v rfl
    · exact sourced.closing l after v before closes

theorem Sourced.rejectStep {id : Nat} {load : OrdersLoad V E}
    (known : s.loads id = some load) (error : E) : Sourced P (s.rejectStep config id load error) := by
  unfold OrdersCache.rejectStep
  dsimp only
  split
  · have marked : Sourced P
        (s.markClientOrdersOnecCircuitOpen config load.process load.read.key.scope) := by
      refine Sourced.send (sourced.setProcess ?_) fun key value ttl same => by cases same
      exact fun key entry there => sourced.memory load.process key entry there
    exact marked.setLoad known nofun
  · exact sourced.setLoad known nofun

theorem Sourced.settleStep {id : Nat} {load : OrdersLoad V E}
    (known : s.loads id = some load) {outcome : Except E V}
    (own : ∀ v, outcome = .ok v → P load.read.key v) :
    Sourced P (s.settleStep config id load outcome) := by
  cases outcome with
  | error error => exact sourced.rejectStep known error
  | ok value =>
    unfold OrdersCache.settleStep
    dsimp only
    split
    · exact sourced.rejectStep known _
    · exact sourced.setLoad known own
    · next ttl _ =>
      have sent : Sourced P ((s.remember load.process load.read.key value (ttl + 1)).send
          (.read load.read.key value (ttl + 1))) := by
        refine (sourced.remember load.process (own value rfl) (ttl + 1)).send
          fun key v life same => ?_
        cases same
        exact own value rfl
      exact sent.setLoad known own

theorem Sourced.finishStep {id : Nat} {load : OrdersLoad V E}
    {outcome : Except E V} (known : s.loads id = some load) (closes : load.phase = .closing outcome) :
    Sourced P (s.finishStep id load outcome) where
  memory := by
    have left : Sourced P (s.setProcess load.process { s.processes load.process with
        pendingReads := Function.update (s.processes load.process).pendingReads load.read.key none }) :=
      sourced.setProcess fun key entry there => sourced.memory load.process key entry there
    exact left.memory
  redis := sourced.redis
  sent := sourced.sent
  joined := by
    intro other call l after there waits loaded
    obtain ⟨old, found, rfl⟩ := Option.map_eq_some_iff.mp there
    have before := toldBy_waiting waits
    rw [(toldBy_read id (replyOf outcome) old).1]
    exact sourced.joined other old l after found before.1 (of_update_none loaded).2
  closing := by
    intro l after v loaded closed
    exact sourced.closing l after v (of_update_none loaded).2 closed
  told := by
    intro other call v there got
    obtain ⟨old, found, rfl⟩ := Option.map_eq_some_iff.mp there
    rw [(toldBy_read id (replyOf outcome) old).1]
    unfold OrdersCall.toldBy at got
    split at got
    · next joined waits =>
      split at got
      · next same =>
        subst same
        cases outcome with
        | error error => cases got
        | ok value =>
          cases got
          rw [← sourced.joined other old joined load found waits known]
          exact sourced.closing joined load v known closes
      · exact sourced.told other old v found got
    · exact sourced.told other old v found got

end

end Steps

section Runs
variable {V E : Type} {config : CacheConfig V} {P : OrdersCacheKey → V → Prop} {s : OrdersCache V E}

theorem Sourced.landStep (sourced : Sourced P s) (position : Nat) : Sourced P (s.landStep position) := by
  unfold OrdersCache.landStep
  split
  · exact sourced
  · next write there =>
    have left (key : OrdersCacheKey) (value : V) (ttl : Nat)
        (still : RedisWrite.read key value ttl ∈ s.sent.eraseIdx position) : P key value :=
      sourced.sent key value ttl (List.eraseIdx_subset still)
    cases write with
    | circuit scope ttl =>
      exact ⟨sourced.memory, sourced.redis, left, sourced.joined, sourced.closing, sourced.told⟩
    | read key value ttl =>
      have own : P key value := sourced.sent key value ttl (List.mem_of_getElem? there)
      exact ⟨sourced.memory, each_update sourced.redis own, left, sourced.joined, sourced.closing,
        sourced.told⟩

theorem Sourced.continueCall (sourced : Sourced P s) (reg : Registered s) {id : Nat}
    {call : OrdersCall V E} (known : s.calls id = some call) {action : CacheAction V E}
    (own : ∀ v, action = .direct id (.ok v) → call.phase = .direct → P call.read.key v)
    (names : action.callId = some id) : Sourced P (s.continueCall config id action call) := by
  unfold OrdersCache.continueCall
  split
  · next i outcome direct =>
    obtain rfl : i = id := Option.some.inj names
    refine sourced.setPhase (fun v got => ?_) nofun
    cases outcome with
    | error error => cases got
    | ok value =>
      cases got
      exact own v rfl direct
  · exact sourced.redisReadStep ..
  · exact sourced.quiet rfl trivial
  · refine (sourced.looked call.process call.read.key .stale).setPhase (fun v got => ?_)
      fun l load waits => ?_
    · split at got
      · next found =>
        cases got
        exact sourced.memory_value found
      · cases got
    · split at waits <;> cases waits
  · next closed => exact sourced.loadStep reg known (by rw [closed]; trivial)
  · exact sourced

/-- If what a loader delivers in the step is as `P` asks, so is all after it. -/
theorem cacheStep_sourced (sourced : Sourced P s) (reg : Registered s) {action : CacheAction V E}
    (fresh : ∀ key v, s.delivered action = some (key, v) → P key v) :
    Sourced P (cacheStep config s action) := by
  have onCall (id : Nat) (act : CacheAction V E) (same : act = action)
      (names : act.callId = some id) :
      Sourced P ((s.calls id).elim s (s.continueCall config id act)) := by
    subst same
    refine elim_rule sourced fun call known => sourced.continueCall reg known ?_ names
    rintro v rfl direct
    exact fresh _ _ (by simp [OrdersCache.delivered, known, direct])
  cases action with
  | call id process read => exact sourced.callStep id process read
  | direct id outcome => exact onCall id _ rfl rfl
  | redisRead id answered => exact onCall id _ rfl rfl
  | circuitRead id answered => exact onCall id _ rfl rfl
  | proceed id => exact onCall id _ rfl rfl
  | load id outcome =>
    refine elim_rule sourced fun load known => ?_
    dsimp only [OrdersCache.continueLoad]
    cases running : load.phase with
    | running =>
      refine sourced.settleStep known ?_
      rintro v rfl
      exact fresh _ _ (by simp [OrdersCache.delivered, known, running])
    | closing _ => exact sourced
  | finish id =>
    refine elim_rule sourced fun load known => ?_
    dsimp only [OrdersCache.continueLoad]
    cases closes : load.phase with
    | running => exact sourced
    | closing outcome => exact sourced.finishStep known closes
  | land position => exact sourced.landStep position
  | tick milliseconds =>
    exact ⟨sourced.memory, sourced.redis, sourced.sent, sourced.joined, sourced.closing, sourced.told⟩
  | forgetRead key =>
    refine ⟨sourced.memory, fun other found here => ?_, sourced.sent, sourced.joined,
      sourced.closing, sourced.told⟩
    dsimp only [cacheStep] at here
    by_cases same : other = key
    · subst same
      rw [Function.update_self] at here
      cases here
    · rw [Function.update_of_ne same] at here
      exact sourced.redis other found here
  | forgetCircuit scope =>
    exact ⟨sourced.memory, sourced.redis, sourced.sent, sourced.joined, sourced.closing, sourced.told⟩
  | clearClientOrdersOnecCircuit process scope =>
    exact sourced.setProcess fun key entry there => sourced.memory process key entry there

theorem sourced_start (P : OrdersCacheKey → V → Prop) (now : Instant) :
    Sourced P (OrdersCache.start now : OrdersCache V E) where
  memory := nofun
  redis := nofun
  sent := nofun
  joined := nofun
  closing := nofun
  told := nofun

theorem sourced_run (reg : Registered s) (sourced : Sourced P s) {actions : List (CacheAction V E)}
    (each : ∀ key v, (key, v) ∈ deliveries config s actions → P key v) :
    Sourced P (run (cacheStep config) s actions) := by
  induction actions generalizing s with
  | nil => exact sourced
  | cons action rest ih =>
    simp only [deliveries, List.mem_append] at each
    refine ih (cacheStep_registered reg action) (cacheStep_sourced sourced reg fun key v here => ?_)
      fun key v later => each key v (.inr later)
    exact each key v (.inl (by simp [here]))

/-- Whatever the processes, the circuit and Redis do, and whichever loads are joined: a value that a
call has got was delivered by a loader that ran for the very key of the call. -/
theorem told_own_deliveries (config : CacheConfig V) (now : Instant)
    (actions : List (CacheAction V E)) (id : Nat) (call : OrdersCall V E) (v : V)
    (known : (run (cacheStep config) (OrdersCache.start now) actions).calls id = some call)
    (got : call.phase.got = some v) :
    (call.read.key, v) ∈ deliveries config (OrdersCache.start now : OrdersCache V E) actions :=
  (sourced_run (registered_start now) (sourced_start _ now)
    (P := fun key v => (key, v) ∈ deliveries config (OrdersCache.start now) actions)
      fun _ _ here => here).told id call v known got

/-- The copy that another process has got from Redis. -/
theorem copy_delivered : (⟨"orders:list", "h"⟩, ⟨7, 0⟩) ∈
    deliveries copyConfig (OrdersCache.start 0 : OrdersCache (Stamped Nat) Unit) copyActions :=
  told_own_deliveries copyConfig 0 copyActions 2
    ⟨1, twentySeconds false, 19000, .answered (.value ⟨7, 0⟩)⟩ ⟨7, 0⟩ rfl rfl

end Runs

end LeaderProduct
