import Mathlib.Data.Rat.Floor
import Mathlib.Logic.Function.Basic
import LeaderProduct.InsertionMap
import LeaderProduct.Order

/-! The reads of 1C through two caches, the memory of a process and Redis, which the processes
share. -/
namespace LeaderProduct

section Data
variable (V E : Type)

structure OrdersCacheKey where
  scope : String
  hash : String
  deriving DecidableEq, Repr

inductive CacheTtl where
  | fixed (seconds : Rat)
  | ofValue (seconds : V → Except E Rat)

structure CacheRead where
  key : OrdersCacheKey
  ttlSeconds : CacheTtl V E
  forceRefresh : Bool
  shouldOpenCircuit : E → Bool

inductive CacheReply where
  | value (value : V)
  | failed (error : E)
  | circuitOpen
  deriving DecidableEq

/-- Where a call is: `direct` waits for its own loader without any cache, `circuitKnown` has been
told whether the circuit is open and is about to go on. -/
inductive CallPhase where
  | direct
  | redisRead
  | circuitRead
  | circuitKnown (isOpen : Bool)
  | waiting (load : Nat)
  | loaded (load : Nat) (reply : CacheReply V E)
  | answered (reply : CacheReply V E)
  deriving DecidableEq

/-- `startedAt` is not in the source: the time of the call. -/
structure OrdersCall where
  process : Nat
  read : CacheRead V E
  startedAt : Instant
  phase : CallPhase V E

/-- A load runs its loader; once that has settled, it is closing: it writes to Redis and is still
registered. -/
inductive LoadPhase where
  | running
  | closing (outcome : Except E V)

structure OrdersLoad where
  process : Nat
  read : CacheRead V E
  phase : LoadPhase V E

structure MemoryRead where
  value : V
  freshUntil : Instant
  staleUntil : Instant
  deriving DecidableEq, Repr

abbrev MemoryReads := InsertionMap OrdersCacheKey (MemoryRead V)

structure ReaderProcess where
  pendingReads : OrdersCacheKey → Option Nat
  memoryCircuit : String → Option Instant
  memoryReads : MemoryReads V

inductive RedisWrite where
  | read (key : OrdersCacheKey) (value : V) (ttl : Nat)
  | circuit (scope : String) (ttl : Nat)

structure RedisRead where
  value : V
  expiresAt : Instant

structure OrdersCache where
  now : Instant
  processes : Nat → ReaderProcess V
  redisReads : OrdersCacheKey → Option (RedisRead V)
  redisCircuits : String → Option Instant
  sent : List (RedisWrite V)
  calls : Nat → Option (OrdersCall V E)
  loads : Nat → Option (OrdersLoad V E)

/-- `isNull` tells the loaded values that the source takes for no value. -/
structure CacheConfig where
  cacheEnabled : Nat → Bool
  onecCircuitTtlSeconds : Nat → Nat
  isNull : V → Bool

inductive CacheAction where
  | tick (milliseconds : Nat)
  | call (id process : Nat) (read : CacheRead V E)
  | direct (id : Nat) (outcome : Except E V)
  | redisRead (id : Nat) (answered : Bool)
  | circuitRead (id : Nat) (answered : Bool)
  | proceed (id : Nat)
  | load (id : Nat) (outcome : Except E V)
  | finish (id : Nat)
  | land (position : Nat)
  | forgetRead (key : OrdersCacheKey)
  | forgetCircuit (scope : String)
  | clearClientOrdersOnecCircuit (process : Nat) (scope : String)

end Data

section Process
variable {V E : Type}

def maxMemoryCacheEntries : Nat := 750

def resolveTtl (ttlSeconds : CacheTtl V E) (value : V) : Except E Nat :=
  match ttlSeconds with
  | .fixed seconds => .ok ⌊seconds⌋.toNat
  | .ofValue seconds => (seconds value).map (fun seconds => ⌊seconds⌋.toNat)

inductive LookupMode where
  | fresh | stale

def MemoryRead.expiresAt (entry : MemoryRead V) : LookupMode → Instant
  | .fresh => entry.freshUntil
  | .stale => entry.staleUntil

/-- The value, if it is there and not null, and what the lookup leaves: an entry that has expired
for the mode is deleted, in the fresh mode too. -/
def getMemoryValue (isNull : V → Bool) (reads : MemoryReads V) (key : OrdersCacheKey)
    (mode : LookupMode) (now : Instant) : Option V × MemoryReads V :=
  match reads.get key with
  | none => (none, reads)
  | some entry =>
    if entry.expiresAt mode ≤ now then (none, reads.erase key)
    else (if isNull entry.value then none else some entry.value, reads)

def rememberedRead (value : V) (ttlSeconds : Nat) (now : Instant) : MemoryRead V where
  value := value
  freshUntil := now + ttlSeconds * 1000
  staleUntil := now + max (ttlSeconds * 1000 * 3) (ttlSeconds * 1000 + 60000)

def evictedKey (reads : MemoryReads V) : Option OrdersCacheKey :=
  if maxMemoryCacheEntries ≤ reads.size then reads.firstKey else none

def evict (reads : MemoryReads V) : MemoryReads V :=
  match evictedKey reads with
  | some first => reads.erase first
  | none => reads

def rememberMemoryValue (reads : MemoryReads V) (key : OrdersCacheKey) (value : V)
    (ttlSeconds : Nat) (now : Instant) : MemoryReads V :=
  (evict reads).set key (rememberedRead value ttlSeconds now)

end Process

section Steps
variable {V E : Type} (config : CacheConfig V) (s : OrdersCache V E)

def OrdersCache.setProcess (process : Nat) (p : ReaderProcess V) : OrdersCache V E :=
  { s with processes := Function.update s.processes process p }

def OrdersCache.setReads (process : Nat) (reads : MemoryReads V) : OrdersCache V E :=
  s.setProcess process { s.processes process with memoryReads := reads }

def OrdersCache.setPhase (id : Nat) (call : OrdersCall V E) (phase : CallPhase V E) :
    OrdersCache V E :=
  { s with calls := Function.update s.calls id (some { call with phase := phase }) }

def CacheRead.bypasses (read : CacheRead V E) (process : Nat) : Bool :=
  !config.cacheEnabled process || match read.ttlSeconds with
    | .fixed seconds => decide (seconds ≤ 0)
    | .ofValue _ => false

def OrdersCache.askCircuit (id : Nat) (call : OrdersCall V E) : OrdersCache V E :=
  let p := s.processes call.process
  let scope := call.read.key.scope
  match p.memoryCircuit scope with
  | none => s.setPhase id call .circuitRead
  | some memoryUntil =>
    if s.now < memoryUntil then s.setPhase id call (.circuitKnown true)
    else (s.setProcess call.process
      { p with memoryCircuit := Function.update p.memoryCircuit scope none }).setPhase id call
        .circuitRead

def OrdersCache.callStep (id process : Nat) (read : CacheRead V E) : OrdersCache V E :=
  let call : OrdersCall V E := ⟨process, read, s.now, .direct⟩
  if (s.calls id).isSome then s
  else if read.bypasses config process then s.setPhase id call .direct
  else if read.forceRefresh then s.askCircuit id call
  else
    let looked := getMemoryValue config.isNull (s.processes process).memoryReads read.key .fresh s.now
    (s.setReads process looked.2).setPhase id call (match looked.1 with
      | some value => .answered (.value value)
      | none => .redisRead)

def OrdersCache.redisValue (key : OrdersCacheKey) : Option V :=
  ((s.redisReads key).filter (fun found => decide (s.now < found.expiresAt) &&
    !config.isNull found.value)).map (·.value)

def OrdersCache.foundInRedis (call : OrdersCall V E) (answered : Bool) : Option (V × Nat) :=
  if answered then
    (s.redisValue config call.read.key).bind (fun value =>
      match resolveTtl call.read.ttlSeconds value with
      | .ok ttl => some (value, ttl)
      | .error _ => none)
  else none

def OrdersCache.remember (process : Nat) (key : OrdersCacheKey) (value : V) (ttl : Nat) :
    OrdersCache V E :=
  s.setReads process (rememberMemoryValue (s.processes process).memoryReads key value ttl s.now)

def OrdersCache.redisReadStep (id : Nat) (call : OrdersCall V E) (answered : Bool) :
    OrdersCache V E :=
  match s.foundInRedis config call answered with
  | some (value, ttl) =>
    (s.remember call.process call.read.key value ttl).setPhase id call (.answered (.value value))
  | none => s.askCircuit id call

def OrdersCache.circuitReadStep (id : Nat) (call : OrdersCall V E) (answered : Bool) :
    OrdersCache V E :=
  s.setPhase id call (.circuitKnown
    (answered && (s.redisCircuits call.read.key.scope).any (fun openUntil => decide (s.now < openUntil))))

def OrdersCache.staleStep (id : Nat) (call : OrdersCall V E) : OrdersCache V E :=
  let looked := getMemoryValue config.isNull (s.processes call.process).memoryReads call.read.key
    .stale s.now
  (s.setReads call.process looked.2).setPhase id call (match looked.1 with
    | some value => .answered (.value value)
    | none => .answered .circuitOpen)

def OrdersCache.loadStep (id : Nat) (call : OrdersCall V E) : OrdersCache V E :=
  let p := s.processes call.process
  match p.pendingReads call.read.key with
  | some load => s.setPhase id call (.waiting load)
  | none =>
    { (s.setProcess call.process
        { p with pendingReads := Function.update p.pendingReads call.read.key (some id) }).setPhase
          id call (.waiting id) with
      loads := Function.update s.loads id (some ⟨call.process, call.read, .running⟩) }

def OrdersCache.setLoad (id : Nat) (load : OrdersLoad V E) (outcome : Except E V) :
    OrdersCache V E :=
  { s with loads := Function.update s.loads id (some { load with phase := .closing outcome }) }

def OrdersCache.send (write : RedisWrite V) : OrdersCache V E := { s with sent := s.sent ++ [write] }

def OrdersCache.markClientOrdersOnecCircuitOpen (process : Nat) (scope : String) :
    OrdersCache V E :=
  let p := s.processes process
  let ttl := config.onecCircuitTtlSeconds process
  (s.setProcess process
    { p with memoryCircuit := Function.update p.memoryCircuit scope (some (s.now + ttl * 1000)) }).send
      (.circuit scope ttl)

def OrdersCache.rejectStep (id : Nat) (load : OrdersLoad V E) (error : E) : OrdersCache V E :=
  let marked := if load.read.shouldOpenCircuit error
    then s.markClientOrdersOnecCircuitOpen config load.process load.read.key.scope else s
  marked.setLoad id load (.error error)

/-- The loader has settled. A value whose lifetime cannot be found counts as a failure. -/
def OrdersCache.settleStep (id : Nat) (load : OrdersLoad V E) :
    Except E V → OrdersCache V E
  | .error error => s.rejectStep config id load error
  | .ok value =>
    match resolveTtl load.read.ttlSeconds value with
    | .error error => s.rejectStep config id load error
    | .ok 0 => s.setLoad id load (.ok value)
    | .ok (ttl + 1) =>
      ((s.remember load.process load.read.key value (ttl + 1)).send
        (.read load.read.key value (ttl + 1))).setLoad id load (.ok value)

def replyOf : Except E V → CacheReply V E
  | .ok value => .value value
  | .error error => .failed error

def OrdersCall.toldBy (load : Nat) (reply : CacheReply V E) (call : OrdersCall V E) :
    OrdersCall V E :=
  match call.phase with
  | .waiting joined => if joined = load then { call with phase := .loaded load reply } else call
  | _ => call

def OrdersCache.finishStep (id : Nat) (load : OrdersLoad V E) (outcome : Except E V) :
    OrdersCache V E :=
  let p := s.processes load.process
  { s.setProcess load.process
      { p with pendingReads := Function.update p.pendingReads load.read.key none } with
    calls := fun other => (s.calls other).map (OrdersCall.toldBy id (replyOf outcome))
    loads := Function.update s.loads id none }

def OrdersCache.carryOut : RedisWrite V → OrdersCache V E
  | .read key value ttl =>
    { s with redisReads := Function.update s.redisReads key (some ⟨value, s.now + ttl * 1000⟩) }
  | .circuit scope ttl =>
    { s with redisCircuits := Function.update s.redisCircuits scope (some (s.now + ttl * 1000)) }

def OrdersCache.landStep (position : Nat) : OrdersCache V E :=
  match s.sent[position]? with
  | none => s
  | some write => { s.carryOut write with sent := s.sent.eraseIdx position }

def OrdersCache.continueCall (id : Nat) (action : CacheAction V E) (call : OrdersCall V E) :
    OrdersCache V E :=
  match action, call.phase with
  | .direct _ outcome, .direct => s.setPhase id call (.answered (replyOf outcome))
  | .redisRead _ answered, .redisRead => s.redisReadStep config id call answered
  | .circuitRead _ answered, .circuitRead => s.circuitReadStep id call answered
  | .proceed _, .circuitKnown true => s.staleStep config id call
  | .proceed _, .circuitKnown false => s.loadStep id call
  | _, _ => s

def OrdersCache.continueLoad (id : Nat) (action : CacheAction V E) (load : OrdersLoad V E) :
    OrdersCache V E :=
  match action, load.phase with
  | .load _ outcome, .running => s.settleStep config id load outcome
  | .finish _, .closing outcome => s.finishStep id load outcome
  | _, _ => s

/-- What holds where there is nothing, and after what is there has gone on, holds after the step. -/
theorem elim_rule {A B : Type} {P : B → Prop} {there : Option A} {same : B} {onward : A → B}
    (nothing : P same) (goes_on : ∀ a, there = some a → P (onward a)) :
    P (there.elim same onward) := by
  cases there with
  | none => exact nothing
  | some a => exact goes_on a rfl

def cacheStep (s : OrdersCache V E) (action : CacheAction V E) : OrdersCache V E :=
  match action with
  | .tick milliseconds => { s with now := s.now + milliseconds }
  | .call id process read => s.callStep config id process read
  | .direct id _ | .redisRead id _ | .circuitRead id _ | .proceed id =>
    (s.calls id).elim s (s.continueCall config id action)
  | .load id _ | .finish id => (s.loads id).elim s (s.continueLoad config id action)
  | .land position => s.landStep position
  | .forgetRead key => { s with redisReads := Function.update s.redisReads key none }
  | .forgetCircuit scope => { s with redisCircuits := Function.update s.redisCircuits scope none }
  | .clearClientOrdersOnecCircuit process scope =>
    let p := s.processes process
    s.setProcess process { p with memoryCircuit := Function.update p.memoryCircuit scope none }

def OrdersCache.start (now : Instant) : OrdersCache V E where
  now := now
  processes _ := ⟨fun _ => none, fun _ => none, .empty⟩
  redisReads _ := none
  redisCircuits _ := none
  sent := []
  calls _ := none
  loads _ := none

end Steps

end LeaderProduct
