import LeaderProduct.CacheProvenance
import LeaderProduct.JsString

/-! The summary of a manager's day. It is read from 1C through the caches of the client orders.
Beside them every process, and Redis for all of them, keep the last summaries that were fresh, to be
shown, marked as stale, when 1C fails. A manager may force a reading: one at a time, and one in ten
seconds. -/
namespace LeaderProduct
open Transition

section Model
variable (T X E : Type)

structure SummaryPayload where
  managerGuid : String
  date : String
  deriving DecidableEq, Repr

structure TodaySummaryEntry where
  value : T
  fetchedAt : Instant

inductive CachedRead where
  | todaySummary (entry : TodaySummaryEntry T)
  | other (value : X)

inductive SummaryError where
  | noManagerGuid
  | onec (error : E)
  | circuitOpen

/-- The times are not in the source: when 1C gave the summary, and when it was told stale or not. -/
inductive SummaryReply where
  | summary (value : T) (stale : Bool) (fetchedAt judgedAt : Instant)
  | failed (error : SummaryError E)

/-- Where an ask is: it waits for the GUID of the manager, for its reading, for the forced reading
of another ask, until a fresh summary is kept in Redis, or for what Redis has kept. `manual` tells
that it is the task of a forced reading. -/
inductive SummaryPhase where
  | manager (forceRefresh : Bool)
  | reading (payload : SummaryPayload) (manual : Bool) (call : Nat)
  | joined (payload : SummaryPayload) (task : Nat)
  | persisting (payload : SummaryPayload) (manual : Bool) (entry : TodaySummaryEntry T)
      (judgedAt : Instant)
  | staleRead (payload : SummaryPayload) (manual : Bool) (error : SummaryError E)
  | answered (payload : Option SummaryPayload) (reply : SummaryReply T E)

structure SummaryAsk where
  process : Nat
  askedAt : Instant
  onecUserGuid : Option String
  phase : SummaryPhase T E

structure SummaryProcess where
  memory : InsertionMap String (TodaySummaryEntry T)
  manualRefreshAt : SummaryPayload → Option Instant
  manualRefreshes : SummaryPayload → Option Nat

structure SummaryDesk where
  cache : OrdersCache (CachedRead T X) E
  processes : Nat → SummaryProcess T
  redis : String → Option (TodaySummaryEntry T × Instant)
  asks : Nat → Option (SummaryAsk T E)
  log : List (String × TodaySummaryEntry T)
  manualStarts : List (Nat × SummaryPayload × Instant)

structure SummaryConfig where
  cache : CacheConfig (CachedRead T X)
  omskDate : Instant → String
  hash : SummaryPayload → String
  shouldOpenClientOrdersOnecCircuit : E → Bool

inductive SummaryEvent where
  | cache (action : CacheAction (CachedRead T X) E)
  | live (call : Nat) (outcome : Except E T)
  | ask (id process : Nat) (forceRefresh : Bool)
  | manager (id call : Nat) (onecUserGuid : Option String)
  | resume (id : Nat)
  | persisted (id : Nat) (landed : Bool)
  | staleRead (id : Nat) (answered : Bool)
  | forgetStale (hash : String)

end Model

section Steps
variable {T X E : Type} (config : SummaryConfig T X E) (s : SummaryDesk T X E)

def todaySummaryTtl : Nat := 30
def todaySummaryStaleTtlSeconds : Nat := 15 * 60
def todaySummaryManualCooldownMs : Nat := 10000
def todaySummaryScope : String := "today-summary"

def SummaryConfig.key (payload : SummaryPayload) : OrdersCacheKey :=
  ⟨todaySummaryScope, config.hash payload⟩

def TodaySummaryEntry.isUsable (entry : TodaySummaryEntry T) (now : Instant) : Bool :=
  now - entry.fetchedAt ≤ todaySummaryStaleTtlSeconds * 1000

def TodaySummaryEntry.isStale (entry : TodaySummaryEntry T) (now : Instant) : Bool :=
  todaySummaryTtl * 1000 < now - entry.fetchedAt

namespace SummaryDesk

def now : Instant := s.cache.now

def setProcess (process : Nat) (p : SummaryProcess T) : SummaryDesk T X E :=
  { s with processes := Function.update s.processes process p }

def setPhase (id : Nat) (ask : SummaryAsk T E) (phase : SummaryPhase T E) : SummaryDesk T X E :=
  { s with asks := Function.update s.asks id (some { ask with phase := phase }) }

def remember (process : Nat) (hash : String) (entry : TodaySummaryEntry T) : SummaryDesk T X E :=
  let p := s.processes process
  let kept :=
    if 750 ≤ p.memory.size then
      match p.memory.firstKey with
      | some firstKey => p.memory.erase firstKey
      | none => p.memory
    else p.memory
  s.setProcess process { p with memory := kept.set hash entry }

/-- The task of a forced reading that comes to its end is no longer registered, and those who have
joined it are told the same. -/
def answer (id : Nat) (ask : SummaryAsk T E) (manual : Option SummaryPayload)
    (payload : Option SummaryPayload) (reply : SummaryReply T E) : SummaryDesk T X E :=
  let p := s.processes ask.process
  let left := match manual with
    | some key => s.setProcess ask.process
        { p with manualRefreshes := Function.update p.manualRefreshes key none }
    | none => s
  { left with
    asks := fun other =>
      if other = id then some { ask with phase := .answered payload reply }
      else (s.asks other).map fun waiting =>
        match waiting.phase with
        | .joined own task =>
          if task = id then { waiting with phase := .answered (some own) reply } else waiting
        | _ => waiting }

def settle (id : Nat) (ask : SummaryAsk T E) (payload : SummaryPayload) (manual : Bool)
    (reply : SummaryReply T E) : SummaryDesk T X E :=
  s.answer id ask (if manual then some payload else none) (some payload) reply

def isForeign : CacheAction (CachedRead T X) E → Bool
  | .call _ _ read => read.key.scope ≠ todaySummaryScope
  | .load id _ => (s.cache.loads id).all fun load => load.read.key.scope ≠ todaySummaryScope
  | .direct id _ => (s.cache.calls id).all fun call => call.read.key.scope ≠ todaySummaryScope
  | _ => true

def liveAction (call : Nat) (outcome : Except E T) : Option (CacheAction (CachedRead T X) E) :=
  let entry := outcome.map fun value => CachedRead.todaySummary ⟨value, s.now⟩
  match s.cache.loads call with
  | some load => if load.read.key.scope = todaySummaryScope then some (.load call entry) else none
  | none =>
    match s.cache.calls call with
    | some asking =>
      if asking.read.key.scope = todaySummaryScope then some (.direct call entry) else none
    | none => none

def logged (action : CacheAction (CachedRead T X) E) : List (String × TodaySummaryEntry T) :=
  match s.cache.delivered action with
  | some (key, .todaySummary entry) => [(key.hash, entry)]
  | _ => []

def stepCache (action : CacheAction (CachedRead T X) E) : SummaryDesk T X E :=
  { s with cache := cacheStep config.cache s.cache action }

def live (call : Nat) (outcome : Except E T) : SummaryDesk T X E :=
  match s.liveAction call outcome with
  | some action => { s.stepCache config action with log := s.logged action ++ s.log }
  | none => s

def startFresh (id : Nat) (ask : SummaryAsk T E) (payload : SummaryPayload) (forceRefresh : Bool)
    (call : Nat) : SummaryDesk T X E :=
  match s.cache.calls call with
  | some _ => s
  | none =>
    let read : CacheRead (CachedRead T X) E :=
      ⟨config.key payload, .fixed todaySummaryTtl, forceRefresh, config.shouldOpenClientOrdersOnecCircuit⟩
    let reading := (s.stepCache config (.call call ask.process read)).setPhase id ask
      (.reading payload forceRefresh call)
    if forceRefresh then
      let p := s.processes ask.process
      { reading.setProcess ask.process
          { p with
            manualRefreshAt := Function.update p.manualRefreshAt payload (some s.now)
            manualRefreshes := Function.update p.manualRefreshes payload (some id) } with
        manualStarts := (ask.process, payload, s.now) :: s.manualStarts }
    else reading

def readManager (id : Nat) (ask : SummaryAsk T E) (onecUserGuid : Option String) :
    SummaryDesk T X E :=
  { s with asks := Function.update s.asks id (some { ask with onecUserGuid := onecUserGuid }) }

def withManager (id : Nat) (ask : SummaryAsk T E) (forceRefresh : Bool) (call : Nat) :
    SummaryDesk T X E :=
  match (ask.onecUserGuid.map JsString.trim).filter (· ≠ "") with
  | none => s.answer id ask none none (.failed .noManagerGuid)
  | some managerGuid =>
    let payload : SummaryPayload := ⟨managerGuid, config.omskDate s.now⟩
    let p := s.processes ask.process
    if forceRefresh then
      match p.manualRefreshes payload with
      | some task => s.setPhase id ask (.joined payload task)
      | none =>
        if s.now - (p.manualRefreshAt payload).getD 0 < todaySummaryManualCooldownMs then
          s.setPhase id ask (.manager false)
        else s.startFresh config id ask payload true call
    else s.startFresh config id ask payload false call

def loadStale (id : Nat) (ask : SummaryAsk T E) (payload : SummaryPayload) (manual : Bool)
    (error : SummaryError E) : SummaryDesk T X E :=
  let p := s.processes ask.process
  match p.memory.get (config.hash payload) with
  | none => s.setPhase id ask (.staleRead payload manual error)
  | some entry =>
    if entry.isUsable s.now then
      s.settle id ask payload manual (.summary entry.value true entry.fetchedAt s.now)
    else
      (s.setProcess ask.process { p with memory := p.memory.erase (config.hash payload) }).setPhase id
        ask (.staleRead payload manual error)

/-- The reading has come to its end. Other values than summaries are not kept under such a key. -/
def withReading (id : Nat) (ask : SummaryAsk T E) (payload : SummaryPayload) (manual : Bool) :
    CacheReply (CachedRead T X) E → SummaryDesk T X E
  | .value (.todaySummary entry) =>
    if entry.isStale s.now then
      s.settle id ask payload manual (.summary entry.value true entry.fetchedAt s.now)
    else
      (s.remember ask.process (config.hash payload) entry).setPhase id ask
        (.persisting payload manual entry s.now)
  | .value (.other _) => s
  | .failed error => s.loadStale config id ask payload manual (.onec error)
  | .circuitOpen => s.loadStale config id ask payload manual .circuitOpen

def resume (id : Nat) (ask : SummaryAsk T E) (payload : SummaryPayload) (manual : Bool) (call : Nat) :
    SummaryDesk T X E :=
  match s.cache.calls call with
  | none => s
  | some asked =>
    match asked.phase with
    | .answered reply | .loaded _ reply => s.withReading config id ask payload manual reply
    | _ => s

def persisted (id : Nat) (ask : SummaryAsk T E) (payload : SummaryPayload) (manual : Bool)
    (entry : TodaySummaryEntry T) (judgedAt : Instant) (landed : Bool) : SummaryDesk T X E :=
  let redis := if landed then
      Function.update s.redis (config.hash payload)
        (some (entry, s.now + todaySummaryStaleTtlSeconds * 1000))
    else s.redis
  ({ s with redis := redis } : SummaryDesk T X E).settle id ask payload manual
    (.summary entry.value false entry.fetchedAt judgedAt)

def readStale (id : Nat) (ask : SummaryAsk T E) (payload : SummaryPayload) (manual : Bool)
    (error : SummaryError E) (answered : Bool) : SummaryDesk T X E :=
  match (if answered then s.redis (config.hash payload) else none).filter
      (fun found => s.now < found.2 && found.1.isUsable s.now) with
  | some (entry, _) =>
    (s.remember ask.process (config.hash payload) entry).settle id ask payload manual
      (.summary entry.value true entry.fetchedAt s.now)
  | none => s.settle id ask payload manual (.failed error)

def continueAsk (id : Nat) (event : SummaryEvent T X E) (ask : SummaryAsk T E) : SummaryDesk T X E :=
  match event, ask.phase with
  | .manager _ call onecUserGuid, .manager forceRefresh =>
    (s.readManager id ask onecUserGuid).withManager config id
      { ask with onecUserGuid := onecUserGuid } forceRefresh call
  | .resume _, .reading payload manual call => s.resume config id ask payload manual call
  | .persisted _ landed, .persisting payload manual entry judgedAt =>
    s.persisted config id ask payload manual entry judgedAt landed
  | .staleRead _ answered, .staleRead payload manual error =>
    s.readStale config id ask payload manual error answered
  | _, _ => s

def start (now : Instant) : SummaryDesk T X E where
  cache := .start now
  processes _ := ⟨.empty, fun _ => none, fun _ => none⟩
  redis _ := none
  asks _ := none
  log := []
  manualStarts := []

end SummaryDesk

def summaryStep (s : SummaryDesk T X E) (event : SummaryEvent T X E) : SummaryDesk T X E :=
  match event with
  | .cache action => if s.isForeign action then s.stepCache config action else s
  | .live call outcome => s.live config call outcome
  | .ask id process forceRefresh =>
    match s.asks id with
    | some _ => s
    | none =>
      { s with asks := Function.update s.asks id (some ⟨process, s.now, none, .manager forceRefresh⟩) }
  | .manager id _ _ | .resume id | .persisted id _ | .staleRead id _ =>
    (s.asks id).elim s (s.continueAsk config id event)
  | .forgetStale hash => { s with redis := Function.update s.redis hash none }

end Steps

end LeaderProduct
