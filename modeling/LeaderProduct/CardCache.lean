import Mathlib.Logic.Function.Basic
import LeaderProduct.CardSecrecy
import LeaderProduct.Transition

/-! The service of the cards with its caches: requests of one key share a read of 1C and what is
kept of it. -/
namespace LeaderProduct
open Transition

section Service

structure CardPeriods where
  preset : String
  periodFrom : String
  periodTo : String
  compareFrom : String
  compareTo : String
  deriving DecidableEq, Repr

structure CardRequest where
  counterpartyGuid : String
  organizationGuid : Option String
  periods : CardPeriods
  permissions : CardPermissions
  forceRefresh : Bool

structure CardKey where
  counterpartyGuid : String
  organizationGuid : Option String
  periods : CardPeriods
  permissions : CardPermissions
  deriving DecidableEq, Repr

def CardRequest.key (request : CardRequest) : CardKey where
  counterpartyGuid := JsString.toLowerCase request.counterpartyGuid
  organizationGuid := request.organizationGuid.map JsString.toLowerCase
  periods := request.periods
  permissions := request.permissions

structure CacheEntry where
  value : CardBootstrap
  fetchedAt : Instant

structure MemoryEntry where
  entry : CacheEntry
  expiresAt : Instant

structure CacheSlot where
  key : CardKey
  stale : Bool
  deriving DecidableEq, Repr

inductive AskPhase where
  | freshMemory | freshRedis | staleMemory | staleRedis | live

structure CardAsk where
  request : CardRequest
  phase : AskPhase

inductive ReadPhase where
  | upstream | failedMemory | failedRedis
  | persisting (entry : CacheEntry)

structure PendingRead where
  counterpartyGuid : String
  organizationGuid : Option String
  waiters : Nat
  phase : ReadPhase

/-- `answers` is what the requests have got, `none` for an error. -/
structure CardService where
  memory : CacheSlot → Option MemoryEntry
  redis : CacheSlot → Option CacheEntry
  pending : CardKey → Option PendingRead
  asks : Nat → Option CardAsk
  answers : List (CardKey × Option CardBootstrap)

inductive Upstream where
  | payload (payload : Json)
  | failure

inductive CardAction where
  | ask (id : Nat) (request : CardRequest)
  | abandon (id : Nat)
  | lookup (id : Nat) (now : Instant)
  | arrive (key : CardKey) (upstream : Upstream) (now : Instant) (nowText : String)
  | settle (key : CardKey) (now : Instant) (freshKept staleKept : Bool)
  | evict (slot : CacheSlot)
  | forget (slot : CacheSlot)

def cardFreshTtl : Instant := 2 * 60 * 1000
def cardStaleTtl : Instant := 30 * 60 * 1000

def slotTtl (slot : CacheSlot) : Instant := if slot.stale then cardStaleTtl else cardFreshTtl

def usable (entry : CacheEntry) (slot : CacheSlot) (now : Instant) : Bool :=
  decide (now ≤ entry.fetchedAt + slotTtl slot)

variable (s : CardService)

def readMemory (slot : CacheSlot) (now : Instant) : Option CacheEntry :=
  ((s.memory slot).filter (fun known => decide (now < known.expiresAt) &&
    usable known.entry slot now)).map (·.entry)

def readRedis (slot : CacheSlot) (now : Instant) : Option CacheEntry :=
  (s.redis slot).filter (fun known => usable known slot now)

def remember (slot : CacheSlot) (entry : CacheEntry) (now : Instant) : CardService :=
  { s with memory := Function.update s.memory slot (some ⟨entry, now + cardStaleTtl⟩) }

def store (slot : CacheSlot) (entry : CacheEntry) (kept : Bool) : CardService :=
  if kept then { s with redis := Function.update s.redis slot (some entry) } else s

def setAsk (id : Nat) (ask : Option CardAsk) : CardService :=
  { s with asks := Function.update s.asks id ask }

def setPending (key : CardKey) (read : Option PendingRead) : CardService :=
  { s with pending := Function.update s.pending key read }

def answer (key : CardKey) (times : Nat) (card : Option CardBootstrap) : CardService :=
  { s with answers := s.answers ++ List.replicate times (key, card) }

def markStale (stale : Bool) (entry : CacheEntry) : CardBootstrap :=
  { entry.value with stale := stale }

def loadLive (request : CardRequest) (waiters : Nat) : CardService :=
  match s.pending request.key with
  | some read => setPending s request.key (some { read with waiters := read.waiters + waiters })
  | none => setPending s request.key
      (some ⟨request.counterpartyGuid, request.organizationGuid, waiters, .upstream⟩)

def answerStale (id : Nat) (request : CardRequest) (entry : CacheEntry) : CardService :=
  loadLive (answer (setAsk s id none) request.key 1 (some (markStale true entry))) request 0

def lookupStep (id : Nat) (now : Instant) (ask : CardAsk) : CardService :=
  let request := ask.request
  let fresh : CacheSlot := ⟨request.key, false⟩
  let stale : CacheSlot := ⟨request.key, true⟩
  match ask.phase with
  | .freshMemory =>
    match readMemory s fresh now with
    | some entry => answer (setAsk s id none) request.key 1 (some (markStale false entry))
    | none => setAsk s id (some ⟨request, .freshRedis⟩)
  | .freshRedis =>
    match readRedis s fresh now with
    | some entry =>
      answer (setAsk (remember s fresh entry now) id none) request.key 1 (some (markStale false entry))
    | none => setAsk s id (some ⟨request, .staleMemory⟩)
  | .staleMemory =>
    match readMemory s stale now with
    | some entry => answerStale s id request entry
    | none => setAsk s id (some ⟨request, .staleRedis⟩)
  | .staleRedis =>
    match readRedis s stale now with
    | some entry => answerStale (remember s stale entry now) id request entry
    | none => setAsk s id (some ⟨request, .live⟩)
  | .live => loadLive (setAsk s id none) request 1

variable (js : JsConversions)

def arriveStep (key : CardKey) (upstream : Upstream) (now : Instant) (nowText : String)
    (read : PendingRead) : CardService :=
  match read.phase with
  | .upstream =>
    let card := match upstream with
      | .payload payload => counterpartyCard js payload read.counterpartyGuid read.organizationGuid
          key.permissions nowText
      | .failure => none
    match card with
    | some card =>
      let entry : CacheEntry := ⟨card, now⟩
      setPending (remember (remember s ⟨key, false⟩ entry now) ⟨key, true⟩ entry now) key
        (some { read with phase := .persisting entry })
    | none => setPending s key (some { read with phase := .failedMemory })
  | _ => s

def settleStep (key : CardKey) (now : Instant) (freshKept staleKept : Bool) (read : PendingRead) :
    CardService :=
  let stale : CacheSlot := ⟨key, true⟩
  match read.phase with
  | .upstream => s
  | .persisting entry =>
    answer (setPending (store (store s ⟨key, false⟩ entry freshKept) stale entry staleKept) key none)
      key read.waiters (some entry.value)
  | .failedMemory =>
    match readMemory s stale now with
    | some entry => answer (setPending s key none) key read.waiters (some (markStale true entry))
    | none => setPending s key (some { read with phase := .failedRedis })
  | .failedRedis =>
    match readRedis s stale now with
    | some entry => answer (setPending (remember s stale entry now) key none) key read.waiters
        (some (markStale true entry))
    | none => answer (setPending s key none) key read.waiters none

def cardStep : CardAction → CardService
  | .ask id request =>
    setAsk s id (some ⟨request, if request.forceRefresh then .live else .freshMemory⟩)
  | .abandon id => setAsk s id none
  | .lookup id now => (s.asks id).elim s (lookupStep s id now)
  | .arrive key upstream now nowText => (s.pending key).elim s (arriveStep s js key upstream now nowText)
  | .settle key now freshKept staleKept =>
    (s.pending key).elim s (settleStep s key now freshKept staleKept)
  | .evict slot => { s with memory := Function.update s.memory slot none }
  | .forget slot => { s with redis := Function.update s.redis slot none }

end Service

section Projection
variable (d : ProtectedData)

def lacks (key : CardKey) : Bool := !key.permissions.permits d

def without (s : CardService) : CardService where
  memory slot := if lacks d slot.key then s.memory slot else none
  redis slot := if lacks d slot.key then s.redis slot else none
  pending key := if lacks d key then s.pending key else none
  asks id := (s.asks id).filter (fun ask => lacks d ask.request.key)
  answers := s.answers.filter (fun got => lacks d got.1)

variable {d} {s : CardService} {key : CardKey}

theorem update_restricted {A B : Type} [DecidableEq A] (keep : A → Bool) (f : A → Option B) (a : A)
    (b : Option B) : (fun x => if keep x then Function.update f a b x else none) =
      if keep a then Function.update (fun x => if keep x then f x else none) a b
      else fun x => if keep x then f x else none := by
  funext x
  by_cases same : x = a
  · subst same
    by_cases kept : keep x = true <;> simp [kept]
  · by_cases kept : keep a = true <;> simp [kept, same]

theorem without_remember (slot : CacheSlot) (entry : CacheEntry) (now : Instant) :
    without d (remember s slot entry now) =
      if lacks d slot.key then remember (without d s) slot entry now else without d s := by
  have memory := update_restricted (fun slot : CacheSlot => lacks d slot.key)
    s.memory slot (some ⟨entry, now + cardStaleTtl⟩)
  simp only [without, remember, memory]
  split <;> rfl

theorem without_store (slot : CacheSlot) (entry : CacheEntry) (kept : Bool) :
    without d (store s slot entry kept) =
      if lacks d slot.key then store (without d s) slot entry kept else without d s := by
  have redis := update_restricted (fun slot : CacheSlot => lacks d slot.key)
    s.redis slot (some entry)
  unfold store
  cases kept with
  | false => simp only [Bool.false_eq_true, if_false, ite_self]
  | true =>
    simp only [without, if_true, redis]
    split <;> rfl

theorem without_setPending (key : CardKey) (read : Option PendingRead) :
    without d (setPending s key read) =
      if lacks d key then setPending (without d s) key read else without d s := by
  have pending := update_restricted (lacks d) s.pending key read
  simp only [without, setPending, pending]
  split <;> rfl

theorem without_answer (key : CardKey) (times : Nat) (card : Option CardBootstrap) :
    without d (answer s key times card) =
      if lacks d key then answer (without d s) key times card else without d s := by
  simp only [without, answer, List.filter_append, List.filter_replicate]
  split
  · rfl
  · rw [List.append_nil]

theorem without_setAsk (id : Nat) (ask : Option CardAsk) :
    without d (setAsk s id ask) =
      setAsk (without d s) id (ask.filter (fun ask => lacks d ask.request.key)) := by
  simp only [without, setAsk, CardService.mk.injEq, true_and, and_true]
  funext other
  by_cases same : other = id
  · subst same
    simp
  · simp [same]

theorem setAsk_none (id : Nat) (gone : s.asks id = none) : setAsk s id none = s := by
  rw [setAsk, ← gone, Function.update_eq_self]

theorem readMemory_without (slot : CacheSlot) (now : Instant) (own : lacks d slot.key = true) :
    readMemory (without d s) slot now = readMemory s slot now := by
  simp only [readMemory, without, own, if_true]

theorem readRedis_without (slot : CacheSlot) (now : Instant) (own : lacks d slot.key = true) :
    readRedis (without d s) slot now = readRedis s slot now := by
  simp only [readRedis, without, own, if_true]

theorem pending_without (own : lacks d key = true) : (without d s).pending key = s.pending key := by
  simp only [without, own, if_true]

theorem without_loadLive (request : CardRequest) (waiters : Nat) :
    without d (loadLive s request waiters) =
      if lacks d request.key then loadLive (without d s) request waiters else without d s := by
  unfold loadLive
  by_cases own : lacks d request.key = true
  · rw [if_pos own, pending_without own]
    cases s.pending request.key with
    | none => rw [without_setPending, if_pos own]
    | some read => rw [without_setPending, if_pos own]
  · rw [if_neg own]
    cases s.pending request.key with
    | none => rw [without_setPending, if_neg own]
    | some read => rw [without_setPending, if_neg own]

theorem without_answerStale (id : Nat) (request : CardRequest) (entry : CacheEntry) :
    without d (answerStale s id request entry) =
      if lacks d request.key then answerStale (without d s) id request entry
      else setAsk (without d s) id none := by
  simp only [answerStale, without_loadLive, without_answer, without_setAsk, Option.filter_none]
  split <;> rfl

theorem without_lookupStep (id : Nat) (now : Instant) (ask : CardAsk)
    (own : lacks d ask.request.key = true) :
    without d (lookupStep s id now ask) = lookupStep (without d s) id now ask := by
  obtain ⟨request, phase⟩ := ask
  have memory (stale : Bool) := readMemory_without (s := s) ⟨request.key, stale⟩ now own
  have redis (stale : Bool) := readRedis_without (s := s) ⟨request.key, stale⟩ now own
  have kept (phase : AskPhase) :
      (some (⟨request, phase⟩ : CardAsk)).filter (fun ask => lacks d ask.request.key) =
        some ⟨request, phase⟩ := by
    rw [Option.filter_some, if_pos own]
  cases phase with
  | freshMemory =>
    simp only [lookupStep, memory]
    split
    · rw [without_answer, if_pos own, without_setAsk, Option.filter_none]
    · rw [without_setAsk, kept]
  | freshRedis =>
    simp only [lookupStep, redis]
    split
    · rw [without_answer, if_pos own, without_setAsk, without_remember, if_pos own, Option.filter_none]
    · rw [without_setAsk, kept]
  | staleMemory =>
    simp only [lookupStep, memory]
    split
    · rw [without_answerStale, if_pos own]
    · rw [without_setAsk, kept]
  | staleRedis =>
    simp only [lookupStep, redis]
    split
    · rw [without_answerStale, if_pos own, without_remember, if_pos own]
    · rw [without_setAsk, kept]
  | live =>
    simp only [lookupStep]
    rw [without_loadLive, if_pos own, without_setAsk, Option.filter_none]

theorem without_lookupStep_other (id : Nat) (now : Instant) (ask : CardAsk)
    (other : ¬ lacks d ask.request.key = true) :
    without d (lookupStep s id now ask) = setAsk (without d s) id none := by
  obtain ⟨request, phase⟩ := ask
  have dropped (phase : AskPhase) :
      (some (⟨request, phase⟩ : CardAsk)).filter (fun ask => lacks d ask.request.key) = none := by
    rw [Option.filter_some, if_neg other]
  cases phase with
  | freshMemory =>
    simp only [lookupStep]
    split
    · rw [without_answer, if_neg other, without_setAsk, Option.filter_none]
    · rw [without_setAsk, dropped]
  | freshRedis =>
    simp only [lookupStep]
    split
    · rw [without_answer, if_neg other, without_setAsk, without_remember, if_neg other,
        Option.filter_none]
    · rw [without_setAsk, dropped]
  | staleMemory =>
    simp only [lookupStep]
    split
    · rw [without_answerStale, if_neg other]
    · rw [without_setAsk, dropped]
  | staleRedis =>
    simp only [lookupStep]
    split
    · rw [without_answerStale, if_neg other, without_remember, if_neg other]
    · rw [without_setAsk, dropped]
  | live =>
    simp only [lookupStep]
    rw [without_loadLive, if_neg other, without_setAsk, Option.filter_none]

variable (js : JsConversions)

theorem without_arriveStep (upstream : Upstream) (now : Instant) (nowText : String)
    (read : PendingRead) : without d (arriveStep s js key upstream now nowText read) =
      if lacks d key then arriveStep (without d s) js key upstream now nowText read
      else without d s := by
  unfold arriveStep
  by_cases own : lacks d key = true
  · rw [if_pos own]
    split
    · dsimp only
      split
      · simp only [without_setPending, without_remember, own, if_true]
      · rw [without_setPending, if_pos own]
    · rfl
  · rw [if_neg own]
    split
    · dsimp only
      split
      · simp only [without_setPending, without_remember, own, Bool.false_eq_true, if_false]
      · rw [without_setPending, if_neg own]
    · rfl

theorem without_settleStep (now : Instant) (freshKept staleKept : Bool) (read : PendingRead) :
    without d (settleStep s key now freshKept staleKept read) =
      if lacks d key then settleStep (without d s) key now freshKept staleKept read
      else without d s := by
  unfold settleStep
  by_cases own : lacks d key = true
  · rw [if_pos own]
    have memory := readMemory_without (s := s) ⟨key, true⟩ now own
    have redis := readRedis_without (s := s) ⟨key, true⟩ now own
    dsimp only
    split
    · rfl
    · simp only [without_answer, without_setPending, without_store, own, if_true]
    · rw [memory]
      split
      · simp only [without_answer, without_setPending, own, if_true]
      · rw [without_setPending, if_pos own]
    · rw [redis]
      split
      · simp only [without_answer, without_setPending, without_remember, own, if_true]
      · simp only [without_answer, without_setPending, own, if_true]
  · rw [if_neg own]
    dsimp only
    split
    · rfl
    · simp only [without_answer, without_setPending, without_store, own, Bool.false_eq_true, if_false]
    · split
      · simp only [without_answer, without_setPending, own, Bool.false_eq_true, if_false]
      · rw [without_setPending, if_neg own]
    · split
      · simp only [without_answer, without_setPending, without_remember, own, Bool.false_eq_true,
          if_false]
      · simp only [without_answer, without_setPending, own, Bool.false_eq_true, if_false]

variable (d) in
def actionWithout : CardAction → CardAction
  | .ask id request => if lacks d request.key then .ask id request else .abandon id
  | a => a

/-- The requests without the permission are served as if there were no others. -/
theorem without_cardStep (a : CardAction) :
    without d (cardStep s js a) = cardStep (without d s) js (actionWithout d a) := by
  cases a with
  | ask id request =>
    simp only [cardStep, actionWithout, without_setAsk, Option.filter_some]
    split <;> rfl
  | abandon id => simp only [cardStep, actionWithout, without_setAsk, Option.filter_none]
  | lookup id now =>
    simp only [cardStep, actionWithout]
    cases asked : s.asks id with
    | none =>
      have gone : (without d s).asks id = none := by simp only [without, asked, Option.filter_none]
      rw [gone]
      rfl
    | some ask =>
      by_cases own : lacks d ask.request.key = true
      · have known : (without d s).asks id = some ask := by
          simp only [without, asked, Option.filter_some, own, if_true]
        rw [known]
        exact without_lookupStep id now ask own
      · have gone : (without d s).asks id = none := by
          simp only [without, asked, Option.filter_some, own, Bool.false_eq_true, if_false]
        rw [gone]
        exact (without_lookupStep_other id now ask own).trans (setAsk_none id gone)
  | arrive key upstream now nowText =>
    simp only [cardStep, actionWithout]
    by_cases own : lacks d key = true
    · rw [pending_without own]
      cases s.pending key with
      | none => rfl
      | some read => exact (without_arriveStep js upstream now nowText read).trans (if_pos own)
    · have gone : (without d s).pending key = none := if_neg own
      rw [gone]
      cases s.pending key with
      | none => rfl
      | some read => exact (without_arriveStep js upstream now nowText read).trans (if_neg own)
  | settle key now freshKept staleKept =>
    simp only [cardStep, actionWithout]
    by_cases own : lacks d key = true
    · rw [pending_without own]
      cases s.pending key with
      | none => rfl
      | some read => exact (without_settleStep now freshKept staleKept read).trans (if_pos own)
    · have gone : (without d s).pending key = none := if_neg own
      rw [gone]
      cases s.pending key with
      | none => rfl
      | some read => exact (without_settleStep now freshKept staleKept read).trans (if_neg own)
  | evict slot =>
    have memory := update_restricted (fun slot : CacheSlot => lacks d slot.key)
      s.memory slot none
    simp only [cardStep, actionWithout, without, memory]
    split
    · rfl
    · next other => rw [Function.update_eq_self_iff.mpr (if_neg other).symm]
  | forget slot =>
    have redis := update_restricted (fun slot : CacheSlot => lacks d slot.key)
      s.redis slot none
    simp only [cardStep, actionWithout, without, redis]
    split
    · rfl
    · next other => rw [Function.update_eq_self_iff.mpr (if_neg other).symm]

end Projection

section TwoRuns
variable (js : JsConversions) (d : ProtectedData)

inductive TwinAction where
  | both (a : CardAction)
  | arrive (key : CardKey) (upstream upstream' : Upstream) (now : Instant) (nowText : String)

def TwinAction.left : TwinAction → CardAction
  | .both a => a
  | .arrive key upstream _ now nowText => .arrive key upstream now nowText

def TwinAction.right : TwinAction → CardAction
  | .both a => a
  | .arrive key _ upstream' now nowText => .arrive key upstream' now nowText

def twinStep (s : CardService × CardService) (a : TwinAction) : CardService × CardService :=
  (cardStep s.1 js a.left, cardStep s.2 js a.right)

/-- The cards that requests without the permission have got. -/
def seenWithout (s : CardService) : List (CardKey × Option CardBootstrap) :=
  s.answers.filter (fun got => lacks d got.1)

def SameAnswer (organizationGuid : Option String) : Upstream → Upstream → Prop
  | .payload payload, .payload payload' =>
    DifferOnlyIn d (unwrap js payload) (unwrap js payload') ∧
      ((textOf js (objectOf (unwrap js payload) ["identity"]) ["name"]).isSome = true →
        SameOpenly js d organizationGuid (unwrap js payload) (unwrap js payload'))
  | .failure, .failure => True
  | _, _ => False

def ReadsSame (s : CardService × CardService) : TwinAction → Prop
  | .both _ => True
  | .arrive key upstream upstream' _ _ => lacks d key = true →
      ∀ read ∈ s.1.pending key, SameAnswer js d read.organizationGuid upstream upstream'

variable {d}

theorem arriveStep_same {s : CardService} {key : CardKey} (own : lacks d key = true)
    {read : PendingRead} {upstream upstream' : Upstream}
    (same : SameAnswer js d read.organizationGuid upstream upstream') (now : Instant)
    (nowText : String) : arriveStep s js key upstream now nowText read =
      arriveStep s js key upstream' now nowText read := by
  have hidden : key.permissions.permits d = false := by simpa [lacks] using own
  cases upstream with
  | failure =>
    cases upstream' with
    | failure => rfl
    | payload payload' => cases same
  | payload payload =>
    cases upstream' with
    | failure => cases same
    | payload payload' =>
      have card := (cards_equal_iff js hidden same.1 read.counterpartyGuid read.organizationGuid
        nowText).mpr same.2
      simp only [arriveStep, card]

theorem without_twinStep {s : CardService × CardService} {a : TwinAction}
    (now : without d s.1 = without d s.2) (same : ReadsSame js d s a) :
    without d (twinStep js s a).1 = without d (twinStep js s a).2 := by
  simp only [twinStep, without_cardStep, ← now]
  cases a with
  | both a => rfl
  | arrive key upstream upstream' time timeText =>
    simp only [TwinAction.left, TwinAction.right, actionWithout, cardStep]
    by_cases own : lacks d key = true
    · rw [pending_without own]
      cases running : s.1.pending key with
      | none => rfl
      | some read => exact arriveStep_same js own (same own read running) time timeText
    · have gone : (without d s.1).pending key = none := if_neg own
      rw [gone]
      rfl

/-- A user without the permission gets the same card from two answers that differ in the protected
data alone exactly when there is none or they state the same openly; and two services that share
all but such answers show users without the permission the same cards, whatever is cached, shared
or running at once. -/
theorem cards_keep_secret (d : ProtectedData) :
    (∀ (permissions : CardPermissions) (payload payload' : Json) (requestedGuid : String)
        (organizationGuid : Option String) (now : String), permissions.permits d = false →
      DifferOnlyIn d (unwrap js payload) (unwrap js payload') →
        (counterpartyCard js payload requestedGuid organizationGuid permissions now =
            counterpartyCard js payload' requestedGuid organizationGuid permissions now ↔
          ((textOf js (objectOf (unwrap js payload) ["identity"]) ["name"]).isSome = true →
            SameOpenly js d organizationGuid (unwrap js payload) (unwrap js payload')))) ∧
      ∀ (start : { s : CardService × CardService // without d s.1 = without d s.2 })
        (actions : List TwinAction), EachStep (twinStep js) (ReadsSame js d) start.1 actions →
          Always (twinStep js) (fun s => seenWithout d s.1 = seenWithout d s.2) start.1 actions := by
  constructor
  · intro permissions payload payload' requestedGuid organizationGuid now hidden differ
    exact cards_equal_iff js hidden differ requestedGuid organizationGuid now
  · intro start actions same
    have indistinct := always_of_eachStep (I := fun s => without d s.1 = without d s.2)
      (fun _ _ now same => without_twinStep js now same) start.2 actions same
    exact indistinct.mono (fun _ equal => congrArg CardService.answers equal)

def idleService : CardService := ⟨fun _ => none, fun _ => none, fun _ => none, fun _ => none, []⟩

def contactPayload (name : String) : Json := .object
  [("identity", .object [("name", .string "Клиент")]),
    ("contacts", .array [.object [("name", .string name)]])]

def plainConversions : JsConversions := .ofTexts

def contactlessKey : CardKey := ⟨"guid", none, ⟨"", "", "", "", ""⟩, ⟨true, true, false, false⟩⟩

theorem cards_keep_secret_contacts :
    counterpartyCard plainConversions (contactPayload "Анна") "guid" none
        ⟨true, true, false, false⟩ "now" =
      counterpartyCard plainConversions (contactPayload "Борис") "guid" none
        ⟨true, true, false, false⟩ "now" ∧
      Always (twinStep plainConversions)
        (fun s => seenWithout .contacts s.1 = seenWithout .contacts s.2)
        (idleService, idleService)
        [.both (.ask 1 ⟨"guid", none, ⟨"", "", "", "", ""⟩, ⟨true, true, false, false⟩, true⟩),
          .both (.lookup 1 0),
          .arrive contactlessKey (.payload (contactPayload "Анна"))
            (.payload (contactPayload "Борис")) 0 "now",
          .both (.settle contactlessKey 0 true true)] := by
  have secret := cards_keep_secret plainConversions .contacts
  refine ⟨(secret.1 ⟨true, true, false, false⟩ (contactPayload "Анна") (contactPayload "Борис") "guid"
      none "now" rfl rfl).mpr (fun _ => True.intro),
    secret.2 ⟨(idleService, idleService), rfl⟩ _ ⟨True.intro, True.intro, ?_, True.intro, True.intro⟩⟩
  exact fun _ _ _ => ⟨rfl, fun _ => True.intro⟩

def debtPayload (debt : Rat) : Json := .object
  [("identity", .object [("name", .string "Клиент")]),
    ("overview", .object [("debtTotal", .number debt)])]

/-- The overview tells the debt to a user who may see nothing. -/
theorem overview_tells_debt : ¬ ∀ (js : JsConversions) (d : ProtectedData)
    (permissions : CardPermissions) (payload payload' : Json) (requestedGuid : String)
    (organizationGuid : Option String) (now : String), permissions.permits d = false →
    DifferOnlyIn d (unwrap js payload) (unwrap js payload') →
      counterpartyCard js payload requestedGuid organizationGuid permissions now =
        counterpartyCard js payload' requestedGuid organizationGuid permissions now := by
  intro always
  have same := always plainConversions .finance ⟨false, false, false, false⟩ (debtPayload 100)
    (debtPayload 200) "guid" (some "organization") "now" rfl rfl
  have debts := congrArg (Option.map (fun card => card.overview.debtTotal)) same
  exact absurd debts (by decide +kernel)

end TwoRuns

end LeaderProduct
