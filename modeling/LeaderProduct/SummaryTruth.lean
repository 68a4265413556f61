import LeaderProduct.TodaySummary

/-! What the summary of a day that somebody is told rests on. -/
namespace LeaderProduct
open InvalidatedCache (each_update of_update_none of_update_some)
open Transition

section Truth
variable {T X E : Type} (config : SummaryConfig T X E) (s : SummaryDesk T X E)

def LoggedFor (log : List (String × TodaySummaryEntry T)) (key : OrdersCacheKey) :
    CachedRead T X → Prop
  | .todaySummary entry => key.scope = todaySummaryScope → (key.hash, entry) ∈ log
  | .other _ => True

/-- What the ask reads by itself as the task of a forced reading. -/
def SummaryPhase.task : SummaryPhase T E → Option SummaryPayload
  | .reading payload manual _ | .persisting payload manual _ _ | .staleRead payload manual _ =>
    if manual then some payload else none
  | _ => none

namespace SummaryDesk

/-- It has the GUID that was read of the manager, and it was that day in Omsk at a moment since the
ask. -/
def MadeFor (ask : SummaryAsk T E) (payload : SummaryPayload) : Prop :=
  ask.onecUserGuid.map JsString.trim = some payload.managerGuid ∧
    ∃ t, ask.askedAt ≤ t ∧ t ≤ s.now ∧ payload.date = config.omskDate t

/-- 1C gave the summary when it was asked for this manager and day, and if it is not called stale,
not more than thirty seconds before that was said. -/
structure Judged (payload : SummaryPayload) (value : T) (stale : Bool) (fetchedAt judgedAt : Instant) :
    Prop where
  logged : (config.hash payload, ⟨value, fetchedAt⟩) ∈ s.log
  past : fetchedAt ≤ judgedAt ∧ judgedAt ≤ s.now
  fresh : stale = false → judgedAt ≤ fetchedAt + todaySummaryTtl * 1000

def ReplyTrue (payload : SummaryPayload) : SummaryReply T E → Prop
  | .summary value stale fetchedAt judgedAt => s.Judged config payload value stale fetchedAt judgedAt
  | .failed _ => True

def AskTrue (ask : SummaryAsk T E) : Prop :=
  match ask.phase with
  | .manager _ => True
  | .reading payload _ call => s.MadeFor config ask payload ∧
    ∃ asked, s.cache.calls call = some asked ∧ asked.read.key = config.key payload
  | .joined payload _ => s.MadeFor config ask payload
  | .persisting payload _ entry judgedAt => s.MadeFor config ask payload ∧
    s.Judged config payload entry.value false entry.fetchedAt judgedAt
  | .staleRead payload _ _ => s.MadeFor config ask payload
  | .answered (some payload) reply => s.MadeFor config ask payload ∧ s.ReplyTrue config payload reply
  | .answered none reply => ∃ error, reply = .failed error

structure Truthful (s : SummaryDesk T X E) : Prop where
  registered : Registered s.cache
  sourced : Sourced (LoggedFor s.log) s.cache
  past : ∀ hash entry, (hash, entry) ∈ s.log → entry.fetchedAt ≤ s.now
  memory : ∀ process hash entry, (s.processes process).memory.get hash = some entry →
    (hash, entry) ∈ s.log
  redis : ∀ hash found, s.redis hash = some found → (hash, found.1) ∈ s.log
  asked : ∀ id ask, s.asks id = some ask → ask.askedAt ≤ s.now
  asks : ∀ id ask, s.asks id = some ask → s.AskTrue config ask
  listed : ∀ process payload id, (s.processes process).manualRefreshes payload = some id →
    ∃ ask, s.asks id = some ask ∧ ask.process = process ∧ ask.phase.task = some payload
  running : ∀ id ask payload, s.asks id = some ask → ask.phase.task = some payload →
    (s.processes ask.process).manualRefreshes payload = some id
  joins : ∀ id ask payload task, s.asks id = some ask → ask.phase = .joined payload task →
    ∃ other, s.asks task = some other ∧ other.phase.task = some payload

structure Grows (s s' : SummaryDesk T X E) : Prop where
  now : s.now ≤ s'.now
  log : s.log ⊆ s'.log
  calls : ∀ call asked, s.cache.calls call = some asked →
    ∃ later, s'.cache.calls call = some later ∧ later.read = asked.read

end SummaryDesk
end Truth

section Growing
variable {T X E : Type} {config : SummaryConfig T X E} {s s' : SummaryDesk T X E}
namespace SummaryDesk

theorem MadeFor.grows (grows : Grows s s') {ask : SummaryAsk T E} {payload : SummaryPayload}
    (made : s.MadeFor config ask payload) : s'.MadeFor config ask payload := by
  obtain ⟨manager, t, since, before, day⟩ := made
  exact ⟨manager, t, since, before.trans grows.now, day⟩

theorem Judged.grows (grows : Grows s s') {payload : SummaryPayload} {value : T} {stale : Bool}
    {fetchedAt judgedAt : Instant} (judged : s.Judged config payload value stale fetchedAt judgedAt) :
    s'.Judged config payload value stale fetchedAt judgedAt :=
  ⟨grows.log judged.logged, ⟨judged.past.1, judged.past.2.trans grows.now⟩, judged.fresh⟩

theorem ReplyTrue.grows (grows : Grows s s') {payload : SummaryPayload} {reply : SummaryReply T E}
    (fine : s.ReplyTrue config payload reply) : s'.ReplyTrue config payload reply := by
  cases reply with
  | summary value stale fetchedAt judgedAt => exact Judged.grows grows fine
  | failed error => trivial

theorem AskTrue.grows (grows : Grows s s') {ask : SummaryAsk T E} (fine : s.AskTrue config ask) :
    s'.AskTrue config ask := by
  unfold AskTrue at fine ⊢
  cases phase : ask.phase with
  | manager forceRefresh => trivial
  | reading payload manual call =>
    simp only [phase] at fine
    obtain ⟨made, asked, known, key⟩ := fine
    obtain ⟨later, there, same⟩ := grows.calls call asked known
    exact ⟨made.grows grows, later, there, by rw [same, key]⟩
  | joined payload task =>
    simp only [phase] at fine
    exact MadeFor.grows grows fine
  | persisting payload manual entry judgedAt =>
    simp only [phase] at fine
    exact ⟨fine.1.grows grows, fine.2.grows grows⟩
  | staleRead payload manual error =>
    simp only [phase] at fine
    exact MadeFor.grows grows fine
  | answered payload reply =>
    simp only [phase] at fine
    cases payload with
    | none => exact fine
    | some payload => exact ⟨fine.1.grows grows, fine.2.grows grows⟩

theorem grows_of_cache (log : s.log = s'.log) (cache : s'.cache = s.cache) : Grows s s' := by
  refine ⟨?_, ?_, fun call asked known => ⟨asked, by rw [cache]; exact known, rfl⟩⟩
  · rw [now, now, cache]
  · rw [log]
    exact List.Subset.refl _

end SummaryDesk
end Growing

variable {id : Nat}

section Caches
variable {V E : Type} {config : CacheConfig V} {s : OrdersCache V E}

theorem cacheStep_reads {call : OrdersCall V E} (known : s.calls id = some call)
    (action : CacheAction V E) :
    ∃ later, (cacheStep config s action).calls id = some later ∧ later.read = call.read := by
  have updated {i : Nat} {new : OrdersCall V E}
      (calls : (cacheStep config s action).calls = Function.update s.calls i (some new))
      (own : i = id → new.read = call.read) :
      ∃ later, (cacheStep config s action).calls id = some later ∧ later.read = call.read := by
    rw [calls]
    by_cases same : id = i
    · subst same
      exact ⟨new, Function.update_self .., own rfl⟩
    · exact ⟨call, by rw [Function.update_of_ne same]; exact known, rfl⟩
  have effect : CacheEffect s (cacheStep config s action) action := cacheStep_effect action
  cases effect with
  | idle _ _ calls => exact ⟨call, by rw [calls]; exact known, rfl⟩
  | settles _ _ _ _ _ _ calls => exact ⟨call, by rw [calls]; exact known, rfl⟩
  | joins i _ old before _ _ _ _ calls =>
    refine updated calls fun same => ?_
    subst same
    cases before.symm.trans known
    rfl
  | starts i old before _ _ _ _ calls =>
    refine updated calls fun same => ?_
    subst same
    cases before.symm.trans known
    rfl
  | finishes l load outcome _ _ _ calls =>
    refine ⟨call.toldBy l (replyOf outcome), ?_, (toldBy_read l (replyOf outcome) call).1⟩
    rw [calls]
    simp [known]
  | moves i new _ _ origin _ _ calls =>
    rcases origin with ⟨rfl, -⟩ | ⟨old, before, same, -⟩
    · by_cases used : id = i
      · subst used
        have unchanged : s.callStep config id new.process new.read = s := by
          simp [OrdersCache.callStep, known]
        exact ⟨call, by rw [cacheStep, unchanged]; exact known, rfl⟩
      · exact updated calls fun same => absurd same.symm used
    · refine updated calls fun here => ?_
      subst here
      cases before.symm.trans known
      exact same.symm

end Caches

section Keeping
variable {T X E : Type} {config : SummaryConfig T X E} {s : SummaryDesk T X E}
namespace SummaryDesk

theorem Truthful.withCache (truthful : Truthful config s) (action : CacheAction (CachedRead T X) E)
    (answers : List (String × TodaySummaryEntry T))
    (fresh : ∀ key v, s.cache.delivered action = some (key, v) → LoggedFor (answers ++ s.log) key v)
    (now_past : ∀ hash entry, (hash, entry) ∈ answers → entry.fetchedAt ≤ s.now) :
    Truthful config { s.stepCache config action with log := answers ++ s.log } := by
  have later : s.now ≤ (cacheStep config.cache s.cache action).now := cacheStep_now action
  have more : s.log ⊆ answers ++ s.log := List.subset_append_right _ _
  have grows : Grows s { s.stepCache config action with log := answers ++ s.log } :=
    ⟨later, more, fun call asked known => cacheStep_reads known action⟩
  constructor
  case registered => exact cacheStep_registered truthful.registered action
  case sourced =>
    refine cacheStep_sourced (truthful.sourced.mono ?_) truthful.registered fresh
    intro key v logged
    cases v with
    | other value => trivial
    | todaySummary entry => exact fun scope => more (logged scope)
  case past =>
    intro hash entry here
    rcases List.mem_append.mp here with new | old
    · exact (now_past hash entry new).trans later
    · exact (truthful.past hash entry old).trans later
  case memory => exact fun process hash entry there => more (truthful.memory process hash entry there)
  case redis => exact fun hash found there => more (truthful.redis hash found there)
  case asked => exact fun id ask known => (truthful.asked id ask known).trans later
  case asks => exact fun id ask known => (truthful.asks id ask known).grows grows
  case listed => exact truthful.listed
  case running => exact truthful.running
  case joins => exact truthful.joins

theorem Truthful.foreign (truthful : Truthful config s) {action : CacheAction (CachedRead T X) E}
    (foreign : s.isForeign action = true) : Truthful config (s.stepCache config action) := by
  refine truthful.withCache action [] (fun key v delivered => ?_) nofun
  have apart : key.scope ≠ todaySummaryScope := by
    cases action with
    | load id outcome =>
      cases outcome with
      | error error => cases delivered
      | ok value =>
        obtain ⟨load, known, running⟩ := Option.bind_eq_some_iff.mp delivered
        split at running
        · cases running
          simpa [isForeign, known] using foreign
        · cases running
    | direct id outcome =>
      cases outcome with
      | error error => cases delivered
      | ok value =>
        obtain ⟨call, known, direct⟩ := Option.bind_eq_some_iff.mp delivered
        split at direct
        · cases direct
          simpa [isForeign, known] using foreign
        · cases direct
    | _ => cases delivered
  cases v with
  | other value => trivial
  | todaySummary entry => exact fun scope => absurd scope apart

variable {call : Nat}

theorem liveAction_delivered {outcome : Except E T} {action : CacheAction (CachedRead T X) E}
    (live : s.liveAction call outcome = some action) {key : OrdersCacheKey} {v : CachedRead T X}
    (delivered : s.cache.delivered action = some (key, v)) :
    ∃ value, v = .todaySummary ⟨value, s.now⟩ := by
  have either : action = .load call (outcome.map fun value => .todaySummary ⟨value, s.now⟩) ∨
      action = .direct call (outcome.map fun value => .todaySummary ⟨value, s.now⟩) := by
    unfold liveAction at live
    split at live
    · split at live
      · exact .inl (Option.some.inj live).symm
      · cases live
    · split at live
      · split at live
        · exact .inr (Option.some.inj live).symm
        · cases live
      · cases live
  cases outcome with
  | error error => rcases either with rfl | rfl <;> cases delivered
  | ok value =>
    refine ⟨value, ?_⟩
    rcases either with rfl | rfl
    · obtain ⟨load, -, running⟩ := Option.bind_eq_some_iff.mp delivered
      split at running
      · cases running
        rfl
      · cases running
    · obtain ⟨asking, -, direct⟩ := Option.bind_eq_some_iff.mp delivered
      split at direct
      · cases direct
        rfl
      · cases direct

section
variable (truthful : Truthful config s)
include truthful

theorem Truthful.live (call : Nat) (outcome : Except E T) :
    Truthful config (s.live config call outcome) := by
  unfold SummaryDesk.live
  split
  · next action answer =>
    refine truthful.withCache action _ (fun key v delivered => ?_) fun hash entry here => ?_
    · obtain ⟨value, rfl⟩ := liveAction_delivered answer delivered
      exact fun _ => List.mem_append_left _ (by simp [logged, delivered])
    · unfold logged at here
      split at here
      · next key found delivered =>
        obtain ⟨value, same⟩ := liveAction_delivered answer delivered
        cases same
        cases List.mem_singleton.mp here
        exact Nat.le_refl _
      · cases here
  · exact truthful

theorem Truthful.moves {s' : SummaryDesk T X E}
    (same : s'.cache = s.cache ∧ s'.log = s.log ∧ s'.redis = s.redis)
    (memory : ∀ process hash entry, (s'.processes process).memory.get hash = some entry →
      (hash, entry) ∈ s.log)
    (asks : ∀ id ask, s'.asks id = some ask → ask.askedAt ≤ s.now ∧ s.AskTrue config ask)
    (listed : ∀ process payload id, (s'.processes process).manualRefreshes payload = some id →
      ∃ ask, s'.asks id = some ask ∧ ask.process = process ∧ ask.phase.task = some payload)
    (running : ∀ id ask payload, s'.asks id = some ask → ask.phase.task = some payload →
      (s'.processes ask.process).manualRefreshes payload = some id)
    (joins : ∀ id ask payload task, s'.asks id = some ask → ask.phase = .joined payload task →
      ∃ other, s'.asks task = some other ∧ other.phase.task = some payload) : Truthful config s' := by
  obtain ⟨cache, log, redis⟩ := same
  have grows : Grows s s' := grows_of_cache log.symm cache
  have now : s'.now = s.now := by rw [SummaryDesk.now, cache, SummaryDesk.now]
  refine ⟨?_, ?_, ?_, ?_, ?_, ?_, ?_, listed, running, joins⟩
  · rw [cache]
    exact truthful.registered
  · rw [cache, log]
    exact truthful.sourced
  · rw [log, now]
    exact truthful.past
  · rw [log]
    exact memory
  · rw [redis, log]
    exact truthful.redis
  · rw [now]
    exact fun id ask there => (asks id ask there).1
  · exact fun id ask there => (asks id ask there).2.grows grows

/-- One ask is new or goes on. A task that it had it keeps, and one that it has now is
registered. -/
theorem Truthful.update {s' : SummaryDesk T X E}
    {new : SummaryAsk T E} (same : s'.cache = s.cache ∧ s'.log = s.log ∧ s'.redis = s.redis)
    (memory : ∀ process, (s'.processes process).memory = (s.processes process).memory)
    (asks : s'.asks = Function.update s.asks id (some new)) (asked : new.askedAt ≤ s.now)
    (fine : s.AskTrue config new)
    (keeps : ∀ before key, s.asks id = some before → before.phase.task = some key →
      new.process = before.process ∧ new.phase.task = some key)
    (refreshes : ∀ process key, (s'.processes process).manualRefreshes key =
      if process = new.process ∧ new.phase.task = some key then some id
      else (s.processes process).manualRefreshes key)
    (unlisted : ∀ key other, new.phase.task = some key →
      (s.processes new.process).manualRefreshes key = some other → other = id)
    (joins : ∀ key task, new.phase = .joined key task →
      ∃ other, s.asks task = some other ∧ other.phase.task = some key) : Truthful config s' := by
  have task_of {other : Nat} {before : SummaryAsk T E} {key : SummaryPayload}
      (there : s.asks other = some before) (runs : before.phase.task = some key) :
      ∃ after, s'.asks other = some after ∧ after.process = before.process ∧
        after.phase.task = some key := by
    rw [asks]
    by_cases own : other = id
    · subst own
      obtain ⟨process, still⟩ := keeps before key there runs
      exact ⟨new, Function.update_self .., process, still⟩
    · exact ⟨before, (Function.update_of_ne own ..).trans there, rfl, runs⟩
  have origin {other : Nat} {after : SummaryAsk T E} (there : s'.asks other = some after) :
      other = id ∧ after = new ∨ s.asks other = some after := by
    rw [asks] at there
    exact (of_update_some there).imp_right And.right
  refine truthful.moves same ?_ ?_ ?_ ?_ ?_
  · intro process hash entry there
    rw [memory] at there
    exact truthful.memory process hash entry there
  · intro other after there
    rcases origin there with ⟨-, rfl⟩ | before
    · exact ⟨asked, fine⟩
    · exact ⟨truthful.asked other after before, truthful.asks other after before⟩
  · intro process key other there
    rw [refreshes] at there
    split at there
    · next own =>
      cases there
      exact ⟨new, by rw [asks]; exact Function.update_self .., own.1.symm, own.2⟩
    · obtain ⟨before, here, own, runs⟩ := truthful.listed process key other there
      obtain ⟨after, now_there, process_same, still⟩ := task_of here runs
      exact ⟨after, now_there, process_same.trans own, still⟩
  · intro other after key there runs
    rw [refreshes]
    rcases origin there with ⟨rfl, rfl⟩ | before
    · exact if_pos ⟨rfl, runs⟩
    · have listed := truthful.running other after key before runs
      split
      · next own =>
        rw [own.1] at listed
        rw [unlisted key other own.2 listed]
      · exact listed
  · intro other after key task there joined
    obtain ⟨first, here, runs⟩ : ∃ first, s.asks task = some first ∧ first.phase.task = some key := by
      rcases origin there with ⟨-, rfl⟩ | before
      · exact joins key task joined
      · exact truthful.joins other after key task before joined
    obtain ⟨later, now_there, -, still⟩ := task_of here runs
    exact ⟨later, now_there, still⟩

theorem Truthful.setPhase {id : Nat} {ask : SummaryAsk T E}
    (known : s.asks id = some ask) {phase : SummaryPhase T E}
    (fine : s.AskTrue config { ask with phase := phase }) (same_task : phase.task = ask.phase.task)
    (joins : ∀ payload task, phase = .joined payload task →
      ∃ other, s.asks task = some other ∧ other.phase.task = some payload) :
    Truthful config (s.setPhase id ask phase) := by
  have registered {key : SummaryPayload} (runs : phase.task = some key) :
      (s.processes ask.process).manualRefreshes key = some id :=
    truthful.running id ask key known (same_task.symm.trans runs)
  refine truthful.update ⟨rfl, rfl, rfl⟩ (fun _ => rfl) rfl (truthful.asked id ask known) fine ?_ ?_ ?_
    joins
  · intro before key there runs
    cases known.symm.trans there
    exact ⟨rfl, same_task.trans runs⟩
  · intro process key
    split
    · next own =>
      rw [own.1]
      exact registered own.2
    · rfl
  · intro key other runs listed
    exact Option.some.inj (listed.symm.trans (registered runs))

theorem Truthful.withMemory (process : Nat) {memory : InsertionMap String (TodaySummaryEntry T)}
    (kept : ∀ hash entry, memory.get hash = some entry → (hash, entry) ∈ s.log) :
    Truthful config (s.setProcess process { s.processes process with memory := memory }) := by
  have refreshes (other : Nat) : ((s.setProcess process
      { s.processes process with memory := memory }).processes other).manualRefreshes =
        (s.processes other).manualRefreshes := by
    by_cases own : other = process
    · subst own
      simp [SummaryDesk.setProcess]
    · simp [SummaryDesk.setProcess, own]
  refine truthful.moves ⟨rfl, rfl, rfl⟩ ?_ ?_ ?_ ?_ truthful.joins
  · intro other hash entry there
    by_cases own : other = process
    · subst own
      simp only [SummaryDesk.setProcess, Function.update_self] at there
      exact kept hash entry there
    · simp only [SummaryDesk.setProcess, Function.update_of_ne own] at there
      exact truthful.memory other hash entry there
  · exact fun id ask known => ⟨truthful.asked id ask known, truthful.asks id ask known⟩
  · intro other payload id there
    rw [refreshes] at there
    exact truthful.listed other payload id there
  · intro id ask payload known runs
    rw [refreshes]
    exact truthful.running id ask payload known runs

theorem Truthful.remember (process : Nat) {hash : String}
    {entry : TodaySummaryEntry T} (logged : (hash, entry) ∈ s.log) :
    Truthful config (s.remember process hash entry) := by
  refine truthful.withMemory process fun other found there => ?_
  by_cases same : other = hash
  · subst same
    rw [InsertionMap.get_set_self] at there
    cases there
    exact logged
  · rw [InsertionMap.get_set_of_ne _ same] at there
    refine truthful.memory process other found ?_
    split at there
    · split at there
      · next first _ =>
        by_cases gone : other = first
        · subst gone
          rw [InsertionMap.get_erase_self] at there
          cases there
        · rwa [InsertionMap.get_erase_of_ne gone] at there
      · exact there
    · exact there

end

theorem answer_asks {ask : SummaryAsk T E} {manual payload : Option SummaryPayload}
    {reply : SummaryReply T E} {other : Nat} {after : SummaryAsk T E}
    (there : (s.answer id ask manual payload reply).asks other = some after) :
    other = id ∧ after = { ask with phase := .answered payload reply } ∨
      other ≠ id ∧ ∃ before, s.asks other = some before ∧
        ((∃ own, before.phase = .joined own id ∧
            after = { before with phase := .answered (some own) reply }) ∨
          after = before ∧ ∀ own, before.phase ≠ .joined own id) := by
  simp only [SummaryDesk.answer] at there
  split at there
  · next same => exact .inl ⟨same, (Option.some.inj there).symm⟩
  · next apart =>
    obtain ⟨before, known, rfl⟩ := Option.map_eq_some_iff.mp there
    refine .inr ⟨apart, before, known, ?_⟩
    cases phase : before.phase with
    | joined own task =>
      by_cases same : task = id
      · subst same
        exact .inl ⟨own, rfl, by simp⟩
      · exact .inr ⟨by simp [same], fun other joined => by cases joined; exact same rfl⟩
    | _ => exact .inr ⟨rfl, nofun⟩

theorem answer_keeps {ask : SummaryAsk T E} {manual payload : Option SummaryPayload}
    {reply : SummaryReply T E} {other : Nat} (apart : other ≠ id) {before : SummaryAsk T E}
    (known : s.asks other = some before) {key : SummaryPayload}
    (runs : before.phase.task = some key) :
    (s.answer id ask manual payload reply).asks other = some before := by
  simp only [SummaryDesk.answer, if_neg apart, known, Option.map_some, Option.some.injEq]
  cases phase : before.phase with
  | joined own task => simp [phase, SummaryPhase.task] at runs
  | _ => rfl

theorem Truthful.answer (truthful : Truthful config s) {id : Nat} {ask : SummaryAsk T E}
    (known : s.asks id = some ask) {payload : Option SummaryPayload} {reply : SummaryReply T E}
    (fine : s.AskTrue config { ask with phase := .answered payload reply })
    (own_task : ∀ key, ask.phase.task = some key → payload = some key) :
    Truthful config (s.answer id ask ask.phase.task payload reply) := by
  have memory (process : Nat) :
      ((s.answer id ask ask.phase.task payload reply).processes process).memory =
        (s.processes process).memory := by
    cases ask.phase.task with
    | none => rfl
    | some running =>
      by_cases own : process = ask.process
      · simp [SummaryDesk.answer, SummaryDesk.setProcess, own]
      · simp [SummaryDesk.answer, SummaryDesk.setProcess, own]
  have refreshes (process : Nat) (key : SummaryPayload) :
      ((s.answer id ask ask.phase.task payload reply).processes process).manualRefreshes key =
        if process = ask.process ∧ ask.phase.task = some key then none
        else (s.processes process).manualRefreshes key := by
    cases ask.phase.task with
    | none => simp [SummaryDesk.answer]
    | some running =>
      by_cases own : process = ask.process
      · subst own
        by_cases same : key = running
        · simp [SummaryDesk.answer, SummaryDesk.setProcess, same]
        · simp [SummaryDesk.answer, SummaryDesk.setProcess, same, Ne.symm same]
      · simp [SummaryDesk.answer, SummaryDesk.setProcess, own]
  have unchanged : (s.answer id ask ask.phase.task payload reply).cache = s.cache ∧
      (s.answer id ask ask.phase.task payload reply).log = s.log ∧
      (s.answer id ask ask.phase.task payload reply).redis = s.redis := by
    cases ask.phase.task <;> exact ⟨rfl, rfl, rfl⟩
  refine truthful.moves unchanged ?_ ?_ ?_ ?_ ?_
  · intro process hash entry there
    rw [memory] at there
    exact truthful.memory process hash entry there
  · intro other after there
    rcases answer_asks there with ⟨-, rfl⟩ | ⟨-, before, here, ⟨own, joined, rfl⟩ | ⟨rfl, -⟩⟩
    · exact ⟨truthful.asked id ask known, fine⟩
    · refine ⟨truthful.asked other before here, ?_⟩
      obtain ⟨first, found, runs⟩ := truthful.joins other before own id here joined
      cases known.symm.trans found
      have same := own_task own runs
      subst same
      have made := truthful.asks other before here
      simp only [AskTrue, joined] at made
      exact ⟨made, fine.2⟩
    · exact ⟨truthful.asked other after here, truthful.asks other after here⟩
  · intro process key other there
    rw [refreshes] at there
    split at there
    · cases there
    · next still =>
      obtain ⟨before, here, own, runs⟩ := truthful.listed process key other there
      refine ⟨before, answer_keeps ?_ here runs, own, runs⟩
      rintro rfl
      cases known.symm.trans here
      exact still ⟨own.symm, runs⟩
  · intro other after key there runs
    rcases answer_asks there with ⟨-, rfl⟩ | ⟨apart, before, here, ⟨own, -, rfl⟩ | ⟨rfl, -⟩⟩
    · cases runs
    · cases runs
    · have listed := truthful.running other after key here runs
      rw [refreshes, if_neg ?_]
      · exact listed
      · rintro ⟨same, task⟩
        have own := truthful.running id ask key known task
        rw [← same, listed] at own
        exact apart (Option.some.inj own)
  · intro other after key task there joined
    rcases answer_asks there with ⟨-, rfl⟩ | ⟨-, before, here, ⟨own, -, rfl⟩ | ⟨rfl, free⟩⟩
    · cases joined
    · cases joined
    · obtain ⟨first, found, runs⟩ := truthful.joins other after key task here joined
      refine ⟨first, answer_keeps ?_ found runs, runs⟩
      rintro rfl
      exact free key joined

theorem Truthful.settle (truthful : Truthful config s) {id : Nat} {ask : SummaryAsk T E}
    (known : s.asks id = some ask) {payload : SummaryPayload} {manual : Bool}
    (task : ask.phase.task = if manual then some payload else none)
    (made : s.MadeFor config ask payload) {reply : SummaryReply T E}
    (fine : s.ReplyTrue config payload reply) :
    Truthful config (s.settle id ask payload manual reply) := by
  have answered : Truthful config (s.answer id ask ask.phase.task (some payload) reply) := by
    refine truthful.answer known ⟨made, fine⟩ fun key runs => ?_
    rw [task] at runs
    cases manual with
    | false => cases runs
    | true => exact runs
  rwa [task] at answered

theorem callStep_calls {V : Type} {caches : CacheConfig V} {cache : OrdersCache V E}
    (unused : cache.calls call = none) (process : Nat) (read : CacheRead V E) :
    ∃ asked, (cacheStep caches cache (.call call process read)).calls call = some asked ∧
      asked.read = read := by
  simp only [cacheStep, OrdersCache.callStep, unused, Option.isSome_none, Bool.false_eq_true,
    if_false]
  split
  · exact ⟨_, Function.update_self .., rfl⟩
  · split
    · obtain ⟨phase, -, calls⟩ := askCircuit_calls (s := cache) call
        ⟨process, read, cache.now, .direct⟩
      exact ⟨_, by rw [calls]; exact Function.update_self .., rfl⟩
    · exact ⟨_, Function.update_self .., rfl⟩

section
variable (truthful : Truthful config s)
include truthful

theorem Truthful.startManual {ask : SummaryAsk T E}
    (known : s.asks id = some ask) (idle : ask.phase.task = none) {payload : SummaryPayload}
    (free : (s.processes ask.process).manualRefreshes payload = none)
    (fine : s.AskTrue config { ask with phase := .reading payload true call })
    (times : SummaryPayload → Option Instant) (starts : List (Nat × SummaryPayload × Instant)) :
    Truthful config { (s.setPhase id ask (.reading payload true call)).setProcess ask.process
      { s.processes ask.process with
        manualRefreshAt := times
        manualRefreshes :=
          Function.update (s.processes ask.process).manualRefreshes payload (some id) } with
      manualStarts := starts } := by
  refine truthful.update ⟨rfl, rfl, rfl⟩ ?_ rfl (truthful.asked id ask known) fine ?_ ?_ ?_ nofun
  · intro process
    by_cases own : process = ask.process <;>
      simp [SummaryDesk.setProcess, SummaryDesk.setPhase, own]
  · intro before key there runs
    cases known.symm.trans there
    rw [idle] at runs
    cases runs
  · intro process key
    by_cases own : process = ask.process
    · by_cases same : key = payload
      · simp [SummaryDesk.setProcess, SummaryPhase.task, own, same]
      · simp [SummaryDesk.setProcess, SummaryPhase.task, own, same, Ne.symm same]
    · simp [SummaryDesk.setProcess, SummaryDesk.setPhase, own]
  · intro key other runs listed
    cases runs
    cases free.symm.trans listed

theorem Truthful.startFresh {id : Nat} {ask : SummaryAsk T E}
    (known : s.asks id = some ask) (idle : ask.phase.task = none) {payload : SummaryPayload}
    (made : s.MadeFor config ask payload) {forceRefresh : Bool}
    (free : forceRefresh = true → (s.processes ask.process).manualRefreshes payload = none)
    (call : Nat) : Truthful config (s.startFresh config id ask payload forceRefresh call) := by
  unfold SummaryDesk.startFresh
  split
  · exact truthful
  · next unused =>
    generalize reads : (⟨config.key payload, .fixed todaySummaryTtl, forceRefresh,
      config.shouldOpenClientOrdersOnecCircuit⟩ : CacheRead (CachedRead T X) E) = read
    have called : Truthful config (s.stepCache config (.call call ask.process read)) :=
      truthful.withCache (.call call ask.process read) [] nofun nofun
    obtain ⟨asked, there, same⟩ := callStep_calls unused ask.process read
    have later : Grows s (s.stepCache config (.call call ask.process read)) :=
      ⟨cacheStep_now _, List.Subset.refl _, fun _ _ before => cacheStep_reads before _⟩
    have fine : (s.stepCache config (.call call ask.process read)).AskTrue config
        { ask with phase := .reading payload forceRefresh call } :=
      ⟨made.grows later, asked, there, by rw [same, ← reads]⟩
    cases forceRefresh with
    | false =>
      have idle_too : (SummaryPhase.reading payload false call : SummaryPhase T E).task =
          ask.phase.task := idle.symm
      exact called.setPhase known fine idle_too nofun
    | true => exact called.startManual known idle (free rfl) fine _ _

theorem Truthful.readManager {id : Nat} {ask : SummaryAsk T E}
    (known : s.asks id = some ask) {forceRefresh : Bool} (phase : ask.phase = .manager forceRefresh)
    (onecUserGuid : Option String) : Truthful config (s.readManager id ask onecUserGuid) := by
  have fine : s.AskTrue config { ask with onecUserGuid := onecUserGuid } := by
    simp only [AskTrue, phase]
  refine truthful.update ⟨rfl, rfl, rfl⟩ (fun _ => rfl) rfl (truthful.asked id ask known) fine ?_ ?_ ?_
    ?_
  · intro before key there runs
    cases known.symm.trans there
    exact ⟨rfl, runs⟩
  · intro process key
    simp [SummaryDesk.readManager, phase, SummaryPhase.task]
  · intro key other runs
    simp [phase, SummaryPhase.task] at runs
  · intro key task joined
    simp [phase] at joined

theorem Truthful.withManager {id : Nat} {ask : SummaryAsk T E}
    (known : s.asks id = some ask) {forceRefresh : Bool} (phase : ask.phase = .manager forceRefresh)
    (call : Nat) : Truthful config (s.withManager config id ask forceRefresh call) := by
  have idle : ask.phase.task = none := by rw [phase]; rfl
  unfold SummaryDesk.withManager
  split
  · have fine : s.AskTrue config { ask with phase := .answered none (.failed .noManagerGuid) } :=
      ⟨_, rfl⟩
    have answered := truthful.answer known fine (by simp [idle])
    rwa [idle] at answered
  · next managerGuid found =>
    have made : s.MadeFor config ask ⟨managerGuid, config.omskDate s.now⟩ :=
      ⟨(Option.filter_eq_some_iff.mp found).1, s.now, truthful.asked id ask known, Nat.le_refl _, rfl⟩
    dsimp only
    split
    · split
      · next task registered =>
        obtain ⟨other, found, -, runs⟩ := truthful.listed _ _ task registered
        refine truthful.setPhase known made idle.symm fun payload joined same => ?_
        cases same
        exact ⟨other, found, runs⟩
      · next free =>
        split
        · exact truthful.setPhase known trivial idle.symm nofun
        · exact truthful.startFresh known idle made (fun _ => free) call
    · refine truthful.startFresh known idle made ?_ call
      exact nofun

theorem Truthful.loadStale {id : Nat} {ask : SummaryAsk T E}
    (known : s.asks id = some ask) {payload : SummaryPayload} {manual : Bool}
    (task : ask.phase.task = if manual then some payload else none)
    (made : s.MadeFor config ask payload) (error : SummaryError E) :
    Truthful config (s.loadStale config id ask payload manual error) := by
  unfold SummaryDesk.loadStale
  dsimp only
  split
  · exact truthful.setPhase known made task.symm nofun
  · next entry there =>
    have logged := truthful.memory _ _ entry there
    split
    · exact truthful.settle known task made
        ⟨logged, ⟨truthful.past _ _ logged, Nat.le_refl _⟩, nofun⟩
    · have erased : Truthful config (s.setProcess ask.process { s.processes ask.process with
          memory := (s.processes ask.process).memory.erase (config.hash payload) }) := by
        refine truthful.withMemory ask.process fun hash found here => ?_
        by_cases same : hash = config.hash payload
        · rw [same, InsertionMap.get_erase_self] at here
          cases here
        · rw [InsertionMap.get_erase_of_ne same] at here
          exact truthful.memory _ hash found here
      exact erased.setPhase known made task.symm nofun

theorem Truthful.told {payload : SummaryPayload}
    {asked : OrdersCall (CachedRead T X) E} (known : s.cache.calls call = some asked)
    (key : asked.read.key = config.key payload) {entry : TodaySummaryEntry T}
    (got : asked.phase.got = some (.todaySummary entry)) :
    (config.hash payload, entry) ∈ s.log := by
  have logged := truthful.sourced.told call asked _ known got
  rw [key] at logged
  exact logged rfl

end

theorem age_of_fresh {entry : TodaySummaryEntry T} {now : Instant} (fresh : ¬entry.isStale now = true) :
    now ≤ entry.fetchedAt + todaySummaryTtl * 1000 := by
  have young : now - entry.fetchedAt ≤ todaySummaryTtl * 1000 :=
    Nat.le_of_not_lt fun stale => fresh (decide_eq_true stale)
  exact Nat.sub_le_iff_le_add'.mp young

section
variable (truthful : Truthful config s)
include truthful

theorem Truthful.withReading {id : Nat} {ask : SummaryAsk T E}
    (known : s.asks id = some ask) {payload : SummaryPayload} {manual : Bool}
    (task : ask.phase.task = if manual then some payload else none)
    (made : s.MadeFor config ask payload) {reply : CacheReply (CachedRead T X) E}
    (logged : ∀ entry, reply = .value (.todaySummary entry) → (config.hash payload, entry) ∈ s.log) :
    Truthful config (s.withReading config id ask payload manual reply) := by
  unfold SummaryDesk.withReading
  split
  · next entry =>
    have here := logged entry rfl
    have past := truthful.past _ _ here
    split
    · exact truthful.settle known task made ⟨here, ⟨past, Nat.le_refl _⟩, nofun⟩
    · next fresh =>
      have judged : s.Judged config payload entry.value false entry.fetchedAt s.now :=
        ⟨here, ⟨past, Nat.le_refl _⟩, fun _ => age_of_fresh fresh⟩
      have grows : Grows s (s.remember ask.process (config.hash payload) entry) :=
        grows_of_cache rfl rfl
      exact (truthful.remember ask.process here).setPhase known
        ⟨made.grows grows, judged.grows grows⟩ task.symm nofun
  · exact truthful
  · exact truthful.loadStale known task made _
  · exact truthful.loadStale known task made _

theorem Truthful.resume {id : Nat} {ask : SummaryAsk T E}
    (known : s.asks id = some ask) {payload : SummaryPayload} {manual : Bool} {call : Nat}
    (phase : ask.phase = .reading payload manual call) :
    Truthful config (s.resume config id ask payload manual call) := by
  have fine := truthful.asks id ask known
  simp only [AskTrue, phase] at fine
  obtain ⟨made, asked, there, key⟩ := fine
  have task : ask.phase.task = if manual then some payload else none := by rw [phase]; rfl
  simp only [SummaryDesk.resume, there]
  split
  · next reply answered =>
    refine truthful.withReading known task made fun entry told => ?_
    exact truthful.told there key (by rw [answered, told]; rfl)
  · next load reply loaded =>
    refine truthful.withReading known task made fun entry told => ?_
    exact truthful.told there key (by rw [loaded, told]; rfl)
  · exact truthful

theorem Truthful.withRedis {redis : String → Option (TodaySummaryEntry T × Instant)}
    (kept : ∀ hash found, redis hash = some found → (hash, found.1) ∈ s.log) :
    Truthful config { s with redis := redis } :=
  have grows : Grows s { s with redis := redis } := grows_of_cache rfl rfl
  ⟨truthful.registered, truthful.sourced, truthful.past, truthful.memory, kept, truthful.asked,
    fun id ask known => (truthful.asks id ask known).grows grows, truthful.listed, truthful.running,
    truthful.joins⟩

theorem Truthful.persisted {id : Nat} {ask : SummaryAsk T E}
    (known : s.asks id = some ask) {payload : SummaryPayload} {manual : Bool}
    {entry : TodaySummaryEntry T} {judgedAt : Instant}
    (phase : ask.phase = .persisting payload manual entry judgedAt) (landed : Bool) :
    Truthful config (s.persisted config id ask payload manual entry judgedAt landed) := by
  have fine := truthful.asks id ask known
  simp only [AskTrue, phase] at fine
  obtain ⟨made, judged⟩ := fine
  have task : ask.phase.task = if manual then some payload else none := by rw [phase]; rfl
  unfold SummaryDesk.persisted
  dsimp only
  generalize writing : (if landed then Function.update s.redis (config.hash payload)
    (some (entry, s.now + todaySummaryStaleTtlSeconds * 1000)) else s.redis) = redis
  have grows : Grows s { s with redis := redis } := grows_of_cache rfl rfl
  have kept : Truthful config { s with redis := redis } := by
    subst writing
    refine truthful.withRedis ?_
    split
    · exact each_update truthful.redis judged.logged
    · exact truthful.redis
  exact kept.settle known task (made.grows grows) (judged.grows grows)

theorem Truthful.readStale {id : Nat} {ask : SummaryAsk T E}
    (known : s.asks id = some ask) {payload : SummaryPayload} {manual : Bool}
    {error : SummaryError E} (phase : ask.phase = .staleRead payload manual error)
    (answered : Bool) : Truthful config (s.readStale config id ask payload manual error answered) := by
  have made := truthful.asks id ask known
  simp only [AskTrue, phase] at made
  have task : ask.phase.task = if manual then some payload else none := by rw [phase]; rfl
  unfold SummaryDesk.readStale
  split
  · next entry expiresAt found =>
    have there := (Option.filter_eq_some_iff.mp found).1
    split at there
    · have logged := truthful.redis _ _ there
      have remembered := truthful.remember ask.process logged
      exact remembered.settle known task made
        ⟨logged, ⟨truthful.past _ _ logged, Nat.le_refl _⟩, nofun⟩
    · cases there
  · exact truthful.settle known task made trivial

theorem Truthful.continueAsk {id : Nat} {ask : SummaryAsk T E}
    (known : s.asks id = some ask) (event : SummaryEvent T X E) :
    Truthful config (s.continueAsk config id event ask) := by
  unfold SummaryDesk.continueAsk
  split
  · next phase =>
    refine (truthful.readManager known phase _).withManager (Function.update_self ..) ?_ _
    exact phase
  · next phase => exact truthful.resume known phase
  · next phase => exact truthful.persisted known phase _
  · next phase => exact truthful.readStale known phase _
  · exact truthful

theorem Truthful.ask (unused : s.asks id = none) (process : Nat) (forceRefresh : Bool) :
    Truthful config { s with
      asks := Function.update s.asks id (some ⟨process, s.now, none, .manager forceRefresh⟩) } := by
  refine truthful.update ⟨rfl, rfl, rfl⟩ (fun _ => rfl) rfl (Nat.le_refl _) trivial ?_ ?_ nofun nofun
  · intro before key there
    cases unused.symm.trans there
  · intro other key
    simp [SummaryPhase.task]

theorem summaryStep_truthful (event : SummaryEvent T X E) :
    Truthful config (summaryStep config s event) := by
  have onAsk (id : Nat) (event : SummaryEvent T X E) :
      Truthful config ((s.asks id).elim s (s.continueAsk config id event)) :=
    elim_rule truthful fun ask known => truthful.continueAsk known event
  cases event with
  | cache action =>
    simp only [summaryStep]
    split
    · next foreign => exact truthful.foreign foreign
    · exact truthful
  | live call outcome => exact truthful.live call outcome
  | ask id process forceRefresh =>
    simp only [summaryStep]
    split
    · exact truthful
    · next unused => exact truthful.ask unused process forceRefresh
  | manager id call onecUserGuid => exact onAsk id _
  | resume id => exact onAsk id _
  | persisted id landed => exact onAsk id _
  | staleRead id answered => exact onAsk id _
  | forgetStale hash =>
    exact truthful.withRedis fun other found there => truthful.redis other found (of_update_none there).2

end

theorem truthful_start (config : SummaryConfig T X E) (now : Instant) :
    Truthful config (start now : SummaryDesk T X E) where
  registered := registered_start now
  sourced := sourced_start _ now
  past := nofun
  memory := nofun
  redis := nofun
  asked := nofun
  asks := nofun
  listed := nofun
  running := nofun
  joins := nofun

end SummaryDesk
end Keeping

section Runs
variable {T X E : Type}
namespace SummaryDesk

/-- Every summary that somebody has been told is one that 1C gave for the GUID that was read of the
manager and a day that it was in Omsk since the ask, and what is not called stale was at most thirty
seconds old. -/
def ToldTruly (config : SummaryConfig T X E) (s : SummaryDesk T X E) : Prop :=
  ∀ id ask payload value stale fetchedAt judgedAt, s.asks id = some ask →
    ask.phase = .answered payload (.summary value stale fetchedAt judgedAt) →
      ∃ own, payload = some own ∧ s.MadeFor config ask own ∧
        s.Judged config own value stale fetchedAt judgedAt

theorem Truthful.toldTruly {config : SummaryConfig T X E} {s : SummaryDesk T X E}
    (truthful : Truthful config s) : ToldTruly config s := by
  intro id ask payload value stale fetchedAt judgedAt known phase
  have fine := truthful.asks id ask known
  simp only [AskTrue, phase] at fine
  cases payload with
  | none =>
    obtain ⟨error, told⟩ := fine
    cases told
  | some own => exact ⟨own, rfl, fine.1, fine.2⟩

/-- Whatever goes on in the caches, with 1C and with the forced readings of all processes. -/
theorem summaries_told_truly (config : SummaryConfig T X E) (now : Instant)
    (events : List (SummaryEvent T X E)) :
    Always (summaryStep config) (ToldTruly config) (start now) events :=
  always_of_invariant (J := Truthful config) (fun _ event truthful => summaryStep_truthful truthful event)
    (fun _ truthful => truthful.toldTruly) (truthful_start config now) events

end SummaryDesk
end Runs

end LeaderProduct
