import LeaderProduct.OrdersCache
import LeaderProduct.Transition

/-! One load for a key in a process at a time. The registration of a load is there for as long as
the load is, and every call that joins it is told what it came to. -/
namespace LeaderProduct
open Transition

variable {id l : Nat}

section Effects
variable {V E : Type} {config : CacheConfig V} {s : OrdersCache V E}

def OrdersCache.pending (s : OrdersCache V E) (process : Nat) (key : OrdersCacheKey) : Option Nat :=
  (s.processes process).pendingReads key

def CallPhase.Alone : CallPhase V E → Prop
  | .waiting _ | .loaded _ _ => False
  | _ => True

def OrdersCache.Origin (s : OrdersCache V E) (action : CacheAction V E) (id : Nat)
    (call : OrdersCall V E) : Prop :=
  (action = .call id call.process call.read ∧ call.startedAt = s.now) ∨
    ∃ old, s.calls id = some old ∧ old.read = call.read ∧ old.startedAt = call.startedAt

inductive CacheEffect (s s' : OrdersCache V E) (action : CacheAction V E) : Prop
  | idle (pending : s'.pending = s.pending) (loads : s'.loads = s.loads) (calls : s'.calls = s.calls)
  | moves (id : Nat) (call : OrdersCall V E) (before : ∀ old, s.calls id = some old → old.phase.Alone)
      (alone : call.phase.Alone) (origin : s.Origin action id call)
      (pending : s'.pending = s.pending) (loads : s'.loads = s.loads)
      (calls : s'.calls = Function.update s.calls id (some call))
  | joins (id load : Nat) (call : OrdersCall V E) (known : s.calls id = some call)
      (before : call.phase.Alone) (there : s.pending call.process call.read.key = some load)
      (pending : s'.pending = s.pending) (loads : s'.loads = s.loads)
      (calls : s'.calls = Function.update s.calls id (some { call with phase := .waiting load }))
  | starts (id : Nat) (call : OrdersCall V E) (known : s.calls id = some call)
      (before : call.phase.Alone) (free : s.pending call.process call.read.key = none)
      (pending : s'.pending = Function.update s.pending call.process
        (Function.update (s.pending call.process) call.read.key (some id)))
      (loads : s'.loads =
        Function.update s.loads id (some ⟨call.process, call.read, .running⟩))
      (calls : s'.calls = Function.update s.calls id (some { call with phase := .waiting id }))
  | settles (id : Nat) (load : OrdersLoad V E) (outcome : Except E V)
      (known : s.loads id = some load) (pending : s'.pending = s.pending)
      (loads : s'.loads =
        Function.update s.loads id (some { load with phase := .closing outcome }))
      (calls : s'.calls = s.calls)
  | finishes (id : Nat) (load : OrdersLoad V E) (outcome : Except E V)
      (known : s.loads id = some load)
      (pending : s'.pending = Function.update s.pending load.process
        (Function.update (s.pending load.process) load.read.key none))
      (loads : s'.loads = Function.update s.loads id none)
      (calls : s'.calls =
        fun other => (s.calls other).map (OrdersCall.toldBy id (replyOf outcome)))

theorem pending_setProcess {process : Nat} {p : ReaderProcess V}
    (same : p.pendingReads = (s.processes process).pendingReads) :
    (s.setProcess process p).pending = s.pending := by
  funext other key
  unfold OrdersCache.pending OrdersCache.setProcess
  dsimp only
  by_cases here : other = process
  · subst here
    rw [Function.update_self, same]
  · rw [Function.update_of_ne here]

theorem pending_update (process : Nat) (key : OrdersCacheKey) (load : Option Nat) :
    (s.setProcess process { s.processes process with
        pendingReads := Function.update (s.processes process).pendingReads key load }).pending =
      Function.update s.pending process (Function.update (s.pending process) key load) := by
  funext other
  unfold OrdersCache.pending OrdersCache.setProcess
  by_cases here : other = process
  · subst here
    simp
  · simp [here]

theorem askCircuit_effect {call : OrdersCall V E} {action : CacheAction V E}
    (before : ∀ old, s.calls id = some old → old.phase.Alone) (origin : s.Origin action id call) :
    CacheEffect s (s.askCircuit id call) action := by
  unfold OrdersCache.askCircuit
  dsimp only
  split
  · exact .moves id { call with phase := .circuitRead } before True.intro origin rfl rfl rfl
  · split
    · exact .moves id { call with phase := .circuitKnown true } before True.intro origin rfl rfl rfl
    · exact .moves id { call with phase := .circuitRead } before True.intro origin
        (pending_setProcess rfl) rfl rfl

theorem callStep_effect (id process : Nat) (read : CacheRead V E) :
    CacheEffect s (s.callStep config id process read) (.call id process read) := by
  unfold OrdersCache.callStep
  dsimp only
  split
  · exact .idle rfl rfl rfl
  · next unused =>
    have before : ∀ old, s.calls id = some old → old.phase.Alone := by
      intro old known
      simp [known] at unused
    split
    · exact .moves id ⟨process, read, s.now, .direct⟩ before True.intro (.inl ⟨rfl, rfl⟩) rfl rfl rfl
    · split
      · exact askCircuit_effect before (.inl ⟨rfl, rfl⟩)
      · refine .moves id ⟨process, read, s.now, _⟩ before ?_ (.inl ⟨rfl, rfl⟩)
          (pending_setProcess rfl) rfl rfl
        split <;> exact True.intro

theorem remember_pending (process : Nat) (key : OrdersCacheKey) (value : V) (ttl : Nat) :
    (s.remember process key value ttl).pending = s.pending := pending_setProcess rfl

theorem loadStep_effect {call : OrdersCall V E} {action : CacheAction V E}
    (known : s.calls id = some call) (before : call.phase.Alone) :
    CacheEffect s (s.loadStep id call) action := by
  unfold OrdersCache.loadStep
  dsimp only
  split
  · next load there => exact .joins id load call known before there rfl rfl rfl
  · next free => exact .starts id call known before free (pending_update ..) rfl rfl

theorem continueCall_effect {call : OrdersCall V E} (known : s.calls id = some call)
    (action : CacheAction V E) : CacheEffect s (s.continueCall config id action call) action := by
  have origin (phase : CallPhase V E) (act : CacheAction V E) :
      s.Origin act id { call with phase := phase } := .inr ⟨call, known, rfl, rfl⟩
  have only {phase : CallPhase V E} (here : call.phase = phase) (alone : phase.Alone)
      (old : OrdersCall V E)
      (there : s.calls id = some old) : old.phase.Alone := by
    cases known.symm.trans there
    rw [here]
    exact alone
  unfold OrdersCache.continueCall
  split
  · next here =>
    exact .moves id { call with phase := .answered _ } (only here True.intro) True.intro (origin ..)
      rfl rfl rfl
  · next here =>
    unfold OrdersCache.redisReadStep
    split
    · exact .moves id { call with phase := .answered _ } (only here True.intro) True.intro
        (origin ..) (remember_pending ..) rfl rfl
    · exact askCircuit_effect (only here True.intro) (origin ..)
  · next here =>
    exact .moves id { call with phase := .circuitKnown _ } (only here True.intro) True.intro
      (origin ..) rfl rfl rfl
  · next here =>
    refine .moves id { call with phase := _ } (only here True.intro) ?_ (origin ..)
      (pending_setProcess rfl) rfl rfl
    dsimp only
    split <;> exact True.intro
  · next here => exact loadStep_effect known (only here True.intro call known)
  · exact .idle rfl rfl rfl

theorem rejectStep_effect {load : OrdersLoad V E} {action : CacheAction V E}
    (known : s.loads id = some load) (error : E) :
    CacheEffect s (s.rejectStep config id load error) action := by
  unfold OrdersCache.rejectStep
  dsimp only
  split
  · exact .settles id load (.error error) known (pending_setProcess rfl) rfl rfl
  · exact .settles id load (.error error) known rfl rfl rfl

theorem continueLoad_effect {load : OrdersLoad V E} (known : s.loads id = some load)
    (action : CacheAction V E) : CacheEffect s (s.continueLoad config id action load) action := by
  unfold OrdersCache.continueLoad
  split
  · unfold OrdersCache.settleStep
    split
    · exact rejectStep_effect known _
    · next value =>
      split
      · exact rejectStep_effect known _
      · exact .settles id load (.ok value) known rfl rfl rfl
      · exact .settles id load (.ok value) known (remember_pending ..) rfl rfl
  · next outcome _ => exact .finishes id load outcome known (pending_update ..) rfl rfl
  · exact .idle rfl rfl rfl

theorem cacheStep_effect (action : CacheAction V E) :
    CacheEffect s (cacheStep config s action) action := by
  have onCall (id : Nat) (action : CacheAction V E) :
      CacheEffect s ((s.calls id).elim s (s.continueCall config id action)) action :=
    elim_rule (P := fun after => CacheEffect s after action) (.idle rfl rfl rfl)
      fun _ known => continueCall_effect known action
  have onLoad (id : Nat) (action : CacheAction V E) :
      CacheEffect s ((s.loads id).elim s (s.continueLoad config id action)) action :=
    elim_rule (P := fun after => CacheEffect s after action) (.idle rfl rfl rfl)
      fun _ known => continueLoad_effect known action
  cases action with
  | call id process read => exact callStep_effect id process read
  | direct id outcome => exact onCall id _
  | redisRead id answered => exact onCall id _
  | circuitRead id answered => exact onCall id _
  | proceed id => exact onCall id _
  | load id outcome => exact onLoad id _
  | finish id => exact onLoad id _
  | land position =>
    simp only [cacheStep, OrdersCache.landStep]
    split
    · exact .idle rfl rfl rfl
    · next write _ => cases write <;> exact .idle rfl rfl rfl
  | clearClientOrdersOnecCircuit process scope => exact .idle (pending_setProcess rfl) rfl rfl
  | tick | forgetRead | forgetCircuit => exact .idle rfl rfl rfl

variable {s' : OrdersCache V E} {action : CacheAction V E}

theorem toldBy_read (load : Nat) (reply : CacheReply V E) (call : OrdersCall V E) :
    (call.toldBy load reply).read = call.read ∧
      (call.toldBy load reply).startedAt = call.startedAt := by
  unfold OrdersCall.toldBy
  split
  · split <;> exact ⟨rfl, rfl⟩
  · exact ⟨rfl, rfl⟩

theorem CacheEffect.origin (effect : CacheEffect s s' action) {id : Nat} {call : OrdersCall V E}
    (after : s'.calls id = some call) : s.Origin action id call := by
  have updated {i : Nat} {new : OrdersCall V E} (calls : s'.calls = Function.update s.calls i (some new))
      (known : s.Origin action i new) : s.Origin action id call := by
    rw [calls] at after
    by_cases own : id = i
    · subst own
      rw [Function.update_self] at after
      cases after
      exact known
    · rw [Function.update_of_ne own] at after
      exact .inr ⟨call, after, rfl, rfl⟩
  cases effect with
  | idle _ _ calls =>
    rw [calls] at after
    exact .inr ⟨call, after, rfl, rfl⟩
  | moves i new _ _ origin _ _ calls => exact updated calls origin
  | joins i load old known _ _ _ _ calls => exact updated calls (.inr ⟨old, known, rfl, rfl⟩)
  | starts i old known _ _ _ _ calls => exact updated calls (.inr ⟨old, known, rfl, rfl⟩)
  | settles _ _ _ _ _ _ calls =>
    rw [calls] at after
    exact .inr ⟨call, after, rfl, rfl⟩
  | finishes i load outcome _ _ _ calls =>
    rw [calls] at after
    obtain ⟨old, known, rfl⟩ := Option.map_eq_some_iff.mp after
    obtain ⟨read, startedAt⟩ := toldBy_read i (replyOf outcome) old
    exact .inr ⟨old, known, read.symm, startedAt.symm⟩

theorem CacheEffect.load_origin (effect : CacheEffect s s' action) {load : OrdersLoad V E}
    (after : s'.loads l = some load) :
    (∃ old, s.loads l = some old ∧ old.read = load.read) ∨
      ∃ call, s.calls l = some call ∧ call.read = load.read := by
  have kept (there : s.loads l = some load) : (∃ old, s.loads l = some old ∧ old.read = load.read) ∨
      ∃ call, s.calls l = some call ∧ call.read = load.read := .inl ⟨load, there, rfl⟩
  cases effect with
  | idle _ loads _ => exact kept (by rw [← loads, after])
  | moves _ _ _ _ _ _ loads _ => exact kept (by rw [← loads, after])
  | joins _ _ _ _ _ _ _ loads _ => exact kept (by rw [← loads, after])
  | starts id call known _ _ _ loads _ =>
    rw [loads] at after
    by_cases own : l = id
    · subst own
      rw [Function.update_self] at after
      cases after
      exact .inr ⟨call, known, rfl⟩
    · rw [Function.update_of_ne own] at after
      exact kept after
  | settles id old outcome known _ loads _ =>
    rw [loads] at after
    by_cases own : l = id
    · subst own
      rw [Function.update_self] at after
      cases after
      exact .inl ⟨old, known, rfl⟩
    · rw [Function.update_of_ne own] at after
      exact kept after
  | finishes id old outcome known _ loads _ =>
    rw [loads] at after
    by_cases own : l = id
    · subst own
      rw [Function.update_self] at after
      cases after
    · rw [Function.update_of_ne own] at after
      exact kept after

end Effects

section Invariant
variable {V E : Type} {config : CacheConfig V} {s s' : OrdersCache V E}

structure Registered (s : OrdersCache V E) : Prop where
  live : ∀ p key l, s.pending p key = some l →
    ∃ load, s.loads l = some load ∧ load.process = p ∧ load.read.key = key
  listed : ∀ l load, s.loads l = some load → s.pending load.process load.read.key = some l
  started : ∀ l load, s.loads l = some load →
    ∃ call, s.calls l = some call ∧ call.phase = .waiting l
  waiting : ∀ id call l, s.calls id = some call → call.phase = .waiting l → (s.loads l).isSome
  told : ∀ id call l reply, s.calls id = some call → call.phase = .loaded l reply →
    ∃ first, s.calls l = some first ∧ first.phase = .loaded l reply

theorem registered_start (now : Instant) : Registered (OrdersCache.start now : OrdersCache V E) := by
  constructor
  case live => exact fun _ _ _ here => by cases here
  case listed => exact fun _ _ here => by cases here
  case started => exact fun _ _ here => by cases here
  case waiting => exact fun _ _ _ here => by cases here
  case told => exact fun _ _ _ _ here => by cases here

theorem CallPhase.Alone.not_waiting {phase : CallPhase V E} (alone : phase.Alone) (l : Nat) :
    phase ≠ .waiting l := by
  rintro rfl
  exact alone

theorem CallPhase.Alone.not_loaded {phase : CallPhase V E} (alone : phase.Alone) (l : Nat)
    (reply : CacheReply V E) : phase ≠ .loaded l reply := by
  rintro rfl
  exact alone

theorem update_pending (pending : Nat → OrdersCacheKey → Option Nat) (p q : Nat)
    (key other : OrdersCacheKey) (value : Option Nat) :
    Function.update pending p (Function.update (pending p) key value) q other =
      if q = p ∧ other = key then value else pending q other := by
  by_cases process : q = p
  · subst process
    by_cases same : other = key <;> simp [same]
  · simp [process]

theorem Registered.moves {call : OrdersCall V E} (reg : Registered s)
    (before : ∀ old, s.calls id = some old → old.phase.Alone) (alone : call.phase.Alone)
    (pending : s'.pending = s.pending) (loads : s'.loads = s.loads)
    (calls : s'.calls = Function.update s.calls id (some call)) : Registered s' := by
  have other {l : Nat} {first : OrdersCall V E} (known : s.calls l = some first)
      (busy : ¬first.phase.Alone) : s'.calls l = some first := by
    have ne : l ≠ id := by
      rintro rfl
      exact busy (before first known)
    rw [calls, Function.update_of_ne ne, known]
  have back {l : Nat} {now : OrdersCall V E} (known : s'.calls l = some now)
      (busy : ¬now.phase.Alone) : s.calls l = some now := by
    have ne : l ≠ id := by
      rintro rfl
      rw [calls, Function.update_self] at known
      cases known
      exact busy alone
    rwa [calls, Function.update_of_ne ne] at known
  constructor
  case live =>
    rw [pending, loads]
    exact reg.live
  case listed =>
    rw [pending, loads]
    exact reg.listed
  case started =>
    rw [loads]
    intro l load here
    obtain ⟨first, known, phase⟩ := reg.started l load here
    exact ⟨first, other known (fun quiet => quiet.not_waiting l phase), phase⟩
  case waiting =>
    rw [loads]
    intro i now l known phase
    exact reg.waiting i now l (back known (fun quiet => quiet.not_waiting l phase)) phase
  case told =>
    intro i now l reply known phase
    obtain ⟨first, there, same⟩ :=
      reg.told i now l reply (back known (fun quiet => quiet.not_loaded l reply phase)) phase
    exact ⟨first, other there (fun quiet => quiet.not_loaded l reply same), same⟩

theorem Registered.told_joins {call : OrdersCall V E} (reg : Registered s)
    (known : s.calls id = some call) (before : call.phase.Alone)
    (calls : s'.calls = Function.update s.calls id (some { call with phase := .waiting l })) :
    ∀ i now m reply, s'.calls i = some now → now.phase = .loaded m reply →
      ∃ first, s'.calls m = some first ∧ first.phase = .loaded m reply := by
  intro i now m reply there phase
  rw [calls] at there ⊢
  by_cases same : i = id
  · subst same
    rw [Function.update_self] at there
    cases there
    cases phase
  · rw [Function.update_of_ne same] at there
    obtain ⟨first, found, told⟩ := reg.told i now m reply there phase
    have ne : m ≠ id := by
      rintro rfl
      cases known.symm.trans found
      exact before.not_loaded m reply told
    exact ⟨first, by rw [Function.update_of_ne ne, found], told⟩

theorem Registered.joins {call : OrdersCall V E} (reg : Registered s)
    (known : s.calls id = some call) (before : call.phase.Alone)
    (there : s.pending call.process call.read.key = some l) (pending : s'.pending = s.pending)
    (loads : s'.loads = s.loads)
    (calls : s'.calls = Function.update s.calls id (some { call with phase := .waiting l })) :
    Registered s' := by
  constructor
  case live =>
    rw [pending, loads]
    exact reg.live
  case listed =>
    rw [pending, loads]
    exact reg.listed
  case started =>
    rw [loads, calls]
    intro m load here
    obtain ⟨first, found, phase⟩ := reg.started m load here
    have ne : m ≠ id := by
      rintro rfl
      cases known.symm.trans found
      exact before.not_waiting m phase
    exact ⟨first, by rw [Function.update_of_ne ne, found], phase⟩
  case waiting =>
    rw [loads, calls]
    intro i now m found phase
    by_cases same : i = id
    · subst same
      rw [Function.update_self] at found
      cases found
      cases phase
      obtain ⟨load, here, _⟩ := reg.live _ _ _ there
      simp [here]
    · rw [Function.update_of_ne same] at found
      exact reg.waiting i now m found phase
  case told => exact reg.told_joins known before calls

theorem Registered.starts {call : OrdersCall V E} (reg : Registered s)
    (known : s.calls id = some call) (before : call.phase.Alone)
    (free : s.pending call.process call.read.key = none)
    (pending : s'.pending = Function.update s.pending call.process
      (Function.update (s.pending call.process) call.read.key (some id)))
    (loads : s'.loads = Function.update s.loads id (some ⟨call.process, call.read, .running⟩))
    (calls : s'.calls = Function.update s.calls id (some { call with phase := .waiting id })) :
    Registered s' := by
  have unloaded (l : Nat) (load : OrdersLoad V E) (here : s.loads l = some load) : l ≠ id := by
    rintro rfl
    obtain ⟨first, found, phase⟩ := reg.started l load here
    cases known.symm.trans found
    exact before.not_waiting l phase
  constructor
  case live =>
    rw [pending, loads]
    intro p key l there
    rw [update_pending] at there
    split at there
    · next own =>
      cases there
      exact ⟨_, Function.update_self .., own.1.symm, own.2.symm⟩
    · obtain ⟨load, here, same⟩ := reg.live p key l there
      exact ⟨load, by rw [Function.update_of_ne (unloaded l load here), here], same⟩
  case listed =>
    rw [pending, loads]
    intro l load here
    rw [update_pending]
    by_cases own : l = id
    · subst own
      rw [Function.update_self] at here
      cases here
      exact if_pos ⟨rfl, rfl⟩
    · rw [Function.update_of_ne own] at here
      have there := reg.listed l load here
      refine (if_neg ?_).trans there
      rintro ⟨process, same⟩
      rw [process, same, free] at there
      cases there
  case started =>
    rw [loads, calls]
    intro l load here
    by_cases own : l = id
    · subst own
      exact ⟨_, Function.update_self .., rfl⟩
    · rw [Function.update_of_ne own] at here ⊢
      exact reg.started l load here
  case waiting =>
    rw [loads, calls]
    intro i now l found phase
    by_cases own : l = id
    · subst own
      simp
    · rw [Function.update_of_ne own]
      by_cases same : i = id
      · subst same
        rw [Function.update_self] at found
        cases found
        cases phase
        exact absurd rfl own
      · rw [Function.update_of_ne same] at found
        exact reg.waiting i now l found phase
  case told => exact reg.told_joins known before calls

theorem Registered.settles {load : OrdersLoad V E} {outcome : Except E V} (reg : Registered s)
    (known : s.loads id = some load) (pending : s'.pending = s.pending)
    (loads : s'.loads = Function.update s.loads id (some { load with phase := .closing outcome }))
    (calls : s'.calls = s.calls) : Registered s' := by
  have back (l : Nat) (now : OrdersLoad V E) (here : s'.loads l = some now) :
      ∃ old, s.loads l = some old ∧ old.process = now.process ∧ old.read.key = now.read.key := by
    rw [loads] at here
    by_cases own : l = id
    · subst own
      rw [Function.update_self] at here
      cases here
      exact ⟨load, known, rfl, rfl⟩
    · rw [Function.update_of_ne own] at here
      exact ⟨now, here, rfl, rfl⟩
  constructor
  case live =>
    rw [pending, loads]
    intro p key l there
    obtain ⟨old, here, process, same⟩ := reg.live p key l there
    by_cases own : l = id
    · subst own
      cases known.symm.trans here
      exact ⟨_, Function.update_self .., process, same⟩
    · exact ⟨old, by rw [Function.update_of_ne own, here], process, same⟩
  case listed =>
    intro l now here
    obtain ⟨old, found, process, same⟩ := back l now here
    rw [pending, ← process, ← same]
    exact reg.listed l old found
  case started =>
    intro l now here
    obtain ⟨old, found, _⟩ := back l now here
    rw [calls]
    exact reg.started l old found
  case waiting =>
    rw [calls, loads]
    intro i now l found phase
    by_cases own : l = id
    · subst own
      simp
    · rw [Function.update_of_ne own]
      exact reg.waiting i now l found phase
  case told =>
    rw [calls]
    exact reg.told

theorem toldBy_waiting {reply : CacheReply V E} {call : OrdersCall V E}
    (phase : (call.toldBy id reply).phase = .waiting l) : call.phase = .waiting l ∧ l ≠ id := by
  unfold OrdersCall.toldBy at phase
  split at phase
  · next joined here =>
    split at phase
    · cases phase
    · next other =>
      rw [here] at phase ⊢
      cases phase
      exact ⟨rfl, other⟩
  · next free => exact absurd phase (free l)

/-- Who has been told of a load now was told before, or has waited for the one that finishes. -/
theorem toldBy_loaded {reply reply' : CacheReply V E} {call : OrdersCall V E}
    (phase : (call.toldBy id reply).phase = .loaded l reply') :
    call.phase = .loaded l reply' ∨ (call.phase = .waiting id ∧ l = id ∧ reply' = reply) := by
  unfold OrdersCall.toldBy at phase
  split at phase
  · next joined here =>
    split at phase
    · next same =>
      subst same
      cases phase
      exact .inr ⟨here, rfl, rfl⟩
    · rw [here] at phase
      cases phase
  · exact .inl phase

theorem toldBy_of_loaded {reply reply' : CacheReply V E} {call : OrdersCall V E}
    (phase : call.phase = .loaded l reply') : call.toldBy id reply = call := by
  unfold OrdersCall.toldBy
  rw [phase]

theorem toldBy_of_waiting {reply : CacheReply V E} {call : OrdersCall V E}
    (phase : call.phase = .waiting id) :
    call.toldBy id reply = { call with phase := .loaded id reply } := by
  unfold OrdersCall.toldBy
  rw [phase]
  exact if_pos rfl

theorem toldBy_of_other {reply : CacheReply V E} {call : OrdersCall V E}
    (phase : call.phase = .waiting l) (other : l ≠ id) : call.toldBy id reply = call := by
  unfold OrdersCall.toldBy
  rw [phase]
  exact if_neg other

theorem Registered.finishes {load : OrdersLoad V E} {outcome : Except E V} (reg : Registered s)
    (known : s.loads id = some load) (pending : s'.pending = Function.update s.pending load.process
      (Function.update (s.pending load.process) load.read.key none))
    (loads : s'.loads = Function.update s.loads id none)
    (calls : s'.calls = fun other => (s.calls other).map (OrdersCall.toldBy id (replyOf outcome))) :
    Registered s' := by
  have after (other : Nat) :
      s'.calls other = (s.calls other).map (OrdersCall.toldBy id (replyOf outcome)) := by
    rw [calls]
  have back (l : Nat) (now : OrdersLoad V E) (here : s'.loads l = some now) :
      l ≠ id ∧ s.loads l = some now := by
    rw [loads] at here
    by_cases own : l = id
    · subst own
      rw [Function.update_self] at here
      cases here
    · rw [Function.update_of_ne own] at here
      exact ⟨own, here⟩
  constructor
  case live =>
    rw [pending, loads]
    intro p key l there
    rw [update_pending] at there
    split at there
    · cases there
    · next other =>
      obtain ⟨old, here, process, same⟩ := reg.live p key l there
      have ne : l ≠ id := by
        rintro rfl
        cases known.symm.trans here
        exact other ⟨process.symm, same.symm⟩
      exact ⟨old, by rw [Function.update_of_ne ne, here], process, same⟩
  case listed =>
    intro l now here
    obtain ⟨ne, found⟩ := back l now here
    have there := reg.listed l now found
    rw [pending, update_pending]
    refine (if_neg ?_).trans there
    rintro ⟨process, same⟩
    have own := reg.listed id load known
    rw [← process, ← same, there] at own
    exact ne (Option.some.inj own)
  case started =>
    intro l now here
    obtain ⟨ne, found⟩ := back l now here
    obtain ⟨first, there, phase⟩ := reg.started l now found
    refine ⟨first, ?_, phase⟩
    rw [after, there, Option.map_some, toldBy_of_other phase ne]
  case waiting =>
    rw [loads]
    intro i now l there phase
    rw [after] at there
    obtain ⟨old, found, rfl⟩ := Option.map_eq_some_iff.mp there
    obtain ⟨phase, ne⟩ := toldBy_waiting phase
    rw [Function.update_of_ne ne]
    exact reg.waiting i old l found phase
  case told =>
    intro i now l reply there phase
    rw [after] at there
    obtain ⟨old, found, rfl⟩ := Option.map_eq_some_iff.mp there
    rcases toldBy_loaded phase with before | ⟨_, rfl, rfl⟩
    · obtain ⟨first, here, same⟩ := reg.told i old l reply found before
      exact ⟨first, by rw [after, here, Option.map_some, toldBy_of_loaded same], same⟩
    · obtain ⟨first, here, same⟩ := reg.started l load known
      exact ⟨_, by rw [after, here, Option.map_some, toldBy_of_waiting same], rfl⟩

theorem cacheStep_registered (reg : Registered s) (action : CacheAction V E) :
    Registered (cacheStep config s action) := by
  have effect : CacheEffect s (cacheStep config s action) action := cacheStep_effect action
  cases effect with
  | idle pending loads calls =>
    constructor
    case live => rw [pending, loads]; exact reg.live
    case listed => rw [pending, loads]; exact reg.listed
    case started => rw [loads, calls]; exact reg.started
    case waiting => rw [loads, calls]; exact reg.waiting
    case told => rw [calls]; exact reg.told
  | moves id call before alone _ pending loads calls =>
    exact reg.moves before alone pending loads calls
  | joins id load call known before there pending loads calls =>
    exact reg.joins known before there pending loads calls
  | starts id call known before free pending loads calls =>
    exact reg.starts known before free pending loads calls
  | settles id load outcome known pending loads calls => exact reg.settles known pending loads calls
  | finishes id load outcome known pending loads calls =>
    exact reg.finishes known pending loads calls

end Invariant

section Runs
variable {V E : Type} {config : CacheConfig V}

/-- One load for a key in a process at a time; the calls that have joined a load are told the same,
all of them when it finishes, and then nothing is left of it, so that the next call that misses
starts a load of its own. -/
structure OneLoad (config : CacheConfig V) (s : OrdersCache V E) : Prop where
  exclusive : ∀ l l' load load', s.loads l = some load → s.loads l' = some load' →
    load.process = load'.process → load.read.key = load'.read.key → l = l'
  same : ∀ id id' call call' l reply reply', s.calls id = some call → s.calls id' = some call' →
    call.phase = .loaded l reply → call'.phase = .loaded l reply' → reply = reply'
  finished : ∀ l load outcome, s.loads l = some load → load.phase = .closing outcome →
    (cacheStep config s (.finish l)).loads l = none ∧
      (cacheStep config s (.finish l)).pending load.process load.read.key = none ∧
      ∀ id call, s.calls id = some call → call.phase = .waiting l →
        ((cacheStep config s (.finish l)).calls id).map (·.phase) =
          some (.loaded l (replyOf outcome))
  registered : ∀ p key l, s.pending p key = some l →
    ∃ load, s.loads l = some load ∧ load.process = p ∧ load.read.key = key
  next : ∀ id call, s.calls id = some call → call.phase = .circuitKnown false →
    (∀ l load, s.loads l = some load →
      ¬(load.process = call.process ∧ load.read.key = call.read.key)) →
    (cacheStep config s (.proceed id)).loads id = some ⟨call.process, call.read, .running⟩

theorem Registered.finished {s : OrdersCache V E} {load : OrdersLoad V E} {outcome : Except E V}
    (known : s.loads l = some load) (closing : load.phase = .closing outcome) :
    (cacheStep config s (.finish l)).loads l = none ∧
      (cacheStep config s (.finish l)).pending load.process load.read.key = none ∧
      ∀ id call, s.calls id = some call → call.phase = .waiting l →
        ((cacheStep config s (.finish l)).calls id).map (·.phase) =
          some (.loaded l (replyOf outcome)) := by
  have step : cacheStep config s (.finish l) = s.finishStep l load outcome := by
    simp only [cacheStep, known, Option.elim_some, OrdersCache.continueLoad, closing]
  rw [step]
  refine ⟨Function.update_self .., ?_, fun id call found phase => ?_⟩
  · have gone := congrFun (congrFun (pending_update (s := s) load.process load.read.key none)
      load.process) load.read.key
    rw [Function.update_self, Function.update_self] at gone
    exact gone
  · simp only [OrdersCache.finishStep, found, Option.map_some]
    rw [toldBy_of_waiting phase]

theorem Registered.next {s : OrdersCache V E} (reg : Registered s) {call : OrdersCall V E}
    (known : s.calls id = some call) (closed : call.phase = .circuitKnown false)
    (none_runs : ∀ l load, s.loads l = some load →
      ¬(load.process = call.process ∧ load.read.key = call.read.key)) :
    (cacheStep config s (.proceed id)).loads id = some ⟨call.process, call.read, .running⟩ := by
  have free : (s.processes call.process).pendingReads call.read.key = none := by
    cases there : (s.processes call.process).pendingReads call.read.key with
    | none => rfl
    | some l =>
      obtain ⟨load, here, same⟩ := reg.live _ _ l there
      exact absurd same (none_runs l load here)
  have step : cacheStep config s (.proceed id) = s.loadStep id call := by
    simp only [cacheStep, known, Option.elim_some, OrdersCache.continueCall, closed]
  rw [step]
  simp only [OrdersCache.loadStep, free]
  exact Function.update_self ..

theorem Registered.oneLoad {s : OrdersCache V E} (reg : Registered s) : OneLoad config s := by
  constructor
  case exclusive =>
    intro l l' load load' here here' process key
    have there := reg.listed l load here
    rw [process, key, reg.listed l' load' here'] at there
    exact (Option.some.inj there).symm
  case same =>
    intro id id' call call' l reply reply' known known' phase phase'
    obtain ⟨first, found, told⟩ := reg.told id call l reply known phase
    obtain ⟨first', found', told'⟩ := reg.told id' call' l reply' known' phase'
    cases found.symm.trans found'
    rw [told] at told'
    cases told'
    rfl
  case finished => exact fun l load outcome known closing => Registered.finished known closing
  case registered => exact reg.live
  case next => exact fun id call known closed none_runs => reg.next known closed none_runs

/-- In every run of the processes on Redis. -/
theorem one_load_per_key (config : CacheConfig V) (now : Instant)
    (actions : List (CacheAction V E)) :
    Always (cacheStep config) (OneLoad config) (OrdersCache.start now) actions :=
  always_of_invariant (J := Registered) (fun _ action reg => cacheStep_registered reg action)
    (fun _ reg => reg.oneLoad) (registered_start now) actions

/-- The call runs a loader for the key, through a load or by itself. -/
def OrdersCache.Loading (s : OrdersCache V E) (process : Nat) (key : OrdersCacheKey) (id : Nat) :
    Prop :=
  (∃ load, s.loads id = some load ∧ load.process = process ∧ load.read.key = key ∧
    load.phase matches .running) ∨
  (∃ call, s.calls id = some call ∧ call.process = process ∧ call.read.key = key ∧
    call.phase matches .direct)

/-- With the cache switched off, two calls run a loader each. -/
theorem two_loads_without_cache :
    ¬ ∀ (config : CacheConfig Nat) (now : Instant) (actions : List (CacheAction Nat Unit)),
      Always (cacheStep config) (fun s => ∀ process key id id', s.Loading process key id →
        s.Loading process key id' → id = id') (OrdersCache.start now) actions := by
  intro always
  let read : CacheRead Nat Unit := ⟨⟨"products", "h"⟩, .fixed 15, false, fun _ => true⟩
  have both := (always ⟨fun _ => false, fun _ => 20, fun _ => false⟩ 0
    [.call 1 0 read, .call 2 0 read]).last 0 ⟨"products", "h"⟩ 1 2
    (.inr ⟨_, rfl, rfl, rfl, rfl⟩) (.inr ⟨_, rfl, rfl, rfl, rfl⟩)
  exact absurd both (by decide)

end Runs

end LeaderProduct
