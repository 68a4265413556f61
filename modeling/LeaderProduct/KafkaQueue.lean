import LeaderProduct.DrainedBuffer
import LeaderProduct.PooledTasks

/-! The log of requests on its way to Kafka. Requests enter a bounded queue, one connection is made
at a time and one flush runs at a time; both give way to others wherever they wait for Kafka. -/
namespace LeaderProduct
open Transition DrainedBuffer

section Model
variable {M : Type}

inductive FlushPhase where
  | idle | sending | disconnecting
  deriving DecidableEq, Repr

inductive SendOutcome where
  | acknowledged | failed | unsent

/-- The producers are numbered as they are made. `closing` are the calls of `disconnectKafka` that
wait for the producer, `outcomes` what became of the batches. -/
structure KafkaQueue (M : Type) where
  buffer : Buffer M
  producer : Option Nat
  producers : Nat
  connecting : Bool
  connected : Bool
  flush : FlushPhase
  closing : Nat
  outcomes : List SendOutcome

def KafkaQueue.started : KafkaQueue M := ⟨.empty, none, 0, false, false, .idle, 0, []⟩

def bufferFull (bufferMax : JsNumber) (length : Nat) : Bool :=
  match bufferMax.atLeastOne with
  | .nan | .positiveInfinity => false
  | .negativeInfinity => true
  | .finite value => decide (value ≤ length)

def flushBatchSize : Nat := 500

namespace KafkaQueue
variable (s : KafkaQueue M)

def ensureConnected : KafkaQueue M :=
  if s.connecting || s.connected then s
  else { s with connecting := true, producer := some s.producers, producers := s.producers + 1 }

/-- The head of the loop of `flushQueue`. The batch has left the queue before it is sent. -/
def nextBatch : KafkaQueue M :=
  if s.buffer.queue = [] then { s with flush := .idle }
  else
    let taken := { s with buffer := s.buffer.takeBatch flushBatchSize }
    match s.producer with
    | some _ => { taken with flush := .sending }
    | none =>
      { taken with connected := false, flush := .disconnecting, outcomes := s.outcomes ++ [.unsent] }

def flushQueue : KafkaQueue M :=
  if s.producer.isNone || !s.connected || s.flush ≠ .idle then s else s.nextBatch

def enqueueKafkaMessage (enabled : Bool) (bufferMax : JsNumber) (message : M) : KafkaQueue M :=
  if enabled then
    let pushed := { s with
      buffer := s.buffer.push (bufferFull bufferMax s.buffer.queue.length) message }
    if pushed.ensureConnected.connected then pushed.ensureConnected.flushQueue
    else pushed.ensureConnected
  else s

def connectSettled (success : Bool) : KafkaQueue M :=
  if s.connecting then
    if success then
      { ({ s with connected := true } : KafkaQueue M).flushQueue with connecting := false }
    else { s with connecting := false }
  else s

def sendSettled (success : Bool) : KafkaQueue M :=
  match s.flush with
  | .sending =>
    if success then ({ s with outcomes := s.outcomes ++ [.acknowledged] } : KafkaQueue M).nextBatch
    else
      { s with connected := false, flush := .disconnecting, outcomes := s.outcomes ++ [.failed] }
  | _ => s

def disconnectSettled : KafkaQueue M :=
  match s.flush with
  | .disconnecting => { s with producer := none, flush := .idle }
  | _ => s

def disconnectKafka : KafkaQueue M :=
  if s.producer.isSome && s.connected then { s with closing := s.closing + 1 }
  else { s with connected := false, producer := none }

def closeSettled : KafkaQueue M :=
  match s.closing with
  | 0 => s
  | others + 1 => { s with closing := others, connected := false, producer := none }

end KafkaQueue

inductive KafkaStep (M : Type) where
  | enqueueKafkaMessage (message : M)
  | connectSettled (success : Bool)
  | sendSettled (success : Bool)
  | disconnectSettled
  | disconnectKafka
  | closeSettled
  deriving DecidableEq, Repr

def KafkaQueue.step (enabled : Bool) (bufferMax : JsNumber) (s : KafkaQueue M) :
    KafkaStep M → KafkaQueue M
  | .enqueueKafkaMessage message => s.enqueueKafkaMessage enabled bufferMax message
  | .connectSettled success => s.connectSettled success
  | .sendSettled success => s.sendSettled success
  | .disconnectSettled => s.disconnectSettled
  | .disconnectKafka => s.disconnectKafka
  | .closeSettled => s.closeSettled

end Model

section Queue
variable {M : Type} {enabled : Bool} {bufferMax : JsNumber} {s : KafkaQueue M}

theorem bufferFull_zero (bufferMax : JsNumber) : bufferFull bufferMax 0 = false := by
  unfold bufferFull
  cases bufferMax with
  | nan => rfl
  | negativeInfinity => rfl
  | positiveInfinity => rfl
  | finite value =>
    have one : ¬max 1 value ≤ ((0 : Nat) : Rat) := by
      intro small
      exact absurd (le_trans (le_max_left 1 value) small) (by decide)
    exact decide_eq_false one

namespace KafkaQueue

structure Sound (bufferMax : JsNumber) (s : KafkaQueue M) : Prop where
  kept : Kept flushBatchSize (bufferFull bufferMax) s.buffer
  settled : s.buffer.batches.length = s.outcomes.length + if s.flush = .sending then 1 else 0

theorem sound_nextBatch (kept : Kept flushBatchSize (bufferFull bufferMax) s.buffer)
    (settled : s.buffer.batches.length = s.outcomes.length) : Sound bufferMax s.nextBatch := by
  unfold nextBatch
  split
  · exact ⟨kept, by simpa using settled⟩
  · next waits =>
    have taken := kept_takeBatch (by decide) kept waits
    cases s.producer with
    | some producer => exact ⟨taken, by simpa [Buffer.takeBatch] using settled⟩
    | none => exact ⟨taken, by simpa [Buffer.takeBatch] using settled⟩

section
variable (sound : Sound bufferMax s)
include sound

theorem sound_flushQueue : Sound bufferMax s.flushQueue := by
  unfold flushQueue
  split
  · exact sound
  · next free =>
    have idle : s.flush = .idle := by
      simp only [Bool.or_eq_true, decide_eq_true_eq, not_or, ne_eq, not_not] at free
      exact free.2
    exact sound_nextBatch sound.kept (by simpa [idle] using sound.settled)

theorem sound_ensureConnected :
    Sound bufferMax s.ensureConnected := by
  unfold ensureConnected
  split
  · exact sound
  · exact ⟨sound.kept, sound.settled⟩

theorem sound_enqueueKafkaMessage (message : M) :
    Sound bufferMax (s.enqueueKafkaMessage enabled bufferMax message) := by
  unfold enqueueKafkaMessage
  split
  · have pushed : Sound bufferMax { s with
        buffer := s.buffer.push (bufferFull bufferMax s.buffer.queue.length) message } :=
      ⟨kept_push (bufferFull_zero bufferMax) sound.kept message, sound.settled⟩
    have connecting := sound_ensureConnected pushed
    dsimp only
    split
    · exact sound_flushQueue connecting
    · exact connecting
  · exact sound

theorem sound_connectSettled (success : Bool) :
    Sound bufferMax (s.connectSettled success) := by
  unfold connectSettled
  split
  · split
    · have connected : Sound bufferMax { s with connected := true } := ⟨sound.kept, sound.settled⟩
      have flushed := sound_flushQueue connected
      exact ⟨flushed.kept, flushed.settled⟩
    · exact ⟨sound.kept, sound.settled⟩
  · exact sound

theorem sound_sendSettled (success : Bool) :
    Sound bufferMax (s.sendSettled success) := by
  unfold sendSettled
  cases phase : s.flush with
  | idle => exact sound
  | disconnecting => exact sound
  | sending =>
    have one_more : s.buffer.batches.length = s.outcomes.length + 1 := by
      simpa [phase] using sound.settled
    cases success with
    | true => exact sound_nextBatch sound.kept (by simpa using one_more)
    | false => exact ⟨sound.kept, by simpa using one_more⟩

theorem sound_disconnectSettled :
    Sound bufferMax s.disconnectSettled := by
  unfold disconnectSettled
  cases phase : s.flush with
  | idle => exact sound
  | sending => exact sound
  | disconnecting => exact ⟨sound.kept, by simpa [phase] using sound.settled⟩

theorem sound_disconnectKafka : Sound bufferMax s.disconnectKafka := by
  unfold disconnectKafka
  split
  · exact ⟨sound.kept, sound.settled⟩
  · exact ⟨sound.kept, sound.settled⟩

theorem sound_closeSettled : Sound bufferMax s.closeSettled := by
  unfold closeSettled
  cases s.closing with
  | zero => exact sound
  | succ others => exact ⟨sound.kept, sound.settled⟩

theorem sound_step (a : KafkaStep M) :
    Sound bufferMax (s.step enabled bufferMax a) := by
  cases a with
  | enqueueKafkaMessage message => exact sound_enqueueKafkaMessage sound message
  | connectSettled success => exact sound_connectSettled sound success
  | sendSettled success => exact sound_sendSettled sound success
  | disconnectSettled => exact sound_disconnectSettled sound
  | disconnectKafka => exact sound_disconnectKafka sound
  | closeSettled => exact sound_closeSettled sound

end

theorem sound_run (enabled : Bool) (bufferMax : JsNumber) (steps : List (KafkaStep M)) :
    Sound bufferMax (run (step enabled bufferMax) started steps) :=
  run_invariant (I := Sound bufferMax) (fun _ a _ sound => sound_step sound a)
    ⟨kept_empty _ _, rfl⟩

/-- In any interleaving every request that was logged has one fate: lost to a full queue, handed to
Kafka in a batch, or waiting. The batches and the queue keep the order, no request is in two
places, at most one batch is under way, and the queue grows only where it is not full. -/
theorem logged_once_in_order (enabled : Bool) (bufferMax : JsNumber) (steps : List (KafkaStep M)) :
    let s := run (step enabled bufferMax) started steps
    s.buffer.accepted.Perm (s.buffer.dropped ++ s.buffer.handed ++ s.buffer.queue) ∧
      (s.buffer.handed ++ s.buffer.queue).Sublist s.buffer.accepted ∧
      (∀ batch ∈ s.buffer.batches, batch ≠ [] ∧ batch.length ≤ flushBatchSize) ∧
      s.buffer.batches.length = s.outcomes.length + (if s.flush = .sending then 1 else 0) ∧
      ∀ length < s.buffer.queue.length, bufferFull bufferMax length = false := by
  intro s
  have sound : Sound bufferMax s := sound_run enabled bufferMax steps
  exact ⟨sound.kept.accounted.every, sound.kept.accounted.ordered, sound.kept.sized,
    sound.settled, sound.kept.bounded⟩

/-- Connected as the flags say, but the producer is gone, or is about to be taken away. -/
def Wedged (s : KafkaQueue M) : Prop :=
  s.connected = true ∧ (s.flush = .disconnecting ∨ s.producer = none)

/-- A connection is made with a producer that nobody is about to take away. -/
def ConnectsReady (s : KafkaQueue M) (a : KafkaStep M) : Prop :=
  a = .connectSettled true → s.connecting = true →
    s.producer.isSome ∧ s.flush ≠ .disconnecting

structure Running (s : KafkaQueue M) : Prop where
  open_ : s.closing = 0
  one : s.connecting = true → s.connected = false
  sending : s.flush = .sending → s.connected = true ∧ s.producer.isSome
  drained : s.connected = true → s.flush = .idle → s.producer.isSome → s.buffer.queue = []

theorem running_started : Running (started : KafkaQueue M) :=
  ⟨rfl, nofun, nofun, nofun⟩

variable {producer : Nat} {a : KafkaStep M}

theorem nextBatch_cases (here : s.producer = some producer) :
    s.nextBatch.closing = s.closing ∧ s.nextBatch.connecting = s.connecting ∧
      s.nextBatch.connected = s.connected ∧ s.nextBatch.producer = some producer ∧
      (s.nextBatch.flush = .sending ∨
        s.nextBatch.flush = .idle ∧ s.nextBatch.buffer.queue = []) := by
  unfold nextBatch
  split
  · next empty => exact ⟨rfl, rfl, rfl, here, .inr ⟨rfl, empty⟩⟩
  · simp [here]

theorem connecting_flushQueue (s : KafkaQueue M) : s.flushQueue.connecting = s.connecting := by
  unfold flushQueue nextBatch
  split
  · rfl
  · split
    · rfl
    · cases s.producer <;> rfl

theorem flushQueue_of_idle (here : s.producer = some producer) (connected : s.connected = true)
    (idle : s.flush = .idle) : s.flushQueue = s.nextBatch := by
  simp [flushQueue, here, connected, idle]

theorem flushQueue_of_busy (busy : s.producer = none ∨ s.flush ≠ .idle) : s.flushQueue = s := by
  rcases busy with gone | busy
  · simp [flushQueue, gone]
  · simp [flushQueue, busy]

structure Attended (s : KafkaQueue M) : Prop where
  running : Running s
  working : ¬s.Wedged

theorem attended_nextBatch (here : s.producer = some producer) (open_ : s.closing = 0)
    (connected : s.connected = true) :
    Attended { s.nextBatch with connecting := false } := by
  obtain ⟨closing, -, kept, same, flush⟩ := nextBatch_cases here
  constructor
  · refine ⟨closing.trans open_, nofun, fun _ => ⟨kept.trans connected, ?_⟩, fun _ idle _ => ?_⟩
    · simp [same]
    · rcases flush with sending | ⟨_, empty⟩
      · exact absurd (sending.symm.trans idle) nofun
      · exact empty
  · rintro ⟨-, disconnecting | gone⟩
    · rcases flush with sending | ⟨idle, _⟩
      · exact absurd (sending.symm.trans disconnecting) nofun
      · exact absurd (idle.symm.trans disconnecting) nofun
    · exact absurd (same.symm.trans gone) nofun

theorem attended_flushQueue (here : s.producer = some producer) (open_ : s.closing = 0)
    (connected : s.connected = true) (free : s.flush ≠ .disconnecting) :
    Attended { s.flushQueue with connecting := false } := by
  cases phase : s.flush with
  | disconnecting => exact absurd phase free
  | idle =>
    rw [flushQueue_of_idle here connected phase]
    exact attended_nextBatch here open_ connected
  | sending =>
    rw [flushQueue_of_busy (.inr (by simp [phase]))]
    refine ⟨⟨open_, nofun, fun _ => ⟨connected, by simp [here]⟩, fun _ idle _ => ?_⟩, ?_⟩
    · exact absurd (phase.symm.trans idle) nofun
    · rintro ⟨-, disconnecting | gone⟩
      · exact absurd disconnecting free
      · exact absurd (here.symm.trans gone) nofun

theorem working_cases (working : ¬s.Wedged) (connected : s.connected = true) :
    (∃ producer, s.producer = some producer) ∧ s.flush ≠ .disconnecting := by
  constructor
  · cases here : s.producer with
    | none => exact absurd ⟨connected, .inr here⟩ working
    | some producer => exact ⟨producer, rfl⟩
  · exact fun disconnecting => working ⟨connected, .inl disconnecting⟩

theorem not_connecting (running : Running s) (connected : s.connected = true) :
    s.connecting = false := by
  cases connecting : s.connecting with
  | false => rfl
  | true => exact absurd (connected.symm.trans (running.one connecting)) nofun

theorem enqueue_of_connected (message : M) (connected : s.connected = true) :
    s.enqueueKafkaMessage true bufferMax message =
      ({ s with buffer := s.buffer.push (bufferFull bufferMax s.buffer.queue.length) message } :
        KafkaQueue M).flushQueue := by
  simp [enqueueKafkaMessage, ensureConnected, connected]

theorem enqueue_of_not_connected (message : M) (apart : s.connected = false) :
    s.enqueueKafkaMessage true bufferMax message =
      ({ s with buffer := s.buffer.push (bufferFull bufferMax s.buffer.queue.length) message } :
        KafkaQueue M).ensureConnected := by
  unfold enqueueKafkaMessage ensureConnected
  cases s.connecting <;> simp [apart]

theorem busy_of_wedged (wedged : s.Wedged) : s.producer = none ∨ s.flush ≠ .idle := by
  rcases wedged.2 with disconnecting | gone
  · exact .inr (by simp [disconnecting])
  · exact .inl gone

section
variable (running : Running s)
include running

theorem working_of_sending (sending : s.flush = .sending) : ¬s.Wedged := by
  rintro ⟨-, disconnecting | gone⟩
  · exact absurd (sending.symm.trans disconnecting) nofun
  · have here := (running.sending sending).2
    rw [gone] at here
    cases here

theorem attended_enqueue (working : ¬s.Wedged) (message : M) :
    Attended (s.enqueueKafkaMessage true bufferMax message) := by
  cases connected : s.connected with
  | true =>
    obtain ⟨⟨producer, here⟩, free⟩ := working_cases working connected
    rw [enqueue_of_connected message connected]
    let pushed : KafkaQueue M :=
      { s with buffer := s.buffer.push (bufferFull bufferMax s.buffer.queue.length) message }
    have attended : Attended { pushed.flushQueue with connecting := false } :=
      attended_flushQueue here running.open_ connected free
    have still : pushed.flushQueue.connecting = false :=
      (connecting_flushQueue pushed).trans (not_connecting (s := s) running connected)
    rw [← still] at attended
    exact attended
  | false =>
    rw [enqueue_of_not_connected message connected]
    have quiet : s.flush ≠ .sending := by
      intro sending
      exact absurd ((running.sending sending).1.symm.trans connected) nofun
    unfold ensureConnected
    split
    · next connecting =>
      refine ⟨⟨running.open_, fun _ => connected, fun sending => absurd sending quiet, ?_⟩, ?_⟩
      · exact fun other => absurd (other.symm.trans connected) nofun
      · exact fun wedged => absurd (wedged.1.symm.trans connected) nofun
    · refine ⟨⟨running.open_, fun _ => connected, fun sending => absurd sending quiet, ?_⟩, ?_⟩
      · exact fun other => absurd (other.symm.trans connected) nofun
      · exact fun wedged => absurd (wedged.1.symm.trans connected) nofun

theorem wedged_step (wedged : s.Wedged) (open_ : a ≠ .disconnectKafka) :
    Running (s.step enabled bufferMax a) ∧ (s.step enabled bufferMax a).Wedged ∧
      (s.step enabled bufferMax a).buffer.batches = s.buffer.batches := by
  cases a with
  | enqueueKafkaMessage message =>
    cases enabled with
    | false => exact ⟨running, wedged, rfl⟩
    | true =>
      have stays : s.step true bufferMax (.enqueueKafkaMessage message) = { s with
          buffer := s.buffer.push (bufferFull bufferMax s.buffer.queue.length) message } := by
        rw [step, enqueue_of_connected message wedged.1]
        exact flushQueue_of_busy (busy_of_wedged wedged)
      rw [stays]
      refine ⟨⟨running.open_, running.one, running.sending, fun _ idle here => ?_⟩, wedged, rfl⟩
      rcases busy_of_wedged wedged with gone | busy
      · rw [show s.producer = none from gone] at here
        cases here
      · exact absurd idle busy
  | connectSettled success =>
    have stays : s.step enabled bufferMax (.connectSettled success) = s := by
      simp [step, connectSettled, not_connecting running wedged.1]
    rw [stays]
    exact ⟨running, wedged, rfl⟩
  | sendSettled success =>
    have stays : s.step enabled bufferMax (.sendSettled success) = s := by
      unfold step sendSettled
      cases phase : s.flush with
      | idle => rfl
      | disconnecting => rfl
      | sending => exact absurd wedged (working_of_sending running phase)
    rw [stays]
    exact ⟨running, wedged, rfl⟩
  | disconnectSettled =>
    unfold step disconnectSettled
    cases phase : s.flush with
    | idle => exact ⟨running, wedged, rfl⟩
    | sending => exact ⟨running, wedged, rfl⟩
    | disconnecting =>
      exact ⟨⟨running.open_, running.one, nofun, fun _ _ => nofun⟩, ⟨wedged.1, .inr rfl⟩, rfl⟩
  | disconnectKafka => exact absurd rfl open_
  | closeSettled =>
    have stays : s.step enabled bufferMax .closeSettled = s := by
      simp [step, closeSettled, running.open_]
    rw [stays]
    exact ⟨running, wedged, rfl⟩

theorem attended_apart (apart : s.connected = false) : Attended s :=
  ⟨running, fun wedged => absurd (wedged.1.symm.trans apart) nofun⟩

theorem attended_sendSettled (working : ¬s.Wedged) (success : Bool) :
    Attended (s.sendSettled success) := by
  unfold sendSettled
  cases phase : s.flush with
  | idle => exact ⟨running, working⟩
  | disconnecting => exact ⟨running, working⟩
  | sending =>
    obtain ⟨connected, some_producer⟩ := running.sending phase
    obtain ⟨producer, here⟩ := Option.isSome_iff_exists.mp some_producer
    cases success with
    | true =>
      let told : KafkaQueue M := { s with outcomes := s.outcomes ++ [.acknowledged] }
      have attended : Attended { told.nextBatch with connecting := false } :=
        attended_nextBatch here running.open_ connected
      have still : told.nextBatch.connecting = false :=
        (nextBatch_cases (s := told) here).2.1.trans (not_connecting (s := s) running connected)
      rw [← still] at attended
      exact attended
    | false =>
      exact attended_apart
        ⟨running.open_, fun _ => rfl, nofun, fun other => absurd other Bool.false_ne_true⟩ rfl

/-- Only a connection can wedge the queue: one that finds its producer gone, or going. -/
theorem connectSettled_wedges (working : ¬s.Wedged) (success : Bool) :
    Running (s.connectSettled success) ∧
      (¬(s.connectSettled success).Wedged ↔ ConnectsReady s (.connectSettled success)) := by
  unfold connectSettled ConnectsReady
  cases connecting : s.connecting with
  | false => exact ⟨running, iff_of_true working fun _ other => absurd other Bool.false_ne_true⟩
  | true =>
    have apart := running.one connecting
    cases success with
    | false =>
      have attended : Attended { s with connecting := false } := attended_apart
        ⟨running.open_, nofun, running.sending, running.drained⟩ apart
      exact ⟨attended.running, iff_of_true attended.working fun other => by cases other⟩
    | true =>
      simp only [if_true, forall_const]
      by_cases ready : s.producer.isSome ∧ s.flush ≠ .disconnecting
      · obtain ⟨producer, here⟩ := Option.isSome_iff_exists.mp ready.1
        have attended := attended_flushQueue
          (s := { s with connecting := true, connected := true }) here running.open_ rfl ready.2
        exact ⟨attended.running, iff_of_true attended.working ready⟩
      · have quiet : s.flush ≠ .sending := by
          intro sending
          exact absurd ((running.sending sending).1.symm.trans apart) nofun
        have gone : s.producer = none ∨ s.flush = .disconnecting := by
          by_contra both
          rw [not_or] at both
          exact ready ⟨Option.isSome_iff_ne_none.mpr both.1, both.2⟩
        have busy : s.producer = none ∨ s.flush ≠ .idle :=
          gone.imp_right fun disconnecting => by simp [disconnecting]
        rw [flushQueue_of_busy (s := { s with connecting := true, connected := true }) busy]
        refine ⟨⟨running.open_, nofun, fun sending => absurd sending quiet, ?_⟩, ?_⟩
        · intro _ idle here
          rcases busy with missing | active
          · rw [show s.producer = none from missing] at here
            cases here
          · exact absurd idle active
        · refine iff_of_false (not_not.mpr ⟨rfl, gone.symm⟩) ready

theorem working_step (working : ¬s.Wedged) (open_ : a ≠ .disconnectKafka) :
    Running (s.step enabled bufferMax a) ∧
      (¬(s.step enabled bufferMax a).Wedged ↔ ConnectsReady s a) := by
  have other_step {t : KafkaQueue M} (attended : Attended t)
      (different : ∀ success, a ≠ .connectSettled success) :
      Running t ∧ (¬t.Wedged ↔ ConnectsReady s a) :=
    ⟨attended.running, iff_of_true attended.working fun same => absurd same (different true)⟩
  cases a with
  | enqueueKafkaMessage message =>
    cases enabled with
    | false => exact other_step ⟨running, working⟩ nofun
    | true => exact other_step (attended_enqueue running working message) nofun
  | connectSettled success => exact connectSettled_wedges running working success
  | sendSettled success => exact other_step (attended_sendSettled running working success) nofun
  | disconnectSettled =>
    refine other_step ?_ nofun
    unfold step disconnectSettled
    cases phase : s.flush with
    | idle => exact ⟨running, working⟩
    | sending => exact ⟨running, working⟩
    | disconnecting =>
      have apart : s.connected = false := by
        cases connected : s.connected with
        | false => rfl
        | true => exact absurd ⟨connected, .inl phase⟩ working
      exact attended_apart ⟨running.open_, running.one, nofun, fun _ _ => nofun⟩ apart
  | disconnectKafka => exact absurd rfl open_
  | closeSettled =>
    refine other_step ?_ nofun
    have stays : s.step enabled bufferMax .closeSettled = s := by
      simp [step, closeSettled, running.open_]
    rw [stays]
    exact ⟨running, working⟩

theorem running_step (open_ : a ≠ .disconnectKafka) :
    Running (s.step enabled bufferMax a) := by
  by_cases wedged : s.Wedged
  · exact (wedged_step running wedged open_).1
  · exact (working_step running wedged open_).1

end

/-- A process that is not shut down keeps its queue moving exactly as long as every connection finds
its producer still there and no flush about to take it away. Until then nothing waits while it
could be sent; from then on nothing that is logged ever leaves the queue. -/
theorem log_moves_iff (enabled : Bool) (bufferMax : JsNumber) (steps : List (KafkaStep M))
    (open_ : ∀ a ∈ steps, a ≠ .disconnectKafka) :
    (Always (step enabled bufferMax) (fun s => ¬s.Wedged) started steps ↔
        EachStep (step enabled bufferMax) ConnectsReady started steps) ∧
      let s := run (step enabled bufferMax) started steps
      (¬s.Wedged → s.connected = true → s.flush = .idle → s.buffer.queue = []) ∧
      (s.Wedged → ∀ later : List (KafkaStep M), (∀ a ∈ later, a ≠ .disconnectKafka) →
        (run (step enabled bufferMax) s later).Wedged ∧
          (run (step enabled bufferMax) s later).buffer.batches = s.buffer.batches) := by
  have keeps : ∀ s : KafkaQueue M, ∀ a ∈ steps, Running s → Running (s.step enabled bufferMax a) :=
    fun s a member running => running_step running (open_ a member)
  constructor
  · refine always_iff_eachStep_of_mem keeps (fun s a member running working => ?_)
      running_started (fun wedged => absurd wedged.1 Bool.false_ne_true)
    exact (working_step running working (open_ a member)).2
  · intro s
    have running : Running s := run_invariant keeps running_started
    constructor
    · intro working connected idle
      obtain ⟨⟨producer, here⟩, -⟩ := working_cases working connected
      exact running.drained connected idle (by simp [here])
    · intro wedged later still_open
      have stays : Running (run (step enabled bufferMax) s later) ∧
          (run (step enabled bufferMax) s later).Wedged ∧
          (run (step enabled bufferMax) s later).buffer.batches = s.buffer.batches := by
        refine run_invariant (I := fun t => Running t ∧ t.Wedged ∧
          t.buffer.batches = s.buffer.batches) (fun t a member kept => ?_) ⟨running, wedged, rfl⟩
        have next : Running (step enabled bufferMax t a) ∧ (step enabled bufferMax t a).Wedged ∧
            (step enabled bufferMax t a).buffer.batches = t.buffer.batches :=
          wedged_step kept.1 kept.2.1 (still_open a member)
        exact ⟨next.1, next.2.1, next.2.2.trans kept.2.2⟩
      exact stays.2

def sampleReconnect : List (KafkaStep String) :=
  [.enqueueKafkaMessage "GET /a", .connectSettled true, .sendSettled false,
    .enqueueKafkaMessage "GET /b", .connectSettled true, .disconnectSettled,
    .enqueueKafkaMessage "GET /c"]

theorem reconnect_wedges :
    ¬Always (step true (.finite 1000)) (fun s => ¬s.Wedged) started sampleReconnect := by
  rw [(log_moves_iff true (.finite 1000) sampleReconnect (by decide)).1]
  intro ready
  have at_reconnect := ready.2.2.2.2.1 rfl (by decide +kernel)
  exact absurd at_reconnect.2 (by decide +kernel)

end KafkaQueue
end Queue

end LeaderProduct
