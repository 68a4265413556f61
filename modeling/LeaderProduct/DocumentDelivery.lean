import LeaderProduct.InvoiceLifecycle

/-! How often a messenger accepts the document of one invoice, in any interleaving of the
queue with the runs of the workers. A run decides by the delivery row it read before the
send, so what counts is what that row knew of the documents accepted until then. -/
namespace LeaderProduct
open Transition

inductive DeliveryAction where
  | invoice (a : InvoiceAction)
  | recordingFails (worker : Nat) (message : String)

def deliveryStep (settings : WorkerSettings) (s : InvoiceSystem) :
    DeliveryAction → InvoiceSystem
  | .invoice a => invoiceStep settings s a
  | .recordingFails worker message =>
    match s.runs worker with
    | some ⟨token, .delivering invoice user telegram (.recording existing)⟩ =>
      { s with
        runs := fun w =>
          if w = worker then some ⟨token, .delivering invoice user telegram (.failed existing message)⟩
          else s.runs w }
    | _ => s

def idleSystem (rows : InvoiceTable)
    (deliveries : String → DeliveryChannel → Option InvoiceDelivery) : InvoiceSystem :=
  ⟨rows, deliveries, fun _ => none, fun _ _ => 0⟩

def SentOnce (s : InvoiceSystem) : Prop := ∀ token channel, s.documents token channel ≤ 1

/-- The system with, for each worker, how many documents had been accepted through the
channel when its run last read the delivery row. -/
abbrev ReadingSystem := InvoiceSystem × (Nat → Nat)

def readingStep (settings : WorkerSettings) (p : ReadingSystem) (a : DeliveryAction) :
    ReadingSystem where
  fst := deliveryStep settings p.1 a
  snd w := match a with
    | .invoice (.step worker _) =>
      match p.1.runs worker with
      | some ⟨token, .delivering _ _ telegram .upserting⟩ =>
        if w = worker then p.1.documents token (currentChannel telegram) else p.2 w
      | _ => p.2 w
    | _ => p.2 w

/-- When a messenger accepts a document, the delivery row that the run read had recorded
every document accepted by then, and none has been accepted through the channel since. -/
def ReadsEarlierDocuments (p : ReadingSystem) : DeliveryAction → Prop
  | .invoice (.step worker o) =>
    match p.1.runs worker with
    | some ⟨token, .delivering _ _ telegram (.sendingDocument existing)⟩ =>
      o.call = .ok () →
        (0 < p.2 worker → existing.sentAt.isSome = true) ∧
          p.1.documents token (currentChannel telegram) = p.2 worker
    | _ => True
  | _ => True

def ReadingFacts (documents seen : Nat) : DeliveryStage → Prop
  | .upserting => True
  | .sendingDocument existing => seen ≤ documents ∧ existing.sentAt.isSome = false
  | _ => seen ≤ documents

def ReadingInvariant (p : ReadingSystem) : Prop :=
  ∀ worker token invoice user telegram stage,
    p.1.runs worker = some ⟨token, .delivering invoice user telegram stage⟩ →
      ReadingFacts (p.1.documents token (currentChannel telegram)) (p.2 worker) stage

theorem caught_not_delivering (invoice : Invoice) (message : String) (row : Invoice)
    (user : InvoiceUser) (telegram : Option DeliveryResult) (stage : DeliveryStage) :
    caught invoice message ≠ .delivering row user telegram stage := by
  unfold caught
  split <;> exact nofun

variable {stage : DeliveryStage} {invoice : Invoice} {user : InvoiceUser}
    {telegram : Option DeliveryResult} {o : Outside} {token : String} {row : Option Invoice}
    {documents seen worker : Nat}

theorem channelDone_upserting {row : Invoice} {user' : InvoiceUser}
    {telegram' : Option DeliveryResult} {result : DeliveryResult}
    (next : channelDone invoice user telegram result = .delivering row user' telegram' stage) :
    stage = .upserting := by
  cases telegram with
  | none => cases next; rfl
  | some first => cases next

/-- A run that is past the reading of a delivery row got there on the same channel, and it
goes on to the send only when the row had recorded no document. -/
theorem deliverChannel_next {settings : WorkerSettings} {delivery : Option InvoiceDelivery}
    {invoice' : Invoice} {user' : InvoiceUser} {telegram' : Option DeliveryResult}
    {stage' : DeliveryStage}
    (next : (deliverChannel settings o token row delivery invoice user telegram stage).next =
      .delivering invoice' user' telegram' stage') :
    stage' = .upserting ∨
      telegram' = telegram ∧
        ∀ existing, stage' = .sendingDocument existing → existing.sentAt.isSome = false := by
  cases stage with
  | upserting =>
    simp only [deliverChannel] at next
    split at next
    · exact .inl (channelDone_upserting next)
    · split at next
      · cases next
        exact .inr ⟨rfl, fun _ sending => by cases sending⟩
      · split at next
        · exact .inl (channelDone_upserting next)
        · cases next
          exact .inr ⟨rfl, fun _ sending => by cases sending⟩
  | skipping => exact .inl (channelDone_upserting next)
  | rechecking existing =>
    simp only [deliverChannel] at next
    split at next
    · cases next
      exact .inr ⟨rfl, fun _ sending => by cases sending⟩
    · cases next
  | validating existing businessHash =>
    simp only [deliverChannel] at next
    split at next
    · exact (caught_not_delivering _ _ _ _ _ _ next).elim
    · split at next
      · cases next
        exact .inr ⟨rfl, fun _ sending => by cases sending⟩
      · cases next
  | marking existing =>
    simp only [deliverChannel] at next
    cases next
    refine .inr ⟨rfl, fun other sending => ?_⟩
    split at sending
    · cases sending
    · rename_i unsent
      cases sending
      exact Bool.eq_false_iff.mpr unsent
  | sendingDocument existing =>
    simp only [deliverChannel] at next
    split at next
    · cases next
      exact .inr ⟨rfl, fun _ sending => by cases sending⟩
    · cases next
      exact .inr ⟨rfl, fun _ sending => by cases sending⟩
  | recording existing =>
    cases next
    exact .inr ⟨rfl, fun _ sending => by cases sending⟩
  | sendingNote existing =>
    simp only [deliverChannel] at next
    cases next
    refine .inr ⟨rfl, fun other sending => ?_⟩
    split at sending <;> cases sending
  | delivered => exact .inl (channelDone_upserting next)
  | failed existing message => exact .inl (channelDone_upserting next)

theorem processInvoice_next {settings : WorkerSettings}
    {deliveries : DeliveryChannel → Option InvoiceDelivery} {phase : RunPhase}
    (next : (processInvoice settings o token row deliveries phase).next =
      .delivering invoice user telegram stage) :
    stage = .upserting ∨
      (∃ invoice user before, phase = .delivering invoice user telegram before) ∧
        ∀ existing, stage = .sendingDocument existing → existing.sentAt.isSome = false := by
  cases phase with
  | delivering before user' telegram' stage' =>
    rcases deliverChannel_next next with reads | ⟨same, unsent⟩
    · exact .inl reads
    · exact .inr ⟨⟨before, user', stage', by rw [same]⟩, unsent⟩
  | downloading before order =>
    simp only [processInvoice] at next
    split at next
    · exact (caught_not_delivering _ _ _ _ _ _ next).elim
    · split at next
      · exact (caught_not_delivering _ _ _ _ _ _ next).elim
      · cases next
        exact .inl rfl
  | claiming =>
    simp only [processInvoice] at next
    split at next
    · split at next <;> cases next
    · cases next
  | claimed =>
    simp only [processInvoice] at next
    split at next <;> cases next
  | loaded before order =>
    simp only [processInvoice] at next
    split at next
    · split at next
      · exact (caught_not_delivering _ _ _ _ _ _ next).elim
      · split at next <;> cases next
    · split at next
      · exact (caught_not_delivering _ _ _ _ _ _ next).elim
      · cases next
      · cases next
  | refreshing before order =>
    simp only [processInvoice] at next
    split at next
    · split at next
      · split at next <;> cases next
      · exact (caught_not_delivering _ _ _ _ _ _ next).elim
    · exact (caught_not_delivering _ _ _ _ _ _ next).elim
  | acking before =>
    simp only [processInvoice] at next
    split at next
    · exact (caught_not_delivering _ _ _ _ _ _ next).elim
    · cases next
  | superseding => cases next
  | storing before order pdf => cases next
  | makingAvailable before => cases next
  | finishing before user results => cases next
  | failing before message => cases next
  | returned => cases next

theorem documents_grow (s : InvoiceSystem) (worker : Nat) (run : String) (e : Effect)
    (token : String) (channel : DeliveryChannel) :
    s.documents token channel ≤ (applyEffect s worker run e).documents token channel := by
  simp only [applyEffect]
  split
  · exact Nat.le_succ _
  · exact Nat.le_refl _

theorem ReadingFacts.mono {more : Nat} (facts : ReadingFacts documents seen stage)
    (grown : documents ≤ more) :
    ReadingFacts more seen stage := by
  cases stage with
  | upserting => trivial
  | sendingDocument existing => exact ⟨Nat.le_trans facts.1 grown, facts.2⟩
  | _ => exact Nat.le_trans facts grown

theorem ReadingFacts.counted (facts : ReadingFacts documents seen stage)
    (read : stage ≠ .upserting) : seen ≤ documents := by
  cases stage with
  | upserting => exact absurd rfl read
  | sendingDocument existing => exact facts.1
  | _ => exact facts

theorem readingFacts_of_counted (counted : seen ≤ documents)
    (unsent : ∀ existing, stage = .sendingDocument existing → existing.sentAt.isSome = false) :
    ReadingFacts documents seen stage := by
  cases stage with
  | upserting => trivial
  | sendingDocument existing => exact ⟨counted, unsent existing rfl⟩
  | _ => exact counted

theorem seen_after_step {settings : WorkerSettings} {p : ReadingSystem} {before : DeliveryStage}
    (running : p.1.runs worker = some ⟨token, .delivering invoice user telegram before⟩)
    (facts : ReadingFacts (p.1.documents token (currentChannel telegram)) (p.2 worker) before) :
    (readingStep settings p (.invoice (.step worker o))).2 worker ≤
      p.1.documents token (currentChannel telegram) := by
  cases before with
  | upserting => simp [readingStep, running]
  | _ =>
    simp only [readingStep, running]
    exact facts.counted nofun

theorem seen_of_other {settings : WorkerSettings} {p : ReadingSystem} {w : Nat}
    (other : w ≠ worker) : (readingStep settings p (.invoice (.step worker o))).2 w = p.2 w := by
  simp only [readingStep]
  split
  · exact if_neg other
  · rfl

theorem readingInvariant_step (settings : WorkerSettings) (p : ReadingSystem) (a : DeliveryAction)
    (facts : ReadingInvariant p) : ReadingInvariant (readingStep settings p a) := by
  intro w t invoice user telegram stage running
  cases a with
  | recordingFails worker message =>
    simp only [readingStep, deliveryStep] at running ⊢
    split at running
    · rename_i token invoice' user' telegram' existing recording
      dsimp only at running
      split at running
      · rename_i same
        subst same
        cases running
        exact (facts _ _ _ _ _ _ recording).counted nofun
      · exact facts _ _ _ _ _ _ running
    · exact facts _ _ _ _ _ _ running
  | invoice a =>
    cases a with
    | sync order item immediate now => exact facts w t invoice user telegram stage running
    | start worker token =>
      simp only [readingStep, deliveryStep, invoiceStep] at running ⊢
      split at running
      · cases running
      · exact facts w t invoice user telegram stage running
    | step worker o =>
      cases current : p.1.runs worker with
      | none =>
        simp only [readingStep, deliveryStep, invoiceStep, current] at running ⊢
        exact facts w t invoice user telegram stage running
      | some run =>
        have grown := documents_grow p.1 worker run.token
          (processInvoice settings o run.token (p.1.rows run.token) (p.1.deliveries run.token)
            run.phase) t (currentChannel telegram)
        have after : (readingStep settings p (.invoice (.step worker o))).1 =
            applyEffect p.1 worker run.token (processInvoice settings o run.token
              (p.1.rows run.token) (p.1.deliveries run.token) run.phase) := by
          simp only [readingStep, deliveryStep, invoiceStep, current]
        rw [after] at running ⊢
        simp only [applyEffect] at running
        split at running
        · rename_i same
          subst same
          simp only [Option.some.injEq, InvoiceRun.mk.injEq] at running
          obtain ⟨rfl, next⟩ := running
          rcases processInvoice_next next with rfl | ⟨⟨invoice', user', before, phase⟩, unsent⟩
          · trivial
          · obtain ⟨token, was⟩ := run
            cases phase
            have counted := @seen_after_step _ _ _ o _ _ settings p _ current
              (facts _ _ _ _ _ _ current)
            exact readingFacts_of_counted (Nat.le_trans counted grown) unsent
        · rename_i other
          rw [seen_of_other other]
          exact (facts _ _ _ _ _ _ running).mono grown

theorem document_accepted {settings : WorkerSettings}
    {deliveries : DeliveryChannel → Option InvoiceDelivery} {phase : RunPhase}
    {channel : DeliveryChannel}
    (accepted : (processInvoice settings o token row deliveries phase).document = some channel) :
    ∃ invoice user telegram existing,
      phase = .delivering invoice user telegram (.sendingDocument existing) ∧ o.call = .ok () ∧
        channel = currentChannel telegram := by
  cases phase with
  | delivering invoice user telegram stage =>
    cases stage with
    | sendingDocument existing =>
      simp only [processInvoice, deliverChannel] at accepted
      split at accepted
      · cases accepted
      · rename_i answered
        cases accepted
        exact ⟨invoice, user, telegram, existing, rfl, answered, rfl⟩
    | _ => cases accepted
  | _ => cases accepted

theorem sentOnce_applyEffect {s : InvoiceSystem} {run : String} {e : Effect} (once : SentOnce s) :
    SentOnce (applyEffect s worker run e) ↔
      ∀ channel, e.document = some channel → s.documents run channel = 0 := by
  constructor
  · intro still channel sent
    have bound := still run channel
    simp only [applyEffect, sent, and_self, if_true] at bound
    exact Nat.le_zero.mp (Nat.le_of_succ_le_succ bound)
  · intro first token channel
    simp only [applyEffect]
    split
    · rename_i sent
      obtain ⟨rfl, sent⟩ := sent
      exact Nat.le_of_eq (congrArg (· + 1) (first channel sent))
    · exact once token channel

theorem sentOnce_exact (settings : WorkerSettings) (p : ReadingSystem) (a : DeliveryAction)
    (facts : ReadingInvariant p) (once : SentOnce p.1) :
    SentOnce (readingStep settings p a).1 ↔ ReadsEarlierDocuments p a := by
  cases a with
  | recordingFails worker message =>
    refine iff_of_true ?_ trivial
    simp only [readingStep, deliveryStep]
    split
    · exact once
    · exact once
  | invoice a =>
    cases a with
    | sync order item immediate now => exact iff_of_true once trivial
    | start worker token => exact iff_of_true once trivial
    | step worker o =>
      simp only [readingStep, deliveryStep, invoiceStep, ReadsEarlierDocuments]
      cases current : p.1.runs worker with
      | none => exact iff_of_true once trivial
      | some run =>
        dsimp only
        rw [sentOnce_applyEffect once]
        obtain ⟨token, phase⟩ := run
        constructor
        · intro first
          split
          · rename_i token' invoice user telegram existing sending
            cases sending
            intro answered
            have none_before : p.1.documents token (currentChannel telegram) = 0 := by
              refine first _ ?_
              simp only [processInvoice, deliverChannel, answered]
            have counted : p.2 worker = 0 := by
              have seen := (facts _ _ _ _ _ _ current).1
              rw [none_before] at seen
              exact Nat.le_zero.mp seen
            exact ⟨fun some_before => absurd counted (Nat.ne_of_gt some_before),
              none_before.trans counted.symm⟩
          · trivial
        · intro reads channel accepted
          obtain ⟨invoice, user, telegram, existing, rfl, answered, rfl⟩ :=
            document_accepted accepted
          obtain ⟨recorded, none_since⟩ := reads answered
          have unsent := (facts _ _ _ _ _ _ current).2
          have none_read : p.2 worker = 0 := by
            refine Nat.eq_zero_of_not_pos (fun some_before => ?_)
            rw [recorded some_before] at unsent
            cases unsent
          exact none_since.trans none_read

/-- No messenger accepts the document of an invoice twice through one channel, in any run of
the queue and the workers, exactly when every document is sent from a delivery row that knew
of all the documents accepted before. -/
theorem documents_sent_once_iff (settings : WorkerSettings) (rows : InvoiceTable)
    (deliveries : String → DeliveryChannel → Option InvoiceDelivery)
    (actions : List DeliveryAction) :
    Always (deliveryStep settings) SentOnce (idleSystem rows deliveries) actions ↔
      EachStep (readingStep settings) ReadsEarlierDocuments
        (idleSystem rows deliveries, fun _ => 0) actions := by
  rw [always_map Prod.fst (fun p a => (rfl : (readingStep settings p a).1 = _))
    (idleSystem rows deliveries, fun _ => 0)]
  refine always_iff_eachStep_of_inv (readingInvariant_step settings)
    (fun p a facts once => sentOnce_exact settings p a facts once) ?_ ?_ actions
  · intro worker token invoice user telegram stage running
    cases running
  · intro token channel
    exact Nat.zero_le 1

namespace Sample

def queueInvoice : DeliveryAction := .invoice (sync "token-1" 1 .ready 1)

def runSteps (worker steps : Nat) (now : Instant) : List DeliveryAction :=
  List.replicate steps (.invoice (.step worker (outside "token-1" now)))

def startRun (worker steps : Nat) (now : Instant) : List DeliveryAction :=
  .invoice (.start worker "token-1") :: runSteps worker steps now

end Sample

/-- A second worker takes the invoice over when the lease of the first has run out, both
send; and a document whose recording fails is sent once more by the next run. -/
theorem document_sent_twice :
    ¬Always (deliveryStep Sample.settings) SentOnce (idleSystem (fun _ => none) fun _ _ => none)
        (Sample.queueInvoice :: Sample.startRun 0 10 2 ++ Sample.startRun 1 10 130000 ++
          Sample.runSteps 0 1 130001 ++ Sample.runSteps 1 1 130002) ∧
      ¬Always (deliveryStep Sample.settings) SentOnce (idleSystem (fun _ => none) fun _ _ => none)
        (Sample.queueInvoice :: Sample.startRun 0 11 2 ++ [.recordingFails 0 "timeout"] ++
          Sample.runSteps 0 5 3 ++ Sample.startRun 0 10 20000) := by
  constructor
  · intro always
    have bound := always.last "token-1" .telegram
    revert bound
    decide
  · intro always
    have bound := always.last "token-1" .telegram
    revert bound
    decide

end LeaderProduct
