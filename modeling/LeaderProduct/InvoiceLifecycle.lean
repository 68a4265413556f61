import LeaderProduct.InvoiceWorker
import LeaderProduct.Transition

/-! What becomes of an invoice that was superseded or cancelled, in any interleaving of the
queue with the runs of the workers. A run claims the row long before it writes its end,
so what matters at each write is whether the invoice has fallen since. -/
namespace LeaderProduct
open Transition

def Fell (s : InvoiceSystem) (token : String) : Prop :=
  ∃ row, s.rows token = some row ∧ (row.state = .superseded ∨ row.state = .cancelled)

def Quiet (s after : InvoiceSystem) (token : String) : Prop :=
  (∃ row, after.rows token = some row ∧ row.state ∉ activeStates) ∧
    after.documents token = s.documents token

def StaysDead (s after : InvoiceSystem) : Prop := ∀ token, Fell s token → Quiet s after token

def Handled (order : Option Id) (item : QueueItem) : Prop :=
  item.appOrderGuid ≠ "" ∧ item.realizationGuid ≠ "" ∧ item.token ≠ "" ∧ order.isSome = true

def RunSparesDead (row : Option Invoice) (o : Outside) : RunPhase → Prop
  | .makingAvailable _ => False
  | .finishing _ user results => finalState user results = .sent
  | .failing _ _ => ∃ stored, row = some stored ∧ stored.state = .superseded
  | .delivering _ _ _ (.sendingDocument _) => ∃ message, o.call = .error message
  | _ => True

/-- The actions that leave every invoice that has fallen so far quiet. -/
def SparesDead (p : InvoiceSystem × (String → Prop)) : InvoiceAction → Prop
  | .sync order item _ _ => p.2 item.token → Handled order item →
    mapOnecState item ∉ activeStates ∨ ∃ row, p.1.rows item.token = some row ∧ row.state = .sent
  | .start _ _ => True
  | .step worker o => ∀ run, p.1.runs worker = some run → p.2 run.token →
    RunSparesDead (p.1.rows run.token) o run.phase

section Sync
variable (settings : WorkerSettings) (order : Option Id) (item : QueueItem) (immediate : Bool)
  (now : Instant) (table : InvoiceTable)

theorem syncQueueItem_unhandled (skipped : ¬Handled order item) :
    syncQueueItem settings order item immediate now table = table := by
  unfold syncQueueItem
  split
  · rfl
  · rename_i named
    cases order with
    | none => rfl
    | some orderId =>
      simp only [not_or] at named
      exact absurd ⟨named.1, named.2.1, named.2.2, rfl⟩ skipped

theorem syncQueueItem_known (handled : Handled order item) {current : Invoice}
    (found : table item.token = some current) :
    syncQueueItem settings order item immediate now table =
      setRow table item.token (syncedInvoice settings item immediate now current) := by
  obtain ⟨guid, realization, token, isSome⟩ := handled
  obtain ⟨orderId, rfl⟩ := Option.isSome_iff_exists.mp isSome
  simp [syncQueueItem, guid, realization, token, found]

theorem syncQueueItem_unknown {orderId : Id} (handled : Handled (some orderId) item)
    (unknown : table item.token = none) :
    syncQueueItem settings (some orderId) item immediate now table =
      setRow (supersedeOthers orderId item now table) item.token
        (createdInvoice settings orderId item immediate now) := by
  obtain ⟨guid, realization, token, _⟩ := handled
  simp [syncQueueItem, guid, realization, token, unknown]

variable {settings order item immediate now table}

theorem syncQueueItem_other {token : String} (other : token ≠ item.token) {row : Invoice}
    (found : table token = some row) :
    syncQueueItem settings order item immediate now table token = some row ∨
      syncQueueItem settings order item immediate now table token =
        some (replacedInvoice now row) := by
  by_cases handled : Handled order item
  · cases known : table item.token with
    | some current =>
      rw [syncQueueItem_known settings order item immediate now table handled known]
      exact .inl (by simpa [setRow, other] using found)
    | none =>
      obtain ⟨orderId, rfl⟩ := Option.isSome_iff_exists.mp handled.2.2.2
      rw [syncQueueItem_unknown settings item immediate now table handled known]
      simp only [setRow, if_neg other, supersedeOthers, found, Option.map_some, Option.some.injEq]
      split
      · exact .inr rfl
      · exact .inl rfl
  · rw [syncQueueItem_unhandled settings order item immediate now table handled]
    exact .inl found

theorem syncedState_inactive {current : Invoice} (idle : current.state ∉ activeStates) :
    syncedState item now current ∉ activeStates ↔
      mapOnecState item ∉ activeStates ∨ current.state = .sent := by
  unfold syncedState
  split
  · rename_i cancelled
    exact iff_of_true (by decide) (.inl (by rw [cancelled]; decide))
  · split
    · rename_i sent
      exact iff_of_true idle (.inr sent)
    · rename_i unsent
      have unclaimed : ¬(current.state = .sending ∧ Leased now current) :=
        fun claimed => idle (by rw [claimed.1]; decide)
      rw [if_neg unclaimed]
      simp [unsent]

end Sync

theorem finalState_cases (user : InvoiceUser) (results : DeliveryChannel → DeliveryResult) :
    finalState user results = .sent ∨ finalState user results = .partialState ∨
      finalState user results = .error := by
  unfold finalState
  dsimp only
  split
  · split <;> simp
  · split
    · exact .inl rfl
    · split <;> simp

theorem finalState_inactive (user : InvoiceUser) (results : DeliveryChannel → DeliveryResult) :
    finalState user results ∉ activeStates ↔ finalState user results = .sent := by
  rcases finalState_cases user results with state | state | state <;> rw [state] <;> decide

/-- A step of a run leaves its inactive row inactive, and sends no document, in exactly
the phases that spare a fallen invoice. -/
theorem processInvoice_quiet (settings : WorkerSettings) (o : Outside) (token : String)
    (row : Invoice) (deliveries : DeliveryChannel → Option InvoiceDelivery) (phase : RunPhase)
    (idle : row.state ∉ activeStates) :
    ((processInvoice settings o token (some row) deliveries phase).invoice row).state ∉
          activeStates ∧
        (processInvoice settings o token (some row) deliveries phase).document = none ↔
      RunSparesDead (some row) o phase := by
  cases phase with
  | claiming =>
    have unclaimable : ¬Claimable o.now row := by
      rintro ⟨processable, _⟩
      revert idle processable
      cases row.state <;> decide
    simpa [processInvoice, claimedInvoice, unclaimable, RunSparesDead] using idle
  | delivering invoice user telegram stage =>
    cases stage with
    | sendingDocument existing =>
      simp only [processInvoice, deliverChannel, RunSparesDead]
      split <;> simp_all
    | _ => exact iff_of_true ⟨idle, rfl⟩ trivial
  | finishing invoice user results =>
    simp [processInvoice, finalInvoice, finalState_inactive, RunSparesDead]
  | failing invoice message =>
    simp only [processInvoice, failedInvoice, RunSparesDead]
    split
    · simp_all
    · simp_all [activeStates]
  | makingAvailable invoice =>
    simp [processInvoice, availableInvoice, activeStates, RunSparesDead]
  | superseding =>
    simp [processInvoice, markSuperseded, activeStates, RunSparesDead]
  | _ => exact iff_of_true ⟨idle, rfl⟩ trivial

section Quiet
variable {s u v : InvoiceSystem} {token : String}

theorem quiet_of_fell (down : Fell s token) : Quiet s s token := by
  obtain ⟨row, found, dead⟩ := down
  refine ⟨⟨row, found, ?_⟩, rfl⟩
  rcases dead with state | state <;> rw [state] <;> decide

theorem Quiet.trans (first : Quiet s u token) (later : Quiet u v token) : Quiet s v token :=
  ⟨later.1, later.2.trans first.2⟩

theorem Quiet.rest_of (first : Quiet s u token) (all : Quiet s v token) : Quiet u v token :=
  ⟨all.1, all.2.trans first.2.symm⟩

theorem quiet_applyEffect {worker : Nat} {run : String} {e : Effect} {row : Invoice}
    (found : s.rows token = some row) (idle : row.state ∉ activeStates) :
    Quiet s (applyEffect s worker run e) token ↔
      (token = run → (e.invoice row).state ∉ activeStates ∧ e.document = none) := by
  by_cases own : token = run
  · subst own
    have documents : (applyEffect s worker token e).documents token = s.documents token ↔
        e.document = none := by
      constructor
      · intro same
        cases sent : e.document with
        | none => rfl
        | some channel =>
          have more := congrFun same channel
          simp [applyEffect, sent] at more
      · intro unsent
        funext channel
        simp [applyEffect, unsent]
    rw [Quiet, documents]
    simp [applyEffect, found]
  · simp [Quiet, applyEffect, own, found, idle]

end Quiet

theorem sparesDead_exact (settings : WorkerSettings) (p : InvoiceSystem × (String → Prop))
    (a : InvoiceAction) (still : ∀ token, p.2 token → Quiet p.1 p.1 token) :
    (∀ token, p.2 token → Quiet p.1 (invoiceStep settings p.1 a) token) ↔ SparesDead p a := by
  obtain ⟨s, fallen⟩ := p
  dsimp only at still
  cases a with
  | start worker token => exact iff_of_true still trivial
  | sync order item immediate now =>
    simp only [invoiceStep, SparesDead]
    constructor
    · intro quiet down handled
      obtain ⟨row, found, idle⟩ := (still item.token down).1
      obtain ⟨after, stored, idle_after⟩ := (quiet item.token down).1
      rw [syncQueueItem_known settings order item immediate now s.rows handled found] at stored
      simp only [setRow, if_true, Option.some.injEq] at stored
      rw [← stored] at idle_after
      rcases (syncedState_inactive idle).mp idle_after with inactive | sent
      · exact .inl inactive
      · exact .inr ⟨row, found, sent⟩
    · intro spares token down
      obtain ⟨row, found, idle⟩ := (still token down).1
      refine ⟨?_, rfl⟩
      by_cases own : token = item.token
      · subst own
        by_cases handled : Handled order item
        · rw [syncQueueItem_known settings order item immediate now s.rows handled found]
          refine ⟨_, if_pos rfl, (syncedState_inactive idle).mpr ?_⟩
          rcases spares down handled with inactive | ⟨_, same, sent⟩
          · exact .inl inactive
          · rw [found, Option.some.injEq] at same
            exact .inr (same ▸ sent)
        · rw [syncQueueItem_unhandled settings order item immediate now s.rows handled]
          exact ⟨row, found, idle⟩
      · rcases syncQueueItem_other own found with same | replaced
        · exact ⟨row, same, idle⟩
        · exact ⟨_, replaced, by simp [replacedInvoice, activeStates]⟩
  | step worker o =>
    simp only [invoiceStep, SparesDead]
    cases running : s.runs worker with
    | none => exact iff_of_true still (fun _ none_running => by cases none_running)
    | some run =>
      simp only [Option.some.injEq, forall_eq']
      constructor
      · intro quiet down
        obtain ⟨row, found, idle⟩ := (still run.token down).1
        rw [found]
        rw [← processInvoice_quiet settings o run.token row (s.deliveries run.token) run.phase idle]
        have own := (quiet_applyEffect found idle).mp (quiet run.token down) rfl
        rwa [found] at own
      · intro spares token down
        obtain ⟨row, found, idle⟩ := (still token down).1
        rw [quiet_applyEffect found idle]
        rintro rfl
        rw [found]
        have spares := spares down
        rw [found] at spares
        exact (processInvoice_quiet settings o run.token row _ run.phase idle).mpr spares

/-- In every run from any state, invoices that were once superseded or cancelled never
become active again and no document of theirs goes out, exactly when every action spares
those that have fallen before it. -/
theorem dead_invoices_stay_dead_iff (settings : WorkerSettings) (s : InvoiceSystem)
    (actions : List InvoiceAction) :
    (trace (invoiceStep settings) s actions).Pairwise StaysDead ↔
      EachStep (markStep (invoiceStep settings) Fell) SparesDead (s, Fell s) actions :=
  pairwise_fallen_iff quiet_of_fell Quiet.trans Quiet.rest_of (sparesDead_exact settings) s actions

namespace Sample

def settings : WorkerSettings := ⟨120000, 0, fun _ => 15000⟩

def queueItem (token : String) (version : Int) (state : OnecInvoiceState) : QueueItem where
  appOrderGuid := "order-guid"
  realizationGuid := "realization"
  token := token
  state := state
  waitReason := none
  businessHash := none
  version := version
  readyAt := none
  updatedAt := none
  details := ⟨none, none, none, none, none, none, none, none⟩

def sync (token : String) (version : Int) (state : OnecInvoiceState) (now : Instant) :
    InvoiceAction := .sync (some "order-id") (queueItem token version state) false now

def outside (token : String) (now : Instant) : Outside where
  now := now
  order := ⟨true, some ⟨some 1, none, none, none⟩⟩
  validation := .ok (some ⟨token, none, .queued⟩)
  pdf := .ok ⟨true, ⟨"key", "invoice.pdf", "application/pdf", 5⟩⟩
  validationAfter := .ok (some ⟨token, none, .queued⟩)
  call := .ok ()

def upToDocument : List InvoiceAction :=
  .start 0 "token-1" :: List.replicate 10 (.step 0 (outside "token-1" 2))

end Sample

/-- A superseded invoice is active again when 1C names it once more; and one that is
superseded after its run has validated it is still sent. -/
theorem superseded_invoice_revived :
    ¬(trace (invoiceStep Sample.settings) emptySystem
        [Sample.sync "token-1" 1 .ready 1, Sample.sync "token-2" 2 .ready 2,
          Sample.sync "token-1" 1 .ready 3]).Pairwise StaysDead ∧
      ¬(trace (invoiceStep Sample.settings) emptySystem
        (Sample.sync "token-1" 1 .ready 1 :: Sample.upToDocument ++
          [Sample.sync "token-2" 2 .ready 3, .step 0 (Sample.outside "token-1" 4)])).Pairwise
        StaysDead := by
  constructor
  · intro law
    obtain ⟨⟨row, found, idle⟩, _⟩ :=
      List.pairwise_iff_getElem.mp law 2 3 (by decide) (by decide) (by decide) "token-1"
        ⟨_, rfl, .inl rfl⟩
    cases found
    exact idle (by decide)
  · intro law
    obtain ⟨_, unsent⟩ :=
      List.pairwise_iff_getElem.mp law 13 14 (by decide) (by decide) (by decide) "token-1"
        ⟨_, rfl, .inl rfl⟩
    have more := congrFun unsent .telegram
    revert more
    decide

end LeaderProduct
