import LeaderProduct.InvoiceLifecycle

/-! What becomes of a delivered invoice when 1C cannot be told of it. The acknowledgement
stands inside the `try` of `processInvoice`, behind the final write, so its failure reaches
the handler that is meant for deliveries that went wrong. -/
namespace LeaderProduct
open Transition

/-- The invoice stands as sent at that time, with no error and no attempt ahead. -/
def StandsSent (sentAt : Instant) (row : Option Invoice) : Prop :=
  ∃ invoice, row = some invoice ∧ invoice.state = .sent ∧ invoice.sentAt = some sentAt ∧
    invoice.nextAttemptAt = none ∧ invoice.lastError = none

/-- What the rest of the system does for a while, without touching the row or the run. -/
def LeavesRun (settings : WorkerSettings) (worker : Nat) (token : String) (s : InvoiceSystem)
    (others : List InvoiceAction) : Prop :=
  (run (invoiceStep settings) s others).rows token = s.rows token ∧
    (run (invoiceStep settings) s others).runs worker = s.runs worker

section Step
variable {settings : WorkerSettings} {worker : Nat} {token : String} {s : InvoiceSystem}

theorem invoiceStep_running {phase : RunPhase} (running : s.runs worker = some ⟨token, phase⟩)
    (o : Outside) :
    invoiceStep settings s (.step worker o) =
      applyEffect s worker token
        (processInvoice settings o token (s.rows token) (s.deliveries token) phase) := by
  simp only [invoiceStep, running]

variable {message : String} {invoice : Invoice} {o : Outside}

theorem StandsSent.unless_failed {sentAt now : Instant} {row : Invoice} {attempts : Nat}
    (sent : StandsSent sentAt (some row)) :
    ¬StandsSent sentAt (some (failedInvoice settings attempts message now row)) := by
  obtain ⟨_, same, state, _⟩ := sent
  cases same
  rintro ⟨_, same, after, _⟩
  cases same
  simp [failedInvoice, state] at after

theorem finalInvoice_stands {attempts : Nat} {user : InvoiceUser}
    {results : DeliveryChannel → DeliveryResult} (sent : finalState user results = .sent)
    (now : Instant) (row : Invoice) :
    StandsSent now (some (finalInvoice settings attempts user results now row)) := by
  refine ⟨_, rfl, ?_⟩
  simp [finalInvoice, finalError, sent]

variable (settings)

theorem finishing_step {row : Invoice} {user : InvoiceUser}
    {results : DeliveryChannel → DeliveryResult}
    (running : s.runs worker = some ⟨token, .finishing invoice user results⟩)
    (found : s.rows token = some row) (sent : finalState user results = .sent) :
    StandsSent o.now ((invoiceStep settings s (.step worker o)).rows token) ∧
      (invoiceStep settings s (.step worker o)).runs worker = some ⟨token, .acking invoice⟩ := by
  rw [invoiceStep_running running]
  constructor
  · simp only [applyEffect, processInvoice, found, if_true, Option.map_some]
    exact finalInvoice_stands sent o.now row
  · simp [applyEffect, processInvoice]

theorem acking_step (running : s.runs worker = some ⟨token, .acking invoice⟩)
    (failed : o.call = .error message) :
    (invoiceStep settings s (.step worker o)).rows token = s.rows token ∧
      (invoiceStep settings s (.step worker o)).runs worker =
        some ⟨token, caught invoice message⟩ := by
  rw [invoiceStep_running running]
  simp [applyEffect, processInvoice, failed]

theorem caught_step {sentAt : Instant}
    (running : s.runs worker = some ⟨token, caught invoice message⟩)
    (sent : StandsSent sentAt (s.rows token)) :
    StandsSent sentAt ((invoiceStep settings s (.step worker o)).rows token) ↔
      message = "INVOICE_SUPERSEDED" := by
  rw [invoiceStep_running running]
  obtain ⟨row, found, _⟩ := id sent
  rw [found] at sent
  by_cases superseded : message = "INVOICE_SUPERSEDED"
  · simp only [applyEffect, caught, superseded, if_true, processInvoice, found, Option.map_some,
      id_eq, iff_true]
    exact sent
  · simp only [applyEffect, caught, superseded, if_false, if_true, processInvoice, found,
      Option.map_some, iff_false]
    exact sent.unless_failed

end Step

/-- A run has delivered the invoice everywhere and writes so; the acknowledgement then fails,
and the handler runs, while the rest of the system goes on without touching the invoice.
From any state, the invoice still stands as sent afterwards exactly when the message of the
failure is the one by which the handler knows a superseded invoice. -/
theorem sent_invoice_survives_iff (settings : WorkerSettings) (worker : Nat) (token : String)
    (s : InvoiceSystem) (invoice row : Invoice) (user : InvoiceUser)
    (results : DeliveryChannel → DeliveryResult) (final ack handler : Outside) (message : String)
    (before_ack before_handler : List InvoiceAction)
    (running : s.runs worker = some ⟨token, .finishing invoice user results⟩)
    (found : s.rows token = some row) (sent : finalState user results = .sent)
    (failed : ack.call = .error message)
    (spared : LeavesRun settings worker token (invoiceStep settings s (.step worker final))
      before_ack)
    (spared_again : LeavesRun settings worker token
      (run (invoiceStep settings) s (.step worker final :: before_ack ++ [.step worker ack]))
      before_handler) :
    StandsSent final.now ((invoiceStep settings s (.step worker final)).rows token) ∧
      (StandsSent final.now
          ((run (invoiceStep settings) s (.step worker final :: before_ack ++
            .step worker ack :: before_handler ++ [.step worker handler])).rows token) ↔
        message = "INVOICE_SUPERSEDED") := by
  obtain ⟨written, acking⟩ := finishing_step settings (o := final) running found sent
  refine ⟨written, ?_⟩
  simp only [run_append, run, List.cons_append] at spared_again ⊢
  have refused := acking_step settings (spared.2.trans acking) failed
  have standing : StandsSent final.now _ := (spared_again.1.trans (refused.1.trans spared.1)) ▸ written
  exact caught_step settings (spared_again.2.trans refused.2) standing

namespace Sample

def everywhereDelivered : InvoiceSystem :=
  run (invoiceStep settings) emptySystem
    (sync "token-1" 1 .ready 1 :: .start 0 "token-1" ::
      List.replicate 16 (.step 0 (outside "token-1" 2)))

def timedOut : Outside := { outside "token-1" 3 with call := .error "timeout" }

end Sample

theorem sent_invoice_lost_on_timeout :
    let told := [InvoiceAction.start 1 "token-2"]
    StandsSent 2 ((invoiceStep Sample.settings Sample.everywhereDelivered
        (.step 0 (Sample.outside "token-1" 2))).rows "token-1") ∧
      (StandsSent 2 ((run (invoiceStep Sample.settings) Sample.everywhereDelivered
          (.step 0 (Sample.outside "token-1" 2) :: told ++ .step 0 Sample.timedOut :: told ++
            [.step 0 (Sample.outside "token-1" 4)])).rows "token-1") ↔
        "timeout" = "INVOICE_SUPERSEDED") :=
  sent_invoice_survives_iff Sample.settings 0 "token-1" Sample.everywhereDelivered _ _ _ _
    (Sample.outside "token-1" 2) Sample.timedOut (Sample.outside "token-1" 4) "timeout" _ _ rfl rfl
    (by decide) rfl ⟨rfl, rfl⟩ ⟨rfl, rfl⟩

/-- 1C does not answer the acknowledgement of a delivered invoice, and the invoice is in
error, with an attempt ahead. -/
theorem unanswered_ack_reopens_invoice :
    StandsSent 2 ((invoiceStep Sample.settings Sample.everywhereDelivered
        (.step 0 (Sample.outside "token-1" 2))).rows "token-1") ∧
      ¬StandsSent 2 ((run (invoiceStep Sample.settings) Sample.everywhereDelivered
          [.step 0 (Sample.outside "token-1" 2), .step 0 Sample.timedOut,
            .step 0 (Sample.outside "token-1" 4)]).rows "token-1") := by
  constructor
  · exact ⟨_, rfl, rfl, rfl, rfl, rfl⟩
  · rintro ⟨row, found, state, _⟩
    have stored : ((run (invoiceStep Sample.settings) Sample.everywhereDelivered
        [.step 0 (Sample.outside "token-1" 2), .step 0 Sample.timedOut,
          .step 0 (Sample.outside "token-1" 4)]).rows "token-1").map Invoice.state =
        some .error := by rfl
    simp [found, state] at stored

end LeaderProduct
