import LeaderProduct.ExportWorker
import LeaderProduct.ManagerActions
import LeaderProduct.Transition

/-! One order between the export worker and its manager. The worker loads the row,
posts the payload it builds from it and records the answer in a transaction of a
read and an update; a manager transaction may commit between any two of these. -/
namespace LeaderProduct
open Transition

/-- An export attempt under way. `found` is the revision that the read of
`markOrderExportSuccess` returned. `edited` is for the proofs alone: the content
that the last accepted edit stored since the row was loaded. -/
structure ExportAttempt where
  order : Order
  answer : Option SavedOrder
  found : Option Nat
  edited : Option OrderContent

structure ExportState where
  order : Order
  attempt : Option ExportAttempt

inductive ExportAction where
  | manager (a : ManagerAction)
  | load
  | post (answer : SavedOrder)
  | fail (error : ExportError) (failedAt : Instant)
  | markRead
  | markWrite (syncedAt : Instant)

def editedContent (order : Order) (a : ManagerAction) : Option OrderContent :=
  match outcome a (some order) with
  | .ok (.write w) => w.content order
  | _ => none

def loadAttempt (order : Order) : Option ExportAttempt :=
  if ExportCandidate order then some ⟨order, none, none, none⟩ else none

def postAttempt (answer : SavedOrder) (attempt : ExportAttempt) : ExportAttempt :=
  if exportErrors attempt.order = [] ∧ keepsItems attempt.order answer then
    { attempt with answer := some answer }
  else attempt

/-- A row that no longer is as it was queued ends the attempt without a trace. -/
def readForMark (order : Order) (attempt : ExportAttempt) : Option ExportAttempt :=
  if attempt.answer.isSome then
    if isMarkable attempt.order order then some { attempt with found := some order.revision }
    else none
  else some attempt

def exportStep (s : ExportState) : ExportAction → ExportState
  | .manager a =>
    { order := managerStep s.order a
      attempt := s.attempt.map (fun attempt =>
        { attempt with edited := (editedContent s.order a).or attempt.edited }) }
  | .load => { s with attempt := s.attempt.or (loadAttempt s.order) }
  | .post answer => { s with attempt := s.attempt.map (postAttempt answer) }
  | .fail error failedAt =>
    match s.attempt with
    | some attempt => ⟨markOrderExportFailure attempt.order error failedAt s.order, none⟩
    | none => s
  | .markRead => { s with attempt := s.attempt.bind (readForMark s.order) }
  | .markWrite syncedAt =>
    match s.attempt with
    | some ⟨order, some answer, some revision, _⟩ =>
      ⟨markedOrder order answer revision syncedAt s.order, none⟩
    | _ => s

def markedAttempt (s : ExportState) : ExportAction → Option ExportAttempt
  | .markWrite _ => s.attempt.filter (fun attempt => attempt.answer.isSome && attempt.found.isSome)
  | _ => none

/-- When an action marks the row as exported, the row holds what the payload posted,
and an edit that came in meanwhile and says something else is still to be exported. -/
def ExportedAsPosted (s : ExportState) (a : ExportAction) : Prop :=
  ∀ attempt ∈ markedAttempt s a,
    postedContent s.order.content = (buildQueuedOrderPayload attempt.order).content ∧
    ∀ content ∈ attempt.edited,
      postedContent content ≠ (buildQueuedOrderPayload attempt.order).content →
        (exportStep s a).order.PendingExport

/-- No edit was stored between the load and the mark, or the last one posts the same. -/
def NoForeignEdit (s : ExportState) (a : ExportAction) : Prop :=
  ∀ attempt ∈ markedAttempt s a, ∀ content ∈ attempt.edited,
    postedContent content = postedContent attempt.order.content

instance (s : ExportState) (a : ExportAction) : Decidable (ExportedAsPosted s a) :=
  inferInstanceAs (Decidable (∀ _ ∈ _, _))

def TracksEdits (s : ExportState) : Prop :=
  ∀ attempt ∈ s.attempt, s.order.content = attempt.edited.getD attempt.order.content

theorem managerStep_content (order : Order) (a : ManagerAction) :
    (managerStep order a).content = (editedContent order a).getD order.content := by
  unfold managerStep editedContent
  cases result : outcome a (some order) with
  | error e => rfl
  | ok out =>
    cases out with
    | unchanged => rfl
    | create fresh => rfl
    | write w => exact (outcome_write result).apply_content order

theorem tracksEdits_step (s : ExportState) (a : ExportAction) (tracks : TracksEdits s) :
    TracksEdits (exportStep s a) := by
  cases a with
  | manager a =>
    intro attempt member
    obtain ⟨before, running, rfl⟩ := Option.map_eq_some_iff.mp member
    have stored := tracks before running
    simp only [exportStep, managerStep_content]
    cases editedContent s.order a with
    | none => simpa using stored
    | some content => rfl
  | load =>
    intro attempt member
    simp only [exportStep, Option.mem_def, Option.or_eq_some_iff, loadAttempt] at member
    rcases member with running | ⟨_, loaded⟩
    · exact tracks attempt running
    · split at loaded
      · cases loaded
        rfl
      · cases loaded
  | post answer =>
    intro attempt member
    obtain ⟨before, running, rfl⟩ := Option.map_eq_some_iff.mp member
    have stored := tracks before running
    unfold postAttempt
    split <;> exact stored
  | fail error failedAt =>
    intro attempt member
    cases running : s.attempt with
    | none =>
      simp only [exportStep, running] at member ⊢
      cases member
    | some before =>
      simp only [exportStep, running] at member
      cases member
  | markRead =>
    intro attempt member
    obtain ⟨before, running, read⟩ := Option.bind_eq_some_iff.mp member
    have stored := tracks before running
    unfold readForMark at read
    split at read
    · split at read
      · cases read
        exact stored
      · cases read
    · cases read
      exact stored
  | markWrite syncedAt =>
    simp only [exportStep]
    split
    · intro attempt member
      cases member
    · exact tracks

theorem markedAttempt_attempt {s : ExportState} {a : ExportAction} {attempt : ExportAttempt}
    (marked : attempt ∈ markedAttempt s a) : attempt ∈ s.attempt := by
  cases a with
  | markWrite syncedAt => exact (Option.filter_eq_some_iff.mp marked).1
  | _ => cases marked

theorem exportedAsPosted_iff_noForeignEdit (s : ExportState) (a : ExportAction)
    (tracks : TracksEdits s) : ExportedAsPosted s a ↔ NoForeignEdit s a := by
  constructor
  · intro exported attempt marked content edited
    have stored := tracks attempt (markedAttempt_attempt marked)
    have same := (exported attempt marked).1
    rw [stored, Option.mem_def.mp edited, buildQueuedOrderPayload_content] at same
    exact same
  · intro quiet attempt marked
    have stored := tracks attempt (markedAttempt_attempt marked)
    have same := quiet attempt marked
    constructor
    · rw [stored, buildQueuedOrderPayload_content]
      cases edited : attempt.edited with
      | none => rfl
      | some content => exact same content edited
    · intro content edited foreign
      exact absurd (same content edited) foreign

/-- In every run of the worker and the manager over one order, what counts as exported
is what was posted exactly when no edit slips in between the load and the mark. -/
theorem exported_as_posted_iff (order : Order) (actions : List ExportAction) :
    EachStep exportStep ExportedAsPosted ⟨order, none⟩ actions ↔
      EachStep exportStep NoForeignEdit ⟨order, none⟩ actions :=
  eachStep_congr (fun s a tracks _ => tracksEdits_step s a tracks)
    (fun s a tracks => exportedAsPosted_iff_noForeignEdit s a tracks)
    (fun _ running => by cases running) actions

/-- The manager edits a queued order while its payload is on the way: the order is
marked as exported with lines that 1C never saw. -/
theorem edit_during_post_not_exported :
    created (outcome (Sample.put 1 .submit 1 1) none) = some Sample.queued ∧
      ¬ EachStep exportStep ExportedAsPosted ⟨Sample.queued, none⟩
        [.load, .post Sample.answer, .manager (Sample.update 1 2 3), .markRead, .markWrite 4] :=
  ⟨rfl, by decide⟩

end LeaderProduct
