import LeaderProduct.InvoiceLifecycle

/-! How many invoices of one realization the queue leaves active. Calls of `syncQueueItem`
for one order and one realization bring any tokens and versions in any order, again and
again; beside the table stands the newest version that a call has brought so far. -/
namespace LeaderProduct
open Transition

structure Realization where
  orderId : Id
  appOrderGuid : String
  guid : String

structure SyncCall where
  item : QueueItem
  immediate : Bool
  now : Instant

def Realization.item (r : Realization) (call : SyncCall) : QueueItem :=
  { call.item with appOrderGuid := r.appOrderGuid, realizationGuid := r.guid }

structure SyncedTable where
  table : InvoiceTable
  newestSeen : Nat

instance (order : Option Id) (item : QueueItem) : Decidable (Handled order item) :=
  inferInstanceAs (Decidable (_ ∧ _))

def syncStep (settings : WorkerSettings) (r : Realization) (s : SyncedTable) (call : SyncCall) :
    SyncedTable where
  table := syncQueueItem settings (some r.orderId) (r.item call) call.immediate call.now s.table
  newestSeen :=
    if Handled (some r.orderId) (r.item call) then max s.newestSeen call.item.version.toNat
    else s.newestSeen

def noInvoices : SyncedTable := ⟨fun _ => none, 0⟩

def Live (r : Realization) (table : InvoiceTable) (token : String) (row : Invoice) : Prop :=
  table token = some row ∧ row.orderId = r.orderId ∧ row.realizationGuid = r.guid ∧
    row.state ∈ activeStates

/-- At most one row of the realization is active, and it has the newest version. -/
def OneLive (r : Realization) (s : SyncedTable) : Prop :=
  ∀ token row, Live r s.table token row →
    row.version = s.newestSeen ∧ ∀ token' row', Live r s.table token' row' → token' = token

def Revives (item : QueueItem) (current : Invoice) : Prop :=
  mapOnecState item ∈ activeStates ∧ current.state ≠ .sent

/-- A first item of a token brings no older version to life. A later one brings its row to
life beside no other active row and with no older version, or it leaves another active row
its version. -/
def KeepsOneLive (r : Realization) (s : SyncedTable) (call : SyncCall) : Prop :=
  Handled (some r.orderId) (r.item call) →
    match s.table call.item.token with
    | none => mapOnecState call.item ∈ activeStates → s.newestSeen ≤ call.item.version.toNat
    | some current =>
      (Revives call.item current →
        s.newestSeen ≤ call.item.version.toNat ∧
          ∀ token row, Live r s.table token row → token = call.item.token) ∧
      (¬Revives call.item current →
        ∀ token row, Live r s.table token row → token ≠ call.item.token →
          call.item.version.toNat ≤ s.newestSeen)

def OfRealization (r : Realization) (s : SyncedTable) : Prop :=
  ∀ token row, s.table token = some row →
    row.orderId = r.orderId ∧ row.realizationGuid = r.guid ∧ row.leaseUntil = none

section Step
variable (settings : WorkerSettings) {r : Realization} {s : SyncedTable} {call : SyncCall}

theorem syncStep_unhandled (skipped : ¬Handled (some r.orderId) (r.item call)) :
    syncStep settings r s call = s := by
  have same := syncQueueItem_unhandled settings (some r.orderId) (r.item call) call.immediate
    call.now s.table skipped
  simp [syncStep, same, skipped]

theorem syncStep_known (handled : Handled (some r.orderId) (r.item call)) {current : Invoice}
    (known : s.table call.item.token = some current) :
    syncStep settings r s call =
      ⟨setRow s.table call.item.token
          (syncedInvoice settings (r.item call) call.immediate call.now current),
        max s.newestSeen call.item.version.toNat⟩ := by
  have synced := syncQueueItem_known settings (some r.orderId) (r.item call) call.immediate
    call.now s.table handled known
  rw [syncStep, synced, if_pos handled]
  rfl

theorem syncStep_unknown (handled : Handled (some r.orderId) (r.item call))
    (unknown : s.table call.item.token = none) :
    syncStep settings r s call =
      ⟨setRow (supersedeOthers r.orderId (r.item call) call.now s.table) call.item.token
          (createdInvoice settings r.orderId (r.item call) call.immediate call.now),
        max s.newestSeen call.item.version.toNat⟩ := by
  have created := syncQueueItem_unknown settings (r.item call) call.immediate call.now s.table
    handled unknown
  rw [syncStep, created, if_pos handled]
  rfl

theorem supersedeOthers_some {orderId : Id} {item : QueueItem} {now : Instant}
    {table : InvoiceTable} {token : String} {row : Invoice}
    (found : supersedeOthers orderId item now table token = some row) :
    ∃ stored, table token = some stored ∧
      ((row = replacedInvoice now stored) ∨
        (row = stored ∧ ¬(stored.orderId = orderId ∧
          stored.realizationGuid = item.realizationGuid ∧ token ≠ item.token ∧
          stored.state ∈ activeStates))) := by
  obtain ⟨stored, here, result⟩ := Option.map_eq_some_iff.mp found
  split at result
  · exact ⟨stored, here, .inl result.symm⟩
  · rename_i spared
    exact ⟨stored, here, .inr ⟨result.symm, spared⟩⟩

theorem ofRealization_step (own : OfRealization r s) :
    OfRealization r (syncStep settings r s call) := by
  intro token row found
  by_cases handled : Handled (some r.orderId) (r.item call)
  · cases known : s.table call.item.token with
    | some current =>
      simp only [syncStep_known settings handled known] at found
      by_cases named : token = call.item.token
      · rw [named, setRow_same, Option.some.injEq] at found
        obtain ⟨order, realization, unleased⟩ := own _ current known
        have free : (syncedInvoice settings (r.item call) call.immediate call.now
            current).leaseUntil = none := by
          simp [syncedInvoice, unleased]
        rw [← found]
        exact ⟨order, realization, free⟩
      · rw [setRow_other named] at found
        exact own token row found
    | none =>
      simp only [syncStep_unknown settings handled known] at found
      by_cases named : token = call.item.token
      · rw [named, setRow_same, Option.some.injEq] at found
        rw [← found]
        exact ⟨rfl, rfl, rfl⟩
      · rw [setRow_other named] at found
        obtain ⟨stored, here, rfl | ⟨rfl, _⟩⟩ := supersedeOthers_some found
        · have stored_own := own token stored here
          exact ⟨stored_own.1, stored_own.2.1, rfl⟩
        · exact own token row here
  · rw [syncStep_unhandled settings handled] at found
    exact own token row found

theorem oneLive_setRow {table : InvoiceTable} {token : String} {newest : Nat} (row : Invoice)
    (own : row.orderId = r.orderId ∧ row.realizationGuid = r.guid) :
    OneLive r ⟨setRow table token row, newest⟩ ↔
      (row.state ∈ activeStates → row.version = newest ∧
        ∀ t other, Live r table t other → t = token) ∧
      (row.state ∉ activeStates → ∀ t other, Live r table t other → t ≠ token →
        other.version = newest ∧ ∀ t' other', Live r table t' other' → t' ≠ token → t' = t) := by
  have live_same (new : Invoice) :
      Live r (setRow table token row) token new ↔ new = row ∧ row.state ∈ activeStates := by
    rw [Live, setRow_same, Option.some.injEq]
    constructor
    · rintro ⟨rfl, _, _, active⟩
      exact ⟨rfl, active⟩
    · rintro ⟨rfl, active⟩
      exact ⟨rfl, own.1, own.2, active⟩
  have live_other {t : String} (other : t ≠ token) (new : Invoice) :
      Live r (setRow table token row) t new ↔ Live r table t new := by
    rw [Live, setRow_other other, Live]
  constructor
  · intro one
    constructor
    · intro active
      obtain ⟨version, alone⟩ := one token row ((live_same row).mpr ⟨rfl, active⟩)
      have no_other : ∀ t other, Live r table t other → t = token := by
        intro t other live
        by_cases same : t = token
        · exact same
        · exact alone t other ((live_other same other).mpr live)
      exact ⟨version, no_other⟩
    · intro _ t other live apart
      obtain ⟨version, alone⟩ := one t other ((live_other apart other).mpr live)
      exact ⟨version, fun t' other' live' apart' =>
        alone t' other' ((live_other apart' other').mpr live')⟩
  · rintro ⟨active_rule, idle_rule⟩ t new live
    by_cases same : t = token
    · subst same
      obtain ⟨rfl, active⟩ := (live_same new).mp live
      obtain ⟨version, alone⟩ := active_rule active
      have no_other : ∀ t' other', Live r (setRow table t new) t' other' → t' = t := by
        intro t' other' live'
        by_cases same' : t' = t
        · exact same'
        · exact alone t' other' ((live_other same' other').mp live')
      exact ⟨version, no_other⟩
    · have old := (live_other same new).mp live
      have idle : row.state ∉ activeStates := fun active => same ((active_rule active).2 t new old)
      obtain ⟨version, alone⟩ := idle_rule idle t new old same
      have no_other : ∀ t' other', Live r (setRow table token row) t' other' → t' = t := by
        intro t' other' live'
        by_cases same' : t' = token
        · subst same'
          exact absurd ((live_same other').mp live').2 idle
        · exact alone t' other' ((live_other same' other').mp live') same'
      exact ⟨version, no_other⟩

theorem supersedeOthers_dead (own : OfRealization r s) (now : Instant)
    (unknown : s.table call.item.token = none) (token : String) (row : Invoice) :
    ¬Live r (supersedeOthers r.orderId (r.item call) now s.table) token row := by
  rintro ⟨found, _, _, active⟩
  obtain ⟨stored, here, rfl | ⟨rfl, spared⟩⟩ := supersedeOthers_some found
  · simp [replacedInvoice, activeStates] at active
  · obtain ⟨order, realization, _⟩ := own token row here
    have other : token ≠ call.item.token := by
      rintro rfl
      cases unknown.symm.trans here
    exact spared ⟨order, realization, other, active⟩

theorem syncedState_active {item : QueueItem} {now : Instant} {current : Invoice}
    (unleased : current.leaseUntil = none) :
    syncedState item now current ∈ activeStates ↔ Revives item current := by
  have free : ¬Leased now current := by simp [Leased, unleased]
  unfold syncedState Revives
  split
  · rename_i cancelled
    rw [cancelled]
    exact iff_of_false (by decide) (fun revives => absurd revives.1 (by decide))
  · split
    · rename_i sent
      rw [sent]
      exact iff_of_false (by decide) (fun revives => revives.2 rfl)
    · rename_i unsent
      simp [free, unsent]

theorem version_eq_newest (seen version : Nat) : version = max seen version ↔ seen ≤ version := by
  omega

theorem keepsOneLive_exact (own : OfRealization r s) (one : OneLive r s) :
    OneLive r (syncStep settings r s call) ↔ KeepsOneLive r s call := by
  by_cases handled : Handled (some r.orderId) (r.item call)
  · simp only [KeepsOneLive, handled, true_implies]
    cases known : s.table call.item.token with
    | none =>
      have alone := supersedeOthers_dead own call.now known
      rw [syncStep_unknown settings handled known, oneLive_setRow _ ⟨rfl, rfl⟩]
      simp only [alone, false_implies, implies_true, and_true]
      exact imp_congr_right fun _ => version_eq_newest s.newestSeen call.item.version.toNat
    | some current =>
      obtain ⟨order, realization, unleased⟩ := own _ current known
      have active : (syncedInvoice settings (r.item call) call.immediate call.now current).state ∈
          activeStates ↔ Revives call.item current := syncedState_active unleased
      have newest : (syncedInvoice settings (r.item call) call.immediate call.now current).version =
          max s.newestSeen call.item.version.toNat ↔ s.newestSeen ≤ call.item.version.toNat :=
        version_eq_newest s.newestSeen call.item.version.toNat
      have others {t : String} {other : Invoice} (live : Live r s.table t other) :
          (other.version = max s.newestSeen call.item.version.toNat ∧
            ∀ t' other', Live r s.table t' other' → t' ≠ call.item.token → t' = t) ↔
          call.item.version.toNat ≤ s.newestSeen := by
        obtain ⟨version, alone⟩ := one t other live
        constructor
        · rintro ⟨newest, _⟩
          omega
        · intro older
          exact ⟨by omega, fun t' other' live' _ => alone t' other' live'⟩
      rw [syncStep_known settings handled known,
        oneLive_setRow (syncedInvoice _ _ _ _ current) ⟨order, realization⟩, active, newest]
      exact and_congr_right fun _ => imp_congr_right fun _ => forall_congr' fun t =>
        forall_congr' fun other => imp_congr_right fun live => imp_congr_right fun _ => others live
  · rw [syncStep_unhandled settings handled]
    exact iff_of_true one (fun named => absurd named handled)

end Step

/-- In every sequence of calls for one realization, at most one row is active and it is the
one of the newest version seen so far, exactly when every call keeps to that. -/
theorem one_live_invoice_iff (settings : WorkerSettings) (r : Realization) (calls : List SyncCall) :
    Always (syncStep settings r) (OneLive r) noInvoices calls ↔
      EachStep (syncStep settings r) (KeepsOneLive r) noInvoices calls :=
  always_iff_eachStep_of_inv (fun _ _ own => ofRealization_step settings own)
    (fun _ _ own one => keepsOneLive_exact settings own one)
    (fun _ _ found => by cases found) (fun _ _ live => by cases live.1) calls

namespace Sample

def realization : Realization := ⟨"order-id", "order-guid", "realization"⟩

def syncCall (token : String) (version : Int) : SyncCall :=
  ⟨queueItem token version .ready, false, 1⟩

end Sample

/-- An old token redelivered after a newer one makes two active rows, and an old token that
comes late for the first time supersedes the newer one. -/
theorem old_token_comes_alive :
    ¬Always (syncStep Sample.settings Sample.realization) (OneLive Sample.realization) noInvoices
        [Sample.syncCall "token-1" 1, Sample.syncCall "token-2" 2, Sample.syncCall "token-1" 1] ∧
      ¬Always (syncStep Sample.settings Sample.realization) (OneLive Sample.realization) noInvoices
        [Sample.syncCall "token-2" 2, Sample.syncCall "token-1" 1] := by
  constructor
  · intro law
    obtain ⟨_, alone⟩ := law.last "token-2" _ ⟨rfl, rfl, rfl, by decide⟩
    have same := alone "token-1" _ ⟨rfl, rfl, rfl, by decide⟩
    revert same
    decide
  · intro law
    obtain ⟨version, _⟩ := law.last "token-1" _ ⟨rfl, rfl, rfl, by decide⟩
    revert version
    decide

end LeaderProduct
