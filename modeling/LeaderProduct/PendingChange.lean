import LeaderProduct.ExportWorker
import LeaderProduct.ManagerActions
import LeaderProduct.OnecInbound
import LeaderProduct.Transition

/-! What the inbound channels of 1C do to an order whose last change still waits for its export. -/
namespace LeaderProduct
open Transition

inductive InboundAction where
  | snapshot (refs : SnapshotReferences) (item : SnapshotItem) (syncedAt : Instant)
  | status (item : OrderStatusItem) (syncedAt : Instant)
  | reconcile (liveItems : List LiveClientOrder) (locals : List Order) (syncedAt : Instant)

def inboundStep (order : Order) : InboundAction → Order
  | .snapshot refs item syncedAt => applySnapshotItem refs syncedAt order item
  | .status item syncedAt => applyStatusItem syncedAt order item
  | .reconcile liveItems locals syncedAt =>
    reconcilePostedLiveOrdersInBackground liveItems locals syncedAt order

theorem handleOrdersSnapshotBatch_run (refs : SnapshotReferences) (items : List SnapshotItem)
    (syncedAt : Instant) (order : Order) :
    handleOrdersSnapshotBatch refs items syncedAt order =
      run inboundStep order (items.map (fun item => .snapshot refs item syncedAt)) := by
  induction items generalizing order with
  | nil => rfl
  | cons item rest ih => exact ih (applySnapshotItem refs syncedAt order item)

theorem handleOrdersStatusBatch_run (items : List OrderStatusItem) (syncedAt : Instant)
    (order : Order) :
    handleOrdersStatusBatch items syncedAt order =
      run inboundStep order (items.map (fun item => .status item syncedAt)) := by
  induction items generalizing order with
  | nil => rfl
  | cons item rest ih => exact ih (applyStatusItem syncedAt order item)

/-- The pending change of `order` is still the one that `after` waits to export. -/
def ChangeKept (order after : Order) : Prop :=
  after.PendingExport ∧ after.content = order.content ∧
    isCancelExportOrder after = isCancelExportOrder order

instance (order after : Order) : Decidable (ChangeKept order after) :=
  inferInstanceAs (Decidable (_ ∧ _))

def RepeatsCancelRequest (refs : SnapshotReferences) (item : SnapshotItem) (order : Order) : Prop :=
  item.status = .cancelled ∧ item.syncState = some .cancelRequested ∧
    let replaced := replaceOrderItemsFromSnapshot refs order.items item.items
    replaced.error = none ∧ replaced.items = order.items ∧
      snapshotHeader refs item replaced.computedTotal order.header = order.header

/-- A posted live order is matched to a row of this id that was not yet reconciled. -/
def ListedAsPosted (liveItems : List LiveClientOrder) (locals : List Order) (id : Id) : Prop :=
  ∃ live ∈ liveItems, live.isPostedIn1c = true ∧
    ∃ stored, matchingLocal locals live = some stored ∧ stored.id = id ∧
      (Unreconciled stored ∨ isSet stored.last1cError = true ∨
        isSet stored.lastExportError = true)

def SparesPending (order : Order) : InboundAction → Prop
  | .snapshot refs item _ =>
    order.guid ≠ some item.guid ∨
      (item.baseRevision = order.revision ∧
        (order.status = .queued ∨ RepeatsCancelRequest refs item order))
  | .status item _ => order.guid ≠ some item.guid
  | .reconcile liveItems locals _ =>
    ¬(ListedAsPosted liveItems locals order.id ∧ order.source = .managerApp)

theorem mem_reconciledIds (liveItems : List LiveClientOrder) (locals : List Order) (id : Id) :
    id ∈ reconciledIds liveItems locals ↔ ListedAsPosted liveItems locals id := by
  simp only [reconciledIds, List.mem_filterMap, List.mem_filter, Option.map_eq_some_iff,
    Option.filter_eq_some_iff, Bool.or_eq_true, decide_eq_true_eq, ListedAsPosted, or_assoc]
  constructor
  · rintro ⟨live, ⟨listed, posted⟩, stored, ⟨found, stale⟩, rfl⟩
    exact ⟨live, listed, posted, stored, found, rfl, stale⟩
  · rintro ⟨live, listed, posted, stored, found, rfl, stale⟩
    exact ⟨live, ⟨listed, posted⟩, stored, ⟨found, stale⟩, rfl⟩

theorem changeKept_self {order : Order} (pending : order.PendingExport) : ChangeKept order order :=
  ⟨pending, rfl, rfl⟩

theorem not_changeKept_of_syncState {order after : Order}
    (queued : after.syncState ≠ .queued) (cancelRequested : after.syncState ≠ .cancelRequested) :
    ¬ChangeKept order after := by
  rintro ⟨⟨_, sync⟩ | ⟨_, sync⟩, _⟩
  · exact queued sync
  · exact cancelRequested sync

theorem changeKept_appliedSnapshot (refs : SnapshotReferences) (item : SnapshotItem)
    (replaced : ReplacedItems) (syncedAt : Instant) (order : Order)
    (cancelled : order.status = .cancelled) :
    ChangeKept order (appliedSnapshot refs item replaced syncedAt order) ↔
      item.status = .cancelled ∧ item.syncState = some .cancelRequested ∧
        replaced.items = order.items ∧
        snapshotHeader refs item replaced.computedTotal order.header = order.header := by
  have cancel : isCancelExportOrder order = true := by simp [isCancelExportOrder, cancelled]
  have stored : (appliedSnapshot refs item replaced syncedAt order).content = order.content ↔
      snapshotHeader refs item replaced.computedTotal order.header = order.header ∧
        replaced.items = order.items := by
    simp [appliedSnapshot, Order.content]
  rw [ChangeKept, stored, cancel]
  constructor
  · rintro ⟨pending, ⟨header, items⟩, sameKind⟩
    simp only [isCancelExportOrder, appliedSnapshot] at sameKind
    rcases pending with ⟨status, sync⟩ | ⟨status, sync⟩ <;>
      simp only [appliedSnapshot] at status sync
    · simp [status, sync] at sameKind
    · have requested : item.syncState = some .cancelRequested := by
        cases named : item.syncState with
        | none => simp [named] at sync
        | some syncState => simpa [named] using sync
      exact ⟨status, requested, items, header⟩
  · rintro ⟨status, sync, items, header⟩
    have pending : (appliedSnapshot refs item replaced syncedAt order).syncState =
        .cancelRequested := by
      simp [appliedSnapshot, sync]
    have sameKind : isCancelExportOrder (appliedSnapshot refs item replaced syncedAt order) =
        true := by
      simp [isCancelExportOrder, appliedSnapshot, status]
    exact ⟨.inr ⟨status, pending⟩, ⟨header, items⟩, sameKind⟩

theorem changeKept_snapshotOrder (refs : SnapshotReferences) (item : SnapshotItem)
    (syncedAt : Instant) (order : Order) (pending : order.PendingExport) :
    ChangeKept order (snapshotOrder refs syncedAt order item) ↔
      item.baseRevision = order.revision ∧
        (order.status = .queued ∨ RepeatsCancelRequest refs item order) := by
  have unaligned : isAckAlignedSnapshot order item = false := by
    rcases pending with ⟨_, sync⟩ | ⟨_, sync⟩ <;> simp [isAckAlignedSnapshot, sync]
  have base : SnapshotCurrent order item ↔ item.baseRevision = order.revision := by
    simp [SnapshotCurrent, unaligned]
  have effect := snapshotOrder_effect refs syncedAt order item
  have rejected {syncState : OrderSyncState} {message : String} {row : Order}
      (idle : syncState = .error ∨ syncState = .conflict) :
      ¬ChangeKept order (rejectedSnapshot syncState message syncedAt row) := by
    rcases idle with rfl | rfl <;>
      exact not_changeKept_of_syncState (by simp [rejectedSnapshot]) (by simp [rejectedSnapshot])
  generalize snapshotOrder refs syncedAt order item = after at effect ⊢
  cases effect with
  | conflict stale => exact iff_of_false (rejected (.inr rfl)) (fun h => stale (base.mpr h.1))
  | deferred current waits =>
    have queued : order.status = .queued := by
      rcases pending with ⟨status, _⟩ | ⟨status, sync⟩
      · exact status
      · simp [SnapshotDeferred, status, sync] at waits
    exact iff_of_true ⟨pending, rfl, rfl⟩ ⟨base.mp current, .inl queued⟩
  | emptied current idle stored none_sent =>
    have differs : ¬RepeatsCancelRequest refs item order := by
      rintro ⟨_, _, _, items, _⟩
      rw [none_sent] at items
      exact stored items.symm
    have unspared : ¬(item.baseRevision = order.revision ∧
        (order.status = .queued ∨ RepeatsCancelRequest refs item order)) := by
      rintro ⟨_, status | repeated⟩
      · exact idle (.inl status)
      · exact differs repeated
    exact iff_of_false (rejected (.inl rfl)) unspared
  | failed current idle sent error =>
    have unspared : ¬(item.baseRevision = order.revision ∧
        (order.status = .queued ∨ RepeatsCancelRequest refs item order)) := by
      rintro ⟨_, status | ⟨_, _, resolved, _⟩⟩
      · exact idle (.inl status)
      · rw [error] at resolved
        cases resolved
    exact iff_of_false (rejected (.inl rfl)) unspared
  | applied current idle sent error =>
    have queued : order.status ≠ .queued := fun status => idle (.inl status)
    have cancelled : order.status = .cancelled := by
      rcases pending with ⟨status, _⟩ | ⟨status, _⟩
      · exact absurd status queued
      · exact status
    rw [changeKept_appliedSnapshot refs item _ syncedAt order cancelled]
    simp only [base.mp current, queued, false_or, RepeatsCancelRequest, error, true_and]

theorem changeKept_inboundStep (order : Order) (a : InboundAction) (pending : order.PendingExport) :
    ChangeKept order (inboundStep order a) ↔ SparesPending order a := by
  cases a with
  | snapshot refs item syncedAt =>
    simp only [inboundStep, applySnapshotItem, SparesPending]
    split
    · rename_i named
      rw [changeKept_snapshotOrder refs item syncedAt order pending]
      simp [named]
    · rename_i other
      simp [other, changeKept_self pending]
  | status item syncedAt =>
    simp only [inboundStep, applyStatusItem, SparesPending]
    split
    · rename_i named
      have dropped : ¬ChangeKept order (statusOrder item syncedAt order) :=
        not_changeKept_of_syncState (by simp [statusOrder]) (by simp [statusOrder])
      exact iff_of_false dropped (fun other => other named)
    · rename_i other
      exact iff_of_true (changeKept_self pending) other
  | reconcile liveItems locals syncedAt =>
    have unreconciled : Unreconciled order := by
      rcases pending with ⟨status, _⟩ | ⟨status, _⟩ <;> simp [Unreconciled, status]
    simp only [inboundStep, reconcilePostedLiveOrdersInBackground, SparesPending,
      ← mem_reconciledIds]
    split
    · rename_i hit
      exact iff_of_false (not_changeKept_of_syncState (by simp) (by simp))
        (fun spared => spared ⟨hit.1, hit.2.1⟩)
    · rename_i missed
      have spared : ¬(order.id ∈ reconciledIds liveItems locals ∧ order.source = .managerApp) := by
        rintro ⟨listed, source⟩
        exact missed ⟨listed, source, .inl unreconciled⟩
      exact iff_of_true (changeKept_self pending) spared

/-- Through any run of the inbound channels a pending change stays what it was exactly
when every item and every live list of the run spares the order. -/
theorem pending_change_kept_iff (order : Order) (pending : order.PendingExport)
    (actions : List InboundAction) :
    Always inboundStep (ChangeKept order) order actions ↔
      EachStep inboundStep SparesPending order actions := by
  have exact_step (s : Order) (a : InboundAction) (kept : ChangeKept order s) :
      ChangeKept order (inboundStep s a) ↔ SparesPending s a := by
    rw [← changeKept_inboundStep s a kept.1]
    simp only [ChangeKept, kept.2.1, kept.2.2]
  exact always_iff_eachStep exact_step (changeKept_self pending) actions

namespace Sample

def sent : Order := exportSucceeds answer 4 queued

def cancelRequested : Order := managerStep sent (.cancel ref 2 none 5)

def snapshotReferences : SnapshotReferences where
  upsertSnapshotOrganization guid := guid
  product guid := some ⟨guid, none⟩
  package _ _ := none
  unit _ := none
  priceType _ := none
  randomUUID _ := "random"
  column _ x := x

def snapshotLine (quantity : Rat) : SnapshotLine where
  lineGuid := some "line"
  appLineGuid := none
  productGuid := "product"
  packageGuid := none
  unitGuid := none
  priceTypeGuid := none
  quantity := quantity
  quantityBase := none
  basePrice := some 10
  price := none
  isManualPrice := none
  manualPrice := none
  priceSource := none
  isCancelled := none
  cancelReasonGuid := none
  cancelReasonName := none
  cancelReason := none
  cancelledAmount := none
  discountPercent := none
  appliedDiscountPercent := none
  lineAmount := none
  comment := none

def snapshot (baseRevision : Nat) (revision : Option Nat) (quantity : Rat) : SnapshotItem where
  guid := "order-guid"
  baseRevision := baseRevision
  revision := revision
  status := .confirmed
  syncState := none
  number1c := none
  date1c := none
  isPostedIn1c := some true
  postedAt1c := none
  hasRealization := none
  organizationGuid := none
  comment := none
  deliveryDate := none
  paymentForm := none
  deliveryMethod := none
  currency := none
  totalAmount := none
  generalDiscountPercent := none
  generalDiscountAmount := none
  cancelReason := none
  last1cError := none
  sourceUpdatedAt := none
  items := [snapshotLine quantity]

def statusItem (status : OrderStatus) : OrderStatusItem where
  guid := "order-guid"
  status := status
  number1c := none
  date1c := none
  comment := none
  totalAmount := none
  currency := none
  sourceUpdatedAt := none

def postedLive : LiveClientOrder := ⟨some "order-guid", none, true⟩

end Sample

theorem queued_change_kept_through_snapshots :
    Always inboundStep (ChangeKept Sample.queued) Sample.queued
      [.snapshot Sample.snapshotReferences (Sample.snapshot 1 none 5) 6,
        .snapshot Sample.snapshotReferences (Sample.snapshot 1 (some 9) 7) 7] :=
  (pending_change_kept_iff Sample.queued (by decide) _).mpr
    ⟨.inr ⟨rfl, .inl rfl⟩, .inr ⟨rfl, .inl rfl⟩, trivial⟩

/-- Every channel drops a pending change: a snapshot of an older revision and one of the
requested cancellation's own revision, a status item, and a posted live order. -/
theorem pending_change_dropped :
    created (outcome (Sample.put 1 .submit 1 1) none) = some Sample.queued ∧
      Sample.queued.PendingExport ∧ Sample.cancelRequested.PendingExport ∧
      ¬ChangeKept Sample.queued
        (inboundStep Sample.queued (.status (Sample.statusItem .sentTo1c) 6)) ∧
      ¬ChangeKept Sample.queued
        (inboundStep Sample.queued (.reconcile [Sample.postedLive] [Sample.queued] 6)) ∧
      ¬ChangeKept Sample.cancelRequested (inboundStep Sample.cancelRequested
        (.snapshot Sample.snapshotReferences (Sample.snapshot 2 none 1) 6)) ∧
      ¬ChangeKept Sample.cancelRequested (inboundStep Sample.cancelRequested
        (.snapshot Sample.snapshotReferences (Sample.snapshot 3 none 1) 6)) := by
  refine ⟨rfl, ?_⟩
  decide

end LeaderProduct
