import LeaderProduct.PendingChange

/-! The revision of an order under every operation that writes the row. -/
namespace LeaderProduct
open Transition

inductive OrderAction where
  | manager (a : ManagerAction)
  | exportSucceeded (loaded : Order) (saved : SavedOrder) (syncedAt : Instant)
  | exportFailed (loaded : Order) (error : ExportError) (failedAt : Instant)
  | acked (guid : String) (ack : OrderAck) (syncedAt : Instant)
  | inbound (a : InboundAction)

def orderStep (order : Order) : OrderAction → Order
  | .manager a => managerStep order a
  | .exportSucceeded loaded saved syncedAt => markOrderExportSuccess loaded saved syncedAt order
  | .exportFailed loaded error failedAt => markOrderExportFailure loaded error failedAt order
  | .acked guid ack syncedAt => handleOrderAck guid ack syncedAt order
  | .inbound a => inboundStep order a

def SameContent (order after : Order) : Prop :=
  after.status = order.status ∧ after.content = order.content

instance (order after : Order) : Decidable (SameContent order after) :=
  inferInstanceAs (Decidable (_ ∧ _))

/-- The revision does not fall, and rises when the content changes. -/
def Grows (order after : Order) : Prop :=
  order.revision ≤ after.revision ∧ (¬SameContent order after → order.revision < after.revision)

instance (order after : Order) : Decidable (Grows order after) :=
  inferInstanceAs (Decidable (_ ∧ (_ → _)))

def RefusesStale (order : Order) : OrderAction → Prop
  | .manager a => ∀ expected, expectedRevision a = some expected → expected < order.revision →
    ∃ error, outcome a (some order) = .error error
  | _ => True

/-- The snapshot keeps the lines that it could resolve, or takes the revision further, or
repeats the stored revision together with the stored content. -/
def SnapshotGrows (refs : SnapshotReferences) (item : SnapshotItem) (order : Order) : Prop :=
  let replaced := replaceOrderItemsFromSnapshot refs order.items item.items
  if replaced.error.isSome then replaced.items = order.items
  else ∀ revision, item.revision = some revision →
    order.revision < revision ∨
      (revision = order.revision ∧ item.status = order.status ∧
        snapshotHeader refs item replaced.computedTotal order.header = order.header ∧
        replaced.items = order.items)

def SnapshotTaken (item : SnapshotItem) (order : Order) : Prop :=
  order.guid = some item.guid ∧ SnapshotCurrent order item ∧ ¬SnapshotDeferred order ∧
    (order.items = [] ∨ item.items ≠ [])

def KeepsRevision (order : Order) : OrderAction → Prop
  | .manager (.cancel ref revision _ _) =>
    ¬(Addressed ref order ∧ order.status = .cancelled ∧ revision < order.revision)
  | .inbound (.snapshot refs item _) => SnapshotTaken item order → SnapshotGrows refs item order
  | .inbound (.reconcile liveItems locals _) =>
    ¬(ListedAsPosted liveItems locals order.id ∧ order.source = .managerApp ∧
      order.status ≠ .confirmed)
  | _ => True

section Growth
variable {order after later : Order}

theorem Grows.of_lt (bumped : order.revision < after.revision) : Grows order after :=
  ⟨Nat.le_of_lt bumped, fun _ => bumped⟩

theorem grows_self (order : Order) : Grows order order :=
  ⟨Nat.le_refl _, fun changed => absurd ⟨rfl, rfl⟩ changed⟩

theorem grows_iff_sameContent (kept : after.revision = order.revision) :
    Grows order after ↔ SameContent order after := by
  constructor
  · intro grows
    by_cases same : SameContent order after
    · exact same
    · have bumped := grows.2 same
      omega
  · intro same
    exact ⟨by omega, fun changed => absurd same changed⟩

theorem Grows.trans (first : Grows order after) (second : Grows after later) :
    Grows order later := by
  have up := first.1
  have further := second.1
  have bumped : ¬SameContent order later → order.revision < later.revision := by
    intro changed
    by_cases same : SameContent order after
    · have moved : ¬SameContent after later := by
        intro same'
        exact changed ⟨same'.1.trans same.1, same'.2.trans same.2⟩
      have last := second.2 moved
      omega
    · have now := first.2 same
      omega
  exact ⟨Nat.le_trans up further, bumped⟩

end Growth

theorem ManagerWrite.apply_revision {order : Order} {a : ManagerAction} {w : OrderWrite}
    (write : ManagerWrite order a w) (current : Order) :
    (w.apply current).revision = order.revision + 1 := by
  cases write <;> rfl

theorem grows_managerStep (order : Order) (a : ManagerAction) :
    Grows order (managerStep order a) := by
  rcases managerStep_cases order a with same | ⟨w, write, _, step⟩
  · rw [same]
    exact grows_self order
  · have bumped := write.apply_revision order
    rw [step]
    exact .of_lt (by omega)

theorem grows_exportSucceeded (order loaded : Order) (saved : SavedOrder) (syncedAt : Instant) :
    Grows order (markOrderExportSuccess loaded saved syncedAt order) := by
  unfold markOrderExportSuccess
  split
  · exact .of_lt (Nat.lt_succ_self order.revision)
  · exact grows_self order

theorem grows_exportFailed (order loaded : Order) (error : ExportError) (failedAt : Instant) :
    Grows order (markOrderExportFailure loaded error failedAt order) := by
  unfold markOrderExportFailure
  split
  · exact (grows_iff_sameContent rfl).mpr ⟨rfl, rfl⟩
  · exact grows_self order

theorem grows_acked (order : Order) (guid : String) (ack : OrderAck) (syncedAt : Instant) :
    Grows order (handleOrderAck guid ack syncedAt order) := by
  unfold handleOrderAck ackedOrder
  split
  · split <;> exact .of_lt (Nat.lt_succ_self order.revision)
  · exact grows_self order

theorem grows_statusItem (order : Order) (item : OrderStatusItem) (syncedAt : Instant) :
    Grows order (applyStatusItem syncedAt order item) := by
  unfold applyStatusItem
  split
  · exact .of_lt (Nat.lt_succ_self order.revision)
  · exact grows_self order

theorem grows_appliedSnapshot (refs : SnapshotReferences) (item : SnapshotItem)
    (replaced : ReplacedItems) (syncedAt : Instant) (order : Order) :
    Grows order (appliedSnapshot refs item replaced syncedAt order) ↔
      ∀ revision, item.revision = some revision →
        order.revision < revision ∨
          (revision = order.revision ∧ item.status = order.status ∧
            snapshotHeader refs item replaced.computedTotal order.header = order.header ∧
            replaced.items = order.items) := by
  have same : SameContent order (appliedSnapshot refs item replaced syncedAt order) ↔
      item.status = order.status ∧
        snapshotHeader refs item replaced.computedTotal order.header = order.header ∧
        replaced.items = order.items := by
    simp [SameContent, appliedSnapshot, Order.content]
  have moved : (appliedSnapshot refs item replaced syncedAt order).revision =
      item.revision.getD (order.revision + 1) := rfl
  cases named : item.revision with
  | none =>
    have bumped :
        order.revision < (appliedSnapshot refs item replaced syncedAt order).revision := by
      rw [moved, named]
      exact Nat.lt_succ_self order.revision
    exact iff_of_true (.of_lt bumped) (fun _ none_named => by cases none_named)
  | some revision =>
    rw [named, Option.getD_some] at moved
    simp only [Option.some.injEq, forall_eq', ← same]
    rcases Nat.lt_trichotomy order.revision revision with above | equal | below
    · exact iff_of_true (.of_lt (by rw [moved]; exact above)) (.inl above)
    · rw [grows_iff_sameContent (moved.trans equal.symm)]
      constructor
      · exact fun kept => .inr ⟨equal.symm, kept⟩
      · rintro (above | ⟨_, kept⟩)
        · omega
        · exact kept
    · have falls : ¬Grows order (appliedSnapshot refs item replaced syncedAt order) := by
        intro grows
        have up := grows.1
        omega
      refine iff_of_false falls ?_
      rintro (above | ⟨equal, _⟩) <;> omega

theorem grows_snapshotItem (refs : SnapshotReferences) (item : SnapshotItem) (syncedAt : Instant)
    (order : Order) :
    Grows order (applySnapshotItem refs syncedAt order item) ↔
      (SnapshotTaken item order → SnapshotGrows refs item order) := by
  unfold applySnapshotItem
  split
  · rename_i named
    have effect := snapshotOrder_effect refs syncedAt order item
    have untouched {syncState : OrderSyncState} {message : String} :
        Grows order (rejectedSnapshot syncState message syncedAt order) :=
      (grows_iff_sameContent rfl).mpr ⟨rfl, rfl⟩
    generalize snapshotOrder refs syncedAt order item = after at effect ⊢
    cases effect with
    | conflict stale => exact iff_of_true untouched (fun taken => absurd taken.2.1 stale)
    | deferred current waits =>
      exact iff_of_true ((grows_iff_sameContent rfl).mpr ⟨rfl, rfl⟩)
        (fun taken => absurd waits taken.2.2.1)
    | emptied current idle stored none_sent =>
      have refused : ¬SnapshotTaken item order := by
        rintro ⟨_, _, _, empty | sent⟩
        · exact stored empty
        · exact sent none_sent
      exact iff_of_true untouched (fun taken => absurd taken refused)
    | failed current idle sent error =>
      have taken : SnapshotTaken item order := ⟨named, current, idle, sent⟩
      refine (grows_iff_sameContent (by rfl)).trans ?_
      simp [taken, SnapshotGrows, error, SameContent, Order.content, rejectedSnapshot]
    | applied current idle sent error =>
      have taken : SnapshotTaken item order := ⟨named, current, idle, sent⟩
      rw [grows_appliedSnapshot]
      simp [taken, SnapshotGrows, error]
  · rename_i other
    exact iff_of_true (grows_self order) (fun taken => absurd taken.1 other)

theorem grows_reconcile (liveItems : List LiveClientOrder) (locals : List Order)
    (syncedAt : Instant) (order : Order) :
    Grows order (reconcilePostedLiveOrdersInBackground liveItems locals syncedAt order) ↔
      ¬(ListedAsPosted liveItems locals order.id ∧ order.source = .managerApp ∧
        order.status ≠ .confirmed) := by
  simp only [reconcilePostedLiveOrdersInBackground, ← mem_reconciledIds]
  split
  · rename_i hit
    refine (grows_iff_sameContent (by rfl)).trans ?_
    simp [SameContent, Order.content, hit.1, hit.2.1, eq_comm]
  · rename_i missed
    have spared : ¬(order.id ∈ reconciledIds liveItems locals ∧ order.source = .managerApp ∧
        order.status ≠ .confirmed) := by
      rintro ⟨listed, source, unconfirmed⟩
      exact missed ⟨listed, source, .inl (.inr (.inl unconfirmed))⟩
    exact iff_of_true (grows_self order) spared

theorem stale_accepted {order : Order} {a : ManagerAction} {expected : Nat} {out : TxOutcome}
    (carries : expectedRevision a = some expected) (stale : expected < order.revision)
    (result : outcome a (some order) = .ok out) :
    ∃ ref reason now, a = .cancel ref expected reason now ∧ Addressed ref order ∧
      order.status = .cancelled := by
  cases a with
  | create | put => cases carries
  | update ref body refs clock =>
    cases carries
    obtain ⟨_, _, ⟨⟩, _, _, current, _⟩ := updateClientOrder_ok.mp result
    omega
  | submit ref revision now =>
    cases carries
    obtain ⟨_, ⟨⟩, _, _, current, _⟩ := submitClientOrder_ok.mp result
    omega
  | unqueue ref revision now =>
    cases carries
    obtain ⟨_, ⟨⟩, _, _, _, current, _⟩ := unqueueClientOrder_ok.mp result
    omega
  | retry ref revision now =>
    cases carries
    obtain ⟨_, ⟨⟩, _, _, current, _⟩ := retryClientOrderExport_ok.mp result
    omega
  | restore ref revision now =>
    cases carries
    obtain ⟨_, ⟨⟩, _, _, current, _⟩ := restoreClientOrder_ok.mp result
    omega
  | cancel ref revision reason now =>
    cases carries
    obtain ⟨_, ⟨⟩, addressed, accepted⟩ := cancelClientOrder_ok.mp result
    unfold CancelAccepted at accepted
    split at accepted
    · rename_i cancelled
      exact ⟨ref, reason, now, rfl, addressed, cancelled⟩
    · have current := accepted.1
      omega

theorem refusesStale_iff (order : Order) (a : ManagerAction) :
    RefusesStale order (.manager a) ↔ KeepsRevision order (.manager a) := by
  constructor
  · intro refuses
    cases a with
    | cancel ref revision reason now =>
      rintro ⟨addressed, cancelled, stale⟩
      obtain ⟨error, refused⟩ := refuses revision rfl stale
      have answered : outcome (.cancel ref revision reason now) (some order) = .ok .unchanged :=
        cancelClientOrder_ok.mpr ⟨order, rfl, addressed, by simp [CancelAccepted, cancelled]⟩
      rw [answered] at refused
      cases refused
    | _ => trivial
  · intro keeps expected carries stale
    cases result : outcome a (some order) with
    | error error => exact ⟨error, rfl⟩
    | ok out =>
      obtain ⟨ref, reason, now, rfl, addressed, cancelled⟩ := stale_accepted carries stale result
      exact absurd ⟨addressed, cancelled, stale⟩ keeps

theorem keepsRevision_iff (order : Order) (a : OrderAction) :
    Grows order (orderStep order a) ∧ RefusesStale order a ↔ KeepsRevision order a := by
  cases a with
  | manager a =>
    rw [refusesStale_iff]
    exact and_iff_right (grows_managerStep order a)
  | exportSucceeded loaded saved syncedAt =>
    exact iff_of_true ⟨grows_exportSucceeded order loaded saved syncedAt, trivial⟩ trivial
  | exportFailed loaded error failedAt =>
    exact iff_of_true ⟨grows_exportFailed order loaded error failedAt, trivial⟩ trivial
  | acked guid ack syncedAt =>
    exact iff_of_true ⟨grows_acked order guid ack syncedAt, trivial⟩ trivial
  | inbound a =>
    refine Iff.trans (and_iff_left trivial) ?_
    cases a with
    | snapshot refs item syncedAt => exact grows_snapshotItem refs item syncedAt order
    | status item syncedAt => exact iff_of_true (grows_statusItem order item syncedAt) trivial
    | reconcile liveItems locals syncedAt => exact grows_reconcile liveItems locals syncedAt order

/-- In every run of operations on one order, of any two states the later one has a higher
revision or the same revision and content, and stale clients are refused, exactly when
every operation of the run keeps the revision. -/
theorem revision_identifies_iff (order : Order) (actions : List OrderAction) :
    (trace orderStep order actions).Pairwise Grows ∧
        EachStep orderStep RefusesStale order actions ↔
      EachStep orderStep KeepsRevision order actions := by
  rw [pairwise_trace_iff (R := Grows) (fun first later => first.trans later), ← eachStep_and]
  exact ⟨EachStep.mono (fun o a => (keepsRevision_iff o a).mp),
    EachStep.mono (fun o a => (keepsRevision_iff o a).mpr)⟩

/-- A posted live order confirms a queued one under the revision it had, and a snapshot
changes the lines of an exported one under its own revision and takes it back to a lower one. -/
theorem changed_without_growth :
    created (outcome (Sample.put 1 .submit 1 1) none) = some Sample.queued ∧
      ¬(trace orderStep Sample.queued
        [.inbound (.reconcile [Sample.postedLive] [Sample.queued] 6)]).Pairwise Grows ∧
      ∀ revision ∈ [1, 2], ¬(trace orderStep Sample.queued
        [.exportSucceeded Sample.queued Sample.answer 4,
          .inbound (.snapshot Sample.snapshotReferences
            (Sample.snapshot 2 (some revision) 5) 6)]).Pairwise Grows := by
  refine ⟨rfl, ?_⟩
  decide

end LeaderProduct
