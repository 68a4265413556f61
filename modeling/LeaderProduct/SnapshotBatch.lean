import LeaderProduct.PendingChange

/-! A snapshot batch over the whole order table, with what it answers. All items share one
transaction: an error of the database undoes the batch and no item is answered, while an
error that the code throws itself is caught at its item and the rest goes on. -/
namespace LeaderProduct

abbrev OrderTable := String → Option Order

inductive SnapshotEvent where
  | conflict | deferred | rejectedEmptyItems | applied | error
  deriving DecidableEq, Repr

structure SnapshotResult where
  key : String
  error : Option String
  event : Option SnapshotEvent
  deriving DecidableEq, Repr

section Batch
variable (refs : SnapshotReferences) (syncedAt : Instant)

def snapshotResult (order : Order) (item : SnapshotItem) : SnapshotResult :=
  if ¬SnapshotCurrent order item then ⟨item.guid, some "Revision conflict", some .conflict⟩
  else if SnapshotDeferred order then ⟨item.guid, none, some .deferred⟩
  else if order.items ≠ [] ∧ item.items = [] then
    ⟨item.guid, some (emptyItemsMessage order), some .rejectedEmptyItems⟩
  else match (replaceOrderItemsFromSnapshot refs order.items item.items).error with
    | some message => ⟨item.guid, some message, some .error⟩
    | none => ⟨item.guid, none, some .applied⟩

def resultIn (table : OrderTable) (item : SnapshotItem) : SnapshotResult :=
  match table item.guid with
  | none => ⟨item.guid, some "Order not found", none⟩
  | some order => snapshotResult refs order item

def storeIn (table : OrderTable) (item : SnapshotItem) : OrderTable := fun guid =>
  if guid = item.guid then (table guid).map (fun order => snapshotOrder refs syncedAt order item)
  else table guid

def snapshotResults : OrderTable → List SnapshotItem → List SnapshotResult
  | _, [] => []
  | table, item :: rest =>
    resultIn refs table item :: snapshotResults (storeIn refs syncedAt table item) rest

structure SnapshotResponse where
  table : OrderTable
  results : Option (List SnapshotResult)

/-- `databaseFails`: the database refuses a statement of the batch, or its time runs out. -/
def ordersSnapshotBatch (databaseFails : Bool) (table : OrderTable) (items : List SnapshotItem) :
    SnapshotResponse :=
  if databaseFails then ⟨table, none⟩
  else ⟨items.foldl (storeIn refs syncedAt) table, some (snapshotResults refs syncedAt table items)⟩

def contentIn (table : OrderTable) (guid : String) : Option OrderContent :=
  (table guid).map Order.content

def ReportedFailed (response : SnapshotResponse) (index : Nat) : Prop :=
  ∃ results result, response.results = some results ∧ results[index]? = some result ∧
    result.error.isSome = true

/-- An item that is answered with an error has not touched the content of its order, and
the other items are answered and leave every content as if it had not been there. -/
def FailureLeavesNoTrace (databaseFails : Bool) (table : OrderTable) (before : List SnapshotItem)
    (item : SnapshotItem) (after : List SnapshotItem) : Prop :=
  let response := ordersSnapshotBatch refs syncedAt databaseFails table (before ++ item :: after)
  let without := ordersSnapshotBatch refs syncedAt databaseFails table (before ++ after)
  let reached := ordersSnapshotBatch refs syncedAt databaseFails table before
  let passed := ordersSnapshotBatch refs syncedAt databaseFails table (before ++ [item])
  ReportedFailed response before.length →
    contentIn passed.table item.guid = contentIn reached.table item.guid ∧
      without.results = response.results.map (fun results => results.eraseIdx before.length) ∧
      ∀ guid, contentIn without.table guid = contentIn response.table guid

/-- The lines that a replacement has created when it meets an unknown product are those that
were stored, and the order was waiting anyway or its next item is of another revision. -/
def FailureHarmless (table : OrderTable) (item : SnapshotItem) (after : List SnapshotItem) : Prop :=
  ∀ order ∈ table item.guid,
    (SnapshotCurrent order item → ¬SnapshotDeferred order → (order.items = [] ∨ item.items ≠ []) →
      duplicateLineGuid [] item.items = none →
        (createSnapshotLines refs 0 item.items).items = order.items) ∧
    (SnapshotDeferred order ∨
      ∀ next ∈ after.find? (fun next => next.guid = item.guid), ¬SnapshotCurrent order next)

end Batch

section Rows
variable {refs : SnapshotReferences} {syncedAt : Instant} {order other : Order}
  {item : SnapshotItem}

theorem snapshotCurrent_of_deferred (waits : SnapshotDeferred order) :
    SnapshotCurrent order item ↔ item.baseRevision = order.revision := by
  have unaligned : isAckAlignedSnapshot order item = false := by
    rcases waits with status | sync | sync | sync <;> simp_all [isAckAlignedSnapshot]
  simp [SnapshotCurrent, unaligned]

theorem snapshotDeferred_rejected {row : Order} {syncState : OrderSyncState} {message : String}
    (blocked : syncState = .error ∨ syncState = .conflict) :
    SnapshotDeferred (rejectedSnapshot syncState message syncedAt row) :=
  .inr (.inr blocked)

structure BothWait (order other : Order) : Prop where
  content : order.content = other.content
  revision : order.revision = other.revision
  waits : SnapshotDeferred order
  otherWaits : SnapshotDeferred other

theorem snapshotOrder_waiting (waits : SnapshotDeferred order) :
    (snapshotOrder refs syncedAt order item).content = order.content ∧
      (snapshotOrder refs syncedAt order item).revision = order.revision ∧
      SnapshotDeferred (snapshotOrder refs syncedAt order item) := by
  unfold snapshotOrder
  split
  · exact ⟨rfl, rfl, snapshotDeferred_rejected (.inr rfl)⟩
  · exact ⟨rfl, rfl, waits⟩

theorem snapshotResult_waiting (waits : SnapshotDeferred order) :
    snapshotResult refs order item =
      if item.baseRevision = order.revision then ⟨item.guid, none, some .deferred⟩
      else ⟨item.guid, some "Revision conflict", some .conflict⟩ := by
  unfold snapshotResult
  simp only [snapshotCurrent_of_deferred waits, if_pos waits, ite_not]

theorem BothWait.step (both : BothWait order other) :
    BothWait (snapshotOrder refs syncedAt order item) (snapshotOrder refs syncedAt other item) := by
  obtain ⟨content, revision, waits⟩ :=
    @snapshotOrder_waiting refs syncedAt _ item both.waits
  obtain ⟨content', revision', waits'⟩ :=
    @snapshotOrder_waiting refs syncedAt _ item both.otherWaits
  exact ⟨content.trans (both.content.trans content'.symm),
    revision.trans (both.revision.trans revision'.symm), waits, waits'⟩

theorem BothWait.result (both : BothWait order other) :
    snapshotResult refs order item = snapshotResult refs other item := by
  rw [snapshotResult_waiting both.waits, snapshotResult_waiting both.otherWaits, both.revision]

theorem bothWait_of_conflict (content : order.content = other.content)
    (revision : order.revision = other.revision) (waits : SnapshotDeferred other)
    (stale : ¬SnapshotCurrent order item) :
    BothWait (snapshotOrder refs syncedAt order item) (snapshotOrder refs syncedAt other item) ∧
      snapshotResult refs order item = snapshotResult refs other item := by
  have stale' : ¬SnapshotCurrent other item := by
    rw [snapshotCurrent_of_deferred waits, ← revision]
    exact fun base => stale (.inl base)
  rw [snapshotOrder, if_pos stale, snapshotOrder, if_pos stale', snapshotResult, if_pos stale,
    snapshotResult, if_pos stale']
  exact ⟨⟨content, revision, snapshotDeferred_rejected (.inr rfl),
    snapshotDeferred_rejected (.inr rfl)⟩, rfl⟩

theorem snapshotResult_current_ne (waits : SnapshotDeferred other) (idle : ¬SnapshotDeferred order)
    (current : SnapshotCurrent order item) :
    snapshotResult refs order item ≠ snapshotResult refs other item := by
  intro same
  have event := congrArg SnapshotResult.event same
  rw [snapshotResult_waiting waits, snapshotResult, if_neg (not_not_intro current),
    if_neg idle] at event
  revert event
  split
  · split <;> simp
  · split <;> split <;> simp

end Rows

section Tables
variable {refs : SnapshotReferences} {syncedAt : Instant} {table other : OrderTable}
  {guid : String} {item : SnapshotItem} {items : List SnapshotItem}

structure WaitAt (guid : String) (table other : OrderTable) : Prop where
  elsewhere : ∀ g, g ≠ guid → table g = other g
  there : ∃ order row, table guid = some order ∧ other guid = some row ∧ BothWait order row

theorem WaitAt.contentIn (wait : WaitAt guid table other) (g : String) :
    contentIn table g = contentIn other g := by
  by_cases here : g = guid
  · obtain ⟨order, row, found, found', both⟩ := wait.there
    rw [here, LeaderProduct.contentIn, found, LeaderProduct.contentIn, found']
    exact congrArg some both.content
  · rw [LeaderProduct.contentIn, LeaderProduct.contentIn, wait.elsewhere g here]

theorem storeIn_elsewhere (same : ∀ g, g ≠ guid → table g = other g) (g : String)
    (elsewhere : g ≠ guid) :
    storeIn refs syncedAt table item g = storeIn refs syncedAt other item g := by
  simp only [storeIn, same g elsewhere]

theorem storeIn_other {row : Option Order} (named : item.guid ≠ guid) (found : table guid = row) :
    storeIn refs syncedAt table item guid = row := by
  rw [storeIn, if_neg (Ne.symm named), found]

theorem storeIn_named {row : Order} (found : table item.guid = some row) :
    storeIn refs syncedAt table item item.guid = some (snapshotOrder refs syncedAt row item) := by
  rw [storeIn, if_pos rfl, found]
  rfl

theorem resultIn_named {row : Order} (found : table item.guid = some row) :
    resultIn refs table item = snapshotResult refs row item := by
  rw [resultIn, found]

theorem resultIn_elsewhere (same : ∀ g, g ≠ guid → table g = other g)
    (elsewhere : item.guid ≠ guid) : resultIn refs table item = resultIn refs other item := by
  rw [resultIn, resultIn, same item.guid elsewhere]

theorem WaitAt.step (wait : WaitAt guid table other) :
    WaitAt guid (storeIn refs syncedAt table item) (storeIn refs syncedAt other item) ∧
      resultIn refs table item = resultIn refs other item := by
  obtain ⟨elsewhere, order, row, found, found', both⟩ := wait
  by_cases named : item.guid = guid
  · subst named
    refine ⟨⟨storeIn_elsewhere elsewhere, _, _, storeIn_named found, storeIn_named found',
      both.step⟩, ?_⟩
    rw [resultIn_named found, resultIn_named found', both.result]
  · exact ⟨⟨storeIn_elsewhere elsewhere, order, row, storeIn_other named found,
      storeIn_other named found', both⟩, resultIn_elsewhere elsewhere named⟩

theorem WaitAt.rest (wait : WaitAt guid table other) :
    snapshotResults refs syncedAt table items = snapshotResults refs syncedAt other items ∧
      ∀ g, LeaderProduct.contentIn (items.foldl (storeIn refs syncedAt) table) g =
        LeaderProduct.contentIn (items.foldl (storeIn refs syncedAt) other) g := by
  induction items generalizing table other with
  | nil => exact ⟨rfl, wait.contentIn⟩
  | cons item rest ih =>
    obtain ⟨next, result⟩ := @WaitAt.step refs syncedAt _ _ _ item wait
    obtain ⟨results, contents⟩ := ih next
    exact ⟨by rw [snapshotResults, snapshotResults, result, results], contents⟩

/-- A row that waits beside the same row that does not: the rest of a batch tells them apart
unless its first item for the row is of another revision. -/
theorem rest_alike_iff {order row : Order} (elsewhere : ∀ g, g ≠ guid → table g = other g)
    (found : table guid = some order) (found' : other guid = some row)
    (content : order.content = row.content) (revision : order.revision = row.revision)
    (waits : SnapshotDeferred row) :
    (snapshotResults refs syncedAt table items = snapshotResults refs syncedAt other items ∧
      ∀ g, LeaderProduct.contentIn (items.foldl (storeIn refs syncedAt) table) g =
        LeaderProduct.contentIn (items.foldl (storeIn refs syncedAt) other) g) ↔
      SnapshotDeferred order ∨
        ∀ next ∈ items.find? (fun next => next.guid = guid), ¬SnapshotCurrent order next := by
  by_cases idle : SnapshotDeferred order
  · have wait : WaitAt guid table other :=
      ⟨elsewhere, order, row, found, found', content, revision, idle, waits⟩
    exact iff_of_true wait.rest (.inl idle)
  · simp only [idle, false_or]
    induction items generalizing table other with
    | nil =>
      refine iff_of_true ⟨rfl, fun g => ?_⟩ (by simp)
      by_cases here : g = guid
      · rw [here, contentIn, List.foldl_nil, found, contentIn, List.foldl_nil, found']
        exact congrArg some content
      · rw [List.foldl_nil, List.foldl_nil, contentIn, contentIn, elsewhere g here]
    | cons item rest ih =>
      by_cases named : item.guid = guid
      · have first : (item :: rest).find? (fun next => next.guid = guid) = some item := by
          simp [named]
        simp only [first, Option.mem_def, Option.some.injEq, forall_eq']
        subst named
        constructor
        · rintro ⟨results, _⟩ current
          have result := (List.cons.inj results).1
          rw [resultIn_named found, resultIn_named found'] at result
          exact snapshotResult_current_ne waits idle current result
        · intro stale
          obtain ⟨both, result⟩ := @bothWait_of_conflict refs syncedAt _ _ _ content
            revision waits stale
          have wait : WaitAt item.guid (storeIn refs syncedAt table item)
              (storeIn refs syncedAt other item) :=
            ⟨storeIn_elsewhere elsewhere, _, _, storeIn_named found, storeIn_named found', both⟩
          obtain ⟨results, contents⟩ := @WaitAt.rest refs syncedAt _ _ _ rest wait
          refine ⟨?_, contents⟩
          rw [snapshotResults, snapshotResults, resultIn_named found, resultIn_named found', result,
            results]
      · have later : (item :: rest).find? (fun next => next.guid = guid) =
            rest.find? (fun next => next.guid = guid) := by
          simp [named]
        have tail := ih (@storeIn_elsewhere refs syncedAt _ _ _ item elsewhere)
          (storeIn_other named found) (storeIn_other named found')
        rw [later, ← tail, snapshotResults, snapshotResults, resultIn_elsewhere elsewhere named]
        simp only [List.cons.injEq, true_and, List.foldl_cons]

end Tables

section Batches
variable {refs : SnapshotReferences} {syncedAt : Instant} {table : OrderTable}

theorem length_snapshotResults (items : List SnapshotItem) :
    (snapshotResults refs syncedAt table items).length = items.length := by
  induction items generalizing table with
  | nil => rfl
  | cons item rest ih => rw [snapshotResults, List.length_cons, List.length_cons, ih]

theorem snapshotResults_append (before after : List SnapshotItem) :
    snapshotResults refs syncedAt table (before ++ after) =
      snapshotResults refs syncedAt table before ++
        snapshotResults refs syncedAt (before.foldl (storeIn refs syncedAt) table) after := by
  induction before generalizing table with
  | nil => rfl
  | cons item rest ih =>
    rw [List.cons_append, snapshotResults, ih, snapshotResults, List.cons_append, List.foldl_cons]

theorem reportedFailed_iff {databaseFails : Bool} {before after : List SnapshotItem}
    {item : SnapshotItem} :
    ReportedFailed (ordersSnapshotBatch refs syncedAt databaseFails table (before ++ item :: after))
        before.length ↔
      databaseFails = false ∧
        (resultIn refs (before.foldl (storeIn refs syncedAt) table) item).error.isSome = true := by
  cases databaseFails with
  | true => simp [ReportedFailed, ordersSnapshotBatch]
  | false =>
    have answered : (snapshotResults refs syncedAt table (before ++ item :: after))[before.length]? =
        some (resultIn refs (before.foldl (storeIn refs syncedAt) table) item) := by
      rw [snapshotResults_append, List.getElem?_append_right (Nat.le_of_eq (length_snapshotResults before)),
        length_snapshotResults, Nat.sub_self, snapshotResults]
      rfl
    simp [ReportedFailed, ordersSnapshotBatch, answered]

/-- What an answered error leaves of a row: the content, unless a replacement has stopped at
an unknown product, and a state in which the row waits. -/
theorem failed_row {order : Order} {item : SnapshotItem}
    (failed : (snapshotResult refs order item).error.isSome = true) :
    SnapshotDeferred (snapshotOrder refs syncedAt order item) ∧
      (snapshotOrder refs syncedAt order item).revision = order.revision ∧
      ((snapshotOrder refs syncedAt order item).content = order.content ↔
        (SnapshotCurrent order item → ¬SnapshotDeferred order →
          (order.items = [] ∨ item.items ≠ []) → duplicateLineGuid [] item.items = none →
            (createSnapshotLines refs 0 item.items).items = order.items)) := by
  have effect := snapshotOrder_effect refs syncedAt order item
  generalize snapshotOrder refs syncedAt order item = after at effect ⊢
  cases effect with
  | conflict stale =>
    exact ⟨snapshotDeferred_rejected (.inr rfl), rfl,
      iff_of_true rfl (fun current => absurd current stale)⟩
  | deferred current waits =>
    simp [snapshotResult, current, waits] at failed
  | emptied current idle stored none_sent =>
    refine ⟨snapshotDeferred_rejected (.inl rfl), rfl, iff_of_true rfl ?_⟩
    rintro _ _ (empty | sent)
    · exact absurd empty stored
    · exact absurd none_sent sent
  | @failed message current idle sent error =>
    refine ⟨snapshotDeferred_rejected (.inl rfl), rfl, ?_⟩
    have stored (row : List OrderItem) :
        (rejectedSnapshot .error message syncedAt { order with items := row }).content =
          order.content ↔ row = order.items := by
      simp [rejectedSnapshot, Order.content]
    rw [stored]
    cases repeated : duplicateLineGuid [] item.items with
    | some lineGuid => simp [replaceOrderItemsFromSnapshot, repeated]
    | none => simp [replaceOrderItemsFromSnapshot, repeated, current, idle, sent]
  | applied current idle sent error =>
    have some_lines : ¬(order.items ≠ [] ∧ item.items = []) := by
      rintro ⟨stored, none_sent⟩
      rcases sent with empty | sent
      · exact stored empty
      · exact sent none_sent
    simp [snapshotResult, current, idle, error, some_lines] at failed

theorem failureLeavesNoTrace_iff (databaseFails : Bool) (before after : List SnapshotItem)
    (item : SnapshotItem) :
    FailureLeavesNoTrace refs syncedAt databaseFails table before item after ↔
      (ReportedFailed
          (ordersSnapshotBatch refs syncedAt databaseFails table (before ++ item :: after))
          before.length →
        FailureHarmless refs (ordersSnapshotBatch refs syncedAt databaseFails table before).table
          item after) := by
  refine forall_congr' (fun reported => ?_)
  obtain ⟨rfl, failed⟩ := reportedFailed_iff.mp reported
  simp only [ordersSnapshotBatch, Bool.false_eq_true, if_false, List.foldl_append, List.foldl_cons,
    List.foldl_nil, Option.map_some, Option.some.injEq, snapshotResults_append, snapshotResults]
  generalize before.foldl (storeIn refs syncedAt) table = reached at failed ⊢
  rw [List.eraseIdx_append_of_length_le (Nat.le_of_eq (length_snapshotResults before)),
    length_snapshotResults, Nat.sub_self, List.eraseIdx_zero, List.tail_cons, List.append_cancel_left_eq]
  cases found : reached item.guid with
  | none =>
    have untouched : storeIn refs syncedAt reached item = reached := by
      funext g
      by_cases here : g = item.guid
      · rw [storeIn, if_pos here, here, found]
        rfl
      · rw [storeIn, if_neg here]
    rw [untouched]
    simp [FailureHarmless, found]
  | some order =>
    rw [resultIn_named found] at failed
    obtain ⟨waits, revision, content⟩ := @failed_row refs syncedAt _ _ failed
    have passed := @storeIn_named refs syncedAt _ _ _ found
    have elsewhere (g : String) (other : g ≠ item.guid) :
        reached g = storeIn refs syncedAt reached item g := by
      rw [storeIn, if_neg other]
    simp only [FailureHarmless, found, Option.mem_def, Option.some.injEq, forall_eq']
    rw [contentIn, contentIn, found, passed, Option.map_some, Option.map_some, Option.some.injEq,
      ← content]
    refine and_congr_right (fun kept => ?_)
    exact rest_alike_iff elsewhere found passed kept.symm revision.symm waits

end Batches

/-- For every batch, every item answered with an error leaves its order and the other items
of the batch as if it had not been there exactly when each such failure is harmless. -/
theorem failed_snapshots_leave_no_trace_iff (refs : SnapshotReferences) (syncedAt : Instant)
    (databaseFails : Bool) (table : OrderTable) (items : List SnapshotItem) :
    (∀ before item after, items = before ++ item :: after →
        FailureLeavesNoTrace refs syncedAt databaseFails table before item after) ↔
      ∀ before item after, items = before ++ item :: after →
        ReportedFailed (ordersSnapshotBatch refs syncedAt databaseFails table items)
          before.length →
          FailureHarmless refs
            (ordersSnapshotBatch refs syncedAt databaseFails table before).table item after := by
  refine forall_congr' (fun before => forall_congr' (fun item => forall_congr' (fun after =>
    forall_congr' (fun split => ?_))))
  rw [split]
  exact failureLeavesNoTrace_iff databaseFails before after item

namespace Sample

def sentTable : OrderTable := fun guid => if guid = "order-guid" then some sent else none

def knownProducts : SnapshotReferences :=
  { snapshotReferences with
    product := fun guid => if guid = "product" then some ⟨guid, none⟩ else none }

def unknownProduct : SnapshotItem :=
  { snapshot 2 none 5 with
    items := [snapshotLine 5,
      { snapshotLine 1 with lineGuid := some "line-2", productGuid := "unknown" }] }

end Sample

/-- An unknown product in the second line costs an exported order its lines; and a stale
snapshot keeps the current one that follows it in the batch from being applied. -/
theorem failed_snapshot_leaves_trace :
    ¬FailureLeavesNoTrace Sample.knownProducts 6 false Sample.sentTable [] Sample.unknownProduct
        [] ∧
      ¬FailureLeavesNoTrace Sample.knownProducts 6 false Sample.sentTable []
        (Sample.snapshot 1 none 7) [Sample.snapshot 2 none 5] := by
  constructor
  · intro law
    have kept := (law ⟨_, _, rfl, rfl, rfl⟩).1
    revert kept
    decide
  · intro law
    have alike := (law ⟨_, _, rfl, rfl, rfl⟩).2.1
    revert alike
    decide

end LeaderProduct
