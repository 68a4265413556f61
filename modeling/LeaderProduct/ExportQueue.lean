import Mathlib.Algebra.Group.Nat.Defs
import Mathlib.Data.Prod.Lex
import Mathlib.Order.WithBot
import LeaderProduct.ExportWorker
import LeaderProduct.ManagerActions
import LeaderProduct.RankedWindow

/-! The candidates of an export run. The oldest pending orders are read first, three batches of
them, and those that wait out their back-off are dropped afterwards. -/
namespace LeaderProduct
open RankedWindow

section Model

structure ExportSettings where
  batchSize : Nat
  backoffBaseMs : Nat
  backoffMaxMs : Nat
  positive : 1 ≤ batchSize

structure QueueRow where
  order : Order
  createdAt : Instant
  updatedAt : Instant

structure QueueTable where
  rows : List QueueRow
  unique : (rows.map (·.order.id)).Nodup

variable (settings : ExportSettings)

def getBackoffMs (attempts : Nat) : Nat :=
  if attempts = 0 then 0
  else min settings.backoffMaxMs (settings.backoffBaseMs * 2 ^ (attempts - 1))

def lastAttemptAt (row : QueueRow) : Instant := row.order.sourceUpdatedAt.getD row.updatedAt

def shouldAttempt (now : Instant) (row : QueueRow) : Prop :=
  row.order.exportAttempts = 0 ∨
    (getBackoffMs settings row.order.exportAttempts : Int) ≤ (now : Int) - lastAttemptAt row

instance (now : Instant) : DecidablePred (shouldAttempt settings now) := fun _ =>
  inferInstanceAs (Decidable (_ ∨ _))

/-- By the time of the queue, where a missing one comes last, and then of the creation. -/
def queuePlace (row : QueueRow) : Lex (WithTop Nat × Nat) :=
  toLex (match row.order.queuedAt with
    | some queuedAt => WithTop.some queuedAt
    | none => ⊤, row.createdAt)

def pendingRows (table : QueueTable) : List QueueRow :=
  table.rows.filter (fun row => ExportCandidate row.order)

def exportWindow : Nat := max (settings.batchSize * 3) settings.batchSize

def loadExportCandidates (table : QueueTable) (now : Instant) : List QueueRow :=
  (((sortedBy queuePlace (pendingRows table)).take (exportWindow settings)).filter
    (fun row => shouldAttempt settings now row)).take settings.batchSize

end Model

/-- How many pending orders are older than the order. -/
def olderPending (table : QueueTable) (row : QueueRow) : Nat :=
  position queuePlace (fun row => row.order.id) (pendingRows table) row

section Window
variable {settings : ExportSettings} {table : QueueTable} {now : Instant}

theorem exportWindow_eq : exportWindow settings = 3 * settings.batchSize := by
  simp only [exportWindow]
  omega

theorem unique_pendingRows : ((pendingRows table).map (fun row => row.order.id)).Nodup :=
  table.unique.sublist (List.filter_sublist.map _)

theorem mem_window_iff {row : QueueRow} :
    row ∈ (sortedBy queuePlace (pendingRows table)).take (exportWindow settings) ↔
      row ∈ pendingRows table ∧ olderPending table row < 3 * settings.batchSize := by
  have page : row ∈
      ((sortedBy queuePlace (pendingRows table)).take (exportWindow settings)).drop 0 ↔
        row ∈ pendingRows table ∧ 0 ≤ olderPending table row ∧
          olderPending table row < exportWindow settings :=
    mem_sortedBy_window unique_pendingRows 0 (exportWindow settings)
  simpa [exportWindow_eq] using page

theorem due_of_loaded {row : QueueRow} (loaded : row ∈ loadExportCandidates settings table now) :
    row ∈ pendingRows table ∧ shouldAttempt settings now row ∧
      olderPending table row < 3 * settings.batchSize := by
  have inside := List.mem_filter.mp (List.mem_of_mem_take loaded)
  obtain ⟨pending, old⟩ := mem_window_iff.mp inside.1
  exact ⟨pending, by simpa using inside.2, old⟩

theorem exists_loaded {row : QueueRow} (pending : row ∈ pendingRows table)
    (due : shouldAttempt settings now row)
    (old : olderPending table row < 3 * settings.batchSize) :
    ∃ loaded, loaded ∈ loadExportCandidates settings table now := by
  have inside : row ∈ ((sortedBy queuePlace (pendingRows table)).take
      (exportWindow settings)).filter (fun row => decide (shouldAttempt settings now row)) :=
    List.mem_filter.mpr ⟨mem_window_iff.mpr ⟨pending, old⟩, decide_eq_true due⟩
  unfold loadExportCandidates
  cases found : ((sortedBy queuePlace (pendingRows table)).take (exportWindow settings)).filter
      (fun row => decide (shouldAttempt settings now row)) with
  | nil =>
    rw [found] at inside
    cases inside
  | cons first rest =>
    obtain ⟨more, size⟩ := Nat.exists_eq_add_of_le' settings.positive
    exact ⟨first, by simp [size]⟩

end Window

/-- For every table and moment: a run has a due order whenever one is pending exactly when, if
one is pending, some due order has fewer than three batches of older pending orders. -/
theorem ready_orders_loaded_iff (settings : ExportSettings) (table : QueueTable) (now : Instant) :
    ((∃ row ∈ pendingRows table, shouldAttempt settings now row) →
        ∃ row ∈ loadExportCandidates settings table now, shouldAttempt settings now row) ↔
      ((∃ row ∈ pendingRows table, shouldAttempt settings now row) →
        ∃ row ∈ pendingRows table, shouldAttempt settings now row ∧
          olderPending table row < 3 * settings.batchSize) := by
  refine imp_congr_right fun _ => ?_
  constructor
  · rintro ⟨row, loaded, _⟩
    obtain ⟨pending, due, old⟩ := due_of_loaded loaded
    exact ⟨row, pending, due, old⟩
  · rintro ⟨row, pending, due, old⟩
    obtain ⟨first, loaded⟩ := exists_loaded pending due old
    exact ⟨first, loaded, (due_of_loaded loaded).2.1⟩

namespace Sample

def exportSettings : ExportSettings := ⟨5, 10000, 300000, by decide⟩

def waitingRow (n attempts : Nat) (failedAt : Instant) : QueueRow where
  order := { queued with
    id := toString n
    guid := some (toString n)
    queuedAt := some n
    exportAttempts := attempts
    sourceUpdatedAt := some failedAt }
  createdAt := n
  updatedAt := failedAt

def outage : QueueTable where
  rows := (List.range 15).map (fun n => waitingRow n 6 1000000) ++ [waitingRow 15 0 1000000]
  unique := by decide +kernel

end Sample

/-- The fifteen are the whole window and all wait, and the order that is due is not read. -/
theorem untried_order_waits :
    (∃ row ∈ pendingRows Sample.outage, shouldAttempt Sample.exportSettings 1010000 row) ∧
      ¬∃ row ∈ loadExportCandidates Sample.exportSettings Sample.outage 1010000,
        shouldAttempt Sample.exportSettings 1010000 row := by
  constructor
  · have pending : Sample.waitingRow 15 0 1000000 ∈ pendingRows Sample.outage :=
      List.mem_filter.mpr ⟨List.mem_append_right _ (List.mem_singleton_self _), by decide⟩
    exact ⟨_, pending, .inl rfl⟩
  · have nothing : loadExportCandidates Sample.exportSettings Sample.outage 1010000 = [] := by
      decide +kernel
    rw [nothing]
    rintro ⟨row, listed, _⟩
    cases listed

end LeaderProduct
