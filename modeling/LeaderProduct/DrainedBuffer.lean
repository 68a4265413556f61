import Mathlib.Data.List.Perm.Basic

/-! A buffer that is filled at its end and drained in batches from its front. -/
namespace DrainedBuffer

universe u
variable {M : Type u}

/-- Beside the queue: what was ever accepted, what was lost to a full queue, and the batches that
were handed over, all of them oldest first. -/
structure Buffer (M : Type u) where
  queue : List M
  accepted : List M
  dropped : List M
  batches : List (List M)

def Buffer.empty : Buffer M := ⟨[], [], [], []⟩

def Buffer.push (full : Bool) (message : M) (b : Buffer M) : Buffer M where
  queue := (if full then b.queue.tail else b.queue) ++ [message]
  accepted := b.accepted ++ [message]
  dropped := b.dropped ++ (if full then b.queue.take 1 else [])
  batches := b.batches

def Buffer.takeBatch (size : Nat) (b : Buffer M) : Buffer M :=
  { b with queue := b.queue.drop size, batches := b.batches ++ [b.queue.take size] }

def Buffer.handed (b : Buffer M) : List M := b.batches.flatten

structure Accounted (b : Buffer M) : Prop where
  every : b.accepted.Perm (b.dropped ++ b.handed ++ b.queue)
  ordered : (b.handed ++ b.queue).Sublist b.accepted

theorem accounted_empty : Accounted (Buffer.empty : Buffer M) :=
  ⟨List.Perm.refl _, List.Sublist.refl _⟩

variable {b : Buffer M} {size : Nat} {isFull : Nat → Bool}

theorem accounted_push (sound : Accounted b) (full : Bool) (message : M) :
    Accounted (b.push full message) := by
  cases full with
  | false =>
    constructor
    · simpa [Buffer.push, Buffer.handed] using sound.every.append_right [message]
    · simpa [Buffer.push, Buffer.handed] using sound.ordered.append_right [message]
  | true =>
    constructor
    · have oldest : b.queue = b.queue.take 1 ++ b.queue.tail := by
        cases b.queue <;> rfl
      have moved : (b.handed ++ b.queue).Perm (b.queue.take 1 ++ (b.handed ++ b.queue.tail)) := by
        conv_lhs => rw [oldest]
        exact List.perm_append_comm_assoc _ _ _
      have each : b.accepted.Perm
          (b.dropped ++ (b.queue.take 1 ++ (b.handed ++ b.queue.tail))) := by
        apply sound.every.trans
        rw [List.append_assoc]
        exact moved.append_left _
      simpa [Buffer.push, Buffer.handed] using each.append_right [message]
    · have shorter : (b.handed ++ b.queue.tail).Sublist b.accepted :=
        ((List.tail_sublist b.queue).append_left b.handed).trans sound.ordered
      simpa [Buffer.push, Buffer.handed] using shorter.append_right [message]

theorem accounted_takeBatch (sound : Accounted b) (size : Nat) :
    Accounted (b.takeBatch size) := by
  have same : (b.takeBatch size).handed ++ (b.takeBatch size).queue = b.handed ++ b.queue := by
    simp [Buffer.takeBatch, Buffer.handed]
  constructor
  · rw [List.append_assoc, same, ← List.append_assoc]
    exact sound.every
  · rw [same]
    exact sound.ordered

def Sized (size : Nat) (b : Buffer M) : Prop :=
  ∀ batch ∈ b.batches, batch ≠ [] ∧ batch.length ≤ size

theorem sized_takeBatch (positive : 0 < size) (sized : Sized size b) (waits : b.queue ≠ []) :
    Sized size (b.takeBatch size) := by
  intro batch member
  rcases List.mem_append.mp member with earlier | last
  · exact sized batch earlier
  · rw [List.mem_singleton.mp last]
    refine ⟨?_, List.length_take_le size b.queue⟩
    simp [waits, Nat.ne_of_gt positive]

def Bounded (isFull : Nat → Bool) (b : Buffer M) : Prop :=
  ∀ length < b.queue.length, isFull length = false

theorem bounded_push (room : isFull 0 = false) (bounded : Bounded isFull b) (message : M) :
    Bounded isFull (b.push (isFull b.queue.length) message) := by
  intro length shorter
  cases full : isFull b.queue.length with
  | false =>
    rw [full] at shorter
    have cases_length : length < b.queue.length ∨ length = b.queue.length := by
      simp [Buffer.push] at shorter
      omega
    rcases cases_length with below | same
    · exact bounded length below
    · rw [same, full]
  | true =>
    have waits : b.queue ≠ [] := by
      intro none
      rw [none, List.length_nil, room] at full
      cases full
    apply bounded
    have long := List.length_pos_of_ne_nil waits
    simp [Buffer.push, full] at shorter
    omega

theorem bounded_takeBatch (bounded : Bounded isFull b) (size : Nat) :
    Bounded isFull (b.takeBatch size) := by
  intro length shorter
  apply bounded
  simp [Buffer.takeBatch] at shorter
  omega

structure Kept (size : Nat) (isFull : Nat → Bool) (b : Buffer M) : Prop where
  accounted : Accounted b
  sized : Sized size b
  bounded : Bounded isFull b

theorem kept_empty (size : Nat) (isFull : Nat → Bool) :
    Kept size isFull (Buffer.empty : Buffer M) :=
  ⟨accounted_empty, fun _ member => absurd member List.not_mem_nil,
    fun _ shorter => absurd shorter (Nat.not_lt_zero _)⟩

theorem kept_push (room : isFull 0 = false) (kept : Kept size isFull b) (message : M) :
    Kept size isFull (b.push (isFull b.queue.length) message) :=
  ⟨accounted_push kept.accounted _ message, kept.sized, bounded_push room kept.bounded message⟩

theorem kept_takeBatch (positive : 0 < size) (kept : Kept size isFull b) (waits : b.queue ≠ []) :
    Kept size isFull (b.takeBatch size) :=
  ⟨accounted_takeBatch kept.accounted size, sized_takeBatch positive kept.sized waits,
    bounded_takeBatch kept.bounded size⟩

end DrainedBuffer
