import Mathlib.Data.List.Sort

/-! The first entry of a sorted list. The order is total but not antisymmetric, so several entries
can be first, and which of them is depends on the order before the sort. -/
namespace TopRanked

universe u v
variable {α : Type u} {β : Type v} {r : α → α → Prop}

def Top (r : α → α → Prop) (items : List α) (a : α) : Prop := a ∈ items ∧ ∀ b ∈ items, r a b

theorem Top.perm {items items' : List α} {a : α} (top : Top r items a)
    (perm : items'.Perm items) : Top r items' a :=
  ⟨perm.mem_iff.mpr top.1, fun b member => top.2 b (perm.mem_iff.mp member)⟩

section Heads
variable [DecidableRel r]

variable {items : List α} {a : α}

theorem exists_head (given : items ≠ []) :
    ∃ a, (items.insertionSort r).head? = some a := by
  cases listed : items.insertionSort r with
  | nil =>
    have empty := (List.perm_insertionSort r items).length_eq
    rw [listed] at empty
    exact absurd (List.eq_nil_of_length_eq_zero empty.symm) given
  | cons first rest => exact ⟨first, rfl⟩

theorem head_of_top_first {rest : List α} (top : Top r (a :: rest) a) :
    ((a :: rest).insertionSort r).head? = some a := by
  rw [List.insertionSort_cons]
  cases listed : rest.insertionSort r with
  | nil => rfl
  | cons first later =>
    have there : first ∈ rest := by
      rw [← List.mem_insertionSort r, listed]
      exact List.mem_cons_self
    rw [List.orderedInsert_cons_of_le r later (top.2 first (List.mem_cons_of_mem a there))]
    rfl

theorem exists_perm_filter (p : α → Bool) {kept : List α} (perm : kept.Perm (items.filter p)) :
    ∃ items' : List α, items'.Perm items ∧ items'.filter p = kept := by
  have all : ∀ a ∈ kept, p a = true := fun a member => (List.mem_filter.mp (perm.subset member)).2
  refine ⟨kept ++ items.filter (fun a => !p a), ?_, ?_⟩
  · exact (perm.append_right _).trans (List.filter_append_perm p items)
  · rw [List.filter_append, List.filter_eq_self.mpr all, List.filter_filter]
    simp

theorem exists_perm_head (top : Top r items a) :
    ∃ items' : List α, items'.Perm items ∧ (items'.insertionSort r).head? = some a := by
  obtain ⟨before, after, split⟩ := List.append_of_mem top.1
  have perm : (a :: (before ++ after)).Perm items := by
    rw [split]
    exact List.perm_middle.symm
  exact ⟨_, perm, head_of_top_first (top.perm perm)⟩

theorem exists_perm_head_filter (p : α → Bool) (top : Top r (items.filter p) a) :
    ∃ items' : List α, items'.Perm items ∧ ((items'.filter p).insertionSort r).head? = some a := by
  obtain ⟨kept, perm, head⟩ := exists_perm_head top
  obtain ⟨items', same, rfl⟩ := exists_perm_filter p perm
  exact ⟨items', same, head⟩

variable [Std.Total r] [IsTrans α r]

theorem top_of_head (head : (items.insertionSort r).head? = some a) :
    Top r items a := by
  have sorted := List.pairwise_insertionSort r items
  have member (b : α) : b ∈ items.insertionSort r ↔ b ∈ items := List.mem_insertionSort r
  cases listed : items.insertionSort r with
  | nil =>
    rw [listed] at head
    cases head
  | cons first rest =>
    rw [listed] at head sorted
    cases head
    rw [List.pairwise_cons] at sorted
    refine ⟨(member a).mp (listed ▸ List.mem_cons_self), fun b there => ?_⟩
    have again := (member b).mpr there
    rw [listed] at again
    rcases List.mem_cons.mp again with rfl | later
    · exact (Std.Total.total b b).elim id id
    · exact sorted.1 b later

variable (r) in
/-- What is read of the first entry does not depend on the order before the sort exactly when it
is the same for all that can be first. -/
theorem head_order_free_iff (f : α → β) (items : List α) :
    (∀ items' : List α, items'.Perm items →
        (items'.insertionSort r).head?.map f = (items.insertionSort r).head?.map f) ↔
      ∀ a b, Top r items a → Top r items b → f a = f b := by
  constructor
  · intro free a b top_a top_b
    have leads (a : α) (top : Top r items a) :
        some (f a) = (items.insertionSort r).head?.map f := by
      obtain ⟨items', perm, head⟩ := exists_perm_head top
      rw [← free items' perm, head, Option.map_some]
    have same := (leads a top_a).trans (leads b top_b).symm
    exact Option.some.inj same
  · intro agree items' perm
    cases items with
    | nil =>
      rw [perm.eq_nil]
    | cons first rest =>
      obtain ⟨a, head⟩ := exists_head (r := r) (List.cons_ne_nil first rest)
      have given : items' ≠ [] := fun none => by simp [none] at perm
      obtain ⟨b, head'⟩ := exists_head (r := r) given
      rw [head, head', Option.map_some, Option.map_some,
        agree b a ((top_of_head head').perm perm.symm) (top_of_head head)]

variable (r) in
theorem head_order_free_filter_iff (p : α → Bool) (f : α → β) (items : List α) :
    (∀ items' : List α, items'.Perm items →
        ((items'.filter p).insertionSort r).head?.map f =
          ((items.filter p).insertionSort r).head?.map f) ↔
      ∀ a b, Top r (items.filter p) a → Top r (items.filter p) b → f a = f b := by
  rw [← head_order_free_iff]
  constructor
  · intro free kept perm
    obtain ⟨items', same, rfl⟩ := exists_perm_filter p perm
    exact free items' same
  · intro free items' same
    exact free _ (same.filter p)

end Heads

end TopRanked
