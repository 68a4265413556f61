import Mathlib.Algebra.BigOperators.Group.List.Basic
import Mathlib.Data.List.Sort
import Mathlib.Tactic.Abel

/-! Sums over the neighbours of a list in order: a list of several groups is summed group by group,
a list in time is summed up to a moment and from it on, and rows of one time come in any order. -/
namespace NeighbourSums

universe u v w
variable {α : Type u} {M : Type v} [AddCommMonoid M]

def neighbourSum (f : α → α → M) : List α → M
  | [] => 0
  | a :: rest => rest.head?.elim 0 (f a) + neighbourSum f rest

theorem neighbourSum_map {β : Type w} (f : α → α → M) (g : β → α) (rows : List β) :
    neighbourSum f (rows.map g) = neighbourSum (fun a b => f (g a) (g b)) rows := by
  induction rows with
  | nil => rfl
  | cons a rest ih =>
    rw [List.map_cons, neighbourSum, neighbourSum, ih, List.head?_map]
    cases rest.head? <;> rfl

section Groups
variable {K : Type w} [LinearOrder K] {key : α → K} {f : α → α → M}

theorem sum_first_group (keys : List K) (own : keys.Nodup) {k : K} (there : k ∈ keys) (x : M) :
    (keys.map (fun k' => if k = k' then x else 0)).sum = x := by
  induction keys with
  | nil => cases there
  | cons first rest ih =>
    obtain ⟨fresh, own⟩ := List.nodup_cons.mp own
    by_cases same : k = first
    · subst same
      have others : rest.map (fun k' => if k = k' then x else 0) = rest.map (fun _ => 0) := by
        apply List.map_congr_left
        intro k' here
        apply if_neg
        rintro rfl
        exact fresh here
      simp [others]
    · have later : k ∈ rest := (List.mem_cons.mp there).resolve_left same
      simp [same, ih own later]

theorem head_group {a : α} {rest : List α} (sorted : (a :: rest).Pairwise (fun a b => key a ≤ key b)) :
    rest.head?.elim 0 (fun b => if key a = key b then f a b else 0) =
      (rest.filter (fun b => key a = key b)).head?.elim 0 (f a) := by
  cases rest with
  | nil => rfl
  | cons b rest =>
    by_cases same : key a = key b
    · simp [same]
    · have beyond : (b :: rest).filter (fun c => key a = key c) = [] := by
        rw [List.filter_eq_nil_iff]
        intro c there
        obtain ⟨first, sorted⟩ := List.pairwise_cons.mp sorted
        have b_first := lt_of_le_of_ne (first b List.mem_cons_self) same
        rcases List.mem_cons.mp there with rfl | later
        · simpa using same
        · have c_later := lt_of_lt_of_le b_first ((List.pairwise_cons.mp sorted).1 c later)
          simpa using ne_of_lt c_later
      rw [beyond]
      simp [same]

theorem neighbourSum_groups {rows : List α} (sorted : rows.Pairwise (fun a b => key a ≤ key b))
    {keys : List K} (own : keys.Nodup) (covers : ∀ a ∈ rows, key a ∈ keys) :
    neighbourSum (fun a b => if key a = key b then f a b else 0) rows =
      (keys.map (fun k => neighbourSum f (rows.filter (fun a => k = key a)))).sum := by
  induction rows with
  | nil => simp [neighbourSum]
  | cons a rest ih =>
    have here := covers a List.mem_cons_self
    have later := ih (List.pairwise_cons.mp sorted).2
      (fun b there => covers b (List.mem_cons_of_mem a there))
    have each (k : K) : neighbourSum f ((a :: rest).filter (fun a => k = key a)) =
        (if key a = k then (rest.filter (fun b => key a = key b)).head?.elim 0 (f a) else 0) +
          neighbourSum f (rest.filter (fun a => k = key a)) := by
      by_cases same : key a = k
      · subst same
        simp [neighbourSum]
      · simp [same, Ne.symm same]
    rw [neighbourSum, head_group sorted, later]
    simp only [each]
    rw [List.sum_map_add, sum_first_group keys own here]

end Groups

section Moment
variable {T : Type w} [LinearOrder T] {time : α → T} {f : α → α → M}

theorem link_split {a : α} {rest : List α} (sorted : (a :: rest).Pairwise (fun a b => time a ≤ time b))
    (still : ∀ a b, time b ≤ time a → f a b = 0) (m : T) :
    rest.head?.elim 0 (f a) =
      (if time a ≤ m then (rest.filter (fun b => time b ≤ m)).head?.elim 0 (f a) else 0) +
        (if m ≤ time a then (rest.filter (fun b => m ≤ time b)).head?.elim 0 (f a) else 0) +
        rest.head?.elim 0 (fun b => if time a < m ∧ m < time b then f a b else 0) := by
  cases rest with
  | nil => simp
  | cons b rest =>
    obtain ⟨first, sorted⟩ := List.pairwise_cons.mp sorted
    have a_b := first b List.mem_cons_self
    have after_b := (List.pairwise_cons.mp sorted).1
    have none_before (beyond : m < time b) : (b :: rest).filter (fun c => time c ≤ m) = [] := by
      rw [List.filter_eq_nil_iff]
      intro c there
      rcases List.mem_cons.mp there with rfl | later
      · simpa using beyond
      · simpa using lt_of_lt_of_le beyond (after_b c later)
    rcases lt_trichotomy (time a) m with before | at_m | after
    · by_cases within : time b ≤ m
      · simp [before.le, not_le.mpr before, within, not_lt.mpr within]
      · simp [before.le, not_le.mpr before, none_before (not_le.mp within), before,
          not_le.mp within]
    · by_cases within : time b ≤ m
      · have same : time b = m := le_antisymm within (at_m ▸ a_b)
        have zero : f a b = 0 := still a b (by rw [same, at_m])
        simp [at_m, same, zero]
      · have beyond := not_le.mp within
        simp [at_m, none_before beyond, beyond.le]
    · have beyond := lt_of_lt_of_le after a_b
      simp [after.le, not_le.mpr after, beyond.le, not_lt.mpr after.le]

omit [LinearOrder T] in
theorem neighbourSum_filter_cons (p : α → Prop) [DecidablePred p] (a : α) (rest : List α) :
    neighbourSum f ((a :: rest).filter (fun a => p a)) =
      (if p a then (rest.filter (fun b => p b)).head?.elim 0 (f a) else 0) +
        neighbourSum f (rest.filter (fun a => p a)) := by
  by_cases kept : p a
  · simp [kept, neighbourSum]
  · simp [kept]

/-- A list in time is summed up to a moment and from it on, but for the neighbours with the moment
between them. -/
theorem neighbourSum_split {rows : List α} (sorted : rows.Pairwise (fun a b => time a ≤ time b))
    (still : ∀ a b, time b ≤ time a → f a b = 0) (m : T) :
    neighbourSum f rows =
      neighbourSum f (rows.filter (fun a => time a ≤ m)) +
        neighbourSum f (rows.filter (fun a => m ≤ time a)) +
        neighbourSum (fun a b => if time a < m ∧ m < time b then f a b else 0) rows := by
  induction rows with
  | nil => simp [neighbourSum]
  | cons a rest ih =>
    have later := ih (List.pairwise_cons.mp sorted).2
    rw [neighbourSum, later, link_split sorted still m,
      neighbourSum_filter_cons (fun a => time a ≤ m), neighbourSum_filter_cons (fun a => m ≤ time a),
      neighbourSum]
    abel

end Moment

section Ties
variable {before : α → α → Prop}

/-- The rows of a table in an order; rows of one place come in any order. -/
structure Ordered (before : α → α → Prop) (table : List α) where
  rows : List α
  same : rows.Perm table
  sorted : rows.Pairwise before

theorem Ordered.mem {table : List α} (answer : Ordered before table) {row : α} :
    row ∈ answer.rows ↔ row ∈ table := answer.same.mem_iff

/-- Rows of one place in the order of the table. -/
def Ordered.inTableOrder [DecidableRel before] [Std.Total before] [IsTrans α before]
    (table : List α) : Ordered before table where
  rows := table.insertionSort before
  same := List.perm_insertionSort before table
  sorted := List.pairwise_insertionSort before table

variable {T : Type w} [LinearOrder T] {time : α → T}

theorem head_le {a b : α} {rest rest' : List α}
    (sorted : (a :: rest).Pairwise (fun a b => time a ≤ time b))
    (alike : ∀ t, (a :: rest).filter (fun c => time c = t) =
      (b :: rest').filter (fun c => time c = t)) : time a ≤ time b := by
  have listed : b ∈ (b :: rest').filter (fun c => time c = time b) := by simp
  rw [← alike] at listed
  rcases List.mem_cons.mp (List.mem_of_mem_filter listed) with rfl | later
  · exact le_refl _
  · exact (List.pairwise_cons.mp sorted).1 b later

theorem sorted_ext {rows rows' : List α} (sorted : rows.Pairwise (fun a b => time a ≤ time b))
    (sorted' : rows'.Pairwise (fun a b => time a ≤ time b))
    (alike : ∀ t, rows.filter (fun a => time a = t) = rows'.filter (fun a => time a = t)) :
    rows = rows' := by
  induction rows generalizing rows' with
  | nil =>
    cases rows' with
    | nil => rfl
    | cons b rest' => simpa using alike (time b)
  | cons a rest ih =>
    cases rows' with
    | nil => simpa using alike (time a)
    | cons b rest' =>
      have one_time : time a = time b :=
        le_antisymm (head_le sorted alike) (head_le sorted' fun t => (alike t).symm)
      have first : a = b := by
        have heads := alike (time a)
        simp only [one_time, decide_true, List.filter_cons_of_pos, List.cons.injEq] at heads
        exact heads.1
      subst first
      rw [ih (List.pairwise_cons.mp sorted).2 (List.pairwise_cons.mp sorted').2]
      intro t
      have tails := alike t
      by_cases here : time a = t
      · simpa [here] using tails
      · simpa [here] using tails

end Ties

end NeighbourSums
