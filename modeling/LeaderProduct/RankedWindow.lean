import Mathlib.Data.List.Sort

/-! Windows of a list in order: an entry stands between two counts just when the number of the
entries ahead of it does. -/
namespace LeaderProduct.RankedWindow

section Window
variable {R : Type} {ahead : R → R → Prop} [DecidableRel ahead]

theorem count_first (asymm : ∀ a b, ahead a b → ¬ahead b a) {row : R} {rest : List R}
    (leads : ∀ other ∈ rest, ahead row other) :
    (row :: rest).countP (fun other => decide (ahead other row)) = 0 := by
  rw [List.countP_eq_zero]
  intro other listed
  rw [decide_eq_true_iff]
  rcases List.mem_cons.mp listed with same | inner
  · subst same
    exact fun own => asymm other other own own
  · exact asymm row other (leads other inner)

theorem first_mem_window {row : R} {rest : List R} (absent : row ∉ rest) (skip stop : Nat) :
    row ∈ ((row :: rest).take stop).drop skip ↔ skip = 0 ∧ 0 < stop := by
  cases stop with
  | zero => simp
  | succ stop =>
    cases skip with
    | zero => simp
    | succ skip =>
      have out : row ∉ (rest.take stop).drop skip := fun inner =>
        absent (List.mem_of_mem_take (List.mem_of_mem_drop inner))
      simpa using out

theorem later_mem_window {first row : R} {rest : List R} (other : row ≠ first) (skip stop : Nat) :
    row ∈ ((first :: rest).take (stop + 1)).drop skip ↔
      row ∈ (rest.take stop).drop (skip - 1) := by
  cases skip with
  | zero => simp [other]
  | succ skip => simp

theorem mem_window {rows : List R} (ranked : rows.Pairwise ahead)
    (asymm : ∀ a b, ahead a b → ¬ahead b a) {row : R} (member : row ∈ rows) (skip stop : Nat) :
    row ∈ (rows.take stop).drop skip ↔
      skip ≤ rows.countP (fun other => decide (ahead other row)) ∧
        rows.countP (fun other => decide (ahead other row)) < stop := by
  have irrefl (a : R) : ¬ahead a a := fun own => asymm a a own own
  induction rows generalizing skip stop with
  | nil => cases member
  | cons first rest ih =>
    obtain ⟨leads, ranked⟩ := List.pairwise_cons.mp ranked
    cases List.mem_cons.mp member with
    | inl same =>
      subst same
      have absent : row ∉ rest := fun inner => irrefl row (leads row inner)
      rw [count_first asymm leads, first_mem_window absent, Nat.le_zero]
    | inr inner =>
      have other : row ≠ first := by
        intro same
        exact irrefl first (same ▸ leads row inner)
      have one : (first :: rest).countP (fun other => decide (ahead other row)) =
          rest.countP (fun other => decide (ahead other row)) + 1 :=
        List.countP_cons_of_pos (decide_eq_true (leads row inner))
      rw [one]
      cases stop with
      | zero => simp
      | succ stop =>
        rw [later_mem_window other]
        refine (ih ranked inner (skip - 1) stop).trans ?_
        omega

end Window

theorem not_both_orders {K : Type} {keys : List K} (unique : keys.Nodup) {a b : K}
    (there : [a, b].Sublist keys) (back : [b, a].Sublist keys) : False := by
  induction keys with
  | nil => cases there
  | cons first rest ih =>
    obtain ⟨absent, unique⟩ := List.nodup_cons.mp unique
    cases there with
    | cons _ there =>
      cases back with
      | cons _ back => exact ih unique there back
      | cons_cons _ back =>
        exact absent (there.subset (List.mem_cons_of_mem _ List.mem_cons_self))
    | cons_cons _ there =>
      cases back with
      | cons _ back => exact absent (back.subset (List.mem_cons_of_mem _ List.mem_cons_self))
      | cons_cons _ back => exact absent (there.subset List.mem_cons_self)

theorem one_order {R : Type} {rows : List R} {a b : R} (here : a ∈ rows) (there : b ∈ rows)
    (other : a ≠ b) : [a, b].Sublist rows ∨ [b, a].Sublist rows := by
  induction rows with
  | nil => cases here
  | cons first rest ih =>
    rcases List.mem_cons.mp here with first_a | inner_a
    · rcases List.mem_cons.mp there with first_b | inner_b
      · exact absurd (first_a.trans first_b.symm) other
      · subst first_a
        exact .inl (List.Sublist.cons_cons _ (List.singleton_sublist.mpr inner_b))
    · rcases List.mem_cons.mp there with first_b | inner_b
      · subst first_b
        exact .inr (List.Sublist.cons_cons _ (List.singleton_sublist.mpr inner_a))
      · exact (ih inner_a inner_b).imp (List.Sublist.cons _) (List.Sublist.cons _)

section Sorted
variable {R K T : Type} [LinearOrder T] (place : R → T) (key : R → K)

def sortedBy (rows : List R) : List R := rows.insertionSort (fun a b => place a ≤ place b)

def Before (rows : List R) (a b : R) : Prop :=
  place a < place b ∨ place a = place b ∧ [key a, key b].Sublist (rows.map key)

instance [DecidableEq K] (rows : List R) : DecidableRel (Before place key rows) := fun _ _ =>
  inferInstanceAs (Decidable (_ ∨ _))

def position [DecidableEq K] (rows : List R) (row : R) : Nat :=
  rows.countP (fun other => decide (Before place key rows other row))

variable {place} {key}

theorem mem_sortedBy {rows : List R} {row : R} : row ∈ sortedBy place rows ↔ row ∈ rows :=
  List.mem_insertionSort _

theorem Before.asymm {rows : List R} (unique : (rows.map key).Nodup) (a b : R)
    (leads : Before place key rows a b) : ¬Before place key rows b a := by
  rcases leads with earlier | ⟨same, there⟩
  · rintro (later | ⟨same, -⟩)
    · exact lt_asymm earlier later
    · exact earlier.ne same.symm
  · rintro (later | ⟨-, back⟩)
    · exact later.ne same.symm
    · exact not_both_orders unique there back

theorem sortedBy_ranked {rows : List R} (unique : (rows.map key).Nodup) :
    (sortedBy place rows).Pairwise (Before place key rows) := by
  let notLater : R → R → Prop := fun a b => place a ≤ place b
  have : IsTrans R notLater := ⟨fun _ _ _ first second => le_trans first second⟩
  have : Std.Total notLater := ⟨fun a b => le_total (place a) (place b)⟩
  have distinct : (sortedBy place rows).Nodup :=
    (List.perm_insertionSort notLater rows).nodup_iff.mpr (List.Nodup.of_map key unique)
  rw [List.pairwise_iff_forall_sublist]
  intro a b there
  have ordered : place a ≤ place b :=
    List.pairwise_iff_forall_sublist.mp (List.pairwise_insertionSort notLater rows) there
  rcases ordered.lt_or_eq with earlier | tie
  · exact .inl earlier
  · have listed (row : R) (member : row ∈ [a, b]) : row ∈ rows :=
      mem_sortedBy.mp (there.subset member)
    have other : a ≠ b := List.pairwise_iff_forall_sublist.mp distinct there
    refine .inr ⟨tie, ?_⟩
    rcases one_order (listed a (by simp)) (listed b (by simp)) other with kept | swapped
    · exact kept.map key
    · -- the sort keeps the order of rows of one place
      have back : [b, a].Sublist (sortedBy place rows) :=
        List.pair_sublist_insertionSort (show notLater b a from tie.ge) swapped
      exact absurd back (not_both_orders distinct there)

theorem mem_sortedBy_window [DecidableEq K] {rows : List R} (unique : (rows.map key).Nodup)
    {row : R} (skip stop : Nat) :
    row ∈ ((sortedBy place rows).take stop).drop skip ↔
      row ∈ rows ∧ skip ≤ position place key rows row ∧ position place key rows row < stop := by
  have counted : (sortedBy place rows).countP
      (fun other => decide (Before place key rows other row)) = position place key rows row :=
    (List.perm_insertionSort _ rows).countP_eq _
  rw [← counted]
  constructor
  · intro inside
    have listed := List.mem_of_mem_take (List.mem_of_mem_drop inside)
    exact ⟨mem_sortedBy.mp listed,
      (mem_window (sortedBy_ranked unique) (Before.asymm unique) listed skip stop).mp inside⟩
  · rintro ⟨listed, bounds⟩
    exact (mem_window (sortedBy_ranked unique) (Before.asymm unique)
      (mem_sortedBy.mpr listed) skip stop).mpr bounds

end Sorted

section NewestFirst
variable {R K : Type} (time : R → Int) (key : R → K)

def newestFirst (rows : List R) : List R :=
  rows.insertionSort (fun a b => time b ≤ time a)

def Ahead (rows : List R) (a b : R) : Prop :=
  time b < time a ∨ time a = time b ∧ [key a, key b].Sublist (rows.map key)

instance [DecidableEq K] (rows : List R) : DecidableRel (Ahead time key rows) := fun _ _ =>
  inferInstanceAs (Decidable (_ ∨ _))

def rank [DecidableEq K] (rows : List R) (row : R) : Nat :=
  rows.countP (fun other => decide (Ahead time key rows other row))

variable {time} {key}

theorem mem_newestFirst_window [DecidableEq K] {rows : List R} (unique : (rows.map key).Nodup) {row : R}
    (skip stop : Nat) :
    row ∈ ((newestFirst time rows).take stop).drop skip ↔
      row ∈ rows ∧ skip ≤ rank time key rows row ∧ rank time key rows row < stop := by
  let place : R → OrderDual Int := fun row => OrderDual.toDual (time row)
  have sorted : newestFirst time rows = sortedBy place rows := rfl
  have counted : rank time key rows row = position place key rows row := rfl
  rw [sorted, counted]
  exact mem_sortedBy_window unique skip stop

theorem mem_newestFirst {rows : List R} {row : R} : row ∈ newestFirst time rows ↔ row ∈ rows :=
  List.mem_insertionSort _

theorem newestFirst_descending (time : R → Int) (rows : List R) :
    (newestFirst time rows).Pairwise (fun a b => time b ≤ time a) := by
  let notEarlier : R → R → Prop := fun a b => time b ≤ time a
  have : IsTrans R notEarlier := ⟨fun _ _ _ first second => le_trans second first⟩
  have : Std.Total notEarlier := ⟨fun a b => le_total (time b) (time a)⟩
  exact List.pairwise_insertionSort notEarlier rows

theorem newestFirst_find {rows : List R} {p : R → Bool} {first other : R}
    (found : (newestFirst time rows).find? p = some first) (listed : other ∈ rows)
    (picked : p other = true) : time other ≤ time first := by
  obtain ⟨-, before, after, split, passed⟩ := List.find?_eq_some_iff_append.mp found
  have descending := newestFirst_descending time rows
  have there : other ∈ newestFirst time rows := mem_newestFirst.mpr listed
  rw [split] at descending there
  rcases List.mem_append.mp there with early | late
  · have unpicked := passed other early
    rw [picked] at unpicked
    cases unpicked
  · rcases List.mem_cons.mp late with rfl | behind
    · exact le_rfl
    · exact (List.pairwise_cons.mp (List.pairwise_append.mp descending).2.1).1 other behind

end NewestFirst

end LeaderProduct.RankedWindow
