import LeaderProduct.RankedWindow

/-! Paging by positions: a page is the rows next to a position, on one side of it. -/
namespace LeaderProduct.KeysetPaging
open RankedWindow (sortedBy mem_sortedBy)

variable {R T : Type} [LinearOrder T] {place : R → T}

section Order
variable {rows : List R}

theorem sortedBy_ordered (rows : List R) :
    (sortedBy place rows).Pairwise (fun a b => place a ≤ place b) := by
  have : IsTrans R (fun a b => place a ≤ place b) := ⟨fun _ _ _ first second => le_trans first second⟩
  have : Std.Total (fun a b : R => place a ≤ place b) := ⟨fun a b => le_total (place a) (place b)⟩
  exact List.pairwise_insertionSort _ rows

theorem sortedBy_perm (rows : List R) : (sortedBy place rows).Perm rows :=
  List.perm_insertionSort _ rows

variable (apart : (rows.map place).Nodup)
include apart

theorem sortedBy_strict : (sortedBy place rows).Pairwise (fun a b => place a < place b) := by
  have different : ((sortedBy place rows).map place).Nodup :=
    ((sortedBy_perm rows).map place).nodup_iff.mpr apart
  exact (sortedBy_ordered rows).imp₂ (fun _ _ le ne => lt_of_le_of_ne le ne)
    (List.pairwise_map.mp different)

theorem eq_sortedBy {sorted : List R} (perm : sorted.Perm rows)
    (ordered : sorted.Pairwise (fun a b => place a ≤ place b)) : sorted = sortedBy place rows := by
  refine (perm.trans (sortedBy_perm rows).symm).eq_of_pairwise (fun a b here there le ge => ?_)
    ordered (sortedBy_ordered rows)
  exact List.inj_on_of_nodup_map apart (perm.subset here) (mem_sortedBy.mp there) (le_antisymm le ge)

theorem sortedBy_filter (p : R → Bool) :
    sortedBy place (rows.filter p) = (sortedBy place rows).filter p := by
  have apart_filter : ((rows.filter p).map place).Nodup :=
    apart.sublist (List.filter_sublist.map place)
  exact (eq_sortedBy apart_filter ((sortedBy_perm rows).filter p)
    ((sortedBy_ordered rows).filter p)).symm

theorem sortedBy_dual :
    sortedBy (fun row => OrderDual.toDual (place row)) rows = (sortedBy place rows).reverse := by
  have apart_dual : (rows.map (fun row => OrderDual.toDual (place row))).Nodup := apart
  refine (eq_sortedBy apart_dual ?_ ?_).symm
  · exact (List.reverse_perm _).trans (sortedBy_perm rows)
  · exact List.pairwise_reverse.mpr (sortedBy_ordered rows)

end Order

section Split
variable {before after : List R} {row : R}
  (strict : (before ++ row :: after).Pairwise (fun a b => place a < place b))
include strict

theorem split_order : (∀ a ∈ before, place a < place row) ∧ ∀ a ∈ after, place row < place a := by
  obtain ⟨-, later, across⟩ := List.pairwise_append.mp strict
  exact ⟨fun a listed => across a listed row List.mem_cons_self, (List.pairwise_cons.mp later).1⟩

theorem filter_lt_split :
    (before ++ row :: after).filter (fun r => decide (place r < place row)) = before := by
  obtain ⟨earlier, later⟩ := split_order strict
  rw [List.filter_append, List.filter_cons_of_neg (by simp), List.filter_eq_self.mpr,
    List.filter_eq_nil_iff.mpr, List.append_nil]
  · intro a listed
    simpa using le_of_lt (later a listed)
  · intro a listed
    simpa using earlier a listed

theorem filter_gt_split :
    (before ++ row :: after).filter (fun r => decide (place row < place r)) = after := by
  obtain ⟨earlier, later⟩ := split_order strict
  rw [List.filter_append, List.filter_cons_of_neg (by simp), List.filter_eq_nil_iff.mpr,
    List.filter_eq_self.mpr, List.nil_append]
  · intro a listed
    simpa using later a listed
  · intro a listed
    simpa using le_of_lt (earlier a listed)

theorem filter_ge_split :
    (before ++ row :: after).filter (fun r => decide (place row ≤ place r)) = row :: after := by
  obtain ⟨earlier, later⟩ := split_order strict
  rw [List.filter_append, List.filter_cons_of_pos (by simp), List.filter_eq_nil_iff.mpr,
    List.filter_eq_self.mpr, List.nil_append]
  · intro a listed
    simpa using le_of_lt (later a listed)
  · intro a listed
    simpa using earlier a listed

end Split

section Front
variable {rows : List R} {p : R → Bool}

theorem filter_prefix_iff (strict : rows.Pairwise (fun a b => place a < place b)) :
    rows.filter p <+: rows ↔
      ∀ a ∈ rows, ∀ b ∈ rows, place a ≤ place b → p b = true → p a = true := by
  constructor
  · rintro ⟨rest, split⟩ a listed b listed' ordered holds
    have front : b ∈ rows.filter p := List.mem_filter.mpr ⟨listed', holds⟩
    have across : ∀ b ∈ rows.filter p, ∀ a ∈ rest, place b < place a := by
      rw [← split] at strict
      exact (List.pairwise_append.mp strict).2.2
    rw [← split] at listed
    rcases List.mem_append.mp listed with here | behind
    · exact (List.mem_filter.mp here).2
    · exact absurd ordered (not_le_of_gt (across b front a behind))
  · intro passes
    induction rows with
    | nil => exact List.nil_prefix
    | cons first rest ih =>
      obtain ⟨leads, strict⟩ := List.pairwise_cons.mp strict
      by_cases holds : p first = true
      · rw [List.filter_cons_of_pos holds]
        refine (List.prefix_cons_inj first).mpr (ih strict fun a listed b listed' => ?_)
        exact passes a (List.mem_cons_of_mem first listed) b (List.mem_cons_of_mem first listed')
      · have none_later : rest.filter p = [] := by
          refine List.filter_eq_nil_iff.mpr fun b listed holds' => holds ?_
          exact passes first List.mem_cons_self b (List.mem_cons_of_mem first listed)
            (le_of_lt (leads b listed)) holds'
        rw [List.filter_cons_of_neg holds, none_later]
        exact List.nil_prefix

end Front

section Page

theorem take_page (limit : Nat) (rows : List R) : ∃ rest,
    rows = (rows.take (limit + 1)).take limit ++ rest ∧
      (limit < (rows.take (limit + 1)).length ↔ rest ≠ []) := by
  refine ⟨rows.drop limit, ?_, ?_⟩
  · rw [List.take_take, Nat.min_eq_left (Nat.le_succ limit), List.take_append_drop]
  · rw [List.length_take, ← List.length_pos_iff, List.length_drop]
    omega

theorem take_page_reverse (limit : Nat) (rows : List R) : ∃ rest,
    rows = rest ++ ((rows.reverse.take (limit + 1)).take limit).reverse ∧
      (limit < (rows.reverse.take (limit + 1)).length ↔ rest ≠ []) := by
  obtain ⟨rest, split, more⟩ := take_page limit rows.reverse
  refine ⟨rest.reverse, ?_, by simpa using more⟩
  have back := congrArg List.reverse split
  rwa [List.reverse_reverse, List.reverse_append] at back

theorem take_page_ne_nil {limit : Nat} (positive : 0 < limit) {rows : List R} (some_left : rows ≠ []) :
    (rows.take (limit + 1)).take limit ≠ [] := by
  rw [List.take_take, ← List.length_pos_iff, List.length_take]
  have := List.length_pos_iff.mpr some_left
  omega

end Page

section Scroll
variable {P : Type} (more : P → Bool) (next : P → Option P)

/-- The pages after a page, as long as each says there are more; none where the fuel ends or a page
cannot be read. -/
def scroll : Nat → P → Option (List P)
  | 0, _ => none
  | fuel + 1, page =>
    if more page then do
      let following ← next page
      let rest ← scroll fuel following
      return following :: rest
    else some []

structure Scrolling (data : P → List R) (left : P → List R → Prop) : Prop where
  more_iff : ∀ page rows, left page rows → (more page = true ↔ rows ≠ [])
  step : ∀ page rows, left page rows → rows ≠ [] → ∃ following rest, next page = some following ∧
    left following rest ∧ data following ≠ [] ∧ rows = data following ++ rest

variable {more next} {data : P → List R} {left : P → List R → Prop}

theorem scroll_more {page following : P} (goes_on : more page = true)
    (there : next page = some following) (fuel : Nat) :
    (scroll more next (fuel + 1) page).map (fun pages => pages.flatMap data) =
      ((scroll more next fuel following).map (fun pages => pages.flatMap data)).map
        (fun rest => data following ++ rest) := by
  rw [scroll, if_pos goes_on, there, Option.bind_eq_bind, Option.bind_some]
  cases scroll more next fuel following with
  | none => rfl
  | some rest => simp

theorem Scrolling.reads_iff (scrolling : Scrolling more next data left) {page : P} {rows : List R}
    (rest : left page rows) (read : List R) :
    (∃ fuel, (scroll more next fuel page).map (fun pages => pages.flatMap data) = some read) ↔
      read = rows := by
  generalize size_eq : rows.length = size
  induction size using Nat.strong_induction_on generalizing page rows read with
  | _ size ih =>
    have more_iff := scrolling.more_iff page rows rest
    by_cases ended : rows = []
    · have stops : ¬more page = true := fun goes_on => more_iff.mp goes_on ended
      constructor
      · rintro ⟨fuel, done⟩
        cases fuel with
        | zero => cases done
        | succ fuel =>
          rw [scroll, if_neg stops] at done
          rw [← Option.some.inj done, ended]
          rfl
      · intro all
        exact ⟨1, by rw [scroll, if_neg stops, all, ended]; rfl⟩
    · obtain ⟨following, rest', there, left_rest, some_read, split⟩ :=
        scrolling.step page rows rest ended
      have shorter : rest'.length < size := by
        have positive := List.length_pos_iff.mpr some_read
        rw [← size_eq, split, List.length_append]
        omega
      have on (fuel : Nat) :
          (scroll more next (fuel + 1) page).map (fun pages => pages.flatMap data) = _ :=
        scroll_more (more_iff.mpr ended) there fuel
      have later := fun read' => ih rest'.length shorter left_rest read' rfl
      constructor
      · rintro ⟨fuel, done⟩
        cases fuel with
        | zero => cases done
        | succ fuel =>
          rw [on] at done
          obtain ⟨read', inner, joined⟩ := Option.map_eq_some_iff.mp done
          rw [← joined, (later read').mp ⟨fuel, inner⟩, split]
      · intro all
        obtain ⟨fuel, inner⟩ := (later rest').mpr rfl
        exact ⟨fuel + 1, by rw [on, inner, Option.map_some, all, split]⟩

end Scroll
end LeaderProduct.KeysetPaging
