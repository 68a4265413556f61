import LeaderProduct.RankedWindow

/-! Lists that are read in pages from a store whose order leaves ties. -/
namespace TiedPages
open LeaderProduct.RankedWindow

section Rankings
variable {α β : Type}

structure Ranking (α : Type) where
  le : α → α → Bool
  total : ∀ a b, le a b = true ∨ le b a = true
  trans : ∀ a b c, le a b = true → le b c = true → le a c = true

namespace Ranking

def on (r : Ranking β) (f : α → β) : Ranking α where
  le a b := r.le (f a) (f b)
  total a b := r.total (f a) (f b)
  trans a b c := r.trans (f a) (f b) (f c)

theorem le_refl (r : Ranking α) (a : α) : r.le a a = true := (r.total a a).elim id id

/-- The second order is for the ties of the first. -/
def lex (r s : Ranking α) : Ranking α where
  le a b := r.le a b && (!r.le b a || s.le a b)
  total a b := by
    have first := r.total a b
    have second := s.total a b
    grind
  trans a b c := by
    have here := r.trans a b c
    have back := r.trans b c a
    have last := r.trans c a b
    have second := s.trans a b c
    grind

theorem lex_le {r s : Ranking α} {a b : α} :
    (r.lex s).le a b = true ↔ r.le a b = true ∧ (r.le b a = true → s.le a b = true) := by
  simp only [lex, Bool.and_eq_true, Bool.or_eq_true, Bool.not_eq_true']
  cases r.le b a <;> simp

def newest : Ranking Int where
  le a b := decide (b ≤ a)
  total a b := by simpa using Int.le_total b a
  trans a b c := by
    simp only [decide_eq_true_eq]
    omega

def ofGroups (r : Ranking β) (rowsOf : α → List β) : Ranking α where
  le a b := (rowsOf b).all fun row => (rowsOf a).any fun other => r.le other row
  total a b := by
    by_contra neither
    simp only [not_or, List.all_eq_true, List.any_eq_true, not_forall, not_exists, not_and]
      at neither
    obtain ⟨⟨row, there, ahead⟩, other, here, behind⟩ := neither
    rcases r.total row other with le | le
    · exact behind row there le
    · exact ahead other here le
  trans a b c := by
    simp only [List.all_eq_true, List.any_eq_true]
    intro first second row listed
    obtain ⟨middle, there, le⟩ := second row listed
    obtain ⟨other, here, before⟩ := first middle there
    exact ⟨other, here, r.trans other middle row before le⟩

end Ranking
end Rankings

section Sorting
variable {α : Type} {r s : Ranking α} {rows : List α} {a b : α}

instance (r : Ranking α) : IsTrans α (fun a b => r.le a b = true) := ⟨r.trans⟩

instance (r : Ranking α) : Std.Total (fun a b => r.le a b = true) := ⟨r.total⟩

def sort (r : Ranking α) (rows : List α) : List α := rows.insertionSort fun a b => r.le a b = true

theorem perm_sort (r : Ranking α) (rows : List α) : (sort r rows).Perm rows :=
  List.perm_insertionSort _ rows

theorem sorted_sort (r : Ranking α) (rows : List α) :
    (sort r rows).Pairwise fun a b => r.le a b = true :=
  List.pairwise_insertionSort _ rows

theorem sublist_sort (le : r.le a b = true) (before : [a, b].Sublist rows) :
    [a, b].Sublist (sort r rows) :=
  List.pair_sublist_insertionSort (r := fun a b => r.le a b = true) le before

theorem sublist_of_sort (unique : rows.Nodup) (tied : r.le b a = true)
    (before : [a, b].Sublist (sort r rows)) : [a, b].Sublist rows := by
  have distinct : (sort r rows).Nodup := (perm_sort r rows).nodup_iff.mpr unique
  have listed (c : α) (member : c ∈ [a, b]) : c ∈ rows :=
    (perm_sort r rows).mem_iff.mp (before.subset member)
  have other : a ≠ b := List.pairwise_iff_forall_sublist.mp distinct before
  rcases one_order (listed a (by simp)) (listed b (by simp)) other with kept | swapped
  · exact kept
  · exact absurd (sublist_sort tied swapped) (not_both_orders distinct before)

theorem sort_lex (unique : rows.Nodup) (ordered : rows.Pairwise fun a b => s.le a b = true) :
    (sort r rows).Pairwise fun a b => (r.lex s).le a b = true := by
  rw [List.pairwise_iff_forall_sublist]
  intro a b before
  rw [Ranking.lex_le]
  constructor
  · exact List.pairwise_iff_forall_sublist.mp (sorted_sort r rows) before
  · intro tied
    exact List.pairwise_iff_forall_sublist.mp ordered (sublist_of_sort unique tied before)

end Sorting

section Ranks
variable {α β : Type} (r : Ranking α) (items : List α)

def before (x : α) : Nat := items.countP fun y => !r.le x y

def upTo (x : α) : Nat := items.countP fun y => r.le y x

def Splits (n : Nat) : Prop := ∃ x ∈ items, before r items x < n ∧ n < upTo r items x

instance (n : Nat) : Decidable (Splits r items n) := List.decidableBEx _ _

variable {r} {items} {l l' : List α} {x y : α} {n : Nat}

theorem before_lt_of_mem_take (sorted : l.Pairwise fun a b => r.le a b = true)
    (here : x ∈ l.take n) : before r l x < n := by
  have parts := List.take_append_drop n l
  rw [← parts, List.pairwise_append] at sorted
  have none_after : (l.drop n).countP (fun y => !r.le x y) = 0 := by
    rw [List.countP_eq_zero]
    intro y there
    simp [sorted.2.2 x here y there]
  have own : (l.take n).countP (fun y => !r.le x y) ≠ (l.take n).length := by
    intro all
    have self := List.countP_eq_length.mp all x here
    simp [r.le_refl x] at self
  have bound := List.countP_le_length (p := fun y => !r.le x y) (l := l.take n)
  have short := List.length_take_le n l
  have count : before r l x = (l.take n).countP (fun y => !r.le x y) := by
    rw [before]
    conv_lhs => rw [← parts]
    rw [List.countP_append, none_after, Nat.add_zero]
  omega

theorem lt_upTo_of_mem_drop (sorted : l.Pairwise fun a b => r.le a b = true)
    (there : x ∈ l.drop n) : n < upTo r l x := by
  have parts := List.take_append_drop n l
  rw [← parts, List.pairwise_append] at sorted
  have all_before : (l.take n).countP (fun y => r.le y x) = (l.take n).length := by
    rw [List.countP_eq_length]
    exact fun y here => sorted.2.2 y here x there
  have own : 0 < (l.drop n).countP (fun y => r.le y x) :=
    List.countP_pos_iff.mpr ⟨x, there, r.le_refl x⟩
  have long : n ≤ l.length := by
    have filled := List.length_pos_of_mem there
    rw [List.length_drop] at filled
    omega
  have count : upTo r l x = (l.take n).length + (l.drop n).countP (fun y => r.le y x) := by
    rw [upTo]
    conv_lhs => rw [← parts]
    rw [List.countP_append, all_before]
  rw [List.length_take, Nat.min_eq_left long] at count
  omega

theorem before_perm (same : l.Perm items) : before r l x = before r items x := same.countP_eq _

theorem upTo_perm (same : l.Perm items) : upTo r l x = upTo r items x := same.countP_eq _

theorem splits_perm (same : l.Perm items) : Splits r l n ↔ Splits r items n := by
  simp only [Splits, before_perm same, upTo_perm same, same.mem_iff]

theorem take_eq_filter (sorted : l.Pairwise fun a b => r.le a b = true)
    (whole : ¬Splits r l n) : l.take n = l.filter fun x => decide (upTo r l x ≤ n) := by
  have inside : ∀ x ∈ l.take n, decide (upTo r l x ≤ n) = true := by
    intro x here
    have early := before_lt_of_mem_take sorted here
    by_contra late
    rw [decide_eq_true_iff, Nat.not_le] at late
    exact whole ⟨x, List.mem_of_mem_take here, early, late⟩
  have outside : ∀ x ∈ l.drop n, ¬decide (upTo r l x ≤ n) = true := by
    intro x there
    have late := lt_upTo_of_mem_drop sorted there
    simpa using late
  have parts := congrArg (List.filter fun x => decide (upTo r l x ≤ n)) (List.take_append_drop n l)
  rw [List.filter_append, List.filter_eq_self.mpr inside, List.filter_eq_nil_iff.mpr outside,
    List.append_nil] at parts
  exact parts

theorem drop_perm (perm : l.Perm l') (sorted : l.Pairwise fun a b => r.le a b = true)
    (sorted' : l'.Pairwise fun a b => r.le a b = true) (whole : ¬Splits r l n) :
    (l.drop n).Perm (l'.drop n) := by
  have whole' : ¬Splits r l' n := fun split => whole ((splits_perm perm).mpr split)
  have front : (l.take n).Perm (l'.take n) := by
    rw [take_eq_filter sorted whole, take_eq_filter sorted' whole']
    simp only [upTo_perm perm]
    exact perm.filter _
  have both : (l.take n ++ l.drop n).Perm (l'.take n ++ l'.drop n) := by
    rw [List.take_append_drop, List.take_append_drop]
    exact perm
  exact (List.perm_append_left_iff (l.take n)).mp (both.trans (front.symm.append_right _))

theorem mem_take_of_first (unique : l.Nodup) (sorted : l.Pairwise fun a b => r.le a b = true)
    (listed : x ∈ l)
    (first : ∀ y ∈ l, r.le y x = true → r.le x y = true → y ≠ x → [x, y].Sublist l)
    (early : before r l x < n) : x ∈ l.take n := by
  by_contra absent
  have parts := List.take_append_drop n l
  have there : x ∈ l.drop n := by
    rw [← parts] at listed
    exact (List.mem_append.mp listed).resolve_left absent
  have filled := List.length_pos_of_mem there
  rw [List.length_drop] at filled
  have ordered := sorted
  rw [← parts, List.pairwise_append] at ordered
  -- the entries before the border are more than those of a lower rank
  have tie : ∃ y ∈ l.take n, r.le x y = true := by
    by_contra none_tied
    have all : (l.take n).countP (fun y => !r.le x y) = (l.take n).length := by
      rw [List.countP_eq_length]
      intro y here
      cases le : r.le x y with
      | false => rfl
      | true => exact absurd ⟨y, here, le⟩ none_tied
    have within := (List.take_sublist n l).countP_le (p := fun y => !r.le x y)
    rw [all, List.length_take, Nat.min_eq_left (by omega)] at within
    exact absurd within (Nat.not_le.mpr early)
  obtain ⟨y, here, tied⟩ := tie
  have other : y ≠ x := fun same => absent (same ▸ here)
  have ahead : [y, x].Sublist l := by
    rw [← parts]
    exact (List.singleton_sublist.mpr here).append (List.singleton_sublist.mpr there)
  exact not_both_orders unique ahead
    (first y (List.mem_of_mem_take here) (ordered.2.2 y here x there) tied other)

theorem mem_drop_of_last (unique : l.Nodup) (sorted : l.Pairwise fun a b => r.le a b = true)
    (listed : x ∈ l)
    (last : ∀ y ∈ l, r.le y x = true → r.le x y = true → y ≠ x → [y, x].Sublist l)
    (late : n < upTo r l x) : x ∈ l.drop n := by
  by_contra absent
  have parts := List.take_append_drop n l
  have here : x ∈ l.take n := by
    rw [← parts] at listed
    exact (List.mem_append.mp listed).resolve_right absent
  have ordered := sorted
  rw [← parts, List.pairwise_append] at ordered
  have tie : ∃ y ∈ l.drop n, r.le y x = true := by
    by_contra none_tied
    have none_after : (l.drop n).countP (fun y => r.le y x) = 0 := by
      rw [List.countP_eq_zero]
      exact fun y there le => none_tied ⟨y, there, le⟩
    have count : upTo r l x = (l.take n).countP (fun y => r.le y x) := by
      rw [upTo]
      conv_lhs => rw [← parts]
      rw [List.countP_append, none_after, Nat.add_zero]
    have bound := List.countP_le_length (p := fun y => r.le y x) (l := l.take n)
    have short := List.length_take_le n l
    omega
  obtain ⟨y, there, tied⟩ := tie
  have other : y ≠ x := fun same => absent (same ▸ there)
  have behind : [x, y].Sublist l := by
    rw [← parts]
    exact (List.singleton_sublist.mpr here).append (List.singleton_sublist.mpr there)
  exact not_both_orders unique behind
    (last y (List.mem_of_mem_drop there) tied (ordered.2.2 x here y there) other)

end Ranks

section Reading
variable {α : Type}

structure Page (α : Type) where
  offset : Nat
  limit : Nat
  hasMore : Bool
  items : List α

def readAll (fetch : Nat → Nat → Option (Page α)) : Nat → Nat → Nat → Option (List α)
  | 0, _, _ => none
  | fuel + 1, k, offset =>
    (fetch k offset).bind fun page =>
      if page.hasMore then
        (readAll fetch fuel (k + 1) (page.offset + page.limit)).map (page.items ++ ·)
      else some page.items

variable (cap : Nat) (limits : Nat → Nat)

def window (answers : Nat → List α) (k offset : Nat) : Option (Page α) :=
  let begins := min offset cap
  some ⟨begins, limits k, decide (begins + limits k < (answers k).length),
    ((answers k).drop begins).take (limits k)⟩

def start : Nat → Nat
  | 0 => 0
  | k + 1 => start k + limits k

variable {k fuel offset : Nat}

theorem start_le {i : Nat} (le : i ≤ k) : start limits i ≤ start limits k := by
  induction k with
  | zero => rw [Nat.le_zero.mp le]
  | succ k ih =>
    rcases Nat.le_succ_iff.mp le with below | same
    · exact Nat.le_trans (ih below) (Nat.le_add_right _ _)
    · rw [same]

variable {cap} {limits} {answers : Nat → List α} {l : List α}

theorem readAll_window (fuel k offset : Nat) :
    readAll (window cap limits answers) (fuel + 1) k offset =
      if min offset cap + limits k < (answers k).length then
        (readAll (window cap limits answers) fuel (k + 1) (min offset cap + limits k)).map
          (((answers k).drop (min offset cap)).take (limits k) ++ ·)
      else some (((answers k).drop (min offset cap)).take (limits k)) := by
  simp only [readAll, window, Option.bind_some, decide_eq_true_eq]

theorem mem_of_readAll {out : List α} {x : α}
    (reads : readAll (window cap limits answers) fuel k offset = some out) (listed : x ∈ out) :
    ∃ k, x ∈ answers k := by
  induction fuel generalizing k offset out with
  | zero => cases reads
  | succ fuel ih =>
    rw [readAll_window] at reads
    have page (there : x ∈ ((answers k).drop (min offset cap)).take (limits k)) :
        ∃ k, x ∈ answers k := ⟨k, List.mem_of_mem_drop (List.mem_of_mem_take there)⟩
    split at reads
    · obtain ⟨later, found, joined⟩ := Option.map_eq_some_iff.mp reads
      rw [← joined, List.mem_append] at listed
      exact listed.elim page (ih found)
    · cases reads
      exact page listed

theorem readAll_of_short {length : Nat} (same : ∀ k, (answers k).length = length)
    (short : ∀ n, start limits n < length) (behind : offset ≤ start limits k) (fuel : Nat) :
    readAll (window cap limits answers) fuel k offset = none := by
  induction fuel generalizing k offset with
  | zero => rfl
  | succ fuel ih =>
    have next : min offset cap + limits k ≤ start limits (k + 1) := by
      simp only [start]
      omega
    have more : min offset cap + limits k < (answers k).length := by
      rw [same]
      exact Nat.lt_of_le_of_lt next (short (k + 1))
    rw [readAll_window, if_pos more, ih next, Option.map_none]

theorem mem_of_capped (long : cap < l.length) {out : List α} (past : cap ≤ offset)
    (reads : readAll (window cap limits fun _ => l) fuel k offset = some out) :
    l[cap] ∈ out := by
  induction fuel generalizing k offset out with
  | zero => cases reads
  | succ fuel ih =>
    rw [readAll_window, Nat.min_eq_right past] at reads
    have listed (positive : 0 < limits k) : l[cap] ∈ (l.drop cap).take (limits k) := by
      obtain ⟨rest, more⟩ := Nat.exists_eq_succ_of_ne_zero positive.ne'
      rw [more, List.drop_eq_getElem_cons long, List.take_succ_cons]
      exact List.mem_cons_self
    split at reads
    · obtain ⟨later, found, joined⟩ := Option.map_eq_some_iff.mp reads
      rw [← joined, List.mem_append]
      exact .inr (ih (Nat.le_add_right _ _) found)
    · next last =>
      cases reads
      exact listed (by omega)

theorem reads_prefix {length j : Nat} (same : ∀ k, (answers k).length = length)
    (one : ∀ i < j, answers i = l) (near : ∀ i < j, start limits i ≤ cap)
    (more : ∀ i < j, start limits (i + 1) < length) {out : List α}
    (reads : readAll (window cap limits answers) fuel 0 0 = some out) :
    ∃ fuel' later, readAll (window cap limits answers) fuel' j (start limits j) = some later ∧
      out = l.take (start limits j) ++ later := by
  induction j with
  | zero => exact ⟨fuel, out, reads, rfl⟩
  | succ j ih =>
    obtain ⟨fuel', later, found, joined⟩ := ih (fun i below => one i (by omega))
      (fun i below => near i (by omega)) (fun i below => more i (by omega))
    cases fuel' with
    | zero => cases found
    | succ fuel' =>
      have goes_on : start limits j + limits j < (answers j).length := by
        rw [same]
        exact more j (Nat.lt_succ_self j)
      rw [readAll_window, Nat.min_eq_left (near j (Nat.lt_succ_self j)), if_pos goes_on] at found
      obtain ⟨rest, next, parts⟩ := Option.map_eq_some_iff.mp found
      refine ⟨fuel', rest, next, ?_⟩
      rw [joined, ← parts, one j (Nat.lt_succ_self j), ← List.append_assoc, ← List.take_add]
      rfl

theorem reads_suffix (one : ∀ i, k ≤ i → answers i = l)
    (near : ∀ i, start limits i < l.length → start limits i ≤ cap) (here : start limits k ≤ cap)
    {out : List α}
    (reads : readAll (window cap limits answers) fuel k (start limits k) = some out) :
    out = l.drop (start limits k) := by
  induction fuel generalizing k out with
  | zero => cases reads
  | succ fuel ih =>
    rw [readAll_window, Nat.min_eq_left here, one k (Nat.le_refl k)] at reads
    split at reads
    · next more =>
      obtain ⟨later, found, joined⟩ := Option.map_eq_some_iff.mp reads
      have rest := ih (fun i le => one i (by omega)) (near (k + 1) more) found
      rw [← joined, rest, start, ← List.drop_drop, List.take_append_drop]
    · next last =>
      cases reads
      rw [List.take_of_length_le]
      rw [List.length_drop]
      omega

end Reading

section Arrangements
variable {α ι : Type} (r : Ranking α) (items : List α)

structure Arranges (shown : ι → List α) : Prop where
  perm : ∀ i, (shown i).Perm items
  sorted : ∀ i, (shown i).Pairwise fun a b => r.le a b = true
  first : ∀ x ∈ items, ∃ i, ∀ y ∈ items, r.le y x = true → r.le x y = true → y ≠ x →
    [x, y].Sublist (shown i)
  last : ∀ x ∈ items, ∃ i, ∀ y ∈ items, r.le y x = true → r.le x y = true → y ≠ x →
    [y, x].Sublist (shown i)

structure Seamless (cap : Nat) (limits : Nat → Nat) : Prop where
  ends : ∃ n, items.length ≤ start limits n
  near : ∀ k, start limits k < items.length → start limits k ≤ cap
  whole : ∀ k, ¬Splits r items (start limits k)

variable {r} {items} {cap : Nat} {limits : Nat → Nat} {shown : ι → List α}

theorem Arranges.length (h : Arranges r items shown) (i : ι) :
    (shown i).length = items.length := (h.perm i).length_eq

/-- With borders that part no ties, what is read from a page on is the rest of any answer. -/
theorem reads_from (h : Arranges r items shown) (seamless : Seamless r items cap limits)
    (answers : Nat → ι) {n : Nat} (ends : items.length ≤ start limits n) (pages k : Nat)
    (reached : n ≤ k + pages) (here : start limits k ≤ cap) :
    ∃ fuel out, readAll (window cap limits fun k => shown (answers k)) fuel k (start limits k) =
      some out ∧ out.Perm ((shown (answers k)).drop (start limits k)) := by
  induction pages generalizing k with
  | zero =>
    have past : start limits n ≤ start limits k := start_le limits reached
    refine ⟨1, _, ?_, List.Perm.refl _⟩
    rw [readAll_window, Nat.min_eq_left here, if_neg (by rw [h.length]; omega),
      List.take_of_length_le]
    rw [List.length_drop, h.length]
    omega
  | succ pages ih =>
    by_cases more : start limits k + limits k < items.length
    · have next := seamless.near (k + 1) more
      obtain ⟨fuel, out, reads, same⟩ := ih (k + 1) (by omega) next
      refine ⟨fuel + 1, ((shown (answers k)).drop (start limits k)).take (limits k) ++ out, ?_, ?_⟩
      · rw [readAll_window, Nat.min_eq_left here, if_pos (by rw [h.length]; exact more)]
        exact congrArg (Option.map _) reads
      · -- the next answer goes on as this one does
        have rest : ((shown (answers (k + 1))).drop (start limits (k + 1))).Perm
            ((shown (answers k)).drop (start limits (k + 1))) := by
          apply drop_perm ((h.perm _).trans (h.perm _).symm) (h.sorted _) (h.sorted _)
          exact fun split => seamless.whole (k + 1) ((splits_perm (h.perm _)).mp split)
        have joined := (same.trans rest).append_left
          (((shown (answers k)).drop (start limits k)).take (limits k))
        rw [start, ← List.drop_drop, List.take_append_drop] at joined
        exact joined
    · refine ⟨1, _, ?_, List.Perm.refl _⟩
      rw [readAll_window, Nat.min_eq_left here, if_neg (by rw [h.length]; exact more),
        List.take_of_length_le]
      rw [List.length_drop, h.length]
      omega

def ReadsOnce (items : List α) (cap : Nat) (limits : Nat → Nat) (shown : ι → List α) : Prop :=
  ∀ answers : Nat → ι, ∃ fuel out,
    readAll (window cap limits fun k => shown (answers k)) fuel 0 0 = some out ∧ out.Perm items

section
variable (h : Arranges r items shown)
include h

theorem reads_once (seamless : Seamless r items cap limits) :
    ReadsOnce items cap limits shown := by
  intro answers
  obtain ⟨n, ends⟩ := seamless.ends
  obtain ⟨fuel, out, reads, same⟩ :=
    reads_from h seamless answers ends n 0 (by omega) (Nat.zero_le cap)
  exact ⟨fuel, out, reads, same.trans (h.perm _)⟩

theorem ends_of_reads [Nonempty ι]
    (reads : ReadsOnce items cap limits shown) : ∃ n, items.length ≤ start limits n := by
  by_contra never
  have short : ∀ n, start limits n < items.length := fun n =>
    Nat.lt_of_not_le fun reached => never ⟨n, reached⟩
  obtain ⟨i⟩ := ‹Nonempty ι›
  obtain ⟨fuel, out, found, -⟩ := reads fun _ => i
  rw [readAll_of_short (fun _ => h.length i) short (Nat.le_refl 0)] at found
  cases found

theorem near_of_reads [Nonempty ι] (unique : items.Nodup)
    (reads : ReadsOnce items cap limits shown) (k : Nat) (inside : start limits k < items.length) :
    start limits k ≤ cap := by
  induction k using Nat.strong_induction_on with
  | _ k ih =>
    by_contra far
    rw [Nat.not_le] at far
    obtain ⟨i⟩ := ‹Nonempty ι›
    obtain ⟨fuel, out, found, same⟩ := reads fun _ => i
    have before (j : Nat) (le : j ≤ k) : start limits j < items.length :=
      Nat.lt_of_le_of_lt (start_le limits le) inside
    obtain ⟨fuel', later, rest, joined⟩ := reads_prefix (fun _ => h.length i)
      (fun _ _ => rfl) (fun j below => ih j below (before j below.le))
      (fun j below => before (j + 1) below) found
    have long : cap < (shown i).length := by
      rw [h.length]
      omega
    have again := mem_of_capped long far.le rest
    have listed : (shown i)[cap] ∈ (shown i).take (start limits k) :=
      List.mem_take_iff_getElem.mpr ⟨cap, by omega, rfl⟩
    have once := same.nodup_iff.mpr unique
    rw [joined, List.nodup_append] at once
    exact once.2.2 _ listed _ again rfl

/-- An entry of parted ties is read twice, where it leads them first and ends them later. -/
theorem whole_of_reads (unique : items.Nodup)
    (near : ∀ k, start limits k < items.length → start limits k ≤ cap)
    (reads : ReadsOnce items cap limits shown) (k : Nat) :
    ¬Splits r items (start limits k) := by
  rintro ⟨x, listed, early, late⟩
  obtain ⟨first, leads⟩ := h.first x listed
  obtain ⟨last, ends⟩ := h.last x listed
  have inside : start limits k < items.length :=
    Nat.lt_of_lt_of_le late List.countP_le_length
  have below (j : Nat) (le : j ≤ k) : start limits j < items.length :=
    Nat.lt_of_le_of_lt (start_le limits le) inside
  obtain ⟨fuel, out, found, same⟩ := reads fun j => if j < k then first else last
  obtain ⟨fuel', later, rest, joined⟩ := reads_prefix (l := shown first) (fun _ => h.length _)
    (fun j lt => by rw [if_pos lt]) (fun j lt => near j (below j lt.le))
    (fun j lt => below (j + 1) lt) found
  have after := reads_suffix (l := shown last) (fun j le => by rw [if_neg (Nat.not_lt.mpr le)])
    (by rw [h.length]; exact near) (near k inside) rest
  have here : x ∈ (shown first).take (start limits k) := by
    apply mem_take_of_first ((h.perm first).nodup_iff.mpr unique) (h.sorted first)
      ((h.perm first).mem_iff.mpr listed)
    · exact fun y member => leads y ((h.perm first).mem_iff.mp member)
    · rw [before_perm (h.perm first)]
      exact early
  have there : x ∈ (shown last).drop (start limits k) := by
    apply mem_drop_of_last ((h.perm last).nodup_iff.mpr unique) (h.sorted last)
      ((h.perm last).mem_iff.mpr listed)
    · exact fun y member => ends y ((h.perm last).mem_iff.mp member)
    · rw [upTo_perm (h.perm last)]
      exact late
  have once := same.nodup_iff.mpr unique
  rw [joined, after, List.nodup_append] at once
  exact once.2.2 _ here _ there rfl

/-- The pages give each entry once, however the ties stand in each answer, exactly when they are
seamless. -/
theorem readsOnce_iff [Nonempty ι] (unique : items.Nodup) :
    ReadsOnce items cap limits shown ↔ Seamless r items cap limits := by
  constructor
  · intro reads
    have near := near_of_reads h unique reads
    exact ⟨ends_of_reads h reads, near, whole_of_reads h unique near reads⟩
  · exact reads_once h

end

end Arrangements

end TiedPages
