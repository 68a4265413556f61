import Mathlib.Data.List.TakeDrop
import Mathlib.Data.List.Perm.Lattice
import Mathlib.Data.List.Perm.Subperm
import Mathlib.Data.Nat.Find
import Mathlib.Algebra.Order.Ring.Nat
import Mathlib.Data.Rat.Cast.Order

/-! Lists that are read page by page. -/
namespace PagedScan

variable {k : Nat}

section Readers
variable {α : Type} (pages : Nat → List α) (totals : Nat → ℚ) (limit : Nat)

def received (n : Nat) : List α := (List.range n).flatMap pages

inductive Rule where
  | nextOffset | receivedSoFar | pageEnd

def GoesOn (k : Nat) : Rule → Prop
  | .nextOffset => ((k + 1) * limit : Nat) < totals k
  | .receivedSoFar => (received pages (k + 1)).length < totals k
  | .pageEnd => (k * limit + (pages k).length : Nat) < totals k

def ReadsAll (l : List α) (rule : Rule) : Prop :=
  ∃ n, (∀ k < n, GoesOn pages totals limit k rule) ∧ ¬GoesOn pages totals limit n rule ∧
    (received pages (n + 1)).Perm l

theorem received_succ (n : Nat) : received pages (n + 1) = received pages n ++ pages n := by
  rw [received, List.range_succ, List.flatMap_append, List.flatMap_singleton, received]

variable {pages totals limit}

theorem received_length_le_of_pages (short : ∀ k, (pages k).length ≤ limit) (n : Nat) :
    (received pages n).length ≤ n * limit := by
  induction n with
  | zero => simp [received]
  | succ n ih =>
    rw [received_succ, List.length_append, Nat.add_mul, Nat.one_mul]
    exact Nat.add_le_add ih (short n)

theorem goesOn_of_end (short : ∀ k, (pages k).length ≤ limit)
    (past : (k * limit + (pages k).length : Nat) < totals k) :
    GoesOn pages totals limit k .receivedSoFar := by
  refine lt_of_le_of_lt ?_ past
  rw [received_succ, List.length_append, Nat.cast_le]
  exact Nat.add_le_add_right (received_length_le_of_pages short k) _

/-- After a page that is not full the pages lag behind their offsets for good. -/
theorem goesOn_after_short (short : ∀ k, (pages k).length ≤ limit)
    (reached : ∀ k, (k * limit + (pages k).length : Nat) ≤ totals k) {j : Nat}
    (not_full : (pages j).length < limit) (later : j < k) :
    GoesOn pages totals limit k .receivedSoFar := by
  have behind : ∀ n, j < n → (received pages n).length < n * limit := by
    intro n after
    induction n with
    | zero => cases after
    | succ n ih =>
      rw [received_succ, List.length_append, Nat.add_mul, Nat.one_mul]
      rcases Nat.eq_or_lt_of_le (Nat.le_of_lt_succ after) with rfl | earlier
      · exact Nat.add_lt_add_of_le_of_lt (received_length_le_of_pages short j) not_full
      · exact Nat.add_lt_add_of_lt_of_le (ih earlier) (short n)
  refine lt_of_lt_of_le ?_ (reached k)
  rw [received_succ, List.length_append, Nat.cast_lt]
  exact Nat.add_lt_add_right (behind k later) _

end Readers

variable {α : Type} (shown : α → Bool) (limit : Nat) (l : List α)

def window (k : Nat) : List α := (l.drop (k * limit)).take limit

def page (k : Nat) : List α := (window limit l k).filter shown

def More (k : Nat) : Prop := (k + 1) * limit < l.length

instance (k : Nat) : Decidable (More limit l k) := inferInstanceAs (Decidable (_ < _))

def total (k : Nat) : Nat :=
  k * limit + (page shown limit l k).length + if More limit l k then 1 else 0

def Shown (i : Nat) : Prop := ∃ a, l[i]? = some a ∧ shown a = true

def Hidden (i : Nat) : Prop := ∃ a, l[i]? = some a ∧ shown a = false

theorem received_eq (n : Nat) :
    received (page shown limit l) n = (l.take (n * limit)).filter shown := by
  induction n with
  | zero => simp [received]
  | succ n ih =>
    rw [received_succ, ih, Nat.add_mul, Nat.one_mul, List.take_add, List.filter_append, page, window]

theorem page_length_le (k : Nat) : (page shown limit l k).length ≤ limit :=
  (List.length_filter_le _ _).trans (List.length_take_le _ _)

theorem filter_take_length_iff (m : Nat) : ((l.take m).filter shown).length = m ↔
    m ≤ l.length ∧ ∀ i, Hidden shown l i → m ≤ i := by
  have filtered := List.length_filter_le shown (l.take m)
  have taken : (l.take m).length = min m l.length := List.length_take
  constructor
  · intro whole
    have all : ∀ a ∈ l.take m, shown a = true :=
      List.length_filter_eq_length_iff.mp (by omega)
    refine ⟨by omega, fun i ⟨a, at_i, hidden⟩ => ?_⟩
    by_contra before
    have inside : a ∈ l.take m :=
      List.mem_of_getElem? ((List.getElem?_take_of_lt (by omega)).trans at_i)
    rw [all a inside] at hidden
    cases hidden
  · rintro ⟨long, none_hidden⟩
    have all : ∀ a ∈ l.take m, shown a = true := by
      intro a inside
      obtain ⟨i, before, at_i⟩ := List.mem_iff_getElem.mp inside
      by_contra hidden
      rw [List.getElem_take] at at_i
      have late := none_hidden i ⟨a, by rw [← at_i]; exact List.getElem?_eq_getElem _,
        Bool.eq_false_iff.mpr hidden⟩
      omega
    rw [List.length_filter_eq_length_iff.mpr all, taken, Nat.min_eq_left long]

theorem hidden_drop_iff (p i : Nat) : Hidden shown (l.drop p) i ↔ Hidden shown l (p + i) := by
  rw [Hidden, Hidden, List.getElem?_drop]

theorem page_full_iff (k : Nat) : (page shown limit l k).length = limit ↔
    (k + 1) * limit ≤ l.length ∧ ∀ i, Hidden shown l i → k * limit ≤ i → (k + 1) * limit ≤ i := by
  rw [page, window, filter_take_length_iff, List.length_drop, Nat.add_mul, Nat.one_mul]
  simp only [hidden_drop_iff]
  refine ⟨fun ⟨long, later⟩ => ?_, fun ⟨long, later⟩ => ?_⟩
  · by_cases empty : limit = 0
    · simp [empty]
    · refine ⟨by omega, fun i hidden inside => ?_⟩
      have := later (i - k * limit) (by rwa [Nat.add_sub_cancel' inside])
      omega
  · refine ⟨by omega, fun i hidden => ?_⟩
    have := later (k * limit + i) hidden (Nat.le_add_right _ _)
    omega

def CleanBefore (k : Nat) : Prop := ∀ i, Hidden shown l i → k * limit ≤ i

theorem received_length_iff (n : Nat) : (received (page shown limit l) n).length = n * limit ↔
    n * limit ≤ l.length ∧ CleanBefore shown limit l n := by
  rw [received_eq, filter_take_length_iff, CleanBefore]

theorem received_length_le (n : Nat) : (received (page shown limit l) n).length ≤ n * limit := by
  rw [received_eq]
  exact (List.length_filter_le _ _).trans (List.length_take_le _ _)

theorem received_perm_iff (n : Nat) : (received (page shown limit l) n).Perm (l.filter shown) ↔
    ∀ j, Shown shown l j → j < n * limit := by
  have parts : l.filter shown =
      received (page shown limit l) n ++ (l.drop (n * limit)).filter shown := by
    rw [received_eq, ← List.filter_append, List.take_append_drop]
  have rest : (received (page shown limit l) n).Perm (l.filter shown) ↔
      (l.drop (n * limit)).filter shown = [] := by
    rw [parts]
    refine ⟨fun perm => ?_, fun none_left => by rw [none_left, List.append_nil]⟩
    have lengths := perm.length_eq
    rw [List.length_append] at lengths
    exact List.eq_nil_of_length_eq_zero (by omega)
  rw [rest, List.filter_eq_nil_iff]
  constructor
  · rintro none_left j ⟨a, at_j, visible⟩
    by_contra late
    refine none_left a (List.mem_of_getElem? (i := j - n * limit) ?_) visible
    rw [List.getElem?_drop, Nat.add_sub_cancel' (Nat.le_of_not_lt late), at_j]
  · intro before a inside visible
    obtain ⟨i, at_i⟩ := List.getElem?_of_mem inside
    rw [List.getElem?_drop] at at_i
    exact absurd (before _ ⟨a, at_i, visible⟩) (Nat.not_lt.mpr (Nat.le_add_right _ _))

section Pages

/-- Where the hidden entries may stand. -/
def Harmless : Rule → Prop
  | .nextOffset => ∀ i j, Hidden shown l i → Shown shown l j → i < j → i / limit = j / limit
  | .receivedSoFar => ∀ i, Hidden shown l i → l.length ≤ (i / limit + 1) * limit
  | .pageEnd => True

variable {shown limit l}

theorem goesOn_nextOffset :
    GoesOn (page shown limit l) (total shown limit l ·) limit k .nextOffset ↔
      More limit l k ∧ (page shown limit l k).length = limit := by
  have short := page_length_le shown limit l k
  rw [GoesOn, Nat.cast_lt, total, Nat.add_mul, Nat.one_mul]
  split
  · next more =>
    simp only [more, true_and]
    omega
  · next last =>
    simp only [last, false_and, iff_false]
    omega

theorem goesOn_receivedSoFar :
    GoesOn (page shown limit l) (total shown limit l ·) limit k .receivedSoFar ↔
      More limit l k ∨ (received (page shown limit l) k).length < k * limit := by
  have short := received_length_le shown limit l k
  rw [GoesOn, Nat.cast_lt, total, received_succ, List.length_append]
  split
  · next more =>
    simp only [more, true_or, iff_true]
    omega
  · next last =>
    simp only [last, false_or]
    omega

theorem goesOn_pageEnd :
    GoesOn (page shown limit l) (total shown limit l ·) limit k .pageEnd ↔ More limit l k := by
  rw [GoesOn, Nat.cast_lt, total]
  split
  · next more => simp [more]
  · next last => simp [last]

theorem exists_first {P : Nat → Prop} (ends : ∃ k, ¬P k) : ∃ n, (∀ k < n, P k) ∧ ¬P n := by
  classical
  exact ⟨Nat.find ends, fun k before => not_not.mp (Nat.find_min ends before), Nat.find_spec ends⟩

theorem shown_inside {j : Nat} (visible : Shown shown l j) : j < l.length := by
  obtain ⟨a, at_j, _⟩ := visible
  exact (List.getElem?_eq_some_iff.mp at_j).1

section Positive
variable (positive : 0 < limit)
include positive

theorem not_more_far : ¬More limit l l.length := by
  rw [More, Nat.not_lt, Nat.add_mul, Nat.one_mul]
  exact (Nat.le_mul_of_pos_right _ positive).trans (Nat.le_add_right _ _)

theorem le_div_iff {i : Nat} : k ≤ i / limit ↔ k * limit ≤ i := Nat.le_div_iff_mul_le positive

theorem div_lt_iff {i : Nat} : i / limit < k ↔ i < k * limit := Nat.div_lt_iff_lt_mul positive

theorem readsAll_nextOffset :
    ReadsAll (page shown limit l) (total shown limit l ·) limit (l.filter shown) .nextOffset ↔
      Harmless shown limit l .nextOffset := by
  constructor
  · rintro ⟨n, on, _, whole⟩ i j hidden visible before
    have reached : j / limit < n + 1 :=
      (div_lt_iff positive).mpr ((received_perm_iff _ _ _ _).mp whole j visible)
    have order : i / limit ≤ j / limit := Nat.div_le_div_right before.le
    by_contra other
    -- The page of the hidden entry is not full, so the reader does not go on from it.
    have full := (goesOn_nextOffset.mp (on (i / limit) (by omega))).2
    have late := ((page_full_iff _ _ _ _).mp full).2 i hidden (Nat.div_mul_le_self _ _)
    rw [← le_div_iff positive] at late
    omega
  · intro harmless
    obtain ⟨n, on, stop⟩ := exists_first
      (P := fun k => GoesOn (page shown limit l) (total shown limit l ·) limit k .nextOffset)
      ⟨_, fun on => not_more_far positive (goesOn_nextOffset.mp on).1⟩
    refine ⟨n, on, stop, (received_perm_iff _ _ _ _).mpr fun j visible => ?_⟩
    by_contra late
    rw [goesOn_nextOffset, not_and_or] at stop
    have inside := shown_inside visible
    rcases stop with last | short
    · rw [More] at last
      omega
    · rw [page_full_iff, not_and] at short
      have hides := short (by omega)
      push Not at hides
      obtain ⟨i, hidden, from_page, in_page⟩ := hides
      have same := harmless i j hidden visible (by omega)
      rw [← le_div_iff positive] at from_page
      rw [← div_lt_iff positive] at in_page late
      omega

theorem readsAll_receivedSoFar :
    ReadsAll (page shown limit l) (total shown limit l ·) limit (l.filter shown) .receivedSoFar ↔
      Harmless shown limit l .receivedSoFar := by
  constructor
  · rintro ⟨n, _, stop, _⟩ i hidden
    rw [goesOn_receivedSoFar, not_or, More, Nat.not_lt, Nat.not_lt] at stop
    have whole := (received_length_le shown limit l n).antisymm stop.2
    have clean := ((received_length_iff _ _ _ _).mp whole).2 i hidden
    rw [← le_div_iff positive] at clean
    exact stop.1.trans (Nat.mul_le_mul_right _ (by omega))
  · intro harmless
    obtain ⟨n, on, last⟩ := exists_first ⟨_, not_more_far (l := l) positive⟩
    have whole : (received (page shown limit l) n).length = n * limit := by
      refine (received_length_iff _ _ _ _).mpr ⟨?_, fun i hidden => ?_⟩
      · cases n with
        | zero => simp
        | succ n => exact Nat.le_of_lt (on n (by omega))
      · by_contra before
        rw [Nat.not_le, ← div_lt_iff positive] at before
        exact absurd (harmless i hidden) (Nat.not_le.mpr (on _ before))
    refine ⟨n, fun k before => goesOn_receivedSoFar.mpr (.inl (on k before)), ?_,
      (received_perm_iff _ _ _ _).mpr fun j visible => ?_⟩
    · rw [goesOn_receivedSoFar, not_or]
      exact ⟨last, Nat.not_lt.mpr whole.ge⟩
    · exact (shown_inside visible).trans_le (Nat.not_lt.mp last)

theorem readsAll_pageEnd :
    ReadsAll (page shown limit l) (total shown limit l ·) limit (l.filter shown) .pageEnd := by
  obtain ⟨n, on, last⟩ := exists_first ⟨_, not_more_far (l := l) positive⟩
  refine ⟨n, fun k before => goesOn_pageEnd.mpr (on k before), goesOn_pageEnd.not.mpr last,
    (received_perm_iff _ _ _ _).mpr fun j visible => ?_⟩
  exact (shown_inside visible).trans_le (Nat.not_lt.mp last)

theorem readsAll_iff (rule : Rule) :
    ReadsAll (page shown limit l) (total shown limit l ·) limit (l.filter shown) rule ↔
      Harmless shown limit l rule := by
  cases rule with
  | nextOffset => exact readsAll_nextOffset positive
  | receivedSoFar => exact readsAll_receivedSoFar positive
  | pageEnd => exact iff_of_true (readsAll_pageEnd positive) trivial

end Positive

end Pages

section Pieces
variable (limit : Nat) (lists : Nat → List α) {l : List α} {totals : Nat → ℚ}

def piece (k : Nat) : List α := window limit (lists k) k

/-- The list of the next page begins with what that of this page has given so far. -/
def SteadyAt (k : Nat) : Prop :=
  ((lists k).take ((k + 1) * limit)).Perm ((lists (k + 1)).take ((k + 1) * limit))

variable {limit lists}

theorem take_piece (k : Nat) :
    (lists k).take (k * limit) ++ piece limit lists k = (lists k).take ((k + 1) * limit) := by
  rw [piece, window, ← List.take_add, Nat.add_mul, Nat.one_mul]

theorem received_pieces {n : Nat} (steady : ∀ k < n, SteadyAt limit lists k) :
    (received (piece limit lists) n).Perm ((lists n).take (n * limit)) := by
  induction n with
  | zero => simp [received]
  | succ n ih =>
    have before := (ih fun k inside => steady k (by omega)).append_right (piece limit lists n)
    rw [received_succ]
    rw [take_piece] at before
    exact before.trans (steady n (by omega))

theorem received_back (steady : SteadyAt limit lists k)
    (next : (received (piece limit lists) (k + 1)).Perm ((lists (k + 1)).take ((k + 1) * limit))) :
    (received (piece limit lists) k).Perm ((lists k).take (k * limit)) := by
  have same := next.trans steady.symm
  rw [received_succ, ← take_piece] at same
  exact (List.perm_append_right_iff _).mp same

variable {m : Nat}

/-- Where the lists are steady but for one page at most, and what has been received is the beginning
of the list in the end, they are steady there too. -/
theorem steadyAt_of_others (inside : k < m) (others : ∀ j < m, j ≠ k → SteadyAt limit lists j)
    (reached : (received (piece limit lists) m).Perm ((lists m).take (m * limit))) :
    SteadyAt limit lists k := by
  have later : ∀ d j, j + d = m → k < j →
      (received (piece limit lists) j).Perm ((lists j).take (j * limit)) := by
    intro d
    induction d with
    | zero =>
      rintro j rfl _
      exact reached
    | succ d ih =>
      intro j here after
      exact received_back (others j (by omega) (by omega)) (ih (j + 1) (by omega) (by omega))
  have next := later (m - (k + 1)) (k + 1) (by omega) (by omega)
  have before := (received_pieces (n := k) fun j earlier =>
    others j (by omega) (by omega)).append_right (piece limit lists k)
  rw [take_piece, ← received_succ] at before
  exact before.symm.trans next

/-- Lists that are steady and settle from some page on, which the last list reaches, are read whole
when the totals tell the length of the settled list. -/
theorem readsAll_pieces (positive : 0 < limit) (steady : ∀ k, SteadyAt limit lists k)
    (settled : ∀ k, m ≤ k → lists k = l) (full : m * limit ≤ l.length)
    (on : ∀ k < m, GoesOn (piece limit lists) totals limit k .receivedSoFar)
    (tells : ∀ k, m ≤ k → k * limit ≤ l.length → totals k = l.length) :
    ReadsAll (piece limit lists) totals limit l .receivedSoFar := by
  have reached {k : Nat} (late : m ≤ k) :
      (received (piece limit lists) (k + 1)).Perm (l.take ((k + 1) * limit)) := by
    have perm := received_pieces (n := k + 1) fun j _ => steady j
    rwa [settled (k + 1) (by omega)] at perm
  obtain ⟨n, before, last⟩ := exists_first (P := fun k => k < m ∨ More limit l k)
    ⟨max m l.length, by
      have far := not_more_far (l := l) positive
      rw [More, Nat.not_lt] at far
      rw [not_or, More, Nat.not_lt, Nat.not_lt]
      refine ⟨le_max_left _ _, far.trans (Nat.mul_le_mul_right _ ?_)⟩
      exact Nat.add_le_add_right (le_max_right _ _) 1⟩
  rw [not_or, Nat.not_lt, More, Nat.not_lt] at last
  have inside : n * limit ≤ l.length := by
    rcases Nat.eq_or_lt_of_le last.1 with rfl | after
    · exact full
    · cases n with
      | zero => cases after
      | succ n => exact ((before n (by omega)).resolve_left (by omega)).le
  refine ⟨n, fun k earlier => ?_, ?_, ?_⟩
  · by_cases early : k < m
    · exact on k early
    · have more := (before k earlier).resolve_left early
      have here : k * limit ≤ l.length := (Nat.mul_le_mul_right _ (Nat.le_succ k)).trans more.le
      rw [GoesOn, tells k (by omega) here, Nat.cast_lt, (reached (by omega)).length_eq,
        List.length_take]
      exact (Nat.min_le_left _ _).trans_lt more
  · rw [GoesOn, tells n last.1 inside, (reached last.1).length_eq, List.take_of_length_le last.2]
    exact lt_irrefl _
  · have perm := reached last.1
    rwa [List.take_of_length_le last.2] at perm

theorem received_settled (settled : ∀ k, m ≤ k → lists k = l) (d : Nat) :
    received (piece limit lists) (m + d) =
      received (piece limit lists) m ++ (l.drop (m * limit)).take (d * limit) := by
  induction d with
  | zero => simp
  | succ d ih =>
    rw [← Nat.add_assoc, received_succ, ih, piece, settled (m + d) (by omega), window, List.append_assoc,
      Nat.add_mul, Nat.add_mul, Nat.one_mul, List.take_add, List.drop_drop]

theorem received_of_covers {n : Nat} (settled : ∀ k, m ≤ k → lists k = l)
    (reaches : m * limit ≤ l.length) (later : m ≤ n) (distinct : l.Nodup)
    (covers : l ⊆ received (piece limit lists) n) :
    (received (piece limit lists) m).Perm (l.take (m * limit)) := by
  have parts : received (piece limit lists) (m + (n - m)) = _ := received_settled settled (n - m)
  rw [Nat.add_sub_cancel' later] at parts
  rw [parts] at covers
  have front : (received (piece limit lists) m).length ≤ m * limit :=
    received_length_le_of_pages (fun k => List.length_take_le _ _) m
  have back : ((l.drop (m * limit)).take ((n - m) * limit)).length =
      min ((n - m) * limit) (l.length - m * limit) := by
    rw [List.length_take, List.length_drop]
  have whole := (List.subperm_of_subset distinct covers).perm_of_length_le (by
    rw [List.length_append, back]
    omega)
  have lengths := whole.length_eq
  rw [List.length_append, back] at lengths
  have rest : (l.drop (m * limit)).take ((n - m) * limit) = l.drop (m * limit) :=
    List.take_of_length_le (by rw [List.length_drop]; omega)
  rw [rest] at whole
  nth_rewrite 1 [← List.take_append_drop (m * limit) l] at whole
  exact ((List.perm_append_right_iff _).mp whole).symm

end Pieces

section Search
variable (matching : α → Bool)

def scan : Nat → Nat → Option α
  | 0, _ => none
  | fuel + 1, k =>
    match (page shown limit l k).find? matching with
    | some a => some a
    | none =>
      if (page shown limit l k).length < limit ∨
          total shown limit l k ≤ k * limit + (page shown limit l k).length then none
      else scan fuel (k + 1)

variable {shown limit l}

theorem mem_page_iff {a : α} : a ∈ page shown limit l k ↔
    ∃ j, l[j]? = some a ∧ shown a = true ∧ k * limit ≤ j ∧ j < (k + 1) * limit := by
  rw [page, List.mem_filter, window, List.mem_iff_getElem?]
  constructor
  · rintro ⟨⟨i, at_i⟩, visible⟩
    rw [List.getElem?_take] at at_i
    split_ifs at at_i with before
    rw [List.getElem?_drop] at at_i
    rw [Nat.add_mul, Nat.one_mul]
    exact ⟨_, at_i, visible, Nat.le_add_right _ _, Nat.add_lt_add_left before _⟩
  · rintro ⟨j, at_j, visible, from_page, in_page⟩
    rw [Nat.add_mul, Nat.one_mul] at in_page
    refine ⟨⟨j - k * limit, ?_⟩, visible⟩
    rw [List.getElem?_take_of_lt (by omega), List.getElem?_drop, Nat.add_sub_cancel' from_page, at_j]

theorem short_iff : ((page shown limit l k).length < limit ∨
      total shown limit l k ≤ k * limit + (page shown limit l k).length) ↔
    ¬((page shown limit l k).length = limit ∧ More limit l k) := by
  have short := page_length_le shown limit l k
  rw [← goesOn_pageEnd, GoesOn, Nat.cast_lt, Classical.not_and_iff_not_or_not, Nat.not_lt]
  exact or_congr_left ⟨Nat.ne_of_lt, fun ne => Nat.lt_of_le_of_ne short ne⟩

theorem scan_matching {fuel : Nat} {a : α} (found : scan shown limit l matching fuel k = some a) :
    matching a = true := by
  induction fuel generalizing k with
  | zero => cases found
  | succ fuel ih =>
    rw [scan] at found
    split at found
    · next here =>
      cases found
      exact List.find?_some here
    · split at found
      · cases found
      · exact ih found

/-- A run of pages finds a match exactly when one is shown that no earlier page of the run, by a
hidden entry, cuts off. -/
theorem scan_isSome_iff (positive : 0 < limit) (fuel k : Nat) :
    (scan shown limit l matching fuel k).isSome = true ↔
      ∃ j a, l[j]? = some a ∧ shown a = true ∧ matching a = true ∧
        k * limit ≤ j ∧ j < (k + fuel) * limit ∧
        ∀ i, Hidden shown l i → k * limit ≤ i → j / limit * limit ≤ i := by
  induction fuel generalizing k with
  | zero =>
    refine iff_of_false (by simp [scan]) ?_
    rintro ⟨j, _, _, _, _, from_page, before, _⟩
    exact absurd before (Nat.not_lt.mpr from_page)
  | succ fuel ih =>
    rw [scan]
    cases found : (page shown limit l k).find? matching with
    | some a =>
      obtain ⟨j, at_j, visible, from_page, in_page⟩ :=
        mem_page_iff.mp (List.mem_of_find?_eq_some found)
      refine iff_of_true rfl
        ⟨j, a, at_j, visible, List.find?_some found, from_page, ?_, fun i _ inside => ?_⟩
      · exact in_page.trans_le (Nat.mul_le_mul_right _ (by omega))
      · have here : j / limit < k + 1 := (div_lt_iff positive).mpr in_page
        exact (Nat.mul_le_mul_right _ (by omega)).trans inside
    | none =>
      -- A match that is shown stands on a later page.
      have later {j : Nat} {a : α} (at_j : l[j]? = some a) (visible : shown a = true)
          (matches_a : matching a = true) (from_page : k * limit ≤ j) : (k + 1) * limit ≤ j := by
        by_contra here
        exact List.find?_eq_none.mp found a
          (mem_page_iff.mpr ⟨j, at_j, visible, from_page, Nat.not_le.mp here⟩) matches_a
      have onward : k * limit ≤ (k + 1) * limit := Nat.mul_le_mul_right _ (by omega)
      by_cases full : (page shown limit l k).length = limit ∧ More limit l k
      · have clean := ((page_full_iff _ _ _ _).mp full.1).2
        dsimp only
        rw [if_neg (short_iff.not.mpr (not_not.mpr full)), ih]
        constructor
        · rintro ⟨j, a, at_j, visible, matches_a, from_page, before, unhidden⟩
          exact ⟨j, a, at_j, visible, matches_a, onward.trans from_page,
            before.trans_eq (by rw [Nat.add_right_comm, Nat.add_assoc]),
            fun i hidden inside => unhidden i hidden (clean i hidden inside)⟩
        · rintro ⟨j, a, at_j, visible, matches_a, from_page, before, unhidden⟩
          exact ⟨j, a, at_j, visible, matches_a, later at_j visible matches_a from_page,
            before.trans_eq (by rw [Nat.add_right_comm, Nat.add_assoc]),
            fun i hidden inside => unhidden i hidden (onward.trans inside)⟩
      · dsimp only
        rw [if_pos (short_iff.mpr full)]
        refine iff_of_false (by simp) ?_
        rintro ⟨j, a, at_j, visible, matches_a, from_page, _, unhidden⟩
        have beyond := later at_j visible matches_a from_page
        have inside := shown_inside ⟨a, at_j, visible⟩
        refine full ⟨(page_full_iff _ _ _ _).mpr ⟨by omega, fun i hidden in_page => ?_⟩,
          beyond.trans_lt inside⟩
        have reached : k + 1 ≤ j / limit := (le_div_iff positive).mpr beyond
        exact (Nat.mul_le_mul_right _ reached).trans (unhidden i hidden in_page)

end Search

end PagedScan
