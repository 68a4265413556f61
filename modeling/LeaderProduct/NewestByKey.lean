import Mathlib.Data.List.Nodup
import Mathlib.Order.Lattice
import LeaderProduct.KeyedTotals

/-! One row for each key: the newest by a rank, and of equal ones the last. -/
namespace RowTable

variable {R K ρ : Type} [DecidableEq K] [LinearOrder ρ] (key : R → K) (rank : R → ρ)

def newer (known row : R) : R := if rank known ≤ rank row then row else known

def newestByKey (rows : List R) : List (K × R) :=
  gather Prod.fst key (fun row => (key row, row)) (fun entry row => (entry.1, newer rank entry.2 row))
    rows

def newestRows (rows : List R) : List R := (newestByKey key rank rows).map Prod.snd

variable {key}

@[simp] theorem newer_self (row : R) : newer rank row row = row := by simp [newer]

theorem newer_or (known row : R) : newer rank known row = known ∨ newer rank known row = row := by
  unfold newer
  split
  · exact .inr rfl
  · exact .inl rfl

theorem le_newer (known row : R) :
    rank known ≤ rank (newer rank known row) ∧ rank row ≤ rank (newer rank known row) := by
  unfold newer
  split
  · next up => exact ⟨up, le_refl _⟩
  · next down => exact ⟨le_refl _, (not_le.mp down).le⟩

variable {rank}

omit [DecidableEq K] in
theorem foldl_newer {rows : List R} {start : Option (K × R)} {entry : K × R}
    (found : rows.foldl (fun group row =>
      some ((group.getD (key row, row)).1, newer rank (group.getD (key row, row)).2 row)) start =
        some entry) :
    (entry.2 ∈ rows ∨ start.map Prod.snd = some entry.2) ∧
      (∀ row ∈ rows, rank row ≤ rank entry.2) ∧
      ∀ known, start = some known → rank known.2 ≤ rank entry.2 := by
  induction rows generalizing start with
  | nil =>
    cases (show start = some entry from found)
    simp
  | cons row rest ih =>
    obtain ⟨origin, above, first⟩ := ih found
    have up := first _ rfl
    refine ⟨?_, ?_, ?_⟩
    · rcases origin with later | here
      · exact .inl (List.mem_cons_of_mem row later)
      · rw [Option.map_some, Option.some.injEq] at here
        cases start with
        | none =>
          rw [Option.getD_none, newer_self] at here
          exact .inl (by simp [← here])
        | some known =>
          rw [Option.getD_some] at here
          rcases newer_or rank known.2 row with same | same
          · exact .inr (by rw [Option.map_some, ← here, same])
          · exact .inl (by simp [← here, same])
    · intro other listed
      rcases List.mem_cons.mp listed with rfl | later
      · exact (le_newer rank _ other).2.trans up
      · exact above other later
    · rintro known rfl
      exact (le_newer rank known.2 row).1.trans up

theorem lookup_newestByKey (rows : List R) (k : K) :
    lookup Prod.fst (newestByKey key rank rows) k =
      groupOf (fun row => (key row, row)) (fun entry row => (entry.1, newer rank entry.2 row))
        (rows.filter (fun row => decide (key row = k))) := by
  have opens : ∀ row : R, (key row, row).1 = key row := fun _ => rfl
  have stays : ∀ (entry : K × R) (row : R), (entry.1, newer rank entry.2 row).1 = entry.1 :=
    fun _ _ => rfl
  exact lookup_gather opens stays rows k

theorem nodup_newestByKey (rows : List R) : ((newestByKey key rank rows).map Prod.fst).Nodup := by
  have opens : ∀ row : R, (key row, row).1 = key row := fun _ => rfl
  have stays : ∀ (entry : K × R) (row : R), (entry.1, newer rank entry.2 row).1 = entry.1 :=
    fun _ _ => rfl
  exact nodup_gather opens stays rows

theorem groupOf_ne_none {G : Type} {fresh : R → G} {add : G → R → G} {rows : List R}
    (given : rows ≠ []) : groupOf fresh add rows ≠ none := by
  rcases List.eq_nil_or_concat rows with empty | ⟨before, last, rfl⟩
  · exact absurd empty given
  · simp [groupOf]

theorem newest_of_mem_entries {rows : List R} {entry : K × R}
    (member : entry ∈ newestByKey key rank rows) :
    entry.2 ∈ rows ∧ key entry.2 = entry.1 ∧
      ∀ row ∈ rows, key row = entry.1 → rank row ≤ rank entry.2 := by
  have found := lookup_of_mem (nodup_newestByKey rows) member
  rw [lookup_newestByKey] at found
  obtain ⟨origin, above, _⟩ := foldl_newer found
  rcases origin with listed | impossible
  · rw [List.mem_filter, decide_eq_true_eq] at listed
    refine ⟨listed.1, listed.2, fun row here own => ?_⟩
    exact above row (List.mem_filter.mpr ⟨here, decide_eq_true own⟩)
  · cases impossible

theorem newest_of_mem {rows : List R} {newest : R} (member : newest ∈ newestRows key rank rows) :
    newest ∈ rows ∧ ∀ row ∈ rows, key row = key newest → rank row ≤ rank newest := by
  obtain ⟨entry, listed, rfl⟩ := List.mem_map.mp member
  obtain ⟨known, own, above⟩ := newest_of_mem_entries listed
  exact ⟨known, fun row here same => above row here (same.trans own)⟩

theorem exists_newest {rows : List R} {row : R} (listed : row ∈ rows) :
    ∃ newest ∈ newestRows key rank rows, key newest = key row := by
  cases found : lookup Prod.fst (newestByKey key rank rows) (key row) with
  | some entry =>
    have member := mem_of_lookup found
    obtain ⟨_, own, _⟩ := newest_of_mem_entries member
    exact ⟨entry.2, List.mem_map_of_mem member, own.trans (key_of_lookup found)⟩
  | none =>
    rw [lookup_newestByKey] at found
    have own : row ∈ rows.filter (fun other => decide (key other = key row)) :=
      List.mem_filter.mpr ⟨listed, decide_eq_true rfl⟩
    exact absurd found (groupOf_ne_none (List.ne_nil_of_mem own))

theorem nodup_newestRows (rows : List R) : ((newestRows key rank rows).map key).Nodup := by
  have keys : (newestRows key rank rows).map key = (newestByKey key rank rows).map Prod.fst := by
    rw [newestRows, List.map_map]
    exact List.map_congr_left fun entry member => (newest_of_mem_entries member).2.1
  rw [keys]
  exact nodup_newestByKey rows

theorem newestRows_unique {rows : List R} {a b : R} (first : a ∈ newestRows key rank rows)
    (second : b ∈ newestRows key rank rows) (same : key a = key b) : a = b :=
  List.inj_on_of_nodup_map (nodup_newestRows rows) first second same

theorem rank_of_perm {rows rows' : List R} (perm : rows.Perm rows') {newest newest' : R}
    (member : newest ∈ newestRows key rank rows) (member' : newest' ∈ newestRows key rank rows')
    (same : key newest = key newest') : rank newest = rank newest' := by
  obtain ⟨listed, above⟩ := newest_of_mem member
  obtain ⟨listed', above'⟩ := newest_of_mem member'
  apply le_antisymm
  · exact above' newest (perm.mem_iff.mp listed) same
  · exact above newest' (perm.mem_iff.mpr listed') same.symm

theorem newestRows_subset_of_perm {rows rows' : List R} (perm : rows.Perm rows')
    (tied : ∀ a ∈ rows, ∀ b ∈ rows, key a = key b → rank a = rank b → a = b) :
    newestRows key rank rows ⊆ newestRows key rank rows' := by
  intro newest member
  obtain ⟨listed, _⟩ := newest_of_mem member
  obtain ⟨newest', member', same⟩ : ∃ other ∈ newestRows key rank rows', key other = key newest :=
    exists_newest (perm.mem_iff.mp listed)
  have there := perm.mem_iff.mpr (newest_of_mem member').1
  have equal := rank_of_perm perm member member' same.symm
  rwa [tied newest listed newest' there same.symm equal]

/-- With no two different rows of one key and one rank, what is left does not depend on the
order of the rows. -/
theorem newestRows_perm {rows rows' : List R} (perm : rows.Perm rows')
    (tied : ∀ a ∈ rows, ∀ b ∈ rows, key a = key b → rank a = rank b → a = b) :
    (newestRows key rank rows).Perm (newestRows key rank rows') := by
  have tied' : ∀ a ∈ rows', ∀ b ∈ rows', key a = key b → rank a = rank b → a = b :=
    fun a first b second => tied a (perm.mem_iff.mpr first) b (perm.mem_iff.mpr second)
  have distinct (rows : List R) : (newestRows key rank rows).Nodup :=
    List.Nodup.of_map key (nodup_newestRows rows)
  rw [List.perm_ext_iff_of_nodup (distinct rows) (distinct rows')]
  intro row
  constructor
  · exact fun member => newestRows_subset_of_perm perm tied member
  · exact fun member => newestRows_subset_of_perm perm.symm tied' member

end RowTable
