import Mathlib.Data.List.Basic

/-! Tables as lists of rows with a key. A row is found by its key, and no update changes a key. -/
namespace RowTable

universe u v

section Descent
variable {R : Type u} {K : Type v} {key : R → K} {r : R → R → Prop}

structure Descends (key : R → K) (r : R → R → Prop) (rows later : List R) : Prop where
  kept : ∀ row ∈ rows, ∃ row' ∈ later, key row' = key row
  origin : ∀ row' ∈ later, (∃ row ∈ rows, key row = key row') →
    ∃ row ∈ rows, key row = key row' ∧ r row row'

theorem Descends.refl (self : ∀ row, r row row) (rows : List R) : Descends key r rows rows where
  kept := fun row known => ⟨row, known, rfl⟩
  origin := fun row known _ => ⟨row, known, rfl, self row⟩

theorem Descends.map (trans : ∀ a b c, r a b → r b c → r a c) {rows later : List R}
    (descends : Descends key r rows later) {change : R → R}
    (keeps : ∀ row, key (change row) = key row) (changes : ∀ row ∈ later, r row (change row)) :
    Descends key r rows (later.map change) where
  kept := by
    intro row known
    obtain ⟨row', there, same⟩ := descends.kept row known
    exact ⟨change row', List.mem_map_of_mem there, (keeps row').trans same⟩
  origin := by
    intro row' known
    obtain ⟨old, there, rfl⟩ := List.mem_map.mp known
    rw [keeps]
    intro mine
    obtain ⟨row, here, same, came⟩ := descends.origin old there mine
    exact ⟨row, here, same, trans _ _ _ came (changes old there)⟩

theorem Descends.append {rows later : List R} (descends : Descends key r rows later) {row : R}
    (fresh : ∀ other ∈ later, key other ≠ key row) : Descends key r rows (later ++ [row]) where
  kept := by
    intro old known
    obtain ⟨row', there, same⟩ := descends.kept old known
    exact ⟨row', List.mem_append_left _ there, same⟩
  origin := by
    intro row' known mine
    rcases List.mem_append.mp known with there | new
    · exact descends.origin row' there mine
    · obtain ⟨old, here, same⟩ := mine
      obtain ⟨row'', there, same'⟩ := descends.kept old here
      rw [List.mem_singleton.mp new] at same
      exact absurd (same'.trans same) (fresh row'' there)

end Descent

variable {R : Type u} {K : Type v} [DecidableEq K] (key : R → K)

def lookup (rows : List R) (k : K) : Option R := rows.find? (fun row => decide (key row = k))

def modify (rows : List R) (k : K) (change : R → R) : List R :=
  rows.map (fun row => if key row = k then change row else row)

variable {key}

theorem key_of_lookup {rows : List R} {k : K} {row : R} (found : lookup key rows k = some row) :
    key row = k := by
  have here := List.find?_some found
  rwa [decide_eq_true_eq] at here

theorem mem_of_lookup {rows : List R} {k : K} {row : R} (found : lookup key rows k = some row) :
    row ∈ rows := List.mem_of_find?_eq_some found

theorem lookup_map {change : R → R} (keeps : ∀ row, key (change row) = key row) (rows : List R)
    (k : K) : lookup key (rows.map change) k = (lookup key rows k).map change := by
  unfold lookup
  induction rows with
  | nil => rfl
  | cons row rest ih =>
    rw [List.map_cons, List.find?_cons, List.find?_cons, keeps, ih]
    split <;> rfl

theorem lookup_modify {change : R → R} (keeps : ∀ row, key (change row) = key row)
    (rows : List R) (k other : K) :
    lookup key (modify key rows k change) other =
      if other = k then (lookup key rows k).map change else lookup key rows other := by
  rw [modify, lookup_map (fun row => by split <;> simp [keeps])]
  split
  · next same =>
    cases found : lookup key rows other with
    | none =>
      rw [← same, found]
      rfl
    | some row =>
      rw [← same, found, Option.map_some, Option.map_some, if_pos (key_of_lookup found)]
  · next different =>
    cases found : lookup key rows other with
    | none => rfl
    | some row =>
      rw [Option.map_some, if_neg]
      rw [key_of_lookup found]
      exact different

theorem lookup_of_mem {rows : List R} (unique : (rows.map key).Nodup) {row : R}
    (known : row ∈ rows) : lookup key rows (key row) = some row := by
  unfold lookup
  induction rows with
  | nil => cases known
  | cons first rest ih =>
    rw [List.map_cons, List.nodup_cons] at unique
    rw [List.find?_cons]
    rcases List.mem_cons.mp known with rfl | later
    · simp only [decide_true]
    · have different : key first ≠ key row := by
        intro same
        rw [same] at unique
        exact unique.1 (List.mem_map_of_mem later)
      simp only [different, decide_false]
      exact ih unique.2 later

theorem keys_modify {change : R → R} (keeps : ∀ row, key (change row) = key row) (rows : List R)
    (k : K) : (modify key rows k change).map key = rows.map key := by
  rw [modify, List.map_map]
  refine List.map_congr_left fun row _ => ?_
  rw [Function.comp_apply]
  split
  · exact keeps row
  · rfl

theorem lookup_append (rows : List R) (row : R) (k : K) :
    lookup key (rows ++ [row]) k =
      (lookup key rows k).or (if key row = k then some row else none) := by
  unfold lookup
  rw [List.find?_append, List.find?_singleton]
  simp only [decide_eq_true_eq]

theorem lookup_filter_key (keep : K → Bool) (rows : List R) (k : K) :
    lookup key (rows.filter (fun row => keep (key row))) k =
      if keep k then lookup key rows k else none := by
  unfold lookup
  rw [List.find?_filter]
  by_cases kept : keep k = true
  · rw [if_pos kept]
    congr 1
    funext row
    by_cases same : key row = k <;> simp [same, kept]
  · rw [if_neg kept, List.find?_eq_none]
    intro row _
    by_cases same : key row = k <;> simp [same, kept]

theorem lookup_append_rows (rows later : List R) (k : K) :
    lookup key (rows ++ later) k = (lookup key rows k).or (lookup key later k) := List.find?_append

theorem lookup_map_key {A : Type u} {B : Type v} [DecidableEq B] {own : A → B} {row : A → R}
    {rename : B → K} (same : ∀ a b, key (row a) = rename b ↔ own a = b) (as : List A) (b : B) :
    lookup key (as.map row) (rename b) = (lookup own as b).map row := by
  unfold lookup
  rw [List.find?_map]
  congr 2
  funext a
  simp [same]

def newestBy (time : R → Int) (rows : List R) : Option R :=
  rows.foldl (fun best row =>
    match best with
    | none => some row
    | some known => if time known < time row then some row else some known) none

def oldestBy (time : R → Int) (rows : List R) : Option R :=
  newestBy (fun row => -time row) rows

theorem newestBy_cons (time : R → Int) (row : R) (rows : List R) :
    ∃ newest ∈ row :: rows, newestBy time (row :: rows) = some newest := by
  rw [newestBy, List.foldl_cons]
  dsimp only
  induction rows generalizing row with
  | nil => exact ⟨row, List.mem_singleton_self row, rfl⟩
  | cons next rest ih =>
    rw [List.foldl_cons]
    dsimp only
    split
    · obtain ⟨newest, found, here⟩ := ih next
      exact ⟨newest, List.mem_cons_of_mem _ found, here⟩
    · obtain ⟨newest, found, here⟩ := ih row
      refine ⟨newest, ?_, here⟩
      rcases List.mem_cons.mp found with rfl | later
      · exact List.mem_cons_self
      · exact List.mem_cons_of_mem _ (List.mem_cons_of_mem _ later)

theorem mem_of_newestBy {time : R → Int} {rows : List R} {row : R}
    (found : newestBy time rows = some row) : row ∈ rows := by
  cases rows with
  | nil => cases found
  | cons first rest =>
    obtain ⟨newest, known, here⟩ := newestBy_cons time first rest
    rw [here] at found
    cases found
    exact known

theorem newestBy_eq_none {time : R → Int} {rows : List R} :
    newestBy time rows = none ↔ rows = [] := by
  cases rows with
  | nil => exact iff_of_true rfl rfl
  | cons first rest =>
    obtain ⟨_, _, here⟩ := newestBy_cons time first rest
    simp [here]

theorem le_of_newestBy {time : R → Int} {rows : List R} {newest : R}
    (found : newestBy time rows = some newest) : ∀ row ∈ rows, time row ≤ time newest := by
  have bound (rows : List R) (best : R) : ∀ newest,
      rows.foldl (fun best row =>
        match best with
        | none => some row
        | some known => if time known < time row then some row else some known) (some best) =
          some newest →
        time best ≤ time newest ∧ ∀ row ∈ rows, time row ≤ time newest := by
    induction rows generalizing best with
    | nil =>
      intro newest here
      cases here
      simp
    | cons next rest ih =>
      intro newest here
      rw [List.foldl_cons] at here
      dsimp only at here
      rw [List.forall_mem_cons]
      split at here
      · next newer =>
        obtain ⟨above, later⟩ := ih next newest here
        exact ⟨by omega, above, later⟩
      · next older =>
        obtain ⟨above, later⟩ := ih best newest here
        exact ⟨above, by omega, later⟩
  cases rows with
  | nil => cases found
  | cons first rest =>
    rw [List.forall_mem_cons]
    exact bound rest first newest found

theorem dropWhile_of_find {p : R → Bool} {rows : List R} {row : R}
    (found : rows.find? p = some row) :
    ∃ later, rows.dropWhile (fun other => !p other) = row :: later := by
  induction rows with
  | nil => cases found
  | cons first rest ih =>
    rw [List.find?_cons] at found
    rw [List.dropWhile_cons]
    cases here : p first with
    | true =>
      rw [here] at found
      cases found
      exact ⟨rest, rfl⟩
    | false =>
      rw [here] at found
      exact ih found

/-- What the row is to those after it in a table where earlier and later rows are so related. -/
theorem later_of_pairwise {Rel : R → R → Prop} {p : R → Bool} {rows : List R} {row : R}
    (related : rows.Pairwise Rel) (found : rows.find? p = some row) :
    ∃ later, rows.dropWhile (fun other => !p other) = row :: later ∧
      ∀ other ∈ later, Rel row other := by
  obtain ⟨later, here⟩ := dropWhile_of_find found
  refine ⟨later, here, ?_⟩
  have suffix := related.sublist (List.dropWhile_sublist (fun other => !p other))
  rw [here, List.pairwise_cons] at suffix
  exact suffix.1

theorem eq_of_pairwise {Rel : R → R → Prop} {rows : List R} (related : rows.Pairwise Rel)
    {a b : R} (a_known : a ∈ rows) (b_known : b ∈ rows) (before : ¬ Rel a b) (after : ¬ Rel b a) :
    a = b := by
  induction related with
  | nil => cases a_known
  | cons first _ ih =>
    rcases List.mem_cons.mp a_known with rfl | a_later
    · rcases List.mem_cons.mp b_known with rfl | b_later
      · rfl
      · exact absurd (first b b_later) before
    · rcases List.mem_cons.mp b_known with rfl | b_later
      · exact absurd (first a a_later) after
      · exact ih a_later b_later

theorem Descends.modify {r : R → R → Prop} (trans : ∀ a b c, r a b → r b c → r a c)
    (self : ∀ row, r row row) {rows later : List R} (descends : Descends key r rows later) (k : K)
    {change : R → R} (keeps : ∀ row, key (change row) = key row)
    (changes : ∀ row ∈ later, key row = k → r row (change row)) :
    Descends key r rows (RowTable.modify key later k change) := by
  refine descends.map trans (fun row => ?_) (fun row known => ?_)
  · split
    · exact keeps row
    · rfl
  · split
    · next mine => exact changes row known mine
    · exact self row

end RowTable
