/-! Entries joined to one text, each on a line of its own. -/
namespace FramedLines

variable {A : Type} (sep mark : A)

def line (entry : List A × List A) : List A := entry.1 ++ mark :: entry.2

def joined (entries : List (List A × List A)) : List A :=
  [sep].intercalate (entries.map (line mark))

structure Framed (entry : List A × List A) : Prop where
  key : sep ∉ entry.1
  unmarked : mark ∉ entry.1
  value : sep ∉ entry.2

variable {sep mark}

theorem Framed.line_clear {entry : List A × List A} (framed : Framed sep mark entry)
    (apart : sep ≠ mark) : sep ∉ line mark entry := by
  simp [line, framed.key, framed.value, apart]

theorem mark_mem_line (entry : List A × List A) : mark ∈ line mark entry := by simp [line]

theorem line_eq {key value key' value' : List A} (clear : mark ∉ key) (clear' : mark ∉ key')
    (same : line mark (key, value) = line mark (key', value')) : key = key' ∧ value = value' := by
  simp only [line] at same
  induction key generalizing key' with
  | nil =>
    cases key' with
    | nil => exact ⟨rfl, (List.cons.inj same).2⟩
    | cons a rest =>
      simp only [List.nil_append, List.cons_append, List.cons.injEq] at same
      exact absurd (by simp [same.1]) clear'
  | cons a rest ih =>
    cases key' with
    | nil =>
      simp only [List.nil_append, List.cons_append, List.cons.injEq] at same
      exact absurd (by simp [same.1]) clear
    | cons b rest' =>
      simp only [List.cons_append, List.cons.injEq] at same
      simp only [List.mem_cons, not_or] at clear clear'
      obtain ⟨keys, values⟩ := ih clear.2 clear'.2 same.2
      exact ⟨by rw [same.1, keys], values⟩

variable [DecidableEq A]

theorem splitOn_intercalate_flatMap (texts : List (List A)) (some_text : texts ≠ []) :
    ([sep].intercalate texts).splitOn sep = texts.flatMap (List.splitOn sep) := by
  induction texts with
  | nil => exact absurd rfl some_text
  | cons text rest ih =>
    cases rest with
    | nil => simp
    | cons next rest =>
      simp only [List.intercalate_cons_cons, List.append_assoc, List.cons_append, List.nil_append,
        List.splitOn_append_cons_self, List.flatMap_cons]
      rw [ih (List.cons_ne_nil _ _), List.flatMap_cons]

theorem mem_of_mem_splitOn {a : A} {part text : List A} (here : part ∈ text.splitOn sep)
    (known : a ∈ part) : a ∈ text := by
  have whole : [sep].intercalate (text.splitOn sep) = text := List.intercalate_splitOn sep
  rw [← whole]
  generalize text.splitOn sep = parts at here
  induction parts with
  | nil => cases here
  | cons part' rest ih =>
    cases rest with
    | nil =>
      simp only [List.mem_singleton] at here
      subst here
      simpa using known
    | cons next rest =>
      simp only [List.intercalate_cons_cons, List.mem_append]
      rcases List.mem_cons.mp here with rfl | later
      · exact Or.inl (Or.inl known)
      · exact Or.inr (ih later)

theorem splitOn_joined {known : List (List A × List A)} (apart : sep ≠ mark)
    (framed : ∀ entry ∈ known, Framed sep mark entry) (some_entry : known ≠ []) :
    (joined sep mark known).splitOn sep = known.map (line mark) := by
  apply List.splitOn_intercalate
  · intro text here
    obtain ⟨entry, known, rfl⟩ := List.mem_map.mp here
    exact (framed entry known).line_clear apart
  · simpa using some_entry

/-- Read as other entries, the text gives a key the value that it has, alone or with the lines
that follow it run on. -/
theorem value_of_joined {known entries : List (List A × List A)} (apart : sep ≠ mark)
    (framed : ∀ entry ∈ known, Framed sep mark entry) (some_entry : known ≠ [])
    (same : joined sep mark entries = joined sep mark known) {key value : List A}
    (here : (key, value) ∈ entries) (clear : sep ∉ key) (unmarked : mark ∉ key) :
    ∃ own, (key, own) ∈ known ∧
      (value = own ∨ ∃ more, mark ∈ more ∧ value = own ++ sep :: more) := by
  have lines : (entries.map (line mark)).flatMap (List.splitOn sep) = known.map (line mark) := by
    rw [← splitOn_joined apart framed some_entry, ← same, joined, splitOn_intercalate_flatMap]
    simpa using List.ne_nil_of_mem here
  have is_line : ∀ part ∈ (line mark (key, value)).splitOn sep, ∃ entry ∈ known,
      line mark entry = part := by
    intro part inside
    have listed : part ∈ known.map (line mark) := by
      rw [← lines]
      exact List.mem_flatMap.mpr ⟨_, List.mem_map_of_mem here, inside⟩
    simpa using listed
  have own_line {own : List A} (inside : line mark (key, own) ∈ (line mark (key, value)).splitOn sep) :
      (key, own) ∈ known := by
    obtain ⟨⟨key', own'⟩, listed, equal⟩ := is_line _ inside
    obtain ⟨rfl, rfl⟩ := line_eq (framed _ listed).unmarked unmarked equal
    exact listed
  by_cases breaks : sep ∈ value
  · obtain ⟨own, more, rfl, first⟩ := List.eq_append_cons_of_mem breaks
    have parts : (line mark (key, own ++ sep :: more)).splitOn sep =
        line mark (key, own) :: more.splitOn sep := by
      have run_on : line mark (key, own ++ sep :: more) = line mark (key, own) ++ sep :: more := by
        simp [line]
      rw [run_on, List.splitOn_append_cons_self_of_not_mem]
      simp [line, clear, first, apart]
    rw [parts] at is_line own_line
    refine ⟨own, own_line List.mem_cons_self, Or.inr ⟨more, ?_, rfl⟩⟩
    obtain ⟨next, following⟩ := List.exists_mem_of_ne_nil _ (List.splitOn_ne_nil sep more)
    obtain ⟨entry, _, rfl⟩ := is_line next (List.mem_cons_of_mem _ following)
    exact mem_of_mem_splitOn following (mark_mem_line entry)
  · refine ⟨value, own_line ?_, Or.inl rfl⟩
    rw [List.splitOn_eq_singleton]
    · exact List.mem_singleton_self _
    · simp [line, clear, breaks, apart]

theorem joined_inj {known entries : List (List A × List A)} (apart : sep ≠ mark)
    (framed : ∀ entry ∈ known, Framed sep mark entry)
    (framed' : ∀ entry ∈ entries, Framed sep mark entry) (some_entry : known ≠ [])
    (some_entry' : entries ≠ []) (same : joined sep mark known = joined sep mark entries) :
    known = entries := by
  have lines := congrArg (List.splitOn sep) same
  rw [splitOn_joined apart framed some_entry, splitOn_joined apart framed' some_entry'] at lines
  clear same some_entry some_entry'
  induction known generalizing entries with
  | nil =>
    cases entries with
    | nil => rfl
    | cons entry rest => cases lines
  | cons entry rest ih =>
    cases entries with
    | nil => cases lines
    | cons entry' rest' =>
      rw [List.map_cons, List.map_cons, List.cons.injEq] at lines
      obtain ⟨keys, values⟩ := line_eq (framed entry List.mem_cons_self).unmarked
        (framed' entry' List.mem_cons_self).unmarked lines.1
      have later := ih (fun other here => framed other (List.mem_cons_of_mem _ here))
        (fun other here => framed' other (List.mem_cons_of_mem _ here)) lines.2
      rw [Prod.ext keys values, later]

end FramedLines
