import Mathlib.MeasureTheory.Measure.MeasureSpace

/-! A value that changes at given times. The changes come as a list in any order; what holds at a
time is the value of the latest change so far. -/
namespace LeaderProduct.Timeline

variable {T V : Type} [LinearOrder T]

def Holds (first : V) (changes : List (T × V)) (t : T) (v : V) : Prop :=
  (∃ c ∈ changes, c.1 ≤ t ∧ c.2 = v ∧ ∀ d ∈ changes, d.1 ≤ t → d.1 ≤ c.1) ∨
    (v = first ∧ ∀ c ∈ changes, t < c.1)

def spell (first : V) (changes : List (T × V)) (start stop : T) (v : V) : Set T :=
  {t | start ≤ t ∧ t < stop ∧ Holds first changes t v}

section Order
variable {first : V} {changes : List (T × V)} {start stop t : T} {v : V}

theorem holds_congr {changes' : List (T × V)} (same : ∀ c, c ∈ changes ↔ c ∈ changes') :
    Holds first changes t v ↔ Holds first changes' t v := by
  simp only [Holds, same]

theorem spell_congr {changes' : List (T × V)} (same : ∀ c, c ∈ changes ↔ c ∈ changes') :
    spell first changes start stop v = spell first changes' start stop v := by
  ext t
  simp only [spell, Set.mem_ofPred_eq, holds_congr same]

theorem Holds.set_before (holds : Holds first changes t v) (other : v ≠ first) :
    ∃ c ∈ changes, c.1 ≤ t ∧ c.2 = v := by
  rcases holds with ⟨c, listed, reached, value, -⟩ | ⟨same, -⟩
  · exact ⟨c, listed, reached, value⟩
  · exact absurd same other

theorem holds_nil : Holds first ([] : List (T × V)) t v ↔ v = first := by
  simp [Holds]

theorem spell_nil [DecidableEq V] :
    spell first ([] : List (T × V)) start stop v = if v = first then Set.Ico start stop else ∅ := by
  ext t
  by_cases same : v = first <;> simp [spell, holds_nil, same]

theorem holds_cons_before {c : T × V} (early : t < c.1) (later : ∀ d ∈ changes, c.1 < d.1) :
    Holds first (c :: changes) t v ↔ v = first := by
  have ahead : ∀ d ∈ c :: changes, t < d.1 := by
    intro d listed
    rcases List.mem_cons.mp listed with same | inner
    · rw [same]; exact early
    · exact lt_trans early (later d inner)
  constructor
  · rintro (⟨d, listed, reached, -⟩ | ⟨same, -⟩)
    · exact absurd reached (not_le_of_gt (ahead d listed))
    · exact same
  · exact fun same => .inr ⟨same, ahead⟩

theorem holds_cons_from {c : T × V} (reached : c.1 ≤ t) (later : ∀ d ∈ changes, c.1 < d.1) :
    Holds first (c :: changes) t v ↔ Holds c.2 changes t v := by
  constructor
  · rintro (⟨d, listed, at_d, value, latest⟩ | ⟨-, ahead⟩)
    · rcases List.mem_cons.mp listed with same | inner
      · refine .inr ⟨by rw [← value, same], fun e inner => lt_of_not_ge fun at_e => ?_⟩
        have below := latest e (List.mem_cons_of_mem c inner) at_e
        exact absurd (later e inner) (not_lt_of_ge (same ▸ below))
      · exact .inl ⟨d, inner, at_d, value, fun e listed => latest e (List.mem_cons_of_mem c listed)⟩
    · exact absurd reached (not_le_of_gt (ahead c List.mem_cons_self))
  · rintro (⟨d, inner, at_d, value, latest⟩ | ⟨same, ahead⟩)
    · refine .inl ⟨d, List.mem_cons_of_mem c inner, at_d, value, fun e listed at_e => ?_⟩
      rcases List.mem_cons.mp listed with same | inner'
      · rw [same]; exact le_of_lt (later d inner)
      · exact latest e inner' at_e
    · refine .inl ⟨c, List.mem_cons_self, reached, same.symm, fun e listed at_e => ?_⟩
      rcases List.mem_cons.mp listed with here | inner
      · rw [here]
      · exact absurd at_e (not_le_of_gt (ahead e inner))

theorem holds_cons_overtaken {c : T × V}
    (overtaken : c.1 ≤ t → ∃ d ∈ changes, d.1 ≤ t ∧ c.1 < d.1) :
    Holds first (c :: changes) t v ↔ Holds first changes t v := by
  constructor
  · rintro (⟨d, listed, at_d, value, latest⟩ | ⟨same, ahead⟩)
    · have latest_inner : ∀ e ∈ changes, e.1 ≤ t → e.1 ≤ d.1 :=
        fun e inner => latest e (List.mem_cons_of_mem c inner)
      rcases List.mem_cons.mp listed with here | inner
      · obtain ⟨e, inner, at_e, beyond⟩ := overtaken (here ▸ at_d)
        have below : e.1 ≤ c.1 := here ▸ latest_inner e inner at_e
        exact absurd beyond (not_lt_of_ge below)
      · exact .inl ⟨d, inner, at_d, value, latest_inner⟩
    · exact .inr ⟨same, fun d inner => ahead d (List.mem_cons_of_mem c inner)⟩
  · rintro (⟨d, inner, at_d, value, latest⟩ | ⟨same, ahead⟩)
    · refine .inl ⟨d, List.mem_cons_of_mem c inner, at_d, value, fun e listed at_e => ?_⟩
      rcases List.mem_cons.mp listed with here | inner'
      · obtain ⟨e', inner', at_e', beyond⟩ := overtaken (here ▸ at_e)
        exact here ▸ le_trans (le_of_lt beyond) (latest e' inner' at_e')
      · exact latest e inner' at_e
    · refine .inr ⟨same, fun d listed => ?_⟩
      rcases List.mem_cons.mp listed with here | inner
      · refine lt_of_not_ge fun reached => ?_
        obtain ⟨e, inner, at_e, -⟩ := overtaken (here ▸ reached)
        exact absurd at_e (not_le_of_gt (ahead e inner))
      · exact ahead d inner

theorem holds_cons_latest {c : T × V} (reached : c.1 ≤ t)
    (latest : ∀ d ∈ changes, d.1 ≤ t → d.1 < c.1) :
    Holds first (c :: changes) t v ↔ v = c.2 := by
  constructor
  · rintro (⟨d, listed, at_d, value, last⟩ | ⟨-, ahead⟩)
    · rcases List.mem_cons.mp listed with here | inner
      · rw [← value, here]
      · have below := last c List.mem_cons_self reached
        exact absurd (latest d inner at_d) (not_lt_of_ge below)
    · exact absurd reached (not_le_of_gt (ahead c List.mem_cons_self))
  · intro value
    refine .inl ⟨c, List.mem_cons_self, reached, value.symm, fun d listed at_d => ?_⟩
    rcases List.mem_cons.mp listed with here | inner
    · rw [here]
    · exact le_of_lt (latest d inner at_d)

theorem holds_still {s : T} (ordered : s ≤ t) (still : ∀ d ∈ changes, d.1 ≤ t → d.1 ≤ s) :
    Holds first changes t v ↔ Holds first changes s v := by
  have same_reach : ∀ d ∈ changes, d.1 ≤ t ↔ d.1 ≤ s := fun d listed =>
    ⟨still d listed, fun at_d => le_trans at_d ordered⟩
  constructor
  · rintro (⟨d, listed, at_d, value, latest⟩ | ⟨same, ahead⟩)
    · exact .inl ⟨d, listed, still d listed at_d, value,
        fun e inner at_e => latest e inner ((same_reach e inner).mpr at_e)⟩
    · exact .inr ⟨same, fun d listed => lt_of_le_of_lt ordered (ahead d listed)⟩
  · rintro (⟨d, listed, at_d, value, latest⟩ | ⟨same, ahead⟩)
    · exact .inl ⟨d, listed, le_trans at_d ordered, value,
        fun e inner at_e => latest e inner (still e inner at_e)⟩
    · refine .inr ⟨same, fun d listed => lt_of_not_ge fun reached => ?_⟩
      exact absurd (still d listed reached) (not_le_of_gt (ahead d listed))

theorem Holds.unique {w : V} (distinct : (changes.map Prod.fst).Nodup)
    (holds : Holds first changes t v) (holds' : Holds first changes t w) : v = w := by
  rcases holds with ⟨c, listed, reached, value, latest⟩ | ⟨same, ahead⟩
  · rcases holds' with ⟨d, listed', reached', value', latest'⟩ | ⟨-, ahead⟩
    · have one_time : c.1 = d.1 :=
        le_antisymm (latest' c listed reached) (latest d listed' reached')
      have one : c = d := List.inj_on_of_nodup_map distinct listed listed' one_time
      rw [← value, ← value', one]
    · exact absurd reached (not_le_of_gt (ahead c listed))
  · rcases holds' with ⟨d, listed', reached', -⟩ | ⟨same', -⟩
    · exact absurd reached' (not_le_of_gt (ahead d listed'))
    · rw [same, same']

theorem holds_insert_repeat {c : T × V} (distinct : ((c :: changes).map Prod.fst).Nodup)
    (repeats : Holds first changes c.1 c.2) :
    Holds first (c :: changes) t v ↔ Holds first changes t v := by
  obtain ⟨fresh, distinct⟩ := List.nodup_cons.mp distinct
  by_cases overtaken : c.1 ≤ t → ∃ d ∈ changes, d.1 ≤ t ∧ c.1 < d.1
  · exact holds_cons_overtaken overtaken
  · push Not at overtaken
    obtain ⟨reached, latest⟩ := overtaken
    have before : ∀ d ∈ changes, d.1 ≤ t → d.1 < c.1 := by
      intro d inner at_d
      refine lt_of_le_of_ne (latest d inner at_d) fun same => ?_
      exact fresh (same ▸ List.mem_map_of_mem inner)
    rw [holds_cons_latest reached before, holds_still reached latest]
    constructor
    · intro value
      rw [value]; exact repeats
    · exact fun holds => holds.unique distinct repeats

end Order

section Length
variable [MeasurableSpace T] (μ : MeasureTheory.Measure T)
variable {first : V} {changes : List (T × V)} {start stop : T} {v : V}

theorem length_spell_nil [DecidableEq V] :
    μ (spell first [] start stop v) = if v = first then μ (Set.Ico start stop) else 0 := by
  rw [spell_nil]
  split
  · rfl
  · exact MeasureTheory.measure_empty

theorem length_spell_cons [DecidableEq V] (measurable : ∀ a b : T, MeasurableSet (Set.Ico a b))
    {c : T × V} (later : ∀ d ∈ changes, c.1 < d.1) (started : start ≤ c.1) (ends : c.1 ≤ stop) :
    μ (spell first (c :: changes) start stop v) =
      (if v = first then μ (Set.Ico start c.1) else 0) + μ (spell c.2 changes c.1 stop v) := by
  have cut : spell first (c :: changes) start stop v =
      spell first [] start c.1 v ∪ spell c.2 changes c.1 stop v := by
    ext t
    rcases lt_or_ge t c.1 with early | reached
    · have before := lt_of_lt_of_le early ends
      simp [spell, holds_cons_before early later, holds_nil, early, before, not_le_of_gt early]
    · have after := le_trans started reached
      simp [spell, holds_cons_from reached later, reached, after, not_lt_of_ge reached]
  have apart : Disjoint (spell first [] start c.1 v) (spell c.2 changes c.1 stop v) :=
    Set.disjoint_left.mpr fun t here there => absurd here.2.1 (not_lt_of_ge there.1)
  have piece : MeasurableSet (spell first [] start c.1 v) := by
    rw [spell_nil]
    split
    · exact measurable start c.1
    · exact MeasurableSet.empty
  rw [cut, MeasureTheory.measure_union' apart piece, length_spell_nil]

end Length
end LeaderProduct.Timeline
