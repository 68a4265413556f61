import Mathlib.Data.Finset.Card
import Mathlib.Data.Finset.Prod
import Mathlib.Data.List.Nodup
import Mathlib.Order.Interval.Finset.Nat

/-! Hits that are counted in windows. A window begins with its first hit and lasts for a length of
time at least, or for ever. Windows do not overlap, so a time of that length meets two of them. -/
namespace FixedWindow

section Counting

structure Hit (T : Type) where
  tag : T
  time : Nat
  window : Nat
  count : Nat

structure Counter where
  window : Nat
  count : Nat
  startedAt : Nat
  endsAt : Option Nat

def Counter.live (counter : Counter) (now : Nat) : Bool := counter.endsAt.all (decide <| now < ·)

structure Counted (T : Type) where
  counter : Option Counter
  hits : List (Hit T)

variable {T : Type}

def Counted.empty : Counted T := ⟨none, []⟩

/-- The counter with another hit: the live one, or that of a new window. -/
def Counted.next (s : Counted T) (now : Nat) : Counter :=
  match s.counter with
  | none => ⟨0, 1, now, none⟩
  | some counter =>
    if counter.live now then { counter with count := counter.count + 1 }
    else ⟨counter.window + 1, 1, now, none⟩

def Counted.hit (s : Counted T) (tag : T) (now : Nat) : Counted T :=
  ⟨some (s.next now), ⟨tag, now, (s.next now).window, (s.next now).count⟩ :: s.hits⟩

def Counted.expire (s : Counted T) (now length : Nat) : Counted T :=
  { s with
    counter := s.counter.map fun counter =>
      if counter.live now then { counter with endsAt := some (now + length) } else counter }

end Counting

section Windows
variable {T : Type} {s : Counted T} {now length : Nat}

structure Before (length : Nat) (counter : Counter) (hit : Hit T) : Prop where
  window : hit.window ≤ counter.window
  positive : 0 < hit.count
  count : hit.window = counter.window → hit.count ≤ counter.count
  earlier : hit.window < counter.window → hit.time ≤ counter.startedAt
  apart : hit.window + 2 ≤ counter.window → hit.time + length ≤ counter.startedAt

def Spaced (length : Nat) (later earlier : Hit T) : Prop :=
  (later.window, later.count) ≠ (earlier.window, earlier.count) ∧
    earlier.window ≤ later.window ∧
    (earlier.window + 2 ≤ later.window → earlier.time + length ≤ later.time)

structure Sound (length now : Nat) (s : Counted T) : Prop where
  started : ∀ counter, s.counter = some counter → counter.startedAt ≤ now
  lasting : ∀ counter, s.counter = some counter → ∀ ends, counter.endsAt = some ends →
    counter.startedAt + length ≤ ends
  before : ∀ hit ∈ s.hits, ∃ counter, s.counter = some counter ∧ Before length counter hit
  past : ∀ hit ∈ s.hits, hit.time ≤ now
  spaced : s.hits.Pairwise (Spaced length)

theorem sound_empty (length now : Nat) : Sound length now (Counted.empty : Counted T) :=
  ⟨nofun, nofun, nofun, nofun, .nil⟩

theorem Sound.later (sound : Sound length now s) {time : Nat} (after : now ≤ time) :
    Sound length time s where
  started counter there := (sound.started counter there).trans after
  lasting := sound.lasting
  before := sound.before
  past hit here := (sound.past hit here).trans after
  spaced := sound.spaced

theorem next_after (sound : Sound length now s) (hit : Hit T) (here : hit ∈ s.hits) :
    Before length (s.next now) hit ∧
      (hit.window, hit.count) ≠ ((s.next now).window, (s.next now).count) ∧
      (hit.window + 2 ≤ (s.next now).window → hit.time + length ≤ now) := by
  obtain ⟨counter, there, before⟩ := sound.before hit here
  have started := sound.started counter there
  have past := sound.past hit here
  have window := before.window
  cases live : counter.live now with
  | true =>
    have next : s.next now = { counter with count := counter.count + 1 } := by
      simp [Counted.next, there, live]
    rw [next]
    refine ⟨⟨window, before.positive, ?_, before.earlier, before.apart⟩, ?_, ?_⟩
    · exact fun same => (before.count same).trans (Nat.le_succ _)
    · intro same
      obtain ⟨one, more⟩ := Prod.mk.inj same
      have less := before.count one
      dsimp only at more
      omega
    · exact fun two => (before.apart two).trans started
  | false =>
    have next : s.next now = ⟨counter.window + 1, 1, now, none⟩ := by
      simp [Counted.next, there, live]
    have ended : counter.startedAt + length ≤ now := by
      cases ends : counter.endsAt with
      | none => simp [Counter.live, ends] at live
      | some time =>
        have lasts := sound.lasting counter there time ends
        simp [Counter.live, ends] at live
        omega
    have behind (less : hit.window + 2 ≤ counter.window + 1) : hit.time + length ≤ now := by
      have := before.earlier (by omega)
      omega
    rw [next]
    refine ⟨⟨window.trans (Nat.le_succ _), before.positive, ?_, fun _ => past, behind⟩, ?_, behind⟩
    · intro same
      dsimp only at same
      omega
    · intro same
      obtain ⟨one, _⟩ := Prod.mk.inj same
      dsimp only at one
      omega

theorem next_started (sound : Sound length now s) : (s.next now).startedAt ≤ now ∧
    ∀ ends, (s.next now).endsAt = some ends → (s.next now).startedAt + length ≤ ends := by
  cases there : s.counter with
  | none => simp [Counted.next, there]
  | some counter =>
    have started := sound.started counter there
    have lasts := sound.lasting counter there
    cases live : counter.live now with
    | true => simpa [Counted.next, there, live] using ⟨started, lasts⟩
    | false => simp [Counted.next, there, live]

theorem next_count_pos (s : Counted T) (now : Nat) : 0 < (s.next now).count := by
  unfold Counted.next
  split
  · exact Nat.one_pos
  · split
    · exact Nat.succ_pos _
    · exact Nat.one_pos

theorem sound_hit (sound : Sound length now s) (tag : T) : Sound length now (s.hit tag now) := by
  obtain ⟨started, lasts⟩ := next_started sound
  refine ⟨?_, ?_, ?_, ?_, ?_⟩
  · rintro _ ⟨⟩
    exact started
  · rintro _ ⟨⟩
    exact lasts
  · refine List.forall_mem_cons.mpr ⟨⟨_, rfl, ?_⟩, fun hit here => ⟨_, rfl, ?_⟩⟩
    · refine ⟨Nat.le_refl _, next_count_pos s now, fun _ => Nat.le_refl _, ?_, ?_⟩
      · exact fun less => absurd less (Nat.lt_irrefl _)
      · intro two
        dsimp only at two
        omega
    · exact (next_after sound hit here).1
  · exact List.forall_mem_cons.mpr ⟨Nat.le_refl _, sound.past⟩
  · refine List.pairwise_cons.mpr ⟨fun hit here => ?_, sound.spaced⟩
    obtain ⟨before, other, apart⟩ := next_after sound hit here
    exact ⟨Ne.symm other, before.window, apart⟩

theorem sound_expire (sound : Sound length now s) : Sound length now (s.expire now length) := by
  have changed {counter : Counter} (there : (s.expire now length).counter = some counter) :
      ∃ old, s.counter = some old ∧ counter.window = old.window ∧ counter.count = old.count ∧
        counter.startedAt = old.startedAt ∧
        (counter.endsAt = old.endsAt ∨ counter.endsAt = some (now + length)) := by
    obtain ⟨old, known, rfl⟩ := Option.map_eq_some_iff.mp there
    refine ⟨old, known, ?_⟩
    cases old.live now <;> simp
  refine ⟨?_, ?_, ?_, sound.past, sound.spaced⟩
  · intro counter there
    obtain ⟨old, known, -, -, started, -⟩ := changed there
    rw [started]
    exact sound.started old known
  · intro counter there ends ended
    obtain ⟨old, known, -, -, started, same | set⟩ := changed there
    · rw [started]
      exact sound.lasting old known ends (same ▸ ended)
    · rw [set] at ended
      cases ended
      have := sound.started old known
      omega
  · intro hit here
    obtain ⟨old, known, before⟩ := sound.before hit here
    have set : ∃ counter, (s.expire now length).counter = some counter := by
      simp [Counted.expire, known]
    obtain ⟨counter, there⟩ := set
    obtain ⟨other, same, window, count, started, -⟩ := changed there
    rw [known] at same
    cases same
    exact ⟨counter, there, window ▸ before.window, before.positive, by
      rw [window, count]; exact before.count, by
      rw [window, started]; exact before.earlier, by
      rw [window, started]; exact before.apart⟩

/-- In a time of the length of a window, at most twice as many hits have a number up to the
limit. -/
theorem hits_in_length_le (sound : Sound length now s) (p : Hit T → Bool) (limit start : Nat)
    (limited : ∀ hit ∈ s.hits, p hit = true → hit.count ≤ limit)
    (inside : ∀ hit ∈ s.hits, p hit = true → start ≤ hit.time ∧ hit.time < start + length) :
    s.hits.countP p ≤ 2 * limit := by
  rw [List.countP_eq_length_filter]
  have spaced : (s.hits.filter p).Pairwise (Spaced length) := sound.spaced.filter _
  have numbers : ((s.hits.filter p).map fun hit => (hit.window, hit.count)).Nodup := by
    rw [List.Nodup, List.pairwise_map]
    exact spaced.imp fun apart => apart.1
  rcases List.eq_nil_or_concat (s.hits.filter p) with none | ⟨newer, oldest, all⟩
  · rw [none]
    exact Nat.zero_le _
  · rw [List.concat_eq_append] at all
    have two_windows : ∀ hit ∈ s.hits.filter p,
        hit.window = oldest.window ∨ hit.window = oldest.window + 1 := by
      intro hit here
      have known := List.mem_filter.mp here
      have last := List.mem_filter.mp (show oldest ∈ s.hits.filter p by simp [all])
      rw [all, List.pairwise_append] at spaced
      rw [all] at here
      rcases List.mem_append.mp here with later | same
      · obtain ⟨-, after, apart⟩ := spaced.2.2 hit later oldest (List.mem_singleton_self _)
        have first := inside oldest last.1 last.2
        have second := inside hit known.1 known.2
        by_contra neither
        have far := apart (by omega)
        omega
      · rw [List.mem_singleton.mp same]
        exact .inl rfl
    have numbered : ((s.hits.filter p).map fun hit => (hit.window, hit.count)).toFinset ⊆
        {oldest.window, oldest.window + 1} ×ˢ Finset.Icc 1 limit := by
      intro number here
      rw [List.mem_toFinset] at here
      obtain ⟨hit, member, rfl⟩ := List.mem_map.mp here
      have known := List.mem_filter.mp member
      obtain ⟨_, _, before⟩ := sound.before hit known.1
      have window := two_windows hit member
      have count := limited hit known.1 known.2
      have positive := before.positive
      simp only [Finset.mem_product, Finset.mem_insert, Finset.mem_singleton, Finset.mem_Icc]
      omega
    have size := Finset.card_le_card numbered
    rw [List.toFinset_card_of_nodup numbers, List.length_map, Finset.card_product, Nat.card_Icc,
      Finset.card_pair (Nat.succ_ne_self _).symm] at size
    simpa using size

end Windows

end FixedWindow
