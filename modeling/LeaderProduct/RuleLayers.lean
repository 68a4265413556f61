import Mathlib.Data.Set.Basic

/-! Layers of rules that allow or deny. -/
namespace RuleLayers

universe u v

structure Layer (ρ : Type u) where
  rules : Set ρ
  flag : ρ → Option Bool
  rank : ρ → Nat

variable {ρ : Type u} {σ : Type v}

section Verdict
variable (L : Layer ρ)

def Layer.Speaks : Prop := ∃ r ∈ L.rules, (L.flag r).isSome = true

def Layer.Counts (r : ρ) : Prop :=
  r ∈ L.rules ∧ (L.flag r).isSome = true ∧
    ∀ o ∈ L.rules, (L.flag o).isSome = true → L.rank r ≤ L.rank o

def Layer.Denies : Prop := ∃ r, L.Counts r ∧ L.flag r = some false

open Classical in
noncomputable def Layer.verdict : Option Bool :=
  if L.Speaks then some (decide (¬ L.Denies)) else none

theorem Layer.verdict_of_silent (silent : ¬ L.Speaks) : L.verdict = none := if_neg silent

theorem Layer.verdict_of_denies (denies : L.Denies) : L.verdict = some false := by
  obtain ⟨r, counts, _⟩ := id denies
  rw [Layer.verdict, if_pos ⟨r, counts.1, counts.2.1⟩]
  simp [denies]

theorem Layer.verdict_of_allows (speaks : L.Speaks) (allows : ¬ L.Denies) :
    L.verdict = some true := by
  rw [Layer.verdict, if_pos speaks]
  simp [allows]

end Verdict

section Cover
variable {L : Layer ρ} {M : Layer σ}

def Layer.Covered (L : Layer ρ) (M : Layer σ) : Prop :=
  ∀ r ∈ L.rules, ∃ s ∈ M.rules, M.flag s = L.flag r ∧ M.rank s = L.rank r

theorem Layer.Covered.speaks (covered : L.Covered M) (speaks : L.Speaks) : M.Speaks := by
  obtain ⟨r, member, explicit⟩ := speaks
  obtain ⟨s, there, flag, _⟩ := covered r member
  exact ⟨s, there, flag ▸ explicit⟩

theorem Layer.Covered.denies (forth : L.Covered M) (back : M.Covered L) (denies : L.Denies) :
    M.Denies := by
  obtain ⟨r, ⟨member, explicit, nearest⟩, deny⟩ := denies
  obtain ⟨s, there, flag, rank⟩ := forth r member
  refine ⟨s, ⟨there, flag ▸ explicit, fun o other spoken => ?_⟩, flag.trans deny⟩
  obtain ⟨p, here, flag_p, rank_p⟩ := back o other
  have near := nearest p here (flag_p ▸ spoken)
  omega

theorem Layer.verdict_congr (forth : L.Covered M) (back : M.Covered L) :
    L.verdict = M.verdict := by
  by_cases speaks : L.Speaks
  · by_cases denies : L.Denies
    · rw [L.verdict_of_denies denies, M.verdict_of_denies (forth.denies back denies)]
    · have allows : ¬ M.Denies := fun other => denies (back.denies forth other)
      rw [L.verdict_of_allows speaks denies, M.verdict_of_allows (forth.speaks speaks) allows]
  · have silent : ¬ M.Speaks := fun other => speaks (back.speaks other)
    rw [L.verdict_of_silent speaks, M.verdict_of_silent silent]

end Cover

section Specific
variable {α : Type u}

def mostSpecific (base : α) : List (Option α) → α
  | [] => base
  | some value :: _ => value
  | none :: rest => mostSpecific base rest

end Specific

end RuleLayers
