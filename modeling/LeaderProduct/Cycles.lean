import Mathlib.Data.List.Perm.Subperm
import Mathlib.Logic.Relation

/-! Cycles of a relation under which nothing has two successors. -/
namespace Cycles

variable {α : Type} {R S : α → α → Prop}

def Functional (R : α → α → Prop) : Prop := ∀ a b c, R a b → R a c → b = c

def OnCycle (R : α → α → Prop) (a : α) : Prop := Relation.TransGen R a a

def Acyclic (R : α → α → Prop) : Prop := ∀ a, ¬OnCycle R a

theorem OnCycle.exists_next {a : α} (on : OnCycle R a) : ∃ b, R a b ∧ Relation.ReflTransGen R b a :=
  Relation.TransGen.head'_iff.mp on

theorem OnCycle.next (functional : Functional R) {a b : α} (on : OnCycle R a) (step : R a b) :
    OnCycle R b := by
  obtain ⟨c, first, back⟩ := on.exists_next
  have same := functional a b c step first
  subst same
  exact Relation.TransGen.tail' back step

/-- What every step on a cycle keeps holds all around it, and so do the steps that it allows. -/
theorem OnCycle.within (functional : Functional R) {P : α → Prop}
    (closed : ∀ a b, P a → OnCycle R a → R a b → P b ∧ S a b) {a : α} (on : OnCycle R a)
    (start : P a) : OnCycle S a := by
  have walk {b : α} (path : Relation.ReflTransGen R a b) :
      P b ∧ OnCycle R b ∧ Relation.ReflTransGen S a b := by
    induction path with
    | refl => exact ⟨start, on, .refl⟩
    | tail _ step ih =>
      obtain ⟨here, around, so_far⟩ := ih
      obtain ⟨there, allowed⟩ := closed _ _ here around step
      exact ⟨there, around.next functional step, so_far.tail allowed⟩
  obtain ⟨b, to_last, last⟩ := Relation.TransGen.tail'_iff.mp on
  obtain ⟨here, around, so_far⟩ := walk to_last
  exact Relation.TransGen.tail' so_far (closed _ _ here around last).2

theorem Acyclic.mono (acyclic : Acyclic R) (less : ∀ a b, S a b → R a b) : Acyclic S := by
  intro a on
  exact acyclic a (Relation.TransGen.mono less a a on)

section Walk
variable {κ : Type} (parent : κ → Option κ)

def Next (child above : κ) : Prop := parent child = some above

def ComesBack (target key : κ) : Prop :=
  Relation.ReflTransGen (Next parent) key target ∨
    ∃ a, Relation.ReflTransGen (Next parent) key a ∧ OnCycle (Next parent) a

/-- The way up from a key, until it ends or comes to the target or a second time to a key. `none`
is a way that the rounds do not suffice for. -/
def walkUp [DecidableEq κ] (target : κ) : Nat → Option κ → List κ → Option Bool
  | 0, _, _ => none
  | _ + 1, none, _ => some false
  | rounds + 1, some key, visited =>
    if key = target ∨ key ∈ visited then some true
    else walkUp target rounds (parent key) (key :: visited)

variable {parent} {target : κ}

theorem next_functional : Functional (Next parent) := by
  intro a b c first second
  exact Option.some.inj (first.symm.trans second)

variable [DecidableEq κ]

theorem walkUp_true {rounds : Nat} {current : Option κ} {visited : List κ}
    (behind : ∀ key ∈ visited, ∀ first, current = some first →
      Relation.TransGen (Next parent) key first)
    (found : walkUp parent target rounds current visited = some true) :
    ∃ first, current = some first ∧ ComesBack parent target first := by
  induction rounds generalizing current visited with
  | zero => cases found
  | succ rounds ih =>
    cases current with
    | none => cases found
    | some key =>
      refine ⟨key, rfl, ?_⟩
      rw [walkUp] at found
      split at found
      · next back =>
        rcases back with rfl | again
        · exact .inl .refl
        · exact .inr ⟨key, .refl, behind key again key rfl⟩
      · have later : ∀ old ∈ key :: visited, ∀ first, parent key = some first →
            Relation.TransGen (Next parent) old first := by
          intro old member first next
          rcases List.mem_cons.mp member with rfl | earlier
          · exact .single next
          · exact .tail (behind old earlier key rfl) next
        obtain ⟨first, next, reached | ⟨a, reached, around⟩⟩ := ih later found
        · exact .inl (.head next reached)
        · exact .inr ⟨a, .head next reached, around⟩

theorem walkUp_false {rounds : Nat} {current : Option κ} {visited : List κ}
    (ended : walkUp parent target rounds current visited = some false) :
    ∀ first, current = some first → ¬ ComesBack parent target first := by
  induction rounds generalizing current visited with
  | zero => cases ended
  | succ rounds ih =>
    rintro key rfl
    rw [walkUp] at ended
    split at ended
    · cases ended
    · next new =>
      have later := ih ended
      rintro (reached | ⟨a, reached, around⟩)
      · rcases Relation.ReflTransGen.cases_head reached with rfl | ⟨first, next, on⟩
        · exact new (.inl rfl)
        · exact later first next (.inl on)
      · rcases Relation.ReflTransGen.cases_head reached with rfl | ⟨first, next, on⟩
        · obtain ⟨first, next, _⟩ := around.exists_next
          exact later first next (.inr ⟨first, .refl, around.next next_functional next⟩)
        · exact later first next (.inr ⟨a, on, around⟩)

theorem walkUp_iff {rounds : Nat} {current : Option κ} {answer : Bool}
    (walked : walkUp parent target rounds current [] = some answer) :
    answer = true ↔ ∃ first, current = some first ∧ ComesBack parent target first := by
  cases answer with
  | true =>
    refine iff_of_true rfl (walkUp_true ?_ walked)
    exact fun _ none => absurd none List.not_mem_nil
  | false =>
    refine iff_of_false Bool.false_ne_true ?_
    rintro ⟨first, here, back⟩
    exact walkUp_false walked first here back

/-- Only finitely many keys have a parent: each round but the last two visits another of them. -/
theorem walkUp_ends {rows : List κ} (rooted : ∀ key, (parent key).isSome = true → key ∈ rows)
    {rounds : Nat} {current : Option κ} {visited : List κ} (distinct : visited.Nodup)
    (known : current.isSome = true → visited ⊆ rows)
    (enough : rows.length + 2 ≤ rounds + visited.length ∧ 0 < rounds) :
    (walkUp parent target rounds current visited).isSome = true := by
  induction rounds generalizing current visited with
  | zero => exact absurd enough.2 (Nat.lt_irrefl 0)
  | succ rounds ih =>
    cases current with
    | none => rfl
    | some key =>
      rw [walkUp]
      split
      · rfl
      · next new =>
        rw [not_or] at new
        have fits := (List.subperm_of_subset distinct (known rfl)).length_le
        have apart : (key :: visited).Nodup := List.nodup_cons.mpr ⟨new.2, distinct⟩
        have longer : rows.length + 2 ≤ rounds + (key :: visited).length ∧ 0 < rounds := by
          rw [List.length_cons]
          omega
        refine ih apart (fun goes => ?_) longer
        exact List.cons_subset.mpr ⟨rooted key goes, known rfl⟩

end Walk

section Redirect
open Relation
variable {x p : α}

def Redirect (R : α → α → Prop) (x p : α) (a b : α) : Prop := a = x ∧ b = p ∨ a ≠ x ∧ R a b

theorem of_redirect {a b : α} (path : ReflTransGen (Redirect R x p) a b) :
    ReflTransGen R a b ∨ ReflTransGen R a x ∧ ReflTransGen R p b := by
  induction path with
  | refl => exact .inl .refl
  | @tail b c _ step ih =>
    rcases step with ⟨rfl, rfl⟩ | ⟨_, step⟩
    · rcases ih with reached | ⟨reached, _⟩
      · exact .inr ⟨reached, .refl⟩
      · exact .inr ⟨reached, .refl⟩
    · rcases ih with reached | ⟨reached, onward⟩
      · exact .inl (reached.tail step)
      · exact .inr ⟨reached, onward.tail step⟩

theorem redirect_of_path {a b : α} (path : ReflTransGen R a b) :
    ReflTransGen (Redirect R x p) a b ∨ ReflTransGen (Redirect R x p) a x := by
  induction path with
  | refl => exact .inl .refl
  | @tail b c _ step ih =>
    rcases ih with same | through
    · by_cases here : b = x
      · exact .inr (here ▸ same)
      · exact .inl (same.tail (.inr ⟨here, step⟩))
    · exact .inr through

theorem onCycle_redirect_iff : OnCycle (Redirect R x p) x ↔ ReflTransGen R p x := by
  constructor
  · intro on
    obtain ⟨b, step, back⟩ := on.exists_next
    rcases step with ⟨_, rfl⟩ | ⟨other, _⟩
    · rcases of_redirect back with reached | ⟨reached, _⟩
      · exact reached
      · exact reached
    · exact absurd rfl other
  · intro reached
    have back : ReflTransGen (Redirect R x p) p x := by
      rcases redirect_of_path reached with same | through
      · exact same
      · exact through
    exact TransGen.head' (.inl ⟨rfl, rfl⟩) back

theorem acyclic_redirect_iff (acyclic : Acyclic R) :
    Acyclic (Redirect R x p) ↔ ¬ ReflTransGen R p x := by
  constructor
  · intro still reached
    exact still x (onCycle_redirect_iff.mpr reached)
  · intro apart a on
    obtain ⟨b, step, back⟩ := on.exists_next
    by_cases here : a = x
    · subst here
      exact apart (onCycle_redirect_iff.mp on)
    · rcases step with ⟨same, _⟩ | ⟨_, step⟩
      · exact here same
      · rcases of_redirect back with reached | ⟨onward, reached⟩
        · exact acyclic a (TransGen.head' step reached)
        · exact apart ((reached.tail step).trans onward)

/-- The way from `x` comes to a cycle exactly when the one from its new successor came to `x` or
to a cycle. -/
theorem redirect_reaches_cycle_iff :
    (∃ a, ReflTransGen (Redirect R x p) x a ∧ OnCycle (Redirect R x p) a) ↔
      ReflTransGen R p x ∨ ∃ a, ReflTransGen R p a ∧ OnCycle R a := by
  constructor
  · rintro ⟨a, path, on⟩
    by_cases reached : ReflTransGen R p x
    · exact .inl reached
    · have other : a ≠ x := by
        rintro rfl
        exact reached (onCycle_redirect_iff.mp on)
      rcases ReflTransGen.cases_head path with same | ⟨first, step, onward⟩
      · exact absurd same.symm other
      · rcases step with ⟨_, rfl⟩ | ⟨away, _⟩
        · have there : ReflTransGen R first a := by
            rcases of_redirect onward with there | ⟨back, _⟩
            · exact there
            · exact absurd back reached
          obtain ⟨b, step, back⟩ := on.exists_next
          rcases step with ⟨same, _⟩ | ⟨_, step⟩
          · exact absurd same other
          · rcases of_redirect back with around | ⟨through, _⟩
            · exact .inr ⟨a, there, TransGen.head' step around⟩
            · exact absurd ((there.tail step).trans through) reached
        · exact absurd rfl away
  · intro comes
    by_cases reached : ReflTransGen R p x
    · exact ⟨x, .refl, onCycle_redirect_iff.mpr reached⟩
    · obtain ⟨a, there, on⟩ := comes.resolve_left reached
      have kept {b : α} (path : ReflTransGen R p b) : ReflTransGen (Redirect R x p) p b := by
        rcases redirect_of_path path with same | through
        · exact same
        · rcases of_redirect through with back | ⟨back, _⟩
          · exact absurd back reached
          · exact absurd back reached
      have around {b : α} (path : TransGen R a b) : TransGen (Redirect R x p) a b := by
        have off (c : α) (path : ReflTransGen R a c) : c ≠ x := by
          rintro rfl
          exact reached (there.trans path)
        induction path with
        | single step => exact .single (.inr ⟨off a .refl, step⟩)
        | @tail c d path step ih => exact ih.tail (.inr ⟨off c path.to_reflTransGen, step⟩)
      exact ⟨a, .head (.inl ⟨rfl, rfl⟩) (kept there), around on⟩

end Redirect

end Cycles
