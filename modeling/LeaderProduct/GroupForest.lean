import LeaderProduct.Cycles
import LeaderProduct.StagedPromotion

/-! The groups of a promotion, on a database that answers every call: the rounds of the loop, the
groups that they promote and the forest that is left. -/
namespace LeaderProduct
open Cycles

structure GroupBatch where
  rows : List (StagedRow NomenclatureItem)
  distinct : (rows.map (·.id)).Nodup
  keyed : (rows.map (·.payload.guid)).Nodup

section Forest
variable (batch : GroupBatch) (t : Tables)

def parentOf (guid : String) : Option String := (t.groups guid).bind (·.parent)

def IsLive (guid : String) : Prop := (t.groups guid).isSome = true

def ParentRel (child parent : String) : Prop := parentOf t child = some parent

structure IsForest : Prop where
  parents_live : ∀ child parent, ParentRel t child parent → IsLive t parent
  acyclic : Acyclic (ParentRel t)

def stagedParent (row : StagedRow NomenclatureItem) : Option String := present row.payload.parentGuid

inductive Grounded : StagedRow NomenclatureItem → Prop
  | root {row} : stagedParent row = none → Grounded row
  | live {row parent} : stagedParent row = some parent → IsLive t parent → Grounded row
  | staged {row parent} (above) : stagedParent row = some parent → above ∈ batch.rows →
      above.payload.guid = parent → Grounded above → Grounded row

/-- The parent of a group once the grounded ones have their staged parents. -/
def Above (child parent : String) : Prop :=
  (∃ row ∈ batch.rows, row.payload.guid = child ∧ Grounded batch t row ∧
      stagedParent row = some parent) ∨
  (∀ row ∈ batch.rows, row.payload.guid = child → ¬Grounded batch t row) ∧ ParentRel t child parent

/-- No group that exists already is staged below itself. -/
def NoneBelowItself : Prop :=
  ∀ row ∈ batch.rows, Grounded batch t row → IsLive t row.payload.guid →
    ¬OnCycle (Above batch t) row.payload.guid

variable {batch t}

theorem GroupBatch.row_eq {row other : StagedRow NomenclatureItem} (at_row : row ∈ batch.rows)
    (at_other : other ∈ batch.rows) (same : row.payload.guid = other.payload.guid) : row = other :=
  List.inj_on_of_nodup_map batch.keyed at_row at_other same

theorem above_functional : Functional (Above batch t) := by
  rintro a b c (⟨row, at_row, guid, grounded, first⟩ | ⟨unstaged, first⟩)
    (⟨other, at_other, guid', grounded', second⟩ | ⟨unstaged', second⟩)
  · rw [batch.row_eq at_row at_other (guid.trans guid'.symm)] at first
    exact Option.some.inj (first.symm.trans second)
  · exact absurd grounded (unstaged' row at_row guid)
  · exact absurd grounded' (unstaged other at_other guid')
  · exact Option.some.inj (first.symm.trans second)

theorem isLive_of_parent {child parent : String} (has : ParentRel t child parent) :
    IsLive t child := by
  obtain ⟨row, stored, _⟩ := Option.bind_eq_some_iff.mp has
  exact Option.isSome_iff_exists.mpr ⟨row, stored⟩

/-- A cycle of the new parents goes through an existing group that is staged. -/
theorem cycle_has_staged (forest : IsForest t) {guid : String} (on : OnCycle (Above batch t) guid) :
    ∃ row ∈ batch.rows, Grounded batch t row ∧ IsLive t row.payload.guid ∧
      OnCycle (Above batch t) row.payload.guid := by
  by_contra none_staged
  push Not at none_staged
  -- No existing group is on a cycle: its way up would stay among the existing parents.
  have unlive {guid : String} (on : OnCycle (Above batch t) guid) : ¬IsLive t guid := fun live =>
    forest.acyclic guid (on.within above_functional (fun a b here around step => by
      rcases step with ⟨row, at_row, same, grounded, _⟩ | ⟨_, parent⟩
      · subst same
        exact absurd around (none_staged row at_row grounded here)
      · exact ⟨forest.parents_live a b parent, parent⟩) live)
  -- A new one is grounded, and so is the group above it, up to one that cannot be on the cycle.
  have ungrounded {row : StagedRow NomenclatureItem} (grounded : Grounded batch t row) :
      row ∈ batch.rows → ¬OnCycle (Above batch t) row.payload.guid := by
    induction grounded with
    | @root row top =>
      intro at_row on
      obtain ⟨parent, step, _⟩ := on.exists_next
      rcases step with ⟨other, at_other, same, _, has⟩ | ⟨unstaged, _⟩
      · rw [batch.row_eq at_other at_row same, top] at has
        cases has
      · exact unstaged row at_row rfl (.root top)
    | @live row parent has live =>
      intro at_row on
      exact unlive (on.next above_functional (.inl ⟨row, at_row, rfl, .live has live, has⟩)) live
    | @staged row parent above has at_above same grounded ih =>
      intro at_row on
      refine ih at_above ?_
      rw [same]
      exact on.next above_functional
        (.inl ⟨row, at_row, rfl, .staged above has at_above same grounded, has⟩)
  obtain ⟨parent, step, _⟩ := on.exists_next
  rcases step with ⟨row, at_row, same, grounded, _⟩ | ⟨_, has⟩
  · subst same
    exact ungrounded grounded at_row on
  · exact unlive on (isLive_of_parent has)

theorem above_acyclic_iff (forest : IsForest t) :
    Acyclic (Above batch t) ↔ NoneBelowItself batch t := by
  refine ⟨fun acyclic row _ _ _ => acyclic _, fun none_below guid on => ?_⟩
  obtain ⟨row, at_row, grounded, live, around⟩ := cycle_has_staged forest on
  exact none_below row at_row grounded live around

end Forest

end LeaderProduct
