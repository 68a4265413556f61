import LeaderProduct.KeyedTotals
import LeaderProduct.TiedPages

/-! Stores that answer a query with its rows in the order that it asks for, and leave the ties of
that order as they like. -/
namespace TiedPages
open RowTable LeaderProduct.RankedWindow

section Views
variable {α β : Type} {items items' : List α} {cap : Nat} {limits : Nat → Nat}

theorem seamless_perm {r : Ranking α} (same : items.Perm items') :
    Seamless r items cap limits ↔ Seamless r items' cap limits := by
  have one {l l' : List α} (same : l.Perm l') (seamless : Seamless r l cap limits) :
      Seamless r l' cap limits := by
    refine ⟨?_, ?_, fun k split => seamless.whole k ((splits_perm same).mpr split)⟩
    · exact same.length_eq ▸ seamless.ends
    · exact same.length_eq ▸ seamless.near
  exact ⟨one same, one same.symm⟩

theorem seamless_congr {r r' : Ranking α} (same : ∀ a ∈ items, ∀ b ∈ items, r.le a b = r'.le a b) :
    Seamless r items cap limits ↔ Seamless r' items cap limits := by
  have counts {x : α} (here : x ∈ items) :
      before r items x = before r' items x ∧ upTo r items x = upTo r' items x := by
    constructor
    · exact List.countP_congr fun y there => by rw [same x here y there]
    · exact List.countP_congr fun y there => by rw [same y there x here]
  have splits (n : Nat) : Splits r items n ↔ Splits r' items n := by
    constructor
    · rintro ⟨x, here, inside⟩
      rw [(counts here).1, (counts here).2] at inside
      exact ⟨x, here, inside⟩
    · rintro ⟨x, here, inside⟩
      rw [← (counts here).1, ← (counts here).2] at inside
      exact ⟨x, here, inside⟩
  constructor
  · intro seamless
    exact ⟨seamless.ends, seamless.near, fun k split => seamless.whole k ((splits _).mpr split)⟩
  · intro seamless
    exact ⟨seamless.ends, seamless.near, fun k split => seamless.whole k ((splits _).mp split)⟩

theorem splits_map (r : Ranking β) (f : α → β) (n : Nat) :
    Splits r (items.map f) n ↔ Splits (r.on f) items n := by
  simp only [Splits, before, upTo, List.countP_map, List.mem_map, exists_exists_and_eq_and]
  rfl

theorem seamless_map (r : Ranking β) (f : α → β) :
    Seamless r (items.map f) cap limits ↔ Seamless (r.on f) items cap limits := by
  constructor
  · intro seamless
    exact ⟨by simpa using seamless.ends, by simpa using seamless.near,
      fun k split => seamless.whole k ((splits_map r f _).mpr split)⟩
  · intro seamless
    exact ⟨by simpa using seamless.ends, by simpa using seamless.near,
      fun k split => seamless.whole k ((splits_map r f _).mp split)⟩

theorem Arranges.map {ι : Type} {r : Ranking β} {shown : ι → List α} (f : α → β)
    (h : Arranges (r.on f) items shown) :
    Arranges r (items.map f) fun i => (shown i).map f := by
  refine ⟨fun i => (h.perm i).map f, fun i => List.pairwise_map.mpr (h.sorted i), ?_, ?_⟩
  · intro _ image
    obtain ⟨x, listed, rfl⟩ := List.mem_map.mp image
    obtain ⟨i, leads⟩ := h.first x listed
    refine ⟨i, fun _ other le tied different => ?_⟩
    obtain ⟨y, there, rfl⟩ := List.mem_map.mp other
    exact (leads y there le tied (fun same => different (congrArg f same))).map f
  · intro _ image
    obtain ⟨x, listed, rfl⟩ := List.mem_map.mp image
    obtain ⟨i, ends⟩ := h.last x listed
    refine ⟨i, fun _ other le tied different => ?_⟩
    obtain ⟨y, there, rfl⟩ := List.mem_map.mp other
    exact (ends y there le tied (fun same => different (congrArg f same))).map f

end Views

section Stores
variable {α : Type} {rows : List α}

structure Store (rows : List α) where
  findMany : (α → Bool) → Ranking α → List α
  perm : ∀ keeps order, (findMany keeps order).Perm (rows.filter keeps)
  sorted : ∀ keeps order, (findMany keeps order).Pairwise fun a b => order.le a b = true

def Store.lying (base : List α) (same : base.Perm rows) : Store rows where
  findMany keeps order := sort order (base.filter keeps)
  perm keeps order := (perm_sort order _).trans (same.filter keeps)
  sorted _ order := sorted_sort order _

instance : Nonempty (Store rows) := ⟨.lying rows (List.Perm.refl _)⟩

theorem arranges_findMany [DecidableEq α] (keeps : α → Bool) (order : Ranking α) :
    Arranges order (rows.filter keeps) fun store : Store rows => store.findMany keeps order := by
  refine ⟨fun store => store.perm keeps order, fun store => store.sorted keeps order, ?_, ?_⟩
  · intro x listed
    obtain ⟨here, kept⟩ := List.mem_filter.mp listed
    refine ⟨.lying (x :: rows.erase x) (List.perm_cons_erase here).symm, ?_⟩
    intro y other _ tied different
    obtain ⟨there, kept'⟩ := List.mem_filter.mp other
    apply sublist_sort tied
    rw [List.filter_cons_of_pos kept]
    exact (List.singleton_sublist.mpr (List.mem_filter.mpr
      ⟨(List.mem_erase_of_ne different).mpr there, kept'⟩)).cons_cons x
  · intro x listed
    obtain ⟨here, kept⟩ := List.mem_filter.mp listed
    refine ⟨.lying (rows.erase x ++ [x])
      ((List.perm_append_singleton x _).trans (List.perm_cons_erase here).symm), ?_⟩
    intro y other le _ different
    obtain ⟨there, kept'⟩ := List.mem_filter.mp other
    apply sublist_sort le
    rw [List.filter_append]
    have last : [x].Sublist ([x].filter keeps) := by
      rw [List.filter_cons_of_pos kept]
      exact (List.nil_sublist _).cons_cons x
    exact (List.singleton_sublist.mpr (List.mem_filter.mpr
      ⟨(List.mem_erase_of_ne different).mpr there, kept'⟩)).append last

end Stores

section Groups
variable {α G K : Type} [DecidableEq K] {key : G → K} {rowKey : α → K} {fresh : α → G}
  {add : G → α → G} {rows : List α} {keeps : α → Bool} {order : Ranking α}

theorem gather_ordered (opens : ∀ row, key (fresh row) = rowKey row)
    (stays : ∀ group row, key (add group row) = key group) {list kept : List α}
    (same : list.Perm kept) (sorted : list.Pairwise fun a b => order.le a b = true) :
    (gather key rowKey fresh add list).Pairwise fun group group' =>
      ((order.ofGroups fun k => kept.filter fun row => decide (rowKey row = k)).on key).le
        group group' = true := by
  rw [List.pairwise_iff_forall_sublist]
  intro group group' before
  obtain ⟨row, listed, own, leads⟩ := leads_of_gather opens stays list (before.map key)
  simp only [Ranking.on, Ranking.ofGroups, List.all_eq_true, List.any_eq_true]
  intro other there
  obtain ⟨there, own'⟩ := List.mem_filter.mp there
  rw [decide_eq_true_iff] at own'
  refine ⟨row, List.mem_filter.mpr ⟨same.mem_iff.mp listed, decide_eq_true own⟩, ?_⟩
  exact List.pairwise_iff_forall_sublist.mp sorted
    (leads other (same.mem_iff.mpr there) own')

theorem gather_sublist (opens : ∀ row, key (fresh row) = rowKey row)
    (stays : ∀ group row, key (add group row) = key group) {front back kept : List α}
    (unique : (front ++ back).Nodup) (same : (front ++ back).Perm kept) {x y : G}
    (x_listed : x ∈ gather key rowKey fresh add (sort order (front ++ back)))
    (y_listed : y ∈ gather key rowKey fresh add (sort order (front ++ back)))
    (different : x ≠ y) (x_front : ∀ row ∈ front ++ back, rowKey row = key x → row ∈ front)
    (y_back : ∀ row ∈ front ++ back, rowKey row = key y → row ∈ back)
    (tied : ((order.ofGroups fun k => kept.filter fun row => decide (rowKey row = k)).on key).le
      x y = true) :
    [x, y].Sublist (gather key rowKey fresh add (sort order (front ++ back))) := by
  rcases one_order x_listed y_listed different with ahead | behind
  · exact ahead
  · exfalso
    obtain ⟨row, listed, own, leads⟩ := leads_of_gather opens stays _ (behind.map key)
    have here : row ∈ front ++ back := (perm_sort order _).mem_iff.mp listed
    simp only [Ranking.on, Ranking.ofGroups, List.all_eq_true, List.any_eq_true] at tied
    obtain ⟨other, there, le⟩ :=
      tied row (List.mem_filter.mpr ⟨same.mem_iff.mp here, decide_eq_true own⟩)
    obtain ⟨there, own'⟩ := List.mem_filter.mp there
    rw [decide_eq_true_iff] at own'
    have there' : other ∈ front ++ back := same.mem_iff.mpr there
    have before := leads other ((perm_sort order _).mem_iff.mpr there') own'
    have lies : [other, row].Sublist (front ++ back) :=
      (List.singleton_sublist.mpr (x_front other there' own')).append
        (List.singleton_sublist.mpr (y_back row here own))
    exact not_both_orders unique lies (sublist_of_sort unique le before)

structure Gathers (key : G → K) (rowKey : α → K) (fresh : α → G) (add : G → α → G)
    (rows : List α) : Prop where
  opens : ∀ row, key (fresh row) = rowKey row
  stays : ∀ group row, key (add group row) = key group
  alike : ∀ a ∈ rows, ∀ b ∈ rows, rowKey a = rowKey b → fresh a = fresh b
  join : ∀ group a b, add (add group a) b = add (add group b) a

variable (h : Gathers key rowKey fresh add rows)
include h

theorem Gathers.perm (store : Store rows) (keeps : α → Bool) (order : Ranking α) :
    (gather key rowKey fresh add (store.findMany keeps order)).Perm
      (gather key rowKey fresh add (rows.filter keeps)) := by
  have same := store.perm keeps order
  apply gather_perm h.opens h.stays same _ h.join
  intro a here b there
  exact h.alike a (List.mem_of_mem_filter (same.mem_iff.mp here)) b
    (List.mem_of_mem_filter (same.mem_iff.mp there))

def groupRanking (key : G → K) (rowKey : α → K) (kept : List α) (order : Ranking α)
    (r : Ranking G) : Ranking G :=
  r.lex ((order.ofGroups fun k => kept.filter fun row => decide (rowKey row = k)).on key)

theorem Gathers.lying_sublist (unique : rows.Nodup) {front back : List α}
    (same : (front ++ back).Perm rows) {r : Ranking G} {x y : G}
    (x_listed : x ∈ gather key rowKey fresh add (rows.filter keeps))
    (y_listed : y ∈ gather key rowKey fresh add (rows.filter keeps)) (different : x ≠ y)
    (x_front : ∀ row ∈ back, rowKey row ≠ key x) (y_back : ∀ row ∈ front, rowKey row ≠ key y)
    (le : (groupRanking key rowKey (rows.filter keeps) order r).le x y = true)
    (tied : (groupRanking key rowKey (rows.filter keeps) order r).le y x = true) :
    [x, y].Sublist (sort r (gather key rowKey fresh add
      ((Store.lying (front ++ back) same).findMany keeps order))) := by
  rw [groupRanking, Ranking.lex_le] at le tied
  apply sublist_sort le.1
  have groups := h.perm (Store.lying (front ++ back) same) keeps order
  rw [← groups.mem_iff] at x_listed y_listed
  simp only [Store.lying, List.filter_append] at x_listed y_listed ⊢
  have kept_same := same.filter keeps
  have kept_unique := (same.nodup_iff.mpr unique).filter keeps
  rw [List.filter_append] at kept_same kept_unique
  apply gather_sublist h.opens h.stays kept_unique kept_same x_listed y_listed different _ _
    (le.2 tied.1)
  · intro row listed own
    refine (List.mem_append.mp listed).resolve_right fun there => ?_
    exact x_front row (List.mem_of_mem_filter there) own
  · intro row listed own
    refine (List.mem_append.mp listed).resolve_left fun there => ?_
    exact y_back row (List.mem_of_mem_filter there) own

theorem Gathers.arranges (unique : rows.Nodup) (keeps : α → Bool) (order : Ranking α)
    (r : Ranking G) :
    Arranges (groupRanking key rowKey (rows.filter keeps) order r)
      (gather key rowKey fresh add (rows.filter keeps)) fun store : Store rows =>
        sort r (gather key rowKey fresh add (store.findMany keeps order)) := by
  have other_key {x y : G} (x_listed : x ∈ gather key rowKey fresh add (rows.filter keeps))
      (y_listed : y ∈ gather key rowKey fresh add (rows.filter keeps)) (different : y ≠ x) :
      key x ≠ key y := fun same => different
    (List.inj_on_of_nodup_map (nodup_gather h.opens h.stays _) y_listed x_listed same.symm)
  have own_rows (x : G) (row : α)
      (listed : row ∈ rows.filter fun row => decide (rowKey row = key x)) : rowKey row = key x :=
    of_decide_eq_true (List.mem_filter.mp listed).2
  have other_rows (x : G) (row : α)
      (listed : row ∈ rows.filter fun row => !decide (rowKey row = key x)) :
      rowKey row ≠ key x := by
    simpa using (List.mem_filter.mp listed).2
  refine ⟨fun store => (perm_sort r _).trans (h.perm store keeps order), fun store => ?_,
    fun x listed => ?_, fun x listed => ?_⟩
  · exact sort_lex (.of_map key (nodup_gather h.opens h.stays _))
      (gather_ordered h.opens h.stays (store.perm keeps order) (store.sorted keeps order))
  · -- the rows of the group lie before all others
    refine ⟨.lying _ (List.filter_append_perm (fun row => decide (rowKey row = key x)) rows), ?_⟩
    intro y other back le different
    exact h.lying_sublist unique _ listed other different.symm (other_rows x)
      (fun row own same => other_key listed other different ((own_rows x row own).symm.trans same))
      le back
  · refine ⟨.lying _ (List.perm_append_comm.trans
      (List.filter_append_perm (fun row => decide (rowKey row = key x)) rows)), ?_⟩
    intro y other le back different
    exact h.lying_sublist unique _ other listed different
      (fun row own same => other_key listed other different ((own_rows x row own).symm.trans same))
      (other_rows x) le back

end Groups

end TiedPages
