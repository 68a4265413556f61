import Mathlib.Algebra.BigOperators.Group.List.Basic
import Mathlib.Data.List.Induction
import Mathlib.Data.List.Nodup
import LeaderProduct.RowTable

/-! Totals over a table with a key: what an upsert changes in a sum, and rows gathered into one
group for each key. -/
namespace RowTable

section Upsert
variable {R K : Type} [DecidableEq K] {key : R → K}

def upsert (key : R → K) (rows : List R) (k : K) (write : Option R → R) : List R :=
  match lookup key rows k with
  | some _ => modify key rows k (fun row => write (some row))
  | none => rows ++ [write none]

theorem not_mem_keys_of_lookup {rows : List R} {k : K} (absent : lookup key rows k = none) :
    k ∉ rows.map key := by
  intro listed
  obtain ⟨row, member, same⟩ := List.mem_map.mp listed
  have other := List.find?_eq_none.mp absent row member
  rw [decide_eq_true_eq] at other
  exact other same

theorem keys_upsert {rows : List R} {k : K} {write : Option R → R}
    (own : ∀ row, key (write row) = k) :
    (upsert key rows k write).map key =
      if (lookup key rows k).isSome then rows.map key else rows.map key ++ [k] := by
  unfold upsert
  cases found : lookup key rows k with
  | none => simp [own]
  | some row =>
    rw [modify, List.map_map, Option.isSome_some, if_pos rfl]
    apply List.map_congr_left
    intro other member
    rw [Function.comp_apply]
    split
    · next same => rw [own, same]
    · rfl

theorem nodup_upsert {rows : List R} {k : K} {write : Option R → R}
    (own : ∀ row, key (write row) = k) (unique : (rows.map key).Nodup) :
    ((upsert key rows k write).map key).Nodup := by
  rw [keys_upsert own]
  cases found : lookup key rows k with
  | none =>
    have absent := not_mem_keys_of_lookup found
    rw [Option.isSome_none, if_neg Bool.false_ne_true, List.nodup_append]
    refine ⟨unique, by simp, fun other listed _ last => ?_⟩
    rw [List.mem_singleton.mp last]
    exact fun same => absent (same ▸ listed)
  | some row => exact unique

theorem lookup_upsert {rows : List R} {k : K} {write : Option R → R}
    (own : ∀ row, key (write row) = k) (other : K) :
    lookup key (upsert key rows k write) other =
      if other = k then some (write (lookup key rows k)) else lookup key rows other := by
  unfold upsert
  cases found : lookup key rows k with
  | none =>
    rw [lookup_append, own]
    by_cases same : other = k
    · rw [same, found]
      simp
    · rw [if_neg (Ne.symm same), if_neg same, Option.or_none]
  | some row =>
    -- as an update that leaves the keys of all rows alone
    have as_update : modify key rows k (fun row => write (some row)) =
        modify key rows k (fun row => if key row = k then write (some row) else row) := by
      apply List.map_congr_left
      intro row member
      by_cases own_key : key row = k
      · simp only [own_key, if_true]
      · simp only [own_key, if_false]
    dsimp only
    rw [as_update, lookup_modify]
    · rw [found, Option.map_some, if_pos (key_of_lookup found)]
    · intro row
      split
      · next same => rw [own, same]
      · rfl

theorem filter_map_of_fixed {q : R → Bool} {change : R → R}
    (keeps : ∀ row, q (change row) = q row) (fixed : ∀ row, q row = true → change row = row)
    (rows : List R) : (rows.map change).filter q = rows.filter q := by
  induction rows with
  | nil => rfl
  | cons row rest ih =>
    rw [List.map_cons, List.filter_cons, List.filter_cons, keeps, ih]
    split
    · next selected => rw [fixed row selected]
    · rfl

theorem filter_map_ite {q : R → Bool} {p : R → Prop} [DecidablePred p] {change : R → R}
    (gone : ∀ row, q (change row) = false) (rows : List R) :
    (rows.map fun row => if p row then change row else row).filter q =
      rows.filter fun row => q row && !decide (p row) := by
  induction rows with
  | nil => rfl
  | cons row rest ih =>
    rw [List.map_cons, List.filter_cons, List.filter_cons, ih]
    by_cases taken : p row
    · simp [taken, gone]
    · simp [taken]

theorem filter_upsert_of_not {q : R → Bool} {rows : List R} {k : K} {write : Option R → R}
    (out : ∀ row, q (write row) = false) (others : ∀ row ∈ rows, key row = k → q row = false) :
    (upsert key rows k write).filter q = rows.filter q := by
  unfold upsert
  cases found : lookup key rows k with
  | none => simp [out]
  | some row =>
    have as_ite := filter_map_ite (fun row => out (some row)) rows (p := fun row => key row = k)
    refine as_ite.trans (List.filter_congr ?_)
    intro other member
    by_cases same : key other = k
    · rw [others other member same, Bool.false_and]
    · simp [same]

theorem filter_upsert_of_nil {q : R → Bool} {rows : List R} {k : K} {new : R}
    (unique : (rows.map key).Nodup) (nothing : rows.filter q = []) (selected : q new = true) :
    (upsert key rows k (fun _ => new)).filter q = [new] := by
  have alone : ∀ row ∈ rows, ¬ q row = true := List.filter_eq_nil_iff.mp nothing
  unfold upsert
  cases found : lookup key rows k with
  | none => simp [nothing, selected]
  | some row =>
    clear nothing
    dsimp only
    unfold modify
    induction rows with
    | nil => cases found
    | cons first rest ih =>
      rw [List.map_cons, List.nodup_cons] at unique
      rw [List.forall_mem_cons] at alone
      simp only [lookup, List.find?_cons] at found
      rw [List.map_cons]
      by_cases here : key first = k
      · rw [if_pos here, List.filter_cons, if_pos selected, List.filter_eq_nil_iff.mpr]
        intro other member
        obtain ⟨last, listed, rfl⟩ := List.mem_map.mp member
        have different : key last ≠ k := by
          intro same
          exact unique.1 (List.mem_map.mpr ⟨last, listed, same.trans here.symm⟩)
        rw [if_neg different]
        exact alone.2 last listed
      · simp only [here, decide_false] at found
        rw [if_neg here, List.filter_cons, if_neg alone.1]
        exact ih unique.2 alone.2 found

variable {M : Type} [AddCommMonoid M] {amount : R → M}

theorem sum_modify {rows : List R} {k : K} {row : R} {change : R → R}
    (unique : (rows.map key).Nodup) (found : lookup key rows k = some row) :
    ((modify key rows k change).map amount).sum + amount row =
      (rows.map amount).sum + amount (change row) := by
  induction rows with
  | nil => cases found
  | cons first rest ih =>
    rw [List.map_cons, List.nodup_cons] at unique
    simp only [lookup, List.find?_cons] at found
    by_cases here : key first = k
    · simp only [here, decide_true, Option.some.injEq] at found
      have others : rest.map (fun row => if key row = k then change row else row) = rest := by
        conv_rhs => rw [← List.map_id rest]
        apply List.map_congr_left
        intro other member
        rw [if_neg, id]
        intro same
        exact unique.1 (List.mem_map.mpr ⟨other, member, same.trans here.symm⟩)
      rw [modify, List.map_cons, others, if_pos here, List.map_cons, List.map_cons, List.sum_cons,
        List.sum_cons, ← found, add_right_comm, add_comm (amount (change first)), add_right_comm]
    · simp only [here, decide_false] at found
      have later := ih unique.2 found
      rw [modify] at later
      rw [modify, List.map_cons, if_neg here, List.map_cons, List.map_cons, List.sum_cons,
        List.sum_cons, add_assoc, later, add_assoc]

theorem sum_of_key {rows : List R} (unique : (rows.map key).Nodup) (k : K) :
    (rows.map (fun row => if key row = k then amount row else 0)).sum =
      (lookup key rows k).elim 0 amount := by
  induction rows with
  | nil => rfl
  | cons first rest ih =>
    rw [List.map_cons, List.nodup_cons] at unique
    rw [List.map_cons, List.sum_cons, ih unique.2]
    by_cases here : key first = k
    · have absent : lookup key rest k = none := by
        rw [lookup, List.find?_eq_none]
        intro other member
        rw [decide_eq_true_eq]
        intro same
        exact unique.1 (List.mem_map.mpr ⟨other, member, same.trans here.symm⟩)
      rw [absent]
      simp [lookup, here]
    · simp [lookup, here]

theorem sum_upsert (amount : R → M) {rows : List R} (k : K) (write : Option R → R)
    (unique : (rows.map key).Nodup) :
    ((upsert key rows k write).map amount).sum + (lookup key rows k).elim 0 amount =
      (rows.map amount).sum + amount (write (lookup key rows k)) := by
  unfold upsert
  cases found : lookup key rows k with
  | none => simp
  | some row => exact sum_modify unique found

end Upsert

section Groups
variable {R G K : Type} [DecidableEq K] (key : G → K) (rowKey : R → K) (fresh : R → G)
  (add : G → R → G)

def place (groups : List G) (row : R) : List G :=
  match groups with
  | [] => [add (fresh row) row]
  | group :: rest =>
    if key group = rowKey row then add group row :: rest else group :: place rest row

def gather (rows : List R) : List G := rows.foldl (place key rowKey fresh add) []

def groupOf (rows : List R) : Option G :=
  rows.foldl (fun group row => some (add (group.getD (fresh row)) row)) none

variable {key} {rowKey} {fresh} {add}

section
variable (opens : ∀ row, key (fresh row) = rowKey row)
include opens

theorem lookup_place
    (stays : ∀ group row, key (add group row) = key group) (groups : List G) (row : R) (k : K) :
    lookup key (place key rowKey fresh add groups row) k =
      if rowKey row = k then some (add ((lookup key groups k).getD (fresh row)) row)
      else lookup key groups k := by
  induction groups with
  | nil =>
    simp only [place, lookup, List.find?_singleton, stays, opens, List.find?_nil, Option.getD_none,
      decide_eq_true_eq]
  | cons group rest ih =>
    rw [place]
    by_cases joined : key group = rowKey row
    · rw [if_pos joined]
      simp only [lookup, List.find?_cons, stays, joined]
      by_cases own : rowKey row = k
      · simp [own]
      · simp [own]
    · rw [if_neg joined]
      simp only [lookup, List.find?_cons] at ih ⊢
      by_cases own : key group = k
      · have other : ¬rowKey row = k := fun same => joined (own.trans same.symm)
        simp [own, other]
      · simp only [own, decide_false]
        exact ih

theorem lookup_gather
    (stays : ∀ group row, key (add group row) = key group) (rows : List R) (k : K) :
    lookup key (gather key rowKey fresh add rows) k =
      groupOf fresh add (rows.filter (fun row => decide (rowKey row = k))) := by
  have general (groups : List G) :
      lookup key (rows.foldl (place key rowKey fresh add) groups) k =
        (rows.filter (fun row => decide (rowKey row = k))).foldl
          (fun group row => some (add (group.getD (fresh row)) row)) (lookup key groups k) := by
    induction rows generalizing groups with
    | nil => rfl
    | cons row rest ih =>
      rw [List.foldl_cons, ih, lookup_place opens stays]
      by_cases own : rowKey row = k
      · rw [if_pos own, List.filter_cons, if_pos (by simpa using own), List.foldl_cons]
      · rw [if_neg own, List.filter_cons, if_neg (by simpa using own)]
  exact general []

theorem keys_place
    (stays : ∀ group row, key (add group row) = key group) (groups : List G) (row : R) :
    (place key rowKey fresh add groups row).map key =
      if rowKey row ∈ groups.map key then groups.map key else groups.map key ++ [rowKey row] := by
  induction groups with
  | nil => simp [place, stays, opens]
  | cons group rest ih =>
    rw [place]
    by_cases joined : key group = rowKey row
    · simp [joined, stays]
    · rw [if_neg joined, List.map_cons, ih, List.map_cons]
      simp only [List.mem_cons, Ne.symm joined, false_or]
      split
      · rfl
      · rfl

theorem nodup_gather (stays : ∀ group row, key (add group row) = key group) (rows : List R) :
    ((gather key rowKey fresh add rows).map key).Nodup := by
  have general (groups : List G) (unique : (groups.map key).Nodup) :
      ((rows.foldl (place key rowKey fresh add) groups).map key).Nodup := by
    induction rows generalizing groups with
    | nil => exact unique
    | cons row rest ih =>
      rw [List.foldl_cons]
      apply ih
      rw [keys_place opens stays]
      split
      · exact unique
      · next absent =>
        rw [List.nodup_append]
        refine ⟨unique, by simp, fun other listed _ last => ?_⟩
        rw [List.mem_singleton.mp last]
        exact fun same => absent (same ▸ listed)
  exact general [] List.nodup_nil

theorem mem_keys_gather
    (stays : ∀ group row, key (add group row) = key group) (rows : List R) (k : K) :
    k ∈ (gather key rowKey fresh add rows).map key ↔ ∃ row ∈ rows, rowKey row = k := by
  induction rows using List.reverseRecOn with
  | nil => simp [gather]
  | append_singleton rows row ih =>
    rw [gather, List.foldl_concat, keys_place opens stays]
    rw [gather] at ih
    split
    · next known =>
      simp only [ih, List.mem_append, List.mem_singleton]
      constructor
      · rintro ⟨other, listed, own⟩
        exact ⟨other, .inl listed, own⟩
      · rintro ⟨other, listed | rfl, own⟩
        · exact ⟨other, listed, own⟩
        · exact ih.mp (own ▸ known)
    · simp only [List.mem_append, ih, List.mem_singleton]
      constructor
      · rintro (⟨other, listed, own⟩ | rfl)
        · exact ⟨other, .inl listed, own⟩
        · exact ⟨row, .inr rfl, rfl⟩
      · rintro ⟨other, listed | rfl, own⟩
        · exact .inl ⟨other, listed, own⟩
        · exact .inr own.symm

/-- Where a group stands before another, one of its rows stands before all of the other's. -/
theorem leads_of_gather
    (stays : ∀ group row, key (add group row) = key group) (rows : List R) {k k' : K}
    (before : [k, k'].Sublist ((gather key rowKey fresh add rows).map key)) :
    ∃ row ∈ rows, rowKey row = k ∧
      ∀ other ∈ rows, rowKey other = k' → [row, other].Sublist rows := by
  induction rows using List.reverseRecOn with
  | nil => cases before
  | append_singleton rows last ih =>
    have later (row : R) (listed : row ∈ rows) : [row, last].Sublist (rows ++ [last]) :=
      (List.singleton_sublist.mpr listed).append (List.Sublist.refl [last])
    have kept (inner : [k, k'].Sublist ((gather key rowKey fresh add rows).map key)) :
        ∃ row ∈ rows ++ [last], rowKey row = k ∧
          ∀ other ∈ rows ++ [last], rowKey other = k' → [row, other].Sublist (rows ++ [last]) := by
      obtain ⟨row, listed, own, leads⟩ := ih inner
      refine ⟨row, List.mem_append_left _ listed, own, fun other there own' => ?_⟩
      rcases List.mem_append.mp there with inside | final
      · exact (leads other inside own').trans (List.sublist_append_left _ _)
      · rw [List.mem_singleton.mp final]
        exact later row listed
    rw [gather, List.foldl_concat, keys_place opens stays] at before
    split at before
    · exact kept before
    · next absent =>
      obtain ⟨front, back, parts, inside, final⟩ := List.sublist_append_iff.mp before
      rcases List.sublist_singleton.mp final with rfl | rfl
      · rw [List.append_nil] at parts
        rw [parts] at kept
        exact kept inside
      · -- the second group is opened by the last row
        have split : [k] ++ [k'] = front ++ [rowKey last] := parts
        obtain ⟨rfl, same⟩ := List.append_inj' split rfl
        have opened : k' = rowKey last := by simpa using same
        obtain ⟨row, listed, own⟩ :=
          (mem_keys_gather opens stays rows k).mp (inside.subset List.mem_cons_self)
        refine ⟨row, List.mem_append_left _ listed, own, fun other there own' => ?_⟩
        rcases List.mem_append.mp there with known | final
        · have listed' := (mem_keys_gather opens stays rows k').mpr ⟨other, known, own'⟩
          exact absurd (opened ▸ listed') absent
        · rw [List.mem_singleton.mp final]
          exact later row listed

theorem groupOf_of_gather
    (stays : ∀ group row, key (add group row) = key group) {rows : List R} {group : G}
    (listed : group ∈ gather key rowKey fresh add rows) :
    groupOf fresh add (rows.filter fun row => decide (rowKey row = key group)) = some group := by
  rw [← lookup_gather opens stays]
  exact lookup_of_mem (nodup_gather opens stays rows) listed

end

theorem view_of_groupOf {V : Type} (view : G → V)
    (stays : ∀ group row, view (add group row) = view group) {rows : List R} {group : G}
    (made : groupOf fresh add rows = some group) :
    ∃ row, rows.head? = some row ∧ view group = view (fresh row) := by
  cases rows with
  | nil => cases made
  | cons first rest =>
    have general (rows : List R) (first group : G) (made : rows.foldl
        (fun group row => some (add (group.getD (fresh row)) row)) (some first) = some group) :
        view group = view first := by
      induction rows generalizing first with
      | nil => exact (congrArg view (Option.some.inj made)).symm
      | cons row rest ih => rw [ih _ made, Option.getD_some, stays]
    refine ⟨first, rfl, ?_⟩
    rw [general rest _ group made, Option.getD_none, stays]

theorem gather_congr {fresh' : R → G} {rows : List R} (same : ∀ row ∈ rows, fresh row = fresh' row) :
    gather key rowKey fresh add rows = gather key rowKey fresh' add rows := by
  apply List.foldl_ext
  intro groups row listed
  induction groups with
  | nil => simp only [place, same row listed]
  | cons group rest ih => simp only [place, ih]

/-- A group is made of its rows in any order, where they open it alike and join it in any order. -/
theorem groupOf_perm {rows rows' : List R} (same : rows.Perm rows')
    (alike : ∀ a ∈ rows, ∀ b ∈ rows, fresh a = fresh b)
    (join : ∀ group a b, add (add group a) b = add (add group b) a) :
    groupOf fresh add rows = groupOf fresh add rows' := by
  apply same.foldl_eq'
  intro a here b there group
  cases group with
  | none => simp only [Option.getD_none, Option.getD_some, alike a here b there, join]
  | some group => simp only [Option.getD_some, join]

theorem gather_perm (opens : ∀ row, key (fresh row) = rowKey row)
    (stays : ∀ group row, key (add group row) = key group) {rows rows' : List R}
    (same : rows.Perm rows')
    (alike : ∀ a ∈ rows, ∀ b ∈ rows, rowKey a = rowKey b → fresh a = fresh b)
    (join : ∀ group a b, add (add group a) b = add (add group b) a) :
    (gather key rowKey fresh add rows).Perm (gather key rowKey fresh add rows') := by
  have unique : ((gather key rowKey fresh add rows).map key).Nodup := nodup_gather opens stays rows
  have unique' : ((gather key rowKey fresh add rows').map key).Nodup :=
    nodup_gather opens stays rows'
  have found (k : K) : lookup key (gather key rowKey fresh add rows) k =
      lookup key (gather key rowKey fresh add rows') k := by
    rw [lookup_gather opens stays, lookup_gather opens stays]
    apply groupOf_perm (same.filter _) _ join
    intro a here b there
    simp only [List.mem_filter, decide_eq_true_eq] at here there
    exact alike a here.1 b there.1 (here.2.trans there.2.symm)
  rw [List.perm_ext_iff_of_nodup (.of_map key unique) (.of_map key unique')]
  intro group
  constructor
  · intro listed
    exact mem_of_lookup ((found (key group)).symm.trans (lookup_of_mem unique listed))
  · intro listed
    exact mem_of_lookup ((found (key group)).trans (lookup_of_mem unique' listed))

theorem map_gather {V : Type} (view : G → V) {key' : V → K} {fresh' : R → V} {add' : V → R → V}
    (keeps : ∀ group, key' (view group) = key group)
    (starts : ∀ row, view (fresh row) = fresh' row)
    (steps : ∀ group row, view (add group row) = add' (view group) row) (rows : List R) :
    (gather key rowKey fresh add rows).map view = gather key' rowKey fresh' add' rows := by
  have one (groups : List G) (row : R) : (place key rowKey fresh add groups row).map view =
      place key' rowKey fresh' add' (groups.map view) row := by
    induction groups with
    | nil => simp [place, steps, starts]
    | cons group rest ih =>
      simp only [place, List.map_cons, keeps]
      split
      · simp [steps]
      · simp [ih]
  have general (groups : List G) : (rows.foldl (place key rowKey fresh add) groups).map view =
      rows.foldl (place key' rowKey fresh' add') (groups.map view) := by
    induction rows generalizing groups with
    | nil => rfl
    | cons row rest ih => rw [List.foldl_cons, ih, one, List.foldl_cons]
  exact general []

theorem view_groupOf {V : Type} (view : G → V) {start : V} (step : V → R → V)
    (starts : ∀ row, view (fresh row) = start)
    (steps : ∀ group row, view (add group row) = step (view group) row) (rows : List R) :
    (groupOf fresh add rows).elim start view = rows.foldl step start := by
  have general (group : Option G) :
      (rows.foldl (fun group row => some (add (group.getD (fresh row)) row)) group).elim start
        view = rows.foldl step (group.elim start view) := by
    induction rows generalizing group with
    | nil => rfl
    | cons row rest ih =>
      rw [List.foldl_cons, ih, List.foldl_cons]
      cases group with
      | none => simp [steps, starts]
      | some group => simp [steps]
  exact general none

variable {M : Type} [AddCommMonoid M] {amount : R → M}

theorem foldl_total (rows : List R) (start : M) :
    rows.foldl (fun sum row => sum + amount row) start = start + (rows.map amount).sum := by
  induction rows generalizing start with
  | nil => simp
  | cons row rest ih => rw [List.foldl_cons, ih, List.map_cons, List.sum_cons, add_assoc]

theorem total_groupOf (total : G → M) (starts : ∀ row, total (fresh row) = 0)
    (grows : ∀ group row, total (add group row) = total group + amount row) (rows : List R) :
    (groupOf fresh add rows).elim 0 total = (rows.map amount).sum := by
  rw [view_groupOf total (fun sum row => sum + amount row) starts grows, foldl_total, zero_add]

theorem sum_filter (amount : R → M) (p : R → Bool) (rows : List R) :
    ((rows.filter p).map amount).sum =
      (rows.map (fun row => if p row then amount row else 0)).sum := by
  induction rows with
  | nil => rfl
  | cons row rest ih =>
    rw [List.filter_cons, List.map_cons, List.sum_cons, ← ih]
    cases p row with
    | true => simp
    | false => simp

end Groups

end RowTable
