import Mathlib.Data.List.Nodup

/-! Maps that keep their keys in the order in which they came, as the maps of the source language
do: a key that is set again stays where it is. -/
structure InsertionMap (K V : Type) where
  entries : List (K × V)
  distinct : (entries.map Prod.fst).Nodup

namespace InsertionMap
variable {K V : Type} [DecidableEq K] (m : InsertionMap K V)

def empty : InsertionMap K V := ⟨[], List.nodup_nil⟩

def size : Nat := m.entries.length

def firstKey : Option K := m.entries.head?.map Prod.fst

def get (key : K) : Option V := (m.entries.find? (fun entry => entry.1 = key)).map Prod.snd

def erase (key : K) : InsertionMap K V where
  entries := m.entries.filter (fun entry => entry.1 ≠ key)
  distinct := (List.filter_sublist.map Prod.fst).nodup m.distinct

def replaced (key : K) (value : V) (entry : K × V) : K × V :=
  if entry.1 = key then (key, value) else entry

@[simp] theorem replaced_fst (key : K) (value : V) (entry : K × V) :
    (replaced key value entry).1 = entry.1 := by
  unfold replaced
  split
  · next same => exact same.symm
  · rfl

def set (key : K) (value : V) : InsertionMap K V :=
  if here : key ∈ m.entries.map Prod.fst then
    { entries := m.entries.map (replaced key value)
      distinct := by
        rw [List.map_map, show Prod.fst ∘ replaced key value = Prod.fst from
          funext (replaced_fst key value)]
        exact m.distinct }
  else
    { entries := m.entries ++ [(key, value)]
      distinct := by
        rw [List.map_append, List.map_singleton, ← List.concat_eq_append]
        exact m.distinct.concat here }

variable {m}

theorem get_erase_self (key : K) : (m.erase key).get key = none := by
  rw [get, erase, List.find?_filter, Option.map_eq_none_iff, List.find?_eq_none]
  intro entry _ both
  simp at both

theorem get_erase_of_ne {key other : K} (ne : other ≠ key) :
    (m.erase key).get other = m.get other := by
  rw [get, erase, List.find?_filter, get]
  congr 2
  funext entry
  by_cases same : entry.1 = other
  · simp [same, ne]
  · simp [same]

theorem get_set_self (key : K) (value : V) : (m.set key value).get key = some value := by
  unfold set get
  split
  · next here =>
    rw [List.find?_map, Option.map_map]
    have test : (fun entry : K × V => decide (entry.1 = key)) ∘ replaced key value =
        fun entry => decide (entry.1 = key) := by
      funext entry
      simp
    rw [test]
    obtain ⟨entry, member, same⟩ := List.mem_map.mp here
    cases found : m.entries.find? (fun entry => entry.1 = key) with
    | none => exact absurd same (by simpa using List.find?_eq_none.mp found entry member)
    | some first =>
      have hit : first.1 = key := by simpa using List.find?_some found
      simp [replaced, hit]
  · next absent =>
    have missing : m.entries.find? (fun entry => decide (entry.1 = key)) = none := by
      rw [List.find?_eq_none]
      intro entry member same
      exact absent (List.mem_map.mpr ⟨entry, member, by simpa using same⟩)
    rw [List.find?_append, missing]
    simp

theorem get_set_of_ne {key other : K} (value : V) (ne : other ≠ key) :
    (m.set key value).get other = m.get other := by
  unfold set get
  split
  · rw [List.find?_map, Option.map_map]
    have test : (fun entry : K × V => decide (entry.1 = other)) ∘ replaced key value =
        fun entry => decide (entry.1 = other) := by
      funext entry
      simp
    rw [test]
    cases found : m.entries.find? (fun entry => entry.1 = other) with
    | none => rfl
    | some first =>
      have hit : first.1 = other := by simpa using List.find?_some found
      simp [replaced, hit, ne]
  · rw [List.find?_append]
    simp [ne.symm]

end InsertionMap
