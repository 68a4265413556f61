import Mathlib.Logic.Function.Basic
import LeaderProduct.Order

/-! The log of catalog changes and the answer of `GET /catalog/changes`. -/
namespace LeaderProduct

inductive CatalogChangeOperation where
  | upsert | delete

structure CatalogChange where
  productGuid : String
  operation : CatalogChangeOperation
  payloadHash : String
  changedAt : Instant

structure CatalogState where
  epoch : String
  currentRevision : Nat
  minAvailableRevision : Nat

abbrev CatalogLog := Nat → Option CatalogChange

structure CatalogError where
  status : Nat
  message : String

def changeRetentionMs : Nat := 30 * 24 * 60 * 60 * 1000
def changePruneIntervalMs : Nat := 60 * 60 * 1000

def validateEpoch (actual : String) (requested : Option String) : Option CatalogError :=
  if requested.any (· != actual) then
    some ⟨409, "Версия локального каталога устарела. Требуется полная синхронизация."⟩
  else none

/-- The error that `getCatalogChanges` throws before it reads the log. -/
def refuseChanges (state : CatalogState) (afterRevision : Nat) (epoch : Option String) :
    Option CatalogError :=
  (validateEpoch state.epoch epoch).or
    (if afterRevision < state.minAvailableRevision ∧ afterRevision ≠ state.currentRevision then
      some ⟨409, "История изменений каталога устарела. Требуется полная синхронизация."⟩
    else none)

variable {entry : Nat × CatalogChange}

section Pages
variable (log : CatalogLog) (sequence afterRevision limit : Nat)

def changesAfter : List (Nat × CatalogChange) :=
  (List.range (sequence + 1)).filterMap (fun revision =>
    if afterRevision < revision then (log revision).map (fun change => (revision, change))
    else none)

def changesPage : List (Nat × CatalogChange) :=
  ((changesAfter log sequence afterRevision).take (limit + 1)).take limit

def changesHasMore : Bool :=
  decide (limit < ((changesAfter log sequence afterRevision).take (limit + 1)).length)

def nextRevision : Nat :=
  ((changesPage log sequence afterRevision limit).getLast?.map Prod.fst).getD afterRevision

variable {log sequence afterRevision limit}

theorem mem_changesAfter :
    entry ∈ changesAfter log sequence afterRevision ↔
      entry.1 ≤ sequence ∧ afterRevision < entry.1 ∧ log entry.1 = some entry.2 := by
  obtain ⟨revision, change⟩ := entry
  simp only [changesAfter, List.mem_filterMap, List.mem_range, Nat.lt_succ_iff]
  constructor
  · rintro ⟨r, numbered, stored⟩
    split at stored
    · rename_i above
      obtain ⟨_, found, same⟩ := Option.map_eq_some_iff.mp stored
      cases same
      exact ⟨numbered, above, found⟩
    · cases stored
  · rintro ⟨numbered, above, found⟩
    exact ⟨revision, numbered, by rw [if_pos above, found, Option.map_some]⟩

theorem changesAfter_ascending :
    (changesAfter log sequence afterRevision).Pairwise (fun a b => a.1 < b.1) := by
  refine List.Pairwise.filterMap _ ?_ List.pairwise_lt_range
  intro r r' before entry stored entry' stored'
  have own {r : Nat} {entry : Nat × CatalogChange}
      (stored : (if afterRevision < r then (log r).map (fun change => (r, change)) else none) =
        some entry) : entry.1 = r := by
    split at stored
    · obtain ⟨_, _, rfl⟩ := Option.map_eq_some_iff.mp stored
      rfl
    · cases stored
  rw [own stored, own stored']
  exact before

theorem changesPage_eq :
    changesPage log sequence afterRevision limit =
      (changesAfter log sequence afterRevision).take limit := by
  rw [changesPage, List.take_take, Nat.min_eq_left (Nat.le_succ limit)]

theorem mem_page_or_nextRevision_lt (stored : entry ∈ changesAfter log sequence afterRevision) :
    entry ∈ changesPage log sequence afterRevision limit ∨
      nextRevision log sequence afterRevision limit < entry.1 := by
  have ascending := @changesAfter_ascending log sequence afterRevision
  rw [nextRevision, changesPage_eq]
  rw [← List.take_append_drop limit (changesAfter log sequence afterRevision)] at stored ascending
  rcases List.mem_append.mp stored with onPage | behind
  · exact .inl onPage
  · refine .inr ?_
    cases last : ((changesAfter log sequence afterRevision).take limit).getLast? with
    | none =>
      exact (mem_changesAfter.mp (List.mem_of_mem_drop behind)).2.1
    | some final =>
      exact (List.pairwise_append.mp ascending).2.2 final (List.mem_of_getLast? last) entry behind

end Pages

def setLatest : List (Nat × CatalogChange) → Nat × CatalogChange → List (Nat × CatalogChange)
  | [], entry => [entry]
  | known :: rest, entry =>
    if known.2.productGuid = entry.2.productGuid then entry :: rest
    else known :: setLatest rest entry

def latestChanges (page : List (Nat × CatalogChange)) : List (Nat × CatalogChange) :=
  (page.foldl setLatest []).mergeSort (fun a b => decide (a.1 ≤ b.1))

theorem mem_setLatest_guid {known : List (Nat × CatalogChange)} {guid : String} :
    (∃ e ∈ setLatest known entry, e.2.productGuid = guid) ↔
      (∃ e ∈ known, e.2.productGuid = guid) ∨ entry.2.productGuid = guid := by
  induction known with
  | nil => simp [setLatest]
  | cons first rest ih =>
    simp only [setLatest]
    split
    · rename_i same
      simp only [List.mem_cons, exists_eq_or_imp, same]
      exact ⟨.inl, fun either => either.elim id .inl⟩
    · simp only [List.mem_cons, exists_eq_or_imp, ih, or_assoc]

theorem mem_latestChanges_guid {page : List (Nat × CatalogChange)} {guid : String} :
    (∃ e ∈ latestChanges page, e.2.productGuid = guid) ↔
      ∃ e ∈ page, e.2.productGuid = guid := by
  have general (known : List (Nat × CatalogChange)) :
      (∃ e ∈ page.foldl setLatest known, e.2.productGuid = guid) ↔
        (∃ e ∈ known, e.2.productGuid = guid) ∨ ∃ e ∈ page, e.2.productGuid = guid := by
    induction page generalizing known with
    | nil => simp
    | cons first rest ih =>
      rw [List.foldl_cons, ih, mem_setLatest_guid]
      simp only [List.mem_cons, exists_eq_or_imp, or_assoc]
  simp only [latestChanges, List.mem_mergeSort]
  rw [general []]
  simp

end LeaderProduct
