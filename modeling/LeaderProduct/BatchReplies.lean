import Mathlib.Data.List.Basic
import Mathlib.Data.List.Nodup

/-! Items that are sent in batches, and the replies to them. A batch may fail as a whole, and then
has none. Who joins all replies and reads them against all items, by their places, reads the replies
after a failed batch against the wrong items. -/
namespace BatchReplies

section Sending
variable {T R : Type} (bad : R → Bool)

structure Batch (T R : Type) where
  items : List T
  outcome : Option (List R)
  sized : ∀ replies, outcome = some replies → replies.length = items.length

def Batch.replies (batch : Batch T R) : List R := batch.outcome.getD []

def items (sent : List (Batch T R)) : List T := sent.flatMap Batch.items

def replies (sent : List (Batch T R)) : List R := sent.flatMap Batch.replies

def blamed (items : List T) (replies : List R) : List T :=
  (items.zip replies).filterMap fun pair => if bad pair.2 then some pair.1 else none

def guilty (sent : List (Batch T R)) : List T :=
  sent.flatMap fun batch => blamed bad batch.items batch.replies

/-- No bad reply comes after a failed batch. -/
def Aligned : List (Batch T R) → Prop
  | [] => True
  | batch :: rest =>
    (batch.outcome = none → batch.items = [] ∨ ∀ reply ∈ replies rest, bad reply = false) ∧
      Aligned rest

end Sending

section Blaming
variable {T R : Type} {bad : R → Bool}

theorem blamed_append {l m : List T} {r q : List R} (same : l.length = r.length) :
    blamed bad (l ++ m) (r ++ q) = blamed bad l r ++ blamed bad m q := by
  rw [blamed, List.zip_append same, List.filterMap_append]
  rfl

theorem mem_of_mem_blamed {l : List T} {r : List R} {t : T} (here : t ∈ blamed bad l r) :
    t ∈ l := by
  obtain ⟨⟨item, reply⟩, paired, told⟩ := List.mem_filterMap.mp here
  dsimp only at told
  split at told
  · cases told
    exact (List.of_mem_zip paired).1
  · cases told

theorem blamed_eq_nil {l : List T} {r : List R} (fine : ∀ reply ∈ r, bad reply = false) :
    blamed bad l r = [] := by
  rw [blamed, List.filterMap_eq_nil_iff]
  intro pair paired
  rw [fine pair.2 (List.of_mem_zip paired).2]
  rfl

theorem mem_blamed_first {l : List T} (before after : List R) {reply : R}
    (is_bad : bad reply = true) {t : T} (place : l[before.length]? = some t) :
    t ∈ blamed bad l (before ++ reply :: after) := by
  have inside := (List.getElem?_eq_some_iff.mp place).1
  have split : l = l.take before.length ++ t :: l.drop (before.length + 1) := by
    have at_place := (List.getElem?_eq_some_iff.mp place).2
    rw [← at_place, ← List.drop_eq_getElem_cons inside, List.take_append_drop]
  rw [split, blamed_append (by simp; omega)]
  refine List.mem_append_right _ ?_
  simp [blamed, is_bad]

theorem blamed_cons (t : T) (l : List T) (reply : R) (r : List R) :
    blamed bad (t :: l) (reply :: r) = (if bad reply then [t] else []) ++ blamed bad l r := by
  unfold blamed
  rw [List.zip_cons_cons, List.filterMap_cons]
  cases bad reply <;> simp

theorem blamed_mem_drop {l : List T} {r : List R} (k : Nat)
    (fine : ∀ reply ∈ r.take k, bad reply = false) : ∀ t ∈ blamed bad l r, t ∈ l.drop k := by
  induction l generalizing r k with
  | nil =>
    intro t here
    simp [blamed] at here
  | cons first l ih =>
    intro t here
    cases r with
    | nil => simp [blamed] at here
    | cons reply r =>
      cases k with
      | zero => exact mem_of_mem_blamed here
      | succ k =>
        rw [List.take_succ_cons, List.forall_mem_cons] at fine
        rw [blamed_cons, fine.1] at here
        exact ih k fine.2 t here

theorem replies_length_le (batch : Batch T R) : batch.replies.length ≤ batch.items.length := by
  cases outcome : batch.outcome with
  | none => simp [Batch.replies, outcome]
  | some told => simp [Batch.replies, outcome, batch.sized told outcome]

theorem guilty_mem_drop {sent : List (Batch T R)} (k : Nat)
    (fine : ∀ reply ∈ (replies sent).take k, bad reply = false) :
    ∀ t ∈ guilty bad sent, t ∈ (items sent).drop k := by
  induction sent generalizing k with
  | nil =>
    intro t here
    cases here
  | cons batch rest ih =>
    intro t here
    rw [replies, List.flatMap_cons] at fine
    rw [guilty, List.flatMap_cons] at here
    rw [items, List.flatMap_cons, List.drop_append]
    rw [List.take_append] at fine
    have later : t ∈ guilty bad rest →
        t ∈ batch.items.drop k ++ (items rest).drop (k - batch.items.length) := by
      intro there
      have short := replies_length_le batch
      have own := ih (k - batch.replies.length)
        (fun reply early => fine reply (List.mem_append_right _ early)) t there
      exact List.mem_append_right _ (List.drop_subset_drop_left _ (by omega) own)
    rcases List.mem_append.mp here with own | there
    · exact List.mem_append_left _ (blamed_mem_drop k
        (fun reply early => fine reply (List.mem_append_left _ early)) t own)
    · exact later there

theorem blamed_items_cons {batch : Batch T R} {told : List R} (answered : batch.outcome = some told)
    (rest : List (Batch T R)) :
    blamed bad (items (batch :: rest)) (replies (batch :: rest)) =
      blamed bad batch.items batch.replies ++ blamed bad (items rest) (replies rest) := by
  rw [items, replies, List.flatMap_cons, List.flatMap_cons]
  refine blamed_append ?_
  rw [Batch.replies, answered, Option.getD_some, batch.sized told answered]

theorem blamed_eq_guilty {sent : List (Batch T R)} (aligned : Aligned bad sent) :
    blamed bad (items sent) (replies sent) = guilty bad sent := by
  induction sent with
  | nil => rfl
  | cons batch rest ih =>
    obtain ⟨after, aligned⟩ := aligned
    have later := ih aligned
    cases outcome : batch.outcome with
    | some told => rw [blamed_items_cons outcome, later, guilty, guilty, List.flatMap_cons]
    | none =>
      have no_reply : batch.replies = [] := by rw [Batch.replies, outcome]; rfl
      rcases after outcome with empty | fine
      · simpa [items, replies, guilty, empty, no_reply, blamed] using later
      · rw [blamed_eq_nil fine] at later
        have own : blamed bad batch.items batch.replies = [] := by
          rw [no_reply]
          exact blamed_eq_nil nofun
        rw [guilty, List.flatMap_cons, own, List.nil_append]
        rw [guilty] at later
        rw [← later]
        refine blamed_eq_nil ?_
        rw [replies, List.flatMap_cons, no_reply]
        exact fine

theorem length_replies_le (sent : List (Batch T R)) :
    (replies sent).length ≤ (items sent).length := by
  induction sent with
  | nil => exact Nat.le_refl _
  | cons batch rest ih =>
    have own := replies_length_le batch
    rw [items, replies] at ih
    rw [items, replies, List.flatMap_cons, List.flatMap_cons, List.length_append, List.length_append]
    omega

theorem aligned_of_fine {sent : List (Batch T R)} (fine : ∀ reply ∈ replies sent, bad reply = false) :
    Aligned bad sent := by
  induction sent with
  | nil => trivial
  | cons batch rest ih =>
    rw [replies, List.flatMap_cons] at fine
    have later : ∀ reply ∈ replies rest, bad reply = false :=
      fun reply here => fine reply (List.mem_append_right _ here)
    exact ⟨fun _ => .inr later, ih later⟩

/-- With items before them that have no reply, the first bad reply blames an item that comes before
every guilty one. -/
theorem fine_of_unanswered {unanswered : List T} {rest : List (Batch T R)}
    (distinct : (unanswered ++ items rest).Nodup) (filled : unanswered ≠ [])
    (subset : ∀ t ∈ blamed bad (unanswered ++ items rest) (replies rest), t ∈ guilty bad rest) :
    ∀ reply ∈ replies rest, bad reply = false := by
  by_contra some_bad
  obtain ⟨first, found⟩ : ∃ reply, (replies rest).find? bad = some reply := by
    rw [← Option.isSome_iff_exists, List.find?_isSome]
    simpa using some_bad
  obtain ⟨is_bad, before, after, parts, fine⟩ := List.find?_eq_some_iff_append.mp found
  have inside : before.length < (unanswered ++ items rest).length := by
    have short := length_replies_le rest
    rw [parts] at short
    simp at short ⊢
    omega
  have place := List.getElem?_eq_getElem inside
  have innocent := mem_blamed_first before after is_bad place
  rw [← parts] at innocent
  have late := guilty_mem_drop before.length (by simpa [parts] using fine) _ (subset _ innocent)
  have beyond : (items rest).drop before.length ⊆
      (unanswered ++ items rest).drop (before.length + 1) := by
    have one := List.length_pos_iff.mpr filled
    rw [List.drop_append]
    exact fun t here => List.mem_append_right _ (List.drop_subset_drop_left _ (by omega) here)
  have split : (unanswered ++ items rest).drop before.length = _ := List.drop_eq_getElem_cons inside
  have unique := distinct.sublist (List.drop_sublist before.length _)
  rw [split, List.nodup_cons] at unique
  exact unique.1 (beyond late)

theorem blamed_subset_iff {sent : List (Batch T R)} (distinct : (items sent).Nodup) :
    (∀ t ∈ blamed bad (items sent) (replies sent), t ∈ guilty bad sent) ↔ Aligned bad sent := by
  constructor
  · intro subset
    induction sent with
    | nil => trivial
    | cons batch rest ih =>
      rw [items, List.flatMap_cons, List.nodup_append'] at distinct
      obtain ⟨distinct_own, distinct_rest, apart⟩ := distinct
      cases outcome : batch.outcome with
      | some told =>
        refine ⟨by rw [outcome]; exact nofun, ih distinct_rest fun t here => ?_⟩
        rw [blamed_items_cons outcome] at subset
        rcases List.mem_append.mp (subset t (List.mem_append_right _ here)) with own | later
        · exact absurd (mem_of_mem_blamed here) (apart (mem_of_mem_blamed own))
        · exact later
      | none =>
        have no_reply : batch.replies = [] := by rw [Batch.replies, outcome]; rfl
        have own : blamed bad batch.items batch.replies = [] := by
          rw [no_reply]
          exact blamed_eq_nil nofun
        have subset_rest : ∀ t ∈ blamed bad (batch.items ++ items rest) (replies rest),
            t ∈ guilty bad rest := by
          intro t here
          have told := subset t (by rwa [items, replies, List.flatMap_cons, List.flatMap_cons, no_reply])
          rwa [guilty, List.flatMap_cons, own] at told
        by_cases empty : batch.items = []
        · rw [empty, List.nil_append] at subset_rest
          exact ⟨fun _ => .inl empty, ih distinct_rest subset_rest⟩
        · have all := List.nodup_append'.mpr ⟨distinct_own, distinct_rest, apart⟩
          have fine := fine_of_unanswered all empty subset_rest
          exact ⟨fun _ => .inr fine, aligned_of_fine fine⟩
  · intro aligned
    rw [blamed_eq_guilty aligned]
    exact fun _ => id

end Blaming

end BatchReplies
