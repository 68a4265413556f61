import Mathlib.Data.List.DropRight
import LeaderProduct.JsString

/-! Letter case and white space of texts: what normalizing a text once leaves alone for good. -/
namespace JsString

theorem lowerChar_cases (c : Char) :
    lowerChar c = c ∨
      ((0x41 ≤ c.toNat ∧ c.toNat ≤ 0x5a ∨ 0x400 ≤ c.toNat ∧ c.toNat ≤ 0x42f) ∧
        (0x61 ≤ (lowerChar c).toNat ∧ (lowerChar c).toNat ≤ 0x7a ∨
          0x430 ≤ (lowerChar c).toNat ∧ (lowerChar c).toNat ≤ 0x45f)) := by
  have code : ∀ n, n < 0xd800 → (Char.ofNat n).toNat = n := by
    intro n small
    have valid : n.isValidChar := .inl small
    rw [Char.ofNat, dif_pos valid]
    rfl
  unfold lowerChar
  dsimp only
  split
  · next capital =>
    simp only [Bool.or_eq_true, Bool.and_eq_true, decide_eq_true_eq] at capital
    rw [code _ (by omega)]
    omega
  · split
    · next capital =>
      simp only [Bool.and_eq_true, decide_eq_true_eq] at capital
      rw [code _ (by omega)]
      omega
    · exact .inl rfl

theorem lowerChar_lowerChar (c : Char) : lowerChar (lowerChar c) = lowerChar c := by
  rcases lowerChar_cases c with same | ⟨_, small⟩
  · rw [same, same]
  · rcases lowerChar_cases (lowerChar c) with done | ⟨capital, _⟩
    · exact done
    · omega

theorem isSpace_lowerChar (c : Char) : isSpace (lowerChar c) = isSpace c := by
  rcases lowerChar_cases c with same | ⟨capital, small⟩
  · rw [same]
  · have letter : isSpace c = false := by
      simp only [isSpace]
      simp only [Bool.or_eq_false_iff, Bool.and_eq_false_iff, decide_eq_false_iff_not,
        beq_eq_false_iff_ne]
      omega
    have lowered : isSpace (lowerChar c) = false := by
      simp only [isSpace]
      simp only [Bool.or_eq_false_iff, Bool.and_eq_false_iff, decide_eq_false_iff_not,
        beq_eq_false_iff_ne]
      omega
    rw [letter, lowered]

theorem lowerChar_colon {c : Char} (lowered : lowerChar c = ':') : c = ':' := by
  rcases lowerChar_cases c with same | ⟨_, small⟩
  · exact same.symm.trans lowered
  · rw [lowered] at small
    exact absurd small (by decide)

@[simp] theorem toLowerCase_toLowerCase (s : String) :
    toLowerCase (toLowerCase s) = toLowerCase s := by
  simp only [toLowerCase, String.toList_ofList, List.map_map]
  congr 2
  funext c
  exact lowerChar_lowerChar c

theorem toLowerCase_eq_empty {s : String} : toLowerCase s = "" ↔ s = "" := by
  simp [toLowerCase]

theorem toList_trim (s : String) :
    (trim s).toList = (s.toList.dropWhile isSpace).rdropWhile isSpace := by
  rw [trim, String.toList_ofList, List.rdropWhile]

theorem trim_toLowerCase (s : String) : trim (toLowerCase s) = toLowerCase (trim s) := by
  have spaces : isSpace ∘ lowerChar = isSpace := funext isSpace_lowerChar
  simp only [trim, toLowerCase, String.toList_ofList, List.dropWhile_map, spaces,
    ← List.map_reverse]

theorem rdropWhile_front {p : Char → Bool} {text : List Char}
    (front : text.dropWhile p = text) : (text.rdropWhile p).dropWhile p = text.rdropWhile p := by
  obtain ⟨blanks, split⟩ := List.rdropWhile_prefix p text
  cases kept : text.rdropWhile p with
  | nil => rfl
  | cons c rest =>
    rw [kept, List.cons_append] at split
    have first : p c = false := by
      by_contra blank
      rw [← split, List.dropWhile_cons, if_pos (by simpa using blank)] at front
      have shorter := (List.dropWhile_suffix (l := rest ++ blanks) p).length_le
      rw [front, List.length_cons] at shorter
      omega
    rw [List.dropWhile_cons, if_neg (by simp [first])]

@[simp] theorem trim_trim (s : String) : trim (trim s) = trim s := by
  apply String.toList_inj.mp
  rw [toList_trim, toList_trim, rdropWhile_front, List.rdropWhile_idempotent]
  exact List.dropWhile_idempotent _ _

end JsString
