import LeaderProduct.MaxInitData

/-! Texts that are handed out as base64url of their bytes, and read back. -/
namespace LeaderProduct

section Bytes

def utf8Bytes (text : List Char) : List UInt8 := (text.flatMap utf8Encode).map UInt8.ofNat

def utf8Text (bytes : List UInt8) : List Char := utf8Decode none (bytes.map UInt8.toNat)

def sextet (c : Char) : Option Nat :=
  let n := c.toNat
  if 0x41 ≤ n ∧ n ≤ 0x5a then some (n - 0x41)
  else if 0x61 ≤ n ∧ n ≤ 0x7a then some (n - 0x61 + 26)
  else if 0x30 ≤ n ∧ n ≤ 0x39 then some (n - 0x30 + 52)
  else if c = '-' ∨ c = '+' then some 62
  else if c = '_' ∨ c = '/' then some 63
  else none

def bytesOfSextets : List Nat → List UInt8
  | a :: b :: c :: d :: rest =>
    UInt8.ofNat (a * 4 + b / 16) :: UInt8.ofNat (b % 16 * 16 + c / 4) ::
      UInt8.ofNat (c % 4 * 64 + d) :: bytesOfSextets rest
  | [a, b, c] => [UInt8.ofNat (a * 4 + b / 16), UInt8.ofNat (b % 16 * 16 + c / 4)]
  | [a, b] => [UInt8.ofNat (a * 4 + b / 16)]
  | _ => []

def base64UrlBytes (text : List Char) : List UInt8 :=
  bytesOfSextets ((text.takeWhile (· != '=')).filterMap sextet)

end Bytes

section RoundTrip

theorem sextet_base64UrlDigit {n : Nat} (small : n < 64) : sextet (base64UrlDigit n) = some n := by
  have all : ∀ n : Fin 64, sextet (base64UrlDigit n.1) = some n.1 := by decide
  exact all ⟨n, small⟩

theorem base64UrlDigit_ne {n : Nat} (small : n < 64) : (base64UrlDigit n != '=') = true := by
  have all : ∀ n : Fin 64, (base64UrlDigit n.1 != '=') = true := by decide
  exact all ⟨n, small⟩

def sextetsOf : List UInt8 → List Nat
  | [] => []
  | [a] => [a.toNat / 4, a.toNat % 4 * 16]
  | [a, b] => [a.toNat / 4, a.toNat % 4 * 16 + b.toNat / 16, b.toNat % 16 * 4]
  | a :: b :: c :: rest =>
    [a.toNat / 4, a.toNat % 4 * 16 + b.toNat / 16, b.toNat % 16 * 4 + c.toNat / 64, c.toNat % 64] ++
      sextetsOf rest

theorem base64UrlOf_eq (bytes : List UInt8) :
    base64UrlOf bytes = (sextetsOf bytes).map base64UrlDigit := by
  induction bytes using sextetsOf.induct with
  | case1 => rfl
  | case2 a => rfl
  | case3 a b => rfl
  | case4 a b c rest ih => rw [base64UrlOf, sextetsOf, List.map_append, ih]; rfl

theorem sextetsOf_lt (bytes : List UInt8) : ∀ n ∈ sextetsOf bytes, n < 64 := by
  induction bytes using sextetsOf.induct with
  | case1 => simp [sextetsOf]
  | case2 a =>
    have small := a.toNat_lt
    simp only [sextetsOf, List.forall_mem_cons, List.not_mem_nil, false_implies,
      implies_true, and_true]
    omega
  | case3 a b =>
    have small := a.toNat_lt
    have small' := b.toNat_lt
    simp only [sextetsOf, List.forall_mem_cons, List.not_mem_nil, false_implies,
      implies_true, and_true]
    omega
  | case4 a b c rest ih =>
    have small := a.toNat_lt
    have small' := b.toNat_lt
    have small'' := c.toNat_lt
    simp only [sextetsOf, List.cons_append, List.nil_append, List.forall_mem_cons]
    exact ⟨by omega, by omega, by omega, by omega, ih⟩

theorem filterMap_sextet {sextets : List Nat} (small : ∀ n ∈ sextets, n < 64) :
    ((sextets.map base64UrlDigit).takeWhile (· != '=')).filterMap sextet = sextets := by
  induction sextets with
  | nil => rfl
  | cons n rest ih =>
    rw [List.forall_mem_cons] at small
    rw [List.map_cons, List.takeWhile_cons, if_pos (base64UrlDigit_ne small.1), List.filterMap_cons,
      sextet_base64UrlDigit small.1, ih small.2]

theorem byte_of_toNat (a : UInt8) {n : Nat} (same : n = a.toNat) : UInt8.ofNat n = a := by
  rw [same, UInt8.ofNat_toNat]

theorem bytesOfSextets_sextetsOf (bytes : List UInt8) :
    bytesOfSextets (sextetsOf bytes) = bytes := by
  induction bytes using sextetsOf.induct with
  | case1 => rfl
  | case2 a => rw [sextetsOf, bytesOfSextets, byte_of_toNat a (by omega)]
  | case3 a b =>
    have small := b.toNat_lt
    rw [sextetsOf, bytesOfSextets, byte_of_toNat a (by omega), byte_of_toNat b (by omega)]
  | case4 a b c rest ih =>
    have small := b.toNat_lt
    have small' := c.toNat_lt
    rw [sextetsOf, List.cons_append, List.cons_append, List.cons_append, List.cons_append,
      List.nil_append, bytesOfSextets, ih, byte_of_toNat a (by omega), byte_of_toNat b (by omega),
      byte_of_toNat c (by omega)]

theorem base64UrlBytes_base64UrlOf (bytes : List UInt8) :
    base64UrlBytes (base64UrlOf bytes) = bytes := by
  rw [base64UrlBytes, base64UrlOf_eq, filterMap_sextet (sextetsOf_lt bytes),
    bytesOfSextets_sextetsOf]

theorem utf8Text_utf8Bytes {text : List Char} (ascii : ∀ c ∈ text, c.toNat < 128) :
    utf8Text (utf8Bytes text) = text := by
  unfold utf8Text utf8Bytes
  induction text with
  | nil => rfl
  | cons c rest ih =>
    rw [List.forall_mem_cons] at ascii
    have single : utf8Encode c = [c.toNat] := if_pos ascii.1
    have byte : (UInt8.ofNat c.toNat).toNat = c.toNat := by
      rw [UInt8.toNat_ofNat']
      exact Nat.mod_eq_of_lt (by omega)
    have lead : utf8Lead c.toNat = .char c := by
      rw [utf8Lead, if_pos ascii.1, Char.ofNat_toNat]
    simp only [List.flatMap_cons, single, List.cons_append, List.nil_append, List.map_cons, byte,
      utf8Decode, lead]
    rw [ih ascii.2]

end RoundTrip
end LeaderProduct
