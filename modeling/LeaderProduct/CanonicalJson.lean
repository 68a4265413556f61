import Mathlib.Data.List.Sort
import Mathlib.Data.List.Nodup
import Mathlib.Data.String.Basic

/-! JSON values, the text that they are written as, and their canonical form, which has the entries
of every object in the order of their keys. -/
namespace CanonicalJson

section Text

def isNumeric (c : Char) : Bool :=
  c.isDigit || c == '-' || c == '+' || c == '.' || c == 'e'

structure NumberText where
  text : List Char
  nonempty : text ≠ []
  numeric : text.all isNumeric = true
  deriving DecidableEq

inductive Value where
  | null
  | bool (value : Bool)
  | number (value : NumberText)
  | string (text : String)
  | array (items : List Value)
  | object (entries : List (String × Value))

def quoteMark : Char := Char.ofNat 34

def backslash : Char := Char.ofNat 92

def escape (c : Char) : List Char :=
  if c = quoteMark then [backslash, quoteMark]
  else if c = backslash then [backslash, backslash]
  else if c.toNat = 8 then [backslash, 'b']
  else if c.toNat = 9 then [backslash, 't']
  else if c.toNat = 10 then [backslash, 'n']
  else if c.toNat = 12 then [backslash, 'f']
  else if c.toNat = 13 then [backslash, 'r']
  else if c.toNat < 32 then
    [backslash, 'u', '0', '0', Nat.digitChar (c.toNat / 16), Nat.digitChar (c.toNat % 16)]
  else [c]

def quoted (text : List Char) : List Char :=
  quoteMark :: (text.flatMap escape ++ [quoteMark])

mutual
def stringify : Value → List Char
  | .null => ['n', 'u', 'l', 'l']
  | .bool true => ['t', 'r', 'u', 'e']
  | .bool false => ['f', 'a', 'l', 's', 'e']
  | .number n => n.text
  | .string text => quoted text.toList
  | .array items => '[' :: stringifyItems true items
  | .object entries => '{' :: stringifyEntries true entries

def stringifyItems (first : Bool) : List Value → List Char
  | [] => [']']
  | item :: rest => (if first then [] else [',']) ++ (stringify item ++ stringifyItems false rest)

def stringifyEntries (first : Bool) : List (String × Value) → List Char
  | [] => ['}']
  | (key, value) :: rest => (if first then [] else [',']) ++
      (quoted key.toList ++ ':' :: (stringify value ++ stringifyEntries false rest))
end

def digitOf (c : Char) : Nat := if c.isDigit then c.toNat - 48 else c.toNat - 87

def unescapeMarked (c : Char) (rest : List Char) : Option (Char × List Char) :=
  if c = 'b' then some (Char.ofNat 8, rest)
  else if c = 't' then some (Char.ofNat 9, rest)
  else if c = 'n' then some (Char.ofNat 10, rest)
  else if c = 'f' then some (Char.ofNat 12, rest)
  else if c = 'r' then some (Char.ofNat 13, rest)
  else if c = 'u' then
    match rest with
    | _ :: _ :: high :: low :: rest => some (Char.ofNat (digitOf high * 16 + digitOf low), rest)
    | _ => none
  else some (c, rest)

def unescape : List Char → Option (Char × List Char)
  | [] => none
  | c :: rest =>
    if c = backslash then
      match rest with
      | [] => none
      | d :: rest => unescapeMarked d rest
    else some (c, rest)

theorem ofNat_of_toNat {c : Char} {n : Nat} (same : c.toNat = n) : Char.ofNat n = c := by
  rw [← same, Char.ofNat_toNat]

theorem unescape_escape (c : Char) (rest : List Char) :
    unescape (escape c ++ rest) = some (c, rest) := by
  have digits : ∀ n < 32,
      digitOf (Nat.digitChar (n / 16)) * 16 + digitOf (Nat.digitChar (n % 16)) = n := by
    decide
  unfold escape
  split
  · next same => subst same; rfl
  · split
    · next same => subst same; rfl
    · split
      · next same => rw [← ofNat_of_toNat same]; rfl
      · split
        · next same => rw [← ofNat_of_toNat same]; rfl
        · split
          · next same => rw [← ofNat_of_toNat same]; rfl
          · split
            · next same => rw [← ofNat_of_toNat same]; rfl
            · split
              · next same => rw [← ofNat_of_toNat same]; rfl
              · split
                · next small =>
                  have here := digits c.toNat small
                  simp only [List.cons_append, List.nil_append, unescape, if_true]
                  unfold unescapeMarked
                  simp only [here, Char.ofNat_toNat]
                  rfl
                · next plain _ _ _ _ _ _ =>
                  simp only [List.cons_append, List.nil_append, unescape]
                  rw [if_neg plain]

theorem escape_inj {c d : Char} {x y : List Char} (same : escape c ++ x = escape d ++ y) :
    c = d ∧ x = y := by
  have read := congrArg unescape same
  rw [unescape_escape, unescape_escape] at read
  simpa using read

theorem escape_head (c : Char) : ∃ d rest, escape c = d :: rest ∧ d ≠ quoteMark := by
  unfold escape
  split
  · exact ⟨_, _, rfl, by decide⟩
  · next plain => split_ifs <;> first | exact ⟨_, _, rfl, by decide⟩ | exact ⟨_, _, rfl, plain⟩

theorem quoted_inj {s t x y : List Char} (same : quoted s ++ x = quoted t ++ y) :
    s = t ∧ x = y := by
  simp only [quoted, List.cons_append, List.cons.injEq, true_and, List.append_assoc,
    List.nil_append] at same
  induction s generalizing t with
  | nil =>
    cases t with
    | nil => exact ⟨rfl, by simpa using same⟩
    | cons d t =>
      obtain ⟨e, rest, escaped, ne⟩ := escape_head d
      rw [List.flatMap_cons, escaped] at same
      exact absurd (by simpa using (List.cons.inj same).1.symm) ne
  | cons c s ih =>
    cases t with
    | nil =>
      obtain ⟨e, rest, escaped, ne⟩ := escape_head c
      rw [List.flatMap_cons, escaped] at same
      exact absurd (by simpa using (List.cons.inj same).1) ne
    | cons d t =>
      rw [List.flatMap_cons, List.flatMap_cons, List.append_assoc, List.append_assoc] at same
      obtain ⟨rfl, later⟩ := escape_inj same
      obtain ⟨rfl, rfl⟩ := ih later
      exact ⟨rfl, rfl⟩

def Ends : List Char → Prop
  | [] => True
  | c :: _ => isNumeric c = false

theorem number_inj {n m : NumberText} {x y : List Char} (ends_x : Ends x) (ends_y : Ends y)
    (same : n.text ++ x = m.text ++ y) : n = m ∧ x = y := by
  have taken (n : NumberText) (x : List Char) (ends : Ends x) :
      (n.text ++ x).takeWhile isNumeric = n.text := by
    rw [List.takeWhile_append_of_pos (by simpa using n.numeric)]
    cases x with
    | nil => simp
    | cons c rest => simp [show isNumeric c = false from ends]
  have texts : n.text = m.text := by rw [← taken n x ends_x, same, taken m y ends_y]
  refine ⟨?_, List.append_cancel_left (texts ▸ same)⟩
  cases n
  cases m
  simpa using texts

def kindOf (c : Char) : Nat :=
  if c = 'n' then 0 else if c = 't' then 1 else if c = 'f' then 2
  else if c = quoteMark then 3 else if c = '[' then 4 else if c = '{' then 5
  else if isNumeric c then 6 else 7

def Value.kind : Value → Nat
  | .null => 0
  | .bool true => 1
  | .bool false => 2
  | .string _ => 3
  | .array _ => 4
  | .object _ => 5
  | .number _ => 6

theorem kindOf_numeric {c : Char} (numeric : isNumeric c = true) : kindOf c = 6 := by
  have ne {d : Char} (other : isNumeric d = false) : c ≠ d := by
    rintro rfl
    simp [numeric] at other
  unfold kindOf
  rw [if_neg (ne rfl), if_neg (ne rfl), if_neg (ne rfl), if_neg (ne rfl), if_neg (ne rfl),
    if_neg (ne rfl), if_pos numeric]

theorem stringify_head (a : Value) : ∃ c rest, stringify a = c :: rest ∧ kindOf c = a.kind := by
  cases a with
  | null => exact ⟨_, _, rfl, by decide⟩
  | bool value => cases value <;> exact ⟨_, _, rfl, by decide⟩
  | number n =>
    obtain ⟨text, nonempty, numeric⟩ := n
    cases text with
    | nil => exact absurd rfl nonempty
    | cons c rest =>
      rw [List.all_cons, Bool.and_eq_true] at numeric
      exact ⟨c, rest, by rw [stringify], kindOf_numeric numeric.1⟩
  | string text => exact ⟨quoteMark, _, by rw [stringify, quoted], rfl⟩
  | array items => exact ⟨'[', _, by rw [stringify], rfl⟩
  | object entries => exact ⟨'{', _, by rw [stringify], rfl⟩

theorem kind_eq {a b : Value} {x y : List Char} (same : stringify a ++ x = stringify b ++ y) :
    a.kind = b.kind := by
  obtain ⟨c, _, first, kind⟩ := stringify_head a
  obtain ⟨d, _, first', kind'⟩ := stringify_head b
  rw [first, first', List.cons_append, List.cons_append] at same
  rw [← kind, ← kind', (List.cons.inj same).1]

theorem stringify_ne_close (a : Value) (x y : List Char) : stringify a ++ x ≠ ']' :: y := by
  obtain ⟨c, rest, first, kind⟩ := stringify_head a
  rw [first, List.cons_append]
  intro same
  rw [(List.cons.inj same).1] at kind
  cases a with
  | bool value => cases value <;> simp [Value.kind, kindOf, quoteMark, isNumeric] at kind
  | _ => simp [Value.kind, kindOf, quoteMark, isNumeric] at kind

theorem ends_items (rest : List Value) (x : List Char) : Ends (stringifyItems false rest ++ x) := by
  cases rest <;> simp [stringifyItems, Ends, isNumeric]

theorem ends_entries (rest : List (String × Value)) (x : List Char) :
    Ends (stringifyEntries false rest ++ x) := by
  cases rest <;> simp [stringifyEntries, Ends, isNumeric]

mutual
theorem stringify_inj (a b : Value) {x y : List Char} (ends_x : Ends x) (ends_y : Ends y)
    (same : stringify a ++ x = stringify b ++ y) : a = b ∧ x = y := by
  have kinds := kind_eq same
  match a, b with
  | .null, .null => exact ⟨rfl, List.append_cancel_left same⟩
  | .bool true, .bool true => exact ⟨rfl, List.append_cancel_left same⟩
  | .bool false, .bool false => exact ⟨rfl, List.append_cancel_left same⟩
  | .number n, .number m =>
    obtain ⟨rfl, rest⟩ := number_inj ends_x ends_y (by simpa only [stringify] using same)
    exact ⟨rfl, rest⟩
  | .string s, .string t =>
    obtain ⟨texts, rest⟩ := quoted_inj (by simpa only [stringify] using same)
    exact ⟨by rw [String.toList_inj.mp texts], rest⟩
  | .array l, .array m =>
    rw [stringify, stringify, List.cons_append, List.cons_append] at same
    obtain ⟨rfl, rest⟩ := stringifyItems_inj true l m (List.cons.inj same).2
    exact ⟨rfl, rest⟩
  | .object l, .object m =>
    rw [stringify, stringify, List.cons_append, List.cons_append] at same
    obtain ⟨rfl, rest⟩ := stringifyEntries_inj true l m (List.cons.inj same).2
    exact ⟨rfl, rest⟩

theorem stringifyItems_inj (first : Bool) (l m : List Value) {x y : List Char}
    (same : stringifyItems first l ++ x = stringifyItems first m ++ y) : l = m ∧ x = y := by
  match l, m with
  | [], [] =>
    rw [stringifyItems] at same
    exact ⟨rfl, List.append_cancel_left same⟩
  | [], b :: m =>
    cases first with
    | true => exact absurd (by simpa [stringifyItems] using same.symm) (stringify_ne_close b _ x)
    | false => simp [stringifyItems] at same
  | a :: l, [] =>
    cases first with
    | true => exact absurd (by simpa [stringifyItems] using same) (stringify_ne_close a _ y)
    | false => simp [stringifyItems] at same
  | a :: l, b :: m =>
    simp only [stringifyItems, List.append_assoc, List.append_cancel_left_eq] at same
    obtain ⟨rfl, later⟩ := stringify_inj a b (ends_items l x) (ends_items m y) same
    obtain ⟨rfl, rest⟩ := stringifyItems_inj false l m later
    exact ⟨rfl, rest⟩

theorem stringifyEntries_inj (first : Bool) (l m : List (String × Value)) {x y : List Char}
    (same : stringifyEntries first l ++ x = stringifyEntries first m ++ y) : l = m ∧ x = y := by
  match l, m with
  | [], [] =>
    rw [stringifyEntries] at same
    exact ⟨rfl, List.append_cancel_left same⟩
  | [], (key, b) :: m =>
    cases first <;> simp [stringifyEntries, quoted, quoteMark] at same
  | (key, a) :: l, [] =>
    cases first <;> simp [stringifyEntries, quoted, quoteMark] at same
  | (key, a) :: l, (key', b) :: m =>
    simp only [stringifyEntries, List.append_assoc, List.append_cancel_left_eq,
      List.cons_append] at same
    obtain ⟨keys, value⟩ := quoted_inj same
    obtain ⟨rfl, later⟩ := stringify_inj a b (ends_entries l x) (ends_entries m y)
      (List.cons.inj value).2
    obtain ⟨rfl, rest⟩ := stringifyEntries_inj false l m later
    exact ⟨by rw [String.toList_inj.mp keys], rest⟩
end

end Text

section Canonical

variable (before : String → String → Prop)

def KeyBefore (l r : String × Value) : Prop := before l.1 r.1

instance [DecidableRel before] : DecidableRel (KeyBefore before) := fun l r =>
  inferInstanceAs (Decidable (before l.1 r.1))

instance [Std.Total before] : Std.Total (KeyBefore before) := ⟨fun l r => Std.Total.total l.1 r.1⟩

instance [IsTrans String before] : IsTrans (String × Value) (KeyBefore before) :=
  ⟨fun l m r => IsTrans.trans l.1 m.1 r.1⟩

variable [DecidableRel before]

mutual
def canonical : Value → Value
  | .array items => .array (canonicalItems items)
  | .object entries => .object ((canonicalEntries entries).insertionSort (KeyBefore before))
  | .null => .null
  | .bool value => .bool value
  | .number value => .number value
  | .string text => .string text

def canonicalItems : List Value → List Value
  | [] => []
  | item :: rest => canonical item :: canonicalItems rest

def canonicalEntries : List (String × Value) → List (String × Value)
  | [] => []
  | (key, value) :: rest => (key, canonical value) :: canonicalEntries rest
end

theorem canonicalEntries_eq_map (entries : List (String × Value)) :
    canonicalEntries before entries = entries.map fun entry => (entry.1, canonical before entry.2) := by
  induction entries with
  | nil => rw [canonicalEntries, List.map_nil]
  | cons entry rest ih => rw [canonicalEntries, List.map_cons, ih]

theorem canonicalEntries_keys (entries : List (String × Value)) :
    (canonicalEntries before entries).map Prod.fst = entries.map Prod.fst := by
  rw [canonicalEntries_eq_map, List.map_map]
  rfl

end Canonical

section Reordering

mutual
def WellFormed : Value → Prop
  | .array items => WellFormedItems items
  | .object entries => (entries.map Prod.fst).Nodup ∧ WellFormedEntries entries
  | .null | .bool _ | .number _ | .string _ => True

def WellFormedItems : List Value → Prop
  | [] => True
  | item :: rest => WellFormed item ∧ WellFormedItems rest

def WellFormedEntries : List (String × Value) → Prop
  | [] => True
  | (_, value) :: rest => WellFormed value ∧ WellFormedEntries rest
end

inductive Reordered : Value → Value → Prop
  | refl (a) : Reordered a a
  | permute {l m} : l.Perm m → Reordered (.object l) (.object m)
  | item {a b} (l r) : Reordered a b → Reordered (.array (l ++ a :: r)) (.array (l ++ b :: r))
  | entry {a b} (key l r) : Reordered a b →
      Reordered (.object (l ++ (key, a) :: r)) (.object (l ++ (key, b) :: r))
  | trans {a b c} : Reordered a b → Reordered b c → Reordered a c

theorem Reordered.symm {a b : Value} (reordered : Reordered a b) : Reordered b a := by
  induction reordered with
  | refl a => exact .refl a
  | permute perm => exact .permute perm.symm
  | item l r _ ih => exact .item l r ih
  | entry key l r _ ih => exact .entry key l r ih
  | trans _ _ first second => exact .trans second first

theorem wellFormedItems_iff (items : List Value) :
    WellFormedItems items ↔ ∀ item ∈ items, WellFormed item := by
  induction items with
  | nil => simp [WellFormedItems]
  | cons item rest ih => simp [WellFormedItems, ih]

theorem wellFormedEntries_iff (entries : List (String × Value)) :
    WellFormedEntries entries ↔ ∀ entry ∈ entries, WellFormed entry.2 := by
  induction entries with
  | nil => simp [WellFormedEntries]
  | cons entry rest ih => simp [WellFormedEntries, ih]

theorem wellFormed_cons {key : String} {value : Value} {l : List (String × Value)}
    (formed : WellFormed (.object ((key, value) :: l))) :
    key ∉ l.map Prod.fst ∧ WellFormed value ∧ WellFormed (.object l) := by
  rw [WellFormed, List.map_cons, List.nodup_cons, WellFormedEntries] at formed
  obtain ⟨⟨free, distinct⟩, formed_value, formed_l⟩ := formed
  exact ⟨free, formed_value, by rw [WellFormed]; exact ⟨distinct, formed_l⟩⟩

theorem Reordered.wellFormed {a b : Value} (reordered : Reordered a b) :
    WellFormed a ↔ WellFormed b := by
  induction reordered with
  | refl a => rfl
  | @permute l m perm =>
    rw [WellFormed, WellFormed, wellFormedEntries_iff, wellFormedEntries_iff,
      (perm.map Prod.fst).nodup_iff]
    simp only [perm.mem_iff]
  | item l r _ ih => simp only [WellFormed, wellFormedItems_iff, List.forall_mem_append,
      List.forall_mem_cons, ih]
  | entry key l r _ ih => simp only [WellFormed, wellFormedEntries_iff, List.map_append,
      List.map_cons, List.forall_mem_append, List.forall_mem_cons, ih]
  | trans _ _ first second => exact first.trans second

variable (before : String → String → Prop) [DecidableRel before]

theorem canonicalItems_append (l r : List Value) :
    canonicalItems before (l ++ r) = canonicalItems before l ++ canonicalItems before r := by
  induction l with
  | nil => rw [canonicalItems, List.nil_append, List.nil_append]
  | cons item rest ih => rw [List.cons_append, canonicalItems, canonicalItems, ih, List.cons_append]

mutual
theorem reordered_canonical (a : Value) : Reordered a (canonical before a) := by
  match a with
  | .null | .bool _ | .number _ | .string _ => rw [canonical]; exact .refl _
  | .array items =>
    rw [canonical]
    exact reordered_canonicalItems [] items
  | .object entries =>
    rw [canonical]
    exact (reordered_canonicalEntries [] entries).trans
      (.permute (List.perm_insertionSort _ _).symm)

theorem reordered_canonicalItems (done items : List Value) :
    Reordered (.array (done ++ items)) (.array (done ++ canonicalItems before items)) := by
  match items with
  | [] => rw [canonicalItems]; exact .refl _
  | item :: rest =>
    rw [canonicalItems]
    refine .trans (.item done rest (reordered_canonical item)) ?_
    simpa using reordered_canonicalItems (done ++ [canonical before item]) rest

theorem reordered_canonicalEntries (done entries : List (String × Value)) :
    Reordered (.object (done ++ entries)) (.object (done ++ canonicalEntries before entries)) := by
  match entries with
  | [] => rw [canonicalEntries]; exact .refl _
  | (key, value) :: rest =>
    rw [canonicalEntries]
    refine .trans (.entry key done rest (reordered_canonical value)) ?_
    simpa using reordered_canonicalEntries (done ++ [(key, canonical before value)]) rest
end

variable [Std.Total before] [IsTrans String before] [Std.Antisymm before]

theorem insertionSort_eq_of_perm {l m : List (String × Value)} (distinct : (l.map Prod.fst).Nodup)
    (perm : l.Perm m) :
    l.insertionSort (KeyBefore before) = m.insertionSort (KeyBefore before) := by
  have sorted (l : List (String × Value)) :
      (l.insertionSort (KeyBefore before)).Pairwise (KeyBefore before) :=
    List.pairwise_insertionSort _ l
  refine List.Perm.eq_of_pairwise (fun x y at_l at_m xy yx => ?_) (sorted l) (sorted m)
    ((List.perm_insertionSort _ l).trans (perm.trans (List.perm_insertionSort _ m).symm))
  have in_l : y ∈ l := perm.mem_iff.mpr ((List.mem_insertionSort _).mp at_m)
  exact List.inj_on_of_nodup_map distinct ((List.mem_insertionSort _).mp at_l) in_l
    (Std.Antisymm.antisymm _ _ xy yx)

theorem Reordered.canonical_eq {a b : Value} (reordered : Reordered a b) (formed : WellFormed a) :
    canonical before a = canonical before b := by
  induction reordered with
  | refl a => rfl
  | @permute l m perm =>
    rw [WellFormed] at formed
    rw [canonical, canonical]
    refine congrArg _ (insertionSort_eq_of_perm before ?_ ?_)
    · rw [canonicalEntries_keys]
      exact formed.1
    · rw [canonicalEntries_eq_map, canonicalEntries_eq_map]
      exact perm.map _
  | item l r _ ih =>
    simp only [WellFormed, wellFormedItems_iff, List.forall_mem_append,
      List.forall_mem_cons] at formed
    simp only [canonical, canonicalItems_append, canonicalItems, ih formed.2.1]
  | entry key l r _ ih =>
    simp only [WellFormed, wellFormedEntries_iff, List.forall_mem_append,
      List.forall_mem_cons] at formed
    simp only [canonical, canonicalEntries_eq_map, List.map_append, List.map_cons,
      ih formed.2.2.1]
  | trans first _ ih ih' => exact (ih formed).trans (ih' (first.wellFormed.mp formed))

theorem canonical_eq_iff {a b : Value} (formed : WellFormed a) :
    canonical before a = canonical before b ↔ Reordered a b := by
  refine ⟨fun same => ?_, fun reordered => reordered.canonical_eq before formed⟩
  exact (reordered_canonical before a).trans (same ▸ (reordered_canonical before b).symm)

theorem reordered_object_iff {l m : List (String × Value)} (formed : WellFormed (.object l)) :
    Reordered (.object l) (.object m) ↔
      (canonicalEntries before l).Perm (canonicalEntries before m) := by
  rw [← canonical_eq_iff before formed, canonical, canonical, Value.object.injEq]
  refine ⟨fun same => ?_, fun perm => ?_⟩
  · exact (List.perm_insertionSort (KeyBefore before) _).symm.trans
      (same ▸ List.perm_insertionSort (KeyBefore before) _)
  · refine insertionSort_eq_of_perm before ?_ perm
    rw [canonicalEntries_keys]
    rw [WellFormed] at formed
    exact formed.1

theorem reordered_cons_iff {key : String} {u v : Value} {l m : List (String × Value)}
    (formed : WellFormed (.object ((key, u) :: l))) (free : key ∉ m.map Prod.fst) :
    Reordered (.object ((key, u) :: l)) (.object ((key, v) :: m)) ↔
      Reordered u v ∧ Reordered (.object l) (.object m) := by
  obtain ⟨free_l, formed_u, formed_rest⟩ := wellFormed_cons formed
  -- Any order of the keys tells the entries apart.
  let before : String → String → Prop := (· ≤ ·)
  rw [reordered_object_iff before formed, reordered_object_iff before formed_rest,
    canonicalEntries, canonicalEntries, ← canonical_eq_iff before formed_u]
  refine ⟨fun perm => ?_, fun ⟨same, perm⟩ => same ▸ perm.cons _⟩
  have at_m : (key, canonical before u) ∈ (key, canonical before v) :: canonicalEntries before m :=
    perm.mem_iff.mp List.mem_cons_self
  rcases List.mem_cons.mp at_m with same | at_m
  · rw [same] at perm
    exact ⟨(Prod.mk.inj same).2, List.perm_cons _ |>.mp perm⟩
  · rw [← canonicalEntries_keys before] at free
    exact absurd (List.mem_map_of_mem (f := Prod.fst) at_m) free

theorem reordered_string_iff {s t : String} :
    Reordered (.string s) (.string t) ↔ s = t := by
  rw [← canonical_eq_iff (fun l r : String => l ≤ r) (by rw [WellFormed]; trivial), canonical,
    canonical, Value.string.injEq]

theorem stringify_canonical_iff {a b : Value} (formed : WellFormed a) :
    stringify (canonical before a) = stringify (canonical before b) ↔ Reordered a b := by
  rw [← canonical_eq_iff before formed]
  refine ⟨fun same => ?_, fun same => by rw [same]⟩
  exact (stringify_inj _ _ (x := []) (y := []) trivial trivial
    (by rw [List.append_nil, List.append_nil, same])).1

end Reordering

end CanonicalJson
