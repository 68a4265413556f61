import Mathlib.Algebra.GroupWithZero.Nat
import LeaderProduct.CanonicalJson
import LeaderProduct.FramedLines
import LeaderProduct.JsString

/-! The data of QR codes, and the contacts among them: a contact becomes a card of lines, whose
values are escaped by halves. -/
namespace LeaderProduct
open CanonicalJson FramedLines

section Escaping

def replaceAll (c : Char) (replacement : List Char) (text : List Char) : List Char :=
  text.flatMap fun d => if d = c then replacement else [d]

def escapeValue (value : List Char) : List Char :=
  replaceAll ',' ['\\', ','] (replaceAll '\n' ['\\', 'n'] value)

end Escaping

section Card

structure JsonReader where
  parse : List Char → Option Value
  reads : ∀ value, WellFormed value → parse (stringify value) = some value

structure Validators where
  isEmail : List Char → Bool
  isURL : List Char → Bool

def field (contact : Value) (key : String) : Option Value :=
  match contact with
  | .object entries => (entries.find? (fun entry => entry.1 == key)).map (·.2)
  | _ => none

def isTruthyField : Value → Bool
  | .null => false
  | .bool value => value
  | .number n => n.text != ['0'] && n.text != ['-', '0']
  | .string text => text != ""
  | .array _ => true
  | .object _ => true

def contactProperties : List (List Char × String) :=
  [(['F', 'N'], "name"), (['T', 'E', 'L'], "phone"), (['E', 'M', 'A', 'I', 'L'], "email"),
    (['O', 'R', 'G'], "org"), (['T', 'I', 'T', 'L', 'E'], "title"), (['A', 'D', 'R'], "address"),
    (['U', 'R', 'L'], "url"), (['N', 'O', 'T', 'E'], "note"), (['B', 'D', 'A', 'Y'], "birthday"),
    (['F', 'A', 'X'], "fax"), (['P', 'H', 'O', 'T', 'O'], "photo")]

def cardHead : List Char := "BEGIN:VCARD\nVERSION:3.0\n".toList

def cardEnd : List Char := "END:VCARD".toList

def propertyLine (contact : Value) (property : List Char × String) : Option (List Char) :=
  match (field contact property.2).filter isTruthyField with
  | none => some []
  | some (.string text) => some (property.1 ++ ':' :: (escapeValue text.toList ++ ['\n']))
  | some _ => none

/-- `generateVCard`, `none` where it throws. -/
def generateVCard (contact : Value) : Option (List Char) :=
  match contact with
  | .null => none
  | _ => (contactProperties.mapM (propertyLine contact)).map fun lines =>
      cardHead ++ lines.flatten ++ cardEnd

end Card

section Codes

inductive QrType where
  | phone
  | link
  | email
  | text
  | whatsapp
  | telegram
  | contact

/-- `typeof raw`: `undefined` is `none`. -/
def toStringData : Option Value → List Char
  | none => []
  | some (.string text) => text.toList
  | some value => stringify value

variable (reader : JsonReader) (validator : Validators)

def isDigits (low high : Nat) (text : List Char) : Bool :=
  decide (low ≤ text.length ∧ text.length ≤ high) && text.all Char.isDigit

def isUserName (text : List Char) : Bool :=
  decide (5 ≤ text.length ∧ text.length ≤ 32) && text.all (fun c => c.isAlphanum || c == '_')

def validateQRData (qrType : QrType) (qrData : List Char) : Option String :=
  match qrType with
  | .phone | .whatsapp =>
    match qrData with
    | '+' :: digits =>
      if isDigits 5 11 digits then none
      else some "Номер телефона должен начинаться с + и содержать до 12 символов"
    | _ => some "Номер телефона должен начинаться с + и содержать до 12 символов"
  | .email => if validator.isEmail qrData then none else some "Неверный email"
  | .link => if validator.isURL qrData then none else some "Неверный URL"
  | .telegram =>
    match qrData with
    | '@' :: name =>
      if isUserName name then none
      else some "Telegram username должен начинаться с @ и быть от 5 до 32 символов"
    | _ => some "Telegram username должен начинаться с @ и быть от 5 до 32 символов"
  | .contact =>
    match reader.parse qrData with
    | none => some "Неверный JSON формат контакта"
    | some .null => some "Неверный JSON формат контакта"
    | some contact =>
      match field contact "name" with
      | some (.string name) =>
        if name = "" then some "Контакт должен содержать поле name" else none
      | _ => some "Контакт должен содержать поле name"
  | .text =>
    if 1000 < JsString.codeUnits qrData then some "Слишком длинный текст (макс 1000 символов)" else none

def contactData (data : List Char) : Except String (List Char) :=
  if "BEGIN:VCARD".toList.isPrefixOf data then .ok data
  else
    match (reader.parse data).bind generateVCard with
    | some card => .ok card
    | none => .error "Неверный формат контактных данных"

def cleanedPhone (data : List Char) : List Char :=
  let cleaned := data.filter (fun c => c.isDigit || c == '+')
  (if ['+'].isPrefixOf cleaned then cleaned else '+' :: cleaned.filter Char.isDigit).take 12

def withAt (data : List Char) : List Char :=
  if ['@'].isPrefixOf data then data else '@' :: data.dropWhile (· == '@')

def normalizeAndValidate (qrType : QrType) (qrDataRaw : Option Value) :
    Except String (List Char) :=
  let data := toStringData qrDataRaw
  match qrType with
  | .contact => contactData reader data
  | _ =>
    let normalized := match qrType with
      | .phone | .whatsapp => cleanedPhone data
      | .telegram => withAt data
      | _ => data
    match validateQRData reader validator qrType normalized with
    | some validationError => .error validationError
    | none => .ok normalized

end Codes

section Contacts

def shown (contact : Value) (property : List Char × String) : Option (List Char × List Char) :=
  match (field contact property.2).filter isTruthyField with
  | some (.string text) => some (property.1, text.toList)
  | _ => none

structure ContactObject where
  entries : List (String × Value)
  formed : WellFormed (.object entries)
  texts : ∀ property ∈ contactProperties, ∀ value,
    field (.object entries) property.2 = some value → ∃ text, value = .string text

def ContactObject.value (contact : ContactObject) : Value := .object contact.entries

/-- The rendered fields, each under its property. -/
def ContactObject.rendered (contact : ContactObject) : List (List Char × List Char) :=
  contactProperties.filterMap (shown contact.value)

structure LineBreaks where
  isBreak : Char → Bool
  lineFeed : isBreak '\n' = true
  visible : ∀ c : Char, 32 ≤ c.toNat → c.toNat < 127 → isBreak c = false

def cardLines (breaks : LineBreaks) (card : List Char) : List (List Char) :=
  card.splitOnP breaks.isBreak

variable (reader : JsonReader) (validator : Validators)

def contactCode (contact : ContactObject) : Except String (List Char) :=
  normalizeAndValidate reader validator .contact (some contact.value)

def Lossless (contact : ContactObject) : Prop :=
  ∀ other : ContactObject,
    contactCode reader validator other = contactCode reader validator contact →
    other.rendered = contact.rendered

def KeepsLines (breaks : LineBreaks) (contact : ContactObject) : Prop :=
  ∃ card, contactCode reader validator contact = .ok card ∧
    (cardLines breaks card).length = contact.rendered.length + 3

def Plain (breaks : LineBreaks) (text : List Char) : Prop :=
  (∀ c ∈ text, breaks.isBreak c = false) ∧ ¬ ['\\', 'n'] <:+: text

end Contacts

variable {text : List Char}

section Escapes

theorem replaceAll_cons (c : Char) (replacement : List Char) (d : Char) (text : List Char) :
    replaceAll c replacement (d :: text) =
      (if d = c then replacement else [d]) ++ replaceAll c replacement text := rfl

theorem replaceAll_append (c : Char) (replacement l r : List Char) :
    replaceAll c replacement (l ++ r) =
      replaceAll c replacement l ++ replaceAll c replacement r := List.flatMap_append

theorem replaceAll_of_notMem {c : Char} {replacement : List Char} (absent : c ∉ text) :
    replaceAll c replacement text = text := by
  induction text with
  | nil => rfl
  | cons d rest ih =>
    rw [List.mem_cons, not_or] at absent
    rw [replaceAll_cons, if_neg (Ne.symm absent.1), ih absent.2]
    rfl

theorem mem_replaceAll {c d : Char} {replacement : List Char} :
    d ∈ replaceAll c replacement text ↔ (d ∈ text ∧ d ≠ c) ∨ (c ∈ text ∧ d ∈ replacement) := by
  induction text with
  | nil => simp [replaceAll]
  | cons e rest ih =>
    rw [replaceAll_cons, List.mem_append, ih]
    by_cases here : e = c
    · subst here
      simp only [if_true, List.mem_cons]
      grind
    · simp only [if_neg here, List.mem_cons]
      grind

def unescapeCommas : List Char → List Char
  | '\\' :: ',' :: rest => ',' :: unescapeCommas rest
  | c :: rest => c :: unescapeCommas rest
  | [] => []

theorem unescapeCommas_cons (c : Char) {rest : List Char} (other : rest.head? ≠ some ',') :
    unescapeCommas (c :: rest) = c :: unescapeCommas rest := by
  rw [unescapeCommas]
  intro rest' _ same
  rw [same] at other
  exact other rfl

theorem escaped_head (text : List Char) :
    (replaceAll ',' ['\\', ','] text).head? ≠ some ',' := by
  cases text with
  | nil => exact nofun
  | cons c rest =>
    rw [replaceAll_cons]
    by_cases comma : c = ','
    · simp [if_pos comma]
    · simpa [if_neg comma] using comma

theorem unescapeCommas_escaped (text : List Char) :
    unescapeCommas (replaceAll ',' ['\\', ','] text) = text := by
  induction text with
  | nil => rfl
  | cons c rest ih =>
    rw [replaceAll_cons]
    by_cases comma : c = ','
    · subst comma
      simp only [if_true, List.cons_append, List.nil_append, unescapeCommas, ih]
    · rw [if_neg comma, List.singleton_append, unescapeCommas_cons c (escaped_head rest), ih]

theorem escapeValue_eq_iff {other : List Char} : escapeValue text = escapeValue other ↔
    replaceAll '\n' ['\\', 'n'] text = replaceAll '\n' ['\\', 'n'] other := by
  unfold escapeValue
  constructor
  · intro same
    have read := congrArg unescapeCommas same
    rwa [unescapeCommas_escaped, unescapeCommas_escaped] at read
  · intro same
    rw [same]

theorem lineFeed_notMem_replaced (text : List Char) :
    '\n' ∉ replaceAll '\n' ['\\', 'n'] text := by
  rw [mem_replaceAll]
  simp

theorem escapeValue_unique_iff (text : List Char) :
    (∀ other, escapeValue other = escapeValue text → other = text) ↔
      '\n' ∉ text ∧ ¬ ['\\', 'n'] <:+: text := by
  constructor
  · intro unique
    have clear : '\n' ∉ text := by
      intro here
      have twin := unique (replaceAll '\n' ['\\', 'n'] text)
        (escapeValue_eq_iff.mpr (replaceAll_of_notMem (lineFeed_notMem_replaced text)))
      rw [← twin] at here
      exact lineFeed_notMem_replaced text here
    refine ⟨clear, ?_⟩
    rintro ⟨l, r, rfl⟩
    rw [List.mem_append, List.mem_append, not_or, not_or] at clear
    have twin := unique (l ++ ['\n'] ++ r) (escapeValue_eq_iff.mpr ?_)
    · have lengths := congrArg List.length twin
      simp at lengths
    · simp only [replaceAll_append, replaceAll_of_notMem clear.1.1, replaceAll_of_notMem clear.2,
        replaceAll_of_notMem clear.1.2]
      rfl
  · rintro ⟨clear, apart⟩ other same
    rw [escapeValue_eq_iff, replaceAll_of_notMem clear] at same
    by_cases here : '\n' ∈ other
    · obtain ⟨l, r, rfl⟩ := List.append_of_mem here
      refine absurd ⟨replaceAll '\n' ['\\', 'n'] l, replaceAll '\n' ['\\', 'n'] r, ?_⟩ apart
      rw [← same, replaceAll_append, replaceAll_cons, if_pos rfl, List.append_assoc]
    · rw [← same, replaceAll_of_notMem here]

end Escapes

section Lines

def framed (shownFields : List (List Char × List Char)) : List (List Char × List Char) :=
  ("BEGIN".toList, "VCARD".toList) :: ("VERSION".toList, "3.0".toList) ::
    (shownFields.map (fun entry => (entry.1, escapeValue entry.2)) ++
      [("END".toList, "VCARD".toList)])

def cardOf (shownFields : List (List Char × List Char)) : List Char :=
  joined '\n' ':' (framed shownFields)

theorem cardOf_eq (shownFields : List (List Char × List Char)) :
    cardOf shownFields = cardHead ++ (shownFields.map fun entry =>
      entry.1 ++ ':' :: (escapeValue entry.2 ++ ['\n'])).flatten ++ cardEnd := by
  have ended (l : List (List Char × List Char)) :
      joined '\n' ':' (l.map (fun entry => (entry.1, escapeValue entry.2)) ++
          [("END".toList, "VCARD".toList)]) =
        (l.map fun entry => entry.1 ++ ':' :: (escapeValue entry.2 ++ ['\n'])).flatten ++
          cardEnd := by
    induction l with
    | nil => rfl
    | cons entry rest ih =>
      obtain ⟨next, later, here⟩ : ∃ next later,
          rest.map (fun entry => (entry.1, escapeValue entry.2)) ++
            [("END".toList, "VCARD".toList)] = next :: later := by
        cases rest <;> exact ⟨_, _, rfl⟩
      rw [here] at ih
      rw [List.map_cons, List.cons_append, here, joined, List.map_cons, List.map_cons,
        List.intercalate_cons_cons, ← List.map_cons, ← joined, ih]
      simp [line]
  obtain ⟨next, later, here⟩ : ∃ next later,
      shownFields.map (fun entry => (entry.1, escapeValue entry.2)) ++
        [("END".toList, "VCARD".toList)] = next :: later := by
    cases shownFields <;> exact ⟨_, _, rfl⟩
  have rest := ended shownFields
  rw [here] at rest
  rw [cardOf, framed, here, joined, List.map_cons, List.map_cons, List.map_cons,
    List.intercalate_cons_cons, List.intercalate_cons_cons, ← List.map_cons, ← joined, rest,
    List.append_assoc]
  rfl

def IsName (name : List Char) : Prop := '\n' ∉ name ∧ ':' ∉ name

variable {shownFields : List (List Char × List Char)}

theorem framed_entries (names : ∀ entry ∈ shownFields, IsName entry.1) :
    ∀ entry ∈ framed shownFields, Framed '\n' ':' entry := by
  have fixed : Framed '\n' ':' ("BEGIN".toList, "VCARD".toList) ∧
      Framed '\n' ':' ("VERSION".toList, "3.0".toList) ∧
      Framed '\n' ':' ("END".toList, "VCARD".toList) := by
    refine ⟨⟨?_, ?_, ?_⟩, ⟨?_, ?_, ?_⟩, ⟨?_, ?_, ?_⟩⟩ <;> decide
  intro entry here
  simp only [framed, List.mem_cons, List.mem_append, List.mem_map, List.not_mem_nil,
    or_false] at here
  rcases here with rfl | rfl | ⟨given, known, rfl⟩ | rfl
  · exact fixed.1
  · exact fixed.2.1
  · obtain ⟨key, unmarked⟩ := names given known
    refine ⟨key, unmarked, ?_⟩
    rw [escapeValue, mem_replaceAll]
    rintro (⟨inside, _⟩ | ⟨_, inside⟩)
    · exact lineFeed_notMem_replaced given.2 inside
    · revert inside
      decide
  · exact fixed.2.2

theorem cardOf_eq_iff {l m : List (List Char × List Char)} (names : ∀ entry ∈ l, IsName entry.1)
    (names' : ∀ entry ∈ m, IsName entry.1) : cardOf l = cardOf m ↔
      l.map (fun entry => (entry.1, escapeValue entry.2)) =
        m.map (fun entry => (entry.1, escapeValue entry.2)) := by
  constructor
  · intro same
    have entries := joined_inj (by decide) (framed_entries names) (framed_entries names')
      (List.cons_ne_nil _ _) (List.cons_ne_nil _ _) same
    simpa [framed] using entries
  · intro same
    rw [cardOf, cardOf, framed, framed, same]

theorem length_splitOnP (p : Char → Bool) (text : List Char) :
    (text.splitOnP p).length = text.countP p + 1 := by
  induction text with
  | nil => rfl
  | cons c rest ih =>
    rw [List.splitOnP_cons_eq_if_modifyHead, List.countP_cons]
    split
    · simp [ih]
    · simp [ih]

variable (breaks : LineBreaks)

theorem break_escaped_iff (text : List Char) :
    (∀ c ∈ escapeValue text, breaks.isBreak c = false) ↔
      ∀ c ∈ text, c ≠ '\n' → breaks.isBreak c = false := by
  have visible : breaks.isBreak ',' = false ∧ breaks.isBreak '\\' = false ∧
      breaks.isBreak 'n' = false := by
    refine ⟨breaks.visible _ ?_ ?_, breaks.visible _ ?_ ?_, breaks.visible _ ?_ ?_⟩ <;> decide
  simp only [escapeValue, mem_replaceAll, List.mem_cons, List.not_mem_nil, or_false]
  constructor
  · intro clear c here other
    by_cases comma : c = ','
    · rw [comma]
      exact visible.1
    · exact clear c (.inl ⟨.inl ⟨here, other⟩, comma⟩)
  · rintro clear c (⟨⟨here, other⟩ | ⟨_, rfl | rfl⟩, _⟩ | ⟨_, rfl | rfl⟩)
    · exact clear c here other
    · exact visible.2.1
    · exact visible.2.2
    · exact visible.2.1
    · exact visible.1

theorem countP_visible (visible : ∀ c ∈ text, 32 ≤ c.toNat ∧ c.toNat < 127) :
    text.countP breaks.isBreak = 0 := by
  rw [List.countP_eq_zero]
  intro c here
  rw [breaks.visible c (visible c here).1 (visible c here).2]
  exact Bool.false_ne_true

theorem countP_cardOf (names : ∀ entry ∈ shownFields, ∀ c ∈ entry.1, 32 ≤ c.toNat ∧ c.toNat < 127) :
    (cardOf shownFields).countP breaks.isBreak = shownFields.length + 2 +
      (shownFields.map fun entry => (escapeValue entry.2).countP breaks.isBreak).sum := by
  have head : cardHead.countP breaks.isBreak = 2 := by
    have split : cardHead = "BEGIN:VCARD".toList ++ '\n' :: ("VERSION:3.0".toList ++ ['\n']) := rfl
    rw [split, List.countP_append, List.countP_cons, List.countP_append,
      countP_visible breaks (by simp), countP_visible breaks (by simp)]
    simp [breaks.lineFeed]
  have ending : cardEnd.countP breaks.isBreak = 0 := by
    unfold cardEnd
    exact countP_visible breaks (by simp)
  have mark : breaks.isBreak ':' = false := breaks.visible _ (by decide) (by decide)
  rw [cardOf_eq, List.countP_append, List.countP_append, head, ending]
  suffices fields : (shownFields.map fun entry =>
      entry.1 ++ ':' :: (escapeValue entry.2 ++ ['\n'])).flatten.countP breaks.isBreak =
        shownFields.length +
          (shownFields.map fun entry => (escapeValue entry.2).countP breaks.isBreak).sum by
    omega
  induction shownFields with
  | nil => rfl
  | cons entry rest ih =>
    have later := ih fun other here => names other (List.mem_cons_of_mem _ here)
    have name := countP_visible breaks (names entry List.mem_cons_self)
    simp only [List.map_cons, List.flatten_cons, List.countP_append, List.countP_cons, name, mark,
      breaks.lineFeed, List.countP_nil, later, List.sum_cons, List.length_cons]
    simp
    omega

theorem length_cardLines_iff
    (names : ∀ entry ∈ shownFields, ∀ c ∈ entry.1, 32 ≤ c.toNat ∧ c.toNat < 127) :
    (cardLines breaks (cardOf shownFields)).length = shownFields.length + 3 ↔
      ∀ entry ∈ shownFields, ∀ c ∈ entry.2, c ≠ '\n' → breaks.isBreak c = false := by
  rw [cardLines, length_splitOnP, countP_cardOf breaks names]
  have sum_zero : shownFields.length + 2 + (shownFields.map fun entry =>
      (escapeValue entry.2).countP breaks.isBreak).sum + 1 = shownFields.length + 3 ↔
        (shownFields.map fun entry => (escapeValue entry.2).countP breaks.isBreak).sum = 0 := by
    omega
  rw [sum_zero, List.sum_eq_zero_iff_forall_eq_nat]
  simp only [List.forall_mem_map, List.countP_eq_zero, Bool.not_eq_true]
  exact forall₂_congr fun entry _ => break_escaped_iff breaks entry.2

end Lines

section Fields

theorem visible_names : ∀ property ∈ contactProperties, ∀ c ∈ property.1,
    (32 ≤ c.toNat ∧ c.toNat < 127) ∧ c ≠ '\n' ∧ c ≠ ':' := by simp [contactProperties]

theorem distinct_properties : (contactProperties.map (·.1)).Nodup ∧
    (contactProperties.map (·.2)).Nodup := by decide

variable {contact : ContactObject}

variable {property : List Char × String}

theorem shown_eq_some {value : Value} {entry : List Char × List Char}
    (here : shown value property = some entry) :
    entry.1 = property.1 ∧ ∃ text : String, text ≠ "" ∧
      field value property.2 = some (.string text) ∧ entry.2 = text.toList := by
  unfold shown at here
  split at here
  · next text found =>
    cases here
    obtain ⟨there, filled⟩ := Option.filter_eq_some_iff.mp found
    exact ⟨rfl, text, by simpa [isTruthyField] using filled, there, rfl⟩
  · cases here

theorem rendered_names : ∀ entry ∈ contact.rendered, ∀ c ∈ entry.1,
    (32 ≤ c.toNat ∧ c.toNat < 127) ∧ c ≠ '\n' ∧ c ≠ ':' := by
  intro entry here c inside
  obtain ⟨property, known, shows⟩ := List.mem_filterMap.mp here
  rw [(shown_eq_some shows).1] at inside
  exact visible_names property known c inside

theorem rendered_isName : ∀ entry ∈ contact.rendered, IsName entry.1 := by
  intro entry here
  exact ⟨fun inside => (rendered_names entry here _ inside).2.1 rfl,
    fun inside => (rendered_names entry here _ inside).2.2 rfl⟩

theorem propertyLine_eq (contact : ContactObject) (known : property ∈ contactProperties) :
    propertyLine contact.value property =
      some ((shown contact.value property).elim [] fun entry =>
        entry.1 ++ ':' :: (escapeValue entry.2 ++ ['\n'])) := by
  unfold propertyLine shown
  cases found : (field contact.value property.2).filter isTruthyField with
  | none => rfl
  | some value =>
    obtain ⟨text, rfl⟩ := contact.texts property known value
      (Option.filter_eq_some_iff.mp found).1
    rfl

theorem generateVCard_eq (contact : ContactObject) :
    generateVCard contact.value = some (cardOf contact.rendered) := by
  have general (properties : List (List Char × String))
      (known : ∀ property ∈ properties, property ∈ contactProperties) :
      ∃ lines, properties.mapM (propertyLine contact.value) = some lines ∧
        lines.flatten = ((properties.filterMap (shown contact.value)).map fun entry =>
          entry.1 ++ ':' :: (escapeValue entry.2 ++ ['\n'])).flatten := by
    induction properties with
    | nil => exact ⟨[], rfl, rfl⟩
    | cons property rest ih =>
      obtain ⟨lines, mapped, flat⟩ := ih fun other here => known other (List.mem_cons_of_mem _ here)
      have first := propertyLine_eq contact (known property List.mem_cons_self)
      cases here : shown contact.value property with
      | none =>
        rw [here] at first
        refine ⟨[] :: lines, ?_, ?_⟩
        · rw [List.mapM_cons, first, mapped]
          rfl
        · rw [List.filterMap_cons_none here, List.flatten_cons, flat]
          rfl
      | some entry =>
        rw [here] at first
        refine ⟨(entry.1 ++ ':' :: (escapeValue entry.2 ++ ['\n'])) :: lines, ?_, ?_⟩
        · rw [List.mapM_cons, first, mapped]
          rfl
        · rw [List.filterMap_cons_some here, List.flatten_cons, flat]
          rfl
  obtain ⟨lines, mapped, flat⟩ := general contactProperties fun _ => id
  have opened : generateVCard contact.value =
      (contactProperties.mapM (propertyLine contact.value)).map fun lines =>
        cardHead ++ lines.flatten ++ cardEnd := rfl
  rw [opened, mapped, cardOf_eq, Option.map_some, flat]
  rfl

theorem contactCode_eq (reader : JsonReader) (validator : Validators) (contact : ContactObject) :
    contactCode reader validator contact = .ok (cardOf contact.rendered) := by
  have text : toStringData (some contact.value) = '{' :: stringifyEntries true contact.entries := by
    simp only [ContactObject.value, toStringData, stringify]
  have other : "BEGIN:VCARD".toList.isPrefixOf (toStringData (some contact.value)) = false := by
    rw [text]
    rfl
  have parsed : reader.parse (toStringData (some contact.value)) = some contact.value :=
    reader.reads contact.value contact.formed
  simp only [contactCode, normalizeAndValidate, contactData, other, parsed, Option.bind_some,
    generateVCard_eq, Bool.false_eq_true, if_false]

def replaced (key text : String) (entry : String × Value) : String × Value :=
  if entry.1 = key then (key, .string text) else entry

theorem replaced_key (key text : String) (entry : String × Value) :
    (replaced key text entry).1 = entry.1 := by
  unfold replaced
  split
  · next same => exact same.symm
  · rfl

theorem field_replaced (entries : List (String × Value)) (key text other : String) :
    field (.object (entries.map (replaced key text))) other =
      if other = key then (field (.object entries) key).map fun _ => .string text
      else field (.object entries) other := by
  have same : ((fun entry : String × Value => entry.1 == other) ∘ replaced key text) =
      fun entry => entry.1 == other := by
    funext entry
    rw [Function.comp_apply, replaced_key]
  simp only [field, List.find?_map, same, Option.map_map]
  by_cases here : other = key
  · rw [if_pos here, here]
    cases found : entries.find? (fun entry => entry.1 == key) with
    | none => rfl
    | some entry =>
      have own : entry.1 = key := by simpa using List.find?_some found
      simp [replaced, own]
  · rw [if_neg here]
    cases found : entries.find? (fun entry => entry.1 == other) with
    | none => rfl
    | some entry =>
      have own : entry.1 = other := by simpa using List.find?_some found
      simp [replaced, own, here]

def ContactObject.setField (contact : ContactObject) (key text : String) : ContactObject where
  entries := contact.entries.map (replaced key text)
  formed := by
    have formed := contact.formed
    rw [WellFormed, wellFormedEntries_iff] at formed ⊢
    refine ⟨?_, List.forall_mem_map.mpr fun entry known => ?_⟩
    · rw [List.map_map]
      have same : Prod.fst ∘ replaced key text = Prod.fst :=
        funext fun entry => replaced_key key text entry
      rw [same]
      exact formed.1
    · unfold replaced
      split
      · trivial
      · exact formed.2 entry known
  texts := by
    intro property known value found
    rw [field_replaced] at found
    split at found
    · obtain ⟨_, _, rfl⟩ := Option.map_eq_some_iff.mp found
      exact ⟨text, rfl⟩
    · exact contact.texts property known value found

theorem escapeValue_eq_nil (empty : escapeValue text = []) : text = [] := by
  cases text with
  | nil => rfl
  | cons c rest =>
    rw [escapeValue, replaceAll_cons] at empty
    by_cases feed : c = '\n'
    · subst feed
      cases empty
    · rw [if_neg feed, List.singleton_append, replaceAll_cons] at empty
      by_cases comma : c = ','
      · subst comma
        cases empty
      · rw [if_neg comma] at empty
        cases empty

theorem escaped_setField {text other : String}
    (has : field contact.value property.2 = some (.string text)) (filled : text ≠ "")
    (same : escapeValue other.toList = escapeValue text.toList) :
    (contact.setField property.2 other).rendered.map (fun entry => (entry.1, escapeValue entry.2)) =
      contact.rendered.map (fun entry => (entry.1, escapeValue entry.2)) := by
  have other_filled : other ≠ "" := by
    rintro rfl
    exact filled (String.toList_eq_nil_iff.mp (escapeValue_eq_nil same.symm))
  have each (given : List Char × String) :
      ((shown (contact.setField property.2 other).value given).map
        fun entry => (entry.1, escapeValue entry.2)) =
        (shown contact.value given).map fun entry => (entry.1, escapeValue entry.2) := by
    have changed := field_replaced contact.entries property.2 other given.2
    have value : field (contact.setField property.2 other).value given.2 = _ := changed
    have kept {text : String} (filled : text ≠ "") :
        (some (Value.string text)).filter isTruthyField = some (.string text) := by
      rw [Option.filter_some, if_pos]
      simpa [isTruthyField] using filled
    unfold shown
    by_cases here : given.2 = property.2
    · have found : field (.object contact.entries) property.2 = some (.string text) := has
      rw [value, if_pos here, here, has, found, Option.map_some, kept filled, kept other_filled]
      simp [same]
    · rw [value, if_neg here]
      rfl
  unfold ContactObject.rendered
  rw [List.map_filterMap, List.map_filterMap]
  exact List.filterMap_congr fun given _ => each given

theorem rendered_eq_of_unique {l m : List (List Char × List Char)}
    (unique : ∀ entry ∈ m, ∀ other, escapeValue other = escapeValue entry.2 → other = entry.2)
    (same : l.map (fun entry => (entry.1, escapeValue entry.2)) =
      m.map (fun entry => (entry.1, escapeValue entry.2))) : l = m := by
  induction l generalizing m with
  | nil =>
    cases m with
    | nil => rfl
    | cons entry rest => cases same
  | cons entry rest ih =>
    cases m with
    | nil => cases same
    | cons entry' rest' =>
      rw [List.map_cons, List.map_cons, List.cons.injEq, Prod.mk.injEq] at same
      have values := unique entry' List.mem_cons_self entry.2 same.1.2
      have later := ih (fun other here => unique other (List.mem_cons_of_mem _ here)) same.2
      rw [Prod.ext same.1.1 values, later]

/-- A contact is lost with its code exactly where one of its texts is not the only one that is
escaped so. -/
theorem lossless_iff (reader : JsonReader) (validator : Validators) (contact : ContactObject) :
    Lossless reader validator contact ↔
      ∀ entry ∈ contact.rendered, '\n' ∉ entry.2 ∧ ¬ ['\\', 'n'] <:+: entry.2 := by
  have code_iff (other : ContactObject) :
      contactCode reader validator other = contactCode reader validator contact ↔
        other.rendered.map (fun entry => (entry.1, escapeValue entry.2)) =
          contact.rendered.map (fun entry => (entry.1, escapeValue entry.2)) := by
    rw [contactCode_eq, contactCode_eq, Except.ok.injEq,
      cardOf_eq_iff rendered_isName rendered_isName]
  simp only [← escapeValue_unique_iff, Lossless, code_iff]
  constructor
  · intro lossless entry here other same
    obtain ⟨property, known, shows⟩ := List.mem_filterMap.mp here
    obtain ⟨name, text, filled, has, written⟩ := shown_eq_some shows
    rw [written] at same ⊢
    have twin := lossless (contact.setField property.2 (String.ofList other))
      (escaped_setField has filled (by rw [String.toList_ofList, same]))
    rw [← twin] at here
    obtain ⟨again, there, shows_again⟩ := List.mem_filterMap.mp here
    obtain ⟨name_again, text_again, _, has_again, written_again⟩ := shown_eq_some shows_again
    have one : again = property := List.inj_on_of_nodup_map distinct_properties.1 there known
      (name_again.symm.trans name)
    have changed : field (contact.setField property.2 (String.ofList other)).value property.2 =
        some (.string (String.ofList other)) := by
      have found := field_replaced contact.entries property.2 (String.ofList other) property.2
      rw [if_pos rfl] at found
      exact found.trans (by rw [← ContactObject.value, has]; rfl)
    rw [one, changed] at has_again
    cases has_again
    rw [← written, written_again, String.toList_ofList]
  · intro unique other same
    exact rendered_eq_of_unique unique same

end Fields

section Results

theorem keepsLines_iff (reader : JsonReader) (validator : Validators) (breaks : LineBreaks)
    (contact : ContactObject) : KeepsLines reader validator breaks contact ↔
      ∀ entry ∈ contact.rendered, ∀ c ∈ entry.2, c ≠ '\n' → breaks.isBreak c = false := by
  unfold KeepsLines
  simp only [contactCode_eq, Except.ok.injEq, exists_eq_left']
  exact length_cardLines_iff breaks fun entry here c inside =>
    (rendered_names entry here c inside).1

/-- A contact has a code of its own, in which every field keeps to its line, exactly when no
rendered field has a line break or the two characters that a line feed is escaped to. -/
theorem contact_code_lossless_iff (reader : JsonReader) (validator : Validators)
    (breaks : LineBreaks) (contact : ContactObject) :
    Lossless reader validator contact ∧ KeepsLines reader validator breaks contact ↔
      ∀ entry ∈ contact.rendered, Plain breaks entry.2 := by
  rw [lossless_iff, keepsLines_iff]
  constructor
  · rintro ⟨lossless, keeps⟩ entry here
    refine ⟨fun c inside => ?_, (lossless entry here).2⟩
    apply keeps entry here c inside
    rintro rfl
    exact (lossless entry here).1 inside
  · intro plain
    refine ⟨fun entry here => ⟨fun feed => ?_, (plain entry here).2⟩, ?_⟩
    · have clear := (plain entry here).1 '\n' feed
      rw [breaks.lineFeed] at clear
      cases clear
    · exact fun entry here c inside _ => (plain entry here).1 c inside

open Classical in
noncomputable def someReader : JsonReader where
  parse text := if h : ∃ value, stringify value = text then some h.choose else none
  reads := by
    intro value _
    have written : ∃ other, stringify other = stringify value := ⟨value, rfl⟩
    rw [dif_pos written]
    have same := written.choose_spec
    have one := stringify_inj written.choose value (x := []) (y := []) trivial trivial
      (by rw [same])
    rw [one.1]

def noValidators : Validators where
  isEmail _ := false
  isURL _ := false

def lineFeeds : LineBreaks where
  isBreak c := c == '\n'
  lineFeed := rfl
  visible := by
    intro c low _
    rw [beq_eq_false_iff_ne]
    rintro rfl
    revert low
    decide

def notedEntries (note : String) : List (String × Value) :=
  [("name", .string "a"), ("note", .string note)]

theorem notedEntries_formed (note : String) : WellFormed (.object (notedEntries note)) := by
  rw [WellFormed, wellFormedEntries_iff]
  exact ⟨by simp [notedEntries], by simp [notedEntries, WellFormed]⟩

theorem notedEntries_texts (note : String) : ∀ property ∈ contactProperties, ∀ value,
    field (.object (notedEntries note)) property.2 = some value → ∃ text, value = .string text := by
  intro property _ value found
  obtain ⟨entry, here, rfl⟩ := Option.map_eq_some_iff.mp found
  have known := List.mem_of_find?_eq_some here
  simp only [notedEntries, List.mem_cons, List.not_mem_nil, or_false] at known
  rcases known with rfl | rfl
  · exact ⟨"a", rfl⟩
  · exact ⟨note, rfl⟩

def notedContact (note : String) : ContactObject where
  entries := notedEntries note
  formed := notedEntries_formed note
  texts := notedEntries_texts note

/-- A line feed and the two characters that it is escaped to. -/
theorem line_feed_lost :
    ¬ ∀ (reader : JsonReader) (validator : Validators) (breaks : LineBreaks)
      (contact : ContactObject),
      Lossless reader validator contact ∧ KeepsLines reader validator breaks contact := by
  intro lossless
  have here := (lossless someReader noValidators lineFeeds (notedContact "b\nc")).1
    (notedContact "b\\nc")
  rw [contactCode_eq, contactCode_eq] at here
  revert here
  decide

end Results

end LeaderProduct
