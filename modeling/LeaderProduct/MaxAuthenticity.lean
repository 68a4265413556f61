import Mathlib.Data.List.TakeWhile
import LeaderProduct.FramedLines
import LeaderProduct.MaxInitData

/-! Who signs in with MAX, and how old the proof is. The signature covers the sorted lines of the
parameters, not how they are cut: two lines run together hide the second one, and a date that is
hidden or no number is not checked. -/
namespace LeaderProduct
open FramedLines

section Trim

theorem mem_dropWhile_of_false {A : Type} {p : A → Bool} {a : A} {items : List A} (here : a ∈ items)
    (kept : p a = false) : a ∈ items.dropWhile p := by
  rw [← List.takeWhile_append_dropWhile (p := p) (l := items), List.mem_append] at here
  rcases here with dropped | stays
  · have gone := List.mem_takeWhile_imp dropped
    simp [kept] at gone
  · exact stays

theorem mem_trim {c : Char} {text : String} (here : c ∈ text.toList)
    (visible : JsString.isSpace c = false) : c ∈ (JsString.trim text).toList := by
  rw [JsString.trim, String.toList_ofList, List.mem_reverse]
  apply mem_dropWhile_of_false _ visible
  rw [List.mem_reverse]
  exact mem_dropWhile_of_false here visible

theorem dropWhile_run_on {A : Type} {p : A → Bool} {a : A} {items : List A} (here : a ∈ items)
    (kept : p a = false) (more : List A) :
    (items ++ more).dropWhile p = items.dropWhile p ++ more := by
  have stays := List.ne_nil_of_mem (mem_dropWhile_of_false here kept)
  rw [List.dropWhile_append, if_neg (by simpa using stays)]

theorem trailing_split (p : Char → Bool) (items : List Char) :
    ∃ blanks, (∀ c ∈ blanks, p c = true) ∧
      items = (items.reverse.dropWhile p).reverse ++ blanks := by
  refine ⟨(items.reverse.takeWhile p).reverse, ?_, ?_⟩
  · intro c here
    exact List.mem_takeWhile_imp (List.mem_reverse.mp here)
  · rw [← List.reverse_append, List.takeWhile_append_dropWhile, List.reverse_reverse]

theorem trim_run_on {text own : String} {blank : Char} {more : List Char}
    (whole : text.toList = own.toList ++ blank :: more) (space : JsString.isSpace blank = true)
    (own_visible : ∃ c ∈ own.toList, JsString.isSpace c = false)
    (more_visible : ∃ c ∈ more, JsString.isSpace c = false) :
    ∃ gap rest, JsString.isSpace gap = true ∧ (∃ c ∈ rest, JsString.isSpace c = false) ∧
      JsString.trim text = JsString.trim own ++ String.ofList (gap :: rest) := by
  obtain ⟨c, own_here, own_shown⟩ := own_visible
  obtain ⟨d, more_here, more_shown⟩ := more_visible
  have last_here := mem_dropWhile_of_false (List.mem_reverse.mpr more_here) more_shown
  obtain ⟨blanks, blank_all, split⟩ := trailing_split JsString.isSpace
    (own.toList.dropWhile JsString.isSpace)
  have trimmed : (JsString.trim text).toList = (JsString.trim own).toList ++
      (blanks ++ blank :: (more.reverse.dropWhile JsString.isSpace).reverse) := by
    rw [JsString.trim, String.toList_ofList, whole, dropWhile_run_on own_here own_shown,
      List.reverse_append, List.reverse_cons, List.append_assoc,
      dropWhile_run_on (List.mem_reverse.mpr more_here) more_shown, JsString.trim,
      String.toList_ofList]
    simpa using congrArg (· ++ blank :: (more.reverse.dropWhile JsString.isSpace).reverse) split
  have joins {gap : Char} {rest : List Char}
      (same : blanks ++ blank :: (more.reverse.dropWhile JsString.isSpace).reverse = gap :: rest) :
      JsString.trim text = JsString.trim own ++ String.ofList (gap :: rest) := by
    apply String.toList_injective
    rw [trimmed, same, String.toList_append, String.toList_ofList]
  cases blanks with
  | nil =>
    exact ⟨blank, _, space, ⟨d, List.mem_reverse.mpr last_here, more_shown⟩, joins rfl⟩
  | cons gap others =>
    refine ⟨gap, _, blank_all gap List.mem_cons_self, ⟨d, ?_, more_shown⟩, joins rfl⟩
    simp [last_here]

end Trim

section Platform

structure StrictReading (js : JsConversions) : Prop where
  number : ∀ text, '=' ∈ text.toList → js.numberOf text = none
  empty : js.parse "" = none
  json : ∀ (text : String) (gap : Char) (rest : List Char), (js.parse text).isSome = true →
    JsString.isSpace gap = true → (∃ c ∈ rest, JsString.isSpace c = false) →
      js.parse (text ++ String.ofList (gap :: rest)) = none

/-- What the platform signs: parameters of different names that keep to their lines, with a date. -/
structure InitData (js : JsConversions) where
  params : SearchParams
  authDate : Rat
  distinct : (params.map (·.1)).Nodup
  framed : ∀ entry ∈ params, Framed '\n' '=' (entry.1.toList, entry.2.toList)
  dated : ∃ value, ("auth_date", value) ∈ params ∧
    js.numberOf (JsString.trim value) = some authDate ∧ 0 < authDate
  user_json : ∀ value, ("user", value) ∈ params → (js.parse (JsString.trim value)).isSome = true

variable {js : JsConversions}

def InitData.signedText (data : InitData js) : String :=
  "\n".intercalate (data.params.map (fun entry => entry.1 ++ "=" ++ entry.2))

def InitData.user (data : InitData js) : Except String MaxUserInfo :=
  readMaxUser js (data.params.text "user")

def InitData.FreshAt (data : InitData js) (now : Int) : Prop :=
  (now / 1000 : Int) - data.authDate ≤ maxInitDataMaxAgeSec

variable (env : MaxEnvironment)

/-- The text that the signature of a request has to be of. -/
def checkedText (initDataRaw : String) : Option String :=
  (normalizeInitDataRaw initDataRaw).toOption.map (dataCheckString env)

/-- The request states a date that is checked. -/
def StatesAuthDate (initDataRaw : String) : Prop :=
  ∃ params, normalizeInitDataRaw initDataRaw = .ok params ∧
    (statedAuthDate env.js params).isSome = true

/-- No signature is accepted of a text that the platform has not signed. -/
def NotForged (issued : List (InitData env.js)) (initDataRaw : String) : Prop :=
  ∀ params signature, normalizeInitDataRaw initDataRaw = .ok params →
    extractSignature params = .ok signature →
    signatureMatches env (JsString.trim env.maxBotToken) signature (dataCheckString env params) = true →
      ∃ data ∈ issued, data.signedText = dataCheckString env params

variable {env}

variable {params : SearchParams} {key initDataRaw : String} {now : Int}

theorem get_mem {value : String} (found : params.get key = some value) :
    (key, value) ∈ params := by
  obtain ⟨entry, here, rfl⟩ := Option.map_eq_some_iff.mp found
  have name := List.find?_some here
  rw [← beq_iff_eq.mp name]
  exact List.mem_of_find?_eq_some here

theorem get_of_mem (distinct : (params.map (·.1)).Nodup) {value : String}
    (here : (key, value) ∈ params) : params.get key = some value := by
  induction params with
  | nil => cases here
  | cons entry rest ih =>
    simp only [List.map_cons, List.nodup_cons] at distinct
    rcases List.mem_cons.mp here with rfl | later
    · simp [SearchParams.get]
    · have other : entry.1 ≠ key := by
        rintro rfl
        exact distinct.1 (List.mem_map.mpr ⟨_, later, rfl⟩)
      simpa [SearchParams.get, other] using ih distinct.2 later

theorem lines_toList (params : SearchParams) :
    ("\n".intercalate (params.map (fun entry => entry.1 ++ "=" ++ entry.2))).toList =
      joined '\n' '=' (params.map (fun entry => (entry.1.toList, entry.2.toList))) := by
  simp [joined, line, Function.comp_def]

theorem get_delete {other : String} (differ : key ≠ other) :
    (params.delete other).get key = params.get key := by
  unfold SearchParams.get SearchParams.delete
  rw [List.find?_filter]
  congr 2
  funext entry
  by_cases same : entry.1 = key
  · simp [same, differ]
  · simp [same]

structure PlainKey (key : String) : Prop where
  unsigned : key ≠ "signature" ∧ key ≠ "hash"
  line : '\n' ∉ key.toList
  mark : '=' ∉ key.toList

theorem InitData.value_signed (data : InitData env.js)
    (same : data.signedText = dataCheckString env params) {value : String} (plain : PlainKey key)
    (stated : params.get key = some value) :
    ∃ own, (key, own) ∈ data.params ∧ (value = own ∨
      ∃ more, '=' ∈ more ∧ value.toList = own.toList ++ '\n' :: more) := by
  have own_date : data.params ≠ [] := by
    obtain ⟨date, here, _⟩ := data.dated
    exact List.ne_nil_of_mem here
  rw [← get_delete plain.unsigned.1, ← get_delete plain.unsigned.2] at stated
  have here := (List.perm_insertionSort (fun a b : String × String => env.localeCompare a.1 b.1 ≤ 0)
    _).mem_iff.mpr (get_mem stated)
  have texts := congrArg String.toList same
  rw [InitData.signedText, dataCheckString, lines_toList, lines_toList] at texts
  have framed : ∀ entry ∈ data.params.map (fun entry => (entry.1.toList, entry.2.toList)),
      Framed '\n' '=' entry := by
    intro entry listed
    obtain ⟨own, known, rfl⟩ := List.mem_map.mp listed
    exact data.framed own known
  obtain ⟨own, listed, run_on⟩ := value_of_joined (by decide) framed (by simpa using own_date)
    texts.symm (List.mem_map.mpr ⟨_, here, rfl⟩) plain.line plain.mark
  obtain ⟨⟨name, text⟩, known, equal⟩ := List.mem_map.mp listed
  obtain ⟨names, rfl⟩ := Prod.mk.inj equal
  obtain rfl := String.toList_injective names
  refine ⟨text, known, ?_⟩
  rcases run_on with alone | more
  · exact Or.inl (String.toList_injective alone)
  · exact Or.inr more

theorem InitData.date_signed (reads : StrictReading env.js) (data : InitData env.js)
    (same : data.signedText = dataCheckString env params) {authDateSec : Rat}
    (stated : statedAuthDate env.js params = some authDateSec) : authDateSec = data.authDate := by
  obtain ⟨read, shown⟩ := Option.filter_eq_some_iff.mp stated
  rw [SearchParams.text] at read
  cases found : params.get "auth_date" with
  | none => simp [SearchParams.text, found, JsString.trim] at shown
  | some value =>
    rw [found, Option.getD_some] at read
    obtain ⟨own, known, rfl | ⟨more, marked, run_on⟩⟩ :=
      data.value_signed same ⟨by decide, by decide, by decide⟩ found
    · obtain ⟨date, dated, number, _⟩ := data.dated
      have one : value = date := Option.some.inj
        ((get_of_mem data.distinct known).symm.trans (get_of_mem data.distinct dated))
      subst one
      exact Option.some.inj (read.symm.trans number)
    · have kept : '=' ∈ (JsString.trim value).toList :=
        mem_trim (by simp [run_on, marked]) (by decide)
      rw [reads.number _ kept] at read
      cases read

theorem InitData.user_signed (reads : StrictReading env.js) (data : InitData env.js)
    (same : data.signedText = dataCheckString env params) {user : MaxUserInfo}
    (read : readMaxUser env.js (params.text "user") = .ok user) : data.user = .ok user := by
  cases found : params.get "user" with
  | none => simp [SearchParams.text, found, JsString.trim, readMaxUser] at read
  | some value =>
    have text : params.text "user" = JsString.trim value := by rw [SearchParams.text, found]; rfl
    obtain ⟨own, known, rfl | ⟨more, marked, run_on⟩⟩ :=
      data.value_signed same ⟨by decide, by decide, by decide⟩ found
    · rw [InitData.user, SearchParams.text, get_of_mem data.distinct known]
      rw [text] at read
      exact read
    · have json := data.user_json own known
      by_cases visible : ∃ c ∈ own.toList, JsString.isSpace c = false
      · obtain ⟨gap, rest, space, shown, whole⟩ := trim_run_on run_on (by decide) visible
          ⟨'=', marked, by decide⟩
        have refused := reads.json _ gap rest json space shown
        rw [text, whole, readMaxUser, refused] at read
        split at read <;> cases read
      · have blank : own.toList.dropWhile JsString.isSpace = [] := by
          rw [List.dropWhile_eq_nil_iff]
          intro c here
          by_contra shown
          exact visible ⟨c, here, by simpa using shown⟩
        have trimmed : JsString.trim own = "" := by simp [JsString.trim, blank]
        rw [trimmed, reads.empty] at json
        cases json

theorem InitData.fresh_of_stated (reads : StrictReading env.js) (data : InitData env.js)
    (same : data.signedText = dataCheckString env params)
    (stated : (statedAuthDate env.js params).isSome = true)
    (young : ∀ authDateSec ∈ statedAuthDate env.js params,
      ¬ (maxInitDataMaxAgeSec : Rat) < (now / 1000 : Int) - authDateSec) : data.FreshAt now := by
  obtain ⟨authDateSec, found⟩ := Option.isSome_iff_exists.mp stated
  rw [InitData.FreshAt, ← data.date_signed reads same found]
  exact not_lt.mp (young authDateSec found)

theorem verifyMaxInitData_ok {user : MaxUserInfo}
    (accepted : verifyMaxInitData env initDataRaw now = .ok user) :
    ∃ params signature, normalizeInitDataRaw initDataRaw = .ok params ∧
      extractSignature params = .ok signature ∧
      (∀ authDateSec ∈ statedAuthDate env.js params,
        ¬ (maxInitDataMaxAgeSec : Rat) < (now / 1000 : Int) - authDateSec) ∧
      signatureMatches env (JsString.trim env.maxBotToken) signature
        (dataCheckString env params) = true ∧
      readMaxUser env.js (params.text "user") = .ok user := by
  unfold verifyMaxInitData at accepted
  simp only [throw, throwThe, MonadExceptOf.throw] at accepted
  cases parsed : normalizeInitDataRaw initDataRaw with
  | error e =>
    rw [parsed] at accepted
    split at accepted <;> cases accepted
  | ok params =>
    cases found : extractSignature params with
    | error e =>
      rw [parsed] at accepted
      simp only [bind, Except.bind, found] at accepted
      split at accepted <;> cases accepted
    | ok signature =>
      rw [parsed] at accepted
      simp only [bind, Except.bind, found] at accepted
      split at accepted
      · cases accepted
      · have passed (signed : (if (!signatureMatches env (JsString.trim env.maxBotToken) signature
            (dataCheckString env params)) = true then Except.error "MAX initData signature mismatch"
            else readMaxUser env.js (((params.delete "signature").delete "hash").text "user")) =
              Except.ok user) : signatureMatches env (JsString.trim env.maxBotToken) signature
            (dataCheckString env params) = true ∧
              readMaxUser env.js (params.text "user") = .ok user := by
          split at signed
          · cases signed
          · next matched =>
            rw [SearchParams.text, get_delete (by decide), get_delete (by decide)] at signed
            exact ⟨by simpa using matched, signed⟩
        refine ⟨params, signature, rfl, found, ?_⟩
        split at accepted
        · next authDateSec dated =>
          split at accepted
          · cases accepted
          · next young =>
            refine ⟨fun other here => ?_, passed accepted⟩
            rw [dated] at here
            obtain rfl := Option.some.inj here
            exact young
        · next undated =>
          exact ⟨fun other here => absurd here (undated other), passed accepted⟩

/-- The request is taken for what the platform has issued in the last 24 hours, to this user. -/
def Authentic (env : MaxEnvironment) (issued : List (InitData env.js)) (initDataRaw : String)
    (now : Int) (user : MaxUserInfo) : Prop :=
  ∃ data ∈ issued, checkedText env initDataRaw = some data.signedText ∧ data.FreshAt now ∧
    data.user = .ok user

/-- An accepted request is authentic and fresh exactly when it states its date as a parameter, a
positive number, or what it re-encodes has been issued in the last 24 hours. -/
theorem initData_authentic_iff (reads : StrictReading env.js) (issued : List (InitData env.js))
    (signed : NotForged env issued initDataRaw) {user : MaxUserInfo}
    (accepted : verifyMaxInitData env initDataRaw now = .ok user) :
    Authentic env issued initDataRaw now user ↔ StatesAuthDate env initDataRaw ∨
      ∃ data ∈ issued, checkedText env initDataRaw = some data.signedText ∧ data.FreshAt now := by
  obtain ⟨params, signature, parsed, found, young, matched, read⟩ := verifyMaxInitData_ok accepted
  have checked : checkedText env initDataRaw = some (dataCheckString env params) := by
    rw [checkedText, parsed]
    rfl
  constructor
  · rintro ⟨data, known, same, fresh, _⟩
    exact Or.inr ⟨data, known, same, fresh⟩
  · rintro (⟨stated, parsed', dated⟩ | ⟨data, known, same, fresh⟩)
    · obtain rfl := Except.ok.inj (parsed.symm.trans parsed')
      obtain ⟨data, known, same⟩ := signed params signature parsed found matched
      exact ⟨data, known, by rw [checked, same], data.fresh_of_stated reads same dated young,
        data.user_signed reads same read⟩
    · have text := Option.some.inj (checked.symm.trans same)
      exact ⟨data, known, same, fresh, data.user_signed reads text.symm read⟩

def sampleSecret : List UInt8 := [
  77, 115, 218, 3, 243, 91, 172, 228, 112, 54, 39, 152, 95, 121, 58, 222, 175, 55, 224, 20,
  203, 64, 55, 76, 183, 154, 160, 98, 246, 44, 64, 63]

def sampleDigest : List UInt8 := [
  240, 195, 3, 213, 226, 211, 46, 58, 248, 105, 171, 26, 128, 147, 78, 171, 140, 252, 138,
  207, 39, 248, 232, 154, 155, 211, 229, 238, 217, 132, 73, 28]

def sampleUserJson : String := "\x7b\"id\":7\x7d"

def sampleMax : MaxEnvironment where
  js := { JsConversions.ofTexts with
    stringOf := fun _ => "7"
    numberOf := fun text => if text = "1700000000" then some 1700000000 else none
    parse := fun text => if text = sampleUserJson then some (.object [("id", .number 7)]) else none }
  localeCompare a b := if a = b then 0 else if a.toList < b.toList then -1 else 1
  hmacSha256 key text :=
    if key = .text "WebAppData" && text = "token" then sampleSecret
    else if key = .bytes sampleSecret &&
      text = "auth_date=1700000000\nip=1\nuser=" ++ sampleUserJson then sampleDigest
    else []
  maxBotToken := "token"

theorem sampleMax_strict : StrictReading sampleMax.js where
  number text marked := by
    refine if_neg ?_
    rintro rfl
    exact absurd marked (by decide)
  empty := by decide
  json text gap rest json _ _ := by
    refine if_neg fun same => ?_
    have own : text = sampleUserJson := by
      by_contra other
      rw [show sampleMax.js.parse text = none from if_neg other] at json
      cases json
    have lengths := congrArg (fun text => text.toList.length) same
    simp [own] at lengths

def sampleInitData : InitData sampleMax.js where
  params := [("auth_date", "1700000000"), ("ip", "1"), ("user", sampleUserJson)]
  authDate := 1700000000
  distinct := by decide
  framed entry here := by
    simp only [List.mem_cons, List.not_mem_nil, or_false] at here
    rcases here with rfl | rfl | rfl <;> constructor <;> decide +kernel
  dated := ⟨"1700000000", List.mem_cons_self, by decide +kernel, by decide +kernel⟩
  user_json value here := by
    simp at here
    subst here
    decide +kernel

def sampleSignature : String := "8MMD1eLTLjr4aasagJNOq4z8is8n-Oiam9Pl7tmESRw"

def sampleRequest : String :=
  "auth_date=1700000000&ip=1&user=\x7b\"id\":7\x7d&hash=" ++ sampleSignature

def runTogetherRequest : String :=
  "auth_date=1700000000%0Aip%3D1&user=\x7b\"id\":7\x7d&hash=" ++ sampleSignature

theorem sample_not_forged (parsed : normalizeInitDataRaw initDataRaw = .ok params)
    (same : sampleInitData.signedText = dataCheckString sampleMax params) :
    NotForged sampleMax [sampleInitData] initDataRaw := by
  intro read signature parsed' _ _
  obtain rfl := Except.ok.inj (parsed.symm.trans parsed')
  exact ⟨sampleInitData, List.mem_singleton_self _, same⟩

theorem initData_authentic_sample :
    Authentic sampleMax [sampleInitData] sampleRequest 1700000100000 ⟨"7", none, none, none⟩ := by
  have parsed : normalizeInitDataRaw sampleRequest = .ok [("auth_date", "1700000000"),
      ("ip", "1"), ("user", sampleUserJson), ("hash", sampleSignature)] := by decide +kernel
  have signed := sample_not_forged parsed (by decide +kernel)
  have accepted : verifyMaxInitData sampleMax sampleRequest 1700000100000 =
      .ok ⟨"7", none, none, none⟩ := by
    rw [verifyMaxInitData, parsed]
    decide +kernel
  exact (initData_authentic_iff sampleMax_strict _ signed accepted).mpr
    (Or.inl ⟨_, parsed, by decide +kernel⟩)

/-- Three years later the sign-in is accepted, with the date run together with its neighbour. -/
theorem expired_initData_accepted : ¬ ∀ (env : MaxEnvironment) (issued : List (InitData env.js))
    (initDataRaw : String) (now : Int) (user : MaxUserInfo), StrictReading env.js →
    NotForged env issued initDataRaw → verifyMaxInitData env initDataRaw now = .ok user →
      ∃ data ∈ issued, data.FreshAt now ∧ data.user = .ok user := by
  intro always
  have parsed : normalizeInitDataRaw runTogetherRequest = .ok [
      ("auth_date", "1700000000\nip=1"), ("user", sampleUserJson),
      ("hash", sampleSignature)] := by decide +kernel
  have signed := sample_not_forged parsed (by decide +kernel)
  have accepted : verifyMaxInitData sampleMax runTogetherRequest 1800000000000 =
      .ok ⟨"7", none, none, none⟩ := by
    rw [verifyMaxInitData, parsed]
    decide +kernel
  obtain ⟨data, known, fresh, _⟩ := always sampleMax [sampleInitData] runTogetherRequest
    1800000000000 ⟨"7", none, none, none⟩ sampleMax_strict signed accepted
  obtain rfl := List.mem_singleton.mp known
  exact absurd fresh (by unfold InitData.FreshAt; decide +kernel)

end Platform

end LeaderProduct
