import LeaderProduct.CardPeriods
import LeaderProduct.CardReadSlots
import LeaderProduct.CursorTexts

/-! The financial documents of a counterparty, read page by page from 1C. -/
namespace LeaderProduct

section Cursor
variable (js : JsConversions)

def cursorText (offset : Rat) : String :=
  "\x7b\"version\":1,\"offset\":" ++ js.stringOf (.number offset) ++ "\x7d"

def encodeFinancialDocumentsCursor (offset : Rat) : String :=
  String.ofList (base64UrlOf (utf8Bytes (cursorText js offset).toList))

def staleCursor : CounterpartiesError :=
  ⟨400, .validationError, "Курсор финансовых документов устарел или повреждён."⟩

def property (source : Json) (key : String) : Option Json :=
  match source with
  | .object entries => entries.lookup key
  | _ => none

def decodeFinancialDocumentsCursor (cursor : Option String) : Except CounterpartiesError Nat :=
  match cursor.filter (· ≠ "") with
  | none => .ok 0
  | some cursor =>
    match js.parse (String.ofList (utf8Text (base64UrlBytes cursor.toList))) with
    | none => .error staleCursor
    | some parsed =>
      match property parsed "version", property parsed "offset" with
      | some (.number version), some (.number offset) =>
        if version = 1 ∧ offset.isInt ∧ 0 ≤ offset ∧ offset ≤ 500 then .ok offset.num.toNat
        else .error staleCursor
      | _, _ => .error staleCursor

end Cursor

section Page

structure FinancialDocumentsOptions where
  counterpartyGuid : String
  organizationGuid : String
  permissionNames : List String
  roleName : Option String
  preset : Option CounterpartyPeriodPreset
  periodFrom : Option String
  periodTo : Option String
  status : Option FinancialDocumentStatus
  cursor : Option String
  limit : Option Rat

structure FinancialDocumentsKey where
  contractVersion : String
  counterpartyGuid : String
  organizationGuid : String
  periodFrom : String
  periodTo : String
  status : Option FinancialDocumentStatus
  offset : Nat
  limit : Nat

structure FinancialDocumentsQuery where
  counterpartyGuid : String
  organizationGuid : String
  period : String
  periodFrom : String
  periodTo : String
  status : Option FinancialDocumentStatus
  offset : Nat
  limit : Nat

structure FinancialDocumentsPage where
  items : List FinancialDocument
  summary : FinancialDocumentsSummary
  hasMore : Bool
  nextCursor : Option String
  asOf : String
  stale : Bool
  sourceVersion : String

inductive ReadFailure where
  | status (upstreamStatus : Nat)
  | refused (error : CounterpartiesError)
  | other (message : String)

inductive PageError where
  | counterparties (error : CounterpartiesError)
  | read (failure : ReadFailure)
  | thrown (message : String)

structure PageEnvironment where
  clock : CardClock
  now : JsDate
  fresh : FinancialDocumentsKey → Option FinancialDocumentsPage
  kept : FinancialDocumentsKey → Option FinancialDocumentsPage
  onec : FinancialDocumentsQuery → Except ReadFailure Json

def periodName : CounterpartyPeriodPreset → String
  | .week => "week"
  | .month => "month"
  | .quarter => "quarter"
  | .halfYear => "half-year"
  | .year => "year"
  | .custom => "custom"

def pageLimit (limit : Option Rat) : Nat :=
  let asked := limit.getD 20
  (max 1 (min 50 (if 0 ≤ asked then asked.floor else asked.ceil))).toNat

variable (js : JsConversions)

structure MappedPage where
  items : List FinancialDocument
  summary : FinancialDocumentsSummary
  hasMore : Bool
  nextOffset : Option Rat
  asOf : String
  sourceVersion : String

def singleRoot (key : String) (candidate : Option Json) : Option RecordValue :=
  some ((candidate.map fun found => (key, found)).toList)

def mapOnecCounterpartyFinancialDocumentsPage (payload : Json) (now : String) : Option MappedPage :=
  (unwrap js payload).map fun root =>
    let itemsRoot := singleRoot "financialDocuments"
      (value (some root) ["items", "financialDocuments"])
    let items := mapFinancialDocuments js itemsRoot []
    let summaryRoot := singleRoot "financialDocumentsSummary"
      (value (some root) ["summary", "financialDocumentsSummary"])
    { items
      summary := mapFinancialDocumentsSummary js summaryRoot items
      hasMore := (booleanOrNull (some root) ["hasMore"]).getD false
      nextOffset := numberOrNull js (some root) ["nextOffset"]
      asOf := (textOr js (some root) ["calculatedAt", "asOf"] (some now)).getD now
      sourceVersion := (textOr js (some root) ["sourceVersion"]
        (some "counterparty-financial-documents-v1")).getD "counterparty-financial-documents-v1" }

def livePage (env : PageEnvironment) (query : FinancialDocumentsQuery) :
    Except PageError FinancialDocumentsPage :=
  match env.onec query with
  | .error failure => .error (.read failure)
  | .ok upstream =>
    match mapOnecCounterpartyFinancialDocumentsPage js upstream (toISOString env.now) with
    | none => .error (.thrown "1C returned an incomplete financial documents page")
    | some mapped => .ok
      { items := mapped.items
        summary := mapped.summary
        hasMore := mapped.hasMore
        nextCursor := if mapped.hasMore then
          mapped.nextOffset.map (encodeFinancialDocumentsCursor js)
          else none
        asOf := mapped.asOf
        stale := false
        sourceVersion := mapped.sourceVersion }

def orKept (kept : Option FinancialDocumentsPage) :
    Except PageError FinancialDocumentsPage → Except PageError FinancialDocumentsPage
  | .ok page => .ok page
  | .error error =>
    match kept with
    | some page => .ok { page with stale := true }
    | none =>
      match error with
      | .read (.status 404) =>
        .error (.counterparties ⟨404, .notFound, "Контрагент не найден в 1С."⟩)
      | .read (.refused error) => .error (.counterparties error)
      | error => .error error

def getCounterpartyFinancialDocuments (env : PageEnvironment)
    (options : FinancialDocumentsOptions) :
    Except PageError FinancialDocumentsPage := do
  if !(cardPermissions options.roleName options.permissionNames).viewFinance then
    throw (.counterparties ⟨403, .forbidden, "Нет доступа к финансовым документам контрагента."⟩)
  let periods ← (counterpartyCardPeriods env.clock env.now (options.preset.getD .month)
    options.periodFrom options.periodTo).mapError .thrown
  let offset ← (decodeFinancialDocumentsCursor js options.cursor).mapError .counterparties
  let limit := pageLimit options.limit
  let key : FinancialDocumentsKey :=
    { contractVersion := "counterparty-financial-documents-api-v1"
      counterpartyGuid := JsString.toLowerCase options.counterpartyGuid
      organizationGuid := JsString.toLowerCase options.organizationGuid
      periodFrom := periods.periodFrom
      periodTo := periods.periodTo
      status := options.status
      offset
      limit }
  match env.fresh key with
  | some cached => return { cached with stale := false }
  | none =>
    orKept (env.kept key) (livePage js env
      { counterpartyGuid := options.counterpartyGuid
        organizationGuid := options.organizationGuid
        period := periodName periods.preset
        periodFrom := periods.periodFrom
        periodTo := periods.periodTo
        status := options.status
        offset
        limit })

end Page

section Law
variable (js : JsConversions)

def largestSafeWhole : Nat := 9007199254740991

structure WholeNumbers (js : JsConversions) : Prop where
  writes : ∀ n : Nat, n ≤ largestSafeWhole → js.stringOf (.number n) = toString n
  reads : ∀ n : Nat, n ≤ largestSafeWhole → js.parse (cursorText js n) =
    some (.object [("version", .number 1), ("offset", .number n)])

def documentGuid (document : Json) : Option String :=
  textOf js (record document) ["documentGuid", "guid", "paymentGuid"]

def shownDocuments (documents : List Json) : List FinancialDocument :=
  mapFinancialDocuments js (some [("financialDocuments", .array documents)]) []

/-- The answer of 1C is the part of the list from an offset on, as long as the limit, and says
whether there is more and where that begins. -/
def AnswersPage (documents : List Json) (offset limit : Nat) (payload : Json) : Prop :=
  ∃ root, unwrap js payload = some root ∧
    value (some root) ["items", "financialDocuments"] =
      some (.array ((documents.drop offset).take limit)) ∧
    booleanOrNull (some root) ["hasMore"] = some (decide (offset + limit < documents.length)) ∧
    (offset + limit < documents.length →
      numberOrNull js (some root) ["nextOffset"] = some ((offset + limit : Nat) : Rat))

/-- What a page of the list shows, from 1C or out of a cache. -/
structure Shows (documents : List Json) (offset limit : Nat)
    (page : FinancialDocumentsPage) : Prop where
  items : page.items = shownDocuments js ((documents.drop offset).take limit)
  nextCursor : page.nextCursor = if offset + limit < documents.length then
    some (encodeFinancialDocumentsCursor js ((offset + limit : Nat) : Rat)) else none

structure DocumentsReader where
  js : JsConversions
  whole : WholeNumbers js
  documents : List Json
  named : ∀ document ∈ documents, (documentGuid js document).isSome
  counterpartyGuid : String
  organizationGuid : String
  permissionNames : List String
  roleName : Option String
  allowed : (cardPermissions roleName permissionNames).viewFinance = true
  period : PeriodRequest
  status : Option FinancialDocumentStatus
  limits : Nat → Option Rat
  env : Nat → PageEnvironment
  answers : ∀ n query, ∃ payload, (env n).onec query = .ok payload ∧
    AnswersPage js documents query.offset query.limit payload
  fresh : ∀ n key page, (env n).fresh key = some page → Shows js documents key.offset key.limit page

def PeriodRequest.preset : PeriodRequest → CounterpartyPeriodPreset
  | .calendar preset _ _ _ => preset
  | .custom _ _ _ => .custom

def PeriodRequest.periodFrom : PeriodRequest → Option String
  | .calendar _ _ periodFrom _ => periodFrom
  | .custom first _ _ => some first.text

def PeriodRequest.periodTo : PeriodRequest → Option String
  | .calendar _ _ _ periodTo => periodTo
  | .custom _ last _ => some last.text

namespace DocumentsReader
variable (reader : DocumentsReader)

def options (n : Nat) (cursor : Option String) : FinancialDocumentsOptions where
  counterpartyGuid := reader.counterpartyGuid
  organizationGuid := reader.organizationGuid
  permissionNames := reader.permissionNames
  roleName := reader.roleName
  preset := some reader.period.preset
  periodFrom := reader.period.periodFrom
  periodTo := reader.period.periodTo
  status := reader.status
  cursor
  limit := reader.limits n

def ask (n : Nat) (cursor : Option String) : Except PageError FinancialDocumentsPage :=
  getCounterpartyFinancialDocuments reader.js (reader.env n) (reader.options n cursor)

/-- The pages from the one with the number on, up to the one without a next cursor: none where a
request fails before. -/
def follow : Nat → Nat → Option String → Option (List FinancialDocumentsPage)
  | 0, _, _ => none
  | fuel + 1, n, cursor =>
    match reader.ask n cursor with
    | .error _ => none
    | .ok page =>
      match page.nextCursor with
      | none => some [page]
      | some next => (follow fuel (n + 1) (some next)).map (page :: ·)

def start : Nat → Nat
  | 0 => 0
  | n + 1 => start n + pageLimit (reader.limits n)

/-- The pages show every document once, and every cursor among them is read as what it was made
of. -/
structure ReachesEnd (pages : List FinancialDocumentsPage) : Prop where
  items : pages.flatMap (·.items) = shownDocuments reader.js reader.documents
  guids : (pages.flatMap (·.items)).map (fun item => some item.documentGuid) =
    reader.documents.map (documentGuid reader.js)
  cursors : ∀ page ∈ pages, ∀ cursor, page.nextCursor = some cursor →
    ∃ offset : Nat, cursor = encodeFinancialDocumentsCursor reader.js offset ∧
      decodeFinancialDocumentsCursor reader.js (some cursor) = .ok offset

end DocumentsReader

end Law

variable {n : Nat}

section Cursors
variable {js : JsConversions}

theorem envelope_toList (number : String) :
    ("\x7b\"version\":1,\"offset\":" ++ number ++ "\x7d").toList =
      "\x7b\"version\":1,\"offset\":".toList ++ number.toList ++ "\x7d".toList := by
  rw [String.toList_append, String.toList_append]

theorem envelope_ascii : (∀ c ∈ "\x7b\"version\":1,\"offset\":".toList, c.toNat < 128) ∧
    ∀ c ∈ "\x7d".toList, c.toNat < 128 := by simp

theorem cursorText_ascii (whole : WholeNumbers js) (small : n ≤ largestSafeWhole) :
    ∀ c ∈ (cursorText js n).toList, c.toNat < 128 := by
  have digit {c : Char} (here : c ∈ Nat.toDigits 10 n) : c.toNat < 128 := by
    have isDigit := Nat.isDigit_of_mem_toDigits (by decide) (by decide) here
    simp only [Char.isDigit, Bool.and_eq_true, decide_eq_true_eq, UInt32.le_iff_toNat_le] at isDigit
    have upper : c.toNat ≤ 57 := isDigit.2
    omega
  have number : (toString n).toList = Nat.toDigits 10 n := Nat.toList_repr
  unfold cursorText
  rw [whole.writes n small, envelope_toList, number]
  intro c inside
  rcases List.mem_append.mp inside with inner | back
  · rcases List.mem_append.mp inner with front | middle
    · exact envelope_ascii.1 c front
    · exact digit middle
  · exact envelope_ascii.2 c back

theorem cursorText_ne_nil (offset : Rat) : (cursorText js offset).toList ≠ [] := by
  have ending : "\x7d".toList ≠ [] := by decide +kernel
  unfold cursorText
  rw [envelope_toList]
  exact List.append_ne_nil_of_right_ne_nil _ ending

theorem cursor_text (whole : WholeNumbers js) (small : n ≤ largestSafeWhole) :
    String.ofList (utf8Text (base64UrlBytes (encodeFinancialDocumentsCursor js n).toList)) =
      cursorText js n := by
  rw [encodeFinancialDocumentsCursor, String.toList_ofList, base64UrlBytes_base64UrlOf,
    utf8Text_utf8Bytes (cursorText_ascii whole small), String.ofList_toList]

theorem encode_ne_empty (whole : WholeNumbers js) (small : n ≤ largestSafeWhole) :
    encodeFinancialDocumentsCursor js n ≠ "" := by
  intro empty
  have text := cursor_text whole small
  rw [empty] at text
  have filled : (cursorText js n).toList ≠ [] := cursorText_ne_nil n
  exact filled (by rw [← text]; rfl)

theorem decode_encode (whole : WholeNumbers js) (small : n ≤ largestSafeWhole) :
    decodeFinancialDocumentsCursor js (some (encodeFinancialDocumentsCursor js n)) =
      if n ≤ 500 then .ok n else .error staleCursor := by
  have present : (some (encodeFinancialDocumentsCursor js n)).filter (· ≠ "") =
      some (encodeFinancialDocumentsCursor js n) := by
    simp [Option.filter_some, encode_ne_empty whole small]
  have version : property (.object [("version", .number 1), ("offset", .number n)]) "version" =
      some (.number 1) := rfl
  have offset : property (.object [("version", .number 1), ("offset", .number n)]) "offset" =
      some (.number n) := rfl
  have least : (0 : Rat) ≤ n := Nat.cast_nonneg n
  have most : (n : Rat) ≤ 500 ↔ n ≤ 500 := by exact_mod_cast Iff.rfl
  have integer : (n : Rat).isInt = true := rfl
  rw [decodeFinancialDocumentsCursor, present]
  simp only [cursor_text whole small, whole.reads n small, version, offset, least, most, integer,
    true_and]
  rfl

end Cursors

theorem pageLimit_bounds (limit : Option Rat) : 1 ≤ pageLimit limit ∧ pageLimit limit ≤ 50 := by
  unfold pageLimit
  dsimp only
  generalize (if 0 ≤ limit.getD 20 then (limit.getD 20).floor else (limit.getD 20).ceil) = asked
  omega

section Shown
variable (js : JsConversions)

theorem arrayOf_financialDocuments (documents : List Json) :
    arrayOf (some [("financialDocuments", .array documents)])
        ["financialDocuments", "financeDocuments"] =
      documents := by
  have found : ownEntry [("financialDocuments", .array documents)] "financialDocuments" =
      some ("financialDocuments", .array documents) := by
    simp [ownEntry]
  simp [arrayOf, value, found]

theorem shownDocuments_eq : ∃ shown : Option RecordValue → String → FinancialDocument,
    (∀ item guid, (shown item guid).documentGuid = guid) ∧
    ∀ documents, shownDocuments js documents =
      namedItems js documents ["documentGuid", "guid", "paymentGuid"] shown := by
  apply Exists.intro
  refine ⟨?guids, fun documents => ?shows⟩
  case shows =>
    unfold shownDocuments mapFinancialDocuments
    rw [arrayOf_financialDocuments]
    cases documents with
    | cons document rest =>
      simp only [List.isEmpty_cons, Bool.false_eq_true, if_false]
      rfl
    | nil => rfl
  case guids => exact fun item guid => rfl

theorem shownDocuments_append (documents later : List Json) :
    shownDocuments js (documents ++ later) =
      shownDocuments js documents ++ shownDocuments js later := by
  obtain ⟨shown, -, all⟩ := shownDocuments_eq js
  rw [all, all, all, namedItems, namedItems, namedItems, List.filterMap_append]

theorem record_of_documentGuid {document : Json} {guid : String}
    (has_guid : documentGuid js document = some guid) : ∃ item, record document = some item := by
  cases document with
  | object entries => exact ⟨entries, rfl⟩
  | _ => simp [documentGuid, record, textOf, textOr, value] at has_guid

theorem shownDocuments_guids {documents : List Json}
    (named : ∀ document ∈ documents, (documentGuid js document).isSome) :
    (shownDocuments js documents).map (fun item => some item.documentGuid) =
      documents.map (documentGuid js) := by
  obtain ⟨shown, guids, all⟩ := shownDocuments_eq js
  rw [all, namedItems]
  induction documents with
  | nil => rfl
  | cons document rest ih =>
    rw [List.forall_mem_cons] at named
    obtain ⟨guid, has_guid⟩ := Option.isSome_iff_exists.mp named.1
    obtain ⟨item, is_item⟩ := record_of_documentGuid js has_guid
    have its_guid : textOf js (some item) ["documentGuid", "guid", "paymentGuid"] = some guid := by
      rw [← is_item]
      exact has_guid
    rw [List.filterMap_cons, is_item, Option.bind_some, its_guid, Option.map_some, List.map_cons,
      List.map_cons, guids, has_guid, ih named.2]

end Shown

namespace DocumentsReader
variable (reader : DocumentsReader)

theorem periods_ok (n : Nat) (cursor : Option String) : ∃ periods,
    counterpartyCardPeriods (reader.env n).clock (reader.env n).now
      ((reader.options n cursor).preset.getD .month) (reader.options n cursor).periodFrom
      (reader.options n cursor).periodTo = .ok periods := by
  obtain ⟨periods, ok⟩ := reader.period.periods_ok (reader.env n).clock (reader.env n).now
  refine ⟨periods, ?_⟩
  rw [← ok]
  cases same : reader.period <;> simp only [options, same] <;> rfl

theorem livePage_shows (n : Nat) (query : FinancialDocumentsQuery) :
    ∃ page, livePage reader.js (reader.env n) query = .ok page ∧
      Shows reader.js reader.documents query.offset query.limit page := by
  obtain ⟨payload, answer, root, unwrapped, items, hasMore, nextOffset⟩ := reader.answers n query
  simp only [livePage, answer, mapOnecCounterpartyFinancialDocumentsPage, unwrapped,
    Option.map_some]
  refine ⟨_, rfl, ?_, ?_⟩
  · dsimp only
    rw [items]
    rfl
  · dsimp only
    rw [hasMore, Option.getD_some]
    by_cases more : query.offset + query.limit < reader.documents.length
    · rw [decide_eq_true more, nextOffset more, if_pos rfl, if_pos more, Option.map_some]
    · rw [decide_eq_false more, if_neg more]
      rfl

variable {cursor : Option String}

theorem ask_of_decoded (n : Nat) {offset : Nat}
    (decoded : decodeFinancialDocumentsCursor reader.js cursor = .ok offset) :
    ∃ page, reader.ask n cursor = .ok page ∧
      Shows reader.js reader.documents offset (pageLimit (reader.limits n)) page := by
  obtain ⟨periods, ok⟩ := reader.periods_ok n cursor
  have allowed : (cardPermissions (reader.options n cursor).roleName
    (reader.options n cursor).permissionNames).viewFinance = true := reader.allowed
  have given : decodeFinancialDocumentsCursor reader.js (reader.options n cursor).cursor =
      .ok offset :=
    decoded
  unfold ask getCounterpartyFinancialDocuments
  simp only [allowed, ok, given, Bool.not_true, Bool.false_eq_true, if_false, Except.mapError,
    bind, Except.bind, pure, Except.pure]
  split
  · next cached found =>
    obtain ⟨items, nextCursor⟩ := reader.fresh n _ cached found
    exact ⟨_, rfl, items, nextCursor⟩
  · obtain ⟨page, live, shows⟩ := reader.livePage_shows n
      { counterpartyGuid := (reader.options n cursor).counterpartyGuid
        organizationGuid := (reader.options n cursor).organizationGuid
        period := periodName periods.preset
        periodFrom := periods.periodFrom
        periodTo := periods.periodTo
        status := (reader.options n cursor).status
        offset
        limit := pageLimit (reader.options n cursor).limit }
    rw [live]
    exact ⟨page, rfl, shows⟩

theorem ask_of_stale (n : Nat) {error : CounterpartiesError}
    (decoded : decodeFinancialDocumentsCursor reader.js cursor = .error error) :
    reader.ask n cursor = .error (.counterparties error) := by
  obtain ⟨periods, ok⟩ := reader.periods_ok n cursor
  have allowed : (cardPermissions (reader.options n cursor).roleName
    (reader.options n cursor).permissionNames).viewFinance = true := reader.allowed
  have given : decodeFinancialDocumentsCursor reader.js (reader.options n cursor).cursor =
    .error error := decoded
  unfold ask getCounterpartyFinancialDocuments
  simp only [allowed, ok, given, Bool.not_true, Bool.false_eq_true, if_false, Except.mapError,
    bind, Except.bind]

theorem start_le {m : Nat} (before : n ≤ m) : reader.start n ≤ reader.start m := by
  induction before with
  | refl => exact Nat.le_refl _
  | step _ ih => exact Nat.le_trans ih (Nat.le_add_right _ _)

theorem nextCursor_of_more {page : FinancialDocumentsPage}
    (shows : Shows reader.js reader.documents (reader.start n) (pageLimit (reader.limits n)) page)
    (more : reader.start (n + 1) < reader.documents.length) :
    page.nextCursor = some (encodeFinancialDocumentsCursor reader.js (reader.start (n + 1))) := by
  rw [shows.nextCursor]
  exact if_pos more

theorem nextCursor_of_end {page : FinancialDocumentsPage}
    (shows : Shows reader.js reader.documents (reader.start n) (pageLimit (reader.limits n)) page)
    (ended : reader.documents.length ≤ reader.start (n + 1)) : page.nextCursor = none := by
  rw [shows.nextCursor]
  exact if_neg (Nat.not_lt.mpr ended)

theorem follow_of_near {fuel : Nat}
    (decoded : decodeFinancialDocumentsCursor reader.js cursor = .ok (reader.start n))
    (near : ∀ m, n < m → reader.start m < reader.documents.length → reader.start m ≤ 500)
    (reached : reader.start n ≤ reader.documents.length)
    (enough : reader.documents.length < reader.start n + fuel) : ∃ pages,
      reader.follow fuel n cursor = some pages ∧
      pages.flatMap (·.items) = shownDocuments reader.js (reader.documents.drop (reader.start n)) ∧
      ∀ page ∈ pages, ∀ cursor, page.nextCursor = some cursor →
        ∃ offset : Nat, cursor = encodeFinancialDocumentsCursor reader.js offset ∧
          decodeFinancialDocumentsCursor reader.js (some cursor) = .ok offset := by
  induction fuel generalizing n cursor with
  | zero => omega
  | succ fuel ih =>
    obtain ⟨page, answer, shows⟩ := reader.ask_of_decoded n decoded
    have limits := pageLimit_bounds (reader.limits n)
    have next_start : reader.start (n + 1) = reader.start n + pageLimit (reader.limits n) := rfl
    by_cases more : reader.start (n + 1) < reader.documents.length
    · have next := reader.nextCursor_of_more shows more
      have within := near (n + 1) (Nat.lt_succ_self n) more
      have read := decode_encode reader.whole (n := reader.start (n + 1)) (by
        unfold largestSafeWhole
        omega)
      rw [if_pos within] at read
      obtain ⟨pages, followed, items, cursors⟩ :=
        ih read (fun m later => near m (by omega)) more.le (by omega)
      refine ⟨page :: pages, ?_, ?_, ?_⟩
      · simp only [follow, answer, next, followed, Option.map_some]
      · rw [List.flatMap_cons, items, shows.items, ← shownDocuments_append, next_start,
          ← List.drop_drop, List.take_append_drop]
      · rw [List.forall_mem_cons]
        refine ⟨fun given same => ?_, cursors⟩
        rw [next] at same
        have told := Option.some.inj same
        rw [← told]
        exact ⟨reader.start (n + 1), rfl, read⟩
    · have ended := reader.nextCursor_of_end shows (Nat.not_lt.mp more)
      refine ⟨[page], ?_, ?_, ?_⟩
      · simp only [follow, answer, ended]
      · have whole : (reader.documents.drop (reader.start n)).length ≤
          pageLimit (reader.limits n) := by
          rw [List.length_drop]
          omega
        rw [List.flatMap_singleton, shows.items, List.take_of_length_le whole]
      · simp [ended]

theorem near_of_follow {fuel : Nat} {pages : List FinancialDocumentsPage}
    (decoded : decodeFinancialDocumentsCursor reader.js cursor = .ok (reader.start n))
    (within : reader.start n ≤ 500) (followed : reader.follow fuel n cursor = some pages) {m : Nat}
    (later : n < m) (holds : reader.start m < reader.documents.length) : reader.start m ≤ 500 := by
  induction fuel generalizing n cursor pages with
  | zero => cases followed
  | succ fuel ih =>
    obtain ⟨page, answer, shows⟩ := reader.ask_of_decoded n decoded
    have limits := pageLimit_bounds (reader.limits n)
    have next_start : reader.start (n + 1) = reader.start n + pageLimit (reader.limits n) := rfl
    have after := reader.start_le (Nat.succ_le_of_lt later)
    have more : reader.start (n + 1) < reader.documents.length := Nat.lt_of_le_of_lt after holds
    have next := reader.nextCursor_of_more shows more
    have read := decode_encode reader.whole (n := reader.start (n + 1)) (by
      unfold largestSafeWhole
      omega)
    simp only [follow, answer, next, Option.map_eq_some_iff] at followed
    obtain ⟨rest, followed, -⟩ := followed
    by_cases near : reader.start (n + 1) ≤ 500
    · rw [if_pos near] at read
      rcases Nat.eq_or_lt_of_le (Nat.succ_le_of_lt later) with same | beyond
      · rw [← same]
        exact near
      · exact ih read near followed beyond
    · rw [if_neg near] at read
      have failed := reader.ask_of_stale (n + 1) read
      cases fuel with
      | zero => cases followed
      | succ fuel =>
        simp only [follow, failed] at followed
        cases followed

end DocumentsReader

/-- A reader sees every document once, and every cursor on the way is read back as the offset that
it was made of, exactly when no page with a document begins past the 500th. -/
theorem financial_documents_reach_end_iff (reader : DocumentsReader) :
    (∃ fuel pages, reader.follow fuel 0 none = some pages ∧ reader.ReachesEnd pages) ↔
      ∀ n, reader.start n < reader.documents.length → reader.start n ≤ 500 := by
  have first : decodeFinancialDocumentsCursor reader.js none = .ok (reader.start 0) := rfl
  constructor
  · rintro ⟨fuel, pages, followed, -⟩ n holds
    rcases Nat.eq_zero_or_pos n with rfl | later
    · exact Nat.zero_le _
    · exact reader.near_of_follow first (Nat.zero_le _) followed later holds
  · intro near
    obtain ⟨pages, followed, items, cursors⟩ := reader.follow_of_near first (fun m _ => near m)
      (Nat.zero_le _) (show _ < 0 + (reader.documents.length + 1) by omega)
    refine ⟨_, pages, followed, items, ?_, cursors⟩
    rw [items]
    exact shownDocuments_guids reader.js reader.named

section Long

def cursorConversions : JsConversions where
  __ := JsConversions.ofTexts
  stringOf value := match value with
    | .number n => toString n.num
    | _ => ""
  parse text :=
    let n := Nat.ofDigitChars 10 (text.toList.drop 22).dropLast 0
    if text = "\x7b\"version\":1,\"offset\":" ++ toString n ++ "\x7d" then
      some (.object [("version", .number 1), ("offset", .number n)])
    else none

theorem cursorConversions_whole : WholeNumbers cursorConversions where
  writes n _ := rfl
  reads n _ := by
    have number : (toString n).toList = Nat.toDigits 10 n := Nat.toList_repr
    have ending : "\x7d".toList = ['\x7d'] := rfl
    have front : "\x7b\"version\":1,\"offset\":".toList.length = 22 := by decide +kernel
    have digits :
        (("\x7b\"version\":1,\"offset\":" ++ toString n ++ "\x7d").toList.drop 22).dropLast =
        Nat.toDigits 10 n := by
      rw [envelope_toList, number, ending, List.append_assoc, ← front, List.drop_left,
        List.dropLast_concat]
    have back : Nat.ofDigitChars 10 (Nat.toDigits 10 n) 0 = n := Nat.ofDigitChars_ten_toDigits
    have text : cursorText cursorConversions n =
        "\x7b\"version\":1,\"offset\":" ++ toString n ++ "\x7d" := rfl
    rw [text]
    dsimp only [cursorConversions]
    rw [digits, back, if_pos rfl]

def manyDocuments : List Json :=
  (List.range 521).map fun i => .object [("documentGuid", .string (toString i))]

def pageOfMany (query : FinancialDocumentsQuery) : RecordValue :=
  [("items", .array ((manyDocuments.drop query.offset).take query.limit)),
    ("hasMore", .bool (decide (query.offset + query.limit < manyDocuments.length))),
    ("nextOffset", .number ((query.offset + query.limit : Nat) : Rat))]

theorem pageKeys_lowered : JsString.toLowerCase "items" = "items" ∧
    JsString.toLowerCase "hasMore" = "hasmore" ∧ JsString.toLowerCase "nextOffset" = "nextoffset" ∧
    JsString.toLowerCase "item" = "item" ∧ JsString.toLowerCase "data" = "data" ∧
    JsString.toLowerCase "result" = "result" ∧ JsString.toLowerCase "body" = "body" := by
  decide +kernel

theorem pageOfMany_answers (query : FinancialDocumentsQuery) :
    AnswersPage cursorConversions manyDocuments query.offset query.limit
      (.object (pageOfMany query)) := by
  obtain ⟨items, hasMore, nextOffset, item, data, result, body⟩ := pageKeys_lowered
  have absent : value (some (pageOfMany query)) ["item", "data", "result", "body"] = none := by
    simp [value, ownEntry, pageOfMany, items, hasMore, nextOffset, item, data, result, body]
  refine ⟨pageOfMany query, ?_, ?_, ?_, fun _ => ?_⟩
  · simp only [unwrap, record, unwrapFrom, absent]
  · simp [value, ownEntry, pageOfMany]
  · simp [booleanOrNull, value, ownEntry, pageOfMany]
  · simp [numberOrNull, value, ownEntry, pageOfMany]

def readerOfMany : DocumentsReader where
  js := cursorConversions
  whole := cursorConversions_whole
  documents := manyDocuments
  named := by decide +kernel
  counterpartyGuid := "c"
  organizationGuid := "o"
  permissionNames := ["view_counterparty_finance"]
  roleName := none
  allowed := by decide +kernel
  period := .calendar .month (by decide) none none
  status := none
  limits _ := none
  env _ := ⟨⟨fun _ => 0, fun _ => none⟩, ⟨1700000000000, by decide⟩, fun _ => none, fun _ => none,
    fun query => .ok (.object (pageOfMany query))⟩
  answers _ query := ⟨_, rfl, pageOfMany_answers query⟩
  fresh _ _ _ none := nomatch none

/-- Of 521 documents the last is never seen: its page begins at 520. -/
theorem long_list_not_read : ¬∀ reader : DocumentsReader, ∃ fuel pages,
    reader.follow fuel 0 none = some pages ∧ reader.ReachesEnd pages := by
  intro claimed
  obtain ⟨fuel, pages, followed, -⟩ := claimed readerOfMany
  have last : readerOfMany.start 26 = 520 := by decide +kernel
  have near := readerOfMany.near_of_follow rfl (Nat.zero_le _) followed (show 0 < 26 by decide)
    (by rw [last]; decide +kernel)
  rw [last] at near
  exact absurd near (by decide)

end Long

end LeaderProduct
