import Mathlib.Data.List.Sort
import LeaderProduct.LiveRecord
import LeaderProduct.PagedScan

/-! The pages of a live list of 1C: what an answer lists, the entries of it that are shown, and the
search that asks for each word of its text. -/
namespace LeaderProduct
namespace OnecLive

section Pages

def DEFAULT_LIMIT : Nat := 25

structure OnecFilter where
  search : Option String
  includeInactive : Option Bool
  guid : Option String
  counterpartyGuid : Option String
  deliveryAddressNumber : Option String
  debtStatus : Option String

structure OnecLpAppQuery extends OnecFilter where
  limit : Nat
  offset : Nat

structure LiveListQuery extends OnecFilter where
  limit : Option Nat
  offset : Option Nat

def normalizeQuery (query : LiveListQuery) : OnecLpAppQuery :=
  { query.toOnecFilter with
    guid := none
    limit := query.limit.getD DEFAULT_LIMIT
    offset := query.offset.getD 0 }

structure ListPayload where
  items : List Json
  limit : Rat
  offset : Rat
  hasMore : Bool
  total : Rat

structure LivePagedResult (α : Type) where
  items : List α
  total : Rat
  limit : Rat
  offset : Rat
  deriving DecidableEq

def present : Option Json → Option Json
  | some .null | none => none
  | some value => some value

variable (js : JsConversions)

def extractListPayload (payload : Json) (fallbackKeys : List String) : ListPayload :=
  match record payload with
  | none => ⟨[], DEFAULT_LIMIT, 0, false, 0⟩
  | some entries =>
    let inner (key : String) := read ((read entries [key]).bind record) ["items"]
    let itemsValue := (((present (read entries ["items"])).or
      (present (read entries fallbackKeys))).or (present (inner "data"))).or (inner "result")
    let items := match itemsValue with
      | some (.array items) => items
      | _ => []
    let limit := (numberValue js entries ["limit"] (some DEFAULT_LIMIT)).getD DEFAULT_LIMIT
    let offset := (numberValue js entries ["offset"] (some 0)).getD 0
    let hasMore := bool (some entries) ["hasMore"] false
    let explicitTotal := numberValue js entries ["total", "count"] none
    ⟨items, limit, offset, hasMore,
      explicitTotal.getD (offset + items.length + if hasMore then 1 else 0)⟩

variable {α : Type}

def paged (payload : Json) (keys : List String) (mapper : RecordValue → Option α)
    (limit offset : Nat) : LivePagedResult α :=
  let list := extractListPayload js payload keys
  let items := list.items.filterMap fun item => (record item).bind mapper
  ⟨items, max list.total (offset + items.length : Nat),
    if list.limit = 0 then limit else list.limit,
    if list.offset = 0 then offset else list.offset⟩

def visiblePage (isActive : α → Bool) (page : LivePagedResult α) (includeInactive : Option Bool) :
    LivePagedResult α :=
  if includeInactive.getD false then page
  else
    let items := page.items.filter isActive
    { page with
      items
      total := min page.total (page.offset + items.length +
        if page.total > page.offset + page.items.length then 1 else 0) }

end Pages

section Words

def isDigit (c : Char) : Bool := 0x30 ≤ c.toNat && c.toNat ≤ 0x39

variable (js : JsConversions)

def wordsOf (blank : Bool) : List Char → List Char
  | [] => []
  | c :: rest =>
    if js.isLetterOrNumber c then (if blank then [' ', c] else [c]) ++ wordsOf false rest
    else wordsOf true rest

def normalizeSmartSearchText (value : String) : String :=
  let lower := (js.toLocaleLowerCase value).toList.map fun c => if c = 'ё' then 'е' else c
  JsString.trim (String.ofList (wordsOf js false lower))

def splitBlanks : List Char → List (List Char)
  | [] => [[]]
  | c :: rest =>
    if c = ' ' then [] :: splitBlanks rest
    else match splitBlanks rest with
      | word :: words => (c :: word) :: words
      | [] => [[c]]

def wordList (text : String) : List String := (splitBlanks text.toList).map String.ofList

def smartSearchTokens (search : Option String) : List String :=
  let normalized := normalizeSmartSearchText js (search.getD "")
  if normalized = "" then []
  else ((wordList normalized).filter fun token => 2 ≤ JsString.codeUnits token.toList).eraseDups

def numberAfterWords (text : List Char) : Option (List Char) :=
  match text.drop "адрес".toList.length |>.dropWhile JsString.isSpace with
  | rest =>
    if "адрес".toList.isPrefixOf text &&
        JsString.isSpace ((text.drop "адрес".toList.length).headD 'а') &&
        "доставки".toList.isPrefixOf rest then
      let digits := ((rest.drop "доставки".toList.length).dropWhile fun c => !isDigit c).takeWhile
        isDigit
      if digits.isEmpty then none else some digits
    else none

def extractDeliveryAddressNumber (value : Option String) : Option String :=
  let source := JsString.trim (value.getD "")
  if source = "" then none
  else if source.toList.all isDigit then some source
  else ((JsString.toLowerCase source).toList.tails.findSome? numberAfterWords).map String.ofList

end Words

section Search

structure ItemReader (α : Type) where
  isActive : α → Bool
  key : α → Option String
  searchText : α → String

structure SmartScore where
  isMatched : Bool
  allTokens : Bool
  score : Nat
  deriving DecidableEq, Repr

variable (js : JsConversions) {α : Type} (reader : ItemReader α)

def scoreSmartSearchItem (item : α) (search : String) : SmartScore :=
  let tokens := smartSearchTokens js (some search)
  if tokens = [] then ⟨true, true, 0⟩
  else
    let textValue := normalizeSmartSearchText js (reader.searchText item)
    let phrase := normalizeSmartSearchText js search
    let phraseMatch := phrase != "" && JsString.includes textValue phrase
    let matchedTokens := tokens.filter fun token => JsString.includes textValue token
    let allTokens := matchedTokens.length == tokens.length
    let prefixTokens := (tokens.filter fun token =>
      (wordList textValue).any fun word => token.toList.isPrefixOf word.toList).length
    ⟨decide (0 < matchedTokens.length), allTokens,
      matchedTokens.length * 100 + prefixTokens * 20 + (if allTokens then 500 else 0) +
        if phraseMatch then 250 else 0⟩

def smartDedupeKey (item : α) (index : Nat) : String :=
  (reader.key item).getD
    (String.ofList ((normalizeSmartSearchText js (reader.searchText item)).toList.take 160) ++
      ":" ++ toString index)

def uniqueFrom (known : List String) (index : Nat) : List α → List α
  | [] => []
  | item :: rest =>
    let key := smartDedupeKey js reader item index
    if known.contains key then uniqueFrom known (index + 1) rest
    else item :: uniqueFrom (key :: known) (index + 1) rest

structure ScoredItem (α : Type) where
  item : α
  index : Nat
  score : SmartScore

def ScoredItem.Before (a b : ScoredItem α) : Prop :=
  b.score.score < a.score.score ∨ b.score.score = a.score.score ∧ a.index ≤ b.index

instance : DecidableRel (@ScoredItem.Before α) := fun _ _ =>
  inferInstanceAs (Decidable (_ ∨ _))

def scoreItems (search : String) (unique : List α) : List (ScoredItem α) :=
  unique.zipIdx.map fun row => ⟨row.1, row.2, scoreSmartSearchItem js reader row.1 search⟩

def matchedItems (rows : List (ScoredItem α)) : List (ScoredItem α) :=
  let scored := rows.filter fun row => row.score.isMatched
  let strict := scored.filter fun row => row.score.allTokens
  if strict = [] then scored else strict

def rankItems (search : String) (unique : List α) : List α :=
  ((matchedItems (scoreItems js reader search unique)).insertionSort ScoredItem.Before).map (·.item)

def variantPages (loader : OnecLpAppQuery → Option Json) (keys : List String)
    (mapper : RecordValue → Option α) (normalized : OnecLpAppQuery) (fetchLimit : Nat)
    (variants : List String) : List (LivePagedResult α) :=
  variants.filterMap fun variant =>
    (loader { normalized with search := some variant, limit := fetchLimit, offset := 0 }).map
      fun payload => visiblePage reader.isActive (paged js payload keys mapper fetchLimit 0)
        normalized.includeInactive

def searchVariants (search : String) : List String :=
  ((search :: smartSearchTokens js (some search)).eraseDups).filter (· ≠ "")

def fetchWindow (limit offset : Nat) : Nat := min 100 (max (max (limit + offset) (limit * 4)) 50)

def liveSmartPaged (query : LiveListQuery) (loader : OnecLpAppQuery → Option Json)
    (keys : List String) (mapper : RecordValue → Option α) : Option (LivePagedResult α) :=
  let normalized := normalizeQuery query
  let limit := normalized.limit
  let offset := normalized.offset
  let search := JsString.trim (normalized.search.getD "")
  let tokens := smartSearchTokens js (some search)
  if tokens.length < 2 then
    (loader normalized).map fun payload =>
      visiblePage reader.isActive (paged js payload keys mapper limit offset) query.includeInactive
  else
    let fetchLimit := fetchWindow limit offset
    let pages := variantPages js reader loader keys mapper normalized fetchLimit
      (searchVariants js search)
    let sourceCanHaveMore := pages.any fun page => decide (page.total > (page.items.length : Nat))
    let unique := uniqueFrom js reader [] 0 (pages.flatMap (·.items))
    let ranked := rankItems js reader search unique
    let items := (ranked.drop offset).take limit
    let hasMore := sourceCanHaveMore || decide (ranked.length > offset + items.length)
    some ⟨items, (max ranked.length (offset + items.length + if hasMore then 1 else 0) : Nat),
      limit, offset⟩

end Search

section Upstream
variable {α : Type}

/-- Lists of 1C that honour the limit and the offset of a query. An answer tells the length of its
list, or whether the list goes on. -/
structure Upstream (mapper : RecordValue → Option α) where
  listing : OnecFilter → List { entry : RecordValue // (mapper entry).isSome = true }
  tellsTotal : Bool

variable {mapper : RecordValue → Option α} (upstream : Upstream mapper)

def Upstream.items (filter : OnecFilter) : List α :=
  (upstream.listing filter).map fun entry => (mapper entry.1).get entry.2

def Upstream.answer (query : OnecLpAppQuery) : Json :=
  let entries := upstream.listing query.toOnecFilter
  .object ([("items", .array (((entries.drop query.offset).take query.limit).map
      fun entry => .object entry.1)),
    ("limit", .number query.limit), ("offset", .number query.offset)] ++
    if upstream.tellsTotal then [("total", .number entries.length)]
    else [("hasMore", .bool (decide (query.offset + query.limit < entries.length)))])

def Upstream.loader (query : OnecLpAppQuery) : Option Json := some (upstream.answer query)

variable (js : JsConversions) (query : OnecLpAppQuery) (keys : List String)

def Upstream.window : List α :=
  ((upstream.items query.toOnecFilter).drop query.offset).take query.limit

theorem Upstream.list_items : (extractListPayload js (upstream.answer query) keys).items =
    (((upstream.listing query.toOnecFilter).drop query.offset).take query.limit).map
      fun entry => .object entry.1 := by
  unfold answer extractListPayload
  rfl

theorem Upstream.list_offset :
    (extractListPayload js (upstream.answer query) keys).offset = query.offset := by
  unfold answer extractListPayload
  rfl

theorem Upstream.list_total : (extractListPayload js (upstream.answer query) keys).total =
    ((if upstream.tellsTotal then (upstream.items query.toOnecFilter).length
      else query.offset + (upstream.window query).length +
        if query.offset + query.limit < (upstream.items query.toOnecFilter).length then 1 else 0 :
      Nat) : Rat) := by
  rw [window, items, ← List.map_drop, ← List.map_take, List.length_map, List.length_map]
  cases told : upstream.tellsTotal with
  | true =>
    simp [answer, extractListPayload, record, read, List.lookup_cons, numberValue, told]
  | false =>
    simp [answer, extractListPayload, record, read, List.lookup_cons, numberValue, bool, present, told]

theorem filterMap_mapped (entries : List { entry : RecordValue // (mapper entry).isSome = true }) :
    (entries.map fun entry => Json.object entry.1).filterMap (fun item => (record item).bind mapper) =
      entries.map fun entry => (mapper entry.1).get entry.2 := by
  induction entries with
  | nil => rfl
  | cons entry rest ih =>
    have mapped : (record (.object entry.1)).bind mapper = some ((mapper entry.1).get entry.2) :=
      (Option.some_get entry.2).symm
    rw [List.map_cons, List.map_cons, List.filterMap_cons, mapped, ih]

abbrev Upstream.page : LivePagedResult α :=
  paged js (upstream.answer query) keys mapper query.limit query.offset

theorem Upstream.paged_items : (upstream.page js query keys).items = upstream.window query := by
  rw [window, items, ← List.map_drop, ← List.map_take, ← filterMap_mapped,
    ← list_items upstream js query keys]
  rfl

theorem Upstream.paged_offset : (upstream.page js query keys).offset = query.offset := by
  have offset : (upstream.page js query keys).offset =
      if (extractListPayload js (upstream.answer query) keys).offset = 0 then (query.offset : Rat)
      else (extractListPayload js (upstream.answer query) keys).offset := rfl
  rw [offset, list_offset, ite_self]

theorem Upstream.length_window : (upstream.window query).length =
    min query.limit ((upstream.items query.toOnecFilter).length - query.offset) := by
  rw [window, List.length_take, List.length_drop]

theorem Upstream.paged_total : (upstream.page js query keys).total =
    ((if query.offset + query.limit < (upstream.items query.toOnecFilter).length then
        if upstream.tellsTotal then (upstream.items query.toOnecFilter).length
        else query.offset + query.limit + 1
      else query.offset + (upstream.window query).length : Nat) : Rat) := by
  have window := upstream.length_window query
  have total : (upstream.page js query keys).total =
      max (extractListPayload js (upstream.answer query) keys).total
        (query.offset + (upstream.page js query keys).items.length : Nat) := rfl
  rw [total, list_total, paged_items, ← Nat.cast_max, Nat.cast_inj]
  split_ifs <;> omega

theorem Upstream.visible_items (isActive : α → Bool) :
    (visiblePage isActive (upstream.page js query keys) (some false)).items =
      (upstream.window query).filter isActive := by
  rw [← paged_items upstream js query keys]
  rfl

theorem Upstream.visible_total (isActive : α → Bool) :
    (visiblePage isActive (upstream.page js query keys) (some false)).total =
      ((query.offset + ((upstream.window query).filter isActive).length +
        if query.offset + query.limit < (upstream.items query.toOnecFilter).length then 1 else 0 :
        Nat) : Rat) := by
  have total : (visiblePage isActive (upstream.page js query keys) (some false)).total =
      min (upstream.page js query keys).total ((upstream.page js query keys).offset +
        (((upstream.page js query keys).items.filter isActive).length : Nat) +
        if (upstream.page js query keys).total > (upstream.page js query keys).offset +
            (upstream.page js query keys).items.length then 1 else 0) := rfl
  have shorter := List.length_filter_le isActive (upstream.window query)
  have window := upstream.length_window query
  rw [total, paged_total, paged_offset, paged_items]
  generalize ((upstream.window query).filter isActive).length = shown at shorter ⊢
  norm_cast
  split_ifs <;> omega

end Upstream

end OnecLive
end LeaderProduct
