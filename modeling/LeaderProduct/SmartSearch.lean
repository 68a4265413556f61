import LeaderProduct.LiveAddresses

/-! A search of several words in a live list. Every page asks 1C for the whole text and for each
word anew, in a window that grows with the offset up to a cap, and ranks what has come. -/
namespace LeaderProduct
namespace OnecLive
open PagedScan

variable {search : String}

section Ranking
variable (js : JsConversions) {α : Type} (reader : ItemReader α)

theorem uniqueFrom_sublist (known : List String) (index : Nat) (items : List α) :
    (uniqueFrom js reader known index items).Sublist items := by
  induction items generalizing known index with
  | nil => exact .slnil
  | cons item rest ih =>
    rw [uniqueFrom]
    split
    · exact (ih _ _).cons _
    · exact (ih _ _).cons_cons _

theorem smartDedupeKey_of_key {item : α} {key : String} (keyed : reader.key item = some key)
    (index : Nat) : smartDedupeKey js reader item index = key := by
  rw [smartDedupeKey, keyed, Option.getD_some]

theorem uniqueFrom_keys (known : List String) (index : Nat) (items : List α)
    (keyed : ∀ item ∈ items, (reader.key item).isSome = true) :
    ((uniqueFrom js reader known index items).map reader.key).Nodup ∧
      ∀ key ∈ known, some key ∉ (uniqueFrom js reader known index items).map reader.key := by
  induction items generalizing known index with
  | nil => exact ⟨List.nodup_nil, fun _ _ => List.not_mem_nil⟩
  | cons item rest ih =>
    obtain ⟨key, has⟩ := Option.isSome_iff_exists.mp (keyed item List.mem_cons_self)
    have keyed_rest := fun other inside => keyed other (List.mem_cons_of_mem item inside)
    rw [uniqueFrom]
    rw [smartDedupeKey_of_key js reader has]
    split
    · exact ih known _ keyed_rest
    · next new =>
      obtain ⟨distinct, fresh⟩ := ih (key :: known) (index + 1) keyed_rest
      rw [List.contains_iff_mem] at new
      rw [List.map_cons, List.nodup_cons, has]
      refine ⟨⟨fresh key List.mem_cons_self, distinct⟩, fun other at_known inside => ?_⟩
      rcases List.mem_cons.mp inside with same | later
      · exact new (Option.some.inj same ▸ at_known)
      · exact fresh other (List.mem_cons_of_mem _ at_known) later

theorem uniqueFrom_covers (known : List String) (index : Nat) (items : List α)
    (keyed : ∀ item ∈ items, (reader.key item).isSome = true) {item : α} (inside : item ∈ items)
    {key : String} (has : reader.key item = some key) (new : key ∉ known) :
    ∃ kept ∈ uniqueFrom js reader known index items, reader.key kept = some key := by
  induction items generalizing known index with
  | nil => cases inside
  | cons first rest ih =>
    obtain ⟨first_key, first_has⟩ := Option.isSome_iff_exists.mp (keyed first List.mem_cons_self)
    have keyed_rest := fun other inside => keyed other (List.mem_cons_of_mem first inside)
    rw [uniqueFrom]
    rw [smartDedupeKey_of_key js reader first_has]
    split
    · next seen =>
      rcases List.mem_cons.mp inside with rfl | later
      · rw [has, Option.some_inj] at first_has
        rw [← first_has, List.contains_iff_mem] at seen
        exact absurd seen new
      · exact ih known _ keyed_rest later new
    · by_cases same : key = first_key
      · exact ⟨first, List.mem_cons_self, by rw [first_has, same]⟩
      · rcases List.mem_cons.mp inside with rfl | later
        · exact absurd (Option.some.inj (has.symm.trans first_has)) same
        · obtain ⟨kept, at_kept, kept_has⟩ := ih (first_key :: known) (index + 1) keyed_rest later
            (by simp [same, new])
          exact ⟨kept, List.mem_cons_of_mem _ at_kept, kept_has⟩

theorem matchedItems_sublist (rows : List (ScoredItem α)) : (matchedItems rows).Sublist rows := by
  rw [matchedItems]
  split
  · exact List.filter_sublist
  · exact List.filter_sublist.trans List.filter_sublist

theorem scoreItems_items (search : String) (unique : List α) :
    (scoreItems js reader search unique).map (·.item) = unique := by
  rw [scoreItems, List.map_map]
  exact List.zipIdx_map_fst 0 unique

theorem rankItems_perm (search : String) (unique : List α) :
    ∃ kept : List α, kept.Sublist unique ∧ (rankItems js reader search unique).Perm kept := by
  refine ⟨(matchedItems (scoreItems js reader search unique)).map ScoredItem.item, ?_,
    List.Perm.map ScoredItem.item (List.perm_insertionSort _ _)⟩
  have rows := (matchedItems_sublist (scoreItems js reader search unique)).map (·.item)
  rwa [scoreItems_items] at rows

theorem score_of_mem {unique : List α} {row : ScoredItem α}
    (inside : row ∈ scoreItems js reader search unique) :
    row.score = scoreSmartSearchItem js reader row.item search := by
  rw [scoreItems] at inside
  obtain ⟨entry, _, same⟩ := List.mem_map.mp inside
  rw [← same]

theorem mem_rankItems {unique : List α} {item : α} (inside : item ∈ unique)
    (isMatched : (scoreSmartSearchItem js reader item search).isMatched = true)
    (allTokens : (scoreSmartSearchItem js reader item search).allTokens = true) :
    item ∈ rankItems js reader search unique := by
  rw [← scoreItems_items js reader search unique] at inside
  obtain ⟨row, at_rows, rfl⟩ := List.mem_map.mp inside
  rw [← score_of_mem js reader at_rows] at isMatched allTokens
  have strict : row ∈ ((scoreItems js reader search unique).filter fun row => row.score.isMatched).filter
      fun row => row.score.allTokens := by
    rw [List.mem_filter, List.mem_filter]
    exact ⟨⟨at_rows, isMatched⟩, allTokens⟩
  refine List.mem_map.mpr ⟨row, (List.mem_insertionSort _).mpr ?_, rfl⟩
  rw [matchedItems]
  exact (if_neg (List.ne_nil_of_mem strict)).symm ▸ strict

theorem allTokens_of_mem_rankItems {unique : List α} {item other : α}
    (inside : item ∈ rankItems js reader search unique)
    (allTokens : (scoreSmartSearchItem js reader item search).allTokens = true)
    (ranked : other ∈ rankItems js reader search unique) :
    (scoreSmartSearchItem js reader other search).allTokens = true := by
  obtain ⟨row, at_row, rfl⟩ := List.mem_map.mp inside
  obtain ⟨row', at_row', rfl⟩ := List.mem_map.mp ranked
  rw [List.mem_insertionSort] at at_row at_row'
  have scored := score_of_mem js reader ((matchedItems_sublist _).subset at_row)
  have scored' := score_of_mem js reader ((matchedItems_sublist _).subset at_row')
  rw [← scored] at allTokens
  rw [← scored']
  unfold matchedItems at at_row at_row'
  dsimp only at at_row at_row'
  split at at_row
  · next no_strict =>
    have strict : row ∈ ((scoreItems js reader search unique).filter fun row =>
        row.score.isMatched).filter fun row => row.score.allTokens :=
      List.mem_filter.mpr ⟨at_row, allTokens⟩
    rw [no_strict] at strict
    cases strict
  · next some_strict =>
    rw [if_neg some_strict] at at_row'
    exact (List.mem_filter.mp at_row').2

end Ranking

/-- A search of at least two words, read by a client page after page. -/
structure WordSearch {α : Type} (mapper : RecordValue → Option α) where
  js : JsConversions
  reader : ItemReader α
  upstream : Upstream mapper
  keys : List String
  filter : OnecFilter
  limit : Nat
  positive : 0 < limit
  words : 2 ≤ (smartSearchTokens js (some (JsString.trim (filter.search.getD "")))).length

namespace WordSearch
variable {α : Type} {mapper : RecordValue → Option α} (w : WordSearch mapper)

def text : String := JsString.trim (w.filter.search.getD "")

def variants : List String := searchVariants w.js w.text

def page (k : Nat) : Option (LivePagedResult α) :=
  liveSmartPaged w.js w.reader
    { w.filter with limit := some w.limit, offset := some (k * w.limit) } w.upstream.loader w.keys
    mapper

def isShown (item : α) : Bool := w.filter.includeInactive.getD false || w.reader.isActive item

def hasAllTokens (item : α) : Bool := (scoreSmartSearchItem w.js w.reader item w.text).allTokens

def listed (variant : String) : List α :=
  w.upstream.items { w.filter with guid := none, search := some variant }

/-- A client that asks for page after page while their total exceeds what it has received stops,
has received no item twice, and has every listed item that matches all words. -/
def ReadsAllMatches : Prop :=
  ∃ pages : Nat → LivePagedResult α, (∀ k, w.page k = some (pages k)) ∧
    ∃ n, (∀ k < n, GoesOn (fun k => (pages k).items) (fun k => (pages k).total) w.limit k
        .receivedSoFar) ∧
      ¬GoesOn (fun k => (pages k).items) (fun k => (pages k).total) w.limit n .receivedSoFar ∧
      ((received (fun k => (pages k).items) (n + 1)).map w.reader.key).Nodup ∧
      ∀ variant ∈ w.variants, ∀ item ∈ w.listed variant, w.isShown item = true →
        w.hasAllTokens item = true → item ∈ received (fun k => (pages k).items) (n + 1)

/-- 1C lists no more for any text of the search than the largest window holds. -/
def WithinCap : Prop := ∀ variant ∈ w.variants, (w.listed variant).length ≤ 100

/-- Every item that is shown has a key, and no other listed item has the same. -/
def OneItemPerKey : Prop :=
  ∀ variant ∈ w.variants, ∀ item ∈ w.listed variant, w.isShown item = true →
    (w.reader.key item).isSome = true ∧
      ∀ variant' ∈ w.variants, ∀ other ∈ w.listed variant', w.isShown other = true →
        w.reader.key other = w.reader.key item → other = item

def windowSize (k : Nat) : Nat := fetchWindow w.limit (k * w.limit)

def windowItems (k : Nat) : List α :=
  w.variants.flatMap fun variant => ((w.listed variant).take (w.windowSize k)).filter w.isShown

def goesBeyond (k : Nat) : Bool :=
  w.variants.any fun variant => decide (w.windowSize k < (w.listed variant).length)

def ranking (k : Nat) : List α :=
  rankItems w.js w.reader w.text (uniqueFrom w.js w.reader [] 0 (w.windowItems k))

/-- The window of the page cuts a list of 1C off. -/
def WindowCuts (k : Nat) : Prop := w.goesBeyond k = true

/-- A page whose window cuts a list off is full. -/
def FullPages : Prop := ∀ k, w.WindowCuts k → (k + 1) * w.limit ≤ (w.ranking k).length

/-- The wider window of the next page ranks the same items first. -/
def SteadyPages : Prop := ∀ k, w.WindowCuts k → SteadyAt w.limit w.ranking k

/-- The matches of all words do not end before the pages whose window cuts nothing off. -/
def MatchesGoOn : Prop :=
  ∃ m, ¬w.WindowCuts m ∧ m * w.limit < ((w.ranking m).filter w.hasAllTokens).length

def pageItems : Nat → List α := piece w.limit w.ranking

def pageTotal (k : Nat) : Nat :=
  let reached := k * w.limit + (w.pageItems k).length
  max (w.ranking k).length (reached +
    if w.goesBeyond k = true ∨ reached < (w.ranking k).length then 1 else 0)

abbrev AskedNext (k : Nat) : Prop :=
  GoesOn w.pageItems (fun k => (w.pageTotal k : Rat)) w.limit k .receivedSoFar

def variantQuery (variant : String) (k : Nat) : OnecLpAppQuery :=
  { w.filter with guid := none, search := some variant, limit := w.windowSize k, offset := 0 }

def variantPage (k : Nat) (variant : String) : LivePagedResult α :=
  visiblePage w.reader.isActive (paged w.js (w.upstream.answer (w.variantQuery variant k)) w.keys
    mapper (w.windowSize k) 0) w.filter.includeInactive

variable {w} {k m : Nat} {variant : String} {item : α}

theorem isShown_of_inactive (inactive : w.filter.includeInactive.getD false = true) :
    w.isShown = fun _ => true :=
  funext fun item => by rw [isShown, inactive, Bool.true_or]

theorem isShown_of_active (active : w.filter.includeInactive.getD false = false) :
    w.isShown = w.reader.isActive :=
  funext fun item => by rw [isShown, active, Bool.false_or]

theorem variantPage_items : (w.variantPage k variant).items =
    ((w.listed variant).take (w.windowSize k)).filter w.isShown := by
  cases inactive : w.filter.includeInactive.getD false with
  | true =>
    rw [isShown_of_inactive inactive, List.filter_true, variantPage, visiblePage, if_pos inactive]
    exact w.upstream.paged_items w.js (w.variantQuery variant k) w.keys
  | false =>
    rw [isShown_of_active inactive, variantPage, visiblePage, if_neg (by simp [inactive])]
    exact w.upstream.visible_items w.js (w.variantQuery variant k) w.keys w.reader.isActive

theorem variantPage_total :
    ((w.variantPage k variant).total > ((w.variantPage k variant).items.length : Nat)) ↔
      w.windowSize k < (w.listed variant).length := by
  rw [variantPage_items]
  have shorter := List.length_filter_le w.isShown ((w.listed variant).take (w.windowSize k))
  have taken : ((w.listed variant).take (w.windowSize k)).length =
      min (w.windowSize k) (w.listed variant).length := List.length_take
  cases inactive : w.filter.includeInactive.getD false with
  | true =>
    have total : (paged w.js (w.upstream.answer (w.variantQuery variant k)) w.keys mapper
        (w.windowSize k) 0).total =
        ((if 0 + w.windowSize k < (w.listed variant).length then
            if w.upstream.tellsTotal then (w.listed variant).length else 0 + w.windowSize k + 1
          else 0 + ((w.listed variant).take (w.windowSize k)).length : Nat) : Rat) :=
      w.upstream.paged_total w.js (w.variantQuery variant k) w.keys
    rw [variantPage, visiblePage, if_pos inactive, isShown_of_inactive inactive, List.filter_true,
      total, gt_iff_lt, Nat.cast_lt]
    split_ifs <;> omega
  | false =>
    have total : (visiblePage w.reader.isActive (paged w.js
        (w.upstream.answer (w.variantQuery variant k)) w.keys mapper (w.windowSize k) 0)
        (some false)).total =
        ((0 + (((w.listed variant).take (w.windowSize k)).filter w.reader.isActive).length +
          if 0 + w.windowSize k < (w.listed variant).length then 1 else 0 : Nat) : Rat) :=
      w.upstream.visible_total w.js (w.variantQuery variant k) w.keys w.reader.isActive
    have same : w.variantPage k variant = visiblePage w.reader.isActive (paged w.js
        (w.upstream.answer (w.variantQuery variant k)) w.keys mapper (w.windowSize k) 0)
        (some false) := by
      rw [variantPage, visiblePage, visiblePage, inactive]
      rfl
    rw [isShown_of_active inactive] at shorter ⊢
    rw [same, total, gt_iff_lt, Nat.cast_lt]
    split_ifs <;> omega

theorem page_eq (w : WordSearch mapper) (k : Nat) : ∃ page, w.page k = some page ∧
    page.items = w.pageItems k ∧ page.total = (w.pageTotal k : Nat) := by
  have pages : variantPages w.js w.reader w.upstream.loader w.keys mapper
      (normalizeQuery { w.filter with limit := some w.limit, offset := some (k * w.limit) })
      (fetchWindow w.limit (k * w.limit)) (searchVariants w.js w.text) =
      w.variants.map (w.variantPage k) := by
    rw [variantPages, ← List.filterMap_eq_map]
    rfl
  have combined : (w.variants.map (w.variantPage k)).flatMap (·.items) = w.windowItems k := by
    rw [List.flatMap_map, windowItems]
    simp only [variantPage_items]
  have more : (w.variants.map (w.variantPage k)).any (fun page =>
      decide (page.total > (page.items.length : Nat))) = w.goesBeyond k := by
    rw [List.any_map, goesBeyond]
    simp only [Function.comp_def, variantPage_total]
  have unlimited : JsString.trim ((normalizeQuery { w.filter with
      limit := some w.limit, offset := some (k * w.limit) }).search.getD "") = w.text := rfl
  have limits : (normalizeQuery { w.filter with
      limit := some w.limit, offset := some (k * w.limit) }).limit = w.limit := rfl
  have offsets : (normalizeQuery { w.filter with
      limit := some w.limit, offset := some (k * w.limit) }).offset = k * w.limit := rfl
  rw [page, liveSmartPaged]
  have two : ¬(smartSearchTokens w.js (some w.text)).length < 2 := Nat.not_lt.mpr w.words
  simp only [unlimited, if_neg two, limits, offsets, pages, combined, more]
  refine ⟨_, rfl, rfl, ?_⟩
  simp only [Bool.or_eq_true, decide_eq_true_eq, gt_iff_lt]
  rfl

theorem mem_windowItems : item ∈ w.windowItems k ↔
    ∃ variant ∈ w.variants, item ∈ (w.listed variant).take (w.windowSize k) ∧
      w.isShown item = true := by
  simp only [windowItems, List.mem_flatMap, List.mem_filter]

theorem not_windowCuts_iff : ¬w.WindowCuts k ↔
    ∀ variant ∈ w.variants, (w.listed variant).length ≤ w.windowSize k := by
  rw [WindowCuts, Bool.not_eq_true, goesBeyond, List.any_eq_false]
  simp only [decide_eq_true_eq, Nat.not_lt]

theorem windowSize_mono {later : Nat} (le : k ≤ later) : w.windowSize k ≤ w.windowSize later := by
  have offsets : k * w.limit ≤ later * w.limit := Nat.mul_le_mul_right _ le
  unfold windowSize fetchWindow
  omega

theorem windowCuts_anti {later : Nat} (le : k ≤ later) (cuts : w.WindowCuts later) :
    w.WindowCuts k := by
  by_contra holds
  exact not_windowCuts_iff.mpr (fun variant listed =>
    (not_windowCuts_iff.mp holds variant listed).trans (windowSize_mono le)) cuts

theorem ranking_settled (holds : ¬w.WindowCuts m) (later : m ≤ k) : w.ranking k = w.ranking m := by
  have fits := not_windowCuts_iff.mp holds
  rw [ranking, ranking, windowItems, windowItems]
  refine congrArg (fun items => rankItems w.js w.reader w.text (uniqueFrom w.js w.reader [] 0 items))
    (List.flatMap_congr fun variant listed => ?_)
  rw [List.take_of_length_le ((fits variant listed).trans (windowSize_mono later)),
    List.take_of_length_le (fits variant listed)]

theorem exists_holding (within : w.WithinCap) :
    ∃ m, (∀ k < m, w.WindowCuts k) ∧ ¬w.WindowCuts m := by
  refine exists_first ⟨100, not_windowCuts_iff.mpr fun variant listed => ?_⟩
  have wide : 100 * 1 ≤ 100 * w.limit := Nat.mul_le_mul_left _ w.positive
  refine (within variant listed).trans ?_
  unfold windowSize fetchWindow
  omega

theorem ranking_keys (single : w.OneItemPerKey) (k : Nat) :
    ((w.ranking k).map w.reader.key).Nodup := by
  obtain ⟨kept, sublist, perm⟩ := rankItems_perm w.js w.reader w.text
    (uniqueFrom w.js w.reader [] 0 (w.windowItems k))
  have distinct := (uniqueFrom_keys w.js w.reader [] 0 (w.windowItems k) fun item inside => by
    obtain ⟨variant, listed, at_window, shown⟩ := mem_windowItems.mp inside
    exact (single variant listed item (List.mem_of_mem_take at_window) shown).1).1
  exact ((perm.map w.reader.key).nodup_iff).mpr ((sublist.map w.reader.key).nodup distinct)

theorem listed_of_mem_ranking (inside : item ∈ w.ranking k) :
    ∃ variant ∈ w.variants, item ∈ w.listed variant ∧ w.isShown item = true := by
  obtain ⟨kept, sublist, perm⟩ := rankItems_perm w.js w.reader w.text
    (uniqueFrom w.js w.reader [] 0 (w.windowItems k))
  obtain ⟨variant, listed, at_window, shown⟩ := mem_windowItems.mp
    ((uniqueFrom_sublist w.js w.reader _ _ _).subset (sublist.subset (perm.subset inside)))
  exact ⟨variant, listed, List.mem_of_mem_take at_window, shown⟩

theorem pageItems_short (k : Nat) : (w.pageItems k).length ≤ w.limit :=
  List.length_take_le _ _

theorem totals_cut (cuts : w.WindowCuts k) : w.AskedNext k := by
  refine goesOn_of_end pageItems_short ?_
  rw [pageTotal, Nat.cast_lt, if_pos (.inl cuts)]
  omega

theorem totals_settled (holds : ¬w.WindowCuts m) (later : m ≤ k)
    (inside : k * w.limit ≤ (w.ranking m).length) : w.pageTotal k = (w.ranking m).length := by
  have beyond : ¬w.goesBeyond k = true := fun cuts => holds (windowCuts_anti later cuts)
  have taken : (w.pageItems k).length = min w.limit ((w.ranking m).length - k * w.limit) := by
    rw [pageItems, piece, ranking_settled holds later, window, List.length_take, List.length_drop]
  rw [pageTotal, taken, ranking_settled holds later]
  simp only [beyond, Bool.false_eq_true, false_or]
  refine max_eq_left ?_
  split_ifs <;> omega

theorem readsAllMatches_iff : w.ReadsAllMatches ↔
    ∃ n, (∀ k < n, w.AskedNext k) ∧ ¬w.AskedNext n ∧
      ((received w.pageItems (n + 1)).map w.reader.key).Nodup ∧
      ∀ variant ∈ w.variants, ∀ item ∈ w.listed variant, w.isShown item = true →
        w.hasAllTokens item = true → item ∈ received w.pageItems (n + 1) := by
  choose pages answered items totals using w.page_eq
  have pieces : (fun k => (pages k).items) = w.pageItems := funext items
  have tells : (fun k => (pages k).total) = fun k => (w.pageTotal k : Rat) := funext totals
  unfold AskedNext
  rw [ReadsAllMatches, ← pieces, ← tells]
  refine ⟨fun ⟨pages', answered', reads⟩ => ?_, fun reads => ⟨pages, answered, reads⟩⟩
  have same : pages' = pages := funext fun k => Option.some.inj ((answered' k).symm.trans (answered k))
  rwa [← same]

theorem isMatched_of_hasAllTokens (all : w.hasAllTokens item = true) :
    (scoreSmartSearchItem w.js w.reader item w.text).isMatched = true := by
  have two : 2 ≤ (smartSearchTokens w.js (some w.text)).length := w.words
  have some_token : smartSearchTokens w.js (some w.text) ≠ [] := fun none_given => by
    rw [none_given] at two
    exact absurd two (by decide)
  unfold hasAllTokens scoreSmartSearchItem at all
  unfold scoreSmartSearchItem
  dsimp only at all ⊢
  rw [if_neg some_token] at all ⊢
  simp only [beq_iff_eq] at all
  simp only [all, decide_eq_true_eq]
  omega

theorem mem_ranking (single : w.OneItemPerKey) (holds : ¬w.WindowCuts m)
    (listed : variant ∈ w.variants) (inside : item ∈ w.listed variant)
    (shown : w.isShown item = true) (all : w.hasAllTokens item = true) : item ∈ w.ranking m := by
  obtain ⟨keyed, same⟩ := single variant listed item inside shown
  obtain ⟨key, has⟩ := Option.isSome_iff_exists.mp keyed
  have at_window : item ∈ w.windowItems m :=
    mem_windowItems.mpr ⟨variant, listed,
      by rwa [List.take_of_length_le (not_windowCuts_iff.mp holds variant listed)], shown⟩
  obtain ⟨kept, at_kept, kept_has⟩ := uniqueFrom_covers w.js w.reader [] 0 _ (fun other at_other => by
    obtain ⟨variant', listed', at_window', shown'⟩ := mem_windowItems.mp at_other
    exact (single variant' listed' other (List.mem_of_mem_take at_window') shown').1) at_window has
    List.not_mem_nil
  obtain ⟨variant', listed', at_window', shown'⟩ :=
    mem_windowItems.mp ((uniqueFrom_sublist w.js w.reader _ _ _).subset at_kept)
  rw [← same variant' listed' kept (List.mem_of_mem_take at_window') shown'
    (kept_has.trans has.symm)] at all ⊢
  exact mem_rankItems w.js w.reader at_kept (isMatched_of_hasAllTokens all) all

theorem readsAllMatches_of_steady (within : w.WithinCap) (single : w.OneItemPerKey)
    (full : w.FullPages) (steady : w.SteadyPages) : w.ReadsAllMatches := by
  obtain ⟨m, cuts, holds⟩ := exists_holding within
  have steady_at (k : Nat) : SteadyAt w.limit w.ranking k := by
    by_cases cut : w.WindowCuts k
    · exact steady k cut
    · rw [SteadyAt, ranking_settled cut (Nat.le_succ k)]
  have reaches : m * w.limit ≤ (w.ranking m).length := by
    cases m with
    | zero => simp
    | succ k =>
      have lengths := (steady_at k).length_eq
      have here := full k (cuts k (Nat.lt_succ_self k))
      rw [List.length_take, List.length_take] at lengths
      omega
  obtain ⟨n, on, stop, whole⟩ := readsAll_pieces w.positive steady_at
    (fun k later => ranking_settled holds later) reaches (fun k before => totals_cut (cuts k before))
    (fun k later inside => congrArg Nat.cast (totals_settled holds later inside))
  refine readsAllMatches_iff.mpr ⟨n, on, stop, ?_, ?_⟩
  · exact ((whole.map w.reader.key).nodup_iff).mpr (ranking_keys single _)
  · intro variant listed item inside shown all
    exact whole.mem_iff.mpr (mem_ranking single holds listed inside shown all)

/-- A text for which 1C lists more than the cap keeps every page's total past its end. -/
theorem withinCap_of_reads (reads : w.ReadsAllMatches) : w.WithinCap := by
  obtain ⟨n, _, stop, _⟩ := readsAllMatches_iff.mp reads
  intro variant listed
  have fits := not_windowCuts_iff.mp (fun cuts => stop (totals_cut cuts)) variant listed
  exact fits.trans (Nat.min_le_left _ _)

/-- A page that is not full, while 1C lists more than its window, is never made up for. -/
theorem fullPages_of_reads (reads : w.ReadsAllMatches) : w.FullPages := by
  obtain ⟨n, _, stop, _⟩ := readsAllMatches_iff.mp reads
  intro k cuts
  by_contra not_full
  rcases Nat.lt_or_ge k n with before | reached
  · refine stop (goesOn_after_short pageItems_short (fun k => ?_) ?_ before)
    · rw [pageTotal, Nat.cast_le]
      omega
    · have positive := w.positive
      rw [pageItems, piece, window, List.length_take, List.length_drop]
      rw [Nat.add_mul, Nat.one_mul] at not_full
      omega
  · exact stop (totals_cut (windowCuts_anti reached cuts))

/-- Where the ranking that is read to its end has only matches of all words, what has been read
before it are its first items. -/
theorem received_of_reads (single : w.OneItemPerKey) (reads : w.ReadsAllMatches)
    (cuts : ∀ k < m, w.WindowCuts k) (holds : ¬w.WindowCuts m)
    (beyond : m * w.limit < ((w.ranking m).filter w.hasAllTokens).length) :
    (received w.pageItems m).Perm ((w.ranking m).take (m * w.limit)) := by
  obtain ⟨n, _, stop, _, matched⟩ := readsAllMatches_iff.mp reads
  have later : m ≤ n := by
    by_contra early
    exact stop (totals_cut (cuts n (Nat.lt_of_not_le early)))
  have shorter := List.length_filter_le w.hasAllTokens (w.ranking m)
  obtain ⟨first, at_first⟩ := List.exists_mem_of_length_pos (Nat.lt_of_le_of_lt (Nat.zero_le _) beyond)
  obtain ⟨first_ranked, first_all⟩ := List.mem_filter.mp at_first
  refine received_of_covers (fun k => ranking_settled holds) (beyond.le.trans shorter)
    (Nat.le_succ_of_le later) (List.Nodup.of_map _ (ranking_keys single _)) fun item ranked => ?_
  obtain ⟨variant, listed, inside, shown⟩ := listed_of_mem_ranking ranked
  exact matched variant listed item inside shown
    (allTokens_of_mem_rankItems w.js w.reader first_ranked first_all ranked)

theorem steadyPages_of_reads (single : w.OneItemPerKey) (reads : w.ReadsAllMatches)
    (goes_on : w.MatchesGoOn)
    (once : ∀ j k, w.WindowCuts j → w.WindowCuts k → ¬SteadyAt w.limit w.ranking j →
      ¬SteadyAt w.limit w.ranking k → j = k) : w.SteadyPages := by
  obtain ⟨late, late_holds, beyond⟩ := goes_on
  obtain ⟨m, cuts, holds⟩ := exists_first (P := w.WindowCuts) ⟨late, late_holds⟩
  have early : m ≤ late := by
    by_contra after
    exact late_holds (cuts late (Nat.lt_of_not_le after))
  rw [ranking_settled holds early] at beyond
  have reached := received_of_reads single reads cuts holds
    ((Nat.mul_le_mul_right _ early).trans_lt beyond)
  intro k cut
  by_contra unsteady
  have inside : k < m := by
    by_contra after
    exact holds (windowCuts_anti (Nat.le_of_not_lt after) cut)
  refine unsteady (steadyAt_of_others inside (fun j before ne => ?_) reached)
  by_contra other
  exact ne (once j k (cuts j before) cut other unsteady)

end WordSearch

namespace Sample

def searchFilter : OnecFilter where
  search := some "aa aaa"
  includeInactive := none
  guid := none
  counterpartyGuid := counterparty
  deliveryAddressNumber := none
  debtStatus := none

theorem tokens : smartSearchTokens ofTexts (some "aa aaa") = ["aa", "aaa"] := by decide +kernel

theorem trimmed : JsString.trim (searchFilter.search.getD "") = "aa aaa" := by decide +kernel

def manyAddresses : WordSearch (mapDeliveryAddress ofTexts) where
  js := ofTexts
  reader := addressReader
  upstream := upstream fun _ => List.range 101
  keys := addressKeys
  filter := searchFilter
  limit := 10
  positive := by decide
  words := by rw [trimmed, tokens]; decide

end Sample

end OnecLive
end LeaderProduct
