import Mathlib.Data.List.Infix
import LeaderProduct.ManagerActions
import LeaderProduct.OrderList

/-! The pages of the order list, one after the other until one says that there are no more. -/
namespace LeaderProduct

/-- A listing with the documents that 1C keeps for a query. -/
structure PagedOrders where
  listing : OrderListing
  query : ClientOrdersListQuery
  documents : List LiveDocument

namespace PagedOrders

section Share
variable (p : PagedOrders)

def pinned : List Order := pinnedOrders p.listing p.query

def pinnedAt (offset : Nat) : List Order := pinnedItems p.listing p.query offset

def start (offset : Nat) : Nat := liveOffset p.listing p.query offset

def capacity (offset : Nat) : Nat := livePageCapacity p.listing p.query offset

def scanLimit (offset : Nat) : Nat := liveQueryLimit p.listing p.query offset

def sent (offset : Nat) : List LiveDocument := liveItems p.listing p.query p.documents offset

def hasMore (offset : Nat) : Bool := hasMoreLive p.listing p.query p.documents offset

def concat (fuel offset : Nat) : Option (List ListedOrder) :=
  concatPages { p.listing with live := .documents p.documents } p.query fuel offset

def localIn (documents : List LiveDocument) (document : LiveDocument) : Option Order :=
  localOf p.listing p.query documents document

def entry (document : LiveDocument) : LiveDocument × Option Order :=
  (document, p.localIn p.documents document)

def listed (document : LiveDocument) : ListedOrder :=
  .live document (p.localIn p.documents document)

def matching (document : LiveDocument) : Bool :=
  p.listing.orderMatchesListQuery p.query document (p.localIn p.documents document)

def twin (document : LiveDocument) : Bool := carriesKeyOf p.pinned document

def unpinned (document : LiveDocument) : Bool := p.matching document && !p.twin document

/-- The orders to list: the pinned ones, and the matching documents of no pinned order. -/
def expected : List ListedOrder :=
  p.pinned.map .stored ++ (p.documents.filter p.unpinned).map p.listed

/-- The pages come to an end and list every order once. -/
def ListedOnce : Prop :=
  ∀ fuel, p.pinned.length + p.documents.length < fuel →
    ∃ orders, p.concat fuel 0 = some orders ∧ orders.Perm p.expected

def page (j : Nat) : Nat := (p.pinned.length / p.query.limit + j) * p.query.limit

/-- Every page that shows documents finds the local orders that they are merged into. -/
def LocalsFound : Prop :=
  ∀ j, ∀ document ∈ p.sent (p.page j),
    p.localIn (p.sent (p.page j)) document = p.localIn p.documents document

/-- No matching document is one of a pinned order. -/
def NoTwins : Prop :=
  ∀ document ∈ p.documents, p.matching document = true → p.twin document = false

/-- The matching documents of pinned orders are among the first `cut`, and come on the page of
their orders. -/
def TwinsOnOwnPage (cut : Nat) : Prop :=
  (∀ document ∈ p.documents.take cut, p.matching document = true → p.twin document = true →
    carriesKeyOf (p.pinnedAt (p.page 0)) document = true) ∧
  ∀ document ∈ p.documents.drop cut, p.matching document = true → p.twin document = false

def allMatching : List LiveDocument := p.documents.filter p.matching

def scanned (offset : Nat) : List LiveDocument :=
  (p.documents.take (p.scanLimit offset)).filter p.matching

/-- The documents that the page scans hold the matching ones up to its end, or all. -/
def ScanReaches (offset : Nat) : Prop :=
  p.start offset < p.allMatching.length →
    min (p.start offset + p.capacity offset) p.allMatching.length ≤ (p.scanned offset).length

def ScansReach : Prop := ∀ j, p.ScanReaches (p.page j)

/-- The first page with documents has room for all matching ones that it scans, and lists one of
them if others come behind. -/
def FirstScanFits : Prop :=
  (p.scanned (p.page 0)).length ≤ p.capacity (p.page 0) ∧
    (p.capacity (p.page 0) < p.allMatching.length →
      ∃ document ∈ p.documents.take (p.scanLimit (p.page 0)), p.unpinned document = true)

/-- The first page with documents is the last: there is nothing to list, and it scans nothing but
documents of its own pinned orders; or it scans all and has room for those to list. -/
def OnFirstPage : Prop :=
  p.documents.filter p.unpinned = [] ∧
      (∀ document ∈ p.scanned (p.page 0),
        carriesKeyOf (p.pinnedAt (p.page 0)) document = true) ∨
    p.documents.length < p.scanLimit (p.page 0) ∧
      (p.documents.filter p.unpinned).length ≤ p.capacity (p.page 0) ∧
      p.TwinsOnOwnPage (p.scanLimit (p.page 0))

def PagesShare : Prop :=
  if livePostFilterActive p.query then
    p.ScansReach ∧
        (p.NoTwins ∨ p.TwinsOnOwnPage (p.scanLimit (p.page 0)) ∧ p.FirstScanFits) ∨
      p.OnFirstPage
  else p.TwinsOnOwnPage (p.capacity (p.page 0))

end Share

section Pages
variable {p : PagedOrders} {offset j fuel : Nat} {document : LiveDocument}

theorem twin_of_page (carries : carriesKeyOf (p.pinnedAt offset) document = true) :
    p.twin document = true := by
  simp only [twin, carriesKeyOf, List.any_eq_true] at carries ⊢
  obtain ⟨order, member, same⟩ := carries
  exact ⟨order, List.mem_of_mem_drop (List.mem_of_mem_take member), same⟩

theorem length_pinnedAt :
    (p.pinnedAt offset).length = min p.query.limit (p.pinned.length - offset) := by
  rw [pinnedAt, pinnedItems, List.length_take, List.length_drop]
  rfl

theorem start_eq : p.start offset = offset - p.pinned.length := rfl

theorem capacity_eq : p.capacity offset = p.query.limit - (p.pinned.length - offset) := by
  change p.query.limit - (p.pinnedAt offset).length = _
  rw [length_pinnedAt]
  omega

structure LivePage (p : PagedOrders) (offset : Nat) : Prop where
  room : 0 < p.capacity offset
  rest : p.pinnedAt offset = p.pinned.drop offset
  exhausted : hasMorePinnedWindow p.listing p.query offset = false
  next : p.start (offset + p.query.limit) = p.start offset + p.capacity offset

theorem livePage_of_lt (last : p.pinned.length < offset + p.query.limit) : p.LivePage offset := by
  have positive := p.query.positive
  refine ⟨?_, ?_, decide_eq_false ?_, ?_⟩
  · rw [capacity_eq]
    omega
  · refine List.take_of_length_le ?_
    change (p.pinned.drop offset).length ≤ _
    rw [List.length_drop]
    omega
  · change ¬offset + (p.pinnedAt offset).length < p.pinned.length
    rw [length_pinnedAt]
    omega
  · rw [start_eq, start_eq, capacity_eq]
    omega

theorem page_zero_le : p.page 0 ≤ p.pinned.length := Nat.div_mul_le_self _ _

theorem start_zero : p.start (p.page 0) = 0 := Nat.sub_eq_zero_of_le page_zero_le

theorem page_succ (j : Nat) : p.page (j + 1) = p.page j + p.query.limit := by
  rw [page, ← Nat.add_assoc, Nat.succ_mul]
  rfl

theorem lt_page_succ (j : Nat) : p.pinned.length < p.page j + p.query.limit := by
  have next := Nat.lt_div_mul_add (a := p.pinned.length) p.query.positive
  rw [page, Nat.add_mul]
  omega

theorem livePage_at (j : Nat) : p.LivePage (p.page j) := livePage_of_lt (lt_page_succ j)

theorem start_succ (j : Nat) : p.start (p.page (j + 1)) = p.start (p.page j) + p.capacity (p.page j) :=
  page_succ j ▸ (livePage_at j).next

theorem past_pinned (j : Nat) : p.pinned.length ≤ p.page (j + 1) := by
  rw [page_succ]
  exact Nat.le_of_lt (lt_page_succ j)

def keeps (p : PagedOrders) (offset : Nat) (document : LiveDocument) : Bool :=
  !carriesKeyOf (p.pinnedAt offset) document && p.matching document

theorem filteredLive_eq {sent : List LiveDocument}
    (found : ∀ document ∈ sent, p.localIn sent document = p.localIn p.documents document) :
    filteredLive p.listing p.query (p.pinnedAt offset) sent =
      (sent.filter (p.keeps offset)).map p.entry := by
  have general (l : List LiveDocument)
      (kept : ∀ document ∈ l, p.localIn sent document = p.localIn p.documents document) :
      (l.filterMap (fun item => if carriesKeyOf (p.pinnedAt offset) item then none
          else some (item, p.localIn sent item))).filter
        (fun entry => p.listing.orderMatchesListQuery p.query entry.1 entry.2) =
      (l.filter (p.keeps offset)).map p.entry := by
    induction l with
    | nil => rfl
    | cons first rest ih =>
      have later := ih (fun document member => kept document (List.mem_cons_of_mem _ member))
      have here := kept first List.mem_cons_self
      cases carries : carriesKeyOf (p.pinnedAt offset) first with
      | true => simpa [keeps, carries] using later
      | false =>
        cases passes : p.matching first with
        | _ =>
          have passes' := passes
          rw [matching] at passes'
          simpa [keeps, carries, here, passes, passes', entry] using later
  exact general sent found

theorem listClientOrders_live (page : p.LivePage offset) :
    listClientOrders { p.listing with live := .documents p.documents } p.query offset =
      mergedPage p.listing p.query p.documents offset :=
  if_neg (fun full => Nat.ne_of_gt page.room full.1)

theorem concat_live (page : p.LivePage offset) (fuel : Nat) :
    p.concat (fuel + 1) offset =
      if p.hasMore offset then
        (p.concat fuel (offset + p.query.limit)).map
          (fun rest => (mergedPage p.listing p.query p.documents offset).items ++ rest)
      else some (mergedPage p.listing p.query p.documents offset).items := by
  have room : (livePageCapacity p.listing p.query offset == 0) = false :=
    beq_false_of_ne (Nat.ne_of_gt page.room)
  have more : (mergedPage p.listing p.query p.documents offset).hasMore = p.hasMore offset := by
    simp only [mergedPage, page.exhausted, room, Bool.false_or, Bool.false_and, Bool.or_false]
    rfl
  rw [concat, concatPages]
  simp only [listClientOrders_live page, more]
  rfl

theorem mergedPage_items {shown : List LiveDocument} (page : p.LivePage offset)
    (visible : visibleLive p.listing p.query p.documents offset = shown.map p.entry) :
    (mergedPage p.listing p.query p.documents offset).items =
      (p.pinned.drop offset).map .stored ++ shown.map p.listed := by
  have rest : pinnedItems p.listing p.query offset = p.pinned.drop offset := page.rest
  simp only [mergedPage, rest, visible, List.map_map]
  rfl

theorem hasMore_nil (none_kept : p.documents = []) : p.hasMore offset = false := by
  simp [hasMore, hasMoreLive, none_kept, visibleLive, filteredLive, mappedLive, liveHasMore,
    liveTotal, liveItems]

theorem visibleLive_nil (none_kept : p.documents = []) :
    visibleLive p.listing p.query p.documents offset = [] := by
  simp [none_kept, visibleLive, filteredLive, mappedLive, liveItems]

theorem listClientOrders_full (full : offset + p.query.limit ≤ p.pinned.length) :
    let page := listClientOrders { p.listing with live := .documents p.documents } p.query offset
    page.items = (p.pinnedAt offset).map .stored ∧
      (page.hasMore = false → offset + p.query.limit = p.pinned.length ∧ p.documents = []) := by
  have capacity : livePageCapacity p.listing p.query offset = 0 := by
    change p.capacity offset = 0
    rw [capacity_eq]
    omega
  have window : hasMorePinnedWindow p.listing p.query offset =
      decide (offset + p.query.limit < p.pinned.length) := by
    change decide (offset + (p.pinnedAt offset).length < p.pinned.length) = _
    rw [length_pinnedAt, Nat.min_eq_left (by omega)]
  have unfolded : listClientOrders { p.listing with live := .documents p.documents } p.query offset =
      if livePageCapacity p.listing p.query offset = 0 ∧
          hasMorePinnedWindow p.listing p.query offset = true then
        pinnedPage p.listing p.query offset
      else mergedPage p.listing p.query p.documents offset := rfl
  dsimp only
  rw [unfolded]
  split
  · exact ⟨rfl, fun stops => by cases stops⟩
  · rename_i last
    refine ⟨?_, fun stops => ?_⟩
    · simp only [mergedPage, visibleLive, capacity, List.take_zero, ite_self, List.map_nil,
        List.append_nil]
      rfl
    · simp only [capacity, true_and, window, decide_eq_true_eq] at last
      simp only [mergedPage, Bool.or_eq_false_iff, Bool.and_eq_false_iff, capacity,
        beq_self_eq_true, Bool.true_eq_false, false_or, decide_eq_false_iff_not] at stops
      have none_kept : p.documents.length = 0 := by
        have total := stops.2
        rw [liveTotal] at total
        omega
      exact ⟨by omega, List.length_eq_zero_iff.mp none_kept⟩

theorem concat_full (full : offset + p.query.limit ≤ p.pinned.length) (fuel : Nat) :
    p.concat (fuel + 2) offset =
      (p.concat (fuel + 1) (offset + p.query.limit)).map
        (fun rest => (p.pinnedAt offset).map .stored ++ rest) := by
  obtain ⟨items, stops⟩ := listClientOrders_full full
  rw [concat, concatPages]
  split
  · rw [items]
    rfl
  · rename_i ends
    obtain ⟨last, none_kept⟩ := stops (Bool.not_eq_true _ ▸ ends)
    have page : p.LivePage (offset + p.query.limit) := by
      refine livePage_of_lt ?_
      have positive := p.query.positive
      omega
    rw [concat_live page, hasMore_nil none_kept, if_neg Bool.false_ne_true,
      @mergedPage_items _ _ [] page (visibleLive_nil none_kept), last, List.drop_length, items]
    simp

/-- From the start on the pages list the pinned orders in front of the first page with
documents, and then what the pages from there on list. -/
theorem concat_start (fuel k : Nat) (pinned : k * p.query.limit ≤ p.pinned.length) :
    p.concat (fuel + 1 + k) 0 =
      (p.concat (fuel + 1) (k * p.query.limit)).map
        (fun rest => (p.pinned.take (k * p.query.limit)).map .stored ++ rest) := by
  induction k generalizing fuel with
  | zero => simp
  | succ k ih =>
    rw [Nat.succ_mul] at pinned
    have first := ih (fuel + 1) (by omega)
    rw [concat_full pinned] at first
    rw [show fuel + 1 + (k + 1) = fuel + 1 + 1 + k by omega, first, Option.map_map, Nat.succ_mul]
    congr 1
    funext rest
    rw [Function.comp, ← List.append_assoc, ← List.map_append, pinnedAt, pinnedItems, List.take_add]
    rfl

theorem concat_all (enough : p.pinned.length + p.documents.length < fuel) :
    ∃ later, 0 < later ∧ p.pinned.length + p.documents.length < p.page 0 + later ∧
      p.concat fuel 0 = (p.concat later (p.page 0)).map
        (fun rest => (p.pinned.take (p.page 0)).map .stored ++ rest) := by
  have pages : p.pinned.length / p.query.limit ≤ p.pinned.length := Nat.div_le_self _ _
  have grown : p.pinned.length / p.query.limit ≤ p.page 0 :=
    Nat.le_mul_of_pos_right _ p.query.positive
  refine ⟨fuel - p.pinned.length / p.query.limit, by omega, by omega, ?_⟩
  have start := concat_start (fuel - p.pinned.length / p.query.limit - 1)
    (p.pinned.length / p.query.limit) (page_zero_le (p := p))
  rw [Nat.sub_add_cancel (by omega), Nat.sub_add_cancel (by omega)] at start
  exact start

/-- Whether the pages are right is a matter of what they list from the first one with documents
on. -/
theorem listedOnce_iff {Good : Prop}
    (pages : ∀ fuel, p.pinned.length + p.documents.length < p.page 0 + fuel → 0 < fuel →
      ∃ shown : List LiveDocument, p.concat fuel (p.page 0) =
          some ((p.pinned.drop (p.page 0)).map .stored ++ shown.map p.listed) ∧
        ((shown.map p.listed).Perm ((p.documents.filter p.unpinned).map p.listed) ↔ Good)) :
    p.ListedOnce ↔ Good := by
  have whole (fuel : Nat) (enough : p.pinned.length + p.documents.length < fuel) :
      ∃ orders, p.concat fuel 0 = some orders ∧ (orders.Perm p.expected ↔ Good) := by
    obtain ⟨later, some_fuel, enough, start⟩ := concat_all enough
    obtain ⟨shown, listed, good⟩ := pages later enough some_fuel
    refine ⟨_, by rw [start, listed, Option.map_some], ?_⟩
    rw [← List.append_assoc, ← List.map_append, List.take_append_drop, expected,
      List.perm_append_left_iff, good]
  constructor
  · intro once
    obtain ⟨orders, listed, same⟩ := once _ (Nat.lt_succ_self _)
    obtain ⟨orders', listed', good⟩ := whole _ (Nat.lt_succ_self _)
    rw [listed', Option.some.injEq] at listed
    exact good.mp (listed ▸ same)
  · intro good fuel enough
    obtain ⟨orders, listed, same⟩ := whole fuel enough
    exact ⟨orders, listed, same.mpr good⟩

end Pages

theorem ListedOnce.length {p : PagedOrders} (once : p.ListedOnce) (fuel : Nat)
    (enough : p.pinned.length + p.documents.length < fuel) :
    (p.concat fuel 0).map List.length = some p.expected.length := by
  obtain ⟨orders, listed, perm⟩ := once fuel enough
  rw [listed, Option.map_some, perm.length_eq]

section Unfiltered
variable {p : PagedOrders} {offset : Nat}

theorem sent_unfiltered (unfiltered : livePostFilterActive p.query = false)
    (page : p.LivePage offset) :
    p.sent offset = (p.documents.drop (p.start offset)).take (p.capacity offset) := by
  have room : 0 < livePageCapacity p.listing p.query offset := page.room
  simp only [sent, liveItems, liveQueryOffset, liveQueryLimit, unfiltered, Bool.false_eq_true,
    if_false, Nat.max_eq_right room]
  rfl

theorem hasMore_unfiltered (unfiltered : livePostFilterActive p.query = false)
    (page : p.LivePage offset) :
    p.hasMore offset = decide (p.start offset + p.capacity offset < p.documents.length) := by
  have room := page.room
  have items : liveItems p.listing p.query p.documents offset = _ := sent_unfiltered unfiltered page
  simp only [hasMore, hasMoreLive, unfiltered, Bool.false_eq_true, if_false, liveHasMore, liveTotal,
    items, liveQueryOffset, List.length_take, List.length_drop, ← start.eq_1]
  rw [decide_eq_decide]
  omega

theorem visibleLive_unfiltered (unfiltered : livePostFilterActive p.query = false)
    (page : p.LivePage offset) (found : ∀ document ∈ p.sent offset,
      p.localIn (p.sent offset) document = p.localIn p.documents document) :
    visibleLive p.listing p.query p.documents offset =
      (((p.documents.drop (p.start offset)).take (p.capacity offset)).filter
        (p.keeps offset)).map p.entry := by
  have kept := @filteredLive_eq p offset _ found
  rw [sent_unfiltered unfiltered page] at kept
  have items : liveItems p.listing p.query p.documents offset = _ := sent_unfiltered unfiltered page
  simp only [visibleLive, unfiltered, Bool.false_eq_true, if_false, items]
  refine (congrArg _ kept).trans (List.take_of_length_le ?_)
  rw [List.length_map]
  exact Nat.le_trans (List.length_filter_le _ _) (List.length_take_le _ _)

theorem keeps_past (past : p.pinned.length ≤ offset) : p.keeps offset = p.matching := by
  have none_pinned : p.pinnedAt offset = [] := by
    change (p.pinned.drop offset).take _ = []
    rw [List.drop_eq_nil_of_le past, List.take_nil]
  funext document
  simp [keeps, none_pinned, carriesKeyOf]

theorem keeps_later (j : Nat) : p.keeps (p.page (j + 1)) = p.matching := keeps_past (past_pinned j)

/-- The pages list what the first of them keeps, and then the matching documents in their order. -/
theorem concat_unfiltered (unfiltered : livePostFilterActive p.query = false)
    (found : p.LocalsFound) (fuel j : Nat)
    (enough : p.pinned.length + p.documents.length < p.page j + fuel) (some_fuel : 0 < fuel) :
    p.concat fuel (p.page j) = some ((p.pinned.drop (p.page j)).map .stored ++
      (((p.documents.drop (p.start (p.page j))).take (p.capacity (p.page j))).filter
          (p.keeps (p.page j)) ++
        (p.documents.drop (p.start (p.page j) + p.capacity (p.page j))).filter
          p.matching).map p.listed) := by
  induction fuel generalizing j with
  | zero => exact absurd some_fuel (Nat.lt_irrefl 0)
  | succ fuel ih =>
    have page : p.LivePage (p.page j) := livePage_at j
    rw [concat_live page, hasMore_unfiltered unfiltered page,
      mergedPage_items page (visibleLive_unfiltered unfiltered page (found j)), ← page_succ]
    by_cases more : p.start (p.page j) + p.capacity (p.page j) < p.documents.length
    · have ahead := @start_eq p (p.page j)
      have before : p.page 0 ≤ p.pinned.length := page_zero_le
      have positive := p.query.positive
      have room := page.room
      rw [if_pos (decide_eq_true more), ih (j + 1) (by rw [page_succ]; omega) (by omega),
        keeps_later, ← List.filter_append, ← List.drop_drop, List.take_append_drop,
        start_succ, List.drop_eq_nil_of_le (past_pinned j)]
      simp
    · rw [if_neg (by rw [decide_eq_false more]; exact Bool.false_ne_true),
        List.drop_eq_nil_of_le (Nat.le_of_not_lt more), List.filter_nil, List.append_nil]

end Unfiltered

theorem length_filter_eq_iff {α : Type} {p q : α → Bool} {l : List α}
    (weaker : ∀ x ∈ l, p x = true → q x = true) :
    (l.filter p).length = (l.filter q).length ↔ ∀ x ∈ l, q x = true → p x = true := by
  have inner : l.filter p = (l.filter q).filter p := by
    rw [List.filter_filter]
    refine List.filter_congr (fun x member => ?_)
    cases passes : p x with
    | false => rfl
    | true => simp [weaker x member passes]
  rw [inner, List.length_filter_eq_length_iff]
  simp only [List.mem_filter, and_imp]

section Twins
variable {p : PagedOrders} {offset cut : Nat} {document : LiveDocument}

theorem unpinned_iff :
    p.unpinned document = true ↔ p.matching document = true ∧ p.twin document = false := by
  rw [unpinned, Bool.and_eq_true, Bool.not_eq_true']

theorem keeps_of_unpinned (unpinned : p.unpinned document = true) :
    p.keeps offset document = true := by
  obtain ⟨passes, alone⟩ := unpinned_iff.mp unpinned
  rw [keeps, passes, Bool.and_true, Bool.not_eq_true']
  refine Bool.eq_false_iff.mpr (fun carries => ?_)
  rw [twin_of_page carries] at alone
  cases alone

theorem unpinned_of_matching_iff {l : List LiveDocument} :
    (∀ document ∈ l, p.matching document = true → p.unpinned document = true) ↔
      ∀ document ∈ l, p.matching document = true → p.twin document = false := by
  refine forall_congr' fun document => forall_congr' fun _ => forall_congr' fun passes => ?_
  rw [unpinned_iff, passes, eq_self, true_and]

/-- The documents in front of a cut and behind it: what there is to list, and what the pages
keep. -/
structure Cut (p : PagedOrders) (cut : Nat) : Prop where
  matching : p.allMatching =
    (p.documents.take cut).filter p.matching ++ (p.documents.drop cut).filter p.matching
  expected : p.documents.filter p.unpinned =
    (p.documents.take cut).filter p.unpinned ++ (p.documents.drop cut).filter p.unpinned
  unpinned_le : ((p.documents.take cut).filter p.unpinned).length ≤
    ((p.documents.take cut).filter (p.keeps (p.page 0))).length
  kept_le : ((p.documents.take cut).filter (p.keeps (p.page 0))).length ≤
    ((p.documents.take cut).filter p.matching).length
  behind_le : ((p.documents.drop cut).filter p.unpinned).length ≤
    ((p.documents.drop cut).filter p.matching).length
  own_iff : p.TwinsOnOwnPage cut ↔
    ((p.documents.take cut).filter p.unpinned).length =
        ((p.documents.take cut).filter (p.keeps (p.page 0))).length ∧
      ((p.documents.drop cut).filter p.unpinned).length =
        ((p.documents.drop cut).filter p.matching).length

theorem matching_of_unpinned (unpinned : p.unpinned document = true) :
    p.matching document = true :=
  (unpinned_iff.mp unpinned).1

theorem cut_of (p : PagedOrders) (cut : Nat) : p.Cut cut where
  matching := by rw [allMatching, ← List.filter_append, List.take_append_drop]
  expected := by rw [← List.filter_append, List.take_append_drop]
  unpinned_le := by
    rw [← List.countP_eq_length_filter, ← List.countP_eq_length_filter]
    exact List.countP_mono_left fun _ _ => keeps_of_unpinned
  kept_le := by
    rw [← List.countP_eq_length_filter, ← List.countP_eq_length_filter]
    exact List.countP_mono_left fun _ _ kept => (Bool.and_eq_true _ _ ▸ kept).2
  behind_le := by
    rw [← List.countP_eq_length_filter, ← List.countP_eq_length_filter]
    exact List.countP_mono_left fun _ _ => matching_of_unpinned
  own_iff := by
    rw [length_filter_eq_iff fun _ _ => keeps_of_unpinned,
      length_filter_eq_iff fun _ _ => matching_of_unpinned, unpinned_of_matching_iff]
    refine and_congr_left fun _ => forall_congr' fun document => forall_congr' fun _ => ?_
    rw [unpinned_iff, keeps, Bool.and_eq_true, Bool.not_eq_true']
    cases p.twin document <;> cases carriesKeyOf (p.pinnedAt (p.page 0)) document <;> simp

theorem noTwins_iff :
    p.NoTwins ↔ (p.documents.filter p.unpinned).length = p.allMatching.length := by
  rw [allMatching, length_filter_eq_iff fun _ _ => matching_of_unpinned, unpinned_of_matching_iff]
  rfl

theorem eq_unpinned_of_length {l : List LiveDocument} {q : LiveDocument → Bool}
    (weaker : ∀ document ∈ l, p.unpinned document = true → q document = true)
    (same : (l.filter p.unpinned).length = (l.filter q).length) :
    l.filter q = l.filter p.unpinned := by
  have only := (length_filter_eq_iff weaker).mp same
  exact List.filter_congr fun document member =>
    Bool.eq_iff_iff.mpr ⟨only document member, weaker document member⟩

theorem TwinsOnOwnPage.expected (own : p.TwinsOnOwnPage cut) :
    (p.documents.take cut).filter (p.keeps (p.page 0)) ++
      (p.documents.drop cut).filter p.matching = p.documents.filter p.unpinned := by
  obtain ⟨front, behind⟩ := (cut_of p cut).own_iff.mp own
  rw [(cut_of p cut).expected, eq_unpinned_of_length (fun _ _ => keeps_of_unpinned) front,
    eq_unpinned_of_length (fun _ _ => matching_of_unpinned) behind]

theorem listedOnce_unfiltered_iff (unfiltered : livePostFilterActive p.query = false)
    (found : p.LocalsFound) : p.ListedOnce ↔ p.TwinsOnOwnPage (p.capacity (p.page 0)) := by
  refine listedOnce_iff fun fuel enough some_fuel =>
    ⟨_, concat_unfiltered unfiltered found fuel 0 enough some_fuel, ?_⟩
  rw [start_zero, List.drop_zero, Nat.zero_add]
  constructor
  · intro perm
    have scan := cut_of p (p.capacity (p.page 0))
    obtain ⟨unpinned_le, behind_le⟩ := And.intro scan.unpinned_le scan.behind_le
    have lengths := perm.length_eq
    rw [scan.expected, List.length_map, List.length_map, List.length_append,
      List.length_append] at lengths
    exact scan.own_iff.mpr ⟨by omega, by omega⟩
  · intro own
    rw [own.expected]

end Twins

section Filtered
variable {p : PagedOrders} {offset : Nat}

def keptScan (p : PagedOrders) (offset : Nat) : List LiveDocument :=
  (p.documents.take (p.scanLimit offset)).filter (p.keeps offset)

def share (p : PagedOrders) (offset : Nat) : List LiveDocument :=
  ((p.keptScan offset).drop (p.start offset)).take (p.capacity offset)

theorem length_share :
    (p.share offset).length =
      min (p.capacity offset) ((p.keptScan offset).length - p.start offset) := by
  rw [share, List.length_take, List.length_drop]

theorem share_first : p.share (p.page 0) = (p.keptScan (p.page 0)).take (p.capacity (p.page 0)) := by
  rw [share, start_zero, List.drop_zero]

theorem filteredLive_filtered (filtered : livePostFilterActive p.query = true)
    (found : ∀ document ∈ p.sent offset,
      p.localIn (p.sent offset) document = p.localIn p.documents document) :
    filteredLive p.listing p.query (p.pinnedAt offset) (p.sent offset) =
      (p.keptScan offset).map p.entry := by
  have items : p.sent offset = p.documents.take (p.scanLimit offset) := by
    rw [sent, liveItems, liveQueryOffset, if_pos filtered, List.drop_zero]
    rfl
  rw [filteredLive_eq found, items, keptScan]

theorem visibleLive_filtered (filtered : livePostFilterActive p.query = true)
    (found : ∀ document ∈ p.sent offset,
      p.localIn (p.sent offset) document = p.localIn p.documents document) :
    visibleLive p.listing p.query p.documents offset = (p.share offset).map p.entry := by
  have kept := filteredLive_filtered filtered found
  simp only [visibleLive, if_pos filtered, share, List.map_take, List.map_drop, ← kept]
  rfl

theorem hasMore_filtered (filtered : livePostFilterActive p.query = true)
    (found : ∀ document ∈ p.sent offset,
      p.localIn (p.sent offset) document = p.localIn p.documents document) :
    p.hasMore offset = true ↔
      0 < (p.share offset).length ∧
        (p.start offset + (p.share offset).length < (p.keptScan offset).length ∨
          p.scanLimit offset ≤ p.documents.length) := by
  have kept : filteredLive p.listing p.query (pinnedItems p.listing p.query offset)
      (liveItems p.listing p.query p.documents offset) = _ := filteredLive_filtered filtered found
  have items : (liveItems p.listing p.query p.documents offset).length =
      min (p.scanLimit offset) p.documents.length := by
    rw [liveItems, liveQueryOffset, if_pos filtered, List.drop_zero, List.length_take]
    rfl
  simp only [hasMore, hasMoreLive, if_pos filtered, visibleLive_filtered filtered found, kept,
    liveHasMore, liveTotal, liveQueryOffset, items, List.length_map, List.isEmpty_map,
    Bool.and_eq_true, Bool.or_eq_true, decide_eq_true_eq, Bool.not_eq_true',
    List.isEmpty_eq_false_iff, List.length_pos_iff, ne_eq, ← start.eq_1, ← scanLimit.eq_1]
  refine and_congr_right (fun _ => or_congr_right ?_)
  omega

def KeepsAll (p : PagedOrders) (offset : Nat) : Prop := p.keptScan offset = p.scanned offset

theorem keepsAll_of_noTwins (noTwins : p.NoTwins) (offset : Nat) : p.KeepsAll offset := by
  refine List.filter_congr fun document member => Bool.eq_iff_iff.mpr
    ⟨fun kept => (Bool.and_eq_true _ _ ▸ kept).2, fun passes => keeps_of_unpinned ?_⟩
  exact unpinned_iff.mpr ⟨passes, noTwins document (List.mem_of_mem_take member) passes⟩

theorem keepsAll_later (j : Nat) : p.KeepsAll (p.page (j + 1)) := by
  rw [KeepsAll, keptScan, keeps_later, scanned]

theorem scanned_initial : p.scanned offset <+: p.allMatching := (List.take_prefix _ _).filter _

theorem share_initial (keeps : p.KeepsAll offset) :
    p.share offset <+: (p.allMatching.drop (p.start offset)).take (p.capacity offset) := by
  rw [share, keeps]
  exact (scanned_initial.drop _).take _

/-- A page and the ones after it list all that is left exactly when they do and the scan of the page
reaches its end. -/
theorem share_complete_iff {capacity offset scan whole rest : Nat} (fewer : scan ≤ whole)
    (shows : 0 < min capacity (scan - offset)) (bound : rest ≤ whole - (offset + capacity)) :
    min capacity (scan - offset) + rest = whole - offset ↔
      (offset < whole → min (offset + capacity) whole ≤ scan) ∧
        rest = whole - (offset + capacity) := by
  omega

theorem scanReaches_from (j : Nat) :
    (∀ i, p.ScanReaches (p.page (j + i))) ↔
      p.ScanReaches (p.page j) ∧ ∀ i, p.ScanReaches (p.page (j + 1 + i)) := by
  constructor
  · intro all
    exact ⟨all 0, fun i => by rw [Nat.add_assoc, Nat.add_comm 1]; exact all (i + 1)⟩
  · rintro ⟨here, later⟩ (_ | i)
    · exact here
    · rw [← Nat.add_assoc, Nat.add_right_comm]
      exact later i

theorem start_mono {i j : Nat} (le : i ≤ j) : p.start (p.page i) ≤ p.start (p.page j) :=
  Nat.sub_le_sub_right (Nat.mul_le_mul_right _ (Nat.add_le_add_left le _)) _

/-- From a page on, where the pages drop none that they scan, they list matching documents from its
offset on in their order, and all of them exactly when the scan of every page reaches its end. -/
theorem concat_filtered (filtered : livePostFilterActive p.query = true) (found : p.LocalsFound)
    (fuel j : Nat) (keeps : ∀ i, p.KeepsAll (p.page (j + i)))
    (enough : p.pinned.length + p.documents.length < p.page j + fuel) (some_fuel : 0 < fuel) :
    ∃ shown : List LiveDocument,
      p.concat fuel (p.page j) =
        some ((p.pinned.drop (p.page j)).map .stored ++ shown.map p.listed) ∧
      shown.Sublist (p.allMatching.drop (p.start (p.page j))) ∧
      (shown.length = p.allMatching.length - p.start (p.page j) ↔
        ∀ i, p.ScanReaches (p.page (j + i))) := by
  induction fuel generalizing j with
  | zero => exact absurd some_fuel (Nat.lt_irrefl 0)
  | succ fuel ih =>
    have page : p.LivePage (p.page j) := livePage_at j
    have room := page.room
    have here : p.KeepsAll (p.page j) := keeps 0
    have share := @length_share p (p.page j)
    have more := hasMore_filtered filtered (found j)
    rw [here] at share more
    have fewer : (p.scanned (p.page j)).length ≤ p.allMatching.length := scanned_initial.length_le
    have matching_le : p.allMatching.length ≤ p.documents.length := List.length_filter_le _ _
    rw [concat_live page, mergedPage_items page (visibleLive_filtered filtered (found j)),
      ← page_succ, scanReaches_from]
    split
    · rename_i goes
      obtain ⟨shows, _⟩ := more.mp goes
      have ahead := @start_eq p (p.page j)
      have positive := p.query.positive
      obtain ⟨shown, listed, sub, complete⟩ := ih (j + 1)
        (fun i => by rw [Nat.add_assoc, Nat.add_comm 1]; exact keeps (i + 1))
        (by rw [page_succ]; omega) (by omega)
      have past := List.drop_eq_nil_of_le (past_pinned (p := p) j)
      refine ⟨p.share (p.page j) ++ shown, by simp [listed, past], ?_, ?_⟩
      · rw [← List.take_append_drop (p.capacity (p.page j)) (List.drop _ _), List.drop_drop,
          ← start_succ]
        exact (share_initial here).sublist.append sub
      · have bound := sub.length_le
        rw [List.length_drop, start_succ] at bound
        rw [share] at shows
        rw [← complete, start_succ, ScanReaches, List.length_append, share]
        exact share_complete_iff fewer shows bound
    · rename_i ends
      refine ⟨p.share (p.page j), rfl,
        (share_initial here).sublist.trans (List.take_sublist _ _), ?_⟩
      rw [more] at ends
      have whole (wide : p.documents.length < p.scanLimit (p.page j)) :
          (p.scanned (p.page j)).length = p.allMatching.length := by
        rw [scanned, List.take_of_length_le (Nat.le_of_lt wide), allMatching]
      rw [ScanReaches]
      constructor
      · intro complete
        refine ⟨by omega, fun i ahead => ?_⟩
        have beyond := start_mono (p := p) (Nat.le_add_right (j + 1) i)
        rw [start_succ] at beyond
        omega
      · rintro ⟨reaches, _⟩
        omega

theorem listedOnce_filtered_iff (filtered : livePostFilterActive p.query = true)
    (noTwins : p.NoTwins) (found : p.LocalsFound) : p.ListedOnce ↔ p.ScansReach := by
  have expected : p.documents.filter p.unpinned = p.allMatching :=
    (eq_unpinned_of_length (fun _ _ => matching_of_unpinned) (noTwins_iff.mp noTwins)).symm
  refine listedOnce_iff fun fuel enough some_fuel => ?_
  obtain ⟨shown, pages, sub, complete⟩ := concat_filtered filtered found fuel 0
    (fun i => keepsAll_of_noTwins noTwins _) enough some_fuel
  rw [start_zero] at sub complete
  simp only [Nat.zero_add] at complete
  refine ⟨shown, pages, Iff.trans ?_ complete⟩
  rw [expected, Nat.sub_zero]
  refine ⟨fun perm => ?_, fun lengths => sub.eq_of_length lengths ▸ .refl _⟩
  have lengths := perm.length_eq
  rwa [List.length_map, List.length_map] at lengths

/-- The pages from the first one with documents on, for a listing with a post-filter: what the first
one keeps, up to its room, and then what the later ones list. -/
structure FirstShare (p : PagedOrders) (later : List LiveDocument) : Prop where
  stops : p.hasMore (p.page 0) = false → later = []
  goes_on : p.hasMore (p.page 0) = true →
    later.Sublist (p.allMatching.drop (p.capacity (p.page 0))) ∧
      (p.ScansReach → later.length = p.allMatching.length - p.capacity (p.page 0))
  more : p.hasMore (p.page 0) = true ↔
    0 < (p.share (p.page 0)).length ∧
      ((p.share (p.page 0)).length < (p.keptScan (p.page 0)).length ∨
        p.scanLimit (p.page 0) ≤ p.documents.length)

theorem concat_first (filtered : livePostFilterActive p.query = true) (found : p.LocalsFound)
    {fuel : Nat} (enough : p.pinned.length + p.documents.length < p.page 0 + fuel)
    (some_fuel : 0 < fuel) :
    ∃ later, p.FirstShare later ∧ p.concat fuel (p.page 0) =
      some ((p.pinned.drop (p.page 0)).map .stored ++
        (p.share (p.page 0) ++ later).map p.listed) := by
  obtain ⟨fuel, rfl⟩ := Nat.exists_eq_succ_of_ne_zero (Nat.ne_of_gt some_fuel)
  have page : p.LivePage (p.page 0) := livePage_at 0
  have more := hasMore_filtered filtered (found 0)
  rw [start_zero, Nat.zero_add] at more
  rw [Nat.succ_eq_add_one, concat_live page,
    mergedPage_items page (visibleLive_filtered filtered (found 0)), ← page_succ, Nat.zero_add]
  cases goes : p.hasMore (p.page 0) with
  | false =>
    refine ⟨[], ⟨fun _ => rfl, fun more => absurd (goes.symm.trans more) Bool.false_ne_true, more⟩, ?_⟩
    rw [if_neg Bool.false_ne_true, List.append_nil]
  | true =>
    obtain ⟨shows, _⟩ := more.mp goes
    have before : p.page 0 ≤ p.pinned.length := page_zero_le
    have positive := p.query.positive
    have held : 0 < p.documents.length := by
      have kept : (p.keptScan (p.page 0)).length ≤ p.documents.length :=
        Nat.le_trans (List.length_filter_le _ _) (List.length_take_le' _ _)
      rw [length_share, start_zero] at shows
      omega
    obtain ⟨later, listed, sub, complete⟩ := concat_filtered filtered found fuel 1
      (fun i => Nat.add_comm i 1 ▸ keepsAll_later i) (by rw [page_succ]; omega) (by omega)
    rw [start_succ, start_zero, Nat.zero_add] at sub complete
    have past := List.drop_eq_nil_of_le (past_pinned (p := p) 0)
    refine ⟨later, ⟨fun ends => absurd (ends.symm.trans goes) Bool.false_ne_true,
      fun _ => ⟨sub, fun reaches => complete.mpr fun i => reaches (1 + i)⟩, more⟩, ?_⟩
    simp [listed, past]

theorem scanReaches_first (reaches : p.ScansReach) (matches_some : 0 < p.allMatching.length) :
    min (p.capacity (p.page 0)) p.allMatching.length ≤ (p.scanned (p.page 0)).length := by
  have first := reaches 0
  rw [ScanReaches, start_zero, Nat.zero_add] at first
  exact first matches_some

theorem nothing_behind {cut : Nat} (whole : p.documents.length ≤ cut) :
    (p.documents.drop cut).filter p.matching = [] := by
  rw [List.drop_eq_nil_of_le whole]
  rfl

theorem FirstShare.onFirstPage {later : List LiveDocument} (share : p.FirstShare later)
    (first : p.OnFirstPage) : p.share (p.page 0) ++ later = p.documents.filter p.unpinned := by
  suffices alone : p.share (p.page 0) = p.documents.filter p.unpinned ∧
      p.hasMore (p.page 0) = false by
    rw [share.stops alone.2, List.append_nil, alone.1]
  rw [← Bool.not_eq_true, share.more, share_first]
  rcases first with ⟨nothing, own⟩ | ⟨whole, fits, own⟩
  · have empty : p.keptScan (p.page 0) = [] := by
      refine List.filter_eq_nil_iff.mpr fun document member kept => ?_
      rw [keeps, Bool.and_eq_true, Bool.not_eq_true'] at kept
      rw [own document (List.mem_filter.mpr ⟨member, kept.2⟩)] at kept
      cases kept.1
    rw [empty, nothing]
    simp
  · have same : p.keptScan (p.page 0) = p.documents.filter p.unpinned := by
      rw [← own.expected, nothing_behind (Nat.le_of_lt whole), List.append_nil, keptScan]
    rw [same, List.take_of_length_le fits]
    refine ⟨rfl, ?_⟩
    omega

theorem FirstShare.fits {later : List LiveDocument} (share : p.FirstShare later)
    (reaches : p.ScansReach) (own : p.TwinsOnOwnPage (p.scanLimit (p.page 0)))
    (fits : p.FirstScanFits) : p.share (p.page 0) ++ later = p.documents.filter p.unpinned := by
  have more := share.more
  have reach := scanReaches_first reaches
  obtain ⟨room, one⟩ := fits
  have scan := cut_of p (p.scanLimit (p.page 0))
  have total := congrArg List.length scan.matching
  rw [List.length_append] at total
  have all_kept : (p.keptScan (p.page 0)).length ≤ p.capacity (p.page 0) :=
    Nat.le_trans scan.kept_le room
  rw [share_first, List.take_of_length_le all_kept] at more ⊢
  suffices rest : later = (p.documents.drop (p.scanLimit (p.page 0))).filter p.matching by
    rw [rest, ← own.expected, keptScan]
  rw [scanned] at room reach
  by_cases wide : p.capacity (p.page 0) < p.allMatching.length
  · -- The first scan ends where the next page begins.
    have exactly : ((p.documents.take (p.scanLimit (p.page 0))).filter p.matching).length =
        p.capacity (p.page 0) := by omega
    obtain ⟨document, member, unpinned⟩ := one wide
    have shows : 0 < (p.keptScan (p.page 0)).length :=
      List.length_pos_of_mem (List.mem_filter.mpr ⟨member, keeps_of_unpinned unpinned⟩)
    have further : p.scanLimit (p.page 0) ≤ p.documents.length := by
      by_contra whole
      rw [nothing_behind (Nat.le_of_not_le whole), List.length_nil] at total
      omega
    obtain ⟨sub, complete⟩ := share.goes_on (more.mpr ⟨shows, .inr further⟩)
    rw [scan.matching, ← exactly, List.drop_left] at sub
    refine sub.eq_of_length ?_
    rw [complete reaches]
    omega
  · have none_behind : (p.documents.drop (p.scanLimit (p.page 0))).filter p.matching = [] := by
      rw [← List.length_eq_zero_iff]
      omega
    rw [none_behind]
    cases goes : p.hasMore (p.page 0) with
    | false => exact share.stops goes
    | true =>
      have sub := (share.goes_on goes).1
      rwa [List.drop_eq_nil_of_le (Nat.le_of_not_lt wide), List.sublist_nil] at sub

/-- With a document of a pinned order, and scans that reach, there is no other way to list all
once. -/
theorem FirstShare.cases {later : List LiveDocument} (share : p.FirstShare later)
    (reaches : p.ScansReach) (twins : ¬p.NoTwins)
    (lengths : (p.share (p.page 0) ++ later).length = (p.documents.filter p.unpinned).length) :
    p.TwinsOnOwnPage (p.scanLimit (p.page 0)) ∧ p.FirstScanFits ∨ p.OnFirstPage := by
  have more := share.more
  have reach := scanReaches_first reaches
  have scan := cut_of p (p.scanLimit (p.page 0))
  have matching := congrArg List.length scan.matching
  have expected := congrArg List.length scan.expected
  rw [List.length_append] at matching expected lengths
  rw [noTwins_iff] at twins
  have room := (livePage_at 0 : p.LivePage (p.page 0)).room
  rw [share_first, List.length_take, keptScan] at lengths more
  rw [scanned] at reach
  obtain ⟨unpinned_le, kept_le, behind_le⟩ := And.intro scan.unpinned_le
    (And.intro scan.kept_le scan.behind_le)
  cases goes : p.hasMore (p.page 0) with
  | true =>
    have behind := (share.goes_on goes).2 reaches
    rw [goes] at more
    have shows := (more.mp rfl).1
    refine .inl ⟨scan.own_iff.mpr ⟨by omega, by omega⟩, ?_, fun wide => ?_⟩
    · rw [scanned]
      omega
    · have some_listed :
          0 < ((p.documents.take (p.scanLimit (p.page 0))).filter p.unpinned).length := by omega
      obtain ⟨document, member⟩ := List.exists_mem_of_length_pos some_listed
      exact ⟨document, List.mem_filter.mp member⟩
  | false =>
    rw [share.stops goes, List.length_nil] at lengths
    rw [goes] at more
    have ends := more.not.mp Bool.false_ne_true
    refine .inr ?_
    by_cases empty : ((p.documents.take (p.scanLimit (p.page 0))).filter
        (p.keeps (p.page 0))).length = 0
    · refine .inl ⟨List.length_eq_zero_iff.mp (by omega), fun document member => ?_⟩
      obtain ⟨there, passes⟩ := List.mem_filter.mp member
      rw [List.length_eq_zero_iff, List.filter_eq_nil_iff] at empty
      have dropped := empty document there
      rwa [keeps, passes, Bool.and_true, Bool.not_eq_true', Bool.not_eq_false] at dropped
    · have whole : p.documents.length < p.scanLimit (p.page 0) := by omega
      have none_behind :
          ((p.documents.drop (p.scanLimit (p.page 0))).filter p.matching).length = 0 := by
        rw [nothing_behind (Nat.le_of_lt whole), List.length_nil]
      exact .inr ⟨whole, by omega, scan.own_iff.mpr ⟨by omega, by omega⟩⟩

theorem listedOnce_first (filtered : livePostFilterActive p.query = true) (found : p.LocalsFound)
    (Good : Prop) (good : ∀ later, p.FirstShare later →
      (((p.share (p.page 0) ++ later).map p.listed).Perm
        ((p.documents.filter p.unpinned).map p.listed) ↔ Good)) : p.ListedOnce ↔ Good :=
  listedOnce_iff fun _ enough some_fuel => by
    obtain ⟨later, share, pages⟩ := concat_first filtered found enough some_fuel
    exact ⟨_, pages, good later share⟩

theorem listedOnce_onFirstPage (filtered : livePostFilterActive p.query = true)
    (found : p.LocalsFound) (first : p.OnFirstPage) : p.ListedOnce :=
  (listedOnce_first filtered found True fun _ share =>
    iff_of_true (share.onFirstPage first ▸ .refl _) trivial).mpr trivial

theorem listedOnce_twins_iff (filtered : livePostFilterActive p.query = true)
    (found : p.LocalsFound) (reaches : p.ScansReach) (twins : ¬p.NoTwins) :
    p.ListedOnce ↔
      p.TwinsOnOwnPage (p.scanLimit (p.page 0)) ∧ p.FirstScanFits ∨ p.OnFirstPage := by
  refine listedOnce_first filtered found _ fun later share => ⟨fun perm => ?_, ?_⟩
  · have lengths := perm.length_eq
    rw [List.length_map, List.length_map] at lengths
    exact share.cases reaches twins lengths
  · rintro (⟨own, fits⟩ | first)
    · exact share.fits reaches own fits ▸ .refl _
    · exact share.onFirstPage first ▸ .refl _

end Filtered

end PagedOrders

namespace PagingSample

def byNumber (hasNumber1c : Option Bool) : ClientOrdersListQuery where
  limit := 1
  positive := Nat.one_pos
  status := none
  statuses := []
  syncState := none
  search := none
  counterpartyGuid := none
  organizationGuid := none
  warehouseGuid := none
  priceTypeGuid := none
  amountMin := none
  amountMax := none
  deliveryDateFrom := none
  deliveryDateTo := none
  updatedFrom := none
  updatedTo := none
  itemsMin := none
  itemsMax := none
  hasNumber1c := hasNumber1c
  onlyProblems := false

def passes (query : ClientOrdersListQuery) (number1c : Option String) : Bool :=
  query.hasNumber1c.all (fun wanted => number1c.isSome == wanted)

def listing (orders : List Order) : OrderListing where
  buildLocalOrdersWhere query order := passes query order.number1c
  orderMatchesListQuery query document _ := passes query document.number1c
  orders := orders
  live := .notConfigured

def document (documentGuid : String) (appGuid number1c : Option String) : LiveDocument :=
  { appGuid := appGuid, number1c := number1c, isPostedIn1c := false, documentGuid := documentGuid }

def pinnedTwins : List LiveDocument := [document "a" (some "order-guid") none]

def lateMatch : List LiveDocument :=
  ["a", "b", "c", "d", "e"].map (fun guid => document guid none none) ++
    [document "f" none (some "7")]

end PagingSample

end LeaderProduct
