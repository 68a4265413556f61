import LeaderProduct.OnecInbound

/-! The page of orders that `listClientOrders` answers with: the pinned local orders, those
without a number of 1C, and behind them the documents of 1C. The two filters of a query, the
`where` of the local rows and the check of a live document, are parameters, for the paging
sees only what passes them; so is the list of documents that 1C keeps for the query. -/
namespace LeaderProduct

def liveStatusFilterScanLimit : Nat := 300

structure ClientOrdersListQuery where
  limit : Nat
  positive : 0 < limit
  status : Option String
  statuses : List String
  syncState : Option OrderSyncState
  search : Option String
  counterpartyGuid : Option String
  organizationGuid : Option String
  warehouseGuid : Option String
  priceTypeGuid : Option String
  amountMin : Option Rat
  amountMax : Option Rat
  deliveryDateFrom : Option Instant
  deliveryDateTo : Option Instant
  updatedFrom : Option Instant
  updatedTo : Option Instant
  itemsMin : Option Int
  itemsMax : Option Int
  hasNumber1c : Option Bool
  onlyProblems : Bool

def getOrderStatusFilters (query : ClientOrdersListQuery) : List String :=
  (query.statuses ++ query.status.toList).eraseDups

/-- The filters that 1C does not apply itself are checked on the documents it has sent. -/
def livePostFilterActive (query : ClientOrdersListQuery) : Bool :=
  decide (1 < (getOrderStatusFilters query).length) || query.priceTypeGuid.isSome ||
    query.syncState.isSome || query.amountMin.isSome || query.amountMax.isSome ||
    query.deliveryDateFrom.isSome || query.deliveryDateTo.isSome || query.updatedFrom.isSome ||
    query.updatedTo.isSome || query.itemsMin.isSome || query.itemsMax.isSome ||
    query.hasNumber1c.isSome || query.onlyProblems

structure LiveDocument extends LiveClientOrder where
  documentGuid : String

inductive ListedOrder where
  | stored (order : Order)
  | live (document : LiveDocument) (matched : Option Order)

inductive LiveSource where
  | notConfigured
  | unavailable
  | documents (documents : List LiveDocument)

structure OrderListing where
  buildLocalOrdersWhere : ClientOrdersListQuery → Order → Bool
  orderMatchesListQuery : ClientOrdersListQuery → LiveDocument → Option Order → Bool
  orders : List Order
  live : LiveSource

structure OrdersPage where
  items : List ListedOrder
  total : Nat
  hasMore : Bool

section Page
variable (listing : OrderListing) (query : ClientOrdersListQuery)

def matchingOrders : List Order := listing.orders.filter (listing.buildLocalOrdersWhere query)

def pinnedOrders : List Order :=
  (matchingOrders listing query).filter (fun order => order.number1c.isNone)

def pinnedItems (offset : Nat) : List Order :=
  ((pinnedOrders listing query).drop offset).take query.limit

def liveOffset (offset : Nat) : Nat := offset - (pinnedOrders listing query).length

def livePageCapacity (offset : Nat) : Nat :=
  query.limit - (pinnedItems listing query offset).length

def hasMorePinnedWindow (offset : Nat) : Bool :=
  decide (offset + (pinnedItems listing query offset).length < (pinnedOrders listing query).length)

def liveQueryOffset (offset : Nat) : Nat :=
  if livePostFilterActive query then 0 else liveOffset listing query offset

def liveQueryLimit (offset : Nat) : Nat :=
  if livePostFilterActive query then
    min liveStatusFilterScanLimit
      (max (liveOffset listing query offset + livePageCapacity listing query offset)
        (max 1 (livePageCapacity listing query offset) * 5))
  else max 1 (livePageCapacity listing query offset)

def liveItems (documents : List LiveDocument) (offset : Nat) : List LiveDocument :=
  (documents.drop (liveQueryOffset listing query offset)).take
    (liveQueryLimit listing query offset)

def liveTotal (documents : List LiveDocument) (offset : Nat) : Nat :=
  max documents.length
    (liveQueryOffset listing query offset + (liveItems listing query documents offset).length)

def liveHasMore (documents : List LiveDocument) (offset : Nat) : Bool :=
  decide (liveQueryOffset listing query offset +
    (liveItems listing query documents offset).length < liveTotal listing query documents offset)

def matchingLocals (items : List LiveDocument) : List Order :=
  (matchingOrders listing query).filter (fun order => items.any (fun item =>
    let key := liveOrderKey item.toLiveClientOrder
    key.appGuid.isSome && order.guid == key.appGuid ||
      key.number1c.isSome && order.number1c == key.number1c))

def localOf (items : List LiveDocument) (item : LiveDocument) : Option Order :=
  matchingLocal (matchingLocals listing query items) item.toLiveClientOrder

def carriesKeyOf (orders : List Order) (item : LiveDocument) : Bool :=
  let key := liveOrderKey item.toLiveClientOrder
  orders.any (fun order =>
    key.appGuid.isSome && (localOrderKey order).appGuid == key.appGuid ||
      key.number1c.isSome && (localOrderKey order).number1c == key.number1c)

def mappedLive (pinned : List Order) (items : List LiveDocument) :
    List (LiveDocument × Option Order) :=
  items.filterMap (fun item =>
    if carriesKeyOf pinned item then none else some (item, localOf listing query items item))

def filteredLive (pinned : List Order) (items : List LiveDocument) :
    List (LiveDocument × Option Order) :=
  (mappedLive listing query pinned items).filter (fun entry =>
    listing.orderMatchesListQuery query entry.1 entry.2)

def visibleLive (documents : List LiveDocument) (offset : Nat) :
    List (LiveDocument × Option Order) :=
  let filtered := filteredLive listing query (pinnedItems listing query offset)
    (liveItems listing query documents offset)
  if livePostFilterActive query then
    (filtered.drop (liveOffset listing query offset)).take (livePageCapacity listing query offset)
  else filtered.take (livePageCapacity listing query offset)

def hasMoreLive (documents : List LiveDocument) (offset : Nat) : Bool :=
  if livePostFilterActive query then
    let visible := visibleLive listing query documents offset
    let filtered := filteredLive listing query (pinnedItems listing query offset)
      (liveItems listing query documents offset)
    !visible.isEmpty &&
      (decide (liveOffset listing query offset + visible.length < filtered.length) ||
        (liveHasMore listing query documents offset ||
          decide (liveQueryLimit listing query offset ≤
            (liveItems listing query documents offset).length)))
  else liveHasMore listing query documents offset

def fallbackPage (offset : Nat) : OrdersPage :=
  let items := ((matchingOrders listing query).drop offset).take query.limit
  { items := items.map .stored
    total := (matchingOrders listing query).length
    hasMore := decide (offset + items.length < (matchingOrders listing query).length) }

def pinnedPage (offset : Nat) : OrdersPage where
  items := (pinnedItems listing query offset).map .stored
  total := (pinnedOrders listing query).length +
    if livePostFilterActive query then liveOffset listing query offset + 1 else 0
  hasMore := true

def mergedPage (documents : List LiveDocument) (offset : Nat) : OrdersPage :=
  let visible := visibleLive listing query documents offset
  let hasMore := hasMorePinnedWindow listing query offset ||
    hasMoreLive listing query documents offset ||
    (livePageCapacity listing query offset == 0 &&
      decide (0 < liveTotal listing query documents offset))
  { items := (pinnedItems listing query offset).map .stored ++
      visible.map (fun entry => .live entry.1 entry.2)
    total := (pinnedOrders listing query).length +
      if livePostFilterActive query then
        liveOffset listing query offset + visible.length + (if hasMore then 1 else 0)
      else liveTotal listing query documents offset
    hasMore := hasMore }

def listClientOrders (offset : Nat) : OrdersPage :=
  match listing.live with
  | .notConfigured => fallbackPage listing query offset
  | .unavailable =>
    if livePageCapacity listing query offset = 0 ∧ hasMorePinnedWindow listing query offset then
      pinnedPage listing query offset
    else fallbackPage listing query offset
  | .documents documents =>
    if livePageCapacity listing query offset = 0 ∧ hasMorePinnedWindow listing query offset then
      pinnedPage listing query offset
    else mergedPage listing query documents offset

/-- The pages from an offset on, until one says that there are no more: `none` when the
fuel ends first. -/
def concatPages : Nat → Nat → Option (List ListedOrder)
  | 0, _ => none
  | fuel + 1, offset =>
    let page := listClientOrders listing query offset
    if page.hasMore then
      (concatPages fuel (offset + query.limit)).map (fun rest => page.items ++ rest)
    else some page.items

end Page

end LeaderProduct
