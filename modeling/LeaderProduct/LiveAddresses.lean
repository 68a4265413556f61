import LeaderProduct.LivePaging

/-! The delivery addresses of a counterparty, looked up by guid and read page by page. -/
namespace LeaderProduct
namespace OnecLive
open PagedScan

structure LiveDeliveryAddress where
  guid : Option String
  name : Option String
  fullAddress : String
  deliveryNumber : Option String
  number : Option String
  comment : Option String
  deliveryComment : Option String
  kindName : Option String
  contactInfoKind : Option String
  counterpartyGuid : Option String
  isDefault : Bool
  isActive : Bool

section Lookup
variable (js : JsConversions)

def mapDeliveryAddress (record : RecordValue) : Option LiveDeliveryAddress :=
  let guid := entityGuid js record ["guid", "id"]
  let fullAddress := text js record ["fullAddress", "address", "Адрес"] none
  let name := text js record ["name", "Наименование"] none
  let comment := text js record
    ["deliveryComment", "comment", "Комментарий", "ДополнительнаяИнформацияПоДоставке"] none
  let kindName := text js record ["kindName", "contactInfoKind", "ВидАдреса", "Вид"] none
  let deliveryNumber := (text js record ["deliveryNumber", "number", "НомерАдресаДоставки"] none).or
    (extractDeliveryAddressNumber kindName)
  if guid = none ∧ fullAddress = none then none
  else some
    { guid
      name
      fullAddress := ((fullAddress.or name).or guid).getD ""
      deliveryNumber
      number := deliveryNumber
      comment
      deliveryComment := comment
      kindName
      contactInfoKind := kindName
      counterpartyGuid := text js record ["counterpartyGuid"] none
      isDefault := bool (some record) ["isDefault", "default"] false
      isActive := isEntityActive (some record) }

theorem mapDeliveryAddress_some {record : RecordValue} {address : LiveDeliveryAddress}
    (mapped : mapDeliveryAddress js record = some address) :
    address.guid = entityGuid js record ["guid", "id"] ∧
      address.isActive = isEntityActive (some record) := by
  unfold mapDeliveryAddress at mapped
  dsimp only at mapped
  split at mapped
  · cases mapped
  · cases mapped
    exact ⟨rfl, rfl⟩

def flattenSearchText (address : LiveDeliveryAddress) : String :=
  " ".intercalate [address.guid.getD "", address.name.getD "", address.fullAddress,
    address.deliveryNumber.getD "", address.number.getD "", address.comment.getD "",
    address.deliveryComment.getD "", address.kindName.getD "", address.contactInfoKind.getD "",
    address.counterpartyGuid.getD "", toString address.isDefault, toString address.isActive]

def addressReader : ItemReader LiveDeliveryAddress where
  isActive address := address.isActive
  key address := address.guid
  searchText := flattenSearchText

def sameGuid (guid : String) (address : LiveDeliveryAddress) : Bool :=
  address.guid.map JsString.toLowerCase == some (JsString.toLowerCase guid)

def findItemByGuid (items : List LiveDeliveryAddress) (guid : String) : Option LiveDeliveryAddress :=
  items.find? (sameGuid guid)

def addressKeys : List String := ["deliveryAddresses", "delivery-addresses"]

variable (loader : OnecLpAppQuery → Option Json)

def findOneFromList (guid : String) (query : OnecFilter) : Option (Option LiveDeliveryAddress) := do
  let visible (payload : Json) := visiblePage (·.isActive)
    (paged js payload addressKeys (mapDeliveryAddress js) 20 0)
    (some (query.includeInactive.getD false))
  let request : OnecLpAppQuery := { query with guid := some guid, limit := 20, offset := 0 }
  match findItemByGuid (visible (← loader request)).items guid with
  | some item => return some item
  | none => return findItemByGuid (visible (← loader { request with search := some guid })).items guid

def getLiveDeliveryAddresses (query : LiveListQuery) : Option (LivePagedResult LiveDeliveryAddress) :=
  if isSet query.counterpartyGuid then
    liveSmartPaged js addressReader
      { query with
        deliveryAddressNumber :=
          query.deliveryAddressNumber.or (extractDeliveryAddressNumber query.search) }
      loader addressKeys (mapDeliveryAddress js)
  else some ⟨[], 0, (query.limit.getD DEFAULT_LIMIT : Nat), (query.offset.getD 0 : Nat)⟩

def addressQuery (counterpartyGuid : Option String) (limit offset : Nat) : LiveListQuery where
  search := none
  includeInactive := some false
  guid := none
  counterpartyGuid
  deliveryAddressNumber := none
  debtStatus := none
  limit := some limit
  offset := some offset

def findOnPages (guid : String) (counterpartyGuid : Option String) (limit : Nat) :
    Nat → Nat → Option (Option LiveDeliveryAddress)
  | 0, _ => some none
  | pages + 1, offset => do
    let page ← getLiveDeliveryAddresses js loader (addressQuery counterpartyGuid limit offset)
    match findItemByGuid page.items guid with
    | some found => return some found
    | none =>
      if page.items.length < limit ∨ page.total ≤ (offset + page.items.length : Nat) then return none
      else findOnPages guid counterpartyGuid limit pages (offset + limit)

def guidFilter (counterpartyGuid : Option String) : OnecFilter where
  search := none
  includeInactive := none
  guid := none
  counterpartyGuid
  deliveryAddressNumber := none
  debtStatus := none

def findLiveDeliveryAddress (guid : String) (counterpartyGuid : Option String) :
    Option (Option LiveDeliveryAddress) := do
  match ← findOneFromList js loader guid (guidFilter counterpartyGuid) with
  | some found => return some found
  | none =>
    if isSet counterpartyGuid then findOnPages js loader guid counterpartyGuid 100 10 0
    else return none

end Lookup

section Honoured
variable {js : JsConversions} (upstream : Upstream (mapDeliveryAddress js))
  (counterpartyGuid : Option String)

/-- What 1C lists for the pages of a counterparty. -/
def addressesOf : List LiveDeliveryAddress :=
  upstream.items (normalizeQuery (addressQuery counterpartyGuid 0 0)).toOnecFilter

variable {counterpartyGuid}

theorem no_tokens : smartSearchTokens js (some (JsString.trim "")) = [] := by
  have empty : normalizeSmartSearchText js (JsString.trim "") = "" := by
    unfold normalizeSmartSearchText
    rw [show js.toLocaleLowerCase (JsString.trim "") = "" from js.lower_empty]
    rfl
  unfold smartSearchTokens
  simp only [Option.getD_some, empty, if_true]

theorem getLiveDeliveryAddresses_eq {loader : OnecLpAppQuery → Option Json} (limit offset : Nat)
    (given : isSet counterpartyGuid = true) :
    getLiveDeliveryAddresses js loader (addressQuery counterpartyGuid limit offset) =
      (loader (normalizeQuery (addressQuery counterpartyGuid limit offset))).map fun payload =>
        visiblePage (·.isActive)
          (paged js payload addressKeys (mapDeliveryAddress js) limit offset) (some false) := by
  have unnumbered : (none : Option String).or (extractDeliveryAddressNumber none) = none := rfl
  have given' : isSet (addressQuery counterpartyGuid limit offset).counterpartyGuid = true := given
  rw [getLiveDeliveryAddresses, if_pos given', addressQuery, unnumbered]
  simp only [liveSmartPaged, normalizeQuery, Option.getD_none, no_tokens, List.length_nil,
    Nat.zero_lt_succ, if_true]
  rfl

theorem getLiveDeliveryAddresses_page (given : isSet counterpartyGuid = true) (limit k : Nat) :
    ∃ page, getLiveDeliveryAddresses js upstream.loader
        (addressQuery counterpartyGuid limit (k * limit)) = some page ∧
      page.items = PagedScan.page (·.isActive) limit (addressesOf upstream counterpartyGuid) k ∧
      page.total =
        (PagedScan.total (·.isActive) limit (addressesOf upstream counterpartyGuid) k : Nat) := by
  let query := normalizeQuery (addressQuery counterpartyGuid limit (k * limit))
  refine ⟨_, getLiveDeliveryAddresses_eq limit (k * limit) given, ?_, ?_⟩
  · exact upstream.visible_items js query addressKeys (·.isActive)
  · refine (upstream.visible_total js query addressKeys (·.isActive)).trans ?_
    simp only [PagedScan.total, PagedScan.page, window, More, Nat.add_mul, Nat.one_mul]
    rfl

theorem findOnPages_eq (given : isSet counterpartyGuid = true) (guid : String) (limit pages k : Nat) :
    findOnPages js upstream.loader guid counterpartyGuid limit pages (k * limit) =
      some (scan (·.isActive) limit (addressesOf upstream counterpartyGuid) (sameGuid guid)
        pages k) := by
  induction pages generalizing k with
  | zero => rfl
  | succ pages ih =>
    obtain ⟨page, answered, items, total⟩ := getLiveDeliveryAddresses_page upstream given limit k
    have next : k * limit + limit = (k + 1) * limit := by rw [Nat.add_mul, Nat.one_mul]
    rw [findOnPages, answered, scan, ← items]
    simp only [Option.bind_eq_bind, Option.bind_some, findItemByGuid, total, Nat.cast_le, next, ih]
    cases page.items.find? (sameGuid guid) with
    | some found => rfl
    | none =>
      dsimp only
      split <;> rfl

section Lookups
variable (counterpartyGuid) (guid : String)

def guidRequest : OnecFilter := { guidFilter counterpartyGuid with guid := some guid }

def guidSearch : OnecFilter := { guidRequest counterpartyGuid guid with search := some guid }

/-- One of the two requests by guid lists an active address of that guid among its first entries. -/
def ListedByGuid : Prop :=
  (∃ a ∈ (upstream.items (guidRequest counterpartyGuid guid)).take 20,
    a.isActive = true ∧ sameGuid guid a = true) ∨
  ∃ a ∈ (upstream.items (guidSearch counterpartyGuid guid)).take 20,
    a.isActive = true ∧ sameGuid guid a = true

/-- An active address of that guid stands on the first hundred of the list that hides an entry, or
before it. -/
def Reachable : Prop :=
  ∃ j a, (addressesOf upstream counterpartyGuid)[j]? = some a ∧ a.isActive = true ∧
    sameGuid guid a = true ∧
    ∀ i, Hidden (·.isActive) (addressesOf upstream counterpartyGuid) i → j / 100 * 100 ≤ i

def Finds : Prop :=
  ∃ found, findLiveDeliveryAddress js upstream.loader guid counterpartyGuid = some (some found) ∧
    sameGuid guid found = true

theorem find_visible (filter : OnecFilter) :
    findItemByGuid (visiblePage (·.isActive) (paged js
        (upstream.answer { filter with limit := 20, offset := 0 }) addressKeys
        (mapDeliveryAddress js) 20 0) (some false)).items guid =
      (((upstream.items filter).take 20).filter (·.isActive)).find? (sameGuid guid) := by
  rw [findItemByGuid, upstream.visible_items js { filter with limit := 20, offset := 0 }]
  rfl

theorem find_listed (filter : OnecFilter) :
    ((((upstream.items filter).take 20).filter (·.isActive)).find? (sameGuid guid)).isSome = true ↔
      ∃ a ∈ (upstream.items filter).take 20, a.isActive = true ∧ sameGuid guid a = true := by
  rw [List.find?_isSome]
  simp only [List.mem_filter, and_assoc]

theorem findOneFromList_eq :
    findOneFromList js upstream.loader guid (guidFilter counterpartyGuid) =
      some (((((upstream.items (guidRequest counterpartyGuid guid)).take 20).filter
          (·.isActive)).find? (sameGuid guid)).or
        ((((upstream.items (guidSearch counterpartyGuid guid)).take 20).filter
          (·.isActive)).find? (sameGuid guid))) := by
  rw [← find_visible, ← find_visible, findOneFromList]
  have unasked : (guidFilter counterpartyGuid).includeInactive.getD false = false := rfl
  simp only [Upstream.loader, Option.bind_eq_bind, Option.bind_some, unasked, guidRequest,
    guidSearch]
  split
  · next found => rw [found]; rfl
  · next missing => rw [missing]; rfl

theorem finds_iff (given : isSet counterpartyGuid = true)
    (short : (addressesOf upstream counterpartyGuid).length ≤ 1000) :
    Finds upstream counterpartyGuid guid ↔
      ListedByGuid upstream counterpartyGuid guid ∨ Reachable upstream counterpartyGuid guid := by
  have pages := findOnPages_eq upstream given guid 100 10 0
  rw [Nat.zero_mul] at pages
  have reach : (scan (·.isActive) 100 (addressesOf upstream counterpartyGuid) (sameGuid guid)
      10 0).isSome = true ↔ Reachable upstream counterpartyGuid guid := by
    rw [scan_isSome_iff _ (by decide), Reachable]
    constructor
    · rintro ⟨j, a, at_j, active, same, _, _, unhidden⟩
      exact ⟨j, a, at_j, active, same, fun i hidden => unhidden i hidden (by omega)⟩
    · rintro ⟨j, a, at_j, active, same, unhidden⟩
      have inside := (List.getElem?_eq_some_iff.mp at_j).1
      exact ⟨j, a, at_j, active, same, by omega, by omega, fun i hidden _ => unhidden i hidden⟩
  rw [← reach, ListedByGuid, ← find_listed, ← find_listed, ← Bool.or_eq_true, ← Option.isSome_or, Finds,
    findLiveDeliveryAddress, findOneFromList_eq]
  cases listed : ((((upstream.items (guidRequest counterpartyGuid guid)).take 20).filter
      (·.isActive)).find? (sameGuid guid)).or (((
        (upstream.items (guidSearch counterpartyGuid guid)).take 20).filter
      (·.isActive)).find? (sameGuid guid)) with
  | some found =>
    refine iff_of_true ⟨found, rfl, ?_⟩ (.inl rfl)
    rcases Option.or_eq_some_iff.mp listed with first | ⟨_, second⟩
    · exact List.find?_some first
    · exact List.find?_some second
  | none =>
    simp only [Option.bind_eq_bind, Option.bind_some, if_pos given, pages, Option.isSome_none,
      Bool.false_eq_true, false_or, Option.some.injEq]
    rw [Option.isSome_iff_exists]
    exact exists_congr fun found => and_iff_left_of_imp fun scanned => scan_matching _ scanned

end Lookups

variable (counterpartyGuid)

/-- A client that asks for page after page by their total stops, and has received every active
address once. -/
def ReadsAllAddresses (limit : Nat) (rule : Rule) : Prop :=
  ∃ pages : Nat → LivePagedResult LiveDeliveryAddress,
    (∀ k, getLiveDeliveryAddresses js upstream.loader
      (addressQuery counterpartyGuid limit (k * limit)) = some (pages k)) ∧
    ReadsAll (fun k => (pages k).items) (fun k => (pages k).total) limit
      ((addressesOf upstream counterpartyGuid).filter (·.isActive)) rule

variable {counterpartyGuid}

theorem readsAllAddresses_iff (given : isSet counterpartyGuid = true) {limit : Nat}
    (positive : 0 < limit) (rule : Rule) : ReadsAllAddresses upstream counterpartyGuid limit rule ↔
      Harmless (·.isActive) limit (addressesOf upstream counterpartyGuid) rule := by
  choose pages answered items total using getLiveDeliveryAddresses_page upstream given limit
  rw [← readsAll_iff positive]
  have read : ReadsAll (fun k => (pages k).items) (fun k => (pages k).total) limit
      ((addressesOf upstream counterpartyGuid).filter (·.isActive)) rule ↔
      ReadsAll (page (·.isActive) limit (addressesOf upstream counterpartyGuid))
        (PagedScan.total (·.isActive) limit (addressesOf upstream counterpartyGuid) ·) limit
        ((addressesOf upstream counterpartyGuid).filter (·.isActive)) rule := by
    simp only [items, total]
  rw [← read]
  refine ⟨fun ⟨pages', answered', reads⟩ => ?_, fun reads => ⟨pages, answered, reads⟩⟩
  have same : pages' = pages := funext fun k => Option.some.inj ((answered' k).symm.trans (answered k))
  rwa [← same]

/-- Every active address is found by its guid, and a client receives each of them once, exactly when
the inactive ones stand where neither the loop over hundreds nor the client's rule loses any. -/
theorem live_addresses_complete_iff (given : isSet counterpartyGuid = true)
    (short : (addressesOf upstream counterpartyGuid).length ≤ 1000) {limit : Nat}
    (positive : 0 < limit) (rule : Rule) :
    ((∀ a ∈ addressesOf upstream counterpartyGuid, a.isActive = true → ∀ guid, a.guid = some guid →
        Finds upstream counterpartyGuid guid) ∧
      ReadsAllAddresses upstream counterpartyGuid limit rule) ↔
    (∀ a ∈ addressesOf upstream counterpartyGuid, a.isActive = true → ∀ guid, a.guid = some guid →
        ListedByGuid upstream counterpartyGuid guid ∨ Reachable upstream counterpartyGuid guid) ∧
      Harmless (·.isActive) limit (addressesOf upstream counterpartyGuid) rule := by
  simp only [finds_iff upstream _ _ given short, readsAllAddresses_iff upstream given positive]

end Honoured

namespace Sample

def name (n : Nat) : String := String.ofList (List.replicate (n + 1) 'a')

def entry (n : Nat) : RecordValue :=
  [("guid", .string (name n)), ("isActive", .bool (decide (n ≠ 0)))]

theorem trim_name (n : Nat) : JsString.trim (name n) = name n := by
  have kept (text : List Char) (h : ∀ c ∈ text, JsString.isSpace c = false) :
      text.dropWhile JsString.isSpace = text := by
    cases text with
    | nil => rfl
    | cons c rest => rw [List.dropWhile_cons_of_neg (by simp [h c])]
  have letters : ∀ c ∈ List.replicate (n + 1) 'a', JsString.isSpace c = false := fun c at_c => by
    rw [List.eq_of_mem_replicate at_c]
    rfl
  rw [JsString.trim, name, String.toList_ofList, kept _ letters, List.reverse_replicate,
    kept _ letters, List.reverse_replicate]

theorem name_ne (n : Nat) : name n ≠ "" := fun same => by
  have lengths := congrArg (fun s : String => s.toList.length) same
  simp [name] at lengths

theorem entityGuid_entry (n : Nat) : entityGuid ofTexts (entry n) ["guid", "id"] = some (name n) := by
  have read : read (entry n) ["guid", "id"] = some (.string (name n)) := rfl
  rw [entityGuid, text, read]
  simp only [trim_name, if_neg (name_ne n)]

theorem mapped (n : Nat) : (mapDeliveryAddress ofTexts (entry n)).isSome = true := by
  rw [mapDeliveryAddress, entityGuid_entry]
  simp

def address (n : Nat) : LiveDeliveryAddress := (mapDeliveryAddress ofTexts (entry n)).get (mapped n)

theorem address_fields (n : Nat) :
    (address n).guid = some (name n) ∧ (address n).isActive = decide (n ≠ 0) := by
  have fields := mapDeliveryAddress_some ofTexts (Option.some_get (mapped n)).symm
  rw [entityGuid_entry] at fields
  have unmarked : read (entry n) ["deletionMark", "DeletionMark", "ПометкаУдаления"] = none := rfl
  have active : read (entry n) ["isActive", "active"] = some (.bool (decide (n ≠ 0))) := rfl
  refine ⟨fields.1, fields.2.trans ?_⟩
  rw [isEntityActive, bool, unmarked, bool, active]
  rfl

def upstream (numbers : OnecFilter → List Nat) : Upstream (mapDeliveryAddress ofTexts) where
  listing filter := (numbers filter).map fun n => ⟨entry n, mapped n⟩
  tellsTotal := true

theorem items_upstream (numbers : OnecFilter → List Nat) (filter : OnecFilter) :
    (upstream numbers).items filter = (numbers filter).map address := by
  rw [Upstream.items, upstream, List.map_map]
  refine List.map_congr_left fun n _ => ?_
  rw [Function.comp_apply, address]

def counterparty : Option String := some "counterparty"

def withoutGuids (count : Nat) : Upstream (mapDeliveryAddress ofTexts) :=
  upstream fun filter => if filter.search.isSome then [] else List.range count

theorem addressesOf_withoutGuids (count : Nat) :
    addressesOf (withoutGuids count) counterparty = (List.range count).map address :=
  items_upstream _ _

theorem name_inj {n m : Nat} : name n = name m ↔ n = m := by
  rw [name, name, String.ofList_inj, List.replicate_inj]
  simp

theorem sameGuid_iff (n m : Nat) : sameGuid (name n) (address m) = true ↔ m = n := by
  have lower (n : Nat) : JsString.toLowerCase (name n) = name n := by
    simp [JsString.toLowerCase, name, JsString.lowerChar]
  rw [sameGuid, (address_fields m).1, Option.map_some, lower, lower, beq_iff_eq, Option.some_inj,
    name_inj]

end Sample

theorem inactive_on_last_page_complete :
    (∀ a ∈ addressesOf (Sample.withoutGuids 3) Sample.counterparty, a.isActive = true →
      ∀ guid, a.guid = some guid → Finds (Sample.withoutGuids 3) Sample.counterparty guid) ∧
    ReadsAllAddresses (Sample.withoutGuids 3) Sample.counterparty 5 .receivedSoFar := by
  have listed := Sample.addressesOf_withoutGuids 3
  have length : (addressesOf (Sample.withoutGuids 3) Sample.counterparty).length = 3 := by
    rw [listed, List.length_map, List.length_range]
  refine (live_addresses_complete_iff (Sample.withoutGuids 3) rfl (by omega)
    (by decide) .receivedSoFar).mpr ⟨fun a at_a active guid has_guid => .inl (.inl ⟨a, ?_, active, ?_⟩),
      fun i _ => ?_⟩
  · rw [Sample.withoutGuids, Sample.items_upstream]
    rw [listed] at at_a
    exact at_a
  · rw [sameGuid, has_guid, Option.map_some, beq_self_eq_true]
  · rw [length]
    omega

/-- The inactive first address shortens the first page, and the last address is out of reach. -/
theorem inactive_first_address_hides_last :
    Sample.address 100 ∈ addressesOf (Sample.withoutGuids 101) Sample.counterparty ∧
      (Sample.address 100).isActive = true ∧
      (Sample.address 100).guid = some (Sample.name 100) ∧
      ¬Finds (Sample.withoutGuids 101) Sample.counterparty (Sample.name 100) ∧
      ¬ReadsAllAddresses (Sample.withoutGuids 101) Sample.counterparty 25 .nextOffset ∧
      ¬ReadsAllAddresses (Sample.withoutGuids 101) Sample.counterparty 25
        .receivedSoFar := by
  have listed := Sample.addressesOf_withoutGuids 101
  have active : (Sample.address 100).isActive = true := (Sample.address_fields 100).2.trans rfl
  have place (n : Nat) (inside : n < 101) :
      (addressesOf (Sample.withoutGuids 101) Sample.counterparty)[n]? =
        some (Sample.address n) := by
    rw [listed, List.getElem?_map, List.getElem?_range inside, Option.map_some]
  have hidden : Hidden (·.isActive)
      (addressesOf (Sample.withoutGuids 101) Sample.counterparty) 0 :=
    ⟨_, place 0 (by decide), (Sample.address_fields 0).2.trans rfl⟩
  have shown : Shown (·.isActive)
      (addressesOf (Sample.withoutGuids 101) Sample.counterparty) 100 :=
    ⟨_, place 100 (by decide), active⟩
  have length : (addressesOf (Sample.withoutGuids 101) Sample.counterparty).length = 101 := by
    rw [listed, List.length_map, List.length_range]
  refine ⟨List.mem_of_getElem? (place 100 (by decide)), active, (Sample.address_fields 100).1,
    ?_, ?_, ?_⟩
  · rw [finds_iff _ _ _ rfl (by omega), not_or]
    constructor
    · rintro (⟨a, at_a, _, same⟩ | ⟨a, at_a, _⟩)
      · have request : (Sample.withoutGuids 101).items (guidRequest Sample.counterparty
            (Sample.name 100)) = (List.range 101).map Sample.address := Sample.items_upstream _ _
        rw [request, ← List.map_take, List.take_range] at at_a
        obtain ⟨n, at_n, rfl⟩ := List.mem_map.mp at_a
        have small := List.mem_range.mp at_n
        rw [(Sample.sameGuid_iff 100 n).mp same] at small
        exact absurd small (by decide)
      · have none_listed : (Sample.withoutGuids 101).items
            (guidSearch Sample.counterparty (Sample.name 100)) = [] := rfl
        rw [none_listed, List.take_nil] at at_a
        cases at_a
    · rintro ⟨j, a, at_j, _, same, unhidden⟩
      have inside := (List.getElem?_eq_some_iff.mp at_j).1
      rw [place j (length ▸ inside), Option.some_inj] at at_j
      rw [← at_j] at same
      have first := unhidden 0 hidden
      rw [(Sample.sameGuid_iff 100 j).mp same] at first
      exact absurd first (by decide)
  · rw [readsAllAddresses_iff _ rfl (by decide)]
    exact fun harmless => absurd (harmless 0 100 hidden shown (by decide)) (by decide)
  · rw [readsAllAddresses_iff _ rfl (by decide)]
    intro harmless
    have last := harmless 0 hidden
    rw [length] at last
    exact absurd last (by decide)

end OnecLive
end LeaderProduct
