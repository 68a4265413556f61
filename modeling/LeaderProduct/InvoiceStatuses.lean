import LeaderProduct.InvoiceLifecycle
import LeaderProduct.LetterCase
import LeaderProduct.MaxInitData

/-! The statuses of invoices that the list of orders polls: orders are looked up by identifiers, in
the database by the stored texts and in memory by normalized ones. -/
namespace LeaderProduct

section Model

/-- The length of a text as the source language counts it. -/
def textLength (text : String) : Nat :=
  (text.toList.map (fun c => if c.toNat < 0x10000 then 1 else 2)).sum

/-- The identifiers of a request, when the schema accepts them. -/
def clientOrderInvoiceStatusesSchema (values : List String) : Option (List String) :=
  let values := values.map JsString.trim
  if (∀ value ∈ values, 1 ≤ textLength value ∧ textLength value ≤ 160) ∧
      1 ≤ values.length ∧ values.length ≤ 100 then
    some (values.map JsString.toLowerCase).eraseDups
  else none

def normalizedText (text : Option String) : String :=
  JsString.toLowerCase (JsString.trim (text.getD ""))

/-- What is not a string counts as an empty one. -/
def normalizedString (value : Option Json) : String :=
  match value with
  | some (.string text) => normalizedText (some text)
  | _ => ""

def member (value : Option Json) (key : String) : Option Json := value.bind (fun v => memberOf v key)

def asRecord (value : Option Json) : Option Json := value.filter (fun v => (record v).isSome)

structure SnapshotIdentity where
  appGuid : String
  documentGuid : String
  managerGuid : String
  number1c : String

def snapshotIdentity (snapshot : Option Json) : SnapshotIdentity :=
  let root := asRecord snapshot
  let item := (asRecord (member root "item")).or root
  let documentGuid := normalizedString (member item "documentGuid")
  { appGuid := normalizedString (member item "appGuid")
    documentGuid := if documentGuid = "" then normalizedString (member item "guid") else documentGuid
    managerGuid := normalizedString (member item "managerGuid")
    number1c := normalizedString (member item "number1c") }

structure StatusOrder where
  guid : Option String
  number1c : Option String
  createdByUserId : Option Nat
  last1cSnapshot : Option Json
  invoices : List (Id × Invoice)

structure PublicInvoice where
  id : Id
  realizationGuid : String
  realizationNumber : Option String
  realizationDate : Option Instant
  version : Nat
  state : InvoiceState
  waitReason : Option String
  downloadAvailable : Bool
  fileName : Option String
  sentAt : Option Instant
  deriving DecidableEq, Repr

def mapInvoice (row : Id × Invoice) : PublicInvoice where
  id := row.1
  realizationGuid := row.2.realizationGuid
  realizationNumber := row.2.details.realizationNumber
  realizationDate := row.2.details.realizationDate
  version := row.2.version
  state := row.2.state
  waitReason := row.2.waitReason.or row.2.lastError
  downloadAvailable := isSet row.2.s3Key
  fileName := row.2.fileName
  sentAt := row.2.sentAt

def shownInvoices (order : StatusOrder) : List PublicInvoice :=
  (order.invoices.filter (fun row => row.2.state ≠ .superseded ∧ row.2.state ≠ .cancelled)).map
    mapInvoice

structure RowOrder where
  arrange : List StatusOrder → List StatusOrder
  perm : ∀ rows, (arrange rows).Perm rows

structure StatusDatabase where
  orders : List StatusOrder
  onecUserGuid : Nat → Option String
  ownedRows : RowOrder
  visibleRows : RowOrder

def identityFilter (values : List String) (order : StatusOrder) : Bool :=
  order.guid.any (fun guid => values.contains guid) ||
    order.number1c.any (fun number => values.contains number)

def orderIdentifiers (order : StatusOrder) : List String :=
  let snapshot := snapshotIdentity order.last1cSnapshot
  [normalizedText order.guid, normalizedText order.number1c, snapshot.appGuid,
    snapshot.documentGuid, snapshot.number1c].filter (fun key => key ≠ "")

abbrev OrderMap := String → Option StatusOrder

def addOrderIdentifiers (byIdentifier : OrderMap) (order : StatusOrder) : OrderMap :=
  (orderIdentifiers order).foldl (fun known key => fun k => if k = key then some order else known k)
    byIdentifier

def managerGuidForUser (db : StatusDatabase) (userId : Nat) : String :=
  normalizedText (db.onecUserGuid userId)

def equalsText (found : Option Json) (text : String) : Bool :=
  match found with
  | some (.string stored) => stored == text
  | _ => false

def snapshotManagerIs (managerGuid : String) (order : StatusOrder) : Bool :=
  equalsText (member (member order.last1cSnapshot "item") "managerGuid") managerGuid ||
    equalsText (member order.last1cSnapshot "managerGuid") managerGuid

def ownedOrders (db : StatusDatabase) (identifiers : List String) (userId : Nat) :
    List StatusOrder :=
  db.ownedRows.arrange (db.orders.filter (fun order =>
    identityFilter identifiers order && order.createdByUserId == some userId))

def visibleOrders (db : StatusDatabase) (unresolved : List String) (userId : Nat) :
    List StatusOrder :=
  if unresolved = [] ∨ managerGuidForUser db userId = "" then []
  else db.visibleRows.arrange (db.orders.filter (fun order =>
    identityFilter unresolved order && snapshotManagerIs (managerGuidForUser db userId) order))

structure StatusItem where
  identifier : String
  invoices : List PublicInvoice
  deriving DecidableEq, Repr

def listClientOrderInvoiceStatuses (db : StatusDatabase) (identifiers : List String)
    (userId : Nat) : List StatusItem :=
  let normalizedIdentifiers := (((identifiers.map (fun value => normalizedText (some value))).filter
    (fun value => value ≠ "")).eraseDups).take 100
  let owned := (ownedOrders db normalizedIdentifiers userId).foldl addOrderIdentifiers (fun _ => none)
  let unresolved := normalizedIdentifiers.filter (fun identifier => (owned identifier).isNone)
  let byIdentifier := (visibleOrders db unresolved userId).foldl addOrderIdentifiers owned
  normalizedIdentifiers.map (fun identifier =>
    ⟨identifier, ((byIdentifier identifier).map shownInvoices).getD []⟩)

end Model

section Purpose

def VisibleTo (db : StatusDatabase) (userId : Nat) (order : StatusOrder) : Prop :=
  order.createdByUserId = some userId ∨
    managerGuidForUser db userId ≠ "" ∧
      (normalizedString (member (member order.last1cSnapshot "item") "managerGuid") =
          managerGuidForUser db userId ∨
        normalizedString (member order.last1cSnapshot "managerGuid") =
          managerGuidForUser db userId)

def SeenAs (db : StatusDatabase) (userId : Nat) (identifier : String) (order : StatusOrder) : Prop :=
  order ∈ db.orders ∧ VisibleTo db userId order ∧ identifier ∈ orderIdentifiers order

/-- The entry shows one of the orders that are seen so, or nothing where there is none. -/
def ShowsItsOrder (db : StatusDatabase) (userId : Nat) (item : StatusItem) : Prop :=
  (∃ order, SeenAs db userId item.identifier order ∧ item.invoices = shownInvoices order) ∨
    (∀ order, ¬SeenAs db userId item.identifier order) ∧ item.invoices = []

def FoundAsOwned (db : StatusDatabase) (userId : Nat) (identifiers : List String)
    (identifier : String) : Prop :=
  ∃ order ∈ db.orders, order.createdByUserId = some userId ∧
    identityFilter identifiers order = true ∧ identifier ∈ orderIdentifiers order

def FoundAsManaged (db : StatusDatabase) (userId : Nat) (identifiers : List String)
    (identifier : String) : Prop :=
  managerGuidForUser db userId ≠ "" ∧
    ∃ order ∈ db.orders, snapshotManagerIs (managerGuidForUser db userId) order = true ∧
      (∃ stored ∈ identifiers, ¬FoundAsOwned db userId identifiers stored ∧
        (order.guid = some stored ∨ order.number1c = some stored)) ∧
      identifier ∈ orderIdentifiers order

/-- Whoever is seen under the identifier is found by what is stored, or has nothing to show. -/
def Reached (db : StatusDatabase) (userId : Nat) (identifiers : List String)
    (identifier : String) : Prop :=
  FoundAsOwned db userId identifiers identifier ∨ FoundAsManaged db userId identifiers identifier ∨
    ∃ order, SeenAs db userId identifier order ∧ shownInvoices order = []

end Purpose

variable {order : StatusOrder} {values : List String} {identifier : String}

section Map

theorem addOrderIdentifiers_eq (known : OrderMap) (order : StatusOrder) (k : String) :
    addOrderIdentifiers known order k =
      if k ∈ orderIdentifiers order then some order else known k := by
  unfold addOrderIdentifiers
  induction orderIdentifiers order generalizing known with
  | nil => rfl
  | cons key rest ih =>
    rw [List.foldl_cons, ih]
    by_cases here : k = key
    · simp [here]
    · simp [here]

variable {rows : List StatusOrder} {known : OrderMap} {k : String}

theorem known_of_some (found : rows.foldl addOrderIdentifiers known k = some order) :
    order ∈ rows ∧ k ∈ orderIdentifiers order ∨ known k = some order := by
  induction rows generalizing known with
  | nil => exact .inr found
  | cons row rest ih =>
    rw [List.foldl_cons] at found
    rcases ih found with ⟨listed, own⟩ | earlier
    · exact .inl ⟨List.mem_cons_of_mem row listed, own⟩
    · rw [addOrderIdentifiers_eq] at earlier
      split at earlier
      · next own =>
        cases earlier
        exact .inl ⟨List.mem_cons_self, own⟩
      · exact .inr earlier

theorem known_eq_none_iff : rows.foldl addOrderIdentifiers known k = none ↔
    known k = none ∧ ∀ order ∈ rows, k ∉ orderIdentifiers order := by
  induction rows generalizing known with
  | nil => simp
  | cons row rest ih =>
    rw [List.foldl_cons, ih, addOrderIdentifiers_eq, List.forall_mem_cons]
    by_cases own : k ∈ orderIdentifiers row
    · simp [own]
    · simp [own]

end Map

section Request

theorem normalizedText_normalizedText (text : Option String) :
    normalizedText (some (normalizedText text)) = normalizedText text := by
  simp [normalizedText, JsString.trim_toLowerCase]

theorem eraseDups_of_nodup {items : List String} (unique : items.Nodup) :
    items.eraseDups = items := by
  induction items with
  | nil => rfl
  | cons item rest ih =>
    obtain ⟨absent, unique⟩ := List.nodup_cons.mp unique
    have others : rest.filter (fun b => !b == item) = rest := by
      rw [List.filter_eq_self]
      intro other listed
      have different : other ≠ item := fun same => absent (same ▸ listed)
      simpa using different
    rw [List.eraseDups_cons, others, ih unique]

theorem accepted_iff {identifiers : List String} :
    clientOrderInvoiceStatusesSchema values = some identifiers ↔
      ((∀ value ∈ values.map JsString.trim, 1 ≤ textLength value ∧ textLength value ≤ 160) ∧
        1 ≤ (values.map JsString.trim).length ∧ (values.map JsString.trim).length ≤ 100) ∧
      ((values.map JsString.trim).map JsString.toLowerCase).eraseDups = identifiers := by
  rw [clientOrderInvoiceStatusesSchema, Option.ite_none_right_eq_some, Option.some.injEq]

theorem normal_of_accepted {identifiers : List String}
    (accepted : clientOrderInvoiceStatusesSchema values = some identifiers)
    (listed : identifier ∈ identifiers) :
    normalizedText (some identifier) = identifier ∧ identifier ≠ "" := by
  obtain ⟨⟨sized, _⟩, rfl⟩ := accepted_iff.mp accepted
  rw [List.mem_eraseDups] at listed
  obtain ⟨text, trimmed, rfl⟩ := List.mem_map.mp listed
  obtain ⟨value, _, rfl⟩ := List.mem_map.mp trimmed
  refine ⟨normalizedText_normalizedText (some value), fun empty => ?_⟩
  have blank := JsString.toLowerCase_eq_empty.mp empty
  have long := (sized _ trimmed).1
  rw [blank] at long
  exact absurd long (by decide)

theorem nodup_of_accepted {identifiers : List String}
    (accepted : clientOrderInvoiceStatusesSchema values = some identifiers) :
    identifiers.Nodup := by
  obtain ⟨_, rfl⟩ := accepted_iff.mp accepted
  exact nodup_eraseDups _

theorem few_of_accepted {identifiers : List String}
    (accepted : clientOrderInvoiceStatusesSchema values = some identifiers) :
    identifiers.length ≤ 100 := by
  have unique := nodup_of_accepted accepted
  obtain ⟨⟨_, _, few⟩, rfl⟩ := accepted_iff.mp accepted
  have smaller := (List.subperm_of_subset unique (fun _ => List.mem_eraseDups.mp)).length_le
  rw [List.length_map] at smaller
  exact Nat.le_trans smaller few

theorem normalized_of_accepted {identifiers : List String}
    (accepted : clientOrderInvoiceStatusesSchema values = some identifiers) :
    (((identifiers.map (fun value => normalizedText (some value))).filter
      (fun value => value ≠ "")).eraseDups).take 100 = identifiers := by
  have same : identifiers.map (fun value => normalizedText (some value)) = identifiers := by
    rw [List.map_congr_left (fun _ listed => (normal_of_accepted accepted listed).1), List.map_id']
  have named : identifiers.filter (fun value => decide (value ≠ "")) = identifiers := by
    rw [List.filter_eq_self]
    exact fun _ listed => decide_eq_true (normal_of_accepted accepted listed).2
  rw [same, named, eraseDups_of_nodup (nodup_of_accepted accepted),
    List.take_of_length_le (few_of_accepted accepted)]

end Request

section Lookup
variable {db : StatusDatabase} {userId : Nat} {identifiers : List String}

theorem identityFilter_iff :
    identityFilter values order = true ↔
      ∃ value ∈ values, order.guid = some value ∨ order.number1c = some value := by
  simp only [identityFilter, Bool.or_eq_true, Option.any_eq_true, List.contains_iff_mem]
  constructor
  · rintro (⟨value, stored, listed⟩ | ⟨value, stored, listed⟩)
    · exact ⟨value, listed, .inl stored⟩
    · exact ⟨value, listed, .inr stored⟩
  · rintro ⟨value, listed, stored | stored⟩
    · exact .inl ⟨value, stored, listed⟩
    · exact .inr ⟨value, stored, listed⟩

theorem mem_ownedOrders :
    order ∈ ownedOrders db identifiers userId ↔
      order ∈ db.orders ∧ identityFilter identifiers order = true ∧
        order.createdByUserId = some userId := by
  rw [ownedOrders, (db.ownedRows.perm _).mem_iff, List.mem_filter, Bool.and_eq_true, beq_iff_eq]

theorem mem_visibleOrders {unresolved : List String} :
    order ∈ visibleOrders db unresolved userId ↔
      managerGuidForUser db userId ≠ "" ∧ order ∈ db.orders ∧
        identityFilter unresolved order = true ∧
        snapshotManagerIs (managerGuidForUser db userId) order = true := by
  unfold visibleOrders
  split
  · next idle =>
    simp only [List.not_mem_nil, false_iff]
    rintro ⟨manager, _, stored, _⟩
    obtain ⟨value, listed, _⟩ := identityFilter_iff.mp stored
    rcases idle with resolved | unnamed
    · rw [resolved] at listed
      cases listed
    · exact manager unnamed
  · next asked =>
    simp only [not_or] at asked
    rw [(db.visibleRows.perm _).mem_iff, List.mem_filter, Bool.and_eq_true]
    exact ⟨fun found => ⟨asked.2, found⟩, fun found => found.2⟩

def ownedMap (db : StatusDatabase) (identifiers : List String) (userId : Nat) : OrderMap :=
  (ownedOrders db identifiers userId).foldl addOrderIdentifiers (fun _ => none)

def fullMap (db : StatusDatabase) (identifiers : List String) (userId : Nat) : OrderMap :=
  (visibleOrders db (identifiers.filter
    (fun identifier => (ownedMap db identifiers userId identifier).isNone)) userId).foldl
    addOrderIdentifiers (ownedMap db identifiers userId)

theorem ownedMap_eq_none_iff :
    ownedMap db identifiers userId identifier = none ↔
      ¬FoundAsOwned db userId identifiers identifier := by
  rw [ownedMap, known_eq_none_iff]
  constructor
  · rintro ⟨_, unknown⟩ ⟨order, listed, own, stored, known⟩
    exact unknown order (mem_ownedOrders.mpr ⟨listed, stored, own⟩) known
  · intro absent
    refine ⟨rfl, fun order loaded known => absent ?_⟩
    obtain ⟨listed, stored, own⟩ := mem_ownedOrders.mp loaded
    exact ⟨order, listed, own, stored, known⟩

theorem mem_unresolvedOrders :
    order ∈ visibleOrders db (identifiers.filter
        (fun identifier => (ownedMap db identifiers userId identifier).isNone)) userId ↔
      managerGuidForUser db userId ≠ "" ∧ order ∈ db.orders ∧
        snapshotManagerIs (managerGuidForUser db userId) order = true ∧
        ∃ stored ∈ identifiers, ¬FoundAsOwned db userId identifiers stored ∧
          (order.guid = some stored ∨ order.number1c = some stored) := by
  rw [mem_visibleOrders, identityFilter_iff]
  simp only [List.mem_filter, Option.isNone_iff_eq_none, ownedMap_eq_none_iff]
  constructor
  · rintro ⟨manager, listed, ⟨stored, ⟨asked, unresolved⟩, same⟩, named⟩
    exact ⟨manager, listed, named, stored, asked, unresolved, same⟩
  · rintro ⟨manager, listed, named, stored, asked, unresolved, same⟩
    exact ⟨manager, listed, ⟨stored, ⟨asked, unresolved⟩, same⟩, named⟩

theorem fullMap_eq_none_iff :
    fullMap db identifiers userId identifier = none ↔
      ¬FoundAsOwned db userId identifiers identifier ∧
        ¬FoundAsManaged db userId identifiers identifier := by
  rw [fullMap, known_eq_none_iff, ownedMap_eq_none_iff]
  refine and_congr_right fun _ => ?_
  constructor
  · rintro unknown ⟨manager, order, listed, named, asked, known⟩
    exact unknown order (mem_unresolvedOrders.mpr ⟨manager, listed, named, asked⟩) known
  · intro absent order loaded known
    obtain ⟨manager, listed, named, asked⟩ := mem_unresolvedOrders.mp loaded
    exact absent ⟨manager, order, listed, named, asked, known⟩

theorem normalized_of_equalsText {found : Option Json} {text : Option String}
    (equal : equalsText found (normalizedText text) = true) :
    normalizedString found = normalizedText text := by
  unfold equalsText at equal
  split at equal
  · next stored =>
    rw [beq_iff_eq] at equal
    rw [normalizedString, equal, normalizedText_normalizedText]
  · cases equal

theorem visible_of_snapshotManagerIs (manager : managerGuidForUser db userId ≠ "")
    (named : snapshotManagerIs (managerGuidForUser db userId) order = true) :
    VisibleTo db userId order := by
  refine .inr ⟨manager, ?_⟩
  rcases Bool.or_eq_true_iff.mp named with inner | outer
  · exact .inl (normalized_of_equalsText inner)
  · exact .inr (normalized_of_equalsText outer)

theorem seen_of_fullMap (found : fullMap db identifiers userId identifier = some order) :
    SeenAs db userId identifier order := by
  rcases known_of_some found with ⟨loaded, known⟩ | earlier
  · obtain ⟨manager, listed, named, _⟩ := mem_unresolvedOrders.mp loaded
    exact ⟨listed, visible_of_snapshotManagerIs manager named, known⟩
  · rcases known_of_some earlier with ⟨loaded, known⟩ | impossible
    · obtain ⟨listed, _, own⟩ := mem_ownedOrders.mp loaded
      exact ⟨listed, .inl own, known⟩
    · cases impossible

theorem statuses_eq_fullMap
    (accepted : clientOrderInvoiceStatusesSchema values = some identifiers) :
    listClientOrderInvoiceStatuses db identifiers userId = identifiers.map (fun identifier =>
      ⟨identifier, ((fullMap db identifiers userId identifier).map shownInvoices).getD []⟩) := by
  unfold listClientOrderInvoiceStatuses
  rw [normalized_of_accepted accepted]
  rfl

theorem showsItsOrder_iff (identifier : String) :
    ShowsItsOrder db userId
        ⟨identifier, ((fullMap db identifiers userId identifier).map shownInvoices).getD []⟩ ↔
      ((∃ order, SeenAs db userId identifier order) →
        Reached db userId identifiers identifier) := by
  cases found : fullMap db identifiers userId identifier with
  | some order =>
    have seen := seen_of_fullMap found
    refine iff_of_true (.inl ⟨order, seen, rfl⟩) (fun _ => ?_)
    by_contra missed
    simp only [Reached, not_or] at missed
    rw [fullMap_eq_none_iff.mpr ⟨missed.1, missed.2.1⟩] at found
    cases found
  | none =>
    obtain ⟨unowned, unmanaged⟩ := fullMap_eq_none_iff.mp found
    constructor
    · rintro (⟨order, seen, empty⟩ | ⟨unseen, _⟩) ⟨other, seenOther⟩
      · exact .inr (.inr ⟨order, seen, empty.symm⟩)
      · exact absurd seenOther (unseen other)
    · intro reached
      by_cases exists_seen : ∃ order, SeenAs db userId identifier order
      · rcases reached exists_seen with owned | managed | ⟨order, seen, empty⟩
        · exact absurd owned unowned
        · exact absurd managed unmanaged
        · exact .inl ⟨order, seen, empty.symm⟩
      · exact .inr ⟨fun order seen => exists_seen ⟨order, seen⟩, rfl⟩

end Lookup

namespace Sample

def numberedOrder : StatusOrder where
  guid := some "order-guid"
  number1c := some "НОУТ-1"
  createdByUserId := some 37
  last1cSnapshot := none
  invoices := [("invoice-id",
    createdInvoice settings "order-id" (queueItem "token-1" 1 .stored) false 1)]

def asStored : RowOrder := ⟨id, List.Perm.refl⟩

def statusDatabase : StatusDatabase := ⟨[numberedOrder], fun _ => none, asStored, asStored⟩

end Sample

end LeaderProduct
