import LeaderProduct.CounterpartyCard

/-! What the card of a counterparty tells a user without a permission: two answers of 1C that
differ in protected data alone give cards that differ in the overview or the summary of the
documents at most. -/
namespace LeaderProduct

variable {keys : List String}

section Redaction

inductive ProtectedData where
  | finance | sales | contacts
  deriving DecidableEq, Repr

def CardPermissions.permits (permissions : CardPermissions) : ProtectedData → Bool
  | .finance => permissions.viewFinance
  | .sales => permissions.viewSales
  | .contacts => permissions.viewContacts

def ProtectedData.cardKeys : ProtectedData → List String
  | .finance => ["financesummary", "finance", "incomingpayments", "payments", "receipts",
      "upcomingpayments", "scheduledpayments", "nearestpayments", "paymentdiscipline", "discipline",
      "financialdocuments", "financedocuments", "financialdocumentssummary",
      "financedocumentssummary", "documentssummary"]
  | .sales => ["salessummary", "sales", "recentorders", "orders"]
  | .contacts => ["contacts"]

def ProtectedData.overviewKeys : ProtectedData → List String
  | .finance => ["debttotal", "overduedebt", "maxoverduedays", "availablecreditlimit"]
  | .sales => ["salesamount", "previoussalesamount", "saleschangepercent", "lastorderdate",
      "lastorderamount", "averagecheck"]
  | .contacts => []

def withoutKeys (keys : List String) (entries : RecordValue) : RecordValue :=
  entries.filter (fun entry => !keys.contains (JsString.toLowerCase entry.1))

def redactOverview (d : ProtectedData) : Json → Json
  | .object entries => .object (withoutKeys d.overviewKeys entries)
  | other => other

def redactEntry (d : ProtectedData) (entry : String × Json) : String × Json :=
  if JsString.toLowerCase entry.1 = "overview" then (entry.1, redactOverview d entry.2) else entry

def redact (d : ProtectedData) (entries : RecordValue) : RecordValue :=
  (withoutKeys d.cardKeys entries).map (redactEntry d)

def DifferOnlyIn (d : ProtectedData) (root root' : Option RecordValue) : Prop :=
  root.map (redact d) = root'.map (redact d)

variable {key : String}

theorem ownEntry_name {entries : RecordValue} {entry : String × Json}
    (found : ownEntry entries key = some entry) :
    JsString.toLowerCase entry.1 = JsString.toLowerCase key := by
  rcases Option.or_eq_some_iff.mp found with own | ⟨_, like⟩
  · have here := List.find?_some own
    rw [beq_iff_eq.mp here]
  · have here := List.find?_some like
    exact beq_iff_eq.mp here

theorem find_filter {B : Type} {keep looked : B → Bool} (seen : ∀ b, looked b = true → keep b = true)
    (items : List B) : (items.filter keep).find? looked = items.find? looked := by
  rw [List.find?_filter]
  congr 1
  funext b
  cases found : looked b with
  | false => simp
  | true => simp [seen b found]

theorem ownEntry_withoutKeys (seen : JsString.toLowerCase key ∉ keys) (entries : RecordValue) :
    ownEntry (withoutKeys keys entries) key = ownEntry entries key := by
  unfold ownEntry withoutKeys
  rw [find_filter, find_filter]
  · intro entry like
    simpa [beq_iff_eq.mp like] using seen
  · intro entry own
    simpa [beq_iff_eq.mp own] using seen

theorem redactEntry_name (d : ProtectedData) (entry : String × Json) :
    (redactEntry d entry).1 = entry.1 := by
  unfold redactEntry
  split <;> rfl

theorem ownEntry_redact {d : ProtectedData} (seen : JsString.toLowerCase key ∉ d.cardKeys)
    (entries : RecordValue) : ownEntry (redact d entries) key =
      (ownEntry entries key).map (redactEntry d) := by
  rw [← ownEntry_withoutKeys seen entries, redact]
  simp only [ownEntry, List.find?_map, Function.comp_def, redactEntry_name, Option.map_or]

def Visible (d : ProtectedData) (keys : List String) : Prop :=
  ∀ key ∈ keys, JsString.toLowerCase key ∉ d.cardKeys ∧ JsString.toLowerCase key ≠ "overview"

instance (d : ProtectedData) (keys : List String) : Decidable (Visible d keys) :=
  inferInstanceAs (Decidable (∀ _ ∈ _, _))

theorem findSome_congr {A B : Type} {f g : A → Option B} {items : List A}
    (same : ∀ a ∈ items, f a = g a) : items.findSome? f = items.findSome? g := by
  induction items with
  | nil => rfl
  | cons a rest ih =>
    rw [List.forall_mem_cons] at same
    rw [List.findSome?_cons, List.findSome?_cons, same.1, ih same.2]

theorem value_redact {d : ProtectedData} (seen : Visible d keys) (root : Option RecordValue) :
    value (root.map (redact d)) keys = value root keys := by
  cases root with
  | none => rfl
  | some entries =>
    simp only [value, Option.map_some, Option.bind_some]
    refine findSome_congr fun key here => ?_
    obtain ⟨shown, other⟩ := seen key here
    rw [ownEntry_redact shown, Option.map_map]
    cases found : ownEntry entries key with
    | none => rfl
    | some entry =>
      have name : JsString.toLowerCase entry.1 ≠ "overview" := by
        rw [ownEntry_name found]
        exact other
      simp [redactEntry, name]

theorem overview_redact (d : ProtectedData) (root : Option RecordValue) :
    objectOf (root.map (redact d)) ["overview"] =
      (objectOf root ["overview"]).map (withoutKeys d.overviewKeys) := by
  have shown : JsString.toLowerCase "overview" ∉ d.cardKeys := by
    cases d <;> decide +kernel
  have named : JsString.toLowerCase "overview" = "overview" := by decide +kernel
  cases root with
  | none => rfl
  | some entries =>
    simp only [objectOf, value, Option.map_some, Option.bind_some, List.findSome?_cons,
      List.findSome?_nil, ownEntry_redact shown]
    cases found : ownEntry entries "overview" with
    | none => rfl
    | some entry =>
      have name := (ownEntry_name found).trans named
      simp only [Option.map_some, redactEntry, if_pos name, Option.bind_some]
      cases entry.2 <;> rfl

theorem value_overview {d : ProtectedData}
    (seen : ∀ key ∈ keys, JsString.toLowerCase key ∉ d.overviewKeys)
    (overview : Option RecordValue) :
    value (overview.map (withoutKeys d.overviewKeys)) keys = value overview keys := by
  cases overview with
  | none => rfl
  | some entries =>
    simp only [value, Option.map_some, Option.bind_some]
    refine findSome_congr fun key here => ?_
    rw [ownEntry_withoutKeys (seen key here)]

theorem objectOf_redact {d : ProtectedData} (seen : Visible d keys) (root : Option RecordValue) :
    objectOf (root.map (redact d)) keys = objectOf root keys := by
  rw [objectOf, value_redact seen, objectOf]

theorem arrayOf_redact {d : ProtectedData} (seen : Visible d keys) (root : Option RecordValue) :
    arrayOf (root.map (redact d)) keys = arrayOf root keys := by
  rw [arrayOf, value_redact seen, arrayOf]

theorem textOr_redact (js : JsConversions) {d : ProtectedData} (seen : Visible d keys)
    (root : Option RecordValue) (fallback : Option String) :
    textOr js (root.map (redact d)) keys fallback = textOr js root keys fallback := by
  rw [textOr, value_redact seen, textOr]

def openLookups : List (List String) :=
  [["identity"], ["context"], ["sections"], ["commercialTerms", "terms"], ["organizationOptions"],
    ["calculatedAt", "asOf"], ["sourceVersion"]]

def ProtectedData.lookups : ProtectedData → List (List String)
  | .finance => [["financeSummary", "finance"], ["incomingPayments", "payments", "receipts"],
      ["upcomingPayments", "scheduledPayments", "nearestPayments"],
      ["paymentDiscipline", "discipline"], ["financialDocuments", "financeDocuments"],
      ["financialDocumentsSummary", "financeDocumentsSummary", "documentsSummary"]]
  | .sales => [["salesSummary", "sales"], ["recentOrders", "orders"]]
  | .contacts => [["contacts"]]

theorem openLookups_visible (d : ProtectedData) : ∀ keys ∈ openLookups, Visible d keys := by
  cases d <;> decide +kernel

theorem lookups_visible {d d' : ProtectedData} (other : d ≠ d') :
    ∀ keys ∈ d'.lookups, Visible d keys := by
  cases d <;> cases d' <;> first | exact absurd rfl other | decide +kernel

end Redaction

section Card
variable (js : JsConversions)

theorem organizations_redact (d : ProtectedData) (root context : Option RecordValue) :
    mapOrganizations js (root.map (redact d)) context = mapOrganizations js root context := by
  rw [mapOrganizations, arrayOf_redact (openLookups_visible d _ (by decide)), mapOrganizations]

section Gates
variable {d : ProtectedData} {permissions : CardPermissions} (root : Option RecordValue)

/-- A section behind a permission is not read without it, and holds nothing that another one
protects. -/
theorem allowed_redact (hidden : permissions.permits d = false) (d' : ProtectedData) {B : Type}
    {f : Option RecordValue → B} (otherwise : B)
    (reads : d ≠ d' → f (root.map (redact d)) = f root) :
    allowed (permissions.permits d') (f (root.map (redact d))) otherwise =
      allowed (permissions.permits d') (f root) otherwise := by
  by_cases same : d = d'
  · subst same
    rw [hidden]
    rfl
  · rw [reads same]

theorem finance_redact (other : d ≠ .finance) :
    mapFinance js (objectOf (root.map (redact d)) ["financeSummary", "finance"]) =
        mapFinance js (objectOf root ["financeSummary", "finance"]) ∧
      mapIncomingPayments js (root.map (redact d)) = mapIncomingPayments js root ∧
      mapUpcomingPayments js (root.map (redact d)) = mapUpcomingPayments js root ∧
      mapPaymentDiscipline js (root.map (redact d)) = mapPaymentDiscipline js root ∧
      ∀ upcoming, mapFinancialDocuments js (root.map (redact d)) upcoming =
        mapFinancialDocuments js root upcoming := by
  have seen {keys : List String} (known : keys ∈ ProtectedData.finance.lookups) :=
    lookups_visible other keys known
  refine ⟨?_, ?_, ?_, ?_, fun upcoming => ?_⟩
  · rw [objectOf_redact (seen (by decide))]
  · rw [mapIncomingPayments, arrayOf_redact (seen (by decide)), mapIncomingPayments]
  · rw [mapUpcomingPayments, arrayOf_redact (seen (by decide)), mapUpcomingPayments]
  · rw [mapPaymentDiscipline, objectOf_redact (seen (by decide)), mapPaymentDiscipline]
  · rw [mapFinancialDocuments, arrayOf_redact (seen (by decide)), mapFinancialDocuments]

theorem sales_redact (other : d ≠ .sales) :
    mapSales js (objectOf (root.map (redact d)) ["salesSummary", "sales"]) =
        mapSales js (objectOf root ["salesSummary", "sales"]) ∧
      mapOrders js (root.map (redact d)) = mapOrders js root := by
  have seen {keys : List String} (known : keys ∈ ProtectedData.sales.lookups) :=
    lookups_visible other keys known
  constructor
  · rw [objectOf_redact (seen (by decide))]
  · rw [mapOrders, arrayOf_redact (seen (by decide)), mapOrders]

theorem contacts_redact (other : d ≠ .contacts) :
    mapContacts js (root.map (redact d)) = mapContacts js root := by
  have seen {keys : List String} (known : keys ∈ ProtectedData.contacts.lookups) :=
    lookups_visible other keys known
  rw [mapContacts, arrayOf_redact (seen (by decide)), mapContacts]

end Gates

theorem card_of_redacted {d : ProtectedData} {permissions : CardPermissions}
    (hidden : permissions.permits d = false) (root : Option RecordValue) (requestedGuid : String)
    (requestedOrganizationGuid : Option String) (now : String) :
    mapCardRoot js root requestedGuid requestedOrganizationGuid permissions now =
      (mapCardRoot js (root.map (redact d)) requestedGuid requestedOrganizationGuid permissions
        now).map (fun card => { card with
          overview := mapOverview js (objectOf root ["overview"])
          financialDocumentsSummary :=
            mapFinancialDocumentsSummary js root card.financialDocuments }) := by
  have object {keys : List String} (known : keys ∈ openLookups) :=
    objectOf_redact (openLookups_visible d keys known) root
  have text {keys : List String} (known : keys ∈ openLookups) :=
    textOr_redact js (openLookups_visible d keys known) root
  have identity := object (show ["identity"] ∈ openLookups by decide)
  have context := object (show ["context"] ∈ openLookups by decide)
  have sections := object (show ["sections"] ∈ openLookups by decide)
  have terms := object (show ["commercialTerms", "terms"] ∈ openLookups by decide)
  have asOf := text (show ["calculatedAt", "asOf"] ∈ openLookups by decide)
  have version := text (show ["sourceVersion"] ∈ openLookups by decide)
  have finance := allowed_redact root hidden .finance
    (f := fun root => mapFinance js (objectOf root ["financeSummary", "finance"])) none
    (fun other => (finance_redact js root other).1)
  have incoming := allowed_redact root hidden .finance (f := mapIncomingPayments js) []
    (fun other => (finance_redact js root other).2.1)
  have upcoming := allowed_redact root hidden .finance (f := mapUpcomingPayments js) []
    (fun other => (finance_redact js root other).2.2.1)
  have discipline := allowed_redact root hidden .finance (f := mapPaymentDiscipline js) none
    (fun other => (finance_redact js root other).2.2.2.1)
  have documents (payments : List UpcomingPayment) := allowed_redact root hidden .finance
    (f := fun root => mapFinancialDocuments js root payments) []
    (fun other => (finance_redact js root other).2.2.2.2 payments)
  have sales := allowed_redact root hidden .sales
    (f := fun root => mapSales js (objectOf root ["salesSummary", "sales"])) none
    (fun other => (sales_redact js root other).1)
  have orders := allowed_redact root hidden .sales (f := mapOrders js) []
    (fun other => (sales_redact js root other).2)
  have contacts := allowed_redact root hidden .contacts (f := mapContacts js) []
    (contacts_redact js root)
  simp only [CardPermissions.permits] at finance incoming upcoming discipline documents
  simp only [CardPermissions.permits] at sales orders contacts
  simp only [mapCardRoot, Option.map_map, organizations_redact, identity, context, sections, terms,
    asOf, version, finance, incoming, upcoming, discipline, documents, sales, orders, contacts]
  rfl

/-- The card that the service answers with. -/
def counterpartyCard (payload : Json) (requestedGuid : String) (organizationGuid : Option String)
    (permissions : CardPermissions) (now : String) : Option CardBootstrap :=
  (mapOnecCounterpartyCard js payload requestedGuid organizationGuid permissions now).map
    (fun card => scopeCardToRequestedOrganization card organizationGuid)

/-- The figures of the overview that belong to the data. -/
def SameFigures (d : ProtectedData) (a b : CardOverview) : Prop :=
  match d with
  | .finance => a.debtTotal = b.debtTotal ∧ a.overdueDebt = b.overdueDebt ∧
      a.maxOverdueDays = b.maxOverdueDays ∧ a.availableCreditLimit = b.availableCreditLimit
  | .sales => a.salesAmount = b.salesAmount ∧ a.previousSalesAmount = b.previousSalesAmount ∧
      a.salesChangePercent = b.salesChangePercent ∧ a.lastOrderDate = b.lastOrderDate ∧
      a.lastOrderAmount = b.lastOrderAmount ∧ a.averageCheck = b.averageCheck
  | .contacts => True

/-- The answers state the same overview, and the same counts of financial documents; for a card
without an organization the finance part of both is dropped. -/
def SameOpenly (d : ProtectedData) (organizationGuid : Option String)
    (root root' : Option RecordValue) : Prop :=
  match d with
  | .finance => isSet organizationGuid = true →
      SameFigures .finance (mapOverview js (objectOf root ["overview"]))
        (mapOverview js (objectOf root' ["overview"])) ∧
      mapFinancialDocumentsSummary js root [] = mapFinancialDocumentsSummary js root' []
  | d => SameFigures d (mapOverview js (objectOf root ["overview"]))
      (mapOverview js (objectOf root' ["overview"]))

variable {d : ProtectedData} {root root' : Option RecordValue}

section
variable (differ : DifferOnlyIn d root root')
include differ

theorem overview_value (seen : ∀ key ∈ keys, JsString.toLowerCase key ∉ d.overviewKeys) :
    value (objectOf root ["overview"]) keys = value (objectOf root' ["overview"]) keys := by
  rw [← value_overview seen, ← overview_redact, differ, overview_redact, value_overview seen]

theorem overview_number (seen : ∀ key ∈ keys, JsString.toLowerCase key ∉ d.overviewKeys) :
    numberOrNull js (objectOf root ["overview"]) keys =
      numberOrNull js (objectOf root' ["overview"]) keys := by
  rw [numberOrNull, overview_value differ seen, numberOrNull]

theorem overview_text (seen : ∀ key ∈ keys, JsString.toLowerCase key ∉ d.overviewKeys) :
    textOf js (objectOf root ["overview"]) keys = textOf js (objectOf root' ["overview"]) keys := by
  rw [textOf, textOr, overview_value differ seen, textOf, textOr]

theorem status_same :
    (mapOverview js (objectOf root ["overview"])).status =
      (mapOverview js (objectOf root' ["overview"])).status := by
  have seen : ∀ key ∈ ["status", "statusCode"], JsString.toLowerCase key ∉ d.overviewKeys := by
    cases d <;> decide +kernel
  simp only [mapOverview, overview_text js differ seen]

theorem debt_same (other : d ≠ .finance) :
    SameFigures .finance (mapOverview js (objectOf root ["overview"]))
      (mapOverview js (objectOf root' ["overview"])) := by
  have seen : ∀ keys ∈ [["debtTotal"], ["overdueDebt"], ["maxOverdueDays"],
      ["availableCreditLimit"]], ∀ key ∈ keys, JsString.toLowerCase key ∉ d.overviewKeys := by
    cases d <;> first | exact absurd rfl other | decide +kernel
  have number {keys : List String} (known : keys ∈ [["debtTotal"], ["overdueDebt"],
      ["maxOverdueDays"], ["availableCreditLimit"]]) :=
    overview_number js differ (seen keys known)
  exact ⟨number (by decide), number (by decide), number (by decide), number (by decide)⟩

theorem sales_same (other : d ≠ .sales) :
    SameFigures .sales (mapOverview js (objectOf root ["overview"]))
      (mapOverview js (objectOf root' ["overview"])) := by
  have seen : ∀ keys ∈ [["salesAmount"], ["previousSalesAmount"], ["salesChangePercent"],
      ["lastOrderDate"], ["lastOrderAmount"], ["averageCheck"]],
      ∀ key ∈ keys, JsString.toLowerCase key ∉ d.overviewKeys := by
    cases d <;> first | exact absurd rfl other | decide +kernel
  have number {keys : List String} (known : keys ∈ [["salesAmount"], ["previousSalesAmount"],
      ["salesChangePercent"], ["lastOrderDate"], ["lastOrderAmount"], ["averageCheck"]]) :=
    overview_number js differ (seen keys known)
  exact ⟨number (by decide), number (by decide), number (by decide),
    overview_text js differ (seen _ (by decide)), number (by decide), number (by decide)⟩

end

theorem card_documents {requestedGuid : String} {organizationGuid : Option String}
    {permissions : CardPermissions} {now : String} {card : CardBootstrap}
    (made : mapCardRoot js root requestedGuid organizationGuid permissions now = some card)
    (hidden : permissions.viewFinance = false) : card.financialDocuments = [] := by
  obtain ⟨name, _, rfl⟩ := Option.map_eq_some_iff.mp made
  simp only [hidden, allowed]
  rfl

theorem summary_same (differ : DifferOnlyIn d root root') (other : d ≠ .finance)
    (documents : List FinancialDocument) :
    mapFinancialDocumentsSummary js root documents =
      mapFinancialDocumentsSummary js root' documents := by
  have seen := lookups_visible other
    ["financialDocumentsSummary", "financeDocumentsSummary", "documentsSummary"] (by decide)
  have same := congrArg (fun root => objectOf root
    ["financialDocumentsSummary", "financeDocumentsSummary", "documentsSummary"]) differ
  simp only [objectOf_redact seen] at same
  rw [mapFinancialDocumentsSummary, same, mapFinancialDocumentsSummary]

/-- Two cards of one payload without the protected data, with the overviews and the summaries
put back. -/
theorem scoped_eq_iff (card : CardBootstrap) (organizationGuid : Option String)
    (a b : CardOverview) (n m : FinancialDocumentsSummary) (status : a.status = b.status) :
    scopeCardToRequestedOrganization
        { card with overview := a, financialDocumentsSummary := n } organizationGuid =
      scopeCardToRequestedOrganization
        { card with overview := b, financialDocumentsSummary := m } organizationGuid ↔
      (isSet organizationGuid = true → SameFigures .finance a b ∧ n = m) ∧
        SameFigures .sales a b := by
  obtain ⟨a1, a2, a3, a4, a5, a6, a7, a8, a9, a10, a11⟩ := a
  obtain ⟨b1, b2, b3, b4, b5, b6, b7, b8, b9, b10, b11⟩ := b
  cases status
  unfold scopeCardToRequestedOrganization
  by_cases named : isSet organizationGuid = true
  · rw [if_pos named, if_pos named]
    simp only [CardBootstrap.mk.injEq, CardOverview.mk.injEq, SameFigures, named, true_and, and_true,
      forall_const]
    tauto
  · rw [if_neg named, if_neg named]
    simp only [CardBootstrap.mk.injEq, CardOverview.mk.injEq, SameFigures, named, true_and, and_true,
      IsEmpty.forall_iff, Bool.false_eq_true]

theorem cards_equal_iff {permissions : CardPermissions} (hidden : permissions.permits d = false)
    {payload payload' : Json} (differ : DifferOnlyIn d (unwrap js payload) (unwrap js payload'))
    (requestedGuid : String) (organizationGuid : Option String) (now : String) :
    counterpartyCard js payload requestedGuid organizationGuid permissions now =
        counterpartyCard js payload' requestedGuid organizationGuid permissions now ↔
      ((textOf js (objectOf (unwrap js payload) ["identity"]) ["name"]).isSome = true →
        SameOpenly js d organizationGuid (unwrap js payload) (unwrap js payload')) := by
  simp only [counterpartyCard, mapOnecCounterpartyCard]
  generalize unwrap js payload = root at differ
  generalize unwrap js payload' = root' at differ
  have named := objectOf_redact (openLookups_visible d ["identity"] (by decide)) root
  rw [card_of_redacted js hidden root, card_of_redacted js hidden root', ← differ, ← named]
  cases base : mapCardRoot js (root.map (redact d)) requestedGuid organizationGuid permissions now with
  | none =>
    have missing := Option.map_eq_none_iff.mp base
    rw [missing]
    exact iff_of_true rfl (fun here => by cases here)
  | some card =>
    have complete : (textOf js (objectOf (root.map (redact d)) ["identity"]) ["name"]).isSome = true := by
      obtain ⟨name, here, _⟩ := Option.map_eq_some_iff.mp base
      rw [here]
      rfl
    simp only [Option.map_some, Option.some.injEq, complete, forall_const]
    rw [scoped_eq_iff card organizationGuid _ _ _ _ (status_same js differ)]
    cases d with
    | finance =>
      rw [card_documents js base hidden]
      exact and_iff_left (sales_same js differ (by decide))
    | sales =>
      have summary := summary_same js differ (by decide) card.financialDocuments
      exact and_iff_right (fun _ => ⟨debt_same js differ (by decide), summary⟩)
    | contacts =>
      have summary := summary_same js differ (by decide) card.financialDocuments
      exact iff_of_true ⟨fun _ => ⟨debt_same js differ (by decide), summary⟩,
        sales_same js differ (by decide)⟩ True.intro

end Card

end LeaderProduct
