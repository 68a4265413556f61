import Mathlib.Data.Rat.Floor
import LeaderProduct.JsString
import LeaderProduct.Order

/-! The card of a counterparty, mapped from the answer of 1C for a user with some permissions. -/
namespace LeaderProduct

section Payload

inductive Json where
  | null
  | bool (value : Bool)
  | number (value : Rat)
  | string (text : String)
  | array (items : List Json)
  | object (entries : List (String × Json))

abbrev RecordValue := List (String × Json)

structure JsConversions where
  stringOf : Json → String
  numberOf : String → Option Rat
  parse : String → Option Json
  toLocaleLowerCase : String → String
  lower_empty : toLocaleLowerCase "" = ""
  isLetterOrNumber : Char → Bool

/-- Conversions of no more than texts, in the two alphabets of the application. -/
def JsConversions.ofTexts : JsConversions where
  stringOf _ := ""
  numberOf _ := none
  parse _ := none
  toLocaleLowerCase := JsString.toLowerCase
  lower_empty := rfl
  isLetterOrNumber c := c.isAlphanum || (0x400 ≤ c.toNat && c.toNat ≤ 0x45f)

def record : Json → Option RecordValue
  | .object entries => some entries
  | _ => none

def ownEntry (entries : RecordValue) (key : String) : Option (String × Json) :=
  (entries.find? (fun entry => entry.1 == key)).or
    (entries.find? (fun entry => JsString.toLowerCase entry.1 == JsString.toLowerCase key))

/-- The first of the keys that the record has. -/
def value (source : Option RecordValue) (keys : List String) : Option Json :=
  source.bind (fun entries => keys.findSome? (fun key => (ownEntry entries key).map (·.2)))

def objectOf (source : Option RecordValue) (keys : List String) : Option RecordValue :=
  (value source keys).bind record

def arrayOf (source : Option RecordValue) (keys : List String) : List Json :=
  match value source keys with
  | some (.array items) => items
  | _ => []

variable (js : JsConversions)

def textOr (source : Option RecordValue) (keys : List String) (fallback : Option String) :
    Option String :=
  match value source keys with
  | none | some .null => fallback
  | some candidate =>
    let normalized := JsString.trim (match candidate with
      | .string text => text
      | other => js.stringOf other)
    if normalized = "" then fallback else some normalized

def textOf (source : Option RecordValue) (keys : List String) : Option String :=
  textOr js source keys none

def firstCommaToDot : List Char → List Char
  | [] => []
  | c :: rest => if c = ',' then '.' :: rest else c :: firstCommaToDot rest

def numberOrNull (source : Option RecordValue) (keys : List String) : Option Rat :=
  match value source keys with
  | some (.number n) => some n
  | some (.string text) =>
    if JsString.trim text = "" then none
    else js.numberOf (String.ofList (firstCommaToDot (JsString.removeSpaces text).toList))
  | _ => none

def roundedToOneDecimal (n : Option Rat) : Option Rat :=
  n.map (fun n => (((n + 1 / 2 ^ 52) * 10 + 1 / 2).floor : Rat) / 10)

def booleanOrNull (source : Option RecordValue) (keys : List String) : Option Bool :=
  match value source keys with
  | some (.bool b) => some b
  | some (.number n) => some (decide (n ≠ 0))
  | some (.string text) =>
    let normalized := JsString.toLowerCase (JsString.trim text)
    if ["true", "1", "yes", "истина"].contains normalized then some true
    else if ["false", "0", "no", "ложь"].contains normalized then some false
    else none
  | _ => none

def underscored (text : List Char) (inRun : Bool) : List Char :=
  match text with
  | [] => []
  | c :: rest =>
    if JsString.isSpace c || c == '-' then
      if inRun then underscored rest true else '_' :: underscored rest true
    else c :: underscored rest false

def codeName (raw : String) : String := String.ofList (underscored raw.toList false)

def labelled (labels : List (String × String)) (code raw : String) : String :=
  (labels.lookup code).getD raw

def humanOrderStatus (raw : Option String) : Option String :=
  raw.bind (fun raw =>
    if raw = "" then none
    else some (labelled [("shipment_pr", "В процессе отгрузки"), ("shipment", "К отгрузке"),
      ("to_shipment", "К отгрузке"), ("closed", "Закрыт"), ("draft", "Черновик"),
      ("cancelled", "Отменён"), ("canceled", "Отменён"), ("has_debt", "Есть долг"),
      ("overdue", "Есть просрочка"), ("shipment_prohibited", "Отгрузка запрещена"),
      ("ok", "Долга нет"), ("normal", "Долга нет")]
      (codeName (JsString.toLowerCase (JsString.trim raw))) raw))

def paymentTypeLabel (code : Option String) : Option String :=
  code.bind (fun code =>
    if code = "" then none
    else some (labelled [("BANK_RECEIPT", "Поступление на банковский счёт"),
      ("BANK_RECIEPT", "Поступление на банковский счёт"), ("CASH_RECEIPT", "Поступление наличных"),
      ("ACQUIRING_RECEIPT", "Оплата платёжной картой"), ("CARD_RECEIPT", "Оплата платёжной картой"),
      ("PAYMENT_CARD_RECEIPT", "Оплата платёжной картой"),
      ("BANK_REFUND", "Возврат на банковский счёт"), ("CASH_REFUND", "Возврат наличными"),
      ("ACQUIRING_REFUND", "Возврат на платёжную карту"), ("REFUND", "Возврат клиенту")]
      (codeName (JsString.toUpperCase (JsString.trim code))) code))

def periodPresetOrNull (source : Option RecordValue) : Option String :=
  (textOf js source ["periodPreset", "period"]).bind (fun candidate =>
    let normalized := if candidate = "half-year" then "halfYear" else candidate
    if ["week", "month", "quarter", "halfYear", "year", "custom"].contains normalized then
      some normalized
    else none)

inductive SectionAvailability where
  | available | forbidden | unavailable
  deriving DecidableEq, Repr

def sectionAvailability (sections : Option RecordValue) (keys : List String)
    (fallback : SectionAvailability) : SectionAvailability :=
  match objectOf sections keys with
  | none => fallback
  | some found =>
    let explicit := (textOf js (some found) ["status", "availability"]).map JsString.toLowerCase
    if explicit = some "available" then .available
    else if explicit = some "forbidden" then .forbidden
    else if explicit = some "unavailable" then .unavailable
    else match booleanOrNull (some found) ["available"] with
      | some true => .available
      | some false => .unavailable
      | none => fallback

def unwrapFrom : Nat → Option RecordValue → Option RecordValue
  | 0, current => current
  | depth + 1, current =>
    match current with
    | none => none
    | some _ =>
      match value current ["item", "data", "result", "body"] with
      | some (.string text) =>
        match js.parse text with
        | some parsed => unwrapFrom depth (record parsed)
        | none => current
      | some (.object entries) => unwrapFrom depth (some entries)
      | _ => current

def unwrap (payload : Json) : Option RecordValue := unwrapFrom js 4 (record payload)

end Payload

section Sections

structure FinanceSummary where
  debtTotal : Option Rat
  overdueDebt : Option Rat
  notDueDebt : Option Rat
  prepayment : Option Rat
  creditLimit : Option Rat
  availableCreditLimit : Option Rat
  creditLimitExceeded : Option Bool
  shipmentProhibited : Option Bool
  shipmentProhibitionReason : Option String
  currency : Option String
  nearestPaymentDate : Option String
  nearestPaymentAmount : Option Rat
  maxOverdueDays : Option Rat
  paymentTermDays : Option Rat
  paymentTermSource : Option String
  agreementGuid : Option String
  agreementName : Option String

structure SalesChartPoint where
  periodFrom : Option String
  periodTo : Option String
  label : Option String
  salesAmount : Option Rat
  ordersCount : Option Rat
  salesDocumentsCount : Option Rat
  profit : Option Rat
  profitabilityPercent : Option Rat

structure SalesSummary where
  periodPreset : Option String
  chartGranularity : Option String
  periodFrom : Option String
  periodTo : Option String
  compareFrom : Option String
  compareTo : Option String
  salesAmount : Option Rat
  previousSalesAmount : Option Rat
  salesChangePercent : Option Rat
  profit : Option Rat
  profitabilityPercent : Option Rat
  previousProfit : Option Rat
  previousProfitabilityPercent : Option Rat
  comparisonAvailable : Option Bool
  comparisonUnavailableReason : Option String
  dataReliableFrom : Option String
  ordersCount : Option Rat
  averageCheck : Option Rat
  lastOrderDate : Option String
  lastOrderAmount : Option Rat
  daysSinceLastOrder : Option Rat
  averageOrderIntervalDays : Option Rat
  orderFrequencyDays : Option Rat
  currency : Option String
  chartSeries : List SalesChartPoint
  comparisonChartSeries : List SalesChartPoint

structure CommercialTerms where
  agreementGuid : Option String
  agreementName : Option String
  contractGuid : Option String
  contractName : Option String
  priceTypeGuid : Option String
  priceTypeName : Option String
  currency : Option String
  paymentForm : Option String
  paymentTerms : Option String
  deliveryMethod : Option String
  deliveryTerms : Option String

structure RecentOrder where
  guid : String
  number : Option String
  date : Option String
  shipmentDate : Option String
  status : Option String
  amount : Option Rat
  currency : Option String
  itemsCount : Option Rat

structure OrganizationSummary where
  guid : String
  name : String

structure IncomingPayment where
  guid : String
  number : Option String
  date : Option String
  amount : Option Rat
  currency : Option String
  typeCode : Option String
  typeLabel : Option String
  organizationGuid : Option String
  organizationName : Option String

inductive FinancialDocumentStatus where
  | overdue | expected | awaitingShipment | paid
  deriving DecidableEq, Repr

structure UpcomingPayment where
  guid : String
  number : Option String
  date : Option String
  dueDate : Option String
  amount : Option Rat
  currency : Option String
  status : FinancialDocumentStatus
  overdueDays : Rat

structure PaymentDiscipline where
  available : Bool
  periodFrom : Option String
  periodTo : Option String
  settledDocumentsCount : Rat
  overdueDocumentsCount : Rat
  paidOnTimePercent : Option Rat
  averageDelayDays : Option Rat
  totalSettledAmount : Rat
  onTimeSettledAmount : Rat
  currency : Option String

structure FinancialDocument where
  documentGuid : String
  documentTypeCode : Option String
  documentTypeName : Option String
  number : Option String
  date : Option String
  status : Option FinancialDocumentStatus
  dueDate : Option String
  shipmentDate : Option String
  daysOverdue : Option Rat
  daysRemaining : Option Rat
  outstandingAmount : Option Rat
  amount : Option Rat
  currency : Option String
  organizationGuid : Option String
  organizationName : Option String

structure FinancialDocumentsSummary where
  totalCount : Rat
  overdueCount : Rat
  pendingCount : Rat
  awaitingShipmentCount : Rat

structure CardContact where
  kindCode : Option String
  label : Option String
  value : String
  addressType : Option String
  isPrimary : Bool

end Sections

section Mappers
variable (js : JsConversions)

def availableSource (source : Option RecordValue) : Option RecordValue :=
  source.filter (fun found => booleanOrNull (some found) ["available"] ≠ some false)

def mapFinance (source : Option RecordValue) : Option FinanceSummary :=
  (availableSource source).map (fun found =>
    let source := some found
    { debtTotal := numberOrNull js source ["debtTotal"]
      overdueDebt := numberOrNull js source ["overdueDebt"]
      notDueDebt := numberOrNull js source ["notDueDebt"]
      prepayment := numberOrNull js source ["prepayment"]
      creditLimit := numberOrNull js source ["creditLimit"]
      availableCreditLimit := numberOrNull js source ["availableCreditLimit"]
      creditLimitExceeded := booleanOrNull source ["creditLimitExceeded"]
      shipmentProhibited := booleanOrNull source ["shipmentProhibited"]
      shipmentProhibitionReason := textOf js source ["shipmentProhibitionReason"]
      currency := textOf js source ["currency"]
      nearestPaymentDate := textOf js source ["nearestPaymentDate"]
      nearestPaymentAmount := numberOrNull js source ["nearestPaymentAmount"]
      maxOverdueDays := numberOrNull js source ["maxOverdueDays"]
      paymentTermDays := numberOrNull js source ["paymentTermDays"]
      paymentTermSource := textOf js source ["paymentTermSource", "paymentTermsSource"]
      agreementGuid := textOf js source ["agreementGuid"]
      agreementName := textOf js source ["agreementName"] })

def mapChartSeries (source : Option RecordValue) (keys : List String) : List SalesChartPoint :=
  (arrayOf source keys).filterMap (fun candidate => (record candidate).map (fun point =>
    let point := some point
    { periodFrom := textOf js point ["periodFrom", "dateFrom"]
      periodTo := textOf js point ["periodTo", "dateTo", "date"]
      label := textOf js point ["label"]
      salesAmount := numberOrNull js point ["salesAmount", "amount"]
      ordersCount := numberOrNull js point ["ordersCount", "salesDocumentsCount"]
      salesDocumentsCount := numberOrNull js point ["salesDocumentsCount", "ordersCount"]
      profit := numberOrNull js point ["profit", "grossProfit", "margin"]
      profitabilityPercent :=
        numberOrNull js point ["profitabilityPercent", "marginPercent", "profitability"] }))

def mapSales (source : Option RecordValue) : Option SalesSummary :=
  (availableSource source).map (fun found =>
    let source := some found
    { periodPreset := periodPresetOrNull js source
      chartGranularity := textOf js source ["chartGranularity"]
      periodFrom := textOf js source ["periodFrom"]
      periodTo := textOf js source ["periodTo"]
      compareFrom := textOf js source ["compareFrom"]
      compareTo := textOf js source ["compareTo"]
      salesAmount := numberOrNull js source ["salesAmount"]
      previousSalesAmount := numberOrNull js source ["previousSalesAmount"]
      salesChangePercent := numberOrNull js source ["salesChangePercent"]
      profit := numberOrNull js source ["profit", "grossProfit", "margin"]
      profitabilityPercent :=
        numberOrNull js source ["profitabilityPercent", "marginPercent", "profitability"]
      previousProfit := numberOrNull js source ["previousProfit", "compareProfit", "priorProfit"]
      previousProfitabilityPercent := numberOrNull js source
        ["previousProfitabilityPercent", "previousProfitability", "compareProfitabilityPercent",
          "priorProfitabilityPercent"]
      comparisonAvailable := booleanOrNull source ["comparisonAvailable", "compareAvailable"]
      comparisonUnavailableReason := textOf js source
        ["comparisonUnavailableReason", "comparisonReason", "compareUnavailableReason"]
      dataReliableFrom := textOf js source ["dataReliableFrom", "reliableDataFrom"]
      ordersCount := numberOrNull js source ["ordersCount"]
      averageCheck := numberOrNull js source ["averageCheck"]
      lastOrderDate := textOf js source ["lastOrderDate"]
      lastOrderAmount := numberOrNull js source ["lastOrderAmount"]
      daysSinceLastOrder := numberOrNull js source ["daysSinceLastOrder"]
      averageOrderIntervalDays :=
        roundedToOneDecimal (numberOrNull js source ["averageOrderIntervalDays"])
      orderFrequencyDays := roundedToOneDecimal
        (numberOrNull js source ["orderFrequencyDays", "averageOrderIntervalDays"])
      currency := textOf js source ["currency"]
      chartSeries := mapChartSeries js source ["chartSeries", "series"]
      comparisonChartSeries := mapChartSeries js source
        ["comparisonChartSeries", "compareSeries", "previousChartSeries"] })

def mapTerms (source : Option RecordValue) : Option CommercialTerms :=
  (availableSource source).map (fun found =>
    let source := some found
    { agreementGuid := textOf js source ["agreementGuid"]
      agreementName := textOf js source ["agreementName"]
      contractGuid := textOf js source ["contractGuid"]
      contractName := textOf js source ["contractName"]
      priceTypeGuid := textOf js source ["priceTypeGuid"]
      priceTypeName := textOf js source ["priceTypeName"]
      currency := textOf js source ["currency"]
      paymentForm := textOf js source ["paymentForm"]
      paymentTerms := textOf js source ["paymentTerms"]
      deliveryMethod := textOf js source ["deliveryMethod"]
      deliveryTerms := textOf js source ["deliveryTerms"] })

def namedItems {B : Type} (items : List Json) (keys : List String)
    (map : Option RecordValue → String → B) : List B :=
  items.filterMap (fun candidate => (record candidate).bind (fun item =>
    (textOf js (some item) keys).map (map (some item))))

def mapOrders (source : Option RecordValue) : List RecentOrder :=
  namedItems js (arrayOf source ["recentOrders", "orders"]) ["guid", "orderGuid"] (fun item guid =>
    { guid := guid
      number := textOf js item ["number"]
      date := textOf js item ["date"]
      shipmentDate := textOf js item ["shipmentDate"]
      status := humanOrderStatus (textOf js item ["status", "statusCode"])
      amount := numberOrNull js item ["amount"]
      currency := textOf js item ["currency"]
      itemsCount := numberOrNull js item ["itemsCount"] })

def setOrganization (unique : List (String × OrganizationSummary))
    (organization : OrganizationSummary) : List (String × OrganizationSummary) :=
  let key := JsString.toLowerCase organization.guid
  if unique.any (fun entry => entry.1 == key) then
    unique.map (fun entry => if entry.1 == key then (key, organization) else entry)
  else unique ++ [(key, organization)]

def mapOrganizations (root context : Option RecordValue) : List OrganizationSummary :=
  let candidates := arrayOf root ["organizationOptions"] ++
    arrayOf context ["organizationOptions", "availableOrganizations"]
  let organizations := candidates.filterMap (fun candidate =>
    (textOf js (record candidate) ["guid", "organizationGuid"]).bind (fun guid =>
      (textOf js (record candidate) ["name", "organizationName"]).map (fun name =>
        (⟨guid, name⟩ : OrganizationSummary))))
  (organizations.foldl setOrganization []).map (·.2)

def mapIncomingPayments (root : Option RecordValue) : List IncomingPayment :=
  namedItems js (arrayOf root ["incomingPayments", "payments", "receipts"])
    ["guid", "paymentGuid", "documentGuid"] (fun item guid =>
      let typeCode := textOf js item ["typeCode", "type", "documentType"]
      { guid := guid
        number := textOf js item ["number", "documentNumber"]
        date := textOf js item ["date", "documentDate"]
        amount := numberOrNull js item ["amount"]
        currency := textOf js item ["currency"]
        typeCode := typeCode
        typeLabel := (textOf js item ["typeLabel"]).or
          ((textOf js item ["documentTypeLabel", "documentTypeName"]).or (paymentTypeLabel typeCode))
        organizationGuid := textOf js item ["organizationGuid"]
        organizationName := textOf js item ["organizationName"] })

def mapUpcomingPayments (root : Option RecordValue) : List UpcomingPayment :=
  namedItems js (arrayOf root ["upcomingPayments", "scheduledPayments", "nearestPayments"])
    ["guid", "documentGuid", "paymentGuid"] (fun item guid =>
      { guid := guid
        number := textOf js item ["number", "documentNumber"]
        date := textOf js item ["date", "documentDate"]
        dueDate := textOf js item ["dueDate", "paymentDate", "dateDue"]
        amount := numberOrNull js item ["amount", "paymentAmount"]
        currency := textOf js item ["currency"]
        status :=
          if (textOr js item ["status"] (some "EXPECTED")).map JsString.toUpperCase = some "OVERDUE"
          then .overdue else .expected
        overdueDays := max 0 ((numberOrNull js item ["overdueDays", "daysOverdue"]).getD 0) })

def mapPaymentDiscipline (root : Option RecordValue) : Option PaymentDiscipline :=
  (availableSource (objectOf root ["paymentDiscipline", "discipline"])).map (fun found =>
    let source := some found
    { available := true
      periodFrom := textOf js source ["periodFrom"]
      periodTo := textOf js source ["periodTo"]
      settledDocumentsCount :=
        max 0 ((numberOrNull js source ["settledDocumentsCount", "documentsCount"]).getD 0)
      overdueDocumentsCount := max 0 ((numberOrNull js source ["overdueDocumentsCount"]).getD 0)
      paidOnTimePercent := numberOrNull js source ["paidOnTimePercent", "onTimePercent"]
      averageDelayDays := numberOrNull js source ["averageDelayDays", "averageOverdueDays"]
      totalSettledAmount := (numberOrNull js source ["totalSettledAmount"]).getD 0
      onTimeSettledAmount := (numberOrNull js source ["onTimeSettledAmount"]).getD 0
      currency := textOf js source ["currency"] })

def legacyDocument (item : UpcomingPayment) : FinancialDocument where
  documentGuid := item.guid
  documentTypeCode := none
  documentTypeName := none
  number := item.number
  date := item.date
  status := some item.status
  dueDate := item.dueDate
  shipmentDate := none
  daysOverdue := some item.overdueDays
  daysRemaining := none
  outstandingAmount := item.amount
  amount := item.amount
  currency := item.currency
  organizationGuid := none
  organizationName := none

def documentStatus (raw : Option String) : Option FinancialDocumentStatus :=
  raw.bind (fun raw => [("OVERDUE", FinancialDocumentStatus.overdue), ("EXPECTED", .expected),
    ("AWAITING_SHIPMENT", .awaitingShipment), ("PAID", .paid)].lookup (JsString.toUpperCase raw))

def mapFinancialDocuments (root : Option RecordValue)
    (legacyUpcomingPayments : List UpcomingPayment) : List FinancialDocument :=
  let sourceDocuments := arrayOf root ["financialDocuments", "financeDocuments"]
  if sourceDocuments.isEmpty then legacyUpcomingPayments.map legacyDocument
  else namedItems js sourceDocuments ["documentGuid", "guid", "paymentGuid"] (fun item guid =>
    { documentGuid := guid
      documentTypeCode := textOf js item ["documentTypeCode", "typeCode", "documentType", "type"]
      documentTypeName := textOf js item ["documentTypeName", "typeLabel", "documentTypeLabel"]
      number := textOf js item ["number", "documentNumber"]
      date := textOf js item ["date", "documentDate"]
      status := documentStatus (textOf js item ["status", "documentStatus"])
      dueDate := textOf js item ["dueDate", "paymentDate", "dateDue"]
      shipmentDate := textOf js item ["shipmentDate"]
      daysOverdue := numberOrNull js item ["daysOverdue", "overdueDays"]
      daysRemaining := numberOrNull js item ["daysRemaining", "remainingDays"]
      outstandingAmount := numberOrNull js item ["outstandingAmount", "debtAmount", "remainingAmount"]
      amount := numberOrNull js item ["amount", "documentAmount"]
      currency := textOf js item ["currency"]
      organizationGuid := textOf js item ["organizationGuid"]
      organizationName := textOf js item ["organizationName"] })

def mapFinancialDocumentsSummary (root : Option RecordValue) (documents : List FinancialDocument) :
    FinancialDocumentsSummary :=
  let counted (counts : FinancialDocument → Bool) : Rat := (documents.countP counts : Nat)
  let fallback : FinancialDocumentsSummary :=
    { totalCount := (documents.length : Nat)
      overdueCount := counted (fun item => item.status == some .overdue)
      pendingCount := counted (fun item =>
        item.status == some .expected || item.status == some .overdue)
      awaitingShipmentCount := counted (fun item => item.status == some .awaitingShipment) }
  match objectOf root ["financialDocumentsSummary", "financeDocumentsSummary", "documentsSummary"] with
  | none => fallback
  | some found =>
    let count (keys : List String) (missing : Rat) : Rat :=
      max 0 ((numberOrNull js (some found) keys).getD missing)
    { totalCount := count ["totalCount", "documentsCount"] fallback.totalCount
      overdueCount := count ["overdueCount", "overdueDocumentsCount"] fallback.overdueCount
      pendingCount :=
        count ["pendingCount", "paymentRequiredCount", "expectedCount"] fallback.pendingCount
      awaitingShipmentCount :=
        count ["awaitingShipmentCount", "shipmentPendingCount"] fallback.awaitingShipmentCount }

def mapContacts (source : Option RecordValue) : List CardContact :=
  namedItems js (arrayOf source ["contacts"]) ["value", "presentation"] (fun item value =>
    { kindCode := textOf js item ["kindCode", "kind", "type"]
      label := textOf js item ["label", "name"]
      value := value
      addressType := textOf js item ["addressType", "addressKind", "purpose"]
      isPrimary := (booleanOrNull item ["isPrimary", "primary"]).getD false })

end Mappers

section Card

structure CardPermissions where
  viewFinance : Bool
  viewSales : Bool
  viewContacts : Bool
  createOrder : Bool
  deriving DecidableEq, Repr

structure CardIdentity where
  counterpartyGuid : String
  name : String
  fullName : Option String
  inn : Option String
  kpp : Option String
  legalType : Option String
  partnerGuid : Option String
  partnerName : Option String
  isActive : Option Bool

structure CardContext where
  organizationGuid : Option String
  organizationName : Option String
  availableOrganizations : List OrganizationSummary
  managerGuid : Option String
  managerName : Option String
  regionGuid : Option String
  regionName : Option String
  zoneGuid : Option String
  zoneName : Option String

structure CardOverview where
  status : Option String
  debtTotal : Option Rat
  overdueDebt : Option Rat
  maxOverdueDays : Option Rat
  availableCreditLimit : Option Rat
  salesAmount : Option Rat
  previousSalesAmount : Option Rat
  salesChangePercent : Option Rat
  lastOrderDate : Option String
  lastOrderAmount : Option Rat
  averageCheck : Option Rat

structure CardAvailability where
  identity : SectionAvailability
  finance : SectionAvailability
  sales : SectionAvailability
  commercialTerms : SectionAvailability
  orders : SectionAvailability
  contacts : SectionAvailability
  organizationOptions : SectionAvailability
  payments : SectionAvailability
  upcomingPayments : SectionAvailability
  paymentDiscipline : SectionAvailability
  financialDocuments : SectionAvailability

structure CardBootstrap where
  identity : CardIdentity
  context : CardContext
  organizationOptions : List OrganizationSummary
  overview : CardOverview
  financeSummary : Option FinanceSummary
  salesSummary : Option SalesSummary
  commercialTerms : Option CommercialTerms
  recentOrders : List RecentOrder
  contacts : List CardContact
  incomingPayments : List IncomingPayment
  upcomingPayments : List UpcomingPayment
  paymentDiscipline : Option PaymentDiscipline
  financialDocuments : List FinancialDocument
  financialDocumentsSummary : FinancialDocumentsSummary
  permissions : CardPermissions
  availability : CardAvailability
  asOf : String
  stale : Bool
  sourceVersion : String

variable (js : JsConversions)

def allowed {B : Type} (permission : Bool) (mapped otherwise : B) : B :=
  if permission then mapped else otherwise

def statedOr {B : Type} (mapped : Option B) : SectionAvailability :=
  if mapped.isSome then .available else .unavailable

def mapOverview (overview : Option RecordValue) : CardOverview where
  status := humanOrderStatus (textOf js overview ["status", "statusCode"])
  debtTotal := numberOrNull js overview ["debtTotal"]
  overdueDebt := numberOrNull js overview ["overdueDebt"]
  maxOverdueDays := numberOrNull js overview ["maxOverdueDays"]
  availableCreditLimit := numberOrNull js overview ["availableCreditLimit"]
  salesAmount := numberOrNull js overview ["salesAmount"]
  previousSalesAmount := numberOrNull js overview ["previousSalesAmount"]
  salesChangePercent := numberOrNull js overview ["salesChangePercent"]
  lastOrderDate := textOf js overview ["lastOrderDate"]
  lastOrderAmount := numberOrNull js overview ["lastOrderAmount"]
  averageCheck := numberOrNull js overview ["averageCheck"]

/-- `mapOnecCounterpartyCard` of a payload that has been unwrapped; `none` where it throws. The
time of the answer is `now` where 1C gives none. -/
def mapCardRoot (root : Option RecordValue) (requestedGuid : String)
    (requestedOrganizationGuid : Option String) (permissions : CardPermissions) (now : String) :
    Option CardBootstrap :=
  let identity := objectOf root ["identity"]
  let context := objectOf root ["context"]
  let sections := objectOf root ["sections"]
  let finance := permissions.viewFinance
  let sales := permissions.viewSales
  let organizationOptions := mapOrganizations js root context
  (textOf js identity ["name"]).map (fun name =>
    let financeSummary := allowed finance (mapFinance js (objectOf root ["financeSummary", "finance"])) none
    let salesSummary := allowed sales (mapSales js (objectOf root ["salesSummary", "sales"])) none
    let commercialTerms := mapTerms js (objectOf root ["commercialTerms", "terms"])
    let upcomingPayments := allowed finance (mapUpcomingPayments js root) []
    let paymentDiscipline := allowed finance (mapPaymentDiscipline js root) none
    let financialDocuments := allowed finance (mapFinancialDocuments js root upcomingPayments) []
    { identity :=
        { counterpartyGuid :=
            (textOr js identity ["counterpartyGuid", "guid"] (some requestedGuid)).getD requestedGuid
          name := name
          fullName := textOf js identity ["fullName"]
          inn := textOf js identity ["inn"]
          kpp := textOf js identity ["kpp"]
          legalType := textOf js identity ["legalType"]
          partnerGuid := textOf js identity ["partnerGuid"]
          partnerName := textOf js identity ["partnerName"]
          isActive := booleanOrNull identity ["isActive"] }
      context :=
        { organizationGuid := textOr js context ["organizationGuid"] requestedOrganizationGuid
          organizationName := textOf js context ["organizationName"]
          availableOrganizations := organizationOptions
          managerGuid := textOf js context ["managerGuid"]
          managerName := textOf js context ["managerName"]
          regionGuid := textOf js context ["regionGuid"]
          regionName := textOf js context ["regionName"]
          zoneGuid := textOf js context ["zoneGuid"]
          zoneName := textOf js context ["zoneName"] }
      organizationOptions := organizationOptions
      overview := mapOverview js (objectOf root ["overview"])
      financeSummary := financeSummary
      salesSummary := salesSummary
      commercialTerms := commercialTerms
      recentOrders := allowed sales (mapOrders js root) []
      contacts := allowed permissions.viewContacts (mapContacts js root) []
      incomingPayments := allowed finance (mapIncomingPayments js root) []
      upcomingPayments := upcomingPayments
      paymentDiscipline := paymentDiscipline
      financialDocuments := financialDocuments
      financialDocumentsSummary := mapFinancialDocumentsSummary js root financialDocuments
      permissions := permissions
      availability :=
        { identity := sectionAvailability js sections ["identity"] .available
          finance := allowed finance
            (sectionAvailability js sections ["finance"] (statedOr financeSummary)) .forbidden
          sales := allowed sales
            (sectionAvailability js sections ["sales"] (statedOr salesSummary)) .forbidden
          commercialTerms := sectionAvailability js sections ["commercialTerms", "terms"]
            (statedOr commercialTerms)
          orders := allowed sales (sectionAvailability js sections ["orders"] .available) .forbidden
          contacts := allowed permissions.viewContacts
            (sectionAvailability js sections ["contacts"] .available) .forbidden
          organizationOptions := sectionAvailability js sections ["organizationOptions"]
            (if organizationOptions.isEmpty then .unavailable else .available)
          payments := allowed finance
            (sectionAvailability js sections ["payments", "incomingPayments"] .available) .forbidden
          upcomingPayments := allowed finance
            (sectionAvailability js sections ["upcomingPayments"] .available) .forbidden
          paymentDiscipline := allowed finance
            (sectionAvailability js sections ["paymentDiscipline"] (statedOr paymentDiscipline))
            .forbidden
          financialDocuments := allowed finance
            (sectionAvailability js sections ["financialDocuments", "financeDocuments"] .available)
            .forbidden }
      asOf := (textOr js root ["calculatedAt", "asOf"] (some now)).getD now
      stale := false
      sourceVersion :=
        (textOr js root ["sourceVersion"] (some "counterparty-card-v1")).getD "counterparty-card-v1" })

def mapOnecCounterpartyCard (payload : Json) (requestedGuid : String)
    (requestedOrganizationGuid : Option String) (permissions : CardPermissions) (now : String) :
    Option CardBootstrap :=
  mapCardRoot js (unwrap js payload) requestedGuid requestedOrganizationGuid permissions now

def unavailableUnlessForbidden (availability : SectionAvailability) : SectionAvailability :=
  if availability = .forbidden then .forbidden else .unavailable

def scopeCardToRequestedOrganization (card : CardBootstrap) (organizationGuid : Option String) :
    CardBootstrap :=
  if isSet organizationGuid then card
  else
    { card with
      overview := { card.overview with
        status := none
        debtTotal := none
        overdueDebt := none
        maxOverdueDays := none
        availableCreditLimit := none }
      financeSummary := none
      incomingPayments := []
      upcomingPayments := []
      paymentDiscipline := none
      financialDocuments := []
      financialDocumentsSummary := ⟨0, 0, 0, 0⟩
      commercialTerms := none
      availability := { card.availability with
        finance := unavailableUnlessForbidden card.availability.finance
        payments := unavailableUnlessForbidden card.availability.payments
        upcomingPayments := unavailableUnlessForbidden card.availability.upcomingPayments
        paymentDiscipline := unavailableUnlessForbidden card.availability.paymentDiscipline
        financialDocuments := unavailableUnlessForbidden card.availability.financialDocuments
        commercialTerms := .unavailable } }

end Card

section Permissions

def granularPermissionNames : List String :=
  ["view_counterparty_finance", "view_counterparty_sales", "view_counterparty_contacts",
    "create_client_order_from_counterparty"]

def counterpartyCardPermissions (permissionNames : List String) : CardPermissions :=
  let has (name : String) : Bool := permissionNames.contains name
  let legacyAccess := has "view_client_orders" && !granularPermissionNames.any has
  { viewFinance := legacyAccess || has "view_counterparty_finance"
    viewSales := legacyAccess || has "view_counterparty_sales"
    viewContacts := legacyAccess || has "view_counterparty_contacts"
    createOrder := has "create_client_order_from_counterparty" ||
      legacyAccess && has "manage_client_orders" }

def cardPermissions (roleName : Option String) (permissionNames : List String) : CardPermissions :=
  let role := (roleName.map (fun name => JsString.toLowerCase (JsString.trim name))).getD ""
  if ["admin", "administrator"].contains role then ⟨true, true, true, true⟩
  else counterpartyCardPermissions permissionNames

end Permissions

end LeaderProduct
