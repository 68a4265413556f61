import LeaderProduct.Order

/-! The invoices of realizations: how an item of 1C's queue becomes a row, and how a run of
the worker takes a row to the messengers. A row is named by its token, which is unique and
never changes. A run is its statements and calls in turn; each works on the row of its own
invoice and on that invoice's deliveries, and `Outside` is what the clock, 1C, the storage
and the messengers say to it. The texts of the documents and of the notes, and what
the acknowledgements tell 1C, are left out. -/
namespace LeaderProduct

inductive InvoiceState where
  | waiting | queued | sending | available | partialState | sent | error | superseded | cancelled
  deriving DecidableEq, Repr

def activeStates : List InvoiceState :=
  [.waiting, .queued, .sending, .available, .partialState, .error]

def retryableStates : List InvoiceState := [.queued, .sending, .partialState, .error]

def processableStates : List InvoiceState := retryableStates ++ [.available]

inductive OnecInvoiceState where
  | waiting | ready | queued | sending | stored | partialState | sent | error | cancelled
  deriving DecidableEq, Repr

structure InvoiceDetails where
  realizationNumber : Option String
  realizationDate : Option Instant
  paymentDueDate : Option Instant
  invoiceAmount : Option Rat
  currency : Option String
  counterpartyName : Option String
  organizationName : Option String
  orderNumber : Option String

structure QueueItem where
  appOrderGuid : String
  realizationGuid : String
  token : String
  state : OnecInvoiceState
  waitReason : Option String
  businessHash : Option String
  version : Int
  readyAt : Option Instant
  updatedAt : Option Instant
  details : InvoiceDetails

structure Invoice where
  orderId : Id
  realizationGuid : String
  details : InvoiceDetails
  businessHash : Option String
  version : Nat
  state : InvoiceState
  waitReason : Option String
  readyAt : Option Instant
  s3Key : Option String
  fileName : Option String
  contentType : Option String
  fileSize : Option Nat
  attempts : Nat
  nextAttemptAt : Option Instant
  leaseUntil : Option Instant
  lastError : Option String
  sentAt : Option Instant
  supersededAt : Option Instant
  onecUpdatedAt : Option Instant

abbrev InvoiceTable := String → Option Invoice

structure WorkerSettings where
  leaseMs : Nat
  stabilityMs : Nat
  backoffMs : Nat → Nat

def mapOnecState (item : QueueItem) : InvoiceState :=
  if item.state = .cancelled ∨ item.waitReason = some "REALIZATION_DELETED" then .cancelled
  else match item.state with
    | .waiting => .waiting
    | .ready | .queued => .queued
    | .sending => .sending
    | .stored => .available
    | .partialState => .partialState
    | .sent => .sent
    | .error => .error
    | .cancelled => .cancelled

def Leased (now : Instant) (invoice : Invoice) : Prop :=
  match invoice.leaseUntil with
  | some leaseUntil => now < leaseUntil
  | none => False

instance (now : Instant) (invoice : Invoice) : Decidable (Leased now invoice) := by
  unfold Leased
  cases invoice.leaseUntil <;> infer_instance

def effectiveReadyAt (item : QueueItem) (immediate : Bool) (now : Instant) : Option Instant :=
  if mapOnecState item = .queued ∧ immediate then some (min (item.readyAt.getD now) now)
  else item.readyAt

def replacedInvoice (now : Instant) (invoice : Invoice) : Invoice :=
  { invoice with
    state := .superseded
    supersededAt := some now
    leaseUntil := none
    lastError := some "Заменён более новой версией счёта" }

def supersedeOthers (orderId : Id) (item : QueueItem) (now : Instant) (table : InvoiceTable) :
    InvoiceTable := fun token =>
  (table token).map (fun invoice =>
    if invoice.orderId = orderId ∧ invoice.realizationGuid = item.realizationGuid ∧
        token ≠ item.token ∧ invoice.state ∈ activeStates then
      replacedInvoice now invoice
    else invoice)

def createdInvoice (settings : WorkerSettings) (orderId : Id) (item : QueueItem)
    (immediate : Bool) (now : Instant) : Invoice where
  orderId := orderId
  realizationGuid := item.realizationGuid
  details := item.details
  businessHash := item.businessHash
  version := item.version.toNat
  state := mapOnecState item
  waitReason := item.waitReason
  readyAt := (effectiveReadyAt item immediate now).or
    (if mapOnecState item = .queued then some (now + settings.stabilityMs) else none)
  s3Key := none
  fileName := none
  contentType := none
  fileSize := none
  attempts := 0
  nextAttemptAt := if mapOnecState item = .queued then some now else none
  leaseUntil := none
  lastError := none
  sentAt := none
  supersededAt := none
  onecUpdatedAt := item.updatedAt

def syncedState (item : QueueItem) (now : Instant) (current : Invoice) : InvoiceState :=
  if mapOnecState item = .cancelled then .cancelled
  else if current.state = .sent then current.state
  else if current.state = .sending ∧ Leased now current then current.state
  else mapOnecState item

def syncedInvoice (settings : WorkerSettings) (item : QueueItem) (immediate : Bool)
    (now : Instant) (current : Invoice) : Invoice :=
  let cancelled := mapOnecState item = .cancelled
  { current with
    details := item.details
    businessHash := item.businessHash
    version := item.version.toNat
    waitReason := item.waitReason
    readyAt := (effectiveReadyAt item immediate now).or
      (if mapOnecState item = .queued ∧ current.state = .waiting then
        some (now + settings.stabilityMs)
      else current.readyAt)
    onecUpdatedAt := item.updatedAt
    state := syncedState item now current
    supersededAt := if cancelled then some (current.supersededAt.getD now) else current.supersededAt
    leaseUntil := if cancelled then none else current.leaseUntil
    nextAttemptAt := if cancelled then none else current.nextAttemptAt }

def setRow (table : InvoiceTable) (token : String) (invoice : Invoice) : InvoiceTable :=
  fun t => if t = token then some invoice else table t

@[simp] theorem setRow_same (table : InvoiceTable) (token : String) (invoice : Invoice) :
    setRow table token invoice token = some invoice := if_pos rfl

@[simp] theorem setRow_other {table : InvoiceTable} {token t : String} {invoice : Invoice}
    (other : t ≠ token) : setRow table token invoice t = table t := if_neg other

def syncQueueItem (settings : WorkerSettings) (order : Option Id) (item : QueueItem)
    (immediate : Bool) (now : Instant) (table : InvoiceTable) : InvoiceTable :=
  if item.appOrderGuid = "" ∨ item.realizationGuid = "" ∨ item.token = "" then table
  else match order with
    | none => table
    | some orderId =>
      match table item.token with
      | none =>
        setRow (supersedeOthers orderId item now table) item.token
          (createdInvoice settings orderId item immediate now)
      | some current => setRow table item.token (syncedInvoice settings item immediate now current)

inductive DeliveryChannel where
  | telegram | max
  deriving DecidableEq, Repr

inductive DeliveryState where
  | pending | sending | sent | error | skipped
  deriving DecidableEq, Repr

structure InvoiceDelivery where
  state : DeliveryState
  attempts : Nat
  nextAttemptAt : Option Instant
  lastError : Option String
  sentAt : Option Instant

structure InvoiceUser where
  telegramId : Option Nat
  maxId : Option Nat
  telegramNotificationsEnabled : Option Bool
  maxNotificationsEnabled : Option Bool

structure InvoiceOrder where
  invoiceRequested : Bool
  createdByUser : Option InvoiceUser

structure Candidate where
  token : String
  businessHash : Option String
  state : OnecInvoiceState

structure StoredPdf where
  s3Key : String
  fileName : String
  contentType : String
  fileSize : Nat

structure InvoicePdf where
  isPdf : Bool
  stored : StoredPdf

structure Outside where
  now : Instant
  order : InvoiceOrder
  validation : Except String (Option Candidate)
  pdf : Except String InvoicePdf
  validationAfter : Except String (Option Candidate)
  call : Except String Unit

structure DeliveryContext where
  enabled : Bool
  recipient : Option Nat
  disabledReason : String

def deliveryContext (user : InvoiceUser) : DeliveryChannel → DeliveryContext
  | .telegram =>
    { enabled := user.telegramNotificationsEnabled.getD true
      recipient := user.telegramId
      disabledReason :=
        if user.telegramId.getD 0 ≠ 0 then "Уведомления Telegram отключены"
        else "Telegram не привязан" }
  | .max =>
    { enabled := user.maxNotificationsEnabled.getD true
      recipient := user.maxId
      disabledReason :=
        if user.maxId.getD 0 ≠ 0 then "Уведомления MAX отключены" else "MAX не привязан" }

def eligible (user : InvoiceUser) (channel : DeliveryChannel) : Bool :=
  (deliveryContext user channel).enabled && (deliveryContext user channel).recipient.isSome

def sameCandidate (token : String) (businessHash : Option String) : Option Candidate → Bool
  | some actual =>
    actual.token == token && actual.businessHash == businessHash &&
      [.ready, .queued, .partialState, .sending, .stored].contains actual.state
  | none => false

inductive DeliveryResult where
  | sent | skipped | error
  deriving DecidableEq, Repr

def channels : List DeliveryChannel := [.telegram, .max]

def finalState (user : InvoiceUser) (results : DeliveryChannel → DeliveryResult) : InvoiceState :=
  let eligibleResults := (channels.filter (eligible user)).map results
  let sentCount := eligibleResults.count .sent
  let failedCount := eligibleResults.count .error
  if eligibleResults.length = 0 then
    if DeliveryResult.sent ∈ channels.map results then .sent else .error
  else if failedCount = 0 ∧ sentCount = eligibleResults.length then .sent
  else if 0 < sentCount then .partialState
  else .error

def finalError (user : InvoiceUser) (results : DeliveryChannel → DeliveryResult) : Option String :=
  let eligibleResults := (channels.filter (eligible user)).map results
  let skippedReasons := (channels.filter (fun channel => results channel == .skipped)).map
    (fun channel => (deliveryContext user channel).disabledReason)
  if finalState user results = .sent then none
  else some ("; ".intercalate (skippedReasons ++
    [if 0 < eligibleResults.count .error then "Не все каналы приняли счёт"
      else "Нет доступных каналов доставки"]))

inductive DeliveryStage where
  | upserting
  | skipping
  | rechecking (existing : InvoiceDelivery)
  | validating (existing : InvoiceDelivery) (businessHash : Option String)
  | marking (existing : InvoiceDelivery)
  | sendingDocument (existing : InvoiceDelivery)
  | recording (existing : InvoiceDelivery)
  | sendingNote (existing : InvoiceDelivery)
  | delivered
  | failed (existing : InvoiceDelivery) (message : String)

/-- Where a run of `processInvoice` stands; `invoice` is the row as it was read after the
claim. `telegram` is the result of the first channel once the second one is on. -/
inductive RunPhase where
  | claiming
  | claimed
  | loaded (invoice : Invoice) (order : InvoiceOrder)
  | superseding
  | storing (invoice : Invoice) (order : InvoiceOrder) (pdf : StoredPdf)
  | refreshing (invoice : Invoice) (order : InvoiceOrder)
  | makingAvailable (invoice : Invoice)
  | downloading (invoice : Invoice) (order : InvoiceOrder)
  | delivering (invoice : Invoice) (user : InvoiceUser) (telegram : Option DeliveryResult)
      (stage : DeliveryStage)
  | finishing (invoice : Invoice) (user : InvoiceUser) (results : DeliveryChannel → DeliveryResult)
  | acking (invoice : Invoice)
  | failing (invoice : Invoice) (message : String)
  | returned

/-- One statement or call: the phase it leads to, and what it writes to the invoice, writes
to one of its deliveries, and hands to a messenger. -/
structure Effect where
  next : RunPhase
  invoice : Invoice → Invoice := id
  delivery : DeliveryChannel → Option InvoiceDelivery → Option InvoiceDelivery :=
    fun _ delivery => delivery
  document : Option DeliveryChannel := none

def Claimable (now : Instant) (invoice : Invoice) : Prop :=
  invoice.state ∈ processableStates ∧ ¬Leased now invoice

instance (now : Instant) (invoice : Invoice) : Decidable (Claimable now invoice) :=
  inferInstanceAs (Decidable (_ ∧ _))

def claimedInvoice (settings : WorkerSettings) (now : Instant) (invoice : Invoice) : Invoice :=
  if Claimable now invoice then
    { invoice with
      state := .sending
      leaseUntil := some (now + settings.leaseMs)
      attempts := invoice.attempts + 1
      lastError := none }
  else invoice

def markSuperseded (now : Instant) (invoice : Invoice) : Invoice :=
  { invoice with
    state := .superseded
    supersededAt := some now
    leaseUntil := none
    lastError := some "Кандидат счёта устарел до отправки" }

def storedInvoice (pdf : StoredPdf) (invoice : Invoice) : Invoice :=
  { invoice with
    s3Key := some pdf.s3Key
    fileName := some pdf.fileName
    contentType := some pdf.contentType
    fileSize := some pdf.fileSize }

def availableInvoice (invoice : Invoice) : Invoice :=
  { invoice with
    state := .available
    waitReason := none
    lastError := none
    leaseUntil := none
    nextAttemptAt := none }

def finalInvoice (settings : WorkerSettings) (attempts : Nat) (user : InvoiceUser)
    (results : DeliveryChannel → DeliveryResult) (now : Instant) (invoice : Invoice) : Invoice :=
  let sent := finalState user results = .sent
  { invoice with
    state := finalState user results
    waitReason := finalError user results
    lastError := finalError user results
    sentAt := if sent then some now else none
    leaseUntil := none
    nextAttemptAt := if sent then none else some (now + settings.backoffMs (attempts + 1)) }

def failedInvoice (settings : WorkerSettings) (attempts : Nat) (message : String) (now : Instant)
    (invoice : Invoice) : Invoice :=
  if invoice.state = .superseded then invoice
  else
    { invoice with
      state := .error
      lastError := some message
      leaseUntil := none
      nextAttemptAt := some (now + settings.backoffMs (attempts + 1)) }

/-- The error handler of `processInvoice`; the failure of its acknowledgement is swallowed. -/
def caught (invoice : Invoice) (message : String) : RunPhase :=
  if message = "INVOICE_SUPERSEDED" then .returned else .failing invoice message

/-- The calls of `ensurePdf` before it stores the PDF; none when the candidate is outdated. -/
def ensurePdf (o : Outside) (token : String) (invoice : Invoice) :
    Except String (Option StoredPdf) := do
  if !sameCandidate token invoice.businessHash (← o.validation) then return none
  let pdf ← o.pdf
  if !pdf.isPdf then throw "1C returned an invalid invoice PDF"
  if !sameCandidate token invoice.businessHash (← o.validationAfter) then return none
  o.call
  return some pdf.stored

def currentChannel : Option DeliveryResult → DeliveryChannel
  | none => .telegram
  | some _ => .max

def channelDone (invoice : Invoice) (user : InvoiceUser) (telegram : Option DeliveryResult)
    (result : DeliveryResult) : RunPhase :=
  match telegram with
  | none => .delivering invoice user (some result) .upserting
  | some first => .finishing invoice user (fun
    | .telegram => first
    | .max => result)

def writeDelivery (channel : DeliveryChannel) (write : InvoiceDelivery → InvoiceDelivery) :
    DeliveryChannel → Option InvoiceDelivery → Option InvoiceDelivery :=
  fun c stored => if c = channel then stored.map write else stored

def deliverChannel (settings : WorkerSettings) (o : Outside) (token : String)
    (row : Option Invoice) (delivery : Option InvoiceDelivery) (invoice : Invoice)
    (user : InvoiceUser) (telegram : Option DeliveryResult) : DeliveryStage → Effect
  | .upserting =>
    let existing := delivery.getD ⟨.pending, 0, none, none, none⟩
    { next :=
        if existing.state = .sent then channelDone invoice user telegram .sent
        else if !eligible user (currentChannel telegram) then
          .delivering invoice user telegram .skipping
        else if (existing.nextAttemptAt.map (fun due => decide (o.now < due))).getD false then
          channelDone invoice user telegram .error
        else .delivering invoice user telegram (.rechecking existing)
      delivery := fun c stored => if c = currentChannel telegram then some existing else stored }
  | .skipping =>
    { next := channelDone invoice user telegram .skipped
      delivery := writeDelivery (currentChannel telegram) (fun d =>
        { d with
          state := .skipped
          lastError := some (deliveryContext user (currentChannel telegram)).disabledReason }) }
  | .rechecking existing =>
    { next := match row with
        | some current =>
          .delivering invoice user telegram (.validating existing current.businessHash)
        | none => .returned }
  | .validating existing businessHash =>
    { next := match o.validation with
        | .error message => caught invoice message
        | .ok actual =>
          if sameCandidate token businessHash actual then
            .delivering invoice user telegram (.marking existing)
          else .superseding }
  | .marking existing =>
    { next := .delivering invoice user telegram
        (if existing.sentAt.isSome then .sendingNote existing else .sendingDocument existing)
      delivery := writeDelivery (currentChannel telegram) (fun d =>
        { d with state := .sending, attempts := d.attempts + 1, lastError := none }) }
  | .sendingDocument existing =>
    match o.call with
    | .error message =>
      { next := .delivering invoice user telegram (.failed existing message) }
    | .ok () =>
      { next := .delivering invoice user telegram (.recording existing)
        document := some (currentChannel telegram) }
  | .recording existing =>
    { next := .delivering invoice user telegram (.sendingNote existing)
      delivery := writeDelivery (currentChannel telegram) (fun d =>
        { d with sentAt := some o.now, nextAttemptAt := none, lastError := none }) }
  | .sendingNote existing =>
    { next := .delivering invoice user telegram (match o.call with
        | .error message => .failed existing message
        | .ok () => .delivered) }
  | .delivered =>
    { next := channelDone invoice user telegram .sent
      delivery := writeDelivery (currentChannel telegram) (fun d =>
        { d with state := .sent, sentAt := some o.now, nextAttemptAt := none, lastError := none }) }
  | .failed existing message =>
    { next := channelDone invoice user telegram .error
      delivery := writeDelivery (currentChannel telegram) (fun d =>
        { d with
          state := .error
          lastError := some message
          nextAttemptAt := some (o.now + settings.backoffMs (existing.attempts + 1)) }) }

def processInvoice (settings : WorkerSettings) (o : Outside) (token : String)
    (row : Option Invoice) (deliveries : DeliveryChannel → Option InvoiceDelivery) :
    RunPhase → Effect
  | .claiming =>
    { next := match row with
        | some invoice => if Claimable o.now invoice then .claimed else .returned
        | none => .returned
      invoice := claimedInvoice settings o.now }
  | .claimed =>
    { next := match row with
        | some invoice => .loaded invoice o.order
        | none => .returned }
  | .loaded invoice order =>
    { next :=
        if isSet invoice.s3Key then
          match o.validation with
          | .error message => caught invoice message
          | .ok actual =>
            if sameCandidate token invoice.businessHash actual then .refreshing invoice order
            else .superseding
        else
          match ensurePdf o token invoice with
          | .error message => caught invoice message
          | .ok none => .superseding
          | .ok (some pdf) => .storing invoice order pdf }
  | .superseding => { next := .returned, invoice := markSuperseded o.now }
  | .storing invoice order pdf =>
    { next := .refreshing invoice order, invoice := storedInvoice pdf }
  | .refreshing invoice order =>
    { next := match row with
        | some refreshed =>
          if isSet refreshed.s3Key && isSet refreshed.fileName then
            if o.order.invoiceRequested then .downloading invoice order
            else .makingAvailable invoice
          else caught invoice "Invoice PDF was not persisted"
        | none => caught invoice "Invoice PDF was not persisted" }
  | .makingAvailable invoice => { next := .acking invoice, invoice := availableInvoice }
  | .downloading invoice order =>
    { next := match o.call with
        | .error message => caught invoice message
        | .ok () =>
          match order.createdByUser with
          | none => caught invoice "У заказа не указан менеджер для отправки счёта"
          | some user => .delivering invoice user none .upserting }
  | .delivering invoice user telegram stage =>
    deliverChannel settings o token row (deliveries (currentChannel telegram)) invoice user telegram
      stage
  | .finishing invoice user results =>
    { next := .acking invoice
      invoice := finalInvoice settings invoice.attempts user results o.now }
  | .acking invoice =>
    { next := match o.call with
        | .error message => caught invoice message
        | .ok () => .returned }
  | .failing invoice message =>
    { next := .returned
      invoice := failedInvoice settings invoice.attempts message o.now }
  | .returned => { next := .returned }

structure InvoiceRun where
  token : String
  phase : RunPhase

/-- The rows, the deliveries, the runs of the workers, and how many documents of an
invoice a messenger has accepted. -/
structure InvoiceSystem where
  rows : InvoiceTable
  deliveries : String → DeliveryChannel → Option InvoiceDelivery
  runs : Nat → Option InvoiceRun
  documents : String → DeliveryChannel → Nat

inductive InvoiceAction where
  | sync (order : Option Id) (item : QueueItem) (immediate : Bool) (now : Instant)
  | start (worker : Nat) (token : String)
  | step (worker : Nat) (o : Outside)

def applyEffect (s : InvoiceSystem) (worker : Nat) (token : String) (e : Effect) :
    InvoiceSystem where
  rows t := if t = token then (s.rows t).map e.invoice else s.rows t
  deliveries t channel :=
    if t = token then e.delivery channel (s.deliveries t channel) else s.deliveries t channel
  runs w := if w = worker then some ⟨token, e.next⟩ else s.runs w
  documents t channel :=
    if t = token ∧ e.document = some channel then s.documents t channel + 1
    else s.documents t channel

def invoiceStep (settings : WorkerSettings) (s : InvoiceSystem) : InvoiceAction → InvoiceSystem
  | .sync order item immediate now =>
    { s with rows := syncQueueItem settings order item immediate now s.rows }
  | .start worker token =>
    { s with runs := fun w => if w = worker then some ⟨token, .claiming⟩ else s.runs w }
  | .step worker o =>
    match s.runs worker with
    | none => s
    | some run =>
      applyEffect s worker run.token
        (processInvoice settings o run.token (s.rows run.token) (s.deliveries run.token) run.phase)

def emptySystem : InvoiceSystem := ⟨fun _ => none, fun _ _ => none, fun _ => none, fun _ _ => 0⟩

end LeaderProduct
