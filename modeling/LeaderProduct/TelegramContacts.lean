import LeaderProduct.AccountFlows
import LeaderProduct.QrLogin

/-! The routes by which a phone comes to the account of a Telegram user: the body of a request,
the contact that is stored for a while, the updates of the bot and the login by a QR code. -/
namespace LeaderProduct
open Interleaving RowTable

section Phones

def digitsText (digits : List Nat) : String := String.ofList (digits.map Nat.digitChar)

def normalizePhoneE164 (phoneRaw : String) : Option String :=
  (normalizePhoneToDigits11 phoneRaw).map digitsText

end Phones

section Qr

def activeQrSession (qr : QrStore) (provider : MessengerProvider) (messengerUserId now : Int) :
    Option QrSession :=
  let lookup : QrJob :=
    getLatestActiveMessengerQrAuthSessionByMessengerUser provider messengerUserId now
      (fun found => .done (.bound found))
  match (lookup.alone applyQrWrite qr).2 with
  | .bound found => found
  | _ => none

def contactOutcome : Option Resolved → ContactOutcome
  | none => .threw
  | some resolved => .resolved resolved.state resolved.userId

end Qr

section Store

structure StoredContact where
  telegramId : Int
  phone : String
  expiresAt : Int

def tgContactTtlSec : Int := 10 * 60

/-- `shown` are the contacts of their own that the Telegram users have sent to the bot, `links` the
messenger ids and phones that `resolveTelegramUserState` has brought together in an account that
was there. -/
structure ContactStore where
  phones : PhoneStore
  qr : QrStore
  contacts : List StoredContact
  shown : List (Int × Nat)
  links : List (Int × Nat)

variable (s : ContactStore)

def ContactStore.users : List Account := s.phones.users

def setTelegramContactPhone (redisOpen : Bool) (telegramId : Int) (phone : String) (now : Int) :
    ContactStore :=
  if redisOpen then
    { s with
      contacts := ⟨telegramId, phone, now + 1000 * tgContactTtlSec⟩ ::
        s.contacts.filter (fun contact => contact.telegramId != telegramId) }
  else s

def getTelegramContactPhone (redisOpen : Bool) (telegramId now : Int) : Option String :=
  if redisOpen then
    ((s.contacts.find? (fun contact =>
      contact.telegramId == telegramId && decide (now < contact.expiresAt))).map
        (·.phone)).filter (· ≠ "")
  else none

def newLink (user user' : Account) : Option (Int × Nat) :=
  if user'.telegramId = user.telegramId ∧ user'.phone = user.phone then none
  else
    match user'.telegramId, user'.phone with
    | some telegramId, some phone => some (telegramId, phone)
    | _, _ => none

def newLinks (before after : List Account) : List (Int × Nat) :=
  before.filterMap (fun user => (findAccount after user.id).bind (newLink user))

def ContactStore.resolve (telegramId : Int) (phone : Option String) (newId : Nat) : ContactStore :=
  let resolved := (resolveTelegramUserState s.users telegramId phone newId).map (·.users)
  { s with
    phones := setUsers s.phones resolved
    links := s.links ++ newLinks s.users (setUsers s.phones resolved).users }

def ContactStore.runQr (running : QrJob) : ContactStore :=
  { s with qr := (running.alone applyQrWrite s.qr).1 }

def ContactStore.runPhone (running : PhoneJob) : ContactStore :=
  { s with phones := (running.alone applyPhoneWrite s.phones).1 }

/-- Where no session waits for the contact, the user is not resolved. -/
def resolveTelegramQrSessionByContact (telegramUserId : Int) (phoneRaw : String) (newId : Nat)
    (now later : Int) : ContactStore :=
  match activeQrSession s.qr .telegram telegramUserId now with
  | none => s
  | some _ =>
    match normalizePhoneE164 phoneRaw with
    | none =>
      s.runQr (resolveQrSessionByContact .telegram telegramUserId .invalidPhone now later)
    | some normalizedPhone =>
      let resolved := resolveTelegramUserState s.users telegramUserId (some normalizedPhone) newId
      (s.resolve telegramUserId (some normalizedPhone) newId).runQr
        (resolveQrSessionByContact .telegram telegramUserId (contactOutcome resolved) now later)

end Store

section Bot

structure TelegramContact where
  userId : Option Int
  phoneNumber : Option String

structure TelegramUpdate where
  fromId : Option Int
  contact : Option TelegramContact
  text : String

def TelegramUpdate.fromIdRaw (update : TelegramUpdate) : Option Int :=
  (update.fromId.or (update.contact.bind (·.userId))).filter (· ≠ 0)

def TelegramUpdate.phoneRaw (update : TelegramUpdate) : Option String :=
  (update.contact.bind (·.phoneNumber)).filter (· ≠ "")

def TelegramUpdate.ownContact (update : TelegramUpdate) : Option (Int × Nat) :=
  match update.fromId, update.contact.bind (·.userId), update.phoneRaw.bind normalizePhoneToBigInt with
  | some fromId, some userId, some phone => if userId = fromId then some (fromId, phone) else none
  | _, _, _ => none

def startPayload (text : String) : String :=
  let rest := (text.toList.dropWhile (fun c => !JsString.isSpace c)).dropWhile JsString.isSpace
  String.ofList (rest.takeWhile (fun c => !JsString.isSpace c))

def afterPrefix (start text : String) : String :=
  if start.toList.isPrefixOf text.toList then String.ofList (text.toList.drop start.length) else ""

def parseTelegramQrStartTokenFromPayload (payload : String) : String :=
  afterPrefix "auth_qr_" (JsString.trim payload)

variable (hashToken : String → String) (s : ContactStore)

def processStart (fromId : Int) (text : String) (now : Int) : ContactStore :=
  if "/start".toList.isPrefixOf text.toList then
    let payload := startPayload text
    let qrToken := parseTelegramQrStartTokenFromPayload payload
    let token := afterPrefix "verify_phone_" payload
    if qrToken ≠ "" then
      s.runQr (bindMessengerQrAuthSessionByStartToken hashToken .telegram qrToken fromId now)
    else if token ≠ "" then
      s.runPhone (bindPhoneVerificationByStartToken hashToken .telegram token fromId now)
    else s
  else s

def processContact (redisOpen : Bool) (fromId : Int) (phoneRaw : String) (newId : Nat)
    (now later : Int) : ContactStore :=
  match normalizePhoneE164 phoneRaw with
  | none => s
  | some normalized =>
    (resolveTelegramQrSessionByContact (setTelegramContactPhone s redisOpen fromId normalized now)
      fromId phoneRaw newId now later).runPhone (verifyPhoneByTelegramContact fromId phoneRaw later)

def processTelegramPhoneVerificationUpdate (update : TelegramUpdate) (redisOpen : Bool)
    (newId : Nat) (now later : Int) : ContactStore :=
  let seen := { s with shown := s.shown ++ update.ownContact.toList }
  match update.fromIdRaw with
  | none => seen
  | some fromId =>
    let started := processStart hashToken seen fromId (JsString.trim update.text) now
    match update.phoneRaw with
    | none => started
    | some phoneRaw => processContact started redisOpen fromId phoneRaw newId now later

end Bot

section Requests

/-- The requests of the Telegram mini app and of the login by QR code, and the updates of the
bot. The Telegram id is the one of the verified init data or of the session token. -/
inductive ContactRequest where
  | init (telegramId : Int) (redisOpen : Bool) (newId : Nat) (now : Int)
  | contact (telegramId : Int) (phoneE164 : String) (redisOpen : Bool) (newId : Nat) (now : Int)
  | contactStatus (telegramId : Int) (redisOpen : Bool) (newId : Nat) (now : Int)
  | qrStart (id startToken sessionToken : String) (expiresAt now : Int)
  | qrStatus (sessionToken : String) (now : Int)
  | qrCancel (sessionToken : String) (now : Int)
  | webhook (update : TelegramUpdate) (redisOpen : Bool) (newId : Nat) (now later : Int)

variable (hashToken : String → String)

def contactStep (s : ContactStore) : ContactRequest → ContactStore
  | .init telegramId redisOpen newId now =>
    s.resolve telegramId (getTelegramContactPhone s redisOpen telegramId now) newId
  | .contact telegramId phoneE164 redisOpen newId now =>
    match normalizePhoneE164 phoneE164 with
    | none => s
    | some normalizedPhone =>
      (setTelegramContactPhone s redisOpen telegramId normalizedPhone now).resolve telegramId
        (some normalizedPhone) newId
  | .contactStatus telegramId redisOpen newId now =>
    s.resolve telegramId (getTelegramContactPhone s redisOpen telegramId now) newId
  | .qrStart id startToken sessionToken expiresAt now =>
    s.runQr (startMessengerQrAuthSession hashToken .telegram id startToken sessionToken expiresAt now)
  | .qrStatus sessionToken now => s.runQr (handleQrAuthStatus hashToken .telegram sessionToken now)
  | .qrCancel sessionToken now =>
    s.runQr (cancelMessengerQrAuthSessionByClientToken hashToken .telegram sessionToken now)
  | .webhook update redisOpen newId now later =>
    processTelegramPhoneVerificationUpdate hashToken s update redisOpen newId now later

end Requests

end LeaderProduct
