import LeaderProduct.TelegramContacts
import LeaderProduct.EmailCodes
import LeaderProduct.RefreshTokens

/-! The requests with which users sign in and stay signed in, and those with which they get their
access back, one after the other. -/
namespace LeaderProduct
open Interleaving RowTable

section Store

def maxFailedLoginAttempts : Nat := 19

structure LoginAttempt where
  userId : Nat
  success : Bool

structure StoredToken where
  id : Nat
  row : RefreshToken

structure NewToken where
  id : Nat
  rawToken : String
  deviceSessionId : Option Id
  familyId : Nat
  now : Instant

/-- `attempts` are the newest first, `issued` the users that tokens have been issued to. -/
structure AccessStore where
  phones : PhoneStore
  qr : QrStore
  codes : List CodeRow
  resets : List CodeRow
  tokens : List StoredToken
  attempts : List LoginAttempt
  issued : List Nat

variable (settings : AuthSettings) (s : AccessStore)

def AccessStore.users : List Account := s.phones.users

def AccessStore.setUsers (users : Option (List Account)) : AccessStore :=
  { s with phones := LeaderProduct.setUsers s.phones users }

def AccessStore.runQr (running : QrJob) : AccessStore :=
  { s with qr := (running.alone applyQrWrite s.qr).1 }

def AccessStore.runPhone (running : PhoneJob) : AccessStore :=
  { s with phones := (running.alone applyPhoneWrite s.phones).1 }

def AccessStore.runCodes (running : CodeJob) : AccessStore × CodeAnswer :=
  let after := running.alone applyCodeWrite ⟨s.users, s.codes, [], []⟩
  ({ s.setUsers (some after.1.users) with codes := after.1.codes }, after.2)

def AccessStore.runResets (running : CodeJob) : AccessStore :=
  let after := (running.alone applyCodeWrite ⟨s.users, s.resets, [], []⟩).1
  { s.setUsers (some after.users) with resets := after.codes }

/-- `issueAuthTokensForUser`, and the same at a login and an activation. -/
def AccessStore.issue (userId : Nat) (fresh : NewToken) : AccessStore :=
  { s with
    tokens := s.tokens ++ [⟨fresh.id, createdToken settings fresh.rawToken userId
      fresh.deviceSessionId fresh.familyId fresh.now⟩]
    issued := s.issued ++ [userId] }

end Store

section Requests
variable (settings : AuthSettings) (hashToken : String → String)
  (comparePassword : String → String → Bool) (s : AccessStore)

def failedAttempts (userId : Nat) : Nat :=
  (((s.attempts.filter (fun attempt => attempt.userId == userId)).take 20).filter
    (fun attempt => !attempt.success)).length

def AccessStore.note (userId : Nat) (success : Bool) : AccessStore :=
  { s with attempts := ⟨userId, success⟩ :: s.attempts }

/-- `POST /auth/login`. -/
def login (email password : String) (fresh : NewToken) : AccessStore :=
  match s.users.find? (hasEmail email) with
  | none => s
  | some user =>
    if user.profileStatus = .blocked then s
    else if user.isActive = false ∨ user.profileStatus = .pending then s
    else
      match user.passwordHash.filter (· ≠ "") with
      | none => s
      | some passwordHash =>
        if comparePassword password passwordHash then
          (s.issue settings user.id fresh).note user.id true
        else if maxFailedLoginAttempts ≤ failedAttempts s user.id + 1 then
          (s.note user.id false).setUsers
            (updateAccount s.users user.id (fun user => { user with profileStatus := .blocked }))
        else s.note user.id false

/-- The checks of `POST /auth/token`, those of its transaction included. `payloadUserId` is the
user of the payload, where the token's signature is right. -/
def acceptedToken (refreshToken : String) (payloadUserId : Option Nat) (now : Instant) :
    Option (StoredToken × Account) :=
  match s.tokens.find? (fun stored => decide (Presents settings refreshToken stored.row)) with
  | none => none
  | some stored =>
    if stored.row.revoked then none
    else if stored.row.expiresAt < now then none
    else if payloadUserId ≠ some stored.row.userId then none
    else
      match findAccount s.users stored.row.userId, lookup (·.id) s.tokens stored.id with
      | some user, some current =>
        if current.row.revoked = true ∨ current.row.expiresAt < now then none
        else some (current, user)
      | _, _ => none

/-- `POST /auth/token`. -/
def refresh (refreshToken : String) (payloadUserId : Option Nat) (fresh : NewToken) : AccessStore :=
  match acceptedToken settings s refreshToken payloadUserId fresh.now with
  | none => s
  | some (stored, user) =>
    let claim : TokenClaim :=
      ⟨stored.id, user.id, stored.row.familyId, fresh.now, fresh.now + settings.graceMs⟩
    { s with
      tokens := modify (·.id) s.tokens stored.id
        (fun stored => { stored with row := rotatedToken claim fresh.id stored.row }) ++
          [⟨fresh.id, createdToken settings fresh.rawToken user.id fresh.deviceSessionId
            (stored.row.familyId.getD fresh.familyId) fresh.now⟩]
      issued := s.issued ++ [user.id] }

/-- `POST /auth/telegram/sign-in` and `/auth/max/sign-in`. -/
def signIn (provider : MessengerProvider) (messengerId : Int) (fresh : NewToken) : AccessStore :=
  match findByMessenger s.users provider messengerId with
  | none => s
  | some user => if user.profileStatus = .blocked then s else s.issue settings user.id fresh

def polledSession (provider : MessengerProvider) (sessionToken : String) (now : Int) : QrJob :=
  getMessengerQrAuthSessionByClientToken hashToken provider sessionToken now
    (fun found => .done (.bound found))

def polledUser (provider : MessengerProvider) (sessionToken : String) (now : Int) :
    Option (QrSession × Account) :=
  match ((polledSession hashToken provider sessionToken now).alone applyQrWrite s.qr).2 with
  | .bound (some session) =>
    if session.status = .verified then
      ((session.resolvedUserId.filter (· ≠ 0)).bind (findAccount s.users)).map
        (fun user => (session, user))
    else none
  | _ => none

def pollQr (provider : MessengerProvider) (sessionToken : String) (fresh : NewToken) :
    AccessStore :=
  let polled := s.runQr (polledSession hashToken provider sessionToken fresh.now)
  match polledUser hashToken s provider sessionToken fresh.now with
  | none => polled
  | some (session, user) =>
    (polled.issue settings user.id fresh).runQr
      (.write (.consume session.id fresh.now) (fun _ => .done (.authorized user.id)))

def receiveContact (provider : MessengerProvider) (messengerUserId : Int) (phoneRaw : String)
    (newId : Nat) (now later : Int) : AccessStore :=
  if messengerUserId = 0 then s
  else
    match normalizePhoneE164 phoneRaw with
    | none => s
    | some normalizedPhone =>
      let verify := (PhoneRequest.contact provider messengerUserId phoneRaw later).job hashToken
      match activeQrSession s.qr provider messengerUserId now with
      | none => s.runPhone verify
      | some _ =>
        let resolved :=
          resolveMessengerUserState provider s.users messengerUserId (some normalizedPhone) newId
        ((s.setUsers (resolved.map (·.users))).runQr
          (resolveQrSessionByContact provider messengerUserId (contactOutcome resolved) now
            later)).runPhone verify

def credentials (userId : Nat) (email passwordHash : GivenString) (fresh : NewCode) (now : Int) :
    AccessStore :=
  match addCredentials s.users userId email passwordHash with
  | none => s
  | some users =>
    ((s.setUsers (some users)).runCodes (sendVerificationCodeEmail userId fresh now)).1

def verify (email code : String) (fresh : NewToken) : AccessStore :=
  let after := s.runCodes (verifyEmail email code fresh.now)
  match findByEmail s.users email, after.2 with
  | some user, .activated =>
    if (findAccount after.1.users user.id).isSome then after.1.issue settings user.id fresh
    else after.1
  | _, _ => after.1

/-- What a user without the help of an administrator can ask for, and what the bots receive:
`bindQr` and `bindPhone` are their start payloads. -/
inductive AccessRequest where
  | login (email password : String) (fresh : NewToken)
  | refresh (refreshToken : String) (payloadUserId : Option Nat) (fresh : NewToken)
  | signIn (provider : MessengerProvider) (messengerId : Int) (fresh : NewToken)
  | startQr (provider : MessengerProvider) (id startToken sessionToken : String)
      (expiresAt now : Int)
  | pollQr (provider : MessengerProvider) (sessionToken : String) (fresh : NewToken)
  | cancelQr (provider : MessengerProvider) (sessionToken : String) (now : Int)
  | bindQr (provider : MessengerProvider) (startToken : String) (messengerUserId now : Int)
  | bindPhone (provider : MessengerProvider) (token : String) (messengerUserId now : Int)
  | contact (provider : MessengerProvider) (messengerUserId : Int) (phoneRaw : String)
      (newId : Nat) (now later : Int)
  | credentials (userId : Nat) (email passwordHash : GivenString) (fresh : NewCode) (now : Int)
  | resend (email : String) (fresh : NewCode) (now : Int)
  | verify (email code : String) (fresh : NewToken)
  | reset (request : ResetRequest)

def accessStep : AccessRequest → AccessStore
  | .login email password fresh => login settings comparePassword s email password fresh
  | .refresh refreshToken payloadUserId fresh => refresh settings s refreshToken payloadUserId fresh
  | .signIn provider messengerId fresh => signIn settings s provider messengerId fresh
  | .startQr provider id startToken sessionToken expiresAt now =>
    s.runQr (startMessengerQrAuthSession hashToken provider id startToken sessionToken expiresAt now)
  | .pollQr provider sessionToken fresh => pollQr settings hashToken s provider sessionToken fresh
  | .cancelQr provider sessionToken now =>
    s.runQr (cancelMessengerQrAuthSessionByClientToken hashToken provider sessionToken now)
  | .bindQr provider startToken messengerUserId now =>
    s.runQr (bindMessengerQrAuthSessionByStartToken hashToken provider startToken messengerUserId now)
  | .bindPhone provider token messengerUserId now =>
    s.runPhone (bindPhoneVerificationByStartToken hashToken provider token messengerUserId now)
  | .contact provider messengerUserId phoneRaw newId now later =>
    receiveContact hashToken s provider messengerUserId phoneRaw newId now later
  | .credentials userId email passwordHash fresh now =>
    credentials s userId email passwordHash fresh now
  | .resend email fresh now => (s.runCodes (resendVerification email fresh now)).1
  | .verify email code fresh => verify settings s email code fresh
  | .reset request => s.runResets request.job

end Requests

end LeaderProduct
