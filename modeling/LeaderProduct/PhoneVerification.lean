import LeaderProduct.Accounts
import LeaderProduct.CheckedWrites

/-! The confirmation of a user's phone by a contact that he sends in a messenger, statement by
statement. -/
namespace LeaderProduct
open Interleaving RowTable

section Rows

inductive PhoneStatus where
  | pending | verified | failed | expired | cancelled
  deriving DecidableEq, Repr

structure PhoneSession where
  id : String
  userId : Nat
  requestedPhone : Nat
  status : PhoneStatus
  provider : MessengerProvider
  tokenHash : String
  messengerUserId : Option Int
  expiresAt : Int
  failureReason : Option String
  createdAt : Int

structure PhoneChange where
  userId : Nat
  phone : Nat
  sessionStatus : PhoneStatus

structure PhoneStore where
  users : List Account
  sessions : List PhoneSession
  changes : List PhoneChange

structure PhoneCommit where
  provider : MessengerProvider
  owner : Option (Nat × AuthProvider)
  userId : Nat
  phone : Nat
  messengerUserId : Int
  authProvider : AuthProvider
  sessionId : String

inductive PhoneWrite where
  | cancelPending (userId : Nat)
  | create (session : PhoneSession)
  | expire (id : String)
  | fail (id failureReason : String)
  | cancel (id : String) (userId : Nat)
  | bind (id : String) (messengerUserId : Int)
  | commit (c : PhoneCommit)

def PhoneStore.session (s : PhoneStore) (id : String) : Option PhoneSession :=
  lookup (·.id) s.sessions id

def PhoneStore.setSession (s : PhoneStore) (id : String) (change : PhoneSession → PhoneSession) :
    PhoneStore :=
  { s with sessions := modify (·.id) s.sessions id change }

def PhoneSession.close (status : PhoneStatus) (failureReason : String) (session : PhoneSession) :
    PhoneSession :=
  { session with status := status, failureReason := some failureReason }

def PhoneCommit.users (c : PhoneCommit) (users : List Account) : Option (List Account) :=
  let released :=
    match c.owner with
    | none => some users
    | some (ownerId, authProvider) =>
      updateAccount users ownerId (fun owner =>
        { owner.setMessengerId c.provider none with authProvider := authProvider })
  released.bind (fun users =>
    updateAccount users c.userId (fun user =>
      { user.setMessengerId c.provider (some c.messengerUserId) with
        phone := some c.phone, authProvider := c.authProvider }))

/-- The database after the transaction, with `users` as it leaves them. -/
def PhoneStore.commit (s : PhoneStore) (c : PhoneCommit) (users : List Account)
    (session : PhoneSession) : PhoneStore where
  users := users
  sessions := modify (·.id) s.sessions c.sessionId (fun session =>
    { session with status := .verified, failureReason := none })
  changes := s.changes ++ [⟨c.userId, c.phone, session.status⟩]

def applyPhoneWrite : PhoneWrite → PhoneStore → PhoneStore
  | .cancelPending userId, s =>
    { s with
      sessions := s.sessions.map (fun session =>
        if session.userId = userId ∧ session.status = .pending then
          session.close .cancelled "REPLACED_BY_NEW_REQUEST"
        else session) }
  | .create session, s =>
    if s.sessions.any (fun other => other.id == session.id || other.tokenHash == session.tokenHash)
    then s
    else { s with sessions := s.sessions ++ [session] }
  | .expire id, s => s.setSession id (·.close .expired "SESSION_EXPIRED")
  | .fail id failureReason, s => s.setSession id (·.close .failed failureReason)
  | .cancel id userId, s =>
    s.setSession id (fun session =>
      if session.userId = userId ∧ session.status = .pending then
        session.close .cancelled "CANCELLED_BY_USER"
      else session)
  | .bind id messengerUserId, s =>
    s.setSession id (fun session => { session with messengerUserId := some messengerUserId })
  | .commit c, s =>
    match c.users s.users, s.session c.sessionId with
    | some users, some session => s.commit c users session
    | _, _ => s

end Rows

section Requests

inductive PhoneAnswer where
  | refused (message : String)
  | started
  | session (found : Option PhoneStatus)
  | cancelled (cancelled : Bool)
  | verification (ok : Bool) (reason : String)
  | threw

abbrev PhoneJob := Job PhoneStore PhoneWrite PhoneAnswer

variable (hashToken : String → String)

def startPhoneVerificationSession (userId : Nat) (phoneRaw : String) (provider : MessengerProvider)
    (id token : String) (expiresAt createdAt : Int) : PhoneJob :=
  match normalizePhoneToBigInt phoneRaw with
  | none => .done (.refused "Некорректный формат телефона")
  | some phone =>
    .read (fun s =>
      if s.users.any (fun user => user.phone == some phone && user.id != userId) then
        .done (.refused "Этот номер уже используется другим пользователем")
      else
        .write (.cancelPending userId) (fun _ =>
          .write
            (.create ⟨id, userId, phone, .pending, provider, hashToken token, none, expiresAt, none,
              createdAt⟩)
            (fun _ => .done .started)))

def getPhoneVerificationSessionState (userId : Nat) (sessionId : String) (now : Int) : PhoneJob :=
  .read (fun s =>
    match s.sessions.find? (fun session => session.id == sessionId && session.userId == userId) with
    | none => .done (.session none)
    | some session =>
      if session.status = .pending ∧ session.expiresAt ≤ now then
        .write (.expire session.id) (fun _ => .done (.session (some .expired)))
      else .done (.session (some session.status)))

def cancelPhoneVerificationSession (userId : Nat) (sessionId : String) : PhoneJob :=
  .write (.cancel sessionId userId) (fun s =>
    .done (.cancelled (s.sessions.any (fun session =>
      session.id == sessionId && session.userId == userId && session.status == .pending))))

def bindPhoneVerificationByStartToken (provider : MessengerProvider) (token : String)
    (messengerUserId now : Int) : PhoneJob :=
  if token = "" then .done (.session none)
  else if messengerUserId = 0 then .done (.session none)
  else
    .read (fun s =>
      match s.sessions.find? (fun session => session.tokenHash == hashToken token) with
      | none => .done (.session none)
      | some session =>
        if session.provider ≠ provider then .done (.session none)
        else if session.status ≠ .pending then .done (.session (some session.status))
        else if session.expiresAt ≤ now then
          .write (.expire session.id) (fun _ => .done (.session (some .expired)))
        else
          .write (.bind session.id messengerUserId) (fun s =>
            .done (.session ((s.session session.id).map (·.status)))))

def failVerification (sessionId reason : String) : PhoneJob :=
  .write (.fail sessionId reason) (fun _ => .done (.verification false reason))

def verifyPhoneByContact (provider : MessengerProvider) (messengerUserId : Int) (phoneRaw : String)
    (now : Int) (confirm : PhoneSession → Account → Nat → PhoneJob) : PhoneJob :=
  if messengerUserId = 0 then
    .done (.verification false (match provider with
      | .telegram => "INVALID_TELEGRAM_USER_ID"
      | .max => "INVALID_MAX_USER_ID"))
  else
    match normalizePhoneToBigInt phoneRaw with
    | none => .done (.verification false "INVALID_PHONE")
    | some phone =>
      .read (fun s =>
        match newestBy (·.createdAt) (s.sessions.filter (fun session =>
          session.provider == provider && session.messengerUserId == some messengerUserId &&
            session.status == .pending)) with
        | none => .done (.verification false "SESSION_NOT_FOUND")
        | some session =>
          if session.expiresAt ≤ now then
            .write (.expire session.id) (fun _ => .done (.verification false "SESSION_EXPIRED"))
          else if toApiPhoneString session.requestedPhone ≠ normalizePhoneToDigits11 phoneRaw then
            failVerification session.id "PHONE_MISMATCH"
          else
            .read (fun s =>
              match findAccount s.users session.userId with
              | none => failVerification session.id "USER_NOT_FOUND"
              | some user =>
                .read (fun s =>
                  if s.users.any (fun other => other.phone == some phone && other.id != user.id) then
                    failVerification session.id "PHONE_ALREADY_USED"
                  else confirm session user phone)))

def commitVerification (c : PhoneCommit) : PhoneJob :=
  .write (.commit c) (fun s =>
    match c.users s.users, s.session c.sessionId with
    | some _, some _ => .done (.verification true "VERIFIED")
    | _, _ => .done .threw)

def messengerOwner (users : List Account) (provider : MessengerProvider) (messengerUserId : Int)
    (userId : Nat) : Option Account :=
  users.find? (fun user => user.messengerId provider == some messengerUserId && user.id != userId)

/-- The previous owner of the Telegram id loses it. -/
def verifyPhoneByTelegramContact (telegramUserId : Int) (phoneRaw : String) (now : Int) :
    PhoneJob :=
  verifyPhoneByContact .telegram telegramUserId phoneRaw now (fun session user phone =>
    .read (fun s =>
      commitVerification {
        provider := .telegram
        owner := (messengerOwner s.users .telegram telegramUserId user.id).map (fun owner =>
          (owner.id, resolveAuthProvider (hasCredentials owner) false (givenId owner.maxId)))
        userId := user.id
        phone := phone
        messengerUserId := telegramUserId
        authProvider := resolveAuthProvider (hasCredentials user) (telegramUserId != 0)
          (givenId user.maxId)
        sessionId := session.id }))

/-- A MAX id that has an owner is refused. -/
def verifyPhoneByMaxContact (maxUserId : Int) (phoneRaw : String) (now : Int) : PhoneJob :=
  verifyPhoneByContact .max maxUserId phoneRaw now (fun session user phone =>
    .read (fun s =>
      if (messengerOwner s.users .max maxUserId user.id).isSome then
        failVerification session.id "MAX_ALREADY_USED"
      else
        commitVerification {
          provider := .max
          owner := none
          userId := user.id
          phone := phone
          messengerUserId := maxUserId
          authProvider := resolveAuthProvider (hasCredentials user) (givenId user.telegramId)
            (maxUserId != 0)
          sessionId := session.id }))

inductive PhoneRequest where
  | start (userId : Nat) (phoneRaw : String) (provider : MessengerProvider) (id token : String)
      (expiresAt createdAt : Int)
  | state (userId : Nat) (sessionId : String) (now : Int)
  | cancel (userId : Nat) (sessionId : String)
  | bind (provider : MessengerProvider) (token : String) (messengerUserId now : Int)
  | contact (provider : MessengerProvider) (messengerUserId : Int) (phoneRaw : String) (now : Int)

def PhoneRequest.job : PhoneRequest → PhoneJob
  | .start userId phoneRaw provider id token expiresAt createdAt =>
    startPhoneVerificationSession hashToken userId phoneRaw provider id token expiresAt createdAt
  | .state userId sessionId now => getPhoneVerificationSessionState userId sessionId now
  | .cancel userId sessionId => cancelPhoneVerificationSession userId sessionId
  | .bind provider token messengerUserId now =>
    bindPhoneVerificationByStartToken hashToken provider token messengerUserId now
  | .contact .telegram telegramUserId phoneRaw now =>
    verifyPhoneByTelegramContact telegramUserId phoneRaw now
  | .contact .max maxUserId phoneRaw now => verifyPhoneByMaxContact maxUserId phoneRaw now

end Requests

end LeaderProduct
