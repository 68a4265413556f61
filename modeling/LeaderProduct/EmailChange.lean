import LeaderProduct.EmailCodes

/-! The change of a user's address by a code that is sent to the new one. -/
namespace LeaderProduct
open Interleaving RowTable

section Rows

def emailChangeCodeTtlMs : Int := 10 * 60 * 1000
def emailChangeResendCooldownMs : Int := 30 * 1000
def emailChangeMaxAttempts : Nat := 5

inductive EmailChangeStatus where
  | pending | verified | expired | cancelled | failed
  deriving DecidableEq, Repr

structure EmailChangeSession where
  id : String
  userId : Nat
  requestedEmail : String
  codeHash : String
  status : EmailChangeStatus
  attemptsCount : Nat
  expiresAt : Int
  lastSentAt : Option Int
  failureReason : Option String
  deriving DecidableEq, Repr

structure ChangeUse where
  sessionId : String
  codeHash : String
  replaced : Bool

structure ChangeGuess where
  sessionId : String
  right : Bool

structure ChangeStore where
  users : List Account
  sessions : List EmailChangeSession
  uses : List ChangeUse
  guesses : List ChangeGuess

/-- `compare` reads, and notes that a code is compared. The hash of a `commit` is the one that has
been compared. -/
inductive ChangeWrite where
  | cancelPending (userId : Nat)
  | create (session : EmailChangeSession)
  | expire (id : String)
  | resend (id codeHash : String) (now : Int)
  | compare (userId : Nat) (id codeHash : String) (now : Int)
  | miss (id : String) (attempts : Nat)
  | conflict (id : String)
  | commit (userId : Nat) (requestedEmail id codeHash : String)
  | cancel (id : String) (userId : Nat)
  deriving DecidableEq, Repr

def ChangeStore.session (s : ChangeStore) (id : String) : Option EmailChangeSession :=
  lookup (·.id) s.sessions id

def ChangeStore.setSession (s : ChangeStore) (id : String)
    (change : EmailChangeSession → EmailChangeSession) : ChangeStore :=
  { s with sessions := modify (·.id) s.sessions id change }

def EmailChangeSession.close (status : EmailChangeStatus) (failureReason : String)
    (session : EmailChangeSession) : EmailChangeSession :=
  { session with status := status, failureReason := some failureReason }

def ChangeStore.own (s : ChangeStore) (userId : Nat) (id : String) : Option EmailChangeSession :=
  s.sessions.find? (fun session => session.id == id && session.userId == userId)

def ChangeStore.since (s : ChangeStore) (id : String) : List EmailChangeSession :=
  s.sessions.dropWhile (fun session => session.id != id)

/-- The code has been replaced in its session, or the user has another session since. -/
def ChangeStore.replaced (s : ChangeStore) (id codeHash : String) : Bool :=
  match s.since id with
  | [] => false
  | session :: later =>
    session.codeHash != codeHash || later.any (fun other => other.userId == session.userId)

def verifiedSession (userId : Nat) (id : String) (session : EmailChangeSession) :
    EmailChangeSession :=
  if session.id = id then { session with status := .verified, failureReason := none }
  else if session.userId = userId ∧ session.status = .pending then
    session.close .cancelled "REPLACED_BY_VERIFIED_REQUEST"
  else session

def ChangeStore.commit (s : ChangeStore) (userId : Nat) (id codeHash : String)
    (users : List Account) : ChangeStore :=
  { s with
    users := users
    sessions := s.sessions.map (verifiedSession userId id)
    uses := s.uses ++ [⟨id, codeHash, s.replaced id codeHash⟩] }

def applyChangeWrite : ChangeWrite → ChangeStore → ChangeStore
  | .cancelPending userId, s =>
    { s with
      sessions := s.sessions.map (fun session =>
        if session.userId = userId ∧ session.status = .pending then
          session.close .cancelled "REPLACED_BY_NEW_REQUEST"
        else session) }
  | .create session, s =>
    if s.sessions.any (fun other => other.id == session.id) then s
    else { s with sessions := s.sessions ++ [session] }
  | .expire id, s => s.setSession id (·.close .expired "SESSION_EXPIRED")
  | .resend id codeHash now, s =>
    s.setSession id (fun session =>
      { session with codeHash := codeHash, lastSentAt := some now, failureReason := none })
  | .compare userId id codeHash now, s =>
    match s.own userId id with
    | none => s
    | some session =>
      if session.status ≠ .pending then s
      else if session.expiresAt ≤ now then s
      else { s with guesses := s.guesses ++ [⟨session.id, codeHash == session.codeHash⟩] }
  | .miss id attempts, s =>
    s.setSession id (fun session =>
      if emailChangeMaxAttempts ≤ attempts then
        { session.close .failed "TOO_MANY_ATTEMPTS" with attemptsCount := attempts }
      else { session.close .pending "INVALID_CODE" with attemptsCount := attempts })
  | .conflict id, s => s.setSession id (·.close .failed "EMAIL_ALREADY_USED")
  | .commit userId requestedEmail id codeHash, s =>
    match updateAccount s.users userId (fun user => { user with email := some requestedEmail }),
      s.session id with
    | some users, some _ => s.commit userId id codeHash users
    | _, _ => s
  | .cancel id userId, s =>
    s.setSession id (fun session =>
      if session.userId = userId ∧ session.status = .pending then
        session.close .cancelled "CANCELLED_BY_USER"
      else session)

end Rows

section Requests

inductive ChangeAnswer where
  | userNotFound
  | sameAsCurrent
  | emailConflict
  | started
  | state (status : Option EmailChangeStatus)
  | notFound
  | notActive
  | expired
  | resendTooEarly
  | resent
  | invalidCode
  | tooManyAttempts
  | verified
  | cancelled (cancelled : Bool)
  | threw

abbrev ChangeJob := Job ChangeStore ChangeWrite ChangeAnswer

variable (hashCode : String → String)

def startEmailChangeSession (userId : Nat) (requestedEmail id code : String) (now : Int) :
    ChangeJob :=
  .read (fun s =>
    match findAccount s.users userId with
    | none => .done .userNotFound
    | some user =>
      if user.email.any (fun own =>
          own != "" && JsString.toLowerCase (JsString.trim own) == requestedEmail) then
        .done .sameAsCurrent
      else
        .read (fun s =>
          if s.users.any (fun other => hasEmail requestedEmail other && other.id != userId) then
            .done .emailConflict
          else
            .write (.cancelPending userId) (fun _ =>
              .write
                (.create ⟨id, userId, requestedEmail, hashCode code, .pending, 0,
                  now + emailChangeCodeTtlMs, some now, none⟩)
                (fun _ => .done .started))))

def getEmailChangeSessionState (userId : Nat) (sessionId : String) (now : Int) : ChangeJob :=
  .read (fun s =>
    match s.own userId sessionId with
    | none => .done (.state none)
    | some session =>
      if session.status = .pending ∧ session.expiresAt ≤ now then
        .write (.expire session.id) (fun _ => .done (.state (some .expired)))
      else .done (.state (some session.status)))

def resendEmailChangeCode (userId : Nat) (sessionId code : String) (now : Int) : ChangeJob :=
  .read (fun s =>
    match s.own userId sessionId with
    | none => .done .notFound
    | some session =>
      if session.status ≠ .pending then .done .notActive
      else if session.expiresAt ≤ now then
        .write (.expire session.id) (fun _ => .done .expired)
      else if session.lastSentAt.any (fun sentAt =>
          decide (now - sentAt < emailChangeResendCooldownMs)) then
        .done .resendTooEarly
      else .write (.resend session.id (hashCode code) now) (fun _ => .done .resent))

def sixDigits (code : String) : Bool := code.length == 6 && code.toList.all Char.isDigit

def verifyEmailChangeSession (userId : Nat) (sessionId codeRaw : String) (now : Int) : ChangeJob :=
  let code := JsString.trim codeRaw
  if !sixDigits code then .done .invalidCode
  else
    .write (.compare userId sessionId (hashCode code) now) (fun s =>
      match s.own userId sessionId with
      | none => .done .notFound
      | some session =>
        if session.status ≠ .pending then .done .notActive
        else if session.expiresAt ≤ now then
          .write (.expire session.id) (fun _ => .done .expired)
        else if hashCode code ≠ session.codeHash then
          .write (.miss session.id (session.attemptsCount + 1)) (fun _ =>
            .done (if emailChangeMaxAttempts ≤ session.attemptsCount + 1 then .tooManyAttempts
              else .invalidCode))
        else
          .read (fun s =>
            if s.users.any (fun other =>
                hasEmail session.requestedEmail other && other.id != userId) then
              .write (.conflict session.id) (fun _ => .done .emailConflict)
            else
              .write (.commit userId session.requestedEmail session.id session.codeHash) (fun s =>
                match updateAccount s.users userId (fun user =>
                    { user with email := some session.requestedEmail }), s.session session.id with
                | some _, some _ => .done .verified
                | _, _ => .done .threw)))

def cancelEmailChangeSession (userId : Nat) (sessionId : String) : ChangeJob :=
  .write (.cancel sessionId userId) (fun s =>
    .done (.cancelled (s.sessions.any (fun session =>
      session.id == sessionId && session.userId == userId && session.status == .pending))))

inductive ChangeRequest where
  | start (userId : Nat) (requestedEmail id code : String) (now : Int)
  | state (userId : Nat) (sessionId : String) (now : Int)
  | resend (userId : Nat) (sessionId code : String) (now : Int)
  | verify (userId : Nat) (sessionId codeRaw : String) (now : Int)
  | cancel (userId : Nat) (sessionId : String)

def ChangeRequest.job : ChangeRequest → ChangeJob
  | .start userId requestedEmail id code now =>
    startEmailChangeSession hashCode userId requestedEmail id code now
  | .state userId sessionId now => getEmailChangeSessionState userId sessionId now
  | .resend userId sessionId code now => resendEmailChangeCode hashCode userId sessionId code now
  | .verify userId sessionId codeRaw now =>
    verifyEmailChangeSession hashCode userId sessionId codeRaw now
  | .cancel userId sessionId => cancelEmailChangeSession userId sessionId

end Requests

end LeaderProduct
