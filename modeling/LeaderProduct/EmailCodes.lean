import LeaderProduct.Accounts
import LeaderProduct.CheckedWrites

/-! The codes that are sent by mail: for the activation of an account and for a new password. -/
namespace LeaderProduct
open Interleaving RowTable

section Rows

def maxVerificationAttempts : Nat := 5
def resendCodeIntervalMs : Int := 25 * 1000
def verificationCodeExpirationMs : Int := 60 * 60 * 1000
def resetResendIntervalMs : Int := 25 * 1000
def passwordResetCodeExpirationMs : Int := 60 * 60 * 1000

structure CodeRow where
  id : Nat
  userId : Nat
  code : String
  expiresAt : Int
  used : Bool
  attemptsCount : Nat
  lastSentAt : Option Int
  createdAt : Int

structure CodeUse where
  rowId : Nat
  replaced : Bool

structure Guess where
  rowId : Nat
  right : Bool

structure CodeStore where
  users : List Account
  codes : List CodeRow
  uses : List CodeUse
  guesses : List Guess

/-- `compare` reads, and notes that a code is compared. -/
inductive CodeWrite where
  | create (row : CodeRow)
  | retire (id : Nat)
  | prolong (id : Nat) (now : Int)
  | compare (userId : Nat) (code : String) (now : Int)
  | miss (id attempts : Nat)
  | accept (id : Nat)
  | activate (userId : Nat)
  | setPassword (userId : Nat) (passwordHash : String) (id : Nat)

def CodeStore.code (s : CodeStore) (id : Nat) : Option CodeRow := lookup (·.id) s.codes id

def CodeStore.setCode (s : CodeStore) (id : Nat) (change : CodeRow → CodeRow) : CodeStore :=
  { s with codes := modify (·.id) s.codes id change }

def CodeStore.latestUnused (s : CodeStore) (userId : Nat) : Option CodeRow :=
  newestBy (·.createdAt) (s.codes.filter (fun row => row.userId == userId && !row.used))

def CodeStore.since (s : CodeStore) (id : Nat) : List CodeRow :=
  s.codes.dropWhile (fun row => row.id != id)

def CodeStore.replaced (s : CodeStore) (id : Nat) : Bool :=
  match s.since id with
  | [] => false
  | row :: later => later.any (fun other => other.userId == row.userId)

def CodeStore.takeEffect (s : CodeStore) (id : Nat) : CodeStore :=
  { s with uses := s.uses ++ [⟨id, s.replaced id⟩] }

def CodeRow.mark (row : CodeRow) : CodeRow := { row with used := true }

def changeUser (users : List Account) (userId : Nat) (change : Account → Account) : List Account :=
  (updateAccount users userId change).getD users

def applyCodeWrite : CodeWrite → CodeStore → CodeStore
  | .create row, s =>
    if s.codes.any (fun other => other.id == row.id) then s else { s with codes := s.codes ++ [row] }
  | .retire id, s => s.setCode id CodeRow.mark
  | .prolong id now, s =>
    s.setCode id (fun row =>
      { row with lastSentAt := some now, expiresAt := now + verificationCodeExpirationMs })
  | .compare userId code now, s =>
    match s.latestUnused userId with
    | none => s
    | some row =>
      if row.expiresAt ≤ now then s
      else { s with guesses := s.guesses ++ [⟨row.id, row.code == code⟩] }
  | .miss id attempts, s =>
    s.setCode id (fun row =>
      { row with
        attemptsCount := attempts
        used := row.used || decide (maxVerificationAttempts ≤ attempts) })
  | .accept id, s => (s.takeEffect id).setCode id CodeRow.mark
  | .activate userId, s =>
    { s with
      users := changeUser s.users userId (fun user =>
        { user with isActive := true, profileStatus := .active }) }
  | .setPassword userId passwordHash id, s =>
    { s.takeEffect id with
      users := changeUser s.users userId (fun user =>
        { user with passwordHash := some passwordHash }) }

end Rows

section Requests

inductive CodeAnswer where
  | noSuchUser
  | alreadyActive
  | noCode
  | expired
  | tooMany
  | wrong
  | sentRecently
  | sent (code : String)
  | right
  | activated
  | changed

abbrev CodeJob := Job CodeStore CodeWrite CodeAnswer

def findByEmail (users : List Account) (email : String) : Option Account :=
  users.find? (fun user => user.email == some email)

structure NewCode where
  id : Nat
  code : String
  createdAt : Int

def createVerification (userId : Nat) (fresh : NewCode) (now : Int) : CodeJob :=
  .write
    (.create ⟨fresh.id, userId, fresh.code, now + verificationCodeExpirationMs, false, 0, some now,
      fresh.createdAt⟩)
    (fun _ => .done (.sent fresh.code))

def sendVerificationCodeEmail (userId : Nat) (fresh : NewCode) (now : Int) : CodeJob :=
  .read (fun s =>
    match s.latestUnused userId with
    | none => createVerification userId fresh now
    | some row =>
      if maxVerificationAttempts ≤ row.attemptsCount then
        .write (.retire row.id) (fun _ => createVerification userId fresh now)
      else if row.expiresAt ≤ now then
        .write (.retire row.id) (fun _ => createVerification userId fresh now)
      else if row.lastSentAt.any (fun sentAt => decide (now - sentAt < resendCodeIntervalMs)) then
        .done .sentRecently
      else .write (.prolong row.id now) (fun _ => .done (.sent row.code)))

/-- `POST /auth/resend`. -/
def resendVerification (email : String) (fresh : NewCode) (now : Int) : CodeJob :=
  .read (fun s =>
    match s.users.find? (hasEmail email) with
    | none => .done .noSuchUser
    | some user =>
      if user.isActive then .done .alreadyActive
      else sendVerificationCodeEmail user.id fresh now)

/-- `POST /auth/verify`, up to the activation. -/
def verifyEmail (email code : String) (now : Int) : CodeJob :=
  .read (fun s =>
    match findByEmail s.users email with
    | none => .done .noSuchUser
    | some user =>
      if user.isActive then .done .alreadyActive
      else
        .write (.compare user.id code now) (fun s =>
          match s.latestUnused user.id with
          | none => .done .noCode
          | some row =>
            if row.expiresAt ≤ now then .write (.retire row.id) (fun _ => .done .expired)
            else if row.code ≠ code then
              .write (.miss row.id (row.attemptsCount + 1)) (fun _ =>
                .done (if maxVerificationAttempts ≤ row.attemptsCount + 1 then .tooMany else .wrong))
            else
              .write (.accept row.id) (fun _ =>
                .write (.activate user.id) (fun _ => .done .activated))))

inductive ActivationRequest where
  | send (userId : Nat) (fresh : NewCode) (now : Int)
  | resend (email : String) (fresh : NewCode) (now : Int)
  | verify (email code : String) (now : Int)

def ActivationRequest.job : ActivationRequest → CodeJob
  | .send userId fresh now => sendVerificationCodeEmail userId fresh now
  | .resend email fresh now => resendVerification email fresh now
  | .verify email code now => verifyEmail email code now

def createReset (userId : Nat) (fresh : NewCode) (now : Int) : CodeJob :=
  .write
    (.create ⟨fresh.id, userId, fresh.code, now + passwordResetCodeExpirationMs, false, 0, none,
      fresh.createdAt⟩)
    (fun _ => .done (.sent fresh.code))

/-- `POST /password-reset/request`. -/
def requestReset (email : String) (fresh : NewCode) (now : Int) : CodeJob :=
  .read (fun s =>
    match s.users.find? (hasEmail email) with
    | none => .done .noSuchUser
    | some user =>
      .read (fun s =>
        match s.latestUnused user.id with
        | none => createReset user.id fresh now
        | some row =>
          if row.expiresAt ≤ now then
            .write (.retire row.id) (fun _ => createReset user.id fresh now)
          else if now - row.createdAt < resetResendIntervalMs then .done .sentRecently
          else .write (.retire row.id) (fun _ => createReset user.id fresh now)))

def checkReset (email code : String) (now : Int) (next : Account → CodeRow → CodeJob) : CodeJob :=
  .read (fun s =>
    match s.users.find? (hasEmail email) with
    | none => .done .noSuchUser
    | some user =>
      .read (fun s =>
        match s.latestUnused user.id with
        | none => .done .noCode
        | some row =>
          if row.expiresAt ≤ now then .write (.retire row.id) (fun _ => .done .expired)
          else if row.code ≠ code then .done .wrong
          else next user row))

/-- `POST /password-reset/verify`. -/
def verifyReset (email code : String) (now : Int) : CodeJob :=
  checkReset email code now (fun _ _ => .done .right)

/-- `POST /password-reset/change`: the password is written before the code is marked. -/
def changePassword (email code passwordHash : String) (now : Int) : CodeJob :=
  checkReset email code now (fun user row =>
    .write (.setPassword user.id passwordHash row.id) (fun _ =>
      .write (.retire row.id) (fun _ => .done .changed)))

inductive ResetRequest where
  | request (email : String) (fresh : NewCode) (now : Int)
  | verify (email code : String) (now : Int)
  | change (email code passwordHash : String) (now : Int)

def ResetRequest.job : ResetRequest → CodeJob
  | .request email fresh now => requestReset email fresh now
  | .verify email code now => verifyReset email code now
  | .change email code passwordHash now => changePassword email code passwordHash now

end Requests

end LeaderProduct
