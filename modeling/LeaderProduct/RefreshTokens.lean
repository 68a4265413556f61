import Mathlib.Logic.Function.Basic
import LeaderProduct.Order

/-! Refresh tokens: how a login issues one, how `POST /auth/token` exchanges it for its
successor, and how a logout revokes it. A request is its statements in turn, those of its
transaction under READ COMMITTED: what it has written is seen by others at its commit, and
an update of a row that another transaction has updated waits for the end of that one. A
UUID is named by the number of its draw, so none is drawn twice. The access token, the
profile and the device sessions are left out. -/
namespace LeaderProduct

structure RefreshToken where
  token : String
  tokenHash : Option String
  userId : Nat
  deviceSessionId : Option Id
  familyId : Option Nat
  replacedById : Option Nat
  expiresAt : Instant
  revoked : Bool
  usedAt : Option Instant
  graceUntil : Option Instant

structure AuthSettings where
  hashRefreshToken : String → String
  graceMs : Nat

def refreshLifetimeMs : Nat := 30 * 24 * 60 * 60 * 1000

def Presents (settings : AuthSettings) (refreshToken : String) (row : RefreshToken) : Prop :=
  row.tokenHash = some (settings.hashRefreshToken refreshToken) ∨ row.token = refreshToken ∨
    row.token = settings.hashRefreshToken refreshToken

instance (settings : AuthSettings) (refreshToken : String) (row : RefreshToken) :
    Decidable (Presents settings refreshToken row) := inferInstanceAs (Decidable (_ ∨ _))

def createdToken (settings : AuthSettings) (rawToken : String) (userId : Nat)
    (deviceSessionId : Option Id) (familyId : Nat) (now : Instant) : RefreshToken where
  token := settings.hashRefreshToken rawToken
  tokenHash := some (settings.hashRefreshToken rawToken)
  userId := userId
  deviceSessionId := deviceSessionId
  familyId := some familyId
  replacedById := none
  expiresAt := now + refreshLifetimeMs
  revoked := false
  usedAt := none
  graceUntil := none

structure TokenClaim where
  id : Nat
  userId : Nat
  familyId : Option Nat
  usedAt : Instant
  graceUntil : Instant

/-- Where a `POST /auth/token` stands. From `claimed` on its transaction holds the row; the
rows of `created` and `linked` are not committed yet. -/
inductive TokenPhase where
  | received (refreshToken : String)
  | found (id userId : Nat)
  | authorised (id userId : Nat)
  | checked (id userId : Nat) (familyId : Option Nat)
  | claimed (claim : TokenClaim)
  | created (claim : TokenClaim) (successor : Nat) (row : RefreshToken)
  | linked (claim : TokenClaim) (successor : Nat) (row : RefreshToken)
  | rotated (id successor : Nat)
  | refused (status : Nat)

/-- The committed rows by their id, the row locks, and the requests. `loggedOut` marks the
rows that a logout has revoked, for the statements alone. -/
structure AuthState where
  tokens : Nat → Option RefreshToken
  nextId : Nat
  draws : Nat
  clock : Instant
  lockedBy : Nat → Option Nat
  requests : Nat → Option TokenPhase
  loggedOut : Nat → Bool

inductive AuthAction where
  | receive (request : Nat) (refreshToken : String)
  | find (request : Nat) (pick : Option Nat)
  | authorise (request : Nat) (payloadUserId : Option Nat) (userExists : Bool)
  | check (request : Nat)
  | claim (request : Nat)
  | create (request : Nat) (rawToken : String) (deviceSessionId : Option Id)
  | link (request : Nat)
  | commit (request : Nat)
  | fail (request : Nat)
  | login (userId : Nat) (rawToken : String) (deviceSessionId : Option Id)
  | logout (userId : Nat) (refreshToken : String)
  | tick (ms : Nat)

section Steps
variable (settings : AuthSettings) (s : AuthState)

def AuthState.enter (request : Nat) (phase : TokenPhase) : AuthState :=
  { s with requests := Function.update s.requests request (some phase) }

/-- `pick` is the row that the database finds first among those the token is looked up by. -/
def pickToken (refreshToken : String) (pick : Option Nat) : Option (Nat × RefreshToken) :=
  pick.bind (fun id => ((s.tokens id).filter (fun row =>
    decide (Presents settings refreshToken row))).map (fun row => (id, row)))

def findToken (refreshToken : String) (pick : Option Nat) : TokenPhase :=
  match pickToken settings s refreshToken pick with
  | none => .refused 403
  | some (id, row) =>
    if row.revoked then
      if (row.graceUntil.map (fun graceUntil => decide (s.clock < graceUntil))).getD false then
        .refused 409
      else .refused 403
    else if row.expiresAt < s.clock then .refused 403
    else .found id row.userId

def checkToken (id userId : Nat) : TokenPhase :=
  match s.tokens id with
  | none => .refused 409
  | some row =>
    if row.revoked = true ∨ row.expiresAt < s.clock then .refused 409
    else .checked id userId row.familyId

/-- The conditional update: it waits for the holder of the row, and then takes the row as it
stands. -/
def claimToken (request id userId : Nat) (familyId : Option Nat) : AuthState :=
  match s.lockedBy id with
  | some _ => s
  | none =>
    match s.tokens id with
    | none => s.enter request (.refused 409)
    | some row =>
      if row.revoked = false ∧ s.clock ≤ row.expiresAt then
        { s.enter request
            (.claimed ⟨id, userId, familyId, s.clock, s.clock + settings.graceMs⟩) with
          lockedBy := Function.update s.lockedBy id (some request) }
      else s.enter request (.refused 409)

def createToken (request : Nat) (rawToken : String) (deviceSessionId : Option Id)
    (claim : TokenClaim) : AuthState :=
  { s.enter request (.created claim s.nextId (createdToken settings rawToken claim.userId
      deviceSessionId (claim.familyId.getD s.draws) s.clock)) with
    nextId := s.nextId + 1
    draws := if claim.familyId.isSome then s.draws else s.draws + 1 }

def rotatedToken (claim : TokenClaim) (successor : Nat) (row : RefreshToken) : RefreshToken :=
  { row with
    revoked := true
    usedAt := some claim.usedAt
    graceUntil := some claim.graceUntil
    replacedById := some successor }

def commitRotation (request : Nat) (claim : TokenClaim) (successor : Nat) (row : RefreshToken) :
    AuthState :=
  { s.enter request (.rotated claim.id successor) with
    tokens := Function.update (Function.update s.tokens claim.id
      ((s.tokens claim.id).map (rotatedToken claim successor))) successor (some row)
    lockedBy := Function.update s.lockedBy claim.id none }

def failRequest (request : Nat) : AuthState :=
  match s.requests request with
  | none | some (.rotated ..) | some (.refused _) => s
  | some (.claimed claim) | some (.created claim ..) | some (.linked claim ..) =>
    { s.enter request (.refused 500) with lockedBy := Function.update s.lockedBy claim.id none }
  | some (.received _) | some (.found ..) | some (.authorised ..) | some (.checked ..) =>
    s.enter request (.refused 500)

def loginToken (userId : Nat) (rawToken : String) (deviceSessionId : Option Id) : AuthState :=
  { s with
    tokens := Function.update s.tokens s.nextId
      (some (createdToken settings rawToken userId deviceSessionId s.draws s.clock))
    nextId := s.nextId + 1
    draws := s.draws + 1 }

def logoutHits (userId : Nat) (refreshToken : String) (id : Nat) : Bool :=
  match s.tokens id with
  | some row => row.userId == userId && decide (Presents settings refreshToken row)
  | none => false

def logoutWaits (userId : Nat) (refreshToken : String) : Bool :=
  (List.range s.nextId).any (fun id =>
    logoutHits settings s userId refreshToken id && (s.lockedBy id).isSome)

def logoutToken (userId : Nat) (refreshToken : String) : AuthState :=
  if logoutWaits settings s userId refreshToken then s
  else
    { s with
      tokens := fun id =>
        if logoutHits settings s userId refreshToken id then
          (s.tokens id).map (fun row => { row with revoked := true })
        else s.tokens id
      loggedOut := fun id => s.loggedOut id || logoutHits settings s userId refreshToken id }

def authStep : AuthAction → AuthState
  | .receive request refreshToken =>
    match s.requests request with
    | none => s.enter request (.received refreshToken)
    | some _ => s
  | .find request pick =>
    match s.requests request with
    | some (.received refreshToken) => s.enter request (findToken settings s refreshToken pick)
    | _ => s
  | .authorise request payloadUserId userExists =>
    match s.requests request with
    | some (.found id userId) =>
      s.enter request
        (if payloadUserId = some userId ∧ userExists then .authorised id userId else .refused 403)
    | _ => s
  | .check request =>
    match s.requests request with
    | some (.authorised id userId) => s.enter request (checkToken s id userId)
    | _ => s
  | .claim request =>
    match s.requests request with
    | some (.checked id userId familyId) => claimToken settings s request id userId familyId
    | _ => s
  | .create request rawToken deviceSessionId =>
    match s.requests request with
    | some (.claimed claim) => createToken settings s request rawToken deviceSessionId claim
    | _ => s
  | .link request =>
    match s.requests request with
    | some (.created claim successor row) => s.enter request (.linked claim successor row)
    | _ => s
  | .commit request =>
    match s.requests request with
    | some (.linked claim successor row) => commitRotation s request claim successor row
    | _ => s
  | .fail request => failRequest s request
  | .login userId rawToken deviceSessionId => loginToken settings s userId rawToken deviceSessionId
  | .logout userId refreshToken => logoutToken settings s userId refreshToken
  | .tick ms => { s with clock := s.clock + ms }

end Steps

def noTokens : AuthState :=
  ⟨fun _ => none, 0, 0, 0, fun _ => none, fun _ => none, fun _ => false⟩

end LeaderProduct
