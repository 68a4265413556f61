import LeaderProduct.TokenRotation

/-! What a logout leaves of the family of the token it was called with. It revokes the row
of that token and no other, and it waits for an exchange that holds the row. -/
namespace LeaderProduct
open Transition

/-- The token is one that `POST /auth/token` accepts. -/
def LiveToken (s : AuthState) (row : RefreshToken) : Prop :=
  row.revoked = false ∧ s.clock ≤ row.expiresAt

instance (s : AuthState) (row : RefreshToken) : Decidable (LiveToken s row) :=
  inferInstanceAs (Decidable (_ ∧ _))

/-- No token of the family of one that was logged out is accepted. -/
def SessionsEnded (s : AuthState) : Prop :=
  ∀ id other row row', s.loggedOut id = true → s.tokens id = some row →
    s.tokens other = some row' → row'.familyId = row.familyId → ¬LiveToken s row'

def TokenPhase.heldToken : TokenPhase → Option Nat
  | .claimed claim | .created claim .. | .linked claim .. => some claim.id
  | _ => none

structure TokenRefused (s : AuthState) (id : Nat) : Prop where
  revoked : ∃ row, s.tokens id = some row ∧ row.revoked = true
  unclaimed : ∀ request phase, s.requests request = some phase → phase.heldToken ≠ some id

def LoggedOutRefused (s : AuthState) : Prop :=
  ∀ id, s.loggedOut id = true → TokenRefused s id

def FamilyLoggedOut (s : AuthState) (familyId : Option Nat) : Prop :=
  ∃ id row, s.loggedOut id = true ∧ s.tokens id = some row ∧ row.familyId = familyId

/-- A logout that goes through leaves no other token of the family live, and no exchange of
a family that was logged out commits a successor that is live. -/
def EndsSession (settings : AuthSettings) (s : AuthState) : AuthAction → Prop
  | .logout userId refreshToken =>
    logoutWaits settings s userId refreshToken = false →
      ∀ id other row row', logoutHits settings s userId refreshToken id = true →
        s.tokens id = some row → s.tokens other = some row' → row'.familyId = row.familyId →
          LiveToken s row' → logoutHits settings s userId refreshToken other = true
  | .commit request =>
    match s.requests request with
    | some (.linked _ _ row) => FamilyLoggedOut s row.familyId → row.expiresAt < s.clock
    | _ => True
  | _ => True

section Steps
variable {settings : AuthSettings} {s : AuthState}

theorem SessionsEnded.frame {after : AuthState} (ended : SessionsEnded s)
    (tokens : after.tokens = s.tokens) (loggedOut : after.loggedOut = s.loggedOut)
    (clock : s.clock ≤ after.clock) : SessionsEnded after := by
  intro id other row row' out found found' same live
  rw [tokens] at found found'
  rw [loggedOut] at out
  exact ended id other row row' out found found' same ⟨live.1, Nat.le_trans clock live.2⟩

theorem SessionsEnded.enter (ended : SessionsEnded s) (request : Nat) (phase : TokenPhase) :
    SessionsEnded (s.enter request phase) :=
  ended.frame rfl rfl (Nat.le_refl _)

theorem SessionsEnded.login (inv : AuthInvariant s) (ended : SessionsEnded s) (userId : Nat)
    (rawToken : String) (deviceSessionId : Option Id) :
    SessionsEnded (loginToken settings s userId rawToken deviceSessionId) := by
  intro id other row row' out found found' same live
  obtain ⟨stored, before, _⟩ := inv.tokens.loggedOut id out
  have issued : id ≠ s.nextId := Nat.ne_of_lt (inv.tokens.numbered id stored before)
  simp only [loginToken, Function.update_apply, if_neg issued] at found found'
  obtain ⟨f, family, drawn⟩ := inv.tokens.family id row found
  split at found'
  · rw [Option.some.injEq] at found'
    subst found'
    rw [family] at same
    exact absurd (Option.some.inj same) (Nat.ne_of_gt drawn)
  · exact ended id other row row' out found found' same live

theorem SessionsEnded.claimToken (ended : SessionsEnded s) (request id userId : Nat)
    (familyId : Option Nat) : SessionsEnded (claimToken settings s request id userId familyId) := by
  unfold LeaderProduct.claimToken
  split
  · exact ended
  · split
    · exact ended.enter request _
    · split
      · exact ended.frame rfl rfl (Nat.le_refl _)
      · exact ended.enter request _

theorem SessionsEnded.failRequest (ended : SessionsEnded s) (request : Nat) :
    SessionsEnded (failRequest s request) := by
  unfold LeaderProduct.failRequest
  split <;> exact ended

theorem sessionsEnded_logout_iff (ended : SessionsEnded s) (userId : Nat) (refreshToken : String) :
    SessionsEnded (logoutToken settings s userId refreshToken) ↔
      EndsSession settings s (.logout userId refreshToken) := by
  cases proceeds : logoutWaits settings s userId refreshToken with
  | true =>
    rw [logoutToken_waits proceeds]
    exact iff_of_true ended (fun goes => by rw [proceeds] at goes; cases goes)
  | false =>
    constructor
    · intro after _ id other row row' hit found found' same live
      cases missed : logoutHits settings s userId refreshToken other with
      | true => rfl
      | false =>
        have out : (logoutToken settings s userId refreshToken).loggedOut id = true := by
          rw [logoutToken_loggedOut proceeds, hit, Bool.or_true]
        refine absurd ⟨?_, ?_⟩ (after id other _ _ out (logoutToken_row proceeds found)
          (logoutToken_row proceeds found') same)
        · rw [missed, Bool.or_false]
          exact live.1
        · exact Nat.le_trans (Nat.le_of_eq logoutToken_clock) live.2
    · intro spares id other row row' out found found' same live
      obtain ⟨before, stored, rfl⟩ := logoutToken_origin proceeds found
      obtain ⟨before', stored', rfl⟩ := logoutToken_origin proceeds found'
      obtain ⟨unrevoked, missed⟩ := Bool.or_eq_false_iff.mp live.1
      have liveBefore : LiveToken s before' :=
        ⟨unrevoked, Nat.le_trans (Nat.le_of_eq logoutToken_clock.symm) live.2⟩
      rw [logoutToken_loggedOut proceeds] at out
      rcases Bool.or_eq_true_iff.mp out with earlier | hit
      · exact ended id other before before' earlier stored stored' same liveBefore
      · have hits := spares proceeds id other before before' hit stored stored' same liveBefore
        rw [missed] at hits
        cases hits

/-- A commit adds one live row, the successor, to the family of the row it revokes. -/
theorem sessionsEnded_commit_iff (inv : AuthInvariant s) (ended : SessionsEnded s)
    {request : Nat} {claim : TokenClaim} {successor : Nat} {row : RefreshToken}
    (current : s.requests request = some (.linked claim successor row)) :
    SessionsEnded (commitRotation s request claim successor row) ↔
      (FamilyLoggedOut s row.familyId → row.expiresAt < s.clock) := by
  obtain ⟨holds, pending⟩ : Holds s request claim ∧ PendingSuccessor s claim successor row :=
    inv.phases request _ current
  obtain ⟨stored, found, unrevoked, userId, familyId⟩ := holds.live
  have rows := @commitRotation_tokens claim row s request stored found successor
  -- A token that was logged out is neither the successor nor the one the exchange holds.
  have kept (id : Nat) (out : s.loggedOut id = true) :
      (commitRotation s request claim successor row).tokens id = s.tokens id := by
    obtain ⟨before, stored', revoked⟩ := inv.tokens.loggedOut id out
    have committed : id ≠ successor := by
      rintro rfl
      rw [pending.uncommitted] at stored'
      cases stored'
    have unheld : id ≠ claim.id := by
      rintro rfl
      rw [found, Option.some.injEq] at stored'
      subst stored'
      rw [unrevoked] at revoked
      cases revoked
    rw [rows, if_neg committed, if_neg unheld]
  constructor
  · rintro after ⟨id, first, out, stored', family⟩
    have dead := after id successor first row out ((kept id out).trans stored')
      ((rows successor).trans (if_pos rfl)) family.symm
    exact Nat.lt_of_not_le (fun unexpired => dead ⟨pending.live, unexpired⟩)
  · intro expired id other first second out found' found'' same live
    rw [kept id out] at found'
    rw [rows] at found''
    split at found''
    · rw [Option.some.injEq] at found''
      subst found''
      exact absurd live.2 (Nat.not_le_of_lt (expired ⟨id, first, out, found', same.symm⟩))
    · split at found''
      · rw [Option.some.injEq] at found''
        subst found''
        cases live.1
      · exact ended id other first second out found' found'' same live

theorem sessionsEnded_authStep_iff (inv : AuthInvariant s) (ended : SessionsEnded s)
    (a : AuthAction) : SessionsEnded (authStep settings s a) ↔ EndsSession settings s a := by
  cases a with
  | receive request refreshToken =>
    refine iff_of_true ?_ trivial
    simp only [authStep]
    split
    · exact ended.enter request _
    · exact ended
  | find request pick =>
    refine iff_of_true ?_ trivial
    simp only [authStep]
    split
    · exact ended.enter request _
    · exact ended
  | authorise request payloadUserId userExists =>
    refine iff_of_true ?_ trivial
    simp only [authStep]
    split
    · exact ended.enter request _
    · exact ended
  | check request =>
    refine iff_of_true ?_ trivial
    simp only [authStep]
    split
    · exact ended.enter request _
    · exact ended
  | claim request =>
    refine iff_of_true ?_ trivial
    simp only [authStep]
    split
    · exact ended.claimToken request _ _ _
    · exact ended
  | create request rawToken deviceSessionId =>
    refine iff_of_true ?_ trivial
    simp only [authStep]
    split
    · exact ended.frame rfl rfl (Nat.le_refl _)
    · exact ended
  | link request =>
    refine iff_of_true ?_ trivial
    simp only [authStep]
    split
    · exact ended.enter request _
    · exact ended
  | commit request =>
    cases current : s.requests request with
    | none => simp [authStep, EndsSession, current, ended]
    | some phase =>
      cases phase with
      | linked claim successor row =>
        simp only [authStep, EndsSession, current]
        exact sessionsEnded_commit_iff inv ended current
      | _ => simp [authStep, EndsSession, current, ended]
  | fail request => exact iff_of_true (ended.failRequest request) trivial
  | login userId rawToken deviceSessionId =>
    exact iff_of_true (ended.login inv userId rawToken deviceSessionId) trivial
  | logout userId refreshToken => exact sessionsEnded_logout_iff ended userId refreshToken
  | tick ms => exact iff_of_true (ended.frame rfl rfl (Nat.le_add_right ..)) trivial

theorem AuthInvariant.loggedOutRefused (inv : AuthInvariant s) : LoggedOutRefused s := by
  intro id out
  obtain ⟨row, found, revoked⟩ := inv.tokens.loggedOut id out
  refine ⟨⟨row, found, revoked⟩, fun request phase current claims => ?_⟩
  have unheld {claim : TokenClaim} (holds : Holds s request claim) : claim.id ≠ id := by
    rintro rfl
    obtain ⟨stored, found', unrevoked, _⟩ := holds.live
    rw [found, Option.some.injEq] at found'
    subst found'
    rw [revoked] at unrevoked
    cases unrevoked
  have holds := inv.phases request phase current
  cases phase with
  | claimed claim => exact unheld holds (Option.some.inj claims)
  | created claim successor row => exact unheld holds.1 (Option.some.inj claims)
  | linked claim successor row => exact unheld holds.1 (Option.some.inj claims)
  | _ => cases claims

end Steps

theorem sessionsEnded_noTokens : SessionsEnded noTokens := by
  intro id other row row' out
  cases out

/-- In every run of logins, exchanges and logouts, a token that was logged out is never
accepted again. No token of its family is accepted any more exactly if every logout that
goes through meets no other live token of the family, and no exchange of a family that was
logged out commits a live successor. -/
theorem logout_ends_session_iff (settings : AuthSettings) (actions : List AuthAction) :
    Always (authStep settings) LoggedOutRefused noTokens actions ∧
      (Always (authStep settings) SessionsEnded noTokens actions ↔
        EachStep (authStep settings) (EndsSession settings) noTokens actions) :=
  ⟨always_of_invariant (authStep_invariant settings) (fun _ inv => inv.loggedOutRefused)
      authInvariant_noTokens actions,
    always_iff_eachStep_of_inv (authStep_invariant settings)
      (fun _ a inv ended => sessionsEnded_authStep_iff inv ended a) authInvariant_noTokens
      sessionsEnded_noTokens actions⟩

/-- The logout waits for the exchange that holds its token, and then revokes that token
alone: the successor of the exchange stays live. -/
theorem logout_leaves_successor :
    ¬Always (authStep ⟨fun token => "h" ++ token, 10000⟩) SessionsEnded noTokens
      [.login 7 "T0" none, .receive 0 "T0", .find 0 (some 0), .authorise 0 (some 7) true,
        .check 0, .claim 0, .create 0 "T1" none, .link 0, .logout 7 "T0", .commit 0,
        .logout 7 "T0"] := by
  intro always
  exact always.last 0 1 _ _ rfl rfl rfl rfl ⟨rfl, by decide⟩

end LeaderProduct
