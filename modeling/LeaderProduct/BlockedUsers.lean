import LeaderProduct.SelfService

/-! When a blocked user stays blocked and gets no tokens. -/
namespace LeaderProduct
open Transition Interleaving RowTable

variable {s t : AccessStore} {user : Account} {users users' : List Account}
    {change : Account → Account} {now : Int} {userId : Nat}

section Blocked

def Blocked (users : List Account) (id : Nat) : Prop :=
  ∃ user, findAccount users id = some user ∧ user.profileStatus = .blocked

instance (users : List Account) (id : Nat) : Decidable (Blocked users id) :=
  decidable_of_iff ((findAccount users id).any (fun user => user.profileStatus == .blocked) = true)
    (by simp only [Blocked, Option.any_eq_true, beq_iff_eq])

def AccessStore.issuedTo (s : AccessStore) (id : Nat) : List Nat :=
  s.issued.filter (fun userId => userId == id)

/-- Who is blocked in `s` is blocked in `t` and has got no tokens since. -/
def StaysOut (s t : AccessStore) : Prop :=
  ∀ id, Blocked s.users id → Blocked t.users id ∧ t.issuedTo id = s.issuedTo id

theorem StaysOut.trans {s t u : AccessStore} (first : StaysOut s t) (second : StaysOut t u) :
    StaysOut s u := by
  intro id blocked
  obtain ⟨still, none_issued⟩ := first id blocked
  obtain ⟨last, none_later⟩ := second id still
  exact ⟨last, none_later.trans none_issued⟩

theorem findAccount_update {id : Nat} (written : updateAccount users id change = some users')
    (keeps : ∀ user, (change user).id = user.id) (other : Nat) :
    findAccount users' other =
      if other = id then (findAccount users id).map change else findAccount users other := by
  rw [(updateAccount_some written).1]
  exact lookup_modify keeps users id other

theorem blocked_kept (id : Nat) : KeptByWrites (fun users => Blocked users id) where
  update {users users' other change} now plain written := by
    obtain ⟨user, found, blocked⟩ := now
    rw [Blocked, findAccount_update written plain.id]
    split
    · next same =>
      rw [same] at found
      exact ⟨change user, by rw [found]; rfl, (plain.profileStatus user).trans blocked⟩
    · exact ⟨user, found, blocked⟩
  create {users users' user} now written := by
    obtain ⟨rfl, _⟩ := createAccount_some written
    obtain ⟨known, found, blocked⟩ := now
    have there : lookup (·.id) users id = some known := found
    refine ⟨known, ?_, blocked⟩
    rw [findAccount, lookup_append, there, Option.some_or]

theorem staysOut_of_kept (kept : ∀ K, KeptByWrites K → K s.users → K t.users)
    (none_issued : t.issued = s.issued) :
    StaysOut s t := by
  intro id blocked
  refine ⟨kept _ (blocked_kept id) blocked, ?_⟩
  rw [AccessStore.issuedTo, none_issued]
  rfl

theorem staysOut_issue_iff (found : findAccount s.users user.id = some user)
    (others : ∀ id, id ≠ user.id → findAccount t.users id = findAccount s.users id)
    (issued : t.issued = s.issued ++ [user.id]) :
    StaysOut s t ↔ user.profileStatus ≠ .blocked := by
  have issuedTo (id : Nat) : t.issuedTo id = s.issuedTo id ↔ user.id ≠ id := by
    rw [AccessStore.issuedTo, issued, List.filter_append, List.filter_singleton]
    by_cases here : user.id = id
    · simp [here, AccessStore.issuedTo]
    · simp [here, beq_eq_false_iff_ne.mpr here, AccessStore.issuedTo]
  constructor
  · intro stays blocked
    exact (issuedTo user.id).mp (stays user.id ⟨user, found, blocked⟩).2 rfl
  · rintro free id ⟨other, here, blocked⟩
    have different : user.id ≠ id := by
      rintro rfl
      rw [found, Option.some.injEq] at here
      exact free (here ▸ blocked)
    exact ⟨⟨other, (others id different.symm).trans here, blocked⟩, (issuedTo id).mpr different⟩

end Blocked

section Codes

def CodeWrite.Plain : CodeWrite → Prop
  | .activate _ => False
  | _ => True

variable {K : List Account → Prop} (kept : KeptByWrites K)
include kept

theorem codeWrite_keeps (w : CodeWrite) (s : CodeStore) (plain : w.Plain) (now : K s.users) :
    K (applyCodeWrite w s).users := by
  cases w with
  | activate userId => cases plain
  | setPassword userId passwordHash id =>
    simp only [applyCodeWrite, changeUser]
    cases written : updateAccount s.users userId (fun user =>
        { user with passwordHash := some passwordHash }) with
    | none => exact now
    | some users' =>
      refine kept.update now ⟨fun user => ?_, fun user => ?_⟩ written
      · rfl
      · rfl
  | create row =>
    simp only [applyCodeWrite]
    split <;> exact now
  | compare userId code time =>
    simp only [applyCodeWrite]
    split
    · exact now
    · split <;> exact now
  | retire id => exact now
  | prolong id time => exact now
  | miss id attempts => exact now
  | accept id => exact now

theorem codeJob_keeps {running : CodeJob} (plain : running.Within CodeWrite.Plain) {s : CodeStore}
    (now : K s.users) : K (running.alone applyCodeWrite s).1.users :=
  alone_keeps (J := fun s : CodeStore => K s.users)
    (fun w t met here => codeWrite_keeps kept w t met here) plain now

end Codes

section Plain

theorem sendVerification_plain (userId : Nat) (fresh : NewCode) (now : Int) :
    (sendVerificationCodeEmail userId fresh now).Within CodeWrite.Plain := by
  have created : (createVerification userId fresh now).Within CodeWrite.Plain :=
    ⟨True.intro, fun _ => True.intro⟩
  intro s
  dsimp only
  split
  · exact created
  · split
    · exact ⟨True.intro, fun _ => created⟩
    · split
      · exact ⟨True.intro, fun _ => created⟩
      · split
        · exact True.intro
        · exact ⟨True.intro, fun _ => True.intro⟩

theorem resend_plain (email : String) (fresh : NewCode) (now : Int) :
    (resendVerification email fresh now).Within CodeWrite.Plain := by
  intro s
  dsimp only
  split
  · exact True.intro
  · split
    · exact True.intro
    · exact sendVerification_plain _ fresh now

theorem checkReset_plain {email code : String} {next : Account → CodeRow → CodeJob}
    (plain : ∀ user row, (next user row).Within CodeWrite.Plain) :
    (checkReset email code now next).Within CodeWrite.Plain := by
  intro s
  dsimp only
  split
  · exact True.intro
  · intro t
    dsimp only
    split
    · exact True.intro
    · split
      · exact ⟨True.intro, fun _ => True.intro⟩
      · split
        · exact True.intro
        · exact plain _ _

theorem reset_plain (request : ResetRequest) : request.job.Within CodeWrite.Plain := by
  cases request with
  | request email fresh now =>
    have created (userId : Nat) : (createReset userId fresh now).Within CodeWrite.Plain :=
      ⟨True.intro, fun _ => True.intro⟩
    intro s
    dsimp only
    split
    · exact True.intro
    · intro t
      dsimp only
      split
      · exact created _
      · split
        · exact ⟨True.intro, fun _ => created _⟩
        · split
          · exact True.intro
          · exact ⟨True.intro, fun _ => created _⟩
  | verify email code now => exact checkReset_plain fun _ _ => True.intro
  | change email code passwordHash now =>
    exact checkReset_plain fun _ _ => ⟨True.intro, fun _ => ⟨True.intro, fun _ => True.intro⟩⟩

end Plain

section Activation

def activate (user : Account) : Account := { user with isActive := true, profileStatus := .active }

def activatedBy (s : CodeStore) (email code : String) (now : Int) : Option Account :=
  (findByEmail s.users email).filter (fun user =>
    !user.isActive && (s.latestUnused user.id).any (fun row =>
      decide (now < row.expiresAt) && row.code == code))

theorem compare_users (s : CodeStore) (userId : Nat) (code : String) (now : Int) :
    (applyCodeWrite (.compare userId code now) s).users = s.users := by
  simp only [applyCodeWrite]
  split
  · rfl
  · split <;> rfl

theorem verifyEmail_cases (s : CodeStore) (email code : String) (now : Int) :
    (∃ user, activatedBy s email code now = some user ∧
      ((verifyEmail email code now).alone applyCodeWrite s).1.users =
        changeUser s.users user.id activate ∧
      ((verifyEmail email code now).alone applyCodeWrite s).2 = .activated) ∨
    (activatedBy s email code now = none ∧
      ((verifyEmail email code now).alone applyCodeWrite s).1.users = s.users ∧
      ((verifyEmail email code now).alone applyCodeWrite s).2 ≠ .activated) := by
  unfold activatedBy verifyEmail
  rw [Job.alone]
  cases found : findByEmail s.users email with
  | none => exact Or.inr ⟨rfl, rfl, fun h => by cases h⟩
  | some user =>
    rw [Option.filter_some]
    dsimp only
    cases active : user.isActive with
    | true => exact Or.inr ⟨rfl, rfl, fun h => by cases h⟩
    | false =>
      rw [if_neg Bool.false_ne_true, Job.alone]
      cases latest : s.latestUnused user.id with
      | none => exact Or.inr ⟨rfl, compare_users s user.id code now, fun h => by cases h⟩
      | some row =>
        dsimp only
        by_cases late : row.expiresAt ≤ now
        · rw [if_pos late, Option.any_some, decide_eq_false (Int.not_lt.mpr late)]
          exact Or.inr ⟨rfl, compare_users s user.id code now, fun h => by cases h⟩
        · by_cases wrong : row.code ≠ code
          · rw [if_neg late, if_pos wrong, Option.any_some, beq_eq_false_iff_ne.mpr wrong,
              Bool.and_false]
            refine Or.inr ⟨rfl, compare_users s user.id code now, ?_⟩
            simp only [Job.alone]
            split
            · exact fun h => by cases h
            · exact fun h => by cases h
          · rw [if_neg late, if_neg wrong, Option.any_some, decide_eq_true (Int.not_le.mp late),
              beq_iff_eq.mpr (not_not.mp wrong)]
            refine Or.inl ⟨user, rfl, ?_, rfl⟩
            have same : (applyCodeWrite (.accept row.id)
                (applyCodeWrite (.compare user.id code now) s)).users = s.users :=
              compare_users s user.id code now
            change changeUser (applyCodeWrite (.accept row.id)
              (applyCodeWrite (.compare user.id code now) s)).users user.id activate = _
            rw [same]

theorem of_activatedBy {s : CodeStore} {email code : String}
    (found : activatedBy s email code now = some user) :
    findByEmail s.users email = some user ∧ user ∈ s.users := by
  have here := (Option.filter_eq_some_iff.mp found).1
  exact ⟨here, List.mem_of_find?_eq_some here⟩

theorem activate_written (now : ConsistentTable users) (known : user ∈ users) :
    (updateAccount users user.id activate).isSome :=
  updateAccount_isSome now.unique known (fun other here => now.apart other here user known)

end Activation

section Steps
variable (settings : AuthSettings) (hashToken : String → String)
  (comparePassword : String → String → Bool)

/-- The request does not refresh the tokens of a blocked user, does not poll a session that is
verified for one, and does not activate one. -/
def RefusesBlocked (s : AccessStore) : AccessRequest → Prop
  | .refresh refreshToken payloadUserId fresh => ∀ stored user,
    acceptedToken settings s refreshToken payloadUserId fresh.now = some (stored, user) →
      user.profileStatus ≠ .blocked
  | .pollQr provider sessionToken fresh => ∀ session user,
    polledUser hashToken s provider sessionToken fresh.now = some (session, user) →
      user.profileStatus ≠ .blocked
  | .verify email code fresh => ∀ user,
    activatedBy ⟨s.users, s.codes, [], []⟩ email code fresh.now = some user →
      user.profileStatus ≠ .blocked
  | _ => True

theorem StaysOut.refl (s : AccessStore) : StaysOut s s := fun _ blocked => ⟨blocked, rfl⟩

theorem staysOut_block (written : updateAccount s.users userId
      (fun user => { user with profileStatus := .blocked }) = some users')
    (after : t.users = users') (none_issued : t.issued = s.issued) : StaysOut s t := by
  rintro id ⟨user, found, blocked⟩
  constructor
  · rw [after, Blocked, findAccount_update written (fun _ => rfl)]
    split
    · next same =>
      rw [same] at found
      exact ⟨_, by rw [found]; rfl, rfl⟩
    · exact ⟨user, found, blocked⟩
  · rw [AccessStore.issuedTo, none_issued]
    rfl

theorem login_staysOut (consistent : ConsistentTable s.users) (email password : String)
    (fresh : NewToken) :
    StaysOut s (login settings comparePassword s email password fresh) := by
  unfold login
  split
  · exact StaysOut.refl s
  · next user found =>
    have mine := findAccount_of_mem consistent.unique (List.mem_of_find?_eq_some found)
    split
    · exact StaysOut.refl s
    · next free =>
      split
      · exact StaysOut.refl s
      · split
        · exact StaysOut.refl s
        · split
          · exact Iff.mpr (staysOut_issue_iff mine (fun _ _ => rfl) rfl) free
          · split
            · cases written : updateAccount s.users user.id
                (fun user => { user with profileStatus := .blocked }) with
              | none => exact StaysOut.refl s
              | some users' => exact staysOut_block written rfl rfl
            · exact StaysOut.refl s

theorem of_acceptedToken {refreshToken : String} {payloadUserId : Option Nat} {now : Instant}
    {stored : StoredToken}
    (accepted : acceptedToken settings s refreshToken payloadUserId now = some (stored, user)) :
    findAccount s.users user.id = some user := by
  unfold acceptedToken at accepted
  split at accepted
  · cases accepted
  · split at accepted
    · cases accepted
    · split at accepted
      · cases accepted
      · split at accepted
        · cases accepted
        · split at accepted
          · next found _ =>
            split at accepted
            · cases accepted
            · cases accepted
              have named : user.id = _ := key_of_lookup found
              rw [named]
              exact found
          · cases accepted

theorem refresh_staysOut_iff (s : AccessStore) (refreshToken : String)
    (payloadUserId : Option Nat) (fresh : NewToken) :
    StaysOut s (refresh settings s refreshToken payloadUserId fresh) ↔
      ∀ stored user, acceptedToken settings s refreshToken payloadUserId fresh.now =
        some (stored, user) → user.profileStatus ≠ .blocked := by
  unfold refresh
  cases accepted : acceptedToken settings s refreshToken payloadUserId fresh.now with
  | none => exact iff_of_true (StaysOut.refl s) (fun _ _ here => by cases here)
  | some pair =>
    obtain ⟨stored, user⟩ := pair
    have mine := of_acceptedToken settings accepted
    refine Iff.trans (staysOut_issue_iff mine (fun _ _ => rfl) rfl) ?_
    constructor
    · intro free _ _ here
      cases here
      exact free
    · exact fun all => all stored user rfl

theorem signIn_staysOut (consistent : ConsistentTable s.users) (provider : MessengerProvider)
    (messengerId : Int) (fresh : NewToken) :
    StaysOut s (signIn settings s provider messengerId fresh) := by
  unfold signIn
  split
  · exact StaysOut.refl s
  · next user found =>
    have mine := findAccount_of_mem consistent.unique (List.mem_of_find?_eq_some found)
    split
    · exact StaysOut.refl s
    · next free =>
      exact Iff.mpr (staysOut_issue_iff mine (fun _ _ => rfl) rfl) free

theorem of_polledUser {provider : MessengerProvider} {sessionToken : String} {session : QrSession}
    (verified : polledUser hashToken s provider sessionToken now = some (session, user)) :
    findAccount s.users user.id = some user := by
  unfold polledUser at verified
  split at verified
  · split at verified
    · obtain ⟨user', bound, pair⟩ := Option.map_eq_some_iff.mp verified
      cases pair
      obtain ⟨userId, _, found⟩ := Option.bind_eq_some_iff.mp bound
      have named : user.id = userId := key_of_lookup found
      rw [named]
      exact found
    · cases verified
  · cases verified

theorem pollQr_staysOut_iff (s : AccessStore) (provider : MessengerProvider)
    (sessionToken : String) (fresh : NewToken) :
    StaysOut s (pollQr settings hashToken s provider sessionToken fresh) ↔
      ∀ session user, polledUser hashToken s provider sessionToken fresh.now =
        some (session, user) → user.profileStatus ≠ .blocked := by
  unfold pollQr
  cases verified : polledUser hashToken s provider sessionToken fresh.now with
  | none =>
    have same : StaysOut s (s.runQr (polledSession hashToken provider sessionToken fresh.now)) :=
      fun _ blocked => ⟨blocked, rfl⟩
    exact iff_of_true same (fun _ _ here => by cases here)
  | some pair =>
    obtain ⟨session, user⟩ := pair
    have mine := of_polledUser hashToken verified
    refine Iff.trans (staysOut_issue_iff mine (fun _ _ => rfl) rfl) ?_
    constructor
    · intro free _ _ here
      cases here
      exact free
    · exact fun all => all session user rfl

theorem changeUser_some (written : updateAccount users userId change = some users') :
    changeUser users userId change = users' := by
  rw [changeUser, written, Option.getD_some]

theorem runCodes_users (s : AccessStore) (running : CodeJob) : (s.runCodes running).1.users =
    (running.alone applyCodeWrite ⟨s.users, s.codes, [], []⟩).1.users := rfl

theorem verify_staysOut_iff (consistent : ConsistentTable s.users) (email code : String)
    (fresh : NewToken) :
    StaysOut s (verify settings s email code fresh) ↔ ∀ user,
      activatedBy ⟨s.users, s.codes, [], []⟩ email code fresh.now = some user →
        user.profileStatus ≠ .blocked := by
  unfold verify
  rcases verifyEmail_cases ⟨s.users, s.codes, [], []⟩ email code fresh.now with
    ⟨user, activated, users, answer⟩ | ⟨refused, users, answer⟩
  · obtain ⟨found, known⟩ := of_activatedBy activated
    obtain ⟨users', written⟩ := Option.isSome_iff_exists.mp (activate_written consistent known)
    have mine := findAccount_of_mem consistent.unique known
    have after : (s.runCodes (verifyEmail email code fresh.now)).1.users = users' :=
      users.trans (changeUser_some written)
    have right : (s.runCodes (verifyEmail email code fresh.now)).2 = .activated := answer
    have there (other : Nat) : findAccount users' other =
        if other = user.id then some (activate user) else findAccount s.users other := by
      rw [findAccount_update written (fun _ => rfl), mine]
      rfl
    have found' : findByEmail s.users email = some user := found
    have here : (findAccount (s.runCodes (verifyEmail email code fresh.now)).1.users
        user.id).isSome = true := by
      rw [after, there, if_pos rfl]
      rfl
    dsimp only
    rw [found', right, activated]
    dsimp only
    rw [if_pos here]
    have others (id : Nat) (other : id ≠ user.id) :
        findAccount (s.runCodes (verifyEmail email code fresh.now)).1.users id =
          findAccount s.users id := by
      rw [after, there, if_neg other]
    refine Iff.trans (staysOut_issue_iff mine others rfl) ?_
    constructor
    · intro free _ same
      cases same
      exact free
    · exact fun all => all user rfl
  · have same : (s.runCodes (verifyEmail email code fresh.now)).1.users = s.users := users
    have stays : StaysOut s (s.runCodes (verifyEmail email code fresh.now)).1 :=
      fun id blocked => ⟨same.symm ▸ blocked, rfl⟩
    rw [refused]
    refine iff_of_true ?_ (fun _ here => by cases here)
    dsimp only
    split
    · next right => exact absurd right answer
    · exact stays

end Steps

section Quiet
variable (hashToken : String → String) {K : List Account → Prop} (kept : KeptByWrites K)
  {s : AccessStore}
include kept

theorem runCodes_keeps (now : K s.users) {running : CodeJob}
    (plain : running.Within CodeWrite.Plain) : K (s.runCodes running).1.users :=
  codeJob_keeps (s := ⟨s.users, s.codes, [], []⟩) kept plain now

theorem runPhone_keeps (now : K s.users) (running : PhoneJob) : K (s.runPhone running).users :=
  kept.phoneJob running (s := s.phones) now

theorem receiveContact_keeps (now : K s.users) (provider : MessengerProvider)
    (messengerUserId : Int) (phoneRaw : String) (newId : Nat) (time later : Int) :
    K (receiveContact hashToken s provider messengerUserId phoneRaw newId time later).users := by
  unfold receiveContact
  split
  · exact now
  · split
    · exact now
    · next text _ =>
      dsimp only
      split
      · exact runPhone_keeps kept now _
      · have resolved : K (s.setUsers ((resolveMessengerUserState provider s.users messengerUserId
            (some text) newId).map (·.users))).users := by
          refine setUsers_keeps (s := s.phones) now fun users' written => ?_
          obtain ⟨resolved, here, rfl⟩ := Option.map_eq_some_iff.mp written
          exact kept.resolve now here
        exact runPhone_keeps (s := (s.setUsers _).runQr _) kept resolved _

theorem credentials_keeps (now : K s.users) (userId : Nat) (email passwordHash : GivenString)
    (fresh : NewCode) (time : Int) :
    K (credentials s userId email passwordHash fresh time).users := by
  unfold credentials
  split
  · exact now
  · next users written =>
    exact runCodes_keeps (s := s.setUsers (some users)) kept (kept.credentials now written)
      (sendVerification_plain userId fresh time)

end Quiet

section Runs
variable (settings : AuthSettings) (hashToken : String → String)
  (comparePassword : String → String → Bool)

theorem receiveContact_issued (s : AccessStore) (provider : MessengerProvider)
    (messengerUserId : Int) (phoneRaw : String) (newId : Nat) (time later : Int) :
    (receiveContact hashToken s provider messengerUserId phoneRaw newId time later).issued =
      s.issued := by
  unfold receiveContact
  split
  · rfl
  · split
    · rfl
    · dsimp only
      split <;> rfl

theorem credentials_issued (s : AccessStore) (userId : Nat) (email passwordHash : GivenString)
    (fresh : NewCode) (time : Int) :
    (credentials s userId email passwordHash fresh time).issued = s.issued := by
  unfold credentials
  split <;> rfl

theorem access_step_iff (s : AccessStore) (request : AccessRequest)
    (consistent : ConsistentTable s.users) :
    StaysOut s (accessStep settings hashToken comparePassword s request) ↔
      RefusesBlocked settings hashToken s request := by
  cases request with
  | login email password fresh =>
    exact iff_of_true (login_staysOut settings comparePassword consistent email password fresh)
      True.intro
  | refresh refreshToken payloadUserId fresh =>
    exact refresh_staysOut_iff settings s refreshToken payloadUserId fresh
  | signIn provider messengerId fresh =>
    exact iff_of_true (signIn_staysOut settings consistent provider messengerId fresh) True.intro
  | startQr provider id startToken sessionToken expiresAt time =>
    exact iff_of_true (StaysOut.refl s) True.intro
  | pollQr provider sessionToken fresh =>
    exact pollQr_staysOut_iff settings hashToken s provider sessionToken fresh
  | cancelQr provider sessionToken time => exact iff_of_true (StaysOut.refl s) True.intro
  | bindQr provider startToken messengerUserId time =>
    exact iff_of_true (StaysOut.refl s) True.intro
  | bindPhone provider token messengerUserId time =>
    exact iff_of_true (staysOut_of_kept (fun _ kept now => runPhone_keeps kept now _) rfl)
      True.intro
  | contact provider messengerUserId phoneRaw newId time later =>
    exact iff_of_true (staysOut_of_kept (fun _ kept now => receiveContact_keeps hashToken kept now
      provider messengerUserId phoneRaw newId time later) (receiveContact_issued hashToken s provider
      messengerUserId phoneRaw newId time later)) True.intro
  | credentials userId email passwordHash fresh time =>
    exact iff_of_true (staysOut_of_kept (fun _ kept now => credentials_keeps kept now userId email
      passwordHash fresh time) (credentials_issued s userId email passwordHash fresh time))
      True.intro
  | resend email fresh time =>
    exact iff_of_true (staysOut_of_kept (fun _ kept now => runCodes_keeps kept now
      (resend_plain email fresh time)) rfl) True.intro
  | verify email code fresh => exact verify_staysOut_iff settings consistent email code fresh
  | reset request =>
    have kept (K : List Account → Prop) (kept : KeptByWrites K) (now : K s.users) :
        K (s.runResets request.job).users :=
      codeJob_keeps (s := ⟨s.users, s.resets, [], []⟩) kept (reset_plain request) now
    exact iff_of_true (staysOut_of_kept kept rfl) True.intro

theorem changeUser_consistent (now : ConsistentTable users)
    (keeps : ∀ user, (change user).id = user.id) :
    ConsistentTable (changeUser users userId change) := by
  unfold changeUser
  cases written : updateAccount users userId change with
  | none => exact now
  | some users' => exact consistent_update now written keeps

theorem access_consistent (s : AccessStore) (request : AccessRequest)
    (now : ConsistentTable s.users) :
    ConsistentTable (accessStep settings hashToken comparePassword s request).users := by
  cases request with
  | login email password fresh =>
    simp only [accessStep, login]
    split
    · exact now
    · split
      · exact now
      · split
        · exact now
        · split
          · exact now
          · split
            · exact now
            · split
              · exact changeUser_consistent now (fun _ => rfl)
              · exact now
  | refresh refreshToken payloadUserId fresh =>
    simp only [accessStep, refresh]
    split <;> exact now
  | signIn provider messengerId fresh =>
    simp only [accessStep, signIn]
    split
    · exact now
    · split <;> exact now
  | startQr provider id startToken sessionToken expiresAt time => exact now
  | pollQr provider sessionToken fresh =>
    simp only [accessStep, pollQr]
    split <;> exact now
  | cancelQr provider sessionToken time => exact now
  | bindQr provider startToken messengerUserId time => exact now
  | bindPhone provider token messengerUserId time => exact runPhone_keeps consistent_kept now _
  | contact provider messengerUserId phoneRaw newId time later =>
    exact receiveContact_keeps hashToken consistent_kept now provider messengerUserId phoneRaw newId
      time later
  | credentials userId email passwordHash fresh time =>
    exact credentials_keeps consistent_kept now userId email passwordHash fresh time
  | resend email fresh time =>
    exact runCodes_keeps consistent_kept now (resend_plain email fresh time)
  | verify email code fresh =>
    have after : ConsistentTable (s.runCodes (verifyEmail email code fresh.now)).1.users := by
      rw [runCodes_users]
      rcases verifyEmail_cases ⟨s.users, s.codes, [], []⟩ email code fresh.now with
        ⟨user, _, users, _⟩ | ⟨_, users, _⟩
      · rw [users]
        exact changeUser_consistent now (fun _ => rfl)
      · rw [users]
        exact now
    simp only [accessStep, verify]
    split
    · split <;> exact after
    · exact after
  | reset request =>
    exact codeJob_keeps (s := ⟨s.users, s.resets, [], []⟩) consistent_kept (reset_plain request) now

/-- From any moment on those who are blocked stay out exactly when no request of the run refreshes
the tokens of one, polls a session that is verified for one, or activates one. -/
theorem blocked_stay_out_iff (start : { s : AccessStore // ConsistentTable s.users })
    (requests : List AccessRequest) :
    (trace (accessStep settings hashToken comparePassword) start.1 requests).Pairwise StaysOut ↔
      EachStep (accessStep settings hashToken comparePassword) (RefusesBlocked settings hashToken)
        start.1 requests := by
  rw [pairwise_trace_iff (R := StaysOut) (fun first second => first.trans second)]
  exact eachStep_congr (I := fun s : AccessStore => ConsistentTable s.users)
    (fun s request now _ => access_consistent settings hashToken comparePassword s request now)
    (fun s request now => access_step_iff settings hashToken comparePassword s request now)
    start.2 requests

def blockedUser : { s : AccessStore // ConsistentTable s.users } where
  val :=
    { phones := ⟨[⟨5, some "a@b.ru", some "h", true, none, none, none, .localLogin, .blocked⟩], [],
        []⟩
      qr := ⟨[], []⟩
      codes := []
      resets := []
      tokens := [⟨1, createdToken ⟨id, 0⟩ "r" 5 none 1 0⟩]
      attempts := []
      issued := [] }
  property := ⟨List.nodup_cons.mpr ⟨List.not_mem_nil, List.nodup_nil⟩, by decide⟩

theorem blocked_user_refreshes : ¬ ∀ (settings : AuthSettings) (hashToken : String → String)
    (comparePassword : String → String → Bool)
    (start : { s : AccessStore // ConsistentTable s.users }) (requests : List AccessRequest),
    (trace (accessStep settings hashToken comparePassword) start.1 requests).Pairwise StaysOut := by
  intro always
  have all := always ⟨id, 0⟩ id (fun _ _ => false) blockedUser
    [.refresh "r" (some 5) ⟨2, "r2", none, 2, 1⟩]
  have stays := (List.pairwise_cons.mp all).1 _ (List.mem_singleton_self _) 5 (by decide +kernel)
  exact absurd stays.2 (by decide +kernel)

end Runs

end LeaderProduct
