import LeaderProduct.PhoneVerification

/-! The requests that create accounts and give them ways to log in, one after the other. -/
namespace LeaderProduct
open Interleaving RowTable

section Flows

abbrev GivenString := { value : String // value ≠ "" }

abbrev MessengerId := { id : Int // id ≠ 0 }

structure Resolved where
  users : List Account
  state : MessengerState
  userId : Option Nat

/-- The messenger is attached to the account; `none` where the update throws. -/
def attachMessenger (users : List Account) (userId : Nat) (provider : MessengerProvider)
    (messengerId : Int) : Option (List Account) :=
  updateAccount users userId (fun user =>
    { user.setMessengerId provider (some messengerId) with
      authProvider := resolveAuthProviderAfterMessengerAttach user.authProvider })

def messengerAccount (id : Nat) (provider : MessengerProvider) (messengerId : Int) (phone : Nat) :
    Account :=
  Account.setMessengerId
    { id := id
      email := none
      passwordHash := none
      isActive := true
      phone := some phone
      telegramId := none
      maxId := none
      authProvider := match provider with
        | .telegram => .telegram
        | .max => .max
      profileStatus := .active }
    provider (some messengerId)

def findByMessenger (users : List Account) (provider : MessengerProvider) (messengerId : Int) :
    Option Account :=
  users.find? (fun user => user.messengerId provider == some messengerId)

def findByPhone (users : List Account) (phone : Nat) : Option Account :=
  users.find? (fun user => user.phone == some phone)

def contactPhone (phone : Option String) : Option Nat :=
  (phone.filter (· ≠ "")).bind normalizePhoneToBigInt

/-- `resolveTelegramUserState` and `resolveMaxUserState`; `none` where a statement throws. -/
def resolveMessengerUserState (provider : MessengerProvider) (users : List Account)
    (messengerId : Int) (phone : Option String) (newId : Nat) : Option Resolved :=
  match findByMessenger users provider messengerId with
  | some user =>
    match contactPhone phone with
    | none => some ⟨users, .ready, some user.id⟩
    | some phone =>
      if givenPhone user.phone then some ⟨users, .ready, some user.id⟩
      else if ((findByPhone users phone).all (fun owner => owner.id == user.id)) then
        (updateAccount users user.id (fun user => { user with phone := some phone })).map
          (fun users => ⟨users, .ready, some user.id⟩)
      else some ⟨users, .ready, some user.id⟩
  | none =>
    match contactPhone phone with
    | none => some ⟨users, .needPhone, none⟩
    | some phone =>
      match findByPhone users phone with
      | some user =>
        if !givenId (user.messengerId provider) || user.messengerId provider == some messengerId then
          (attachMessenger users user.id provider messengerId).map
            (fun users => ⟨users, .ready, some user.id⟩)
        else some ⟨users, .needLink, none⟩
      | none =>
        (createAccount users (messengerAccount newId provider messengerId phone)).map
          (fun users => ⟨users, .ready, some newId⟩)

theorem users_of_resolved (written : Option (List Account)) (state : MessengerState)
    (userId : Option Nat) :
    (written.map (fun users => (⟨users, state, userId⟩ : Resolved))).map (·.users) = written := by
  cases written <;> rfl

def resolveTelegramUserState := resolveMessengerUserState .telegram

def resolveMaxUserState := resolveMessengerUserState .max

/-- `POST /auth/telegram/link` and `/auth/max/link`. -/
def linkMessenger (users : List Account) (userId : Nat) (provider : MessengerProvider)
    (messengerId : Int) : Option (List Account) :=
  if (findByMessenger users provider messengerId).any (fun owner => owner.id != userId) then none
  else attachMessenger users userId provider messengerId

def emailTaken (users : List Account) (userId : Nat) (email : String) : Bool :=
  users.any (fun other => hasEmail email other && other.id != userId)

/-- `POST /auth/credentials`. -/
def addCredentials (users : List Account) (userId : Nat) (email passwordHash : GivenString) :
    Option (List Account) :=
  match findAccount users userId with
  | none => none
  | some me =>
    if me.email.any (fun own =>
        own != "" && JsString.toLowerCase (JsString.trim own) != email.1) then none
    else if emailTaken users userId email.1 then none
    else
      updateAccount users userId (fun user =>
        { user with
          email := some email.1
          passwordHash := some passwordHash.1
          authProvider := if givenId me.telegramId || givenId me.maxId then .hybrid
            else me.authProvider
          isActive := false })

/-- `POST /auth/register`, for an address that no account has. -/
def registerAccount (users : List Account) (email passwordHash : GivenString) (newId : Nat) :
    Option (List Account) :=
  if users.any (hasEmail email.1) then none
  else
    createAccount users
      { id := newId
        email := some email.1
        passwordHash := some passwordHash.1
        isActive := false
        phone := none
        telegramId := none
        maxId := none
        authProvider := .localLogin
        profileStatus := .pending }

inductive AccountRequest where
  | register (email passwordHash : GivenString) (newId : Nat)
  | messenger (provider : MessengerProvider) (messengerId : MessengerId) (phone : Option String)
      (newId : Nat)
  | link (userId : Nat) (provider : MessengerProvider) (messengerId : MessengerId)
  | credentials (userId : Nat) (email passwordHash : GivenString)
  | phone (request : PhoneRequest)

variable (hashToken : String → String)

def setUsers (s : PhoneStore) (users : Option (List Account)) : PhoneStore :=
  { s with users := users.getD s.users }

def accountStep (s : PhoneStore) : AccountRequest → PhoneStore
  | .register email passwordHash newId =>
    setUsers s (registerAccount s.users email passwordHash newId)
  | .messenger provider messengerId phone newId =>
    setUsers s ((resolveMessengerUserState provider s.users messengerId.1 phone newId).map (·.users))
  | .link userId provider messengerId =>
    setUsers s (linkMessenger s.users userId provider messengerId.1)
  | .credentials userId email passwordHash =>
    setUsers s (addCredentials s.users userId email passwordHash)
  | .phone request => ((request.job hashToken).alone applyPhoneWrite s).1

end Flows

section Quiet

def PhoneWrite.NoCommit : PhoneWrite → Prop
  | .commit _ => False
  | _ => True

theorem users_of_noCommit {w : PhoneWrite} (s : PhoneStore) (none_committed : w.NoCommit) :
    (applyPhoneWrite w s).users = s.users := by
  cases w with
  | commit c => cases none_committed
  | create session =>
    simp only [applyPhoneWrite]
    split <;> rfl
  | cancelPending userId => rfl
  | expire id => rfl
  | fail id failureReason => rfl
  | cancel id userId => rfl
  | bind id messengerUserId => rfl

theorem users_of_quiet {running : PhoneJob} (quiet : running.Within PhoneWrite.NoCommit)
    (s : PhoneStore) : (running.alone applyPhoneWrite s).1.users = s.users :=
  alone_keeps (J := fun t : PhoneStore => t.users = s.users)
    (fun _ t free here => (users_of_noCommit t free).trans here) quiet rfl

theorem expire_quiet (id : String) (answer : PhoneAnswer) :
    (Job.write (.expire id) (fun _ => .done answer) : PhoneJob).Within PhoneWrite.NoCommit :=
  ⟨True.intro, fun _ => True.intro⟩

theorem failVerification_quiet (sessionId reason : String) :
    (failVerification sessionId reason).Within PhoneWrite.NoCommit :=
  ⟨True.intro, fun _ => True.intro⟩

theorem start_quiet (hashToken : String → String) (userId : Nat) (phoneRaw : String)
    (provider : MessengerProvider) (id token : String) (expiresAt createdAt : Int) :
    (startPhoneVerificationSession hashToken userId phoneRaw provider id token expiresAt
      createdAt).Within PhoneWrite.NoCommit := by
  unfold startPhoneVerificationSession
  split
  · exact True.intro
  · intro t
    dsimp only
    split
    · exact True.intro
    · exact ⟨True.intro, fun _ => ⟨True.intro, fun _ => True.intro⟩⟩

theorem state_quiet (userId : Nat) (sessionId : String) (now : Int) :
    (getPhoneVerificationSessionState userId sessionId now).Within PhoneWrite.NoCommit := by
  intro t
  dsimp only
  split
  · exact True.intro
  · split
    · exact expire_quiet _ _
    · exact True.intro

theorem cancel_quiet (userId : Nat) (sessionId : String) :
    (cancelPhoneVerificationSession userId sessionId).Within PhoneWrite.NoCommit :=
  ⟨True.intro, fun _ => True.intro⟩

theorem bind_quiet (hashToken : String → String) (provider : MessengerProvider) (token : String)
    (messengerUserId now : Int) :
    (bindPhoneVerificationByStartToken hashToken provider token messengerUserId now).Within
      PhoneWrite.NoCommit := by
  unfold bindPhoneVerificationByStartToken
  split
  · exact True.intro
  · split
    · exact True.intro
    · intro t
      dsimp only
      split
      · exact True.intro
      · split
        · exact True.intro
        · split
          · exact True.intro
          · split
            · exact expire_quiet _ _
            · exact ⟨True.intro, fun _ => True.intro⟩

end Quiet

section Constraints

def UniqueIds (users : List Account) : Prop := (users.map (·.id)).Nodup

structure ConsistentTable (users : List Account) : Prop where
  unique : UniqueIds users
  apart : ∀ a ∈ users, ∀ b ∈ users, a.clashes b = false

variable {users users' : List Account} {user : Account} {change : Account → Account} {id : Nat}

theorem findAccount_of_mem (unique : UniqueIds users) (known : user ∈ users) :
    findAccount users user.id = some user :=
  lookup_of_mem unique known

theorem setMessengerId_profileStatus (user : Account) (provider : MessengerProvider)
    (id : Option Int) : (user.setMessengerId provider id).profileStatus = user.profileStatus := by
  cases provider <;> rfl

theorem setMessengerId_id (user : Account) (provider : MessengerProvider) (id : Option Int) :
    (user.setMessengerId provider id).id = user.id := by
  cases provider <;> rfl

theorem updateAccount_some (written : updateAccount users id change = some users') :
    users' = RowTable.modify (·.id) users id change ∧ ∃ user, findAccount users id = some user ∧
      ∀ other ∈ users, other.clashes (change user) = false := by
  unfold updateAccount at written
  split at written
  · cases written
  · next user found =>
    split at written
    · cases written
    · next free =>
      cases written
      rw [Bool.not_eq_true, List.any_eq_false] at free
      exact ⟨rfl, user, found, fun other known => Bool.not_eq_true _ ▸ free other known⟩

theorem updateAccount_isSome (unique : UniqueIds users) (known : user ∈ users)
    (fits : ∀ other ∈ users, other.clashes (change user) = false) :
    (updateAccount users user.id change).isSome := by
  rw [updateAccount, findAccount_of_mem unique known]
  dsimp only
  rw [if_neg]
  · rfl
  · rw [Bool.not_eq_true, List.any_eq_false]
    exact fun other here => Bool.not_eq_true _ ▸ fits other here

theorem createAccount_some (written : createAccount users user = some users') :
    users' = users ++ [user] ∧ ∀ other ∈ users, other.id ≠ user.id ∧ other.clashes user = false := by
  unfold createAccount at written
  split at written
  · cases written
  · next fresh =>
    cases written
    rw [Bool.not_eq_true, List.any_eq_false] at fresh
    refine ⟨rfl, fun other known => ?_⟩
    have free := fresh other known
    rw [Bool.or_eq_true, not_or, beq_iff_eq, Bool.not_eq_true] at free
    exact free

theorem sameValue_comm {α : Type} [DecidableEq α] (a b : Option α) : sameValue a b = sameValue b a := by
  cases a <;> cases b <;> simp [sameValue, eq_comm]

theorem clashes_comm (a b : Account) : a.clashes b = b.clashes a := by
  simp only [Account.clashes, sameValue_comm a.email, sameValue_comm a.phone,
    sameValue_comm a.telegramId, sameValue_comm a.maxId, bne_comm (a := a.id)]

structure PlainChange (change : Account → Account) : Prop where
  id : ∀ user, (change user).id = user.id
  profileStatus : ∀ user, (change user).profileStatus = user.profileStatus

structure KeptByWrites (K : List Account → Prop) : Prop where
  update : ∀ {users users' : List Account} {id : Nat} {change : Account → Account}, K users →
    PlainChange change → updateAccount users id change = some users' → K users'
  create : ∀ {users users' : List Account} {user : Account}, K users →
    createAccount users user = some users' → K users'

theorem uniqueIds_update (now : UniqueIds users)
    (written : updateAccount users id change = some users')
    (keeps : ∀ user, (change user).id = user.id) : UniqueIds users' := by
  rw [(updateAccount_some written).1, UniqueIds, keys_modify keeps]
  exact now

theorem consistent_update (now : ConsistentTable users)
    (written : updateAccount users id change = some users')
    (keeps : ∀ user, (change user).id = user.id) : ConsistentTable users' := by
  refine ⟨uniqueIds_update now.unique written keeps, ?_⟩
  obtain ⟨rfl, user, found, free⟩ := updateAccount_some written
  have apart (a b : Account) (a_known : a ∈ users) (b_known : b ∈ users) (a_here : a.id = id) :
      (change a).clashes (if b.id = id then change b else b) = false := by
    have a_found := findAccount_of_mem now.unique a_known
    rw [a_here, found, Option.some.injEq] at a_found
    subst a_found
    split
    · next b_here =>
      rw [Account.clashes, keeps, keeps, a_here, b_here, bne_self_eq_false, Bool.false_and]
    · rw [clashes_comm]
      exact free b b_known
  intro a a_known b b_known
  obtain ⟨a, a_old, rfl⟩ := List.mem_map.mp a_known
  obtain ⟨b, b_old, rfl⟩ := List.mem_map.mp b_known
  dsimp only
  by_cases a_here : a.id = id
  · rw [if_pos a_here]
    exact apart a b a_old b_old a_here
  · by_cases b_here : b.id = id
    · rw [clashes_comm, if_pos b_here]
      exact apart b a b_old a_old b_here
    · rw [if_neg a_here, if_neg b_here]
      exact now.apart a a_old b b_old

theorem uniqueIds_kept : KeptByWrites UniqueIds where
  update now plain written := uniqueIds_update now written plain.id
  create now written := by
    obtain ⟨rfl, fresh⟩ := createAccount_some written
    rw [UniqueIds, List.map_append, List.map_singleton, List.perm_append_comm.nodup_iff,
      List.singleton_append, List.nodup_cons]
    refine ⟨fun known => ?_, now⟩
    obtain ⟨other, there, same⟩ := List.mem_map.mp known
    exact (fresh other there).1 same

theorem consistent_kept : KeptByWrites ConsistentTable where
  update now plain written := consistent_update now written plain.id
  create {users users' user} now written := by
    refine ⟨uniqueIds_kept.create now.unique written, ?_⟩
    obtain ⟨rfl, fresh⟩ := createAccount_some written
    intro a a_known b b_known
    rcases List.mem_append.mp a_known with a_old | a_new
    · rcases List.mem_append.mp b_known with b_old | b_new
      · exact now.apart a a_old b b_old
      · rw [List.mem_singleton.mp b_new]
        exact (fresh a a_old).2
    · rw [List.mem_singleton.mp a_new]
      rcases List.mem_append.mp b_known with b_old | b_new
      · rw [clashes_comm]
        exact (fresh b b_old).2
      · rw [List.mem_singleton.mp b_new, Account.clashes, bne_self_eq_false, Bool.false_and]

variable {K : List Account → Prop} (kept : KeptByWrites K)
include kept

theorem KeptByWrites.attach (now : K users) {userId : Nat} {provider : MessengerProvider}
    {messengerId : Int}
    (written : attachMessenger users userId provider messengerId = some users') : K users' := by
  refine kept.update now ⟨fun user => ?_, fun user => ?_⟩ written
  · exact setMessengerId_id user provider _
  · exact setMessengerId_profileStatus user provider _

theorem KeptByWrites.resolve (now : K users) {provider : MessengerProvider} {messengerId : Int}
    {phone : Option String} {newId : Nat} {resolved : Resolved}
    (here : resolveMessengerUserState provider users messengerId phone newId = some resolved) :
    K resolved.users := by
  unfold resolveMessengerUserState at here
  split at here
  · split at here
    · cases here
      exact now
    · split at here
      · cases here
        exact now
      · split at here
        · obtain ⟨users', written, rfl⟩ := Option.map_eq_some_iff.mp here
          refine kept.update now ⟨fun user => ?_, fun user => ?_⟩ written
          · rfl
          · rfl
        · cases here
          exact now
  · split at here
    · cases here
      exact now
    · split at here
      · split at here
        · obtain ⟨users', written, rfl⟩ := Option.map_eq_some_iff.mp here
          exact kept.attach now written
        · cases here
          exact now
      · obtain ⟨users', written, rfl⟩ := Option.map_eq_some_iff.mp here
        exact kept.create now written

theorem KeptByWrites.commit (now : K users) {c : PhoneCommit}
    (written : c.users users = some users') : K users' := by
  unfold PhoneCommit.users at written
  obtain ⟨released, wrote, rest⟩ := Option.bind_eq_some_iff.mp written
  have free : K released := by
    split at wrote
    · cases wrote
      exact now
    · refine kept.update now ⟨fun owner => ?_, fun owner => ?_⟩ wrote
      · exact setMessengerId_id owner c.provider none
      · exact setMessengerId_profileStatus owner c.provider none
  refine kept.update free ⟨fun user => ?_, fun user => ?_⟩ rest
  · exact setMessengerId_id user c.provider _
  · exact setMessengerId_profileStatus user c.provider _

theorem KeptByWrites.phoneWrite (w : PhoneWrite) (s : PhoneStore) (now : K s.users) :
    K (applyPhoneWrite w s).users := by
  cases w with
  | commit c =>
    simp only [applyPhoneWrite]
    split
    · next written _ => exact kept.commit now written
    · exact now
  | create session =>
    simp only [applyPhoneWrite]
    split <;> exact now
  | cancelPending userId => exact now
  | expire id => exact now
  | fail id failureReason => exact now
  | cancel id userId => exact now
  | bind id messengerUserId => exact now

theorem KeptByWrites.phoneJob (running : PhoneJob) {s : PhoneStore} (now : K s.users) :
    K (running.alone applyPhoneWrite s).1.users :=
  alone_keeps_all (J := fun s : PhoneStore => K s.users) kept.phoneWrite running now

theorem KeptByWrites.credentials (now : K users) {userId : Nat} {email passwordHash : GivenString}
    (written : addCredentials users userId email passwordHash = some users') : K users' := by
  unfold addCredentials at written
  split at written
  · cases written
  · split at written
    · cases written
    · split at written
      · cases written
      · refine kept.update now ⟨fun user => ?_, fun user => ?_⟩ written
        · rfl
        · rfl

omit kept in
theorem setUsers_keeps {s : PhoneStore} (now : K s.users) {written : Option (List Account)}
    (after : ∀ users', written = some users' → K users') : K (setUsers s written).users := by
  cases written with
  | none => exact now
  | some users' => exact after users' rfl

theorem KeptByWrites.step (hashToken : String → String) (s : PhoneStore) (request : AccountRequest)
    (now : K s.users) : K (accountStep hashToken s request).users := by
  cases request with
  | register email passwordHash newId =>
    refine setUsers_keeps now fun users' written => ?_
    unfold registerAccount at written
    split at written
    · cases written
    · exact kept.create now written
  | messenger provider messengerId phone newId =>
    refine setUsers_keeps now fun users' written => ?_
    obtain ⟨resolved, here, rfl⟩ := Option.map_eq_some_iff.mp written
    exact kept.resolve now here
  | link userId provider messengerId =>
    refine setUsers_keeps now fun users' written => ?_
    unfold linkMessenger at written
    split at written
    · cases written
    · exact kept.attach now written
  | credentials userId email passwordHash =>
    exact setUsers_keeps now fun users' written => kept.credentials now written
  | phone request => exact kept.phoneJob (request.job hashToken) now

end Constraints

end LeaderProduct
