import LeaderProduct.AccountFlows

/-! When the way to log in that an account names is the one that it has. -/
namespace LeaderProduct
open Transition Interleaving RowTable

variable {users users' : List Account} {user : Account} {provider : MessengerProvider}

section Truth

def Truthful (user : Account) : Prop :=
  user.authProvider =
    resolveAuthProvider (hasCredentials user) (givenId user.telegramId) (givenId user.maxId)

instance (user : Account) : Decidable (Truthful user) := inferInstanceAs (Decidable (_ = _))

def AllTruthful (users : List Account) : Prop := ∀ user ∈ users, Truthful user

instance (users : List Account) : Decidable (AllTruthful users) :=
  inferInstanceAs (Decidable (∀ user ∈ users, Truthful user))

def MessengerProvider.other : MessengerProvider → MessengerProvider
  | .telegram => .max
  | .max => .telegram

/-- The account can be logged in to without this messenger. -/
def HasOtherWay (user : Account) (provider : MessengerProvider) : Prop :=
  hasCredentials user = true ∨ givenId (user.messengerId provider.other) = true

instance (user : Account) (provider : MessengerProvider) : Decidable (HasOtherWay user provider) :=
  inferInstanceAs (Decidable (_ ∨ _))

def autoLinked (users : List Account) (provider : MessengerProvider) (messengerId : Int)
    (phone : Option String) : Option Account :=
  match findByMessenger users provider messengerId with
  | some _ => none
  | none =>
    ((contactPhone phone).bind (findByPhone users)).filter (fun user =>
      !givenId (user.messengerId provider) || user.messengerId provider == some messengerId)

def linked (users : List Account) (userId : Nat) (provider : MessengerProvider)
    (messengerId : Int) : Option Account :=
  if (findByMessenger users provider messengerId).any (fun owner => owner.id != userId) then none
  else findAccount users userId

/-- A messenger is attached only to an account that has another way to log in. -/
def AttachesSecondWay (s : PhoneStore) : AccountRequest → Prop
  | .messenger provider messengerId phone _ =>
    ∀ user, autoLinked s.users provider messengerId.1 phone = some user →
      (attachMessenger s.users user.id provider messengerId.1).isSome → HasOtherWay user provider
  | .link userId provider messengerId =>
    ∀ user, linked s.users userId provider messengerId.1 = some user →
      (attachMessenger s.users user.id provider messengerId.1).isSome → HasOtherWay user provider
  | _ => True

theorem truthful_update_iff (unique : UniqueIds users) (now : AllTruthful users) {id : Nat}
    {change : Account → Account} (found : findAccount users id = some user)
    (written : updateAccount users id change = some users') :
    AllTruthful users' ↔ Truthful (change user) := by
  rw [(updateAccount_some written).1]
  have named : user.id = id := key_of_lookup found
  constructor
  · intro all
    have here : (if user.id = id then change user else user) ∈
        RowTable.modify (·.id) users id change :=
      List.mem_map_of_mem (mem_of_lookup found)
    rw [if_pos named] at here
    exact all _ here
  · intro truth other known
    obtain ⟨old, there, rfl⟩ := List.mem_map.mp known
    dsimp only
    split
    · next same =>
      have one := findAccount_of_mem unique there
      rw [same, found, Option.some.injEq] at one
      rw [← one]
      exact truth
    · exact now old there

theorem truthful_create (now : AllTruthful users) (truth : Truthful user)
    (written : createAccount users user = some users') :
    AllTruthful users' := by
  obtain ⟨rfl, _⟩ := createAccount_some written
  intro other known
  rcases List.mem_append.mp known with old | new
  · exact now other old
  · rw [List.mem_singleton.mp new]
    exact truth

theorem truthful_attach_iff (user : Account) (provider : MessengerProvider)
    (messengerId : MessengerId) :
    Truthful { user.setMessengerId provider (some messengerId.1) with
        authProvider := resolveAuthProviderAfterMessengerAttach user.authProvider } ↔
      HasOtherWay user provider := by
  have given : givenId (some messengerId.1) = true := by
    rw [givenId, Option.any_some, decide_eq_true_eq]
    exact messengerId.2
  have hybrid : resolveAuthProviderAfterMessengerAttach user.authProvider = .hybrid := by
    cases user.authProvider <;> rfl
  cases provider with
  | telegram =>
    simp only [Truthful, HasOtherWay, Account.setMessengerId, Account.messengerId,
      MessengerProvider.other, hasCredentials, hybrid, given]
    cases givenString user.email && givenString user.passwordHash <;> cases givenId user.maxId <;>
      decide
  | max =>
    simp only [Truthful, HasOtherWay, Account.setMessengerId, Account.messengerId,
      MessengerProvider.other, hasCredentials, hybrid, given]
    cases givenString user.email && givenString user.passwordHash <;>
      cases givenId user.telegramId <;> decide

theorem truthful_attached_iff (unique : UniqueIds users) (now : AllTruthful users)
    {messengerId : MessengerId} (found : findAccount users user.id = some user) :
    AllTruthful ((attachMessenger users user.id provider messengerId.1).getD users) ↔
      ((attachMessenger users user.id provider messengerId.1).isSome →
        HasOtherWay user provider) := by
  cases written : attachMessenger users user.id provider messengerId.1 with
  | none => exact iff_of_true now (fun h => by cases h)
  | some users' =>
    rw [Option.getD_some, Option.isSome_some, forall_prop_of_true rfl,
      ← truthful_attach_iff user provider messengerId]
    exact truthful_update_iff unique now found written

end Truth

section Requests

theorem truthful_getD {written : Option (List Account)} (now : AllTruthful users)
    (after : ∀ users', written = some users' → AllTruthful users') :
    AllTruthful (written.getD users) := by
  cases written with
  | none => exact now
  | some users' => exact after users' rfl

theorem messengerAccount_truthful (id : Nat) (provider : MessengerProvider)
    (messengerId : MessengerId) (phone : Nat) :
    Truthful (messengerAccount id provider messengerId.1 phone) := by
  have given : givenId (some messengerId.1) = true := by
    rw [givenId, Option.any_some, decide_eq_true_eq]
    exact messengerId.2
  cases provider with
  | telegram =>
    simp only [Truthful, messengerAccount, Account.setMessengerId, hasCredentials, given]
    rfl
  | max =>
    simp only [Truthful, messengerAccount, Account.setMessengerId, hasCredentials, given]
    rfl

theorem truthful_phone (user : Account) (phone : Option Nat) (truth : Truthful user) :
    Truthful { user with phone := phone } := truth

theorem messenger_truthful_iff (unique : UniqueIds users) (now : AllTruthful users)
    (provider : MessengerProvider) (messengerId : MessengerId) (phone : Option String)
    (newId : Nat) :
    AllTruthful (((resolveMessengerUserState provider users messengerId.1 phone newId).map
        (·.users)).getD users) ↔
      ∀ user, autoLinked users provider messengerId.1 phone = some user →
        (attachMessenger users user.id provider messengerId.1).isSome →
          HasOtherWay user provider := by
  unfold resolveMessengerUserState autoLinked
  cases known : findByMessenger users provider messengerId.1 with
  | some user =>
    refine iff_of_true ?_ (fun _ here => by cases here)
    dsimp only
    have mine : findAccount users user.id = some user :=
      findAccount_of_mem unique (List.mem_of_find?_eq_some known)
    split
    · exact now
    · split
      · exact now
      · split
        · rw [users_of_resolved]
          refine truthful_getD now fun users' written => ?_
          exact (truthful_update_iff unique now mine written).mpr
            (truthful_phone user _ (now user (mem_of_lookup mine)))
        · exact now
  | none =>
    dsimp only
    cases contactPhone phone with
    | none => exact iff_of_true now (fun _ here => by cases here)
    | some phone =>
      rw [Option.bind_some]
      dsimp only
      cases owner : findByPhone users phone with
      | none =>
        refine iff_of_true ?_ (fun _ here => by cases here)
        dsimp only
        rw [users_of_resolved]
        refine truthful_getD now fun users' written => ?_
        exact truthful_create now (messengerAccount_truthful _ _ _ _) written
      | some user =>
        have mine : findAccount users user.id = some user :=
          findAccount_of_mem unique (List.mem_of_find?_eq_some owner)
        dsimp only
        split
        · next free =>
          rw [users_of_resolved, Option.filter_some, if_pos free,
            truthful_attached_iff unique now mine]
          constructor
          · intro other user' here
            cases here
            exact other
          · exact fun all => all user rfl
        · next taken =>
          rw [Option.filter_some, if_neg taken]
          exact iff_of_true now (fun _ here => by cases here)

theorem link_truthful_iff (unique : UniqueIds users) (now : AllTruthful users) (userId : Nat)
    (provider : MessengerProvider) (messengerId : MessengerId) :
    AllTruthful ((linkMessenger users userId provider messengerId.1).getD users) ↔
      ∀ user, linked users userId provider messengerId.1 = some user →
        (attachMessenger users user.id provider messengerId.1).isSome →
          HasOtherWay user provider := by
  unfold linkMessenger linked
  split
  · exact iff_of_true now (fun _ here => by cases here)
  · cases found : findAccount users userId with
    | none =>
      refine iff_of_true ?_ (fun _ here => by cases here)
      rw [attachMessenger, updateAccount, found]
      exact now
    | some user =>
      have named : user.id = userId := key_of_lookup found
      rw [← named] at found ⊢
      rw [truthful_attached_iff unique now found]
      constructor
      · intro other user' here
        cases here
        exact other
      · exact fun all => all user rfl

theorem credentials_truthful (unique : UniqueIds users) (now : AllTruthful users) (userId : Nat)
    (email passwordHash : GivenString) :
    AllTruthful ((addCredentials users userId email passwordHash).getD users) := by
  unfold addCredentials
  cases found : findAccount users userId with
  | none => exact now
  | some me =>
    dsimp only
    split
    · exact now
    · split
      · exact now
      · refine truthful_getD now fun users' written => ?_
        refine (truthful_update_iff unique now found written).mpr ?_
        have truth : Truthful me := now me (mem_of_lookup found)
        have given (value : GivenString) : givenString (some value.1) = true := by
          rw [givenString, Option.any_some, decide_eq_true_eq]
          exact value.2
        simp only [Truthful, hasCredentials, given, Bool.and_self] at truth ⊢
        cases telegram : givenId me.telegramId <;> cases max : givenId me.maxId <;>
          rw [telegram, max] at truth <;> rw [truth] <;>
          cases givenString me.email && givenString me.passwordHash <;> rfl

theorem register_truthful (now : AllTruthful users) (email passwordHash : GivenString)
    (newId : Nat) : AllTruthful ((registerAccount users email passwordHash newId).getD users) := by
  unfold registerAccount
  split
  · exact now
  · refine truthful_getD now fun users' written => truthful_create now ?_ written
    simp only [Truthful, hasCredentials]
    cases givenString (some email.1) && givenString (some passwordHash.1) <;> rfl

end Requests

section Phone

structure TruthfulTable (users : List Account) : Prop where
  unique : UniqueIds users
  truthful : AllTruthful users

structure PhoneCommit.Fits (c : PhoneCommit) (users : List Account) : Prop where
  owner : ∀ id authProvider, c.owner = some (id, authProvider) → id ≠ c.userId ∧
    ∃ owner, findAccount users id = some owner ∧
      Truthful { owner.setMessengerId c.provider none with authProvider := authProvider }
  user : ∃ user, findAccount users c.userId = some user ∧
    Truthful { user.setMessengerId c.provider (some c.messengerUserId) with
      phone := some c.phone, authProvider := c.authProvider }

theorem truthfulTable_update (now : TruthfulTable users) {id : Nat} {change : Account → Account}
    (keeps : ∀ user, (change user).id = user.id) (found : findAccount users id = some user)
    (truth : Truthful (change user)) (written : updateAccount users id change = some users') :
    TruthfulTable users' :=
  ⟨uniqueIds_update now.unique written keeps,
    (truthful_update_iff now.unique now.truthful found written).mpr truth⟩

theorem commit_truthful (now : TruthfulTable users) {c : PhoneCommit} (fits : c.Fits users)
    (written : c.users users = some users') : TruthfulTable users' := by
  obtain ⟨user, found, truth⟩ := fits.user
  have given : ∀ user : Account, { user.setMessengerId c.provider (some c.messengerUserId) with
      phone := some c.phone, authProvider := c.authProvider : Account }.id = user.id :=
    fun user => setMessengerId_id user c.provider _
  unfold PhoneCommit.users at written
  cases owned : c.owner with
  | none =>
    rw [owned, Option.bind_some] at written
    exact truthfulTable_update now given found truth written
  | some pair =>
    obtain ⟨ownerId, authProvider⟩ := pair
    obtain ⟨other, owner, there, left⟩ := fits.owner ownerId authProvider owned
    rw [owned] at written
    obtain ⟨released, wrote, rest⟩ := Option.bind_eq_some_iff.mp written
    have taken : ∀ owner : Account, { owner.setMessengerId c.provider none with
        authProvider := authProvider : Account }.id = owner.id :=
      fun owner => setMessengerId_id owner c.provider _
    have next : TruthfulTable released := truthfulTable_update now taken there left wrote
    have still : findAccount released c.userId = some user := by
      rw [(updateAccount_some wrote).1, findAccount, lookup_modify taken, if_neg other.symm]
      exact found
    exact truthfulTable_update next given still truth rest

variable {s : PhoneStore}

theorem commitVerification_truthful (now : TruthfulTable s.users) {c : PhoneCommit}
    (fits : c.Fits s.users) :
    TruthfulTable ((commitVerification c).alone applyPhoneWrite s).1.users := by
  have after : TruthfulTable (applyPhoneWrite (.commit c) s).users := by
    simp only [applyPhoneWrite]
    cases written : c.users s.users with
    | none => exact now
    | some users =>
      cases s.session c.sessionId with
      | none => exact now
      | some session => exact commit_truthful now fits written
  simp only [commitVerification, Job.alone]
  split <;> exact after

theorem quiet_job_truthful {running : PhoneJob} (quiet : running.Within PhoneWrite.NoCommit)
    (now : TruthfulTable s.users) :
    TruthfulTable (running.alone applyPhoneWrite s).1.users := by
  rw [users_of_quiet quiet]
  exact now

theorem verify_truthful {messengerUserId : Int} {phoneRaw : String} {now : Int}
    {confirm : PhoneSession → Account → Nat → PhoneJob} (start : TruthfulTable s.users)
    (confirmed : ∀ session user phone, messengerUserId ≠ 0 →
      findAccount s.users session.userId = some user →
      TruthfulTable ((confirm session user phone).alone applyPhoneWrite s).1.users) :
    TruthfulTable ((verifyPhoneByContact provider messengerUserId phoneRaw now confirm).alone
      applyPhoneWrite s).1.users := by
  unfold verifyPhoneByContact
  split
  · exact start
  · next nonzero =>
    split
    · exact start
    · next phone _ =>
      rw [Job.alone]
      split
      · exact start
      · next session _ =>
        split
        · exact quiet_job_truthful (expire_quiet _ _) start
        · split
          · exact quiet_job_truthful (failVerification_quiet _ _) start
          · rw [Job.alone]
            split
            · exact quiet_job_truthful (failVerification_quiet _ _) start
            · next user found =>
              rw [Job.alone]
              split
              · exact quiet_job_truthful (failVerification_quiet _ _) start
              · exact confirmed session user phone nonzero found

theorem givenId_some (id : Int) : (id != 0) = givenId (some id) := by
  simp [givenId, bne, decide_not, beq_eq_decide]

theorem owner_cases {messengerUserId : Int} {userId : Nat} {owner : Account}
    (found : messengerOwner users provider messengerUserId userId = some owner) :
    owner ∈ users ∧ owner.id ≠ userId := by
  refine ⟨List.mem_of_find?_eq_some found, ?_⟩
  have here := List.find?_some found
  rw [Bool.and_eq_true, bne_iff_ne] at here
  exact here.2

theorem telegramContact_truthful (telegramUserId : Int) (phoneRaw : String) (now : Int)
    (start : TruthfulTable s.users) :
    TruthfulTable ((verifyPhoneByTelegramContact telegramUserId phoneRaw now).alone applyPhoneWrite
      s).1.users := by
  refine verify_truthful start fun session user phone nonzero found => ?_
  have named : user.id = session.userId := key_of_lookup found
  rw [Job.alone]
  refine commitVerification_truthful start ⟨?_, user, ?_, ?_⟩
  · intro id authProvider owned
    obtain ⟨owner, here, pair⟩ := Option.map_eq_some_iff.mp owned
    cases pair
    obtain ⟨known, other⟩ := owner_cases here
    exact ⟨other, owner, findAccount_of_mem start.unique known, rfl⟩
  · rw [named]
    exact found
  · rw [givenId_some]
    rfl

theorem maxContact_truthful (maxUserId : Int) (phoneRaw : String) (now : Int)
    (start : TruthfulTable s.users) :
    TruthfulTable ((verifyPhoneByMaxContact maxUserId phoneRaw now).alone applyPhoneWrite
      s).1.users := by
  refine verify_truthful start fun session user phone nonzero found => ?_
  have named : user.id = session.userId := key_of_lookup found
  rw [Job.alone]
  split
  · exact quiet_job_truthful (failVerification_quiet _ _) start
  · refine commitVerification_truthful start ⟨fun _ _ owned => (by cases owned), user, ?_, ?_⟩
    · rw [named]
      exact found
    · rw [givenId_some]
      rfl

theorem phone_truthful (hashToken : String → String) (request : PhoneRequest)
    (now : TruthfulTable s.users) :
    TruthfulTable ((request.job hashToken).alone applyPhoneWrite s).1.users := by
  cases request with
  | start userId phoneRaw provider id token expiresAt createdAt =>
    exact quiet_job_truthful (start_quiet hashToken userId phoneRaw provider id token expiresAt
      createdAt) now
  | state userId sessionId time => exact quiet_job_truthful (state_quiet userId sessionId time) now
  | cancel userId sessionId => exact quiet_job_truthful (cancel_quiet userId sessionId) now
  | bind provider token messengerUserId time =>
    exact quiet_job_truthful (bind_quiet hashToken provider token messengerUserId time) now
  | contact provider messengerUserId phoneRaw time =>
    cases provider with
    | telegram => exact telegramContact_truthful messengerUserId phoneRaw time now
    | max => exact maxContact_truthful messengerUserId phoneRaw time now

end Phone

section Runs
variable (hashToken : String → String)

theorem truthful_step_iff (s : PhoneStore) (request : AccountRequest) (unique : UniqueIds s.users)
    (now : AllTruthful s.users) :
    AllTruthful (accountStep hashToken s request).users ↔ AttachesSecondWay s request := by
  cases request with
  | register email passwordHash newId =>
    exact iff_of_true (register_truthful now email passwordHash newId) True.intro
  | messenger provider messengerId phone newId =>
    exact messenger_truthful_iff unique now provider messengerId phone newId
  | link userId provider messengerId => exact link_truthful_iff unique now userId provider messengerId
  | credentials userId email passwordHash =>
    exact iff_of_true (credentials_truthful unique now userId email passwordHash) True.intro
  | phone request =>
    exact iff_of_true (phone_truthful hashToken request ⟨unique, now⟩).truthful True.intro

/-- From accounts that tell the truth, all keep telling it exactly when a messenger is attached
only to an account with another way to log in. -/
theorem provider_truth_iff (start : { s : PhoneStore // TruthfulTable s.users })
    (requests : List AccountRequest) :
    Always (accountStep hashToken) (fun s : PhoneStore => AllTruthful s.users) start.1 requests ↔
      EachStep (accountStep hashToken) AttachesSecondWay start.1 requests :=
  always_iff_eachStep_of_inv (J := fun s : PhoneStore => UniqueIds s.users) (uniqueIds_kept.step hashToken)
    (truthful_step_iff hashToken) start.2.unique start.2.truthful requests

/-- A user whom Telegram has created links the same Telegram id once more. -/
theorem linked_again_is_hybrid : ¬ ∀ (hashToken : String → String) (requests : List AccountRequest),
    Always (accountStep hashToken) (fun s : PhoneStore => AllTruthful s.users) ⟨[], [], []⟩
      requests := by
  intro always
  have last := (always id [.messenger .telegram ⟨7, by decide⟩ (some "79612231345") 1,
    .link 1 .telegram ⟨7, by decide⟩]).last
  exact absurd last (by decide +kernel)

end Runs

end LeaderProduct
