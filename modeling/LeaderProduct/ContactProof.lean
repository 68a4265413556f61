import LeaderProduct.TelegramContacts

/-! When a Telegram id and a phone come together in an account only after the user of the id has
shown the phone as his own. -/
namespace LeaderProduct
open Transition Interleaving RowTable

section Links

/-- Every phone that has come together with a Telegram id has been shown by its user. -/
def LinksShown (s : ContactStore) : Prop := ∀ link ∈ s.links, link ∈ s.shown

instance (s : ContactStore) : Decidable (LinksShown s) :=
  inferInstanceAs (Decidable (∀ link ∈ s.links, link ∈ s.shown))

/-- The user has an account without a phone and nobody has this one, or he has no account and the
one with the phone has no Telegram id. -/
def MayLink (users : List Account) (telegramId : Int) (phone : Nat) : Prop :=
  match findByMessenger users .telegram telegramId with
  | some user => givenPhone user.phone = false ∧ findByPhone users phone = none
  | none => (findByPhone users phone).any (fun user => !givenId user.telegramId) = true

variable {users : List Account} {user : Account} {phone : Nat} {telegramId : Int}

theorem of_findByMessenger {provider : MessengerProvider} {id : Int}
    (found : findByMessenger users provider id = some user) :
    user ∈ users ∧ user.messengerId provider = some id := by
  refine ⟨List.mem_of_find?_eq_some found, ?_⟩
  have here := List.find?_some found
  exact beq_iff_eq.mp here

theorem of_findByPhone (found : findByPhone users phone = some user) :
    user ∈ users ∧ user.phone = some phone := by
  refine ⟨List.mem_of_find?_eq_some found, ?_⟩
  have here := List.find?_some found
  exact beq_iff_eq.mp here

theorem lacks_messenger {provider : MessengerProvider} {id : Int}
    (free : findByMessenger users provider id = none) (known : user ∈ users) :
    user.messengerId provider ≠ some id := by
  have lacks := List.find?_eq_none.mp free user known
  rwa [beq_iff_eq] at lacks

theorem lacks_phone (free : findByPhone users phone = none) (known : user ∈ users) :
    user.phone ≠ some phone := by
  have lacks := List.find?_eq_none.mp free user known
  rwa [beq_iff_eq] at lacks

theorem newLink_self (user : Account) : newLink user user = none := if_pos ⟨rfl, rfl⟩

theorem mem_newLinks {before after : List Account} {link : Int × Nat} :
    link ∈ newLinks before after ↔
      ∃ user ∈ before, ∃ user', findAccount after user.id = some user' ∧
        newLink user user' = some link := by
  simp only [newLinks, List.mem_filterMap, Option.bind_eq_some_iff]

theorem newLinks_self (unique : UniqueIds users) (link : Int × Nat) :
    link ∉ newLinks users users := by
  intro known
  obtain ⟨user, here, user', found, linked⟩ := mem_newLinks.mp known
  rw [findAccount_of_mem unique here, Option.some.injEq] at found
  rw [← found, newLink_self] at linked
  cases linked

theorem newLinks_create {users' : List Account} (unique : UniqueIds users)
    (written : createAccount users user = some users') (link : Int × Nat) :
    link ∉ newLinks users users' := by
  obtain ⟨rfl, _⟩ := createAccount_some written
  intro known
  obtain ⟨other, here, other', found, linked⟩ := mem_newLinks.mp known
  have there : lookup (·.id) users other.id = some other := findAccount_of_mem unique here
  rw [findAccount, lookup_append, there, Option.some_or, Option.some.injEq] at found
  rw [← found, newLink_self] at linked
  cases linked

theorem newLinks_update {users' : List Account} (unique : UniqueIds users) {id : Nat}
    {change : Account → Account} (found : findAccount users id = some user)
    (written : updateAccount users id change = some users')
    (keeps : ∀ user, (change user).id = user.id) (link : Int × Nat) :
    link ∈ newLinks users users' ↔ newLink user (change user) = some link := by
  rw [mem_newLinks, (updateAccount_some written).1]
  have after (other : Account) : findAccount (RowTable.modify (·.id) users id change) other.id =
      if other.id = id then some (change user) else findAccount users other.id := by
    have mine : lookup (·.id) users id = some user := found
    rw [findAccount, lookup_modify keeps, mine]
    rfl
  constructor
  · rintro ⟨other, here, other', there, linked⟩
    rw [after] at there
    split at there
    · next same =>
      have mine := findAccount_of_mem unique here
      rw [same, found, Option.some.injEq] at mine
      cases there
      rw [← mine] at linked
      exact linked
    · rw [findAccount_of_mem unique here, Option.some.injEq] at there
      rw [← there, newLink_self] at linked
      cases linked
  · intro linked
    refine ⟨user, mem_of_lookup found, change user, ?_, linked⟩
    rw [after, if_pos (key_of_lookup found)]

theorem sameValue_of_ne {α : Type} [DecidableEq α] {own : Option α} {value : α}
    (different : own ≠ some value) : sameValue own (some value) = false := by
  cases own with
  | none => rfl
  | some mine =>
    rw [sameValue, Option.any_some, beq_eq_false_iff_ne]
    exact Ne.symm different

section
variable (now : ConsistentTable users)
include now

theorem phone_written (known : user ∈ users) (free : findByPhone users phone = none) :
    (updateAccount users user.id (fun user => { user with phone := some phone })).isSome := by
  refine updateAccount_isSome now.unique known fun other here => ?_
  have apart := now.apart other here user known
  simp only [Account.clashes, sameValue_of_ne (lacks_phone free here), Bool.or_false, Bool.and_eq_false_iff,
    Bool.or_eq_false_iff] at apart ⊢
  tauto

theorem messenger_attached (known : user ∈ users)
    (free : findByMessenger users .telegram telegramId = none) :
    (attachMessenger users user.id .telegram telegramId).isSome := by
  refine updateAccount_isSome now.unique known fun other here => ?_
  have apart := now.apart other here user known
  have different : other.telegramId ≠ some telegramId := lacks_messenger free here
  simp only [Account.clashes, Account.setMessengerId, sameValue_of_ne different, Bool.or_false,
    Bool.and_eq_false_iff, Bool.or_eq_false_iff] at apart ⊢
  tauto

theorem newLinks_phone (known : user ∈ users)
    (has : user.telegramId = some telegramId) (free : findByPhone users phone = none)
    (link : Int × Nat) :
    link ∈ newLinks users ((updateAccount users user.id
        (fun user => { user with phone := some phone })).getD users) ↔
      link = (telegramId, phone) := by
  obtain ⟨users', written⟩ := Option.isSome_iff_exists.mp (phone_written now known free)
  have other : user.phone ≠ some phone := lacks_phone free known
  have mine := findAccount_of_mem now.unique known
  rw [written, Option.getD_some, newLinks_update now.unique mine written (fun _ => rfl), newLink,
    if_neg (fun same => other same.2.symm), has]
  exact Option.some_inj.trans eq_comm

theorem newLinks_own_phone (known : user ∈ users)
    (own : user.phone = some phone) (link : Int × Nat) :
    link ∉ newLinks users ((updateAccount users user.id
      (fun user => { user with phone := some phone })).getD users) := by
  cases written : updateAccount users user.id (fun user => { user with phone := some phone }) with
  | none => exact newLinks_self now.unique link
  | some users' =>
    have mine := findAccount_of_mem now.unique known
    rw [Option.getD_some, newLinks_update now.unique mine written (fun _ => rfl), newLink,
      if_pos ⟨rfl, own.symm⟩]
    exact Option.some_ne_none link ∘ Eq.symm

theorem newLinks_attach (known : user ∈ users)
    (free : findByMessenger users .telegram telegramId = none) (phoned : user.phone = some phone)
    (link : Int × Nat) :
    link ∈ newLinks users ((attachMessenger users user.id .telegram telegramId).getD users) ↔
      link = (telegramId, phone) := by
  obtain ⟨users', written⟩ := Option.isSome_iff_exists.mp (messenger_attached now known free)
  have other : user.telegramId ≠ some telegramId := lacks_messenger free known
  have mine := findAccount_of_mem now.unique known
  rw [written, Option.getD_some, newLinks_update now.unique mine written (fun _ => rfl), newLink,
    if_neg (fun same => other same.1.symm)]
  simp only [Account.setMessengerId, phoned]
  exact Option.some_inj.trans eq_comm

theorem newLinks_resolve (telegramId : Int) (phone : Option String)
    (newId : Nat) (link : Int × Nat) :
    link ∈ newLinks users
        (((resolveTelegramUserState users telegramId phone newId).map (·.users)).getD users) ↔
      ∃ p, contactPhone phone = some p ∧ MayLink users telegramId p ∧ link = (telegramId, p) := by
  have same := newLinks_self now.unique link
  unfold resolveTelegramUserState resolveMessengerUserState
  cases given : contactPhone phone with
  | none =>
    have none_given : ¬ ∃ p, (none : Option Nat) = some p ∧ MayLink users telegramId p ∧
        link = (telegramId, p) := by
      rintro ⟨p, here, _⟩
      cases here
    cases findByMessenger users .telegram telegramId with
    | some user => exact iff_of_false same none_given
    | none => exact iff_of_false same none_given
  | some p =>
    simp only [Option.some.injEq, exists_eq_left', MayLink]
    cases mine : findByMessenger users .telegram telegramId with
    | some user =>
      obtain ⟨known, has⟩ := of_findByMessenger mine
      dsimp only
      split
      · next phoned =>
        rw [phoned]
        exact iff_of_false same (fun h => by cases h.1.1)
      · next unphoned =>
        rw [Bool.not_eq_true] at unphoned
        cases owner : findByPhone users p with
        | none =>
          rw [Option.all_none, if_pos rfl, users_of_resolved, and_iff_right ⟨unphoned, rfl⟩]
          exact newLinks_phone now known has owner link
        | some holder =>
          refine iff_of_false ?_ (fun h => by cases h.1.2)
          rw [Option.all_some]
          split
          · next own =>
            obtain ⟨held_known, held⟩ := of_findByPhone owner
            have there := findAccount_of_mem now.unique held_known
            rw [beq_iff_eq.mp own, findAccount_of_mem now.unique known, Option.some.injEq] at there
            rw [users_of_resolved]
            exact newLinks_own_phone now known (there ▸ held) link
          · exact same
    | none =>
      cases owner : findByPhone users p with
      | none =>
        refine iff_of_false ?_ (fun h => by cases h.1)
        dsimp only
        cases written : createAccount users (messengerAccount newId .telegram telegramId p) with
        | none => exact same
        | some users' => exact newLinks_create now.unique written link
      | some user =>
        obtain ⟨known, phoned⟩ := of_findByPhone owner
        have other : (user.messengerId .telegram == some telegramId) = false :=
          beq_eq_false_iff_ne.mpr (lacks_messenger mine known)
        simp only [Option.any_some, other, Bool.or_false]
        change _ ↔ (!givenId (user.messengerId .telegram)) = true ∧ _
        split
        · next free =>
          rw [users_of_resolved, and_iff_right free]
          exact newLinks_attach now known mine phoned link
        · next taken => exact iff_of_false same (fun h => taken h.1)

end

end Links

section Steps

def ContactRequest.resolves (hashToken : String → String) (s : ContactStore) :
    ContactRequest → Option (Int × String)
  | .init telegramId redisOpen _ now | .contactStatus telegramId redisOpen _ now =>
    (getTelegramContactPhone s redisOpen telegramId now).map (fun phone => (telegramId, phone))
  | .contact telegramId phoneE164 _ _ _ =>
    (normalizePhoneE164 phoneE164).map (fun phone => (telegramId, phone))
  | .webhook update _ _ now _ =>
    match update.fromIdRaw, update.phoneRaw.bind normalizePhoneE164 with
    | some fromId, some phone =>
      (activeQrSession (processStart hashToken s fromId (JsString.trim update.text) now).qr .telegram
        fromId now).map (fun _ => (fromId, phone))
    | _, _ => none
  | _ => none

def ContactRequest.shown : ContactRequest → List (Int × Nat)
  | .webhook update _ _ _ _ => update.ownContact.toList
  | _ => []

/-- A phone that may be linked has been shown before, or is by this update. -/
def LinksWhatIsShown (hashToken : String → String) (s : ContactStore) (request : ContactRequest) :
    Prop :=
  ∀ telegramId text, request.resolves hashToken s = some (telegramId, text) →
    ∀ phone, contactPhone (some text) = some phone → MayLink s.users telegramId phone →
      (telegramId, phone) ∈ s.shown ++ request.shown

variable {s : ContactStore}

theorem linksShown_resolve_iff (consistent : ConsistentTable s.users) (now : LinksShown s)
    (telegramId : Int) (phone : Option String) (newId : Nat) :
    LinksShown (s.resolve telegramId phone newId) ↔
      ∀ p, contactPhone phone = some p → MayLink s.users telegramId p →
        (telegramId, p) ∈ s.shown := by
  have links (link : Int × Nat) : link ∈ (s.resolve telegramId phone newId).links ↔
      link ∈ s.links ∨
        ∃ p, contactPhone phone = some p ∧ MayLink s.users telegramId p ∧ link = (telegramId, p) := by
    rw [← newLinks_resolve consistent telegramId phone newId link]
    exact List.mem_append
  constructor
  · intro all p given may
    exact all (telegramId, p) ((links _).mpr (Or.inr ⟨p, given, may, rfl⟩))
  · intro shown link known
    rcases (links link).mp known with old | ⟨p, given, may, rfl⟩
    · exact now link old
    · exact shown p given may

theorem linksShown_resolve_some_iff (consistent : ConsistentTable s.users) (now : LinksShown s)
    (telegramId : Int) (phone : Option String) (newId : Nat) :
    LinksShown (s.resolve telegramId phone newId) ↔
      ∀ text, phone = some text → ∀ p, contactPhone (some text) = some p →
        MayLink s.users telegramId p → (telegramId, p) ∈ s.shown := by
  rw [linksShown_resolve_iff consistent now]
  cases phone with
  | none => exact iff_of_true (fun p given => by cases given) (fun text here => by cases here)
  | some text =>
    constructor
    · intro all other here
      cases here
      exact all
    · exact fun all => all text rfl

theorem cache_frame (s : ContactStore) (redisOpen : Bool) (telegramId : Int) (phone : String)
    (now : Int) : ∃ contacts,
      setTelegramContactPhone s redisOpen telegramId phone now = { s with contacts := contacts } := by
  unfold setTelegramContactPhone
  split
  · exact ⟨_, rfl⟩
  · exact ⟨s.contacts, rfl⟩

theorem runQr_frame (s : ContactStore) (running : QrJob) (shown : List (Int × Nat)) :
    ({ s with shown := shown } : ContactStore).runQr running =
      { s with shown := shown, qr := (s.runQr running).qr } := rfl

theorem runPhone_frame (s : ContactStore) (running : PhoneJob) (shown : List (Int × Nat)) :
    ({ s with shown := shown } : ContactStore).runPhone running =
      { s with shown := shown, phones := (s.runPhone running).phones } := rfl

theorem runPhone_users (s : ContactStore) {running : PhoneJob}
    (quiet : running.Within PhoneWrite.NoCommit) : (s.runPhone running).phones.users = s.users :=
  users_of_quiet quiet s.phones

theorem start_frame (hashToken : String → String) (s : ContactStore) (fromId : Int) (text : String)
    (now : Int) : ∃ phones qr, phones.users = s.users ∧ ∀ shown,
      processStart hashToken { s with shown := shown } fromId text now =
        { s with shown := shown, phones := phones, qr := qr } := by
  simp only [processStart]
  by_cases started : "/start".toList.isPrefixOf text.toList = true
  · simp only [if_pos started]
    by_cases qrStarted : parseTelegramQrStartTokenFromPayload (startPayload text) ≠ ""
    · simp only [if_pos qrStarted]
      exact ⟨s.phones, _, rfl, runQr_frame s _⟩
    · simp only [if_neg qrStarted]
      by_cases verifying : afterPrefix "verify_phone_" (startPayload text) ≠ ""
      · simp only [if_pos verifying]
        exact ⟨_, s.qr, runPhone_users s (bind_quiet hashToken .telegram _ fromId now),
          runPhone_frame s _⟩
      · simp only [if_neg verifying]
        exact ⟨s.phones, s.qr, rfl, fun shown => rfl⟩
  · simp only [if_neg started]
    exact ⟨s.phones, s.qr, rfl, fun shown => rfl⟩

theorem linksShown_qr_iff (consistent : ConsistentTable s.users) (now : LinksShown s)
    (telegramUserId : Int) (phoneRaw : String) (newId : Nat) (time later : Int) :
    LinksShown (resolveTelegramQrSessionByContact s telegramUserId phoneRaw newId time later) ↔
      ∀ text, normalizePhoneE164 phoneRaw = some text →
        (activeQrSession s.qr .telegram telegramUserId time).isSome → ∀ p, contactPhone (some text) = some p →
          MayLink s.users telegramUserId p → (telegramUserId, p) ∈ s.shown := by
  unfold resolveTelegramQrSessionByContact
  cases activeQrSession s.qr .telegram telegramUserId time with
  | none => exact iff_of_true now (fun _ _ active => by cases active)
  | some session =>
    cases normalizePhoneE164 phoneRaw with
    | none => exact iff_of_true now (fun _ here => by cases here)
    | some text =>
      refine (linksShown_resolve_some_iff consistent now telegramUserId (some text) newId).trans ?_
      exact ⟨fun all text here _ => all text here, fun all text here => all text here rfl⟩

theorem linksShown_contact_iff (consistent : ConsistentTable s.users) (now : LinksShown s)
    (redisOpen : Bool) (fromId : Int) (phoneRaw : String) (newId : Nat) (time later : Int) :
    LinksShown (processContact s redisOpen fromId phoneRaw newId time later) ↔
      ∀ text, normalizePhoneE164 phoneRaw = some text → (activeQrSession s.qr .telegram fromId time).isSome →
        ∀ p, contactPhone (some text) = some p → MayLink s.users fromId p →
          (fromId, p) ∈ s.shown := by
  unfold processContact
  split
  · next invalid => exact iff_of_true now (fun _ here => by rw [invalid] at here; cases here)
  · next normalized valid =>
    obtain ⟨contacts, cached⟩ := cache_frame s redisOpen fromId normalized time
    rw [cached]
    exact linksShown_qr_iff (s := { s with contacts := contacts }) consistent now fromId phoneRaw
      newId time later

theorem contact_step_iff (hashToken : String → String) (s : ContactStore)
    (request : ContactRequest) (consistent : ConsistentTable s.users) (now : LinksShown s) :
    LinksShown (contactStep hashToken s request) ↔ LinksWhatIsShown hashToken s request := by
  have quiet (none_resolved : request.resolves hashToken s = none) :
      LinksWhatIsShown hashToken s request := by
    intro telegramId text here
    rw [none_resolved] at here
    cases here
  cases request with
  | init telegramId redisOpen newId time =>
    refine (linksShown_resolve_some_iff consistent now telegramId _ newId).trans ?_
    simp only [LinksWhatIsShown, ContactRequest.resolves, ContactRequest.shown, List.append_nil]
    cases getTelegramContactPhone s redisOpen telegramId time <;> simp
  | contactStatus telegramId redisOpen newId time =>
    refine (linksShown_resolve_some_iff consistent now telegramId _ newId).trans ?_
    simp only [LinksWhatIsShown, ContactRequest.resolves, ContactRequest.shown, List.append_nil]
    cases getTelegramContactPhone s redisOpen telegramId time <;> simp
  | contact telegramId phoneE164 redisOpen newId time =>
    simp only [contactStep, LinksWhatIsShown, ContactRequest.resolves, ContactRequest.shown,
      List.append_nil]
    cases normalizePhoneE164 phoneE164 with
    | none => exact iff_of_true now (fun _ _ here => by cases here)
    | some text =>
      obtain ⟨contacts, cached⟩ := cache_frame s redisOpen telegramId text time
      dsimp only
      rw [cached]
      refine (linksShown_resolve_some_iff (s := { s with contacts := contacts }) consistent now
        telegramId (some text) newId).trans ?_
      simp [ContactStore.users]
  | qrStart id startToken sessionToken expiresAt time => exact iff_of_true now (quiet rfl)
  | qrStatus sessionToken time => exact iff_of_true now (quiet rfl)
  | qrCancel sessionToken time => exact iff_of_true now (quiet rfl)
  | webhook update redisOpen newId time later =>
    have seen : LinksShown { s with shown := s.shown ++ update.ownContact.toList } :=
      fun link known => List.mem_append_left _ (now link known)
    simp only [contactStep, processTelegramPhoneVerificationUpdate, LinksWhatIsShown,
      ContactRequest.resolves, ContactRequest.shown]
    cases update.fromIdRaw with
    | none => exact iff_of_true seen (fun _ _ here => by cases here)
    | some fromId =>
      obtain ⟨phones, qr, same, started⟩ :=
        start_frame hashToken s fromId (JsString.trim update.text) time
      have bound : processStart hashToken s fromId (JsString.trim update.text) time =
        { s with phones := phones, qr := qr } := started s.shown
      dsimp only
      rw [started]
      cases update.phoneRaw with
      | none => exact iff_of_true seen (fun _ _ here => by cases here)
      | some phoneRaw =>
        rw [Option.bind_some]
        have users : ContactStore.users { s with
            phones := phones, qr := qr, shown := s.shown ++ update.ownContact.toList } = s.users :=
          same
        refine (linksShown_contact_iff (s := { s with
          phones := phones, qr := qr, shown := s.shown ++ update.ownContact.toList })
          (users.symm ▸ consistent) seen redisOpen fromId phoneRaw newId time later).trans ?_
        rw [users]
        cases normalizePhoneE164 phoneRaw with
        | none => exact iff_of_true (fun _ here => by cases here) (fun _ _ here => by cases here)
        | some text =>
          dsimp only
          rw [bound]
          cases activeQrSession qr .telegram fromId time with
          | none =>
            exact iff_of_true (fun _ _ there => by cases there) (fun _ _ here => by cases here)
          | some session => simp

theorem contact_consistent (hashToken : String → String) (s : ContactStore)
    (request : ContactRequest) (now : ConsistentTable s.users) :
    ConsistentTable (contactStep hashToken s request).users := by
  have resolved (t : ContactStore) (here : ConsistentTable t.users) (telegramId : Int)
      (phone : Option String) (newId : Nat) :
      ConsistentTable (t.resolve telegramId phone newId).users := by
    refine setUsers_keeps here fun users' written => ?_
    obtain ⟨resolved, there, rfl⟩ := Option.map_eq_some_iff.mp written
    exact consistent_kept.resolve here there
  cases request with
  | init telegramId redisOpen newId time => exact resolved s now telegramId _ newId
  | contactStatus telegramId redisOpen newId time => exact resolved s now telegramId _ newId
  | contact telegramId phoneE164 redisOpen newId time =>
    simp only [contactStep]
    split
    · exact now
    · next text _ =>
      obtain ⟨contacts, cached⟩ := cache_frame s redisOpen telegramId text time
      rw [cached]
      exact resolved { s with contacts := contacts } now telegramId (some text) newId
  | qrStart id startToken sessionToken expiresAt time => exact now
  | qrStatus sessionToken time => exact now
  | qrCancel sessionToken time => exact now
  | webhook update redisOpen newId time later =>
    simp only [contactStep, processTelegramPhoneVerificationUpdate]
    split
    · exact now
    · next fromId _ =>
      obtain ⟨phones, qr, same, started⟩ :=
        start_frame hashToken s fromId (JsString.trim update.text) time
      rw [started]
      have here : ConsistentTable phones.users := same.symm ▸ now
      split
      · exact here
      · next phoneRaw _ =>
        unfold processContact
        split
        · exact here
        · next text _ =>
          obtain ⟨contacts, cached⟩ := cache_frame
            { s with phones := phones, qr := qr, shown := s.shown ++ update.ownContact.toList }
            redisOpen fromId text time
          refine consistent_kept.phoneJob _ ?_
          rw [cached, resolveTelegramQrSessionByContact]
          split
          · exact here
          · split
            · exact here
            · exact resolved { s with
                phones := phones, qr := qr, shown := s.shown ++ update.ownContact.toList,
                contacts := contacts } here fromId _ newId

end Steps

section Runs
variable (hashToken : String → String)

structure ContactStart where
  phones : PhoneStore
  qr : QrStore
  consistent : ConsistentTable phones.users

def ContactStart.store (start : ContactStart) : ContactStore := ⟨start.phones, start.qr, [], [], []⟩

/-- Only shown phones are linked exactly when whatever may be linked has been shown. -/
theorem links_shown_iff (start : ContactStart) (requests : List ContactRequest) :
    Always (contactStep hashToken) LinksShown start.store requests ↔
      EachStep (contactStep hashToken) (LinksWhatIsShown hashToken) start.store requests :=
  always_iff_eachStep_of_inv (J := fun s : ContactStore => ConsistentTable s.users)
    (contact_consistent hashToken) (contact_step_iff hashToken) (s := start.store)
    start.consistent (fun _ known => by cases known) requests

def phonedUser : ContactStart where
  phones := ⟨[⟨5, some "a@b.ru", some "h", true, some 79612231345, none, none, .localLogin,
    .active⟩], [], []⟩
  qr := ⟨[], []⟩
  consistent := ⟨List.nodup_cons.mpr ⟨List.not_mem_nil, List.nodup_nil⟩, by decide⟩

/-- Telegram user 7 names the phone in the body of a request. -/
theorem asserted_phone_is_linked : ¬ ∀ (hashToken : String → String) (start : ContactStart)
    (requests : List ContactRequest),
    Always (contactStep hashToken) LinksShown start.store requests := by
  intro always
  have last := (always id phonedUser [.contact 7 "+7 961 223-13-45" true 6 0]).last
  exact absurd last (by decide +kernel)

end Runs

end LeaderProduct
