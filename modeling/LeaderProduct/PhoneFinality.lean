import LeaderProduct.PhoneVerification

/-! When the sessions of a phone verification are final, write the phone only while they are
pending and are pending one at a time. -/
namespace LeaderProduct
open Transition Interleaving RowTable

variable {s : PhoneStore} {change : PhoneSession → PhoneSession} {id : String} {c : PhoneCommit}
    {session : PhoneSession}

section Store

def PhoneStore.pendingUsers (s : PhoneStore) : List Nat :=
  (s.sessions.filter (fun session => session.status == .pending)).map (·.userId)

def PhoneStore.status (s : PhoneStore) (id : String) : Option PhoneStatus :=
  (s.session id).map (·.status)

def OnePending (s : PhoneStore) : Prop := s.pendingUsers.Nodup

instance (s : PhoneStore) : Decidable (OnePending s) := inferInstanceAs (Decidable (List.Nodup _))

def PhonesByPending (s : PhoneStore) : Prop := ∀ change ∈ s.changes, change.sessionStatus = .pending

instance (s : PhoneStore) : Decidable (PhonesByPending s) :=
  inferInstanceAs (Decidable (∀ change ∈ s.changes, change.sessionStatus = .pending))

def StaysFinal (s t : PhoneStore) : Prop :=
  ∀ id status, s.status id = some status → status ≠ .pending → t.status id = some status

def PhoneCommit.Applies (c : PhoneCommit) (s : PhoneStore) : Prop :=
  (c.users s.users).isSome ∧ (s.session c.sessionId).isSome

def PhoneStore.accepts (s : PhoneStore) (session : PhoneSession) : Bool :=
  !s.sessions.any (fun other => other.id == session.id || other.tokenHash == session.tokenHash)

def PendingOr (next : PhoneStatus) (s : PhoneStore) (id : String) : Prop :=
  ∀ status, s.status id = some status → status ≠ .pending → status = next

def KeepsFinal : PhoneWrite → PhoneStore → Prop
  | .expire id, s => PendingOr .expired s id
  | .fail id _, s => PendingOr .failed s id
  | .commit c, s => c.Applies s → PendingOr .verified s c.sessionId
  | _, _ => True

def CommitsPending : PhoneWrite → PhoneStore → Prop
  | .commit c, s => c.Applies s → s.status c.sessionId = some .pending
  | _, _ => True

def StartsSole : PhoneWrite → PhoneStore → Prop
  | .create session, s =>
    s.accepts session = true → session.status = .pending → session.userId ∉ s.pendingUsers
  | _, _ => True

def Timely (w : PhoneWrite) (s : PhoneStore) : Prop :=
  (KeepsFinal w s ∧ CommitsPending w s) ∧ StartsSole w s

theorem StaysFinal.refl (s : PhoneStore) : StaysFinal s s := fun _ _ here _ => here

theorem StaysFinal.trans {t u : PhoneStore} (first : StaysFinal s t) (second : StaysFinal t u) :
    StaysFinal s u := fun id status here final =>
  second id status (first id status here final) final

end Store

section Writes

theorem status_setSession (keeps : ∀ session, (change session).id = session.id) (s : PhoneStore)
    (id other : String) :
    (s.setSession id change).status other =
      if other = id then (s.session id).map (fun session => (change session).status)
      else s.status other := by
  simp only [PhoneStore.status, PhoneStore.session, PhoneStore.setSession]
  rw [lookup_modify keeps]
  split
  · rw [Option.map_map]
    rfl
  · rfl

theorem status_create_session {status : PhoneStatus} (known : s.status id = some status)
    (session : PhoneSession) :
    (applyPhoneWrite (.create session) s).status id = some status := by
  simp only [applyPhoneWrite]
  split
  · exact known
  · simp only [PhoneStore.status, PhoneStore.session] at known ⊢
    obtain ⟨row, found, here⟩ := Option.map_eq_some_iff.mp known
    rw [lookup_append, found, Option.some_or, Option.map_some, here]

theorem staysFinal_set_iff {next : PhoneStatus}
    (keeps : ∀ session, (change session).id = session.id)
    (sets : ∀ session, (change session).status = next) :
    StaysFinal s (s.setSession id change) ↔ PendingOr next s id := by
  have changed (status : PhoneStatus) (here : s.status id = some status) :
      (s.setSession id change).status id = some next := by
    rw [status_setSession keeps, if_pos rfl]
    obtain ⟨row, found, _⟩ := Option.map_eq_some_iff.mp here
    rw [found, Option.map_some, sets]
  constructor
  · intro stays status here final
    have kept := stays id status here final
    rw [changed status here, Option.some.injEq] at kept
    exact kept.symm
  · intro same other status here final
    by_cases this : other = id
    · rw [this] at here ⊢
      rw [changed status here, same status here final]
    · rw [status_setSession keeps, if_neg this, here]

theorem staysFinal_of_keeps (keeps : ∀ session, (change session).id = session.id)
    (leaves : ∀ session, session.status ≠ .pending → (change session).status = session.status) :
    StaysFinal s (s.setSession id change) := by
  intro other status here final
  rw [status_setSession keeps]
  split
  · next same =>
    rw [same] at here
    obtain ⟨row, found, rfl⟩ := Option.map_eq_some_iff.mp here
    rw [found, Option.map_some, leaves row final]
  · exact here

theorem applies_cases (c : PhoneCommit) (s : PhoneStore) :
    (¬ c.Applies s ∧ applyPhoneWrite (.commit c) s = s) ∨
      ∃ users session, c.users s.users = some users ∧ s.session c.sessionId = some session ∧
        applyPhoneWrite (.commit c) s = s.commit c users session := by
  simp only [applyPhoneWrite, PhoneCommit.Applies]
  cases written : c.users s.users with
  | none => exact Or.inl ⟨fun h => Bool.false_ne_true h.1, rfl⟩
  | some users =>
    cases found : s.session c.sessionId with
    | none => exact Or.inl ⟨fun h => Bool.false_ne_true h.2, rfl⟩
    | some session => exact Or.inr ⟨users, session, rfl, rfl, rfl⟩

theorem applies_of_eq {users : List Account} (written : c.users s.users = some users)
    (found : s.session c.sessionId = some session) : c.Applies s :=
  ⟨by rw [written]; rfl, by rw [found]; rfl⟩

theorem staysFinal_iff (w : PhoneWrite) (s : PhoneStore) :
    StaysFinal s (applyPhoneWrite w s) ↔ KeepsFinal w s := by
  cases w with
  | cancelPending userId =>
    refine iff_of_true (fun id status here final => ?_) trivial
    obtain ⟨row, found, rfl⟩ := Option.map_eq_some_iff.mp here
    simp only [applyPhoneWrite, PhoneStore.status, PhoneStore.session] at found ⊢
    rw [lookup_map (fun session => by split <;> rfl), found, Option.map_some, Option.map_some,
      if_neg (fun h => final h.2)]
  | create session =>
    exact iff_of_true (fun id status here _ => status_create_session here session) trivial
  | expire id => exact staysFinal_set_iff (fun _ => rfl) (fun _ => rfl)
  | fail id failureReason => exact staysFinal_set_iff (fun _ => rfl) (fun _ => rfl)
  | cancel id userId =>
    refine iff_of_true (staysFinal_of_keeps (fun session => by split <;> rfl) ?_) trivial
    intro session final
    rw [if_neg (fun h => final h.2)]
  | bind id messengerUserId =>
    exact iff_of_true (staysFinal_of_keeps (fun _ => rfl) (fun _ _ => rfl)) trivial
  | commit c =>
    rcases applies_cases c s with ⟨refused, same⟩ | ⟨users, session, written, found, after⟩
    · rw [same]
      exact iff_of_true (StaysFinal.refl s) (fun applies => absurd applies refused)
    · have applies : c.Applies s := applies_of_eq written found
      rw [after, KeepsFinal, forall_prop_of_true applies]
      exact staysFinal_set_iff (s := s) (fun _ => rfl) (fun _ => rfl)

theorem phonesByPending_iff (now : PhonesByPending s) (w : PhoneWrite) :
    PhonesByPending (applyPhoneWrite w s) ↔ CommitsPending w s := by
  cases w with
  | cancelPending userId => exact iff_of_true now trivial
  | create session =>
    refine iff_of_true ?_ trivial
    simp only [applyPhoneWrite]
    split
    · exact now
    · exact now
  | expire id => exact iff_of_true now trivial
  | fail id failureReason => exact iff_of_true now trivial
  | cancel id userId => exact iff_of_true now trivial
  | bind id messengerUserId => exact iff_of_true now trivial
  | commit c =>
    rcases applies_cases c s with ⟨refused, same⟩ | ⟨users, session, written, found, after⟩
    · rw [same]
      exact iff_of_true now (fun applies => absurd applies refused)
    · have applies : c.Applies s := applies_of_eq written found
      rw [after, CommitsPending, forall_prop_of_true applies, PhoneStore.status, found, Option.map_some,
        Option.some.injEq]
      constructor
      · intro all
        exact all _ (List.mem_append_right _ (List.mem_singleton_self _))
      · intro pending change known
        rcases List.mem_append.mp known with old | new
        · exact now change old
        · rw [List.mem_singleton.mp new]
          exact pending

theorem pendingUsers_map (keeps : ∀ session, (change session).userId = session.userId)
    (makes_none : ∀ session, (change session).status = .pending → session.status = .pending)
    (sessions : List PhoneSession) :
    (((sessions.map change).filter (fun session => session.status == .pending)).map
        (·.userId)).Sublist
      ((sessions.filter (fun session => session.status == .pending)).map (·.userId)) := by
  induction sessions with
  | nil => exact List.Sublist.refl _
  | cons session rest ih =>
    rw [List.map_cons, List.filter_cons, List.filter_cons]
    by_cases pending : (change session).status = .pending
    · rw [if_pos (beq_iff_eq.mpr pending), if_pos (beq_iff_eq.mpr (makes_none session pending)),
        List.map_cons, List.map_cons, keeps]
      exact ih.cons_cons _
    · rw [if_neg (fun h => pending (beq_iff_eq.mp h))]
      split
      · exact ih.trans (List.sublist_cons_self _ _)
      · exact ih

theorem onePending_set (now : OnePending s)
    (keeps : ∀ session, (change session).userId = session.userId)
    (makes_none : ∀ session, (change session).status = .pending → session.status = .pending) :
    OnePending (s.setSession id change) := by
  refine List.Nodup.sublist (pendingUsers_map (fun session => ?_) (fun session => ?_) _) now
  · split
    · exact keeps session
    · rfl
  · split
    · exact makes_none session
    · exact fun pending => pending

theorem onePending_iff (now : OnePending s) (w : PhoneWrite) :
    OnePending (applyPhoneWrite w s) ↔ StartsSole w s := by
  cases w with
  | cancelPending userId =>
    refine iff_of_true (List.Nodup.sublist (pendingUsers_map (fun session => ?_)
      (fun session => ?_) _) now) trivial
    · split <;> rfl
    · split
      · exact fun pending => by cases pending
      · exact fun pending => pending
  | create session =>
    simp only [applyPhoneWrite, StartsSole, PhoneStore.accepts]
    split
    · next known => exact iff_of_true now (fun accepted => by rw [known] at accepted; cases accepted)
    · next fresh =>
      rw [Bool.not_eq_true] at fresh
      rw [fresh, Bool.not_false, forall_prop_of_true rfl, OnePending, PhoneStore.pendingUsers,
        List.filter_append, List.map_append]
      by_cases pending : session.status = .pending
      · rw [List.filter_singleton, beq_iff_eq.mpr pending, cond_true, List.map_singleton,
          List.perm_append_comm.nodup_iff, List.singleton_append, List.nodup_cons,
          forall_prop_of_true pending]
        exact and_iff_left now
      · rw [List.filter_singleton, beq_eq_false_iff_ne.mpr pending, cond_false, List.map_nil,
          List.append_nil]
        exact iff_of_true now (fun h => absurd h pending)
  | expire id =>
    exact iff_of_true (onePending_set now (fun _ => rfl) (fun _ h => by cases h)) trivial
  | fail id failureReason =>
    exact iff_of_true (onePending_set now (fun _ => rfl) (fun _ h => by cases h)) trivial
  | cancel id userId =>
    refine iff_of_true (onePending_set now (fun session => by split <;> rfl) ?_) trivial
    intro session
    split
    · exact fun pending => by cases pending
    · exact fun pending => pending
  | bind id messengerUserId =>
    exact iff_of_true (onePending_set now (fun _ => rfl) (fun _ h => h)) trivial
  | commit c =>
    refine iff_of_true ?_ trivial
    rcases applies_cases c s with ⟨_, same⟩ | ⟨users, session, _, _, after⟩
    · rw [same]
      exact now
    · rw [after]
      exact onePending_set (s := s) now (fun _ => rfl) (fun _ h => by cases h)

end Writes

section Overlap

def FinalSince (id : String) (s t : PhoneStore) : Prop :=
  ∃ status, t.status id = some status ∧ status ≠ .pending ∧ s.status id ≠ some status

/-- Every pending session of the user stood there already. -/
def NoneAdded (userId : Nat) (s t : PhoneStore) : Prop :=
  ∀ session ∈ t.sessions, session.userId = userId → session.status = .pending →
    ∃ old ∈ s.sessions, old.id = session.id

/-- A session has not ended since the request that ends it has read it, unless with just that
status. One is created while no other of the user has been added since the pending ones were
cancelled for it. -/
def PhoneUndisturbed (past : List (Statement PhoneStore PhoneWrite)) :
    PhoneWrite → PhoneStore → Unit → Prop
  | .create session, s, _ => s.accepts session = true →
      ∀ e ∈ past, e.wrote = some (.cancelPending session.userId) →
        NoneAdded session.userId e.met s
  | .expire id, s, _ => ∀ e ∈ past, FinalSince id e.met s → s.status id = some .expired
  | .fail id _, s, _ => ∀ e ∈ past, FinalSince id e.met s → s.status id = some .failed
  | .commit c, s, _ => c.Applies s → ∀ e ∈ past, ¬FinalSince c.sessionId e.met s
  | _, _, _ => True

def UniquePhoneSessions (s : PhoneStore) : Prop := (s.sessions.map (·.id)).Nodup

def FoundPending (past : List (Statement PhoneStore PhoneWrite)) (id : String) : Prop :=
  ∃ e ∈ past, e.met.status id = some .pending

def PhoneChecked (past : List (Statement PhoneStore PhoneWrite)) : PhoneWrite → Prop
  | .create session => session.status = .pending ∧
      ∃ e ∈ past, e.wrote = some (.cancelPending session.userId)
  | .expire id | .fail id _ => FoundPending past id
  | .commit c => FoundPending past c.sessionId
  | _ => True

def ComesFrom (old session : PhoneSession) : Prop :=
  old.userId = session.userId ∧ (session.status = .pending → old.status = .pending)

def PhoneStore.Follows (s t : PhoneStore) : Prop :=
  Descends (·.id) ComesFrom s.sessions t.sessions

theorem foundPending_here (unique : UniquePhoneSessions s) (known : session ∈ s.sessions)
    (pending : session.status = .pending) (past : List (Statement PhoneStore PhoneWrite)) :
    FoundPending (⟨s, none⟩ :: past) session.id := by
  refine ⟨_, List.mem_cons_self, ?_⟩
  rw [PhoneStore.status, PhoneStore.session, lookup_of_mem unique known, Option.map_some, pending]

variable {past : List (Statement PhoneStore PhoneWrite)}

theorem FoundPending.cons (found : FoundPending past id) (e : Statement PhoneStore PhoneWrite) :
    FoundPending (e :: past) id := by
  obtain ⟨old, there, pending⟩ := found
  exact ⟨old, List.mem_cons_of_mem e there, pending⟩

theorem backed_contact {provider : MessengerProvider} {messengerUserId : Int} {phoneRaw : String}
    {now : Int} {confirm : PhoneSession → Account → Nat → PhoneJob}
    (later : ∀ past session user phone, FoundPending past session.id →
      (confirm session user phone).Backed UniquePhoneSessions PhoneChecked past) :
    (verifyPhoneByContact provider messengerUserId phoneRaw now confirm).Backed UniquePhoneSessions
      PhoneChecked [] := by
  have fails {past : List (Statement PhoneStore PhoneWrite)} {id : String}
      (found : FoundPending past id) (reason : String) :
      (failVerification id reason).Backed UniquePhoneSessions PhoneChecked past :=
    ⟨found, fun _ _ => trivial⟩
  unfold verifyPhoneByContact
  split
  · trivial
  · split
    · trivial
    · intro s unique
      dsimp only
      cases newest : newestBy (fun session : PhoneSession => session.createdAt) _ with
      | none => trivial
      | some session =>
        have known := List.mem_filter.mp (mem_of_newestBy newest)
        simp only [Bool.and_eq_true, beq_iff_eq] at known
        have found := foundPending_here unique known.1 known.2.2 []
        dsimp only
        split
        · exact ⟨found, fun _ _ => trivial⟩
        · split
          · exact fails found _
          · intro t _
            dsimp only
            split
            · exact fails (found.cons _) _
            · intro u _
              dsimp only
              split
              · exact fails ((found.cons _).cons _) _
              · exact later _ session _ _ ((found.cons _).cons _)

theorem backed_commit (found : FoundPending past c.sessionId) :
    (commitVerification c).Backed UniquePhoneSessions PhoneChecked past := by
  refine ⟨found, fun s _ => ?_⟩
  dsimp only
  split <;> trivial

theorem phone_backed (hashToken : String → String) (q : PhoneRequest) :
    (q.job hashToken).Backed UniquePhoneSessions PhoneChecked [] := by
  cases q with
  | start userId phoneRaw provider id token expiresAt createdAt =>
    simp only [PhoneRequest.job, startPhoneVerificationSession]
    split
    · trivial
    · intro s _
      dsimp only
      split
      · trivial
      · exact ⟨trivial, fun t _ => ⟨⟨rfl, _, List.mem_cons_self, rfl⟩, fun _ _ => trivial⟩⟩
  | state userId sessionId now =>
    intro s unique
    dsimp only
    split
    · trivial
    · next session found =>
      split
      · next late =>
        exact ⟨foundPending_here unique (List.mem_of_find?_eq_some found) late.1 [],
          fun _ _ => trivial⟩
      · trivial
  | cancel userId sessionId => exact ⟨trivial, fun _ _ => trivial⟩
  | bind provider token messengerUserId now =>
    simp only [PhoneRequest.job, bindPhoneVerificationByStartToken]
    split
    · trivial
    · split
      · trivial
      · intro s unique
        dsimp only
        split
        · trivial
        · next session found =>
          split
          · trivial
          · split
            · trivial
            · next pending =>
              split
              · exact ⟨foundPending_here unique (List.mem_of_find?_eq_some found)
                  (not_not.mp pending) [], fun _ _ => trivial⟩
              · exact ⟨trivial, fun _ _ => trivial⟩
  | contact provider messengerUserId phoneRaw now =>
    cases provider with
    | telegram =>
      refine backed_contact fun past session user phone found t _ => ?_
      exact backed_commit (found.cons _)
    | max =>
      refine backed_contact fun past session user phone found t _ => ?_
      dsimp only
      split
      · exact ⟨found.cons _, fun _ _ => trivial⟩
      · exact backed_commit (found.cons _)

theorem ComesFrom.trans (a b c : PhoneSession) (first : ComesFrom a b) (second : ComesFrom b c) :
    ComesFrom a c := ⟨first.1.trans second.1, fun pending => first.2 (second.2 pending)⟩

theorem ComesFrom.self (session : PhoneSession) : ComesFrom session session := ⟨rfl, id⟩

theorem unique_setSession (unique : UniquePhoneSessions s) (id : String)
    (keeps : ∀ session, (change session).id = session.id) :
    UniquePhoneSessions (s.setSession id change) := by
  simp only [UniquePhoneSessions, PhoneStore.setSession]
  rw [keys_modify keeps]
  exact unique

theorem accepts_fresh (fresh : ¬(s.sessions.any (fun other =>
      other.id == session.id || other.tokenHash == session.tokenHash)) = true) :
    ∀ other ∈ s.sessions, other.id ≠ session.id := by
  intro other known same
  exact fresh (List.any_eq_true.mpr ⟨other, known, by simp [same]⟩)

theorem unique_apply (unique : UniquePhoneSessions s) (w : PhoneWrite) :
    UniquePhoneSessions (applyPhoneWrite w s) := by
  cases w with
  | cancelPending userId =>
    have keys : (applyPhoneWrite (.cancelPending userId) s).sessions.map (·.id) =
        s.sessions.map (·.id) := by
      simp only [applyPhoneWrite, List.map_map]
      refine List.map_congr_left fun session _ => ?_
      rw [Function.comp_apply]
      split <;> rfl
    rw [UniquePhoneSessions, keys]
    exact unique
  | create session =>
    simp only [applyPhoneWrite]
    split
    · exact unique
    · next fresh =>
      simp only [UniquePhoneSessions, List.map_append, List.map_singleton]
      rw [List.perm_append_comm.nodup_iff, List.singleton_append, List.nodup_cons]
      refine ⟨fun known => ?_, unique⟩
      obtain ⟨other, there, same⟩ := List.mem_map.mp known
      exact accepts_fresh fresh other there same
  | expire id => exact unique_setSession unique id fun _ => rfl
  | fail id failureReason => exact unique_setSession unique id fun _ => rfl
  | cancel id userId => exact unique_setSession unique id fun session => by split <;> rfl
  | bind id messengerUserId => exact unique_setSession unique id fun _ => rfl
  | commit c =>
    rcases applies_cases c s with ⟨_, same⟩ | ⟨users, session, _, _, after⟩
    · rw [same]
      exact unique
    · rw [after]
      exact unique_setSession (s := s) unique c.sessionId fun _ => rfl

theorem follows_apply {t : PhoneStore} (follows : s.Follows t) (w : PhoneWrite) :
    s.Follows (applyPhoneWrite w t) := by
  have set {id : String} {change : PhoneSession → PhoneSession}
      (keeps : ∀ session, (change session).id = session.id)
      (changes : ∀ session, ComesFrom session (change session)) :
      s.Follows (t.setSession id change) :=
    Descends.modify ComesFrom.trans ComesFrom.self follows id keeps fun session _ _ =>
      changes session
  have closes (session : PhoneSession) (status : PhoneStatus) (failureReason : String)
      (ended : status ≠ .pending) : ComesFrom session (session.close status failureReason) :=
    ⟨rfl, fun pending => absurd pending ended⟩
  cases w with
  | cancelPending userId =>
    refine Descends.map ComesFrom.trans follows (fun session => ?_) (fun session _ => ?_)
    · split <;> rfl
    · split
      · exact closes session _ _ nofun
      · exact ComesFrom.self session
  | create session =>
    simp only [applyPhoneWrite]
    split
    · exact follows
    · next fresh => exact Descends.append follows (accepts_fresh fresh)
  | expire id => exact set (fun _ => rfl) fun session => closes session _ _ nofun
  | fail id failureReason => exact set (fun _ => rfl) fun session => closes session _ _ nofun
  | cancel id userId =>
    refine set (fun session => by split <;> rfl) fun session => ?_
    split
    · exact closes session _ _ nofun
    · exact ComesFrom.self session
  | bind id messengerUserId => exact set (fun _ => rfl) fun session => ⟨rfl, fun pending => pending⟩
  | commit c =>
    rcases applies_cases c t with ⟨_, same⟩ | ⟨users, session, _, _, after⟩
    · rw [same]
      exact follows
    · rw [after]
      exact set (fun _ => rfl) fun session => ⟨rfl, nofun⟩

theorem pendingOr_iff (found : FoundPending past id) (next : PhoneStatus) :
    (∀ e ∈ past, FinalSince id e.met s → s.status id = some next) ↔ PendingOr next s id := by
  constructor
  · intro apart status here final
    obtain ⟨e, there, pending⟩ := found
    have same := apart e there ⟨status, here, final, fun unchanged => by
      rw [pending, Option.some.injEq] at unchanged
      exact final unchanged.symm⟩
    rw [here, Option.some.injEq] at same
    exact same
  · rintro only e _ ⟨status, here, final, _⟩
    rw [here, only status here final]

theorem commit_pending_iff (found : FoundPending past c.sessionId) (applies : c.Applies s) :
    (∀ e ∈ past, ¬FinalSince c.sessionId e.met s) ↔ s.status c.sessionId = some .pending := by
  constructor
  · intro apart
    obtain ⟨e, there, pending⟩ := found
    obtain ⟨session, here⟩ := Option.isSome_iff_exists.mp applies.2
    have status : s.status c.sessionId = some session.status := by rw [PhoneStore.status, here]; rfl
    rw [status, Option.some.injEq]
    by_contra final
    refine apart e there ⟨session.status, status, final, fun same => ?_⟩
    rw [pending, Option.some.injEq] at same
    exact final same.symm
  · rintro pending e _ ⟨status, here, final, _⟩
    rw [pending, Option.some.injEq] at here
    exact final here.symm

/-- After the cancelling statement of a start only a session added since can be pending. -/
theorem startsSole_of_noneAdded {e : Statement PhoneStore PhoneWrite} {userId : Nat}
    (cancelled : e.wrote = some (.cancelPending userId))
    (since : (e.left applyPhoneWrite).Follows s) (none_added : NoneAdded userId e.met s) :
    userId ∉ s.pendingUsers := by
  intro known
  obtain ⟨other, there, mine⟩ := List.mem_map.mp known
  obtain ⟨there, pending⟩ := List.mem_filter.mp there
  rw [beq_iff_eq] at pending
  have left : (e.left applyPhoneWrite).sessions = e.met.sessions.map (fun session =>
      if session.userId = userId ∧ session.status = .pending then
        session.close .cancelled "REPLACED_BY_NEW_REQUEST"
      else session) := by
    rw [Statement.left, cancelled]
    rfl
  obtain ⟨old, old_there, same⟩ := none_added other there mine pending
  have stood : ∃ session ∈ (e.left applyPhoneWrite).sessions, session.id = other.id := by
    rw [left]
    refine ⟨_, List.mem_map_of_mem old_there, ?_⟩
    rw [← same]
    split <;> rfl
  obtain ⟨session, session_there, _, user, was_pending⟩ := since.origin other there stood
  rw [left] at session_there
  obtain ⟨before, _, rfl⟩ := List.mem_map.mp session_there
  by_cases closed : before.userId = userId ∧ before.status = .pending
  · rw [if_pos closed] at was_pending
    exact absurd (was_pending pending) nofun
  · rw [if_neg closed] at user was_pending
    exact closed ⟨user.trans mine, was_pending pending⟩

theorem undisturbed_iff {w : PhoneWrite} (checked : PhoneChecked past w)
    (met : ∀ e ∈ past, UniquePhoneSessions e.met ∧ (e.left applyPhoneWrite).Follows s) (g : Unit) :
    PhoneUndisturbed past w s g ↔ Timely w s := by
  cases w with
  | cancelPending userId => exact iff_of_true trivial ⟨⟨trivial, trivial⟩, trivial⟩
  | cancel id userId => exact iff_of_true trivial ⟨⟨trivial, trivial⟩, trivial⟩
  | bind id messengerUserId => exact iff_of_true trivial ⟨⟨trivial, trivial⟩, trivial⟩
  | expire id =>
    exact (pendingOr_iff checked .expired).trans
      ⟨fun kept => ⟨⟨kept, trivial⟩, trivial⟩, fun all => all.1.1⟩
  | fail id failureReason =>
    exact (pendingOr_iff checked .failed).trans
      ⟨fun kept => ⟨⟨kept, trivial⟩, trivial⟩, fun all => all.1.1⟩
  | commit c =>
    refine (forall_congr' fun applies => commit_pending_iff checked applies).trans
      ⟨fun pending => ⟨⟨fun applies status here final => ?_, pending⟩, trivial⟩, fun all => all.1.2⟩
    rw [pending applies, Option.some.injEq] at here
    exact absurd here.symm final
  | create session =>
    refine Iff.trans (forall_congr' fun _ => ?_)
      ⟨fun sole => ⟨⟨trivial, trivial⟩, sole⟩, fun all => all.2⟩
    constructor
    · intro none_added _
      obtain ⟨e, there, cancelled⟩ := checked.2
      exact startsSole_of_noneAdded cancelled (met e there).2 (none_added e there cancelled)
    · intro sole e _ _ other there mine pending
      refine absurd (List.mem_map.mpr ⟨other, ?_, mine⟩) (sole checked.1)
      exact List.mem_filter.mpr ⟨there, beq_iff_eq.mpr pending⟩

theorem phone_guards (hashToken : String → String) :
    Guards applyPhoneWrite (PhoneRequest.job hashToken) (fun _ _ g => g) UniquePhoneSessions
      PhoneChecked PhoneStore.Follows (fun s _ => UniquePhoneSessions s) PhoneUndisturbed Timely where
  backed := phone_backed hashToken
  known := id
  refl := fun s => Descends.refl ComesFrom.self s.sessions
  keeps_rel := fun _ _ follows => follows_apply follows _
  keeps := fun _ unique _ => unique_apply unique _
  exact_write := fun checked met _ => undisturbed_iff checked met _

end Overlap

section Runs
variable (hashToken : String → String)

abbrev phoneStep := Interleaving.step applyPhoneWrite (PhoneRequest.job hashToken)

/-- Final statuses stay, phones are written by pending sessions only, and at every moment a user
has one pending session at most. -/
def SessionsAreFinal (users : List Account) (actions : List (Action PhoneRequest)) : Prop :=
  (trace (phoneStep hashToken) (.start ⟨users, [], []⟩) actions).Pairwise
      (fun s t => StaysFinal s.shared t.shared) ∧
    Always (phoneStep hashToken) (fun s => PhonesByPending s.shared) (.start ⟨users, [], []⟩)
      actions ∧
    Always (phoneStep hashToken) (fun s => OnePending s.shared) (.start ⟨users, [], []⟩) actions

theorem sessionsAreFinal_iff_timely (users : List Account) (actions : List (Action PhoneRequest)) :
    SessionsAreFinal hashToken users actions ↔
      EachStep (phoneStep hashToken) (Meets Timely) (.start ⟨users, [], []⟩) actions := by
  unfold Timely
  rw [eachStep_meets_and, eachStep_meets_and, and_assoc]
  refine and_congr ?_ (and_congr ?_ ?_)
  · exact pairwise_iff_meets (R := StaysFinal) (J := fun _ => True) StaysFinal.refl
      (fun first second => first.trans second) (fun _ _ _ => trivial)
      (fun w s _ => staysFinal_iff w s) trivial actions
  · exact always_iff_meets (I := PhonesByPending) (J := fun _ => True) (fun _ _ _ => trivial)
      (fun w s _ now => phonesByPending_iff now w) trivial (s := .start ⟨users, [], []⟩)
      (fun _ known => by cases known) actions
  · exact always_iff_meets (I := OnePending) (J := fun _ => True) (fun _ _ _ => trivial)
      (fun w s _ now => onePending_iff now w) trivial (s := .start ⟨users, [], []⟩)
      List.nodup_nil actions

/-- It is so exactly when no request ends a session that has ended since it has read it, and no
start creates one beside another that was added since its cancelling statement. -/
theorem sessions_are_final_iff (users : List Account) (actions : List (Action PhoneRequest)) :
    SessionsAreFinal hashToken users actions ↔
      EachStep (watch applyPhoneWrite (PhoneRequest.job hashToken) (fun _ _ g => g))
        (Finds PhoneUndisturbed) (.start ⟨users, [], []⟩ ()) actions := by
  have start : UniquePhoneSessions ⟨users, [], []⟩ := List.nodup_nil
  rw [(phone_guards hashToken).eachStep_iff start, sessionsAreFinal_iff_timely]

def cancelDuringContact : List (Action PhoneRequest) :=
  [.begin 1 (.start 5 "79612231345" .telegram "p" "t" 100 0), .step 1, .step 1, .step 1,
    .begin 2 (.bind .telegram "t" 7 1), .step 2, .step 2,
    .begin 3 (.contact .telegram 7 "79612231345" 2), .step 3, .step 3, .step 3, .step 3,
    .begin 4 (.cancel 5 "p"), .step 4, .step 3]

theorem cancelled_session_writes_phone : ¬ ∀ (hashToken : String → String) (users : List Account)
    (actions : List (Action PhoneRequest)), SessionsAreFinal hashToken users actions := by
  intro always
  have last := (always id [⟨5, some "a@b.ru", some "h", true, none, none, none, .localLogin,
    .active⟩] cancelDuringContact).2.1.last
  exact absurd last (by decide +kernel)

end Runs

end LeaderProduct
