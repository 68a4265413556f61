import LeaderProduct.OneTimeCodes

/-! The same for the codes that change an address, whose sessions get new codes as long as they
are pending. -/
namespace LeaderProduct
open Transition Interleaving RowTable

variable {s t : ChangeStore} {userId : Nat}

section Store

def ChangeOnceAndNewest (s : ChangeStore) : Prop :=
  (s.uses.map (fun use => (use.sessionId, use.codeHash))).Nodup ∧
    ∀ use ∈ s.uses, use.replaced = false

instance (s : ChangeStore) : Decidable (ChangeOnceAndNewest s) :=
  inferInstanceAs (Decidable (_ ∧ ∀ use ∈ s.uses, use.replaced = false))

def ChangeInOrder : ChangeWrite → ChangeStore → Prop
  | .create session, s =>
    ∀ other ∈ s.sessions, other.userId = session.userId → other.status ≠ .pending
  | .miss id _, s => ∀ session ∈ s.sessions, session.id = id → session.status = .pending
  | .commit userId requestedEmail id codeHash, s =>
    (updateAccount s.users userId (fun user => { user with email := some requestedEmail })).isSome →
      ∀ session ∈ s.sessions, session.id = id →
        session.status = .pending ∧ session.codeHash = codeHash
  | _, _ => True

instance (w : ChangeWrite) (s : ChangeStore) : Decidable (ChangeInOrder w s) := by
  unfold ChangeInOrder
  split <;> infer_instance

def OnlyNewestPending (s : ChangeStore) : Prop :=
  s.sessions.Pairwise (fun earlier later =>
    earlier.userId = later.userId → earlier.status ≠ .pending)

def UsesClosed (s : ChangeStore) : Prop :=
  (s.uses.map (·.sessionId)).Nodup ∧
    ∀ use ∈ s.uses, ∃ session, s.session use.sessionId = some session ∧ session.status ≠ .pending

structure ChangesOrderly (s : ChangeStore) : Prop where
  newest : OnlyNewestPending s
  closed : UsesClosed s
  unreplaced : ∀ use ∈ s.uses, use.replaced = false

variable {change : EmailChangeSession → EmailChangeSession} {session : EmailChangeSession}

theorem closed_map (sessions : t.sessions = s.sessions.map change)
    (keepsId : ∀ session, (change session).id = session.id)
    (closes : ∀ session ∈ s.sessions, session.status ≠ .pending →
      (change session).status ≠ .pending) {id : String}
    (closed : ∃ session, s.session id = some session ∧ session.status ≠ .pending) :
    ∃ session, t.session id = some session ∧ session.status ≠ .pending := by
  obtain ⟨session, found, closed⟩ := closed
  refine ⟨change session, ?_, closes session (mem_of_lookup found) closed⟩
  rw [ChangeStore.session, sessions, lookup_map keepsId]
  exact congrArg (Option.map change) found

theorem closed_append {new : EmailChangeSession} (sessions : t.sessions = s.sessions ++ [new])
    {id : String} (closed : ∃ session, s.session id = some session ∧ session.status ≠ .pending) :
    ∃ session, t.session id = some session ∧ session.status ≠ .pending := by
  obtain ⟨old, found, closed⟩ := closed
  refine ⟨old, ?_, closed⟩
  rw [ChangeStore.session] at found
  rw [ChangeStore.session, sessions, lookup_append, found, Option.some_or]

theorem orderly_map (now : ChangesOrderly s) (uses : t.uses = s.uses)
    (sessions : t.sessions = s.sessions.map change)
    (keepsId : ∀ session, (change session).id = session.id)
    (keepsUser : ∀ session, (change session).userId = session.userId)
    (closes : ∀ session ∈ s.sessions, session.status ≠ .pending →
      (change session).status ≠ .pending) : ChangesOrderly t where
  newest := by
    rw [OnlyNewestPending, sessions, List.pairwise_map]
    refine now.newest.imp_of_mem fun {earlier later} known _ related same => ?_
    rw [keepsUser, keepsUser] at same
    exact closes earlier known (related same)
  closed := by
    rw [UsesClosed, uses]
    exact ⟨now.closed.1, fun use taken =>
      closed_map sessions keepsId closes (now.closed.2 use taken)⟩
  unreplaced := by
    rw [uses]
    exact now.unreplaced

theorem orderly_set (now : ChangesOrderly s) {id : String}
    (keepsId : ∀ session, (change session).id = session.id)
    (keepsUser : ∀ session, (change session).userId = session.userId)
    (closes : ∀ session ∈ s.sessions, session.id = id → session.status ≠ .pending →
      (change session).status ≠ .pending) : ChangesOrderly (s.setSession id change) := by
  refine orderly_map now rfl rfl (fun session => ?_) (fun session => ?_)
    (fun session known closed => ?_)
  · split
    · exact keepsId session
    · rfl
  · split
    · exact keepsUser session
    · rfl
  · split
    · next same => exact closes session known same closed
    · exact closed

theorem orderly_create (now : ChangesOrderly s)
    (alone : ∀ other ∈ s.sessions, other.userId = session.userId → other.status ≠ .pending) :
    ChangesOrderly (applyChangeWrite (.create session) s) := by
  simp only [applyChangeWrite]
  split
  · exact now
  · constructor
    · rw [OnlyNewestPending, List.pairwise_append]
      refine ⟨now.newest, List.pairwise_singleton _ _, fun other known later here => ?_⟩
      rw [List.mem_singleton.mp here]
      exact alone other known
    · exact ⟨now.closed.1, fun use taken => closed_append rfl (now.closed.2 use taken)⟩
    · exact now.unreplaced

theorem unreplaced_of_pending (newest : OnlyNewestPending s) {id codeHash : String}
    (found : s.session id = some session) (pending : session.status = .pending)
    (same : session.codeHash = codeHash) :
    s.replaced id codeHash = false := by
  obtain ⟨later, here, related⟩ := later_of_pairwise newest found
  have since : s.since id = session :: later := by
    rw [← here]
    unfold ChangeStore.since
    congr 1
  rw [ChangeStore.replaced, since]
  dsimp only
  rw [same, bne_self_eq_false, Bool.false_or, List.any_eq_false]
  intro other known
  rw [beq_iff_eq]
  exact fun user => related other known user.symm pending

theorem verifiedSession_keeps (userId : Nat) (id : String) (session : EmailChangeSession) :
    (verifiedSession userId id session).id = session.id ∧
      (verifiedSession userId id session).userId = session.userId ∧
      (session.status ≠ .pending → (verifiedSession userId id session).status ≠ .pending) := by
  unfold verifiedSession
  split
  · exact ⟨rfl, rfl, fun _ h => by cases h⟩
  · split
    · exact ⟨rfl, rfl, fun _ h => by cases h⟩
    · exact ⟨rfl, rfl, fun closed => closed⟩

theorem orderly_commit (now : ChangesOrderly s) {id codeHash : String} {users : List Account}
    (found : s.session id = some session) (met : ∀ session ∈ s.sessions, session.id = id →
      session.status = .pending ∧ session.codeHash = codeHash) :
    ChangesOrderly (s.commit userId id codeHash users) := by
  have mine := met session (mem_of_lookup found) (key_of_lookup found)
  have rest : ChangesOrderly { s with
      users := users, sessions := s.sessions.map (verifiedSession userId id) } :=
    orderly_map now rfl rfl (fun session => (verifiedSession_keeps userId id session).1)
      (fun session => (verifiedSession_keeps userId id session).2.1)
      (fun session _ => (verifiedSession_keeps userId id session).2.2)
  constructor
  · exact rest.newest
  · constructor
    · simp only [ChangeStore.commit, List.map_append, List.map_singleton]
      rw [List.perm_append_comm.nodup_iff, List.singleton_append, List.nodup_cons]
      refine ⟨fun known => ?_, now.closed.1⟩
      obtain ⟨use, taken, rfl⟩ := List.mem_map.mp known
      obtain ⟨old, found', closed⟩ := now.closed.2 use taken
      rw [found, Option.some.injEq] at found'
      rw [← found'] at closed
      exact closed mine.1
    · intro use taken
      rcases List.mem_append.mp taken with old | new
      · exact rest.closed.2 use old
      · rw [List.mem_singleton.mp new]
        refine ⟨verifiedSession userId id session, ?_, ?_⟩
        · simp only [ChangeStore.session, ChangeStore.commit]
          rw [lookup_map (fun session => (verifiedSession_keeps userId id session).1)]
          exact congrArg (Option.map (verifiedSession userId id)) found
        · rw [verifiedSession, if_pos (key_of_lookup found)]
          exact fun h => by cases h
  · intro use taken
    rcases List.mem_append.mp taken with old | new
    · exact now.unreplaced use old
    · rw [List.mem_singleton.mp new]
      exact unreplaced_of_pending now.newest found mine.1 mine.2

theorem change_once_step (w : ChangeWrite) (s : ChangeStore) (now : ChangesOrderly s)
    (met : ChangeInOrder w s) : ChangesOrderly (applyChangeWrite w s) := by
  cases w with
  | cancelPending userId =>
    refine orderly_map now rfl rfl (fun session => by split <;> rfl)
      (fun session => by split <;> rfl) (fun session _ closed => ?_)
    rw [if_neg (fun h => closed h.2)]
    exact closed
  | create session => exact orderly_create now met
  | expire id =>
    exact orderly_set now (fun _ => rfl) (fun _ => rfl) (fun _ _ _ _ h => by cases h)
  | resend id codeHash time =>
    exact orderly_set now (fun _ => rfl) (fun _ => rfl) (fun _ _ _ closed => closed)
  | compare userId id codeHash time =>
    have same : ∀ guesses, ChangesOrderly { s with guesses := guesses } := fun guesses =>
      ⟨now.newest, now.closed, now.unreplaced⟩
    simp only [applyChangeWrite]
    split
    · exact now
    · split
      · exact now
      · split
        · exact now
        · exact same _
  | miss id attempts =>
    refine orderly_set now (fun session => by split <;> rfl) (fun session => by split <;> rfl)
      (fun session known same closed => absurd (met session known same) closed)
  | conflict id =>
    exact orderly_set now (fun _ => rfl) (fun _ => rfl) (fun _ _ _ _ h => by cases h)
  | commit userId requestedEmail id codeHash =>
    simp only [applyChangeWrite]
    split
    · next users session written found =>
      exact orderly_commit now found (met (by rw [written]; rfl))
    · exact now
  | cancel id userId =>
    refine orderly_set now (fun session => by split <;> rfl) (fun session => by split <;> rfl)
      (fun session _ _ closed => ?_)
    rw [if_neg (fun h => closed h.2)]
    exact closed

end Store

section Acceptable
variable (hashCode : String → String)

/-- Of the codes of a user's sessions at most one would be accepted now. -/
def SoleChangeCode (s : ChangeStore) : Prop :=
  ∀ userId id id' code code' now now',
    ((verifyEmailChangeSession hashCode userId id code now).alone applyChangeWrite s).2 = .verified →
      ((verifyEmailChangeSession hashCode userId id' code' now').alone applyChangeWrite s).2
          = .verified →
        id = id' ∧ hashCode (JsString.trim code) = hashCode (JsString.trim code')

variable {hashCode}

theorem verify_verified {id code : String} {now : Int}
    (accepted : ((verifyEmailChangeSession hashCode userId id code now).alone applyChangeWrite s).2 =
      .verified) :
    ∃ session ∈ s.sessions, session.id = id ∧ session.userId = userId ∧
      session.status = .pending ∧ session.codeHash = hashCode (JsString.trim code) := by
  simp only [verifyEmailChangeSession] at accepted
  split at accepted
  · cases accepted
  · simp only [Job.alone] at accepted
    split at accepted
    · cases accepted
    · next session found =>
      split at accepted
      · cases accepted
      · next pending =>
        split at accepted
        · cases accepted
        · split at accepted
          · simp only [Job.alone] at accepted
            split at accepted <;> cases accepted
          · next same =>
            have own := List.find?_some found
            rw [Bool.and_eq_true, beq_iff_eq, beq_iff_eq] at own
            exact ⟨session, List.mem_of_find?_eq_some found, own.1, own.2, not_not.mp pending,
              (not_not.mp same).symm⟩

theorem sole_change_code (newest : OnlyNewestPending s) :
    SoleChangeCode hashCode s := by
  intro userId id id' code code' now now' accepted accepted'
  obtain ⟨session, known, rfl, user, pending, same⟩ := verify_verified accepted
  obtain ⟨session', known', rfl, user', pending', same'⟩ := verify_verified accepted'
  have one : session = session' := eq_of_pairwise newest known known'
    (fun related => related (user.trans user'.symm) pending)
    (fun related => related (user'.trans user.symm) pending')
  rw [one] at same
  exact ⟨congrArg (·.id) one, same.symm.trans same'⟩

end Acceptable

section Overlap

/-- The user's sessions that are pending were there already. -/
def NonePendingAdded (userId : Nat) (s t : ChangeStore) : Prop :=
  ∀ session ∈ t.sessions, session.userId = userId → session.status = .pending →
    ∃ old ∈ s.sessions, old.id = session.id

/-- If the request has met the session as `as` says, it is so still. -/
def StandsAsMet (past : List (Statement ChangeStore ChangeWrite)) (id : String)
    (as : EmailChangeSession → Prop) (s : ChangeStore) : Prop :=
  ∀ e ∈ past, (∃ old ∈ e.met.sessions, old.id = id ∧ as old) →
    ∀ session ∈ s.sessions, session.id = id → as session

/-- A session is created while none of the user has been added since the request has ended the
others. A session whose code has been compared is not ended, and before an address is changed gets
no new code, until the outcome is written. -/
def NotCrossed (past : List (Statement ChangeStore ChangeWrite)) :
    ChangeWrite → ChangeStore → Unit → Prop
  | .create session, s, _ => ∀ e ∈ past, e.wrote = some (.cancelPending session.userId) →
      NonePendingAdded session.userId e.met s
  | .miss id _, s, _ => StandsAsMet past id (fun session => session.status = .pending) s
  | .commit userId requestedEmail id codeHash, s, _ =>
    (updateAccount s.users userId (fun user => { user with email := some requestedEmail })).isSome →
      StandsAsMet past id
        (fun session => session.status = .pending ∧ session.codeHash = codeHash) s
  | _, _, _ => True

instance (userId : Nat) (s t : ChangeStore) : Decidable (NonePendingAdded userId s t) :=
  inferInstanceAs (Decidable (∀ session ∈ t.sessions, session.userId = userId →
    session.status = .pending → ∃ old ∈ s.sessions, old.id = session.id))

instance (past : List (Statement ChangeStore ChangeWrite)) (id : String)
    (as : EmailChangeSession → Prop) [DecidablePred as] (s : ChangeStore) :
    Decidable (StandsAsMet past id as s) :=
  inferInstanceAs (Decidable (∀ e ∈ past, (∃ old ∈ e.met.sessions, old.id = id ∧ as old) →
    ∀ session ∈ s.sessions, session.id = id → as session))

instance (past : List (Statement ChangeStore ChangeWrite)) (s : ChangeStore) (u : Unit) :
    ∀ w : ChangeWrite, Decidable (NotCrossed past w s u)
  | .create session => inferInstanceAs (Decidable (∀ e ∈ past,
      e.wrote = some (.cancelPending session.userId) → NonePendingAdded session.userId e.met s))
  | .miss id _ => inferInstanceAs (Decidable (StandsAsMet past id _ s))
  | .commit _ _ id _ => inferInstanceAs (Decidable (_ → StandsAsMet past id _ s))
  | .cancelPending _ | .expire _ | .resend _ _ _ | .compare _ _ _ _ | .conflict _ | .cancel _ _ =>
    isTrue trivial

def ChangeChecked (past : List (Statement ChangeStore ChangeWrite)) : ChangeWrite → Prop
  | .create session => ∃ e ∈ past, e.wrote = some (.cancelPending session.userId)
  | .miss id _ => ∃ e ∈ past, ∃ old ∈ e.met.sessions, old.id = id ∧ old.status = .pending
  | .commit _ _ id codeHash => ∃ e ∈ past, ∃ old ∈ e.met.sessions,
      old.id = id ∧ old.status = .pending ∧ old.codeHash = codeHash
  | _ => True

def EmailChangeSession.ComesFrom (old session : EmailChangeSession) : Prop :=
  old.userId = session.userId ∧ (session.status = .pending → old.status = .pending)

def ChangeStore.Follows (s t : ChangeStore) : Prop :=
  Descends (·.id) EmailChangeSession.ComesFrom s.sessions t.sessions

theorem backed_startChange (hashCode : String → String) (userId : Nat)
    (requestedEmail id code : String) (now : Int) :
    (startEmailChangeSession hashCode userId requestedEmail id code now).Backed (fun _ => True)
      ChangeChecked [] := by
  intro s _
  dsimp only
  cases findAccount s.users userId with
  | none => exact trivial
  | some user =>
    dsimp only
    generalize user.email.any _ = same
    cases same with
    | true => exact trivial
    | false =>
      intro t _
      dsimp only
      generalize t.users.any _ = taken
      cases taken with
      | true => exact trivial
      | false => exact ⟨trivial, fun u _ => ⟨⟨_, List.mem_cons_self, rfl⟩, fun _ _ => trivial⟩⟩

theorem change_backed (hashCode : String → String) (q : ChangeRequest) :
    (q.job hashCode).Backed (fun _ => True) ChangeChecked [] := by
  cases q with
  | start userId requestedEmail id code now =>
    exact backed_startChange hashCode userId requestedEmail id code now
  | state userId sessionId now =>
    intro s _
    dsimp only
    split
    · exact trivial
    · split
      · exact ⟨trivial, fun _ _ => trivial⟩
      · exact trivial
  | resend userId sessionId code now =>
    intro s _
    dsimp only
    split
    · exact trivial
    · split
      · exact trivial
      · split
        · exact ⟨trivial, fun _ _ => trivial⟩
        · split
          · exact trivial
          · exact ⟨trivial, fun _ _ => trivial⟩
  | verify userId sessionId codeRaw now =>
    simp only [ChangeRequest.job, verifyEmailChangeSession]
    cases sixDigits (JsString.trim codeRaw) with
    | false => exact trivial
    | true =>
      refine ⟨trivial, fun s _ => ?_⟩
      dsimp only
      split
      · exact trivial
      · next session found =>
        split
        · exact trivial
        · next pending =>
          have known : session ∈ s.sessions := List.mem_of_find?_eq_some found
          rw [not_not] at pending
          split
          · exact ⟨trivial, fun _ _ => trivial⟩
          · split
            · exact ⟨⟨_, List.mem_cons_self, session, known, rfl, pending⟩, fun _ _ => trivial⟩
            · intro t _
              dsimp only
              split
              · exact ⟨trivial, fun _ _ => trivial⟩
              · refine ⟨⟨_, List.mem_cons_of_mem _ List.mem_cons_self, session, known, rfl, pending,
                  rfl⟩, fun u _ => ?_⟩
                dsimp only
                split <;> trivial
  | cancel userId sessionId => exact ⟨trivial, fun _ _ => trivial⟩

theorem EmailChangeSession.ComesFrom.trans (a b c : EmailChangeSession) (first : a.ComesFrom b)
    (second : b.ComesFrom c) : a.ComesFrom c :=
  ⟨first.1.trans second.1, fun pending => first.2 (second.2 pending)⟩

theorem EmailChangeSession.ComesFrom.self (session : EmailChangeSession) :
    session.ComesFrom session := ⟨rfl, fun pending => pending⟩

theorem changes_follow (follows : s.Follows t) {w : ChangeWrite} (met : ChangeInOrder w t) :
    s.Follows (applyChangeWrite w t) := by
  have set {id : String} {change : EmailChangeSession → EmailChangeSession}
      (keeps : ∀ session, (change session).id = session.id)
      (changes : ∀ session ∈ t.sessions, session.id = id → session.ComesFrom (change session)) :
      s.Follows (t.setSession id change) :=
    Descends.modify EmailChangeSession.ComesFrom.trans EmailChangeSession.ComesFrom.self follows id
      keeps changes
  have all {u : ChangeStore} {change : EmailChangeSession → EmailChangeSession}
      (sessions : u.sessions = t.sessions.map change)
      (keeps : ∀ session, (change session).id = session.id)
      (changes : ∀ session : EmailChangeSession, session.ComesFrom (change session)) :
      s.Follows u := by
    rw [ChangeStore.Follows, sessions]
    exact Descends.map EmailChangeSession.ComesFrom.trans follows keeps fun session _ =>
      changes session
  cases w with
  | cancelPending userId =>
    refine all rfl (fun session => by split <;> rfl) fun session => ?_
    split
    · exact ⟨rfl, nofun⟩
    · exact EmailChangeSession.ComesFrom.self session
  | create session =>
    simp only [applyChangeWrite]
    split
    · exact follows
    · next fresh =>
      refine Descends.append follows fun other known same => fresh ?_
      exact List.any_eq_true.mpr ⟨other, known, beq_iff_eq.mpr same⟩
  | expire id => exact set (fun _ => rfl) fun _ _ _ => ⟨rfl, nofun⟩
  | resend id codeHash time => exact set (fun _ => rfl) fun _ _ _ => ⟨rfl, fun pending => pending⟩
  | compare userId code now time =>
    simp only [applyChangeWrite]
    split
    · exact follows
    · split
      · exact follows
      · split
        · exact follows
        · exact follows
  | miss id attempts =>
    refine set (fun session => by split <;> rfl) fun session known mine => ?_
    split
    · exact ⟨rfl, nofun⟩
    · exact ⟨rfl, fun _ => met session known mine⟩
  | conflict id => exact set (fun _ => rfl) fun _ _ _ => ⟨rfl, nofun⟩
  | commit userId requestedEmail id codeHash =>
    simp only [applyChangeWrite]
    split
    · refine all rfl (fun session => (verifiedSession_keeps userId id session).1) fun session => ?_
      obtain ⟨_, user, closes⟩ := verifiedSession_keeps userId id session
      exact ⟨user.symm, fun pending => not_not.mp fun closed => closes closed pending⟩
    · exact follows
  | cancel id userId =>
    refine set (fun session => by split <;> rfl) fun session _ _ => ?_
    split
    · exact ⟨rfl, nofun⟩
    · exact EmailChangeSession.ComesFrom.self session

theorem noneLeft_of_noneAdded {e : Statement ChangeStore ChangeWrite}
    (ended : e.wrote = some (.cancelPending userId)) (follows : (e.left applyChangeWrite).Follows s)
    (none_added : NonePendingAdded userId e.met s) :
    ∀ other ∈ s.sessions, other.userId = userId → other.status ≠ .pending := by
  intro other known mine pending
  rw [ChangeStore.Follows, Statement.left, ended] at follows
  obtain ⟨old, there, same⟩ := none_added other known mine pending
  obtain ⟨row, row_there, _, user, stood⟩ := follows.origin other known
    ⟨_, List.mem_map_of_mem there, by split <;> exact same⟩
  obtain ⟨before, _, rfl⟩ := List.mem_map.mp row_there
  have pending_before := stood pending
  by_cases open_then : before.userId = userId ∧ before.status = .pending
  · rw [if_pos open_then] at pending_before
    cases pending_before
  · rw [if_neg open_then] at user pending_before
    exact open_then ⟨user.trans mine, pending_before⟩

theorem notCrossed_iff {past : List (Statement ChangeStore ChangeWrite)} {w : ChangeWrite}
    (checked : ChangeChecked past w) (met : ∀ e ∈ past, (e.left applyChangeWrite).Follows s)
    (u : Unit) :
    NotCrossed past w s u ↔ ChangeInOrder w s := by
  cases w with
  | create session =>
    obtain ⟨e, there, ended⟩ := checked
    constructor
    · exact fun apart => noneLeft_of_noneAdded ended (met e there) (apart e there ended)
    · exact fun alone _ _ _ other known mine pending => absurd pending (alone other known mine)
  | miss id attempts =>
    obtain ⟨e, there, was⟩ := checked
    exact ⟨fun stands => stands e there was, fun pending _ _ _ => pending⟩
  | commit userId requestedEmail id codeHash =>
    obtain ⟨e, there, was⟩ := checked
    exact forall_congr' fun _ => ⟨fun stands => stands e there was, fun same _ _ _ => same⟩
  | cancelPending userId => exact Iff.rfl
  | expire id => exact Iff.rfl
  | resend id codeHash time => exact Iff.rfl
  | compare userId id codeHash time => exact Iff.rfl
  | conflict id => exact Iff.rfl
  | cancel id userId => exact Iff.rfl

theorem change_guards (hashCode : String → String) :
    Guards applyChangeWrite (ChangeRequest.job hashCode) (fun _ _ u => u) (fun _ => True)
      ChangeChecked ChangeStore.Follows (fun _ (_ : Unit) => True) NotCrossed ChangeInOrder where
  backed := change_backed hashCode
  known := fun _ => trivial
  refl := fun s => Descends.refl EmailChangeSession.ComesFrom.self s.sessions
  keeps_rel := fun _ met follows => changes_follow follows met
  keeps := fun _ _ _ => trivial
  exact_write := fun checked met _ => notCrossed_iff checked (fun e there => (met e there).2) _

end Overlap

section Runs
variable (hashCode : String → String)

abbrev changeStep := Interleaving.step applyChangeWrite (ChangeRequest.job hashCode)

theorem change_once (users : List Account) {actions : List (Action ChangeRequest)}
    (each : EachStep (changeStep hashCode) (Meets ChangeInOrder) (.start ⟨users, [], [], []⟩)
      actions) :
    Always (changeStep hashCode) (fun s => ChangesOrderly s.shared) (.start ⟨users, [], [], []⟩)
      actions :=
  always_of_meets change_once_step (s := .start ⟨users, [], [], []⟩)
    ⟨List.Pairwise.nil, ⟨List.nodup_nil, fun _ taken => by cases taken⟩,
      fun _ taken => by cases taken⟩ each

theorem once_of_orderly (now : ChangesOrderly s) : ChangeOnceAndNewest s := by
  refine ⟨?_, now.unreplaced⟩
  have ids : ((s.uses.map (fun use => (use.sessionId, use.codeHash))).map Prod.fst).Nodup := by
    rw [List.map_map]
    exact now.closed.1
  exact List.Pairwise.of_map Prod.fst (fun _ _ differ same => differ (congrArg Prod.fst same)) ids

/-- The codes of the three flows are for one use: in all states of a run every code has taken
effect once at most and none after it was replaced, and for each user one code at most would be
accepted. -/
def OneTimeCodes (users : List Account) (activation : List (Action ActivationRequest))
    (reset : List (Action ResetRequest)) (change : List (Action ChangeRequest)) : Prop :=
  Always activationStep (fun s => OnceAndNewest s.shared ∧ SoleCode verifyEmail .activated s.shared)
      (.start ⟨users, [], [], []⟩) activation ∧
    Always resetStep (fun s => OnceAndNewest s.shared ∧ ∀ passwordHash,
        SoleCode (fun email code now => changePassword email code passwordHash now) .changed s.shared)
      (.start ⟨users, [], [], []⟩) reset ∧
    Always (changeStep hashCode) (fun s => ChangeOnceAndNewest s.shared ∧
        SoleChangeCode hashCode s.shared)
      (.start ⟨users, [], [], []⟩) change

theorem codes_are_one_time (users : List Account) (activation : List (Action ActivationRequest))
    (reset : List (Action ResetRequest)) (change : List (Action ChangeRequest))
    (activation_apart : EachStep (watch applyCodeWrite ActivationRequest.job noteSpent)
      (Finds NotForestalled) (.start ⟨users, [], [], []⟩ []) activation)
    (reset_apart : EachStep (watch applyCodeWrite ResetRequest.job noteSpent)
      (Finds NotForestalled) (.start ⟨users, [], [], []⟩ []) reset)
    (change_apart : EachStep (watch applyChangeWrite (ChangeRequest.job hashCode) (fun _ _ u => u))
      (Finds NotCrossed) (.start ⟨users, [], [], []⟩ ()) change) :
    OneTimeCodes hashCode users activation reset change := by
  have start := codesNoted_start users
  have activation_in_order := ((code_guards activation_backed).eachStep_iff start _).mp
    activation_apart
  have reset_in_order := ((code_guards reset_backed).eachStep_iff start _).mp reset_apart
  have change_in_order := ((change_guards hashCode).eachStep_iff trivial _).mp change_apart
  refine ⟨?_, ?_, ?_⟩
  · exact (codes_once users activation_in_order).mono
      fun s now => ⟨now, sole_activation_code s.shared⟩
  · exact (codes_once users reset_in_order).mono
      fun s now => ⟨now, fun passwordHash => sole_reset_code passwordHash s.shared⟩
  · exact (change_once hashCode users change_in_order).mono
      fun s now => ⟨once_of_orderly now, sole_change_code now.newest⟩

def mailUser (isActive : Bool) : Account :=
  ⟨5, some "a@b.ru", some "h", isActive, none, none, none, .localLogin, .active⟩

/-- One request after the other, and each code used once. -/
theorem orderly_codes_are_one_time :
    OneTimeCodes id [mailUser false]
      [.begin 1 (.resend "a@b.ru" ⟨0, "123456", 0⟩ 0), .step 1, .step 1, .step 1,
        .begin 2 (.verify "a@b.ru" "123456" 1), .step 2, .step 2, .step 2, .step 2]
      [.begin 1 (.request "a@b.ru" ⟨0, "123456", 0⟩ 0), .step 1, .step 1, .step 1,
        .begin 2 (.change "a@b.ru" "123456" "g" 1), .step 2, .step 2, .step 2, .step 2]
      [.begin 1 (.start 5 "c@d.ru" "e" "123456" 0), .step 1, .step 1, .step 1, .step 1,
        .begin 2 (.verify 5 "e" "123456" 1), .step 2, .step 2, .step 2] :=
  codes_are_one_time id [mailUser false] _ _ _ (by decide +kernel) (by decide +kernel)
    (by decide +kernel)

def twoNewPasswords : List (Action ResetRequest) :=
  [.begin 1 (.request "a@b.ru" ⟨0, "123456", 0⟩ 0), .step 1, .step 1, .step 1,
    .begin 2 (.change "a@b.ru" "123456" "g" 1), .begin 3 (.change "a@b.ru" "123456" "k" 1),
    .step 2, .step 2, .step 3, .step 3, .step 2, .step 3]

theorem code_sets_two_passwords : ¬ ∀ (hashCode : String → String) (users : List Account)
    (activation : List (Action ActivationRequest)) (reset : List (Action ResetRequest))
    (change : List (Action ChangeRequest)),
    OneTimeCodes hashCode users activation reset change := by
  intro always
  have last := (always id [mailUser true] [] twoNewPasswords []).2.1.last.1
  exact absurd last (by decide +kernel)

end Runs

end LeaderProduct
