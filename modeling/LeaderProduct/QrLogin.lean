import LeaderProduct.Accounts
import LeaderProduct.CheckedWrites

/-! Login by a QR code that is confirmed in a messenger. -/
namespace LeaderProduct
open Transition Interleaving RowTable

section Rows

inductive QrStatus where
  | pending | awaitingContact | verified | consumed | failed | expired | cancelled
  deriving DecidableEq, Repr

def QrStatus.active : QrStatus → Bool
  | .pending | .awaitingContact => true
  | _ => false

def QrStatus.ended : QrStatus → Bool
  | .consumed | .failed | .expired | .cancelled => true
  | _ => false

structure QrSession where
  id : String
  provider : MessengerProvider
  startTokenHash : String
  clientTokenHash : String
  status : QrStatus
  messengerUserId : Option Int
  resolvedUserId : Option Nat
  failureReason : Option String
  expiresAt : Int
  updatedAt : Int

inductive QrUpdate where
  | expire
  | cancel
  | bind (messengerUserId : Int)
  | verify (resolvedUserId : Nat)
  | fail (failureReason : String)

def QrUpdate.status : QrUpdate → QrStatus
  | .expire => .expired
  | .cancel => .cancelled
  | .bind _ => .awaitingContact
  | .verify _ => .verified
  | .fail _ => .failed

def QrSession.change (data : QrUpdate) (now : Int) (session : QrSession) : QrSession :=
  match data with
  | .expire =>
    { session with status := .expired, failureReason := some "SESSION_EXPIRED", updatedAt := now }
  | .cancel =>
    { session with
      status := .cancelled, failureReason := some "CANCELLED_BY_USER", updatedAt := now }
  | .bind messengerUserId =>
    { session with
      status := .awaitingContact, messengerUserId := some messengerUserId,
      failureReason := none, updatedAt := now }
  | .verify resolvedUserId =>
    { session with
      status := .verified, resolvedUserId := some resolvedUserId,
      failureReason := none, updatedAt := now }
  | .fail failureReason =>
    { session with status := .failed, failureReason := some failureReason, updatedAt := now }

structure QrIssue where
  sessionId : String
  userId : Nat

structure QrStore where
  sessions : List QrSession
  issued : List QrIssue

inductive QrWrite where
  | create (session : QrSession)
  | update (id : String) (data : QrUpdate) (now : Int)
  | consume (id : String) (now : Int)
  | issue (id : String) (userId : Nat)

def applyQrWrite : QrWrite → QrStore → QrStore
  | .create session, s =>
    if s.sessions.any (fun other => other.id == session.id ||
        other.startTokenHash == session.startTokenHash ||
        other.clientTokenHash == session.clientTokenHash) then s
    else { s with sessions := s.sessions ++ [session] }
  | .update id data now, s =>
    { s with sessions := modify (·.id) s.sessions id (QrSession.change data now) }
  | .consume id now, s =>
    { s with
      sessions := modify (·.id) s.sessions id (fun session =>
        if session.status = .verified then { session with status := .consumed, updatedAt := now }
        else session) }
  | .issue id userId, s => { s with issued := s.issued ++ [⟨id, userId⟩] }

end Rows

section Requests

inductive QrAnswer where
  | sessionTokenRequired
  | notFound
  | userUndetermined
  | authorized (userId : Nat)
  | state (status : QrStatus) (failureReason : Option String)
  | cancelled (cancelled : Bool)
  | bound (session : Option QrSession)
  | notHandled
  | handled (failureReason : Option String)

abbrev QrJob := Job QrStore QrWrite QrAnswer

variable (hashToken : String → String)

def QrStore.session (s : QrStore) (id : String) : Option QrSession :=
  lookup (·.id) s.sessions id

def updateSession (id : String) (data : QrUpdate) (now : Int) (next : QrSession → QrJob) : QrJob :=
  .write (.update id data now) (fun s =>
    match s.session id with
    | none => .done .notFound
    | some session => next (session.change data now))

def expireSessionIfNeeded (session : QrSession) (now : Int) (next : QrSession → QrJob) : QrJob :=
  if !session.status.active then next session
  else if now < session.expiresAt then next session
  else updateSession session.id .expire now next

def startMessengerQrAuthSession (provider : MessengerProvider) (id startToken sessionToken : String)
    (expiresAt now : Int) : QrJob :=
  .write
    (.create ⟨id, provider, hashToken startToken, hashToken sessionToken, .pending, none, none,
      none, expiresAt, now⟩)
    (fun _ => .done (.state .pending none))

def getMessengerQrAuthSessionByClientToken (provider : MessengerProvider) (sessionToken : String)
    (now : Int) (next : Option QrSession → QrJob) : QrJob :=
  if sessionToken = "" then .done .sessionTokenRequired
  else
    .read (fun s =>
      match s.sessions.find? (fun session =>
        session.provider == provider && session.clientTokenHash == hashToken sessionToken) with
      | none => next none
      | some session => expireSessionIfNeeded session now (fun session => next (some session)))

def cancelMessengerQrAuthSessionByClientToken (provider : MessengerProvider) (sessionToken : String)
    (now : Int) : QrJob :=
  getMessengerQrAuthSessionByClientToken hashToken provider sessionToken now (fun found =>
    match found with
    | none => .done .notFound
    | some session =>
      if !session.status.active then .done (.cancelled false)
      else updateSession session.id .cancel now (fun _ => .done (.cancelled true)))

def bindMessengerQrAuthSessionByStartToken (provider : MessengerProvider) (startToken : String)
    (messengerUserId : Int) (now : Int) : QrJob :=
  if startToken = "" then .done (.bound none)
  else if messengerUserId = 0 then .done (.bound none)
  else
    .read (fun s =>
      match s.sessions.find? (fun session =>
        session.provider == provider && session.startTokenHash == hashToken startToken) with
      | none => .done (.bound none)
      | some session =>
        expireSessionIfNeeded session now (fun actual =>
          if !actual.status.active then .done (.bound (some actual))
          else
            updateSession actual.id (.bind messengerUserId) now (fun session =>
              .done (.bound (some session)))))

def getLatestActiveMessengerQrAuthSessionByMessengerUser (provider : MessengerProvider)
    (messengerUserId : Int) (now : Int) (next : Option QrSession → QrJob) : QrJob :=
  if messengerUserId = 0 then next none
  else
    .read (fun s =>
      next (newestBy (·.updatedAt) (s.sessions.filter (fun session =>
        session.provider == provider && session.messengerUserId == some messengerUserId &&
          session.status.active && decide (now < session.expiresAt)))))

def markLatestMessengerQrAuthSession (provider : MessengerProvider) (messengerUserId : Int)
    (data : QrUpdate) (now : Int) (answer : QrAnswer) : QrJob :=
  getLatestActiveMessengerQrAuthSessionByMessengerUser provider messengerUserId now (fun found =>
    match found with
    | none => .done answer
    | some session => updateSession session.id data now (fun _ => .done answer))

inductive ContactOutcome where
  | invalidPhone
  | resolved (state : MessengerState) (userId : Option Nat)
  | threw

def ContactOutcome.update : ContactOutcome → QrUpdate
  | .invalidPhone => .fail "INVALID_PHONE"
  | .resolved .ready (some userId) =>
    if userId = 0 then .fail "USER_RESOLVE_FAILED" else .verify userId
  | .resolved .needLink _ => .fail "ACCOUNT_CONFLICT"
  | _ => .fail "USER_RESOLVE_FAILED"

/-- `resolveTelegramQrSessionByContact` and `resolveMaxQrSessionByContact`: the session is looked
up before the phone is resolved and once more, later, to be written. -/
def resolveQrSessionByContact (provider : MessengerProvider) (messengerUserId : Int)
    (outcome : ContactOutcome) (now later : Int) : QrJob :=
  getLatestActiveMessengerQrAuthSessionByMessengerUser provider messengerUserId now (fun found =>
    match found with
    | none => .done .notHandled
    | some _ =>
      markLatestMessengerQrAuthSession provider messengerUserId outcome.update later
        (.handled (match outcome.update with
          | .fail failureReason => some failureReason
          | _ => none)))

def handleQrAuthStatus (provider : MessengerProvider) (sessionToken : String) (now : Int) : QrJob :=
  getMessengerQrAuthSessionByClientToken hashToken provider sessionToken now (fun found =>
    match found with
    | none => .done .notFound
    | some session =>
      if session.status = .verified then
        match session.resolvedUserId.filter (· ≠ 0) with
        | none => .done .userUndetermined
        | some userId =>
          .write (.issue session.id userId) (fun _ =>
            .write (.consume session.id now) (fun _ => .done (.authorized userId)))
      else .done (.state session.status session.failureReason))

inductive QrRequest where
  | start (provider : MessengerProvider) (id startToken sessionToken : String) (expiresAt now : Int)
  | status (provider : MessengerProvider) (sessionToken : String) (now : Int)
  | cancel (provider : MessengerProvider) (sessionToken : String) (now : Int)
  | bind (provider : MessengerProvider) (startToken : String) (messengerUserId now : Int)
  | contact (provider : MessengerProvider) (messengerUserId : Int) (outcome : ContactOutcome)
      (now later : Int)

def QrRequest.job : QrRequest → QrJob
  | .start provider id startToken sessionToken expiresAt now =>
    startMessengerQrAuthSession hashToken provider id startToken sessionToken expiresAt now
  | .status provider sessionToken now => handleQrAuthStatus hashToken provider sessionToken now
  | .cancel provider sessionToken now =>
    cancelMessengerQrAuthSessionByClientToken hashToken provider sessionToken now
  | .bind provider startToken messengerUserId now =>
    bindMessengerQrAuthSessionByStartToken hashToken provider startToken messengerUserId now
  | .contact provider messengerUserId outcome now later =>
    resolveQrSessionByContact provider messengerUserId outcome now later

end Requests

variable {s : QrStore}

section Finality

def IssuedOnce (s : QrStore) : Prop := (s.issued.map (·.sessionId)).Nodup

instance (s : QrStore) : Decidable (IssuedOnce s) := inferInstanceAs (Decidable (List.Nodup _))

def QrStore.status (s : QrStore) (id : String) : Option QrStatus :=
  (s.session id).map (·.status)

def QrStore.issuedFor (s : QrStore) (id : String) : List QrIssue :=
  s.issued.filter (fun issue => issue.sessionId == id)

def StaysEnded (s t : QrStore) : Prop :=
  ∀ id status, s.status id = some status → status.ended = true →
    t.status id = some status ∧ t.issuedFor id = s.issuedFor id

def KeepsEnded : QrWrite → QrStore → Prop
  | .update id data _, s =>
    ∀ status, s.status id = some status → status.ended = true → data.status = status
  | .issue id _, s => ∀ status, s.status id = some status → status.ended = false
  | _, _ => True

def FirstIssue : QrWrite → QrStore → Prop
  | .issue id _, s => id ∉ s.issued.map (·.sessionId)
  | _, _ => True

theorem StaysEnded.refl (s : QrStore) : StaysEnded s s := fun _ _ here _ => ⟨here, rfl⟩

theorem StaysEnded.trans {t u : QrStore} (first : StaysEnded s t) (second : StaysEnded t u) :
    StaysEnded s u := by
  intro id status here ended
  obtain ⟨there, issued⟩ := first id status here ended
  obtain ⟨later, issued'⟩ := second id status there ended
  exact ⟨later, issued'.trans issued⟩

theorem change_id (data : QrUpdate) (now : Int) (session : QrSession) :
    (session.change data now).id = session.id := by
  cases data <;> rfl

theorem change_status (data : QrUpdate) (now : Int) (session : QrSession) :
    (session.change data now).status = data.status := by
  cases data <;> rfl

theorem status_update (s : QrStore) (id : String) (data : QrUpdate) (now : Int) (other : String) :
    (applyQrWrite (.update id data now) s).status other =
      if other = id then (s.status id).map (fun _ => data.status) else s.status other := by
  simp only [QrStore.status, QrStore.session, applyQrWrite]
  rw [lookup_modify (change_id data now)]
  split
  · simp only [Option.map_map, Function.comp_def, change_status]
  · rfl

theorem status_consume (s : QrStore) (id : String) (now : Int) (other : String) :
    (applyQrWrite (.consume id now) s).status other =
      if other = id then
        (s.status id).map (fun status => if status = .verified then .consumed else status)
      else s.status other := by
  simp only [QrStore.status, QrStore.session, applyQrWrite]
  rw [lookup_modify (fun session => by split <;> rfl)]
  split
  · simp only [Option.map_map, Function.comp_def]
    congr 1
    funext session
    split <;> rfl
  · rfl

theorem status_create {id : String} {status : QrStatus} (known : s.status id = some status)
    (session : QrSession) :
    (applyQrWrite (.create session) s).status id = some status := by
  simp only [applyQrWrite]
  split
  · exact known
  · simp only [QrStore.status, QrStore.session] at known ⊢
    obtain ⟨row, found, here⟩ := Option.map_eq_some_iff.mp known
    rw [lookup_append, found, Option.some_or, Option.map_some, here]

theorem issuedFor_issue (s : QrStore) (id : String) (userId : Nat) (other : String) :
    (applyQrWrite (.issue id userId) s).issuedFor other = s.issuedFor other ↔ other ≠ id := by
  simp only [QrStore.issuedFor, applyQrWrite, List.filter_append]
  by_cases same : other = id
  · simp [same]
  · simp [same, Ne.symm same]

theorem staysEnded_iff (w : QrWrite) (s : QrStore) :
    StaysEnded s (applyQrWrite w s) ↔ KeepsEnded w s := by
  cases w with
  | create session =>
    refine iff_of_true (fun id status here _ => ⟨status_create here session, ?_⟩) trivial
    simp only [applyQrWrite]
    split <;> rfl
  | consume id now =>
    refine iff_of_true (fun other status here ended => ⟨?_, rfl⟩) trivial
    rw [status_consume]
    split
    · next same =>
      rw [← same, here, Option.map_some, if_neg]
      rintro rfl
      cases ended
    · exact here
  | update id data now =>
    constructor
    · intro stays status here ended
      have kept := (stays id status here ended).1
      rw [status_update, if_pos rfl, here, Option.map_some, Option.some.injEq] at kept
      exact kept
    · intro keeps other status here ended
      refine ⟨?_, rfl⟩
      rw [status_update]
      split
      · next same =>
        rw [same] at here
        rw [here, Option.map_some, keeps status here ended]
      · exact here
  | issue id userId =>
    constructor
    · intro stays status here
      rw [← Bool.not_eq_true]
      intro ended
      exact (issuedFor_issue s id userId id).mp (stays id status here ended).2 rfl
    · intro keeps other status here ended
      refine ⟨here, (issuedFor_issue s id userId other).mpr ?_⟩
      rintro rfl
      rw [keeps status here] at ended
      cases ended

theorem issuedOnce_iff (now : IssuedOnce s) (w : QrWrite) :
    IssuedOnce (applyQrWrite w s) ↔ FirstIssue w s := by
  cases w with
  | create session =>
    refine iff_of_true ?_ trivial
    simp only [applyQrWrite]
    split
    · exact now
    · exact now
  | update id data time => exact iff_of_true now trivial
  | consume id time => exact iff_of_true now trivial
  | issue id userId =>
    simp only [IssuedOnce, applyQrWrite, FirstIssue, List.map_append, List.map_singleton]
    have fresh : ((s.issued.map (·.sessionId)) ++ [id]).Nodup ↔
        id ∉ s.issued.map (·.sessionId) ∧ (s.issued.map (·.sessionId)).Nodup := by
      rw [List.perm_append_comm.nodup_iff, List.singleton_append, List.nodup_cons]
    rw [fresh]
    exact and_iff_left now

end Finality

section Overlap

def EndedSince (id : String) (s t : QrStore) : Prop :=
  ∃ status, t.status id = some status ∧ status.ended = true ∧ s.status id ≠ some status

/-- The sessions that tokens have been issued for and that no poll has consumed since: a poll
stands, or has stopped, between its two writes. -/
def noteIssued : QrWrite → QrStore → List String → List String
  | .issue id _, _, unconsumed => id :: unconsumed
  | .consume id _, s, unconsumed =>
    if s.status id = some .verified then unconsumed.filter (· ≠ id) else unconsumed
  | _, _, unconsumed => unconsumed

/-- A session has not ended since the request that sets its status has read it, unless with just
that status. Tokens are issued for a session that has not ended since the poll has read it, while no
other poll is at its end. -/
def NotOvertaken (past : List (Statement QrStore QrWrite)) :
    QrWrite → QrStore → List String → Prop
  | .update id data _, s, _ =>
    ∀ e ∈ past, EndedSince id e.met s → s.status id = some data.status
  | .issue id _, s, unconsumed => (∀ e ∈ past, ¬EndedSince id e.met s) ∧ id ∉ unconsumed
  | _, _, _ => True

def UniqueSessions (s : QrStore) : Prop := (s.sessions.map (·.id)).Nodup

def HasRead (past : List (Statement QrStore QrWrite)) (session : QrSession) : Prop :=
  ∃ e ∈ past, e.met.status session.id = some session.status

def QrChecked (past : List (Statement QrStore QrWrite)) : QrWrite → Prop
  | .update id _ _ => ∃ e ∈ past, ∃ status, e.met.status id = some status ∧ status.ended = false
  | .issue id _ => ∃ e ∈ past, e.met.status id = some .verified
  | _ => True

theorem status_of_mem (unique : UniqueSessions s) {session : QrSession}
    (known : session ∈ s.sessions) : s.status session.id = some session.status := by
  rw [QrStore.status, QrStore.session, lookup_of_mem unique known]
  rfl

theorem hasRead_here (unique : UniqueSessions s) {session : QrSession}
    (known : session ∈ s.sessions) (past : List (Statement QrStore QrWrite)) :
    HasRead (⟨s, none⟩ :: past) session :=
  ⟨_, List.mem_cons_self, status_of_mem unique known⟩

theorem ended_of_active {status : QrStatus} (active : status.active = true) :
    status.ended = false := by
  cases status <;> first | rfl | cases active

variable {now : Int} {past : List (Statement QrStore QrWrite)} {provider : MessengerProvider}

theorem backed_update {id : String} {data : QrUpdate} {next : QrSession → QrJob}
    {session : QrSession} (read : HasRead past session) (mine : session.id = id)
    (active : session.status.active = true)
    (later : ∀ past row, (next (QrSession.change data now row)).Backed UniqueSessions QrChecked past) :
    (updateSession id data now next).Backed UniqueSessions QrChecked past := by
  obtain ⟨e, there, found⟩ := read
  refine ⟨⟨e, there, session.status, mine ▸ found, ended_of_active active⟩, fun s _ => ?_⟩
  dsimp only
  split
  · trivial
  · exact later _ _

/-- What follows an expiry has the row as it was read, or one that has ended. -/
theorem backed_expire {session : QrSession} {next : QrSession → QrJob} (read : HasRead past session)
    (later : ∀ past actual, (actual.status.ended = false → HasRead past actual) →
      (next actual).Backed UniqueSessions QrChecked past) :
    (expireSessionIfNeeded session now next).Backed UniqueSessions QrChecked past := by
  unfold expireSessionIfNeeded
  split
  · exact later past session fun _ => read
  · next active =>
    split
    · exact later past session fun _ => read
    · refine backed_update read rfl (by simpa using active) fun past row => ?_
      refine later past _ fun open_still => ?_
      rw [change_status] at open_still
      cases open_still

theorem backed_byClientToken {hashToken : String → String} {sessionToken : String}
    {next : Option QrSession → QrJob}
    (absent : ∀ past, (next none).Backed UniqueSessions QrChecked past)
    (later : ∀ past actual, (actual.status.ended = false → HasRead past actual) →
      (next (some actual)).Backed UniqueSessions QrChecked past) :
    (getMessengerQrAuthSessionByClientToken hashToken provider sessionToken now next).Backed
      UniqueSessions QrChecked [] := by
  unfold getMessengerQrAuthSessionByClientToken
  split
  · trivial
  · intro s unique
    dsimp only
    split
    · exact absent _
    · next session found =>
      exact backed_expire (hasRead_here unique (List.mem_of_find?_eq_some found) []) later

theorem backed_latestActive {messengerUserId : Int} {next : Option QrSession → QrJob}
    (absent : ∀ past, (next none).Backed UniqueSessions QrChecked past)
    (later : ∀ past session, session.status.active = true → HasRead past session →
      (next (some session)).Backed UniqueSessions QrChecked past) :
    (getLatestActiveMessengerQrAuthSessionByMessengerUser provider messengerUserId now next).Backed
      UniqueSessions QrChecked past := by
  unfold getLatestActiveMessengerQrAuthSessionByMessengerUser
  split
  · exact absent _
  · intro s unique
    dsimp only
    cases found : newestBy (fun session : QrSession => session.updatedAt) _ with
    | none => exact absent _
    | some session =>
      have known := List.mem_filter.mp (mem_of_newestBy found)
      simp only [Bool.and_eq_true] at known
      exact later _ session known.2.1.2 (hasRead_here unique known.1 past)

theorem backed_mark {messengerUserId : Int} {data : QrUpdate} {answer : QrAnswer}
    (past : List (Statement QrStore QrWrite)) :
    (markLatestMessengerQrAuthSession provider messengerUserId data now answer).Backed
      UniqueSessions QrChecked past :=
  backed_latestActive (fun _ => trivial) fun _ _ active read =>
    backed_update read rfl active fun _ _ => trivial

theorem qr_backed (hashToken : String → String) (q : QrRequest) :
    (q.job hashToken).Backed UniqueSessions QrChecked [] := by
  cases q with
  | start provider id startToken sessionToken expiresAt now => exact ⟨trivial, fun _ _ => trivial⟩
  | status provider sessionToken now =>
    unfold QrRequest.job handleQrAuthStatus
    refine backed_byClientToken (fun _ => trivial) fun past actual read => ?_
    dsimp only
    split
    · next verified =>
      split
      · trivial
      · obtain ⟨e, there, found⟩ := read (by rw [verified]; rfl)
        exact ⟨⟨e, there, found.trans (congrArg some verified)⟩, fun _ _ =>
          ⟨trivial, fun _ _ => trivial⟩⟩
    · trivial
  | cancel provider sessionToken now =>
    unfold QrRequest.job cancelMessengerQrAuthSessionByClientToken
    refine backed_byClientToken (fun _ => trivial) fun past actual read => ?_
    dsimp only
    split
    · trivial
    · next active =>
      have active : actual.status.active = true := by simpa using active
      exact backed_update (read (ended_of_active active)) rfl active fun _ _ => trivial
  | bind provider startToken messengerUserId now =>
    simp only [QrRequest.job, bindMessengerQrAuthSessionByStartToken]
    split
    · trivial
    · split
      · trivial
      · intro s unique
        dsimp only
        split
        · trivial
        · next session found =>
          have read := hasRead_here unique (List.mem_of_find?_eq_some found) []
          refine backed_expire read fun past actual read => ?_
          split
          · trivial
          · next active =>
            have active : actual.status.active = true := by simpa using active
            exact backed_update (read (ended_of_active active)) rfl active fun _ _ => trivial
  | contact provider messengerUserId outcome now later =>
    unfold QrRequest.job resolveQrSessionByContact
    refine backed_latestActive (fun _ => trivial) fun past session _ _ => ?_
    exact backed_mark past

structure IssuesNoted (s : QrStore) (unconsumed : List String) : Prop where
  unique : UniqueSessions s
  noted : ∀ id ∈ s.issued.map (·.sessionId), id ∈ unconsumed ∨
    ∃ status, s.status id = some status ∧ status.ended = true
  issued : ∀ id ∈ unconsumed, id ∈ s.issued.map (·.sessionId)

theorem uniqueSessions_apply (unique : UniqueSessions s) (w : QrWrite) :
    UniqueSessions (applyQrWrite w s) := by
  cases w with
  | create session =>
    simp only [applyQrWrite]
    split
    · exact unique
    · next fresh =>
      simp only [UniqueSessions, List.map_append, List.map_singleton]
      rw [List.perm_append_comm.nodup_iff, List.singleton_append, List.nodup_cons]
      refine ⟨fun known => fresh ?_, unique⟩
      obtain ⟨other, there, same⟩ := List.mem_map.mp known
      exact List.any_eq_true.mpr ⟨other, there, by simp [same]⟩
  | update id data now =>
    simp only [UniqueSessions, applyQrWrite]
    rw [keys_modify (change_id data now)]
    exact unique
  | consume id now =>
    simp only [UniqueSessions, applyQrWrite]
    rw [keys_modify (fun session => by split <;> rfl)]
    exact unique
  | issue id userId => exact unique

theorem issuesNoted_step {unconsumed : List String} {w : QrWrite} (noted : IssuesNoted s unconsumed)
    (met : FirstIssue w s ∧ KeepsEnded w s) :
    IssuesNoted (applyQrWrite w s) (noteIssued w s unconsumed) := by
  refine ⟨uniqueSessions_apply noted.unique w, fun id known => ?_, fun id inside => ?_⟩
  · cases w with
    | create session =>
      have issued : (applyQrWrite (.create session) s).issued = s.issued := by
        simp only [applyQrWrite]
        split <;> rfl
      rw [issued] at known
      refine (noted.noted id known).imp_right fun ⟨status, here, ended⟩ => ?_
      exact ⟨status, status_create here session, ended⟩
    | update other data now =>
      refine (noted.noted id known).imp_right fun ⟨status, here, ended⟩ => ?_
      refine ⟨status, ?_, ended⟩
      rw [status_update]
      split
      · next same =>
        subst same
        rw [here, Option.map_some, met.2 status here ended]
      · exact here
    | consume other now =>
      rw [status_consume]
      simp only [noteIssued]
      by_cases same : id = other
      · subst same
        rw [if_pos rfl]
        by_cases verified : s.status id = some .verified
        · right
          rw [verified]
          exact ⟨.consumed, rfl, rfl⟩
        · rw [if_neg verified]
          refine (noted.noted id known).imp_right fun ⟨status, here, ended⟩ => ?_
          refine ⟨status, ?_, ended⟩
          rw [here, Option.map_some, if_neg (fun same => verified (by rw [here, same]))]
      · rw [if_neg same]
        refine (noted.noted id known).imp_left fun inside => ?_
        split
        · exact List.mem_filter.mpr ⟨inside, decide_eq_true same⟩
        · exact inside
    | issue other userId =>
      simp only [applyQrWrite, List.map_append, List.mem_append, List.map_singleton,
        List.mem_singleton] at known
      rcases known with old | new
      · exact (noted.noted id old).imp_left (List.mem_cons_of_mem other)
      · exact .inl (List.mem_cons.mpr (.inl new))
  · cases w with
    | create session =>
      have issued : (applyQrWrite (.create session) s).issued = s.issued := by
        simp only [applyQrWrite]
        split <;> rfl
      rw [issued]
      exact noted.issued id inside
    | update other data now => exact noted.issued id inside
    | consume other now =>
      refine noted.issued id ?_
      simp only [noteIssued] at inside
      split at inside
      · exact List.mem_of_mem_filter inside
      · exact inside
    | issue other userId =>
      simp only [applyQrWrite, List.map_append, List.mem_append, List.map_singleton,
        List.mem_singleton]
      rcases List.mem_cons.mp inside with new | old
      · exact .inr new
      · exact .inl (noted.issued id old)

theorem notOvertaken_iff {unconsumed : List String} {w : QrWrite} (checked : QrChecked past w)
    (noted : IssuesNoted s unconsumed) :
    NotOvertaken past w s unconsumed ↔ FirstIssue w s ∧ KeepsEnded w s := by
  cases w with
  | create session => exact iff_of_true trivial ⟨trivial, trivial⟩
  | consume id now => exact iff_of_true trivial ⟨trivial, trivial⟩
  | update id data now =>
    constructor
    · intro apart
      refine ⟨trivial, fun status here ended => ?_⟩
      obtain ⟨e, there, before, found, open_then⟩ := checked
      have same := apart e there ⟨status, here, ended, fun unchanged => by
        rw [found, Option.some.injEq] at unchanged
        rw [unchanged, ended] at open_then
        cases open_then⟩
      rw [here, Option.some.injEq] at same
      exact same.symm
    · rintro ⟨-, keeps⟩ e _ ⟨status, here, ended, _⟩
      rw [here, keeps status here ended]
  | issue id userId =>
    constructor
    · rintro ⟨apart, idle⟩
      obtain ⟨e, there, found⟩ := checked
      have open_now : ∀ status, s.status id = some status → status.ended = false := by
        intro status here
        refine Bool.eq_false_iff.mpr fun ended => apart e there ⟨status, here, ended, fun same => ?_⟩
        rw [found, Option.some.injEq] at same
        rw [← same] at ended
        cases ended
      refine ⟨fun known => ?_, open_now⟩
      rcases noted.noted id known with busy | ⟨status, here, ended⟩
      · exact idle busy
      · rw [open_now status here] at ended
        cases ended
    · rintro ⟨first, keeps⟩
      refine ⟨fun e _ ⟨status, here, ended, _⟩ => ?_, fun busy => first (noted.issued id busy)⟩
      rw [keeps status here] at ended
      cases ended

theorem qr_guards (hashToken : String → String) :
    Guards applyQrWrite (QrRequest.job hashToken) noteIssued UniqueSessions QrChecked
      (fun _ _ => True) IssuesNoted NotOvertaken (fun w s => FirstIssue w s ∧ KeepsEnded w s) where
  backed := qr_backed hashToken
  known := fun noted => noted.unique
  refl := fun _ => trivial
  keeps_rel := fun _ _ _ => trivial
  keeps := fun _ noted met => issuesNoted_step noted met
  exact_write := fun checked _ noted => notOvertaken_iff checked noted

end Overlap

section Runs
variable (hashToken : String → String)

abbrev qrStep := Interleaving.step applyQrWrite (QrRequest.job hashToken)

/-- At every moment tokens have been issued at most once for each session, and from any moment on
the sessions that have ended stay as they are and get no tokens. -/
def LogsInOnce (actions : List (Action QrRequest)) : Prop :=
  Always (qrStep hashToken) (fun s => IssuedOnce s.shared) (.start ⟨[], []⟩) actions ∧
    (trace (qrStep hashToken) (.start ⟨[], []⟩) actions).Pairwise
      (fun s t => StaysEnded s.shared t.shared)

theorem logsInOnce_iff_meets (actions : List (Action QrRequest)) :
    LogsInOnce hashToken actions ↔
      EachStep (qrStep hashToken) (Meets fun w s => FirstIssue w s ∧ KeepsEnded w s)
        (.start ⟨[], []⟩) actions := by
  rw [LogsInOnce, eachStep_meets_and]
  refine and_congr ?_ ?_
  · exact always_iff_meets (I := IssuedOnce) (J := fun _ => True) (fun _ _ _ => trivial)
      (fun w s _ now => issuedOnce_iff now w) trivial (s := .start ⟨[], []⟩) List.nodup_nil actions
  · exact pairwise_iff_meets (R := StaysEnded) (J := fun _ => True) StaysEnded.refl
      (fun first second => first.trans second) (fun _ _ _ => trivial)
      (fun w s _ => staysEnded_iff w s) trivial actions

/-- It is so exactly when no request sets the status of a session that has ended since it has read
it, and no poll issues tokens for one that has ended since or beside another poll. -/
theorem logs_in_once_iff (actions : List (Action QrRequest)) :
    LogsInOnce hashToken actions ↔
      EachStep (watch applyQrWrite (QrRequest.job hashToken) noteIssued) (Finds NotOvertaken)
        (.start ⟨[], []⟩ []) actions := by
  have start : IssuesNoted ⟨[], []⟩ [] :=
    ⟨List.nodup_nil, (fun _ known => by cases known), fun _ inside => by cases inside⟩
  rw [(qr_guards hashToken).eachStep_iff start, logsInOnce_iff_meets]

def twoPolls : List (Action QrRequest) :=
  [.begin 1 (.start .telegram "q" "s" "c" 100 0), .step 1,
    .begin 2 (.bind .telegram "s" 7 1), .step 2, .step 2,
    .begin 3 (.contact .telegram 7 (.resolved .ready (some 5)) 2 2), .step 3, .step 3, .step 3,
    .begin 4 (.status .telegram "c" 3), .begin 5 (.status .telegram "c" 3), .step 4, .step 5,
    .step 4, .step 5]

theorem two_polls_log_in_twice : ¬ ∀ (hashToken : String → String)
    (actions : List (Action QrRequest)), LogsInOnce hashToken actions := by
  intro always
  have last := (always id twoPolls).1.last
  exact absurd last (by decide +kernel)

end Runs

end LeaderProduct
