import Mathlib.Data.List.Basic
import Mathlib.Logic.Function.Basic
import LeaderProduct.Transition

/-! Who is shown as online. A user is, as long as one of the sockets is in focus; the sockets are
counted, a timer refreshes the mark in Redis, and the subscribers are told of every change. -/
namespace LeaderProduct
open Transition

section Model

inductive PresenceCall where
  | online | refresh | offline
  deriving DecidableEq, Repr

/-- A call for a user, with whether Redis was open when it was made; it sends its commands then
only. -/
structure PresenceMark where
  userId : Nat
  call : PresenceCall
  redisOpen : Bool
  deriving DecidableEq, Repr

structure SocketRow where
  id : Nat
  userId : Option Nat
  presenceFocused : Bool
  deriving DecidableEq, Repr

/-- The maps of the process, which give 0 for what they do not have. `calls` are all calls of the
presence service so far, `pending` those that have not come to their end, and `announced` what the
subscribers of a user have been told, all of them oldest first. -/
structure SocketPresence where
  sockets : List SocketRow
  userSocketCounts : Nat → Nat
  userFocusedSocketCounts : Nat → Nat
  userPresenceRefreshTimers : Nat → Bool
  redisOpen : Bool
  calls : List PresenceMark
  pending : List PresenceMark
  announced : List (Nat × Bool)

def SocketPresence.started (redisOpen : Bool) : SocketPresence :=
  ⟨[], fun _ => 0, fun _ => 0, fun _ => false, redisOpen, [], [], []⟩

def incrementMapValue (map : Nat → Nat) (userId : Nat) : Nat → Nat :=
  Function.update map userId (map userId + 1)

def decrementMapValue (map : Nat → Nat) (userId : Nat) : Nat → Nat :=
  Function.update map userId (map userId - 1)

/-- What the first command of a call, sent with the call itself, makes of the key of a user. The key
also expires after a while, which the timer is there for: that is left out. -/
def onlineKeyAfter (userId : Nat) (key : Bool) (mark : PresenceMark) : Bool :=
  if mark.userId = userId ∧ mark.redisOpen = true then
    match mark.call with
    | .online | .refresh => true
    | .offline => false
  else key

/-- The key of a user once Redis has carried out the commands, which it does in their order. -/
def onlineKey (calls : List PresenceMark) (userId : Nat) : Bool :=
  calls.foldl (onlineKeyAfter userId) false

def PresenceCall.announcement : PresenceCall → Option Bool
  | .online => some true
  | .offline => some false
  | .refresh => none

namespace SocketPresence
variable (s : SocketPresence)

def callPresence (userId : Nat) (call : PresenceCall) : SocketPresence :=
  let mark := ⟨userId, call, s.redisOpen⟩
  { s with calls := s.calls ++ [mark], pending := s.pending ++ [mark] }

def setTimer (userId : Nat) (running : Bool) : SocketPresence :=
  { s with
    userPresenceRefreshTimers := Function.update s.userPresenceRefreshTimers userId running }

def syncFocusedPresence (userId prevFocusedCount nextFocusedCount : Nat) : SocketPresence :=
  if prevFocusedCount = 0 ∧ nextFocusedCount = 1 then
    (s.callPresence userId .online).setTimer userId true
  else if 0 < prevFocusedCount ∧ nextFocusedCount = 0 then
    (s.setTimer userId false).callPresence userId .offline
  else s

def countFocused (change : (Nat → Nat) → Nat → Nat → Nat) (userId : Nat) : SocketPresence :=
  let counts := change s.userFocusedSocketCounts userId
  ({ s with userFocusedSocketCounts := counts } : SocketPresence).syncFocusedPresence userId
    (s.userFocusedSocketCounts userId) (counts userId)

def socket (id : Nat) : Option SocketRow := s.sockets.find? (fun row => row.id = id)

def connection (id : Nat) (userId : Option Nat) : SocketPresence :=
  match s.socket id with
  | some _ => s
  | none =>
    let joined := { s with sockets := ⟨id, userId, true⟩ :: s.sockets }
    match userId with
    | none => joined
    | some userId =>
      ({ joined with userSocketCounts := incrementMapValue s.userSocketCounts userId } :
        SocketPresence).countFocused incrementMapValue userId

def applyPresenceFocus (row : SocketRow) (userId : Nat) (focused : Bool) : SocketPresence :=
  if row.presenceFocused = focused then s
  else
    ({ s with sockets := { row with presenceFocused := focused } :: s.sockets.erase row } :
      SocketPresence).countFocused (if focused then incrementMapValue else decrementMapValue) userId

def presenceFocus (id : Nat) (focused : Bool) : SocketPresence :=
  match s.socket id with
  | none => s
  | some row =>
    match row.userId with
    | none => s
    | some userId => s.applyPresenceFocus row userId focused

def disconnect (id : Nat) : SocketPresence :=
  match s.socket id with
  | none => s
  | some row =>
    let left := { s with sockets := s.sockets.erase row }
    match row.userId with
    | none => left
    | some userId =>
      let counted : SocketPresence :=
        { left with userSocketCounts := decrementMapValue s.userSocketCounts userId }
      if row.presenceFocused then counted.countFocused decrementMapValue userId else counted

def refreshTick (userId : Nat) : SocketPresence :=
  if s.userPresenceRefreshTimers userId then s.callPresence userId .refresh else s

def settle (mark : PresenceMark) : SocketPresence :=
  if mark ∈ s.pending then
    { s with
      pending := s.pending.erase mark
      announced := s.announced ++
        (mark.call.announcement.map fun isOnline => (mark.userId, isOnline)).toList }
  else s

end SocketPresence

inductive SocketEvent where
  | connection (id : Nat) (userId : Option Nat)
  | presenceFocus (id : Nat) (focused : Bool)
  | disconnect (id : Nat)
  | refreshTick (userId : Nat)
  | settle (mark : PresenceMark)
  | redis (isOpen : Bool)

def SocketPresence.step (s : SocketPresence) : SocketEvent → SocketPresence
  | .connection id userId => s.connection id userId
  | .presenceFocus id focused => s.presenceFocus id focused
  | .disconnect id => s.disconnect id
  | .refreshTick userId => s.refreshTick userId
  | .settle mark => s.settle mark
  | .redis isOpen => { s with redisOpen := isOpen }

end Model

namespace SocketPresence
variable {s : SocketPresence} {userId : Nat}

def ofUser (userId : Nat) (row : SocketRow) : Bool := row.userId = some userId

def inFocus (userId : Nat) (row : SocketRow) : Bool :=
  row.userId = some userId && row.presenceFocused

def announces (userId : Nat) (isOnline : Bool) (mark : PresenceMark) : Bool :=
  mark.userId = userId && mark.call.announcement = some isOnline

/-- What the calls for a user announce, in the order in which they were made. -/
def changes (calls : List PresenceMark) (userId : Nat) : List Bool :=
  calls.filterMap fun mark => if mark.userId = userId then mark.call.announcement else none

/-- The last call for the user could reach Redis. -/
def lastReachedRedis (calls : List PresenceMark) (userId : Nat) : Bool :=
  (calls.filter fun mark => mark.userId = userId).getLast?.all (·.redisOpen)

def alternating (n : Nat) : List Bool := (List.range n).map fun i => i % 2 = 0

structure ShownAs (s : SocketPresence) (userId : Nat) (isOnline : Bool) : Prop where
  timer : s.userPresenceRefreshTimers userId = isOnline
  key : lastReachedRedis s.calls userId = true → onlineKey s.calls userId = isOnline
  turns : ∃ n, changes s.calls userId = alternating n ∧ (n % 2 = 1 ↔ isOnline = true)
  told : ∀ change, s.announced.count (userId, change) + s.pending.countP (announces userId change) =
    (changes s.calls userId).count change

def present (focusedCount : Nat) : Bool := decide (0 < focusedCount)

structure Consistent (s : SocketPresence) : Prop where
  sockets : ∀ userId, s.userSocketCounts userId = s.sockets.countP (ofUser userId)
  focused : ∀ userId, s.userFocusedSocketCounts userId = s.sockets.countP (inFocus userId)
  shown : ∀ userId, s.ShownAs userId (present (s.userFocusedSocketCounts userId))

@[simp] theorem onlineKey_concat (calls : List PresenceMark) (mark : PresenceMark) (userId : Nat) :
    onlineKey (calls ++ [mark]) userId = onlineKeyAfter userId (onlineKey calls userId) mark := by
  simp [onlineKey]

@[simp] theorem lastReachedRedis_concat (calls : List PresenceMark) (mark : PresenceMark)
    (userId : Nat) : lastReachedRedis (calls ++ [mark]) userId =
      if mark.userId = userId then mark.redisOpen else lastReachedRedis calls userId := by
  by_cases own : mark.userId = userId <;> simp [lastReachedRedis, List.filter_append, own]

@[simp] theorem changes_concat (calls : List PresenceMark) (mark : PresenceMark) (userId : Nat) :
    changes (calls ++ [mark]) userId = changes calls userId ++
      if mark.userId = userId then mark.call.announcement.toList else [] := by
  by_cases own : mark.userId = userId
  · cases announced : mark.call.announcement <;> simp [changes, own, announced]
  · simp [changes, own]

theorem alternating_succ (n : Nat) :
    alternating (n + 1) = alternating n ++ [decide (n % 2 = 0)] := by
  simp [alternating, List.range_succ]

variable {isOnline : Bool} {other : Nat} {row : SocketRow}

theorem ShownAs.counted (shown : s.ShownAs userId isOnline) (sockets : List SocketRow)
    (counts focused : Nat → Nat) :
    ShownAs { s with
      sockets := sockets, userSocketCounts := counts, userFocusedSocketCounts := focused }
      userId isOnline :=
  ⟨shown.timer, shown.key, shown.turns, shown.told⟩

theorem shownAs_callPresence_other (shown : s.ShownAs userId isOnline) (ne : other ≠ userId)
    (call : PresenceCall) :
    (s.callPresence other call).ShownAs userId isOnline := by
  refine ⟨shown.timer, ?_, ?_, fun change => ?_⟩
  · simpa [callPresence, onlineKeyAfter, ne] using shown.key
  · simpa [callPresence, ne] using shown.turns
  · simpa [callPresence, announces, ne] using shown.told change

theorem shownAs_setTimer_other (shown : s.ShownAs userId isOnline) (ne : other ≠ userId)
    (running : Bool) :
    (s.setTimer other running).ShownAs userId isOnline :=
  ⟨(Function.update_of_ne ne.symm _ _).trans shown.timer, shown.key, shown.turns, shown.told⟩

theorem shownAs_turn {wasOnline : Bool} (shown : s.ShownAs userId wasOnline) {call : PresenceCall}
    (announced : call.announcement = some (!wasOnline)) :
    ((s.callPresence userId call).setTimer userId (!wasOnline)).ShownAs userId (!wasOnline) := by
  obtain ⟨n, turns, parity⟩ := shown.turns
  refine ⟨by simp [setTimer], fun reached => ?_, ⟨n + 1, ?_, ?_⟩, fun change => ?_⟩
  · simp only [setTimer, callPresence, lastReachedRedis_concat, if_true] at reached
    cases call <;> cases wasOnline <;>
      simp_all [setTimer, callPresence, onlineKeyAfter, PresenceCall.announcement]
  · have next : (!wasOnline) = decide (n % 2 = 0) := by
      cases wasOnline <;> simp at parity ⊢ <;> omega
    simp [setTimer, callPresence, alternating_succ, turns, announced, next]
  · cases wasOnline <;> simp at parity ⊢ <;> omega
  · have told := shown.told change
    simp only [setTimer, callPresence, changes_concat, if_true, announced, Option.toList_some,
      List.count_append, List.countP_append, List.countP_singleton, announces, decide_true,
      Bool.true_and, List.count_singleton]
    simp only [Option.some.injEq, beq_iff_eq] at told ⊢
    by_cases same : (!wasOnline) = change <;> simp [same] <;> omega

theorem shownAs_sync_other (shown : s.ShownAs userId isOnline) (ne : other ≠ userId)
    (prev next : Nat) :
    (s.syncFocusedPresence other prev next).ShownAs userId isOnline := by
  unfold syncFocusedPresence
  split
  · exact shownAs_setTimer_other (shownAs_callPresence_other shown ne _) ne _
  · split
    · exact shownAs_callPresence_other (shownAs_setTimer_other shown ne _) ne _
    · exact shown

theorem shownAs_sync {prev next : Nat} (shown : s.ShownAs userId (present prev))
    (one : next = prev + 1 ∨ prev = next + 1) :
    (s.syncFocusedPresence userId prev next).ShownAs userId (present next) := by
  unfold syncFocusedPresence
  split
  · next first =>
    obtain ⟨rfl, rfl⟩ := first
    exact shownAs_turn shown rfl
  · next not_first =>
    split
    · next last =>
      obtain ⟨before, rfl⟩ := last
      have was : present prev = true := decide_eq_true before
      rw [was] at shown
      exact shownAs_turn shown rfl
    · next not_last =>
      have same : present next = present prev := by
        rw [present, present, decide_eq_decide]
        omega
      rw [same]
      exact shown

theorem socket_mem {id : Nat} (found : s.socket id = some row) :
    row ∈ s.sockets :=
  List.mem_of_find?_eq_some found

theorem countP_erase_add (member : row ∈ s.sockets) (p : SocketRow → Bool) :
    s.sockets.countP p = (s.sockets.erase row).countP p + if p row then 1 else 0 := by
  rw [(List.perm_cons_erase member).countP_eq p, List.countP_cons]

theorem consistent_countFocused {change : (Nat → Nat) → Nat → Nat → Nat}
    (sockets : ∀ other, s.userSocketCounts other = s.sockets.countP (ofUser other))
    (focused : ∀ other,
      change s.userFocusedSocketCounts userId other = s.sockets.countP (inFocus other))
    (shown : ∀ other, s.ShownAs other (present (s.userFocusedSocketCounts other)))
    (others : ∀ other ≠ userId,
      change s.userFocusedSocketCounts userId other = s.userFocusedSocketCounts other)
    (one : change s.userFocusedSocketCounts userId userId = s.userFocusedSocketCounts userId + 1 ∨
      s.userFocusedSocketCounts userId = change s.userFocusedSocketCounts userId userId + 1) :
    Consistent (s.countFocused change userId) := by
  have tables (t : SocketPresence) (prev next : Nat) :
      (t.syncFocusedPresence userId prev next).sockets = t.sockets ∧
      (t.syncFocusedPresence userId prev next).userSocketCounts = t.userSocketCounts ∧
      (t.syncFocusedPresence userId prev next).userFocusedSocketCounts =
        t.userFocusedSocketCounts := by
    unfold syncFocusedPresence
    split
    · exact ⟨rfl, rfl, rfl⟩
    · split
      · exact ⟨rfl, rfl, rfl⟩
      · exact ⟨rfl, rfl, rfl⟩
  obtain ⟨same_sockets, same_counts, same_focused⟩ := tables
    { s with userFocusedSocketCounts := change s.userFocusedSocketCounts userId }
    (s.userFocusedSocketCounts userId) (change s.userFocusedSocketCounts userId userId)
  constructor
  · intro other
    rw [countFocused, same_counts, same_sockets]
    exact sockets other
  · intro other
    rw [countFocused, same_focused, same_sockets]
    exact focused other
  · intro other
    rw [countFocused, same_focused]
    by_cases same : other = userId
    · subst same
      exact shownAs_sync ((shown other).counted _ _ _) one
    · dsimp only
      rw [others other same]
      exact shownAs_sync_other ((shown other).counted _ _ _) (Ne.symm same) _ _

theorem incrementMapValue_self (map : Nat → Nat) :
    incrementMapValue map userId userId = map userId + 1 :=
  Function.update_self _ _ _

theorem decrementMapValue_self (map : Nat → Nat) :
    decrementMapValue map userId userId = map userId - 1 :=
  Function.update_self _ _ _

theorem incrementMapValue_of_ne (ne : other ≠ userId) (map : Nat → Nat) :
    incrementMapValue map userId other = map other :=
  Function.update_of_ne ne _ _

theorem decrementMapValue_of_ne (ne : other ≠ userId) (map : Nat → Nat) :
    decrementMapValue map userId other = map other :=
  Function.update_of_ne ne _ _

theorem consistent_connection (consistent : Consistent s) (id : Nat) (user : Option Nat) :
    Consistent (s.connection id user) := by
  unfold connection
  cases s.socket id with
  | some row => exact consistent
  | none =>
    cases user with
    | none =>
      refine ⟨fun other => ?_, fun other => ?_, fun other => ?_⟩
      · simpa [ofUser] using consistent.sockets other
      · simpa [inFocus] using consistent.focused other
      · exact (consistent.shown other).counted _ _ _
    | some user =>
      have joined (counts : Nat → Nat) (p : Nat → SocketRow → Bool)
          (counted : ∀ other, counts other = s.sockets.countP (p other))
          (here : ∀ other, p other ⟨id, some user, true⟩ = decide (other = user)) (other : Nat) :
          incrementMapValue counts user other =
            (⟨id, some user, true⟩ :: s.sockets).countP (p other) := by
        rw [List.countP_cons, here, ← counted]
        by_cases same : other = user
        · rw [same, incrementMapValue_self]
          simp
        · rw [incrementMapValue_of_ne same]
          simp [same]
      apply consistent_countFocused
      · exact joined _ ofUser consistent.sockets fun other => by simp [ofUser, eq_comm]
      · exact joined _ inFocus consistent.focused fun other => by simp [inFocus, eq_comm]
      · exact fun other => (consistent.shown other).counted _ _ _
      · exact fun other ne => incrementMapValue_of_ne ne _
      · exact .inl (incrementMapValue_self _)

theorem consistent_applyPresenceFocus (consistent : Consistent s) (member : row ∈ s.sockets)
    (its_user : row.userId = some userId) (focused : Bool) :
    Consistent (s.applyPresenceFocus row userId focused) := by
  unfold applyPresenceFocus
  split
  · exact consistent
  · next changed =>
    have was : row.presenceFocused = !focused := by
      cases was : row.presenceFocused <;> cases focused <;> simp_all
    have counted := consistent.focused userId
    rw [countP_erase_add member] at counted
    apply consistent_countFocused
    · intro other
      rw [consistent.sockets, countP_erase_add member, List.countP_cons]
      rfl
    · intro other
      rw [List.countP_cons]
      by_cases same : other = userId
      · subst same
        cases focused <;>
          simp_all [inFocus, incrementMapValue_self, decrementMapValue_self]
      · have apart : userId ≠ other := Ne.symm same
        have elsewhere := consistent.focused other
        rw [countP_erase_add member] at elsewhere
        cases focused <;>
          simp_all [inFocus, incrementMapValue_of_ne, decrementMapValue_of_ne]
    · exact fun other => (consistent.shown other).counted _ _ _
    · intro other ne
      cases focused
      · exact decrementMapValue_of_ne ne _
      · exact incrementMapValue_of_ne ne _
    · cases focused with
      | true => exact .inl (incrementMapValue_self _)
      | false =>
        right
        simp [inFocus, its_user, was] at counted
        simp [decrementMapValue_self, counted]

theorem consistent_disconnect (consistent : Consistent s) (id : Nat) :
    Consistent (s.disconnect id) := by
  unfold disconnect
  cases found : s.socket id with
  | none => exact consistent
  | some row =>
    have member := socket_mem found
    have left (counts : Nat → Nat) (p : Nat → SocketRow → Bool)
        (counted : ∀ other, counts other = s.sockets.countP (p other)) (user : Nat)
        (here : ∀ other, p other row = decide (other = user)) (other : Nat) :
        decrementMapValue counts user other = (s.sockets.erase row).countP (p other) := by
      have all := counted other
      rw [countP_erase_add member, here] at all
      by_cases same : other = user
      · subst same
        simp [decrementMapValue_self, all]
      · simpa [decrementMapValue_of_ne same, same] using all
    have unfocused (p : Nat → SocketRow → Bool) (other : Nat) (apart : p other row = false) :
        s.sockets.countP (p other) = (s.sockets.erase row).countP (p other) := by
      rw [countP_erase_add member, apart]
      rfl
    dsimp only
    cases its_user : row.userId with
    | none =>
      refine ⟨fun other => ?_, fun other => ?_, fun other => ?_⟩
      · exact (consistent.sockets other).trans (unfocused ofUser other (by simp [ofUser, its_user]))
      · exact (consistent.focused other).trans
          (unfocused inFocus other (by simp [inFocus, its_user]))
      · exact (consistent.shown other).counted _ _ _
    | some user =>
      have sockets := left _ ofUser consistent.sockets user
        fun other => by simp [ofUser, its_user, eq_comm]
      dsimp only
      split
      · next was =>
        apply consistent_countFocused
        · exact sockets
        · exact left _ inFocus consistent.focused user
            fun other => by simp [inFocus, its_user, was, eq_comm]
        · exact fun other => (consistent.shown other).counted _ _ _
        · exact fun other ne => decrementMapValue_of_ne ne _
        · right
          have counted := consistent.focused user
          rw [countP_erase_add member] at counted
          simp [inFocus, its_user, was] at counted
          simp [decrementMapValue_self, counted]
      · next not_focused =>
        refine ⟨sockets, fun other => ?_, fun other => ?_⟩
        · exact (consistent.focused other).trans
            (unfocused inFocus other (by simp [inFocus, not_focused]))
        · exact (consistent.shown other).counted _ _ _

theorem consistent_refreshTick (consistent : Consistent s) (user : Nat) :
    Consistent (s.refreshTick user) := by
  unfold refreshTick
  split
  · next running =>
    refine ⟨consistent.sockets, consistent.focused, fun other => ?_⟩
    by_cases same : user = other
    · subst same
      have shown := consistent.shown user
      refine ⟨shown.timer, fun reached => ?_, ?_, fun change => ?_⟩
      · simp only [callPresence, lastReachedRedis_concat, if_true] at reached
        rw [callPresence, onlineKey_concat, ← shown.timer, running]
        simp [onlineKeyAfter, reached]
      · simpa [callPresence, PresenceCall.announcement] using shown.turns
      · simpa [callPresence, announces, PresenceCall.announcement] using shown.told change
    · exact shownAs_callPresence_other (consistent.shown other) same _
  · exact consistent

theorem told_settle {waiting : List PresenceMark} {mark : PresenceMark} (waits : mark ∈ waiting)
    (told : List (Nat × Bool)) (userId : Nat) (change : Bool) :
    (told ++ (mark.call.announcement.map fun isOnline => (mark.userId, isOnline)).toList).count
        (userId, change) + (waiting.erase mark).countP (announces userId change) =
      told.count (userId, change) + waiting.countP (announces userId change) := by
  rw [List.count_append, (List.perm_cons_erase waits).countP_eq, List.countP_cons]
  cases announced : mark.call.announcement with
  | none => simp [announces, announced]
  | some isOnline =>
    by_cases own : mark.userId = userId ∧ isOnline = change
    · simp [announces, announced, own.1, own.2]
      omega
    · have apart : (mark.userId, isOnline) ≠ (userId, change) := fun same =>
        own ⟨congrArg Prod.fst same, congrArg Prod.snd same⟩
      have silent : announces userId change mark = false := by simpa [announces, announced] using own
      simp [apart, silent]

theorem consistent_settle (consistent : Consistent s) (mark : PresenceMark) :
    Consistent (s.settle mark) := by
  unfold settle
  split
  · next waits =>
    refine ⟨consistent.sockets, consistent.focused, fun other => ?_⟩
    have shown := consistent.shown other
    refine ⟨shown.timer, shown.key, shown.turns, fun change => ?_⟩
    exact (told_settle waits s.announced other change).trans (shown.told change)
  · exact consistent

theorem consistent_presenceFocus (consistent : Consistent s) (id : Nat) (focused : Bool) :
    Consistent (s.presenceFocus id focused) := by
  unfold presenceFocus
  cases found : s.socket id with
  | none => exact consistent
  | some row =>
    dsimp only
    cases its_user : row.userId with
    | none => exact consistent
    | some user =>
      exact consistent_applyPresenceFocus consistent (socket_mem found) its_user focused

theorem consistent_step (consistent : Consistent s) (event : SocketEvent) :
    Consistent (s.step event) := by
  cases event with
  | connection id user => exact consistent_connection consistent id user
  | presenceFocus id focused => exact consistent_presenceFocus consistent id focused
  | disconnect id => exact consistent_disconnect consistent id
  | refreshTick user => exact consistent_refreshTick consistent user
  | settle mark => exact consistent_settle consistent mark
  | redis isOpen =>
    refine ⟨consistent.sockets, consistent.focused, fun other => ?_⟩
    have shown := consistent.shown other
    exact ⟨shown.timer, shown.key, shown.turns, shown.told⟩

theorem shownAs_started (redisOpen : Bool) (userId : Nat) :
    (started redisOpen).ShownAs userId false :=
  ⟨rfl, fun _ => rfl, ⟨0, rfl, by simp⟩, fun _ => rfl⟩

theorem consistent_run (redisOpen : Bool) (events : List SocketEvent) :
    Consistent (run step (started redisOpen) events) :=
  run_invariant (I := Consistent) (fun _ event _ consistent => consistent_step consistent event)
    ⟨fun _ => rfl, fun _ => rfl, shownAs_started redisOpen⟩

theorem present_iff (consistent : Consistent s) (userId : Nat) :
    present (s.userFocusedSocketCounts userId) = true ↔
      ∃ row ∈ s.sockets, row.userId = some userId ∧ row.presenceFocused = true := by
  rw [present, decide_eq_true_eq, consistent.focused, List.countP_pos_iff]
  simp [inFocus]

/-- However the sockets of all users come, go and change their focus, Redis opens and closes, and
the calls of the presence service end: a user's timer runs exactly while one of the user's sockets
is in focus, and so is the key in Redis set, once the commands are carried out, if the last call for
the user found Redis open. The calls announce by turns, online first and the present state last, and
each announcement is made once, when its call ends. -/
theorem presence_follows_focus (redisOpen : Bool) (events : List SocketEvent) (userId : Nat) :
    let s := run step (started redisOpen) events
    let focused := ∃ row ∈ s.sockets, row.userId = some userId ∧ row.presenceFocused = true
    (s.userPresenceRefreshTimers userId = true ↔ focused) ∧
      (lastReachedRedis s.calls userId = true → (onlineKey s.calls userId = true ↔ focused)) ∧
      (∃ n, changes s.calls userId = alternating n ∧ (n % 2 = 1 ↔ focused)) ∧
      (∀ change, s.announced.count (userId, change) +
        s.pending.countP (announces userId change) = (changes s.calls userId).count change) ∧
      s.userSocketCounts userId = s.sockets.countP (fun row => row.userId = some userId) := by
  intro s focused
  have consistent : Consistent s := consistent_run redisOpen events
  have exactly := present_iff consistent userId
  have shown := consistent.shown userId
  obtain ⟨n, turns, parity⟩ := shown.turns
  refine ⟨?_, fun reached => ?_, ⟨n, turns, parity.trans exactly⟩, shown.told,
    consistent.sockets userId⟩
  · rw [shown.timer]
    exact exactly
  · rw [shown.key reached]
    exact exactly

end SocketPresence

end LeaderProduct
