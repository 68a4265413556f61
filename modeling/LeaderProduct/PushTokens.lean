import Mathlib.Logic.Function.Basic
import LeaderProduct.BatchReplies
import LeaderProduct.InvalidatedCache
import LeaderProduct.JsString
import LeaderProduct.Transition

/-! The tokens of the devices that get push messages. -/
namespace LeaderProduct
open BatchReplies Transition

section Model

structure DeviceToken where
  userId : Nat
  token : String

inductive PushTicket where
  | ok
  | error (details : Option String)
  deriving DecidableEq, Repr

def PushTicket.deviceNotRegistered (ticket : PushTicket) : Bool :=
  ticket = .error (some "DeviceNotRegistered")

structure Expo where
  isExpoPushToken : String → Bool
  chunkPushNotifications : List String → List (List String)
  nonempty : isExpoPushToken "" = false
  joined : ∀ messages, (chunkPushNotifications messages).flatten = messages

/-- What came of a chunk: the package throws unless it has got a ticket for each message. -/
def chunkAnswer (chunk : List String) (answer : Option (List PushTicket)) :
    Batch String PushTicket :=
  if sized : ∀ tickets, answer = some tickets → tickets.length = chunk.length then
    ⟨chunk, answer, sized⟩
  else ⟨chunk, none, nofun⟩

/-- The chunks that are left without an answer have failed. -/
def sendChunks : List (List String) → List (Option (List PushTicket)) →
    List (Batch String PushTicket)
  | [], _ => []
  | chunk :: chunks, [] => chunkAnswer chunk none :: sendChunks chunks []
  | chunk :: chunks, answer :: answers => chunkAnswer chunk answer :: sendChunks chunks answers

/-- The ticket of an index is read against the message of that index. -/
def invalidTokens (messages : List String) (tickets : List PushTicket) : List String :=
  tickets.zipIdx.filterMap fun (ticket, idx) =>
    if ticket.deviceNotRegistered then messages[idx]?.filter (· ≠ "") else none

/-- The table, the pushes under way with their messages, and the tokens that were to be deleted
although no ticket of theirs said so. -/
structure PushDesk where
  rows : List DeviceToken
  pushes : Nat → Option (List String)
  wronged : List String

inductive PushEvent where
  | register (userId : Nat) (token : String)
  | unregister (userId : Nat) (token : String)
  | send (id userId : Nat)
  | answered (id : Nat) (answers : List (Option (List PushTicket)))

namespace PushDesk
variable (expo : Expo) (s : PushDesk)

def register (userId : Nat) (token : String) : PushDesk :=
  let token := JsString.trim token
  if token = "" then s
  else if s.rows.any (·.token == token) then
    { s with
      rows := s.rows.map fun row =>
        if row.token = token then { row with userId := userId } else row }
  else { s with rows := s.rows ++ [⟨userId, token⟩] }

def unregister (userId : Nat) (token : String) : PushDesk :=
  let token := JsString.trim token
  if token = "" then s
  else { s with rows := s.rows.filter fun row => !(row.token == token && row.userId == userId) }

def send (id userId : Nat) : PushDesk :=
  match s.pushes id with
  | some _ => s
  | none =>
    let expoTokens := ((s.rows.filter (·.userId == userId)).map (·.token)).filter expo.isExpoPushToken
    if expoTokens = [] then s
    else { s with pushes := Function.update s.pushes id (some expoTokens) }

/-- The rest of it, when every chunk has been answered or has failed. -/
def answered (id : Nat) (answers : List (Option (List PushTicket))) : PushDesk :=
  match s.pushes id with
  | none => s
  | some messages =>
    let sent := sendChunks (expo.chunkPushNotifications messages) answers
    let invalid := invalidTokens messages (replies sent)
    { rows := s.rows.filter fun row => !invalid.contains row.token
      pushes := Function.update s.pushes id none
      wronged := s.wronged ++ invalid.filter fun token =>
        !(guilty PushTicket.deviceNotRegistered sent).contains token }

def step (s : PushDesk) : PushEvent → PushDesk
  | .register userId token => s.register userId token
  | .unregister userId token => s.unregister userId token
  | .send id userId => s.send expo id userId
  | .answered id answers => s.answered expo id answers

end PushDesk
end Model

section Pushing
variable {expo : Expo} {s : PushDesk}

theorem items_sendChunks (chunks : List (List String)) (answers : List (Option (List PushTicket))) :
    items (sendChunks chunks answers) = chunks.flatten := by
  have own (chunk : List String) (answer : Option (List PushTicket)) :
      (chunkAnswer chunk answer).items = chunk := by
    unfold chunkAnswer
    split <;> rfl
  induction chunks generalizing answers with
  | nil => rfl
  | cons chunk chunks ih =>
    cases answers with
    | nil =>
      have later := ih []
      rw [items] at later
      rw [sendChunks, items, List.flatMap_cons, own, later, List.flatten_cons]
    | cons answer answers =>
      have later := ih answers
      rw [items] at later
      rw [sendChunks, items, List.flatMap_cons, own, later, List.flatten_cons]

theorem invalidTokens_eq {messages : List String} (filled : ∀ token ∈ messages, token ≠ "")
    (tickets : List PushTicket) :
    invalidTokens messages tickets = blamed PushTicket.deviceNotRegistered messages tickets := by
  have general (n : Nat) : (tickets.zipIdx n).filterMap (fun (ticket, idx) =>
      if ticket.deviceNotRegistered then messages[idx]?.filter (· ≠ "") else none) =
        blamed PushTicket.deviceNotRegistered (messages.drop n) tickets := by
    induction tickets generalizing n with
    | nil => simp [blamed]
    | cons ticket rest ih =>
      rw [List.zipIdx_cons, List.filterMap_cons, ih]
      rcases Nat.lt_or_ge n messages.length with inside | beyond
      · rw [List.drop_eq_getElem_cons inside, blamed_cons]
        have token := filled _ (List.getElem_mem inside)
        cases reported : ticket.deviceNotRegistered with
        | false => simp [reported]
        | true => simp [reported, List.getElem?_eq_getElem inside, Option.filter, token]
      · have none_left (m : Nat) (more : n ≤ m) : messages.drop m = [] :=
          List.drop_of_length_le (Nat.le_trans beyond more)
        rw [none_left n n.le_refl, none_left (n + 1) n.le_succ]
        simp [blamed, List.getElem?_eq_none beyond]
  exact general 0

namespace PushDesk

structure Distinct (s : PushDesk) : Prop where
  rows : (s.rows.map (·.token)).Nodup
  pushes : ∀ id messages, s.pushes id = some messages → messages.Nodup
  filled : ∀ id messages, s.pushes id = some messages → ∀ token ∈ messages, token ≠ ""

def NoneWronged (s : PushDesk) : Prop := s.wronged = []

/-- In the answers to a push, no ticket of a device that is not registered comes after a chunk that
has failed. -/
def Orderly (expo : Expo) (s : PushDesk) : PushEvent → Prop
  | .answered id answers => ∀ messages, s.pushes id = some messages →
      Aligned PushTicket.deviceNotRegistered
        (sendChunks (expo.chunkPushNotifications messages) answers)
  | _ => True

theorem Distinct.filter (distinct : Distinct s) (p : DeviceToken → Bool) :
    ((s.rows.filter p).map (·.token)).Nodup :=
  distinct.rows.sublist (List.filter_sublist.map _)

theorem distinct_register (distinct : Distinct s) (userId : Nat) (token : String) :
    Distinct (s.register userId token) := by
  unfold register
  dsimp only
  split
  · exact distinct
  · split
    · refine ⟨?_, distinct.pushes, distinct.filled⟩
      have same : (fun row : DeviceToken => row.token) ∘ (fun row : DeviceToken =>
          if row.token = JsString.trim token then { row with userId := userId } else row) =
          fun row => row.token := by
        funext row
        rw [Function.comp_apply]
        split <;> rfl
      rw [List.map_map, same]
      exact distinct.rows
    · next absent =>
      refine ⟨?_, distinct.pushes, distinct.filled⟩
      rw [List.map_append, List.map_singleton, ← List.concat_eq_append]
      refine distinct.rows.concat ?_
      simpa using absent

theorem distinct_send (distinct : Distinct s) (id userId : Nat) :
    Distinct (s.send expo id userId) := by
  unfold send
  split
  · exact distinct
  · dsimp only
    split
    · exact distinct
    · refine ⟨distinct.rows, ?_, ?_⟩
      · refine InvalidatedCache.each_update distinct.pushes ?_
        exact (distinct.filter _).filter _
      · refine InvalidatedCache.each_update distinct.filled ?_
        rintro token here rfl
        have sendable := (List.mem_filter.mp here).2
        rw [expo.nonempty] at sendable
        cases sendable

theorem distinct_answered (distinct : Distinct s) (id : Nat)
    (answers : List (Option (List PushTicket))) : Distinct (s.answered expo id answers) := by
  unfold answered
  split
  · exact distinct
  · have before {i : Nat} {messages : List String}
        (later : Function.update s.pushes id none i = some messages) :
        s.pushes i = some messages := (InvalidatedCache.of_update_none later).2
    exact ⟨distinct.filter _, fun i messages later => distinct.pushes i messages (before later),
      fun i messages later => distinct.filled i messages (before later)⟩

theorem distinct_step (distinct : Distinct s) (event : PushEvent) :
    Distinct (s.step expo event) := by
  cases event with
  | register userId token => exact distinct_register distinct userId token
  | unregister userId token =>
    simp only [step, unregister]
    split
    · exact distinct
    · exact ⟨distinct.filter _, distinct.pushes, distinct.filled⟩
  | send id userId => exact distinct_send distinct id userId
  | answered id answers => exact distinct_answered distinct id answers

@[simp] theorem wronged_register (userId : Nat) (token : String) :
    (s.register userId token).wronged = s.wronged := by
  unfold register
  dsimp only
  split
  · rfl
  · split <;> rfl

@[simp] theorem wronged_unregister (userId : Nat) (token : String) :
    (s.unregister userId token).wronged = s.wronged := by
  unfold unregister
  dsimp only
  split <;> rfl

@[simp] theorem wronged_send (id userId : Nat) :
    (s.send expo id userId).wronged = s.wronged := by
  unfold send
  split
  · rfl
  · dsimp only
    split <;> rfl

theorem noneWronged_answered_iff (distinct : Distinct s) (start : NoneWronged s) (id : Nat)
    (answers : List (Option (List PushTicket))) :
    NoneWronged (s.answered expo id answers) ↔ Orderly expo s (.answered id answers) := by
  unfold NoneWronged at start ⊢
  cases known : s.pushes id with
  | none => simp [answered, Orderly, known, start]
  | some messages =>
    have all : items (sendChunks (expo.chunkPushNotifications messages) answers) = messages := by
      rw [items_sendChunks, expo.joined]
    have unique := distinct.pushes id messages known
    rw [← all] at unique
    have exactly := @blamed_subset_iff _ _ PushTicket.deviceNotRegistered _ unique
    rw [all, ← invalidTokens_eq (distinct.filled id messages known)] at exactly
    have wanted : Orderly expo s (.answered id answers) ↔
        Aligned PushTicket.deviceNotRegistered
          (sendChunks (expo.chunkPushNotifications messages) answers) := by
      simp only [Orderly, known, Option.some.injEq, forall_eq']
    rw [wanted, ← exactly]
    simp [answered, known, start]

theorem noneWronged_step_iff (distinct : Distinct s) (start : NoneWronged s) (event : PushEvent) :
    NoneWronged (s.step expo event) ↔ Orderly expo s event := by
  cases event with
  | register userId token =>
    exact iff_of_true ((wronged_register userId token).trans start) trivial
  | unregister userId token =>
    exact iff_of_true ((wronged_unregister userId token).trans start) trivial
  | send id userId => exact iff_of_true ((wronged_send id userId).trans start) trivial
  | answered id answers => exact noneWronged_answered_iff distinct start id answers

def started : PushDesk := ⟨[], fun _ => none, []⟩

theorem distinct_started : Distinct started where
  rows := List.nodup_nil
  pushes := nofun
  filled := nofun

/-- However devices come and go and pushes overlap: no token is to be deleted but for a ticket of
its own as long as no push is told of an unregistered device after a chunk that has failed, and no
longer. -/
theorem tokens_deleted_rightly_iff (expo : Expo) (events : List PushEvent) :
    Always (step expo) NoneWronged started events ↔
      EachStep (step expo) (Orderly expo) started events :=
  always_iff_eachStep_of_inv (J := Distinct) (fun _ event distinct => distinct_step distinct event)
    (fun _ event distinct start => noneWronged_step_iff distinct start event)
    distinct_started rfl events

end PushDesk
end Pushing

end LeaderProduct
