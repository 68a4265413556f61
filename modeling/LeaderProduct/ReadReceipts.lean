import LeaderProduct.AppealMessages
import LeaderProduct.Order

/-! Which messages of an appeal a user has read. A request to read marks everything up to its
boundary, so that what is read is always a front part of the messages. -/
namespace LeaderProduct
open Transition
open RankedWindow (sortedBy)

section Requests

structure ReadReceipt where
  messageIds : List Nat
  table : MessageTable

def MessageTable.createReads (table : MessageTable) (userId : Nat) (readAt : Int)
    (found : List AppealMessage) (stored : ∀ message ∈ found, message ∈ table.messages) :
    MessageTable where
  messages := table.messages
  reads := table.reads ++ (found.filter (table.unreadBy userId)).map
    (fun message => ⟨message.id, userId, readAt⟩)
  ids_unique := table.ids_unique
  reads_stored := by
    intro read listed
    rcases List.mem_append.mp listed with old | new
    · exact table.reads_stored read old
    · obtain ⟨message, inside, rfl⟩ := List.mem_map.mp new
      exact List.mem_map_of_mem (stored message (List.mem_of_mem_filter inside))

def MessageTable.upToBoundary (table : MessageTable) (appealId userId : Nat)
    (boundary : AppealMessage) : List AppealMessage :=
  table.findMany appealId (fun message => message.senderId != userId &&
    table.unreadBy userId message &&
    (decide (message.createdAt < boundary.createdAt) ||
      (decide (message.createdAt = boundary.createdAt) && decide (message.id ≤ boundary.id))))

def MessageTable.readUpTo (table : MessageTable) (appealId userId : Nat) (now : Int)
    (boundary : AppealMessage) : ReadReceipt where
  messageIds := (table.upToBoundary appealId userId boundary).map AppealMessage.id
  table := table.createReads userId now (table.upToBoundary appealId userId boundary)
    (fun _ listed => (mem_findMany.mp listed).1)

def later (max cur : AppealMessage) : AppealMessage :=
  if cur.createdAt > max.createdAt then cur
  else if cur.createdAt = max.createdAt ∧ cur.id > max.id then cur
  else max

structure ReadBulkBody where
  messageIds : List Nat
  nonempty : messageIds ≠ []

def MessageTable.readable (table : MessageTable) (appealId userId : Nat) (messageIds : List Nat) :
    List AppealMessage :=
  table.findMany appealId
    (fun message => messageIds.contains message.id && message.senderId != userId)

/-- `POST /:id/messages/read-bulk`. -/
def AppealChat.readBulk (chat : AppealChat) (userId appealId : Nat) (body : ReadBulkBody) (now : Int) :
    Except AppealRefusal ReadReceipt := do
  let _ ← chat.desk.visibleAppeal appealId userId
  match chat.table.readable appealId userId body.messageIds with
  | [] => return ⟨[], chat.table⟩
  | first :: rest =>
    return chat.table.readUpTo appealId userId now ((first :: rest).foldl later first)

/-- `POST /:appealId/messages/:messageId/read`. -/
def AppealChat.readMessage (chat : AppealChat) (userId appealId messageId : Nat) (now : Int) :
    Except AppealRefusal ReadReceipt :=
  match (chat.table.findMany appealId (fun message => message.id == messageId)).head? with
  | none => .error (.notFound "Сообщение не найдено")
  | some message => do
    let _ ← chat.desk.visibleAppeal appealId userId
    if message.senderId = userId then return ⟨[], chat.table⟩
    else return chat.table.readUpTo appealId userId now message

inductive ReadRequest where
  | single (messageId : Nat)
  | bulk (body : ReadBulkBody)

def AppealChat.serveRead (chat : AppealChat) (userId appealId : Nat) (request : ReadRequest)
    (now : Int) : Except AppealRefusal ReadReceipt :=
  match request with
  | .single messageId => chat.readMessage userId appealId messageId now
  | .bulk body => chat.readBulk userId appealId body now

def AppealChat.afterRead (chat : AppealChat) (userId appealId : Nat) (request : ReadRequest)
    (now : Int) : AppealChat :=
  match chat.serveRead userId appealId request now with
  | .ok receipt => { chat with table := receipt.table }
  | .error _ => chat

end Requests

variable {message : AppealMessage}

section Boundary
variable {chat : AppealChat} {table : MessageTable} {userId appealId : Nat} {now : Int}

theorem later_place (a b : AppealMessage) : (later a b).place = max a.place b.place := by
  unfold later
  split
  · next after =>
    exact (max_eq_right (le_of_lt ((place_lt_iff a b).mpr (.inl after)))).symm
  · next not_after =>
    split
    · next same =>
      exact (max_eq_right (le_of_lt ((place_lt_iff a b).mpr (.inr ⟨same.1.symm, same.2⟩)))).symm
    · next not_same =>
      refine (max_eq_left ((place_le_iff b a).mpr ?_)).symm
      rcases lt_or_eq_of_le (not_lt.mp not_after) with before | same
      · exact .inl before
      · exact .inr ⟨same, not_lt.mp fun larger => not_same ⟨same, larger⟩⟩

theorem later_or (a b : AppealMessage) : later a b = a ∨ later a b = b := by
  unfold later
  split
  · exact .inr rfl
  · split
    · exact .inr rfl
    · exact .inl rfl

theorem foldl_later (first : AppealMessage) (rest : List AppealMessage) :
    (rest.foldl later first = first ∨ rest.foldl later first ∈ rest) ∧
      first.place ≤ (rest.foldl later first).place ∧
      ∀ message ∈ rest, message.place ≤ (rest.foldl later first).place := by
  induction rest generalizing first with
  | nil => simp
  | cons next rest ih =>
    obtain ⟨found, above_first, above⟩ := ih (later first next)
    rw [later_place] at above_first
    refine ⟨?_, le_trans (le_max_left _ _) above_first, fun message listed => ?_⟩
    · rcases found with same | inner
      · rcases later_or first next with is_first | is_next
        · exact .inl (same.trans is_first)
        · exact .inr (List.mem_cons.mpr (.inl (same.trans is_next)))
      · exact .inr (List.mem_cons_of_mem next inner)
    · rcases List.mem_cons.mp listed with same | inner
      · rw [same]; exact le_trans (le_max_right _ _) above_first
      · exact above message inner

def Latest (messages : List AppealMessage) (message : AppealMessage) : Prop :=
  message ∈ messages ∧ ∀ other ∈ messages, other.place ≤ message.place

theorem latest_foldl (first : AppealMessage) (rest : List AppealMessage) :
    Latest (first :: rest) ((first :: rest).foldl later first) := by
  have same_start : later first first = first := (later_or first first).elim id id
  rw [List.foldl_cons, same_start]
  obtain ⟨found, above_first, above⟩ := foldl_later first rest
  refine ⟨List.mem_cons.mpr found, fun other listed => ?_⟩
  rcases List.mem_cons.mp listed with same | inner
  · rw [same]; exact above_first
  · exact above other inner

theorem eq_of_id {a b : AppealMessage} (here : a ∈ table.messages) (there : b ∈ table.messages)
    (same : a.id = b.id) : a = b :=
  List.inj_on_of_nodup_map table.ids_unique here there same

theorem Latest.unique {messageIds : List Nat} {a b : AppealMessage}
    (latest : Latest (table.readable appealId userId messageIds) a)
    (latest' : Latest (table.readable appealId userId messageIds) b) : a = b := by
  have one_place : a.place = b.place :=
    le_antisymm (latest'.2 a latest.1) (latest.2 b latest'.1)
  have one_id : a.id = b.id := congrArg (fun place : JsDate ×ₗ Nat => (ofLex place).2) one_place
  exact eq_of_id (mem_findMany.mp latest.1).1 (mem_findMany.mp latest'.1).1 one_id

variable {body : ReadBulkBody}

theorem readBulk_latest
    (latest : Latest (chat.table.readable appealId userId body.messageIds) message) :
    chat.readBulk userId appealId body now = (chat.desk.visibleAppeal appealId userId).map
      (fun _ => chat.table.readUpTo appealId userId now message) := by
  unfold AppealChat.readBulk
  cases chat.desk.visibleAppeal appealId userId with
  | error refusal => rfl
  | ok appeal =>
    cases readable : chat.table.readable appealId userId body.messageIds with
    | nil => rw [readable] at latest; cases latest.1
    | cons first rest =>
      have found := latest_foldl first rest
      rw [← readable] at found
      rw [latest.unique found, readable]
      rfl

theorem readBulk_none (none_readable : chat.table.readable appealId userId body.messageIds = []) :
    chat.readBulk userId appealId body now = (chat.desk.visibleAppeal appealId userId).map
      (fun _ => ⟨[], chat.table⟩) := by
  unfold AppealChat.readBulk
  rw [none_readable]
  cases chat.desk.visibleAppeal appealId userId with
  | error refusal => rfl
  | ok appeal => rfl

theorem find_message (stored : message ∈ chat.table.messages) (own : message.appealId = appealId)
    (kept : message.deleted = false) :
    (chat.table.findMany appealId (fun m => m.id == message.id)).head? = some message := by
  have listed : message ∈ chat.table.findMany appealId (fun m => m.id == message.id) :=
    mem_findMany.mpr ⟨stored, own, kept, beq_self_eq_true _⟩
  cases found : chat.table.findMany appealId (fun m => m.id == message.id) with
  | nil => rw [found] at listed; cases listed
  | cons first rest =>
    have is_first : first ∈ chat.table.findMany appealId (fun m => m.id == message.id) := by
      rw [found]; exact List.mem_cons_self
    obtain ⟨stored', -, -, same⟩ := mem_findMany.mp is_first
    rw [eq_of_id stored' stored (beq_iff_eq.mp same)]
    rfl

theorem readMessage_readable (stored : message ∈ chat.table.messages)
    (own : message.appealId = appealId) (kept : message.deleted = false)
    (of_other : message.senderId ≠ userId) :
    chat.readMessage userId appealId message.id now = (chat.desk.visibleAppeal appealId userId).map
      (fun _ => chat.table.readUpTo appealId userId now message) := by
  unfold AppealChat.readMessage
  rw [find_message stored own kept]
  dsimp only
  cases chat.desk.visibleAppeal appealId userId with
  | error refusal => rfl
  | ok appeal =>
    rw [if_neg of_other]
    rfl

theorem readBulk_eq_readMessage
    (latest : Latest (chat.table.readable appealId userId body.messageIds) message) :
    chat.readBulk userId appealId body now = chat.readMessage userId appealId message.id now := by
  obtain ⟨stored, own, kept, meets⟩ := mem_findMany.mp latest.1
  have of_other : message.senderId ≠ userId := by
    rw [Bool.and_eq_true] at meets
    exact bne_iff_ne.mp meets.2
  rw [readBulk_latest latest, readMessage_readable stored own kept of_other]

end Boundary

section Effect
variable {chat : AppealChat} {table : MessageTable} {userId appealId : Nat} {now : Int}

theorem mem_upToBoundary {boundary : AppealMessage} :
    message ∈ table.upToBoundary appealId userId boundary ↔ message ∈ table.messages ∧
      message.appealId = appealId ∧ message.deleted = false ∧ message.senderId ≠ userId ∧
      table.unreadBy userId message = true ∧ message.place ≤ boundary.place := by
  rw [MessageTable.upToBoundary, mem_findMany, place_le_iff]
  simp only [Bool.and_eq_true, Bool.or_eq_true, bne_iff_ne]
  have earlier : decide (message.createdAt < boundary.createdAt) = true ↔
      message.createdAt < boundary.createdAt := decide_eq_true_iff
  have tie : decide (message.createdAt = boundary.createdAt) = true ↔
      message.createdAt = boundary.createdAt := decide_eq_true_iff
  have by_id : decide (message.id ≤ boundary.id) = true ↔ message.id ≤ boundary.id :=
    decide_eq_true_iff
  rw [earlier, tie, by_id, and_assoc]

theorem unreadBy_createReads {found : List AppealMessage}
    {stored : ∀ message ∈ found, message ∈ table.messages} (reader : Nat)
    (here : message ∈ table.messages) :
    (table.createReads userId now found stored).unreadBy reader message = false ↔
      table.unreadBy reader message = false ∨ reader = userId ∧ message ∈ found := by
  rw [unreadBy_eq_false]
  constructor
  · rintro ⟨read, listed, of_message, of_reader⟩
    rcases List.mem_append.mp listed with old | new
    · exact .inl (unreadBy_eq_false.mpr ⟨read, old, of_message, of_reader⟩)
    · obtain ⟨other, inside, rfl⟩ := List.mem_map.mp new
      have one : other = message :=
        eq_of_id (stored other (List.mem_of_mem_filter inside)) here of_message
      exact .inr ⟨of_reader.symm, one ▸ List.mem_of_mem_filter inside⟩
  · rintro (read_before | ⟨rfl, inside⟩)
    · obtain ⟨read, old, same⟩ := unreadBy_eq_false.mp read_before
      exact ⟨read, List.mem_append_left _ old, same⟩
    · by_cases unread : table.unreadBy reader message = true
      · refine ⟨⟨message.id, reader, now⟩, List.mem_append_right _ ?_, rfl, rfl⟩
        exact List.mem_map.mpr ⟨message, List.mem_filter.mpr ⟨inside, unread⟩, rfl⟩
      · obtain ⟨read, old, same⟩ := unreadBy_eq_false.mp (Bool.not_eq_true _ ▸ unread)
        exact ⟨read, List.mem_append_left _ old, same⟩

theorem unreadBy_readUpTo {boundary : AppealMessage} (reader : Nat)
    (stored : message ∈ table.messages) :
    (table.readUpTo appealId userId now boundary).table.unreadBy reader message = false ↔
      table.unreadBy reader message = false ∨
        reader = userId ∧ message ∈ table.upToBoundary appealId userId boundary :=
  @unreadBy_createReads message table userId now _ (fun _ listed => (mem_findMany.mp listed).1)
    reader stored

theorem upToBoundary_again (boundary : AppealMessage) :
    (table.readUpTo appealId userId now boundary).table.upToBoundary appealId userId boundary =
      [] := by
  refine List.eq_nil_iff_forall_not_mem.mpr fun message listed => ?_
  obtain ⟨stored, own, kept, of_other, unread, inside⟩ := mem_upToBoundary.mp listed
  have marks := @unreadBy_readUpTo message table userId appealId now boundary userId stored
  have still : table.unreadBy userId message = true := by
    by_contra read_before
    have read_after := marks.mpr (.inl (eq_false_of_ne_true read_before))
    rw [read_after] at unread
    cases unread
  have marked := marks.mpr
    (.inr ⟨rfl, mem_upToBoundary.mpr ⟨stored, own, kept, of_other, still, inside⟩⟩)
  rw [marked] at unread
  cases unread

def MessageTable.readTo (table : MessageTable) (appealId userId : Nat) (now : Int) :
    Option AppealMessage → ReadReceipt
  | none => ⟨[], table⟩
  | some boundary => table.readUpTo appealId userId now boundary

theorem readTo_again (boundary : Option AppealMessage) (now' : Int) :
    ((table.readTo appealId userId now boundary).table.readTo appealId userId now'
      boundary).table = (table.readTo appealId userId now boundary).table := by
  cases boundary with
  | none => rfl
  | some boundary =>
    have none_left := @upToBoundary_again table userId appealId now boundary
    ext1
    · rfl
    · simp only [MessageTable.readTo, MessageTable.readUpTo, MessageTable.createReads] at none_left ⊢
      rw [none_left]
      simp

def AppealChat.boundary (chat : AppealChat) (userId appealId : Nat) :
    ReadRequest → Except AppealRefusal (Option AppealMessage)
  | .single messageId =>
    match (chat.table.findMany appealId (fun message => message.id == messageId)).head? with
    | none => .error (.notFound "Сообщение не найдено")
    | some message => (chat.desk.visibleAppeal appealId userId).map
      (fun _ => if message.senderId = userId then none else some message)
  | .bulk body => (chat.desk.visibleAppeal appealId userId).map
    (fun _ => match chat.table.readable appealId userId body.messageIds with
      | [] => none
      | first :: rest => some ((first :: rest).foldl later first))

theorem serveRead_eq (chat : AppealChat) (request : ReadRequest) :
    chat.serveRead userId appealId request now = (chat.boundary userId appealId request).map
      (chat.table.readTo appealId userId now) := by
  cases request with
  | single messageId =>
    simp only [AppealChat.serveRead, AppealChat.readMessage, AppealChat.boundary]
    split
    · rfl
    · cases chat.desk.visibleAppeal appealId userId with
      | error refusal => rfl
      | ok appeal =>
        simp only [bind, Except.bind, Except.map]
        split <;> rfl
  | bulk body =>
    simp only [AppealChat.serveRead, AppealChat.readBulk, AppealChat.boundary]
    cases chat.desk.visibleAppeal appealId userId with
    | error refusal => rfl
    | ok appeal =>
      simp only [bind, Except.bind, Except.map]
      split <;> rfl

theorem afterRead_ok {request : ReadRequest} {boundary : Option AppealMessage}
    (found : chat.boundary userId appealId request = .ok boundary) :
    chat.afterRead userId appealId request now =
      { chat with table := (chat.table.readTo appealId userId now boundary).table } := by
  simp only [AppealChat.afterRead, serveRead_eq, found, Except.map]

theorem afterRead_error {request : ReadRequest} {refusal : AppealRefusal}
    (refused : chat.boundary userId appealId request = .error refusal) :
    chat.afterRead userId appealId request now = chat := by
  simp only [AppealChat.afterRead, serveRead_eq, refused, Except.map]

theorem afterRead_again (chat : AppealChat) (request : ReadRequest) (now' : Int) :
    (chat.afterRead userId appealId request now).afterRead userId appealId request now' =
      chat.afterRead userId appealId request now := by
  cases found : chat.boundary userId appealId request with
  | error refusal => rw [afterRead_error found, afterRead_error found]
  | ok boundary =>
    have same : (chat.afterRead userId appealId request now).boundary userId appealId request =
        .ok boundary := by
      rw [afterRead_ok found, ← found]
      cases boundary with
      | none => rfl
      | some boundary => rfl
    rw [afterRead_ok same, afterRead_ok found, readTo_again]

end Effect

section Chats

structure ChatState where
  chat : AppealChat
  clock : JsDate
  nextId : Nat
  posted : ∀ message ∈ chat.table.messages, message.createdAt ≤ clock ∧ message.id < nextId

inductive ChatAction where
  | wait (time : JsDate)
  | post (appealId senderId : Nat)
  | delete (messageId : Nat)
  | read (userId appealId : Nat) (request : ReadRequest) (now : Int)
  | change (desk : AppealDesk)

def ChatState.wait (s : ChatState) (time : JsDate) : ChatState where
  chat := s.chat
  clock := max s.clock time
  nextId := s.nextId
  posted := fun message listed =>
    ⟨le_trans (s.posted message listed).1 (le_max_left _ _), (s.posted message listed).2⟩

def ChatState.newMessage (s : ChatState) (appealId senderId : Nat) : AppealMessage :=
  ⟨s.nextId, appealId, senderId, false, s.clock⟩

def MessageTable.add (table : MessageTable) (message : AppealMessage)
    (fresh : message.id ∉ table.messages.map AppealMessage.id) : MessageTable where
  messages := table.messages ++ [message]
  reads := table.reads
  ids_unique := by
    rw [List.map_append, List.map_singleton]
    exact (List.nodup_append_comm.mpr (List.nodup_cons.mpr ⟨fresh, table.ids_unique⟩))
  reads_stored := fun read listed => by
    rw [List.map_append]
    exact List.mem_append_left _ (table.reads_stored read listed)

theorem ChatState.fresh (s : ChatState) : s.nextId ∉ s.chat.table.messages.map AppealMessage.id := by
  intro taken
  obtain ⟨message, listed, same⟩ := List.mem_map.mp taken
  exact absurd (s.posted message listed).2 (by omega)

def ChatState.post (s : ChatState) (appealId senderId : Nat) : ChatState where
  chat := { s.chat with table := s.chat.table.add (s.newMessage appealId senderId) s.fresh }
  clock := s.clock
  nextId := s.nextId + 1
  posted := by
    intro message listed
    rcases List.mem_append.mp listed with old | new
    · exact ⟨(s.posted message old).1, Nat.lt_succ_of_lt (s.posted message old).2⟩
    · rw [List.mem_singleton.mp new]
      exact ⟨le_refl _, Nat.lt_succ_self _⟩

def markDeleted (messageId : Nat) (message : AppealMessage) : AppealMessage :=
  if message.id = messageId then { message with deleted := true } else message

theorem markDeleted_id (messageId : Nat) (message : AppealMessage) :
    (markDeleted messageId message).id = message.id := by
  unfold markDeleted
  split <;> rfl

theorem markDeleted_ids (messageId : Nat) (messages : List AppealMessage) :
    (messages.map (markDeleted messageId)).map AppealMessage.id = messages.map AppealMessage.id := by
  rw [List.map_map]
  exact List.map_congr_left fun message _ => markDeleted_id messageId message

def MessageTable.delete (table : MessageTable) (messageId : Nat) : MessageTable where
  messages := table.messages.map (markDeleted messageId)
  reads := table.reads
  ids_unique := by rw [markDeleted_ids]; exact table.ids_unique
  reads_stored := by rw [markDeleted_ids]; exact table.reads_stored

def ChatState.delete (s : ChatState) (messageId : Nat) : ChatState where
  chat := { s.chat with table := s.chat.table.delete messageId }
  clock := s.clock
  nextId := s.nextId
  posted := by
    intro message listed
    obtain ⟨old, stored, rfl⟩ := List.mem_map.mp listed
    have bounds := s.posted old stored
    unfold markDeleted
    split
    · exact bounds
    · exact bounds

theorem afterRead_messages (chat : AppealChat) (userId appealId : Nat) (request : ReadRequest)
    (now : Int) :
    (chat.afterRead userId appealId request now).table.messages = chat.table.messages := by
  cases found : chat.boundary userId appealId request with
  | error refusal => rw [afterRead_error found]
  | ok boundary =>
    rw [afterRead_ok found]
    cases boundary with
    | none => rfl
    | some boundary => rfl

def ChatState.read (s : ChatState) (userId appealId : Nat) (request : ReadRequest) (now : Int) :
    ChatState where
  chat := s.chat.afterRead userId appealId request now
  clock := s.clock
  nextId := s.nextId
  posted := by rw [afterRead_messages]; exact s.posted

def ChatState.change (s : ChatState) (desk : AppealDesk) : ChatState where
  chat := { s.chat with desk }
  clock := s.clock
  nextId := s.nextId
  posted := s.posted

def chatStep (s : ChatState) : ChatAction → ChatState
  | .wait time => s.wait time
  | .post appealId senderId => s.post appealId senderId
  | .delete messageId => s.delete messageId
  | .read userId appealId request now => s.read userId appealId request now
  | .change desk => s.change desk

end Chats

section Prefix
variable {table : MessageTable} {s : ChatState}

def MessageTable.ofOthers (table : MessageTable) (appealId userId : Nat) : List AppealMessage :=
  (table.shown appealId).filter (fun message => message.senderId != userId)

/-- What a user has read of the messages of others is a front part of them. -/
def ReadsPrefix (s : ChatState) : Prop :=
  ∀ appealId userId,
    (s.chat.table.ofOthers appealId userId).filter
        (fun message => !s.chat.table.unreadBy userId message) <+:
      s.chat.table.ofOthers appealId userId

def ReadsDown (table : MessageTable) : Prop :=
  ∀ appealId userId, ∀ a ∈ table.ofOthers appealId userId, ∀ b ∈ table.ofOthers appealId userId,
    a.place ≤ b.place → table.unreadBy userId b = false → table.unreadBy userId a = false

theorem mem_ofOthers {appealId userId : Nat} :
    message ∈ table.ofOthers appealId userId ↔ message ∈ table.messages ∧
      message.appealId = appealId ∧ message.deleted = false ∧ message.senderId ≠ userId := by
  rw [MessageTable.ofOthers, List.mem_filter, MessageTable.shown, RankedWindow.mem_sortedBy,
    mem_findMany, bne_iff_ne]
  simp [and_assoc]

theorem readsPrefix_iff : ReadsPrefix s ↔ ReadsDown s.chat.table := by
  refine forall₂_congr fun appealId userId => ?_
  have strict : (s.chat.table.ofOthers appealId userId).Pairwise (fun a b => a.place < b.place) :=
    (shown_strict appealId).filter _
  rw [KeysetPaging.filter_prefix_iff strict]
  simp only [Bool.not_eq_true']

theorem ReadsDown.readTo (down : ReadsDown table) (appealId userId : Nat) (now : Int)
    (boundary : Option AppealMessage) :
    ReadsDown (table.readTo appealId userId now boundary).table := by
  cases boundary with
  | none => exact down
  | some boundary =>
    intro appeal reader a listed b listed' ordered read_b
    have here : a ∈ table.ofOthers appeal reader := listed
    have there : b ∈ table.ofOthers appeal reader := listed'
    obtain ⟨stored, own, kept, of_other⟩ := mem_ofOthers.mp here
    rw [MessageTable.readTo, unreadBy_readUpTo reader (mem_ofOthers.mp there).1] at read_b
    rw [MessageTable.readTo, unreadBy_readUpTo reader stored]
    rcases read_b with read_before | ⟨rfl, marked⟩
    · exact .inl (down appeal reader a here b there ordered read_before)
    · obtain ⟨-, same_appeal, -, -, -, inside⟩ := mem_upToBoundary.mp marked
      by_cases unread : table.unreadBy reader a = true
      · refine .inr ⟨rfl, mem_upToBoundary.mpr ⟨stored, ?_, kept, of_other, unread,
          le_trans ordered inside⟩⟩
        exact own.trans ((mem_ofOthers.mp there).2.1.symm.trans same_appeal)
      · exact .inl (eq_false_of_ne_true unread)

theorem ReadsDown.delete (down : ReadsDown table) (messageId : Nat) :
    ReadsDown (table.delete messageId) := by
  have old {appealId userId : Nat} {message : AppealMessage}
      (listed : message ∈ (table.delete messageId).ofOthers appealId userId) :
      message ∈ table.ofOthers appealId userId := by
    obtain ⟨stored, own, kept, of_other⟩ := mem_ofOthers.mp listed
    obtain ⟨before, there, rfl⟩ := List.mem_map.mp stored
    unfold markDeleted at own kept of_other ⊢
    split
    · next hit => rw [if_pos hit] at kept; cases kept
    · next missed =>
      rw [if_neg missed] at own kept of_other
      exact mem_ofOthers.mpr ⟨there, own, kept, of_other⟩
  exact fun appealId userId a listed b listed' => down appealId userId a (old listed) b (old listed')

theorem newMessage_unread (s : ChatState) (appealId senderId userId : Nat) :
    s.chat.table.unreadBy userId (s.newMessage appealId senderId) = true := by
  by_contra read
  obtain ⟨row, listed, of_message, -⟩ := unreadBy_eq_false.mp (eq_false_of_ne_true read)
  have taken := s.chat.table.reads_stored row listed
  rw [of_message] at taken
  exact s.fresh taken

theorem newMessage_last (s : ChatState) (appealId senderId : Nat)
    (stored : message ∈ s.chat.table.messages) :
    message.place < (s.newMessage appealId senderId).place := by
  obtain ⟨before, earlier⟩ := s.posted message stored
  rw [place_lt_iff]
  rcases lt_or_eq_of_le before with before | same
  · exact .inl before
  · exact .inr ⟨same, earlier⟩

theorem ReadsDown.post (down : ReadsDown s.chat.table) (appealId senderId : Nat) :
    ReadsDown (s.post appealId senderId).chat.table := by
  have cases_of {appeal userId : Nat} {message : AppealMessage}
      (listed : message ∈ (s.post appealId senderId).chat.table.ofOthers appeal userId) :
      message ∈ s.chat.table.ofOthers appeal userId ∨ message = s.newMessage appealId senderId := by
    obtain ⟨stored, rest⟩ := mem_ofOthers.mp listed
    rcases List.mem_append.mp stored with old | new
    · exact .inl (mem_ofOthers.mpr ⟨old, rest⟩)
    · exact .inr (List.mem_singleton.mp new)
  intro appeal userId a listed b listed' ordered read_b
  rcases cases_of listed' with old_b | rfl
  · rcases cases_of listed with old_a | rfl
    · exact down appeal userId a old_a b old_b ordered read_b
    · have last := newMessage_last s appealId senderId (mem_ofOthers.mp old_b).1
      exact absurd ordered (not_le_of_gt last)
  · have unread := newMessage_unread s appealId senderId userId
    exact absurd (unread.symm.trans read_b) (by decide)

theorem chatStep_down (down : ReadsDown s.chat.table) (action : ChatAction) :
    ReadsDown (chatStep s action).chat.table := by
  cases action with
  | wait time => exact down
  | post appealId senderId => exact down.post appealId senderId
  | delete messageId => exact down.delete messageId
  | read userId appealId request now =>
    simp only [chatStep, ChatState.read]
    cases found : s.chat.boundary userId appealId request with
    | error refusal => rw [afterRead_error found]; exact down
    | ok boundary => rw [afterRead_ok found]; exact down.readTo appealId userId now boundary
  | change desk => exact down

end Prefix

/-- Along every run what is read is a front part; a request of many messages does what one of the
latest readable message does, and nothing without one; a request made again does nothing. -/
theorem read_receipts_are_prefixes (s : ChatState) (start : ReadsPrefix s) (actions : List ChatAction) :
    Always chatStep ReadsPrefix s actions ∧
      (∀ (chat : AppealChat) (userId appealId : Nat) (body : ReadBulkBody) (now : Int),
        (∀ message, Latest (chat.table.readable appealId userId body.messageIds) message →
          chat.afterRead userId appealId (.bulk body) now =
            chat.afterRead userId appealId (.single message.id) now) ∧
        (chat.table.readable appealId userId body.messageIds = [] →
          chat.afterRead userId appealId (.bulk body) now = chat)) ∧
      ∀ (chat : AppealChat) (userId appealId : Nat) (request : ReadRequest) (now now' : Int),
        (chat.afterRead userId appealId request now).afterRead userId appealId request now' =
          chat.afterRead userId appealId request now := by
  refine ⟨?_, fun chat userId appealId body now => ⟨fun message latest => ?_, fun none_readable => ?_⟩,
    fun chat userId appealId request now now' => afterRead_again chat request now'⟩
  · exact always_of_invariant (J := fun s => ReadsDown s.chat.table)
      (fun _ action down => chatStep_down down action) (fun _ down => readsPrefix_iff.mpr down)
      (readsPrefix_iff.mp start) actions
  · simp only [AppealChat.afterRead, AppealChat.serveRead, readBulk_eq_readMessage latest]
  · simp only [AppealChat.afterRead, AppealChat.serveRead, readBulk_none none_readable]
    cases chat.desk.visibleAppeal appealId userId with
    | error refusal => rfl
    | ok appeal => rfl

def newChat : ChatState :=
  ⟨⟨chatDesk, [], [], by simp, by simp⟩, ⟨0, by decide⟩, 1, by simp⟩

theorem newChat_receipts : Always chatStep ReadsPrefix newChat
    [.post 1 1, .post 1 1, .wait ⟨1000, by decide⟩, .post 1 1, .read 3 1 (.bulk ⟨[9, 2], by simp⟩) 1000,
      .delete 1, .post 1 2, .read 3 1 (.single 3) 2000] := by
  refine (read_receipts_are_prefixes newChat (fun appealId userId => ?_) _).1
  exact List.nil_prefix

end LeaderProduct
