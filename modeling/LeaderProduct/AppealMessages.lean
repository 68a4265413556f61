import Mathlib.Data.Prod.Lex
import LeaderProduct.AppealDesk
import LeaderProduct.IsoDates
import LeaderProduct.KeysetPaging

/-! The messages of appeals and who has read them. -/
namespace LeaderProduct
open RankedWindow (sortedBy)

section Rows

structure AppealMessage where
  id : Nat
  appealId : Nat
  senderId : Nat
  deleted : Bool
  createdAt : JsDate
  deriving DecidableEq

structure AppealMessageRead where
  messageId : Nat
  userId : Nat
  readAt : Int

@[ext]
structure MessageTable where
  messages : List AppealMessage
  reads : List AppealMessageRead
  ids_unique : (messages.map AppealMessage.id).Nodup
  reads_stored : ∀ read ∈ reads, read.messageId ∈ messages.map AppealMessage.id

def AppealMessage.place (message : AppealMessage) : JsDate ×ₗ Nat :=
  toLex (message.createdAt, message.id)

theorem place_lt_iff (a b : AppealMessage) : a.place < b.place ↔
    a.createdAt < b.createdAt ∨ a.createdAt = b.createdAt ∧ a.id < b.id :=
  Prod.Lex.toLex_lt_toLex

theorem place_le_iff (a b : AppealMessage) : a.place ≤ b.place ↔
    a.createdAt < b.createdAt ∨ a.createdAt = b.createdAt ∧ a.id ≤ b.id :=
  Prod.Lex.toLex_le_toLex

end Rows

section Queries
variable (table : MessageTable)

def MessageTable.findMany (appealId : Nat) (condition : AppealMessage → Bool) : List AppealMessage :=
  table.messages.filter
    (fun message => message.appealId == appealId && !message.deleted && condition message)

/-- `reads: { none: { userId } }`. -/
def MessageTable.unreadBy (userId : Nat) (message : AppealMessage) : Bool :=
  !table.reads.any (fun read => read.messageId == message.id && read.userId == userId)

def MessageTable.shown (appealId : Nat) : List AppealMessage :=
  sortedBy AppealMessage.place (table.findMany appealId (fun _ => true))

variable {table}

theorem mem_findMany {appealId : Nat} {condition : AppealMessage → Bool} {message : AppealMessage} :
    message ∈ table.findMany appealId condition ↔ message ∈ table.messages ∧
      message.appealId = appealId ∧ message.deleted = false ∧ condition message = true := by
  simp [MessageTable.findMany, and_assoc]

theorem unreadBy_eq_false {userId : Nat} {message : AppealMessage} :
    table.unreadBy userId message = false ↔
      ∃ read ∈ table.reads, read.messageId = message.id ∧ read.userId = userId := by
  simp [MessageTable.unreadBy]

theorem findMany_apart (appealId : Nat) (condition : AppealMessage → Bool) :
    ((table.findMany appealId condition).map AppealMessage.place).Nodup := by
  have ids : ((table.findMany appealId condition).map AppealMessage.id).Nodup :=
    table.ids_unique.sublist (List.filter_sublist.map _)
  refine List.Nodup.of_map (fun place : JsDate ×ₗ Nat => (ofLex place).2) ?_
  rw [List.map_map]
  exact ids

theorem sorted_findMany (appealId : Nat) (condition : AppealMessage → Bool) :
    sortedBy AppealMessage.place (table.findMany appealId condition) =
      (table.shown appealId).filter condition := by
  have part : table.findMany appealId condition =
      (table.findMany appealId (fun _ => true)).filter condition := by
    simp only [MessageTable.findMany, List.filter_filter, Bool.and_true]
    exact List.filter_congr fun _ _ => Bool.and_comm _ _
  rw [part, KeysetPaging.sortedBy_filter (findMany_apart appealId _)]
  rfl

theorem sorted_findMany_desc (appealId : Nat) (condition : AppealMessage → Bool) :
    sortedBy (fun message => OrderDual.toDual message.place) (table.findMany appealId condition) =
      ((table.shown appealId).filter condition).reverse := by
  rw [KeysetPaging.sortedBy_dual (findMany_apart appealId condition), sorted_findMany]

theorem shown_strict (appealId : Nat) :
    (table.shown appealId).Pairwise (fun a b => a.place < b.place) :=
  KeysetPaging.sortedBy_strict (findMany_apart appealId _)

end Queries

section Access

structure AppealChat where
  desk : AppealDesk
  table : MessageTable

def AppealDesk.visibleAppeal (desk : AppealDesk) (appealId userId : Nat) :
    Except AppealRefusal Appeal :=
  match desk.appeals appealId, desk.users userId with
  | none, _ => .error (.notFound "Обращение не найдено")
  | some _, none => .error (.notFound "Пользователь не найден")
  | some appeal, some actor =>
    let isCreator := appeal.createdById == userId
    let isAssignee := appeal.assignees.contains userId
    let employee := actor.departmentId == some appeal.toDepartmentId
    if !isCreator && !isAssignee && !employee && !isAdminRole actor then
      .error (.forbidden "Нет доступа к этому обращению")
    else .ok appeal

def chatDesk : AppealDesk where
  appeals id := if id = 1 then some ⟨5, 1, .inProgress, [3], []⟩ else none
  users id := if id = 3 then some ⟨"user", [], some 5⟩ else none
  departments _ := true

end Access

end LeaderProduct
