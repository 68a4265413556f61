import LeaderProduct.JsString

/-! Appeals of the employees: who may assign one, take it, move it to another department or change
its status, and what each of these requests writes. -/
namespace LeaderProduct

section Rows

inductive AppealStatus where
  | opened | inProgress | completed | declined | resolved
  deriving DecidableEq, Repr

structure StatusChange where
  oldStatus : AppealStatus
  newStatus : AppealStatus
  changedById : Nat
  deriving DecidableEq, Repr

structure Appeal where
  toDepartmentId : Nat
  createdById : Nat
  status : AppealStatus
  assignees : List Nat
  statusHistory : List StatusChange
  deriving DecidableEq, Repr

structure DepartmentRole where
  departmentId : Nat
  roleName : String

structure UserMini where
  roleName : String
  departmentRoles : List DepartmentRole
  /-- The department of the employee profile. -/
  departmentId : Option Nat

structure AppealDesk where
  appeals : Nat → Option Appeal
  users : Nat → Option UserMini
  departments : Nat → Bool

def AppealDesk.modify (desk : AppealDesk) (appealId : Nat) (change : Appeal → Appeal) : AppealDesk :=
  { desk with appeals := fun id => if id = appealId then (desk.appeals id).map change
      else desk.appeals id }

end Rows

section Roles

def isAdminRole (user : UserMini) : Bool :=
  let roleName := JsString.toLowerCase user.roleName
  roleName == "admin" || roleName == "administrator"

/-- A department number 0 counts as none given, and then any department will do. -/
def isDepartmentManager (user : UserMini) (departmentId : Nat) : Bool :=
  user.departmentRoles.any (fun own => own.roleName == "department_manager" &&
      (departmentId == 0 || own.departmentId == departmentId)) ||
    (user.roleName == "department_manager" &&
      (departmentId == 0 || user.departmentId == some departmentId))

def worksIn (user : Option UserMini) (departmentId : Nat) : Bool :=
  (user.bind (·.departmentId)) == some departmentId

end Roles

section Requests

inductive AppealRequest where
  | assign (assigneeIds : List Nat)
  | claim
  | department (departmentId : Nat)
  | status (status : AppealStatus)

structure AppealCall where
  appealId : Nat
  userId : Nat
  request : AppealRequest

structure AppealRefusal where
  httpStatus : Nat
  message : String

def AppealRefusal.notFound (message : String) : AppealRefusal := ⟨404, message⟩
def AppealRefusal.forbidden (message : String) : AppealRefusal := ⟨403, message⟩

inductive AppealWrite where
  | assign (assigneeIds : List Nat) (change : Option StatusChange)
  | claim (added : Option Nat) (change : Option StatusChange)
  | department (departmentId : Nat) (prevStatus : AppealStatus) (changedById : Nat)
  | status (change : StatusChange)

def changeTo (appeal : Appeal) (nextStatus : AppealStatus) (userId : Nat) : Option StatusChange :=
  if nextStatus ≠ appeal.status then some ⟨appeal.status, nextStatus, userId⟩ else none

variable (desk : AppealDesk)

def planAssign (userId : Nat) (appeal : Appeal) (assigneeIds : List Nat) :
    Except AppealRefusal (Option AppealWrite) :=
  match desk.users userId with
  | none => .error (.notFound "Пользователь не найден")
  | some actor =>
    if !(isAdminRole actor || isDepartmentManager actor appeal.toDepartmentId) then
      .error (.forbidden "Нет прав на назначение исполнителей")
    else
      let nextAssignees := assigneeIds.eraseDups
      let nextStatus := if nextAssignees.length > 0 then .inProgress
        else if appeal.status = .inProgress then .opened else appeal.status
      .ok (some (.assign nextAssignees (changeTo appeal nextStatus userId)))

def planClaim (userId : Nat) (appeal : Appeal) : Except AppealRefusal (Option AppealWrite) :=
  if !worksIn (desk.users userId) appeal.toDepartmentId || appeal.toDepartmentId == 0 then
    .error (.forbidden "Нет доступа к этому отделу")
  else
    let added := if appeal.assignees.contains userId then none else some userId
    .ok (some (.claim added (changeTo appeal .inProgress userId)))

def planDepartment (userId : Nat) (appeal : Appeal) (departmentId : Nat) :
    Except AppealRefusal (Option AppealWrite) :=
  match desk.users userId with
  | none => .error (.notFound "Пользователь не найден")
  | some actor =>
    if !(isAdminRole actor || isDepartmentManager actor appeal.toDepartmentId) then
      .error (.forbidden "Нет прав на перевод отдела")
    else if appeal.toDepartmentId = departmentId then .ok none
    else if !desk.departments departmentId then
      .error (.notFound "Отдел не найден")
    else .ok (some (.department departmentId appeal.status userId))

def statusAllowed (actor : UserMini) (userId : Nat) (appeal : Appeal) (status : AppealStatus) : Bool :=
  if isAdminRole actor || isDepartmentManager actor appeal.toDepartmentId then true
  else if appeal.createdById == userId then
    status == .completed || (appeal.status == .resolved && status == .inProgress)
  else if appeal.assignees.contains userId then status == .resolved
  else false

def planStatus (userId : Nat) (appeal : Appeal) (status : AppealStatus) :
    Except AppealRefusal (Option AppealWrite) :=
  match desk.users userId with
  | none => .error (.notFound "Пользователь не найден")
  | some actor =>
    let isCreator := appeal.createdById == userId
    let isAssignee := appeal.assignees.contains userId
    let isAdmin := isAdminRole actor
    let isManager := isDepartmentManager actor appeal.toDepartmentId
    let employee := worksIn (some actor) appeal.toDepartmentId
    if !isCreator && !isAssignee && !employee && !isManager && !isAdmin then
      .error (.forbidden "Нет доступа к этому обращению")
    else if !statusAllowed actor userId appeal status then
      .error (.forbidden "Нет прав на смену статуса")
    else .ok ((changeTo appeal status userId).map .status)

def AppealCall.plan (call : AppealCall) (appeal : Appeal) :
    Except AppealRefusal (Option AppealWrite) :=
  match call.request with
  | .assign assigneeIds => planAssign desk call.userId appeal assigneeIds
  | .claim => planClaim desk call.userId appeal
  | .department departmentId => planDepartment desk call.userId appeal departmentId
  | .status status => planStatus desk call.userId appeal status

end Requests

section Writes

def Appeal.record (appeal : Appeal) (change : StatusChange) : Appeal :=
  { appeal with statusHistory := appeal.statusHistory ++ [change] }

def Appeal.move (appeal : Appeal) (change : Option StatusChange) : Appeal :=
  match change with
  | none => appeal
  | some change => { appeal with status := change.newStatus }.record change

variable (desk : AppealDesk) (appealId : Nat)

/-- An assignee who is no user, a second row of one assignee and a department that is gone fail the
transaction. A status update writes its record later. -/
def applyAppealWrite (write : AppealWrite) : AppealDesk :=
  match write with
  | .assign assigneeIds change =>
    if assigneeIds.all (fun id => (desk.users id).isSome) then
      desk.modify appealId (fun appeal => { appeal with assignees := assigneeIds }.move change)
    else desk
  | .claim added change =>
    desk.modify appealId (fun appeal =>
      match added with
      | none => appeal.move change
      | some userId => if appeal.assignees.contains userId then appeal
          else { appeal with assignees := appeal.assignees ++ [userId] }.move change)
  | .department departmentId prevStatus changedById =>
    if desk.departments departmentId then
      desk.modify appealId (fun appeal =>
        let moved : Appeal :=
          { appeal with toDepartmentId := departmentId, status := .opened, assignees := [] }
        if prevStatus ≠ .opened then moved.record ⟨prevStatus, .opened, changedById⟩ else moved)
    else desk
  | .status change =>
    desk.modify appealId (fun appeal => { appeal with status := change.newStatus })

def recordChange (change : StatusChange) : AppealDesk :=
  desk.modify appealId (fun appeal => appeal.record change)

end Writes

end LeaderProduct
