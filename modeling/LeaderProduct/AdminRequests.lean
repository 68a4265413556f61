import LeaderProduct.StaffTables

/-! The administration of departments, roles and users. A request writes one table after the other
without a transaction, and an answer that refuses it leaves what has been written before. -/
namespace LeaderProduct

section Departments
variable (t : StaffTables) (departmentId : Nat)

def StaffTables.detachEmployees : StaffTables :=
  { t with employees := t.employees.map fun row =>
      if row.departmentId = some departmentId then
        { row with departmentId := none, activeDepartmentId := none }
      else row }

def StaffTables.clearActive : StaffTables :=
  { t with employees := t.employees.map fun row =>
      if row.activeDepartmentId = some departmentId then { row with activeDepartmentId := none }
      else row }

def StaffTables.dropDepartmentRoles : StaffTables :=
  { t with
    departmentRoles := t.departmentRoles.filter (fun row => row.departmentId ≠ departmentId) }

def StaffTables.removeDepartment : StaffTables :=
  { t with
    departments := t.departments.filter (fun department => department.id ≠ departmentId)
    appeals := t.appeals.map fun appeal =>
      if appeal.fromDepartmentId = some departmentId then { appeal with fromDepartmentId := none }
      else appeal }

/-- `DELETE /departments/:departmentId`. A null in the required column of an appeal violates its
constraint; `refusesNull` says whether the client refuses it where no appeal matches as well. -/
def deleteDepartment (refusesNull : Bool) : IdParam → AdminAnswer × StaffTables
  | .nan => (.error ⟨400, "Некорректный ID отдела"⟩, t)
  | .unfit => (.error ⟨500, "Ошибка удаления отдела"⟩, t)
  | .id departmentId =>
    let cleared :=
      ((t.detachEmployees departmentId).clearActive departmentId).dropDepartmentRoles departmentId
    if refusesNull || t.appeals.any (fun appeal => appeal.toDepartmentId == departmentId) then
      (.error ⟨500, "Ошибка удаления отдела"⟩, cleared)
    else
      match t.department departmentId with
      | none => (.error ⟨404, "Отдел не найден"⟩, cleared)
      | some _ => (.success, cleared.removeDepartment departmentId)

end Departments

section Roles
variable (t : StaffTables)

def StaffTables.moveUsers (roleId baseRoleId : Nat) : StaffTables :=
  { t with users := t.users.map fun user =>
      if user.roleId = roleId then { user with roleId := baseRoleId } else user }

def StaffTables.removeRole (roleId : Nat) : StaffTables :=
  { t with
    departmentRoles := t.departmentRoles.filter (fun row => row.roleId ≠ roleId)
    rolePermissions := t.rolePermissions.filter (fun row => row.roleId ≠ roleId)
    roles := (t.roles.map fun role =>
      if role.parentRoleId = some roleId then { role with parentRoleId := none } else role).filter
        (fun role => role.id ≠ roleId) }

/-- `DELETE /roles/:roleId`. -/
def deleteRole (refusesNull : Bool) : IdParam → AdminAnswer × StaffTables
  | .nan => (.error ⟨400, "Некорректный ID роли"⟩, t)
  | .unfit => (.error ⟨500, "Ошибка удаления роли"⟩, t)
  | .id roleId =>
    match t.role roleId with
    | none => (.error ⟨404, "Роль не найдена"⟩, t)
    | some role =>
      if systemRoleNames.contains role.name then (.error ⟨400, "Базовую роль нельзя удалить"⟩, t)
      else
        match t.roleNamed "user" with
        | some baseUserRole => (.success, (t.moveUsers roleId baseUserRole.id).removeRole roleId)
        | none =>
          if refusesNull || t.users.any (fun user => user.roleId == roleId) then
            (.error ⟨500, "Ошибка удаления роли"⟩, t)
          else (.success, t.removeRole roleId)

def StaffTables.createRolePermission (row : RolePermission) : Option StaffTables :=
  if t.role row.roleId = none ∨ row ∈ t.rolePermissions then none
  else some { t with rolePermissions := t.rolePermissions ++ [row] }

def createRolePermissions (roleId : Nat) : List PermissionRow → StaffTables → Bool × StaffTables
  | [], t => (true, t)
  | permission :: rest, t =>
    match t.createRolePermission ⟨roleId, permission.id⟩ with
    | none => (false, t)
    | some written => createRolePermissions roleId rest written

abbrev PermissionNames := Option (List (Option String))

def StaffTables.dropRolePermissions (roleId : Nat) : StaffTables :=
  { t with rolePermissions := t.rolePermissions.filter (fun row => row.roleId ≠ roleId) }

/-- `PATCH /roles/:roleId/permissions`. -/
def setRolePermissions (permissions : PermissionNames) : IdParam → AdminAnswer × StaffTables
  | .nan => (.error ⟨400, "Некорректный ID роли"⟩, t)
  | .unfit => (.error ⟨500, "Ошибка обновления прав роли"⟩, t)
  | .id roleId =>
    let permNames := permissions.getD []
    let cleared := t.dropRolePermissions roleId
    -- the client refuses a name that is not a text
    if permNames.contains none then (.error ⟨500, "Ошибка обновления прав роли"⟩, cleared)
    else
      let perms := t.permissions.filter fun permission =>
        permNames.contains (some permission.name)
      match createRolePermissions roleId perms cleared with
      | (true, after) => (.success, after)
      | (false, after) => (.error ⟨500, "Ошибка обновления прав роли"⟩, after)

structure CreateRoleBody where
  name : BodyText
  displayName : BodyText
  parentRoleId : Option IdParam
  permissions : PermissionNames

def trimText (refusal : Refusal) : BodyText → Except Refusal String
  | .missing => .ok ""
  | .text text => .ok (JsString.trim text)
  | .other => .error refusal

def validateParentRoleId : Option IdParam → Except Refusal (Option Nat)
  | none => .ok none
  | some .nan => .error ⟨400, "Некорректный ID родительской роли"⟩
  | some .unfit => .error ⟨500, "Ошибка создания роли"⟩
  | some (.id id) =>
    match t.role id with
    | none => .error ⟨400, "Родительская роль не найдена"⟩
    | some _ => .ok (some id)

def createdRole (body : CreateRoleBody) (newId : Nat) : Except Refusal RoleRow := do
  let name ← trimText ⟨500, "Ошибка создания роли"⟩ body.name
  let displayName ← trimText ⟨500, "Ошибка создания роли"⟩ body.displayName
  if name = "" then .error ⟨400, "Код роли обязателен"⟩
  else if displayName = "" then .error ⟨400, "Название роли обязательно"⟩
  else
    let parentRoleId ← validateParentRoleId t body.parentRoleId
    if newId = 0 ∨ newId ∈ t.roles.map (·.id) ∨ name ∈ t.roles.map (·.name) then
      .error ⟨500, "Ошибка создания роли"⟩
    else .ok ⟨newId, name, some displayName, parentRoleId⟩

def addNamedPermissions (roleId : Nat) : List (Option String) → StaffTables → Bool × StaffTables
  | [], t => (true, t)
  | none :: _, t => (false, t)
  | some permName :: rest, t =>
    match t.permissionNamed permName with
    | none => addNamedPermissions roleId rest t
    | some permission =>
      match t.createRolePermission ⟨roleId, permission.id⟩ with
      | none => (false, t)
      | some written => addNamedPermissions roleId rest written

def StaffTables.addRole (role : RoleRow) : StaffTables := { t with roles := t.roles ++ [role] }

/-- `POST /roles`. `newId` is the next of the sequence. -/
def createRole (body : CreateRoleBody) (newId : Nat) : AdminAnswer × StaffTables :=
  match createdRole t body newId with
  | .error refusal => (.error refusal, t)
  | .ok role =>
    match addNamedPermissions role.id (body.permissions.getD []) (t.addRole role) with
    | (true, after) => (.success, after)
    | (false, after) => (.error ⟨500, "Ошибка создания роли"⟩, after)

end Roles

section Users
variable (t : StaffTables)

structure PatchUserBody where
  firstName : BodyField String
  lastName : BodyField String
  middleName : BodyField String
  email : BodyField String
  phone : OptionalText
  profileStatus : BodyField ProfileStatus
  departmentId : Option (Option IdParam)
  onecUserGuid : OptionalText
  onecPhysicalPersonGuid : OptionalText

def phonePatch : OptionalText → Except Refusal (BodyField Nat)
  | none => .ok .undefined
  | some raw =>
    let rawPhone := JsString.trim (raw.getD "")
    if rawPhone = "" then .ok .null
    else
      match normalizePhoneToBigInt rawPhone with
      | none => .error ⟨400, "Некорректный формат телефона"⟩
      | some normalizedPhone => .ok (.value normalizedPhone)

def PatchUserBody.hasData (body : PatchUserBody) : Bool :=
  body.firstName.given || body.lastName.given || body.middleName.given || body.email.given ||
    body.phone.isSome || body.profileStatus.given

def PatchUserBody.dataFits (body : PatchUserBody) : Bool :=
  body.firstName.fits && body.lastName.fits && body.middleName.fits && body.email.fits &&
    body.profileStatus.fits && body.profileStatus != .null

def PatchUserBody.patched (body : PatchUserBody) (phone : BodyField Nat) (user : StaffUser) :
    StaffUser :=
  { user with
    firstName := body.firstName.write user.firstName
    lastName := body.lastName.write user.lastName
    middleName := body.middleName.write user.middleName
    email := body.email.write user.email
    phone := phone.write user.phone
    profileStatus := (body.profileStatus.write (some user.profileStatus)).getD user.profileStatus }

def StaffTables.takenByOther (userId : Nat) (email : BodyField String) (phone : BodyField Nat) :
    Bool :=
  t.users.any fun user => user.id != userId &&
    ((match email with
      | .value email => user.email == some email
      | _ => false) ||
    (match phone with
      | .value phone => user.phone == some phone
      | _ => false))

def StaffTables.changeUser (userId : Nat) (change : StaffUser → StaffUser) : StaffTables :=
  { t with users := t.users.map fun user => if user.id = userId then change user else user }

def StaffTables.changeEmployee (userId : Nat) (change : EmployeeRow → EmployeeRow) : StaffTables :=
  { t with employees := t.employees.map fun row => if row.userId = userId then change row else row }

def userRefusal : Refusal := ⟨500, "Ошибка обновления пользователя"⟩

/-- `user.update`, where there is something to write. The id is `none` where it does not fit. -/
def patchUserRow (userId : Option Nat) (body : PatchUserBody) : Except Refusal StaffTables := do
  let phone ← phonePatch body.phone
  if !body.hasData then .ok t
  else
    match userId with
    | none => .error userRefusal
    | some userId =>
      if !body.dataFits then .error userRefusal
      else if t.user userId = none then .error ⟨404, "Пользователь не найден"⟩
      else if t.takenByOther userId body.email phone then
        .error ⟨409, "GUID 1С уже привязан к другому сотруднику"⟩
      else .ok (t.changeUser userId (body.patched phone))

def departmentOfPatch : Option (Option IdParam) → Except Refusal (Option (Option Nat))
  | none => .ok none
  | some none => .ok (some none)
  | some (some (.id id)) =>
    match t.department id with
    | none => .error ⟨404, "Отдел не найден"⟩
    | some _ => .ok (some (some id))
  | some (some _) => .error ⟨404, "Отдел не найден"⟩

def patchDepartment (userId : Option Nat) (body : PatchUserBody) : Except Refusal StaffTables := do
  match ← departmentOfPatch t body.departmentId with
  | none => .ok t
  | some department =>
    match userId with
    | none => .error userRefusal
    | some userId =>
      .ok (t.changeEmployee userId fun row =>
        { row with departmentId := department, activeDepartmentId := department })

def OptionalText.write (given : OptionalText) (old : Option String) : Option String :=
  given.getD old

def StaffTables.guidTakenByOther (userId : Nat)
    (onecUserGuid onecPhysicalPersonGuid : OptionalText) : Bool :=
  t.employees.any fun row => row.userId != userId &&
    ((onecUserGuid.join.isSome && row.onecUserGuid == onecUserGuid.join) ||
      (onecPhysicalPersonGuid.join.isSome &&
        row.onecPhysicalPersonGuid == onecPhysicalPersonGuid.join))

def patchEmployee (userId : Option Nat) (body : PatchUserBody) : Except Refusal StaffTables :=
  let onecUserGuid := normalizeOptionalOnecGuid body.onecUserGuid
  let onecPhysicalPersonGuid := normalizeOptionalOnecGuid body.onecPhysicalPersonGuid
  if !isValidOnecGuid onecUserGuid || !isValidOnecGuid onecPhysicalPersonGuid then
    .error ⟨400, "Некорректный GUID 1С"⟩
  else if onecUserGuid = none ∧ onecPhysicalPersonGuid = none then .ok t
  else
    match userId with
    | none => .error userRefusal
    | some userId =>
      if t.employee userId = none then .error ⟨404, "Профиль сотрудника не найден"⟩
      else if t.guidTakenByOther userId onecUserGuid onecPhysicalPersonGuid then
        .error ⟨409, "GUID 1С уже привязан к другому сотруднику"⟩
      else .ok (t.changeEmployee userId fun row =>
        { row with
          onecUserGuid := OptionalText.write onecUserGuid row.onecUserGuid
          onecPhysicalPersonGuid :=
            OptionalText.write onecPhysicalPersonGuid row.onecPhysicalPersonGuid })

/-- `PATCH /:userId`, from the parsed id on. The last query reads the profile. -/
def patchUserFrom (userId : Option Nat) (body : PatchUserBody) : AdminAnswer × StaffTables :=
  match patchUserRow t userId body with
  | .error refusal => (.error refusal, t)
  | .ok named =>
    match patchDepartment named userId body with
    | .error refusal => (.error refusal, named)
    | .ok placed =>
      match patchEmployee placed userId body with
      | .error refusal => (.error refusal, placed)
      | .ok after => (if userId = none then .error userRefusal else .success, after)

def patchUser (body : PatchUserBody) : IdParam → AdminAnswer × StaffTables
  | .nan => (.error ⟨400, "Некорректный ID пользователя"⟩, t)
  | .unfit => patchUserFrom t none body
  | .id userId => patchUserFrom t (some userId) body

end Users

section Requests

inductive AdminRequest where
  | deleteDepartment (departmentId : IdParam)
  | deleteRole (roleId : IdParam)
  | setRolePermissions (roleId : IdParam) (permissions : PermissionNames)
  | createRole (body : CreateRoleBody) (newId : Nat)
  | patchUser (userId : IdParam) (body : PatchUserBody)

def AdminRequest.answer (refusesNull : Bool) (t : StaffTables) :
    AdminRequest → AdminAnswer × StaffTables
  | .deleteDepartment departmentId => LeaderProduct.deleteDepartment t refusesNull departmentId
  | .deleteRole roleId => LeaderProduct.deleteRole t refusesNull roleId
  | .setRolePermissions roleId permissions => LeaderProduct.setRolePermissions t permissions roleId
  | .createRole body newId => LeaderProduct.createRole t body newId
  | .patchUser userId body => LeaderProduct.patchUser t body userId

end Requests

end LeaderProduct
