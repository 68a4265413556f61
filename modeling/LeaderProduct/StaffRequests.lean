import LeaderProduct.AdminRequests
import LeaderProduct.AppealDesk

/-! Who has which role: the assignment of roles, the moderation of employees and what users change
in their own profiles. -/
namespace LeaderProduct

section Assignment
variable (t : StaffTables)

structure RoleChoice where
  roleId : Option IdParam
  roleName : Option (Option String)

def assignRefusal : Refusal := ⟨500, "Ошибка назначения роли пользователю"⟩

def chosenRole (choice : RoleChoice) : Except Refusal RoleRow :=
  match choice.roleId, choice.roleName with
  | some (.id roleId), _ =>
    match t.role roleId with
    | some role => .ok role
    | none => .error ⟨404, "Роль не найдена"⟩
  | some _, _ => .error assignRefusal
  | none, some (some roleName) =>
    match t.roleNamed roleName with
    | some role => .ok role
    | none => .error ⟨404, "Роль не найдена"⟩
  | none, some none => .error assignRefusal
  | none, none => .error ⟨404, "Роль не найдена"⟩

/-- `POST /:userId/role`. -/
def assignRole (choice : RoleChoice) (param : IdParam) : AdminAnswer × StaffTables :=
  if param = .nan then (.error ⟨400, "Некорректный ID пользователя"⟩, t)
  else
    match chosenRole t choice with
    | .error refusal => (.error refusal, t)
    | .ok role =>
      match param with
      | .id userId =>
        if t.user userId = none then (.error ⟨404, "Пользователь не найден"⟩, t)
        else (.success, t.changeUser userId fun user => { user with roleId := role.id })
      | _ => (.error assignRefusal, t)

structure UpdateRoleBody where
  nameGiven : Bool
  displayName : Option String
  parentRoleId : Option (Option IdParam)

def climbsTo (roleId : Nat) : Nat → Option Nat → List Nat → Bool
  | 0, _, _ => false
  | fuel + 1, current, visited =>
    match truthy current with
    | none => false
    | some current =>
      if current = roleId ∨ current ∈ visited then true
      else climbsTo roleId fuel ((t.role current).bind (·.parentRoleId)) (current :: visited)

def wouldCreateRoleCycle (roleId : Nat) (parentRoleId : Option Nat) : Bool :=
  climbsTo t roleId (t.roles.length + 2) parentRoleId []

def updateRefusal : Refusal := ⟨500, "Ошибка обновления роли"⟩

def checkedParent (roleId : Nat) : Option (Option IdParam) → Except Refusal (Option (Option Nat))
  | none => .ok none
  | some none => .ok (some none)
  | some (some .nan) => .error ⟨400, "Некорректный ID родительской роли"⟩
  | some (some .unfit) => .error updateRefusal
  | some (some (.id parentRoleId)) =>
    if parentRoleId = roleId then .error ⟨400, "Роль не может быть родителем самой себя"⟩
    else if t.role parentRoleId = none then .error ⟨400, "Родительская роль не найдена"⟩
    else if wouldCreateRoleCycle t roleId (some parentRoleId) then
      .error ⟨400, "Нельзя создать циклическую иерархию ролей"⟩
    else .ok (some (some parentRoleId))

def StaffTables.changeRole (roleId : Nat) (displayName : Option String)
    (parentRoleId : Option (Option Nat)) : StaffTables :=
  { t with roles := t.roles.map fun role =>
      if role.id = roleId then
        { role with
          displayName := displayName.or role.displayName
          parentRoleId := parentRoleId.getD role.parentRoleId }
      else role }

/-- `PATCH /roles/:roleId`. -/
def updateRole (body : UpdateRoleBody) : IdParam → AdminAnswer × StaffTables
  | .nan => (.error ⟨400, "Некорректный ID роли"⟩, t)
  | .unfit => (.error updateRefusal, t)
  | .id roleId =>
    if t.role roleId = none then (.error ⟨404, "Роль не найдена"⟩, t)
    else if body.nameGiven then (.error ⟨400, "Технический код роли менять нельзя"⟩, t)
    else if body.displayName.map JsString.trim = some "" then
      (.error ⟨400, "Название роли не может быть пустым"⟩, t)
    else
      match checkedParent t roleId body.parentRoleId with
      | .error refusal => (.error refusal, t)
      | .ok parentRoleId =>
        if body.displayName = none ∧ parentRoleId = none then
          (.error ⟨400, "Нет данных для обновления"⟩, t)
        else (.success, t.changeRole roleId (body.displayName.map JsString.trim) parentRoleId)

def managerRefusal : Refusal := ⟨500, "Ошибка назначения менеджера отдела"⟩

/-- `POST /:userId/department/:departmentId/manager`. -/
def assignDepartmentManager : IdParam → IdParam → AdminAnswer × StaffTables
  | _, .nan => (.error ⟨400, "Некорректный ID отдела"⟩, t)
  | .nan, _ => (.error ⟨400, "Некорректный ID пользователя"⟩, t)
  | .unfit, _ => (.error managerRefusal, t)
  | .id userId, department =>
    if t.user userId = none then (.error ⟨404, "Пользователь не найден"⟩, t)
    else
      match department with
      | .id departmentId =>
        if t.department departmentId = none then (.error ⟨404, "Отдел не найден"⟩, t)
        else
          match t.roleNamed "department_manager" with
          | none => (.error ⟨404, "Роль \"менеджер отдела\" не найдена"⟩, t)
          | some managerRole =>
            let row : UserDepartmentRole := ⟨userId, managerRole.id, departmentId⟩
            (.success, if row ∈ t.departmentRoles then t
              else { t with departmentRoles := t.departmentRoles ++ [row] })
      | _ => (.error managerRefusal, t)

end Assignment

section Moderation
variable (t : StaffTables)

inductive ModerationAction where
  | approve
  | reject

def moderatedRole (action : ModerationAction) (held : Option RoleRow) (roleId : Nat) :
    Except Refusal Nat :=
  let heldName := held.map (·.name)
  match action with
  | .approve =>
    if heldName = some "user" then
      match t.roleNamed "employee" with
      | none => .error ⟨404, "Роль employee не найдена"⟩
      | some employeeRole => .ok employeeRole.id
    else .ok roleId
  | .reject =>
    if heldName = some "employee" then
      match t.roleNamed "user" with
      | none => .error ⟨404, "Роль user не найдена"⟩
      | some userRole => .ok userRole.id
    else .ok roleId

def ModerationAction.status : ModerationAction → ProfileStatus
  | .approve => .active
  | .reject => .blocked

def ModerationAction.profileType (action : ModerationAction) (current : Option ProfileType) :
    Option ProfileType :=
  match action with
  | .approve => current
  | .reject => if current = some .employee then none else current

/-- `POST /:userId/employee-moderation`: one transaction. -/
def moderateEmployee (action : Option ModerationAction) : IdParam → AdminAnswer × StaffTables
  | .nan => (.error ⟨400, "Некорректный ID пользователя"⟩, t)
  | param =>
    match action with
    | none => (.error ⟨400, "action должен быть APPROVE или REJECT"⟩, t)
    | some action =>
      match param with
      | .id userId =>
        match t.user userId with
        | none => (.error ⟨404, "Пользователь не найден"⟩, t)
        | some user =>
          if t.employee userId = none then (.error ⟨404, "Профиль сотрудника не найден"⟩, t)
          else
            match moderatedRole t action (t.role user.roleId) user.roleId with
            | .error refusal => (.error refusal, t)
            | .ok roleId =>
              (.success, (t.changeEmployee userId fun row => { row with status := action.status })
                |>.changeUser userId fun user =>
                  { user with
                    roleId := roleId
                    currentProfileType := action.profileType user.currentProfileType })
      | _ => (.error ⟨500, "Ошибка модерации сотрудника"⟩, t)

end Moderation

section Own
variable (t : StaffTables) (userId : Nat)

structure ProfileNames where
  firstName : BodyField String
  lastName : BodyField String
  middleName : BodyField String

def BodyField.isFilled : BodyField String → Bool
  | .value text => text ≠ ""
  | .unfit => true
  | _ => false

def ProfileNames.fits (names : ProfileNames) : Bool :=
  names.firstName.fits && names.lastName.fits && names.middleName.fits

def StaffTables.nameUser (names : ProfileNames) (type : ProfileType) : StaffTables :=
  t.changeUser userId fun user =>
    { user with
      firstName := names.firstName.write user.firstName
      lastName := names.lastName.write user.lastName
      middleName := names.middleName.write user.middleName
      currentProfileType := some type }

def createdProfile (created : StaffTables) (names : ProfileNames) (type : ProfileType)
    (message : String) : AdminAnswer × StaffTables :=
  if names.fits then (.success, created.nameUser userId names type)
  else (.error ⟨500, message⟩, created)

/-- `POST /profiles/employee`. The department is `none` where it is not given. -/
def createEmployeeProfile (names : ProfileNames) (department : Option IdParam) :
    AdminAnswer × StaffTables :=
  if !names.firstName.isFilled || !names.lastName.isFilled || department.isNone then
    (.error ⟨400, "Обязательные поля: user.firstName, user.lastName и departmentId"⟩, t)
  else if t.employee userId ≠ none then
    (.error ⟨409, "Профиль сотрудника уже существует"⟩, t)
  else
    match department with
    | some (.id departmentId) =>
      if t.department departmentId = none then (.error ⟨404, "Отдел не найден"⟩, t)
      else
        createdProfile userId
          { t with employees := t.employees ++
              [⟨userId, some departmentId, some departmentId, .pending, none, none⟩] }
          names .employee "Ошибка создания профиля сотрудника"
    | _ => (.error ⟨500, "Ошибка создания профиля сотрудника"⟩, t)

/-- `POST /profiles/client`. `refusal` is what the checks of the address and of the marketplace
records answer. -/
def createClientProfile (names : ProfileNames) (refusal : Option Refusal) :
    AdminAnswer × StaffTables :=
  if !names.firstName.isFilled then (.error ⟨400, "Обязательное поле: user.firstName"⟩, t)
  else if ((t.user userId).any (·.hasClientProfile)) then
    (.error ⟨409, "Клиентский профиль уже существует"⟩, t)
  else
    match refusal with
    | some refusal => (.error refusal, t)
    | none =>
      createdProfile userId (t.changeUser userId fun user => { user with hasClientProfile := true })
        names .client "Ошибка создания клиентского профиля"

/-- `POST /profiles/supplier`. -/
def createSupplierProfile (names : ProfileNames) (refusal : Option Refusal) :
    AdminAnswer × StaffTables :=
  if !names.firstName.isFilled then (.error ⟨400, "Обязательное поле: user.firstName"⟩, t)
  else if ((t.user userId).any (·.hasSupplierProfile)) then
    (.error ⟨409, "Профиль поставщика уже существует"⟩, t)
  else
    match refusal with
    | some refusal => (.error refusal, t)
    | none =>
      createdProfile userId
        (t.changeUser userId fun user => { user with hasSupplierProfile := true })
        names .supplier "Ошибка создания профиля поставщика"

/-- `PUT /me/department`. The department is `none` where none, zero or an empty text is given. -/
def updateMyDepartment : Option IdParam → AdminAnswer × StaffTables
  | none => (.error ⟨400, "ID отдела обязателен"⟩, t)
  | some .nan => (.error ⟨400, "Некорректный ID отдела"⟩, t)
  | some .unfit => (.error ⟨404, "Отдел не найден"⟩, t)
  | some (.id departmentId) =>
    if t.department departmentId = none then (.error ⟨404, "Отдел не найден"⟩, t)
    else
      (.success, t.changeEmployee userId fun row =>
        { row with departmentId := some departmentId, activeDepartmentId := some departmentId })

def canUseDepartmentAsActive (departmentId : Nat) : Bool :=
  match t.employee userId with
  | none => false
  | some profile =>
    profile.departmentId == some departmentId ||
      t.departmentRoles.any (fun row => row.userId == userId && row.departmentId == departmentId)

/-- `PUT /me/active-department`. The department is `none` for `null`. -/
def updateMyActiveDepartment (department : Option IdParam) : AdminAnswer × StaffTables :=
  if t.employee userId = none then (.error ⟨404, "Профиль сотрудника не найден"⟩, t)
  else
    match department with
    | none => (.success, t.changeEmployee userId fun row => { row with activeDepartmentId := none })
    | some .nan => (.error ⟨400, "Некорректный ID отдела"⟩, t)
    | some .unfit => (.error ⟨404, "Отдел не найден"⟩, t)
    | some (.id departmentId) =>
      if t.department departmentId = none then (.error ⟨404, "Отдел не найден"⟩, t)
      else if canUseDepartmentAsActive t userId departmentId then
        (.success, t.changeEmployee userId fun row =>
          { row with activeDepartmentId := some departmentId })
      else
        (.error ⟨400, "Активным можно выбрать только основной отдел или отдел " ++
          "из дополнительных ролей"⟩, t)

def hasProfile (user : StaffUser) : ProfileType → Bool
  | .client => user.hasClientProfile
  | .supplier => user.hasSupplierProfile
  | .employee => (t.employee user.id).isSome

/-- `PATCH /me/current-profile`. -/
def chooseCurrentProfile : BodyField ProfileType → AdminAnswer × StaffTables
  | .undefined => (.error ⟨400, "Требуется тип профиля"⟩, t)
  | .unfit => (.error ⟨400, "Некорректный тип профиля"⟩, t)
  | .null =>
    if t.user userId = none then (.error ⟨404, "Пользователь не найден"⟩, t)
    else (.success, t.changeUser userId fun user => { user with currentProfileType := none })
  | .value type =>
    match t.user userId with
    | none => (.error ⟨404, "Пользователь не найден"⟩, t)
    | some user =>
      if hasProfile t user type then
        (.success, t.changeUser userId fun user => { user with currentProfileType := some type })
      else (.error ⟨404, "Профиль выбранного типа не найден"⟩, t)

/-- A name of `PATCH /profile`, after `String`: an empty one clears the column. -/
def OptionalText.writeName (given : OptionalText) (old : Option String) : Option String :=
  match given with
  | none => old
  | some raw => (raw.map JsString.trim).filter (· ≠ "")

structure PatchProfileBody where
  firstName : OptionalText
  lastName : OptionalText
  middleName : OptionalText
  emailGiven : Bool
  phone : OptionalText

/-- `PATCH /profile`. -/
def patchMyProfile (body : PatchProfileBody) : AdminAnswer × StaffTables :=
  if t.user userId = none then (.error ⟨404, "Пользователь не найден"⟩, t)
  else if body.emailGiven then (.error ⟨409, "Email обновляется только через подтверждение кода"⟩, t)
  else
    match body.phone.map fun raw => JsString.trim (raw.getD "") with
    | some phone =>
      if phone ≠ "" then
        if normalizePhoneToBigInt phone = none then
          (.error ⟨400, "Некорректный формат телефона"⟩, t)
        else (.error ⟨409, "Телефон обновляется только через подтверждение в Telegram"⟩, t)
      else (.success, named true)
    | none => (.success, named false)
where
  named (clearsPhone : Bool) : StaffTables := t.changeUser userId fun user =>
    { user with
      firstName := OptionalText.writeName body.firstName user.firstName
      lastName := OptionalText.writeName body.lastName user.lastName
      middleName := OptionalText.writeName body.middleName user.middleName
      phone := if clearsPhone then none else user.phone }

inductive OwnRequest where
  | createEmployeeProfile (names : ProfileNames) (department : Option IdParam)
  | createClientProfile (names : ProfileNames) (refusal : Option Refusal)
  | createSupplierProfile (names : ProfileNames) (refusal : Option Refusal)
  | updateMyDepartment (department : Option IdParam)
  | updateMyActiveDepartment (department : Option IdParam)
  | chooseCurrentProfile (type : BodyField ProfileType)
  | patchMyProfile (body : PatchProfileBody)

/-- What `checkUserStatus` asks of a user. -/
def StaffTables.admits : Bool :=
  (t.user userId).any (fun user => user.profileStatus != .blocked)

def OwnRequest.handled : OwnRequest → AdminAnswer × StaffTables
  | .createEmployeeProfile names department =>
      LeaderProduct.createEmployeeProfile t userId names department
  | .createClientProfile names refusal =>
      LeaderProduct.createClientProfile t userId names refusal
  | .createSupplierProfile names refusal =>
      LeaderProduct.createSupplierProfile t userId names refusal
  | .updateMyDepartment department => LeaderProduct.updateMyDepartment t userId department
  | .updateMyActiveDepartment department =>
      LeaderProduct.updateMyActiveDepartment t userId department
  | .chooseCurrentProfile type => LeaderProduct.chooseCurrentProfile t userId type
  | .patchMyProfile body => LeaderProduct.patchMyProfile t userId body

/-- A request of the user for the own account. -/
def OwnRequest.answer (request : OwnRequest) : AdminAnswer × StaffTables :=
  if t.user userId = none then (.error ⟨404, "Пользователь не найден"⟩, t)
  else if t.admits userId then request.handled t userId
  else (.error ⟨403, "Доступ запрещен: учетная запись заблокирована"⟩, t)

end Own

end LeaderProduct
