import Mathlib.Data.List.Basic
import LeaderProduct.Accounts
import LeaderProduct.ServiceAccess

/-! The tables of users, roles, departments and appeals as far as their administration changes
them, and the values that its requests carry. -/
namespace LeaderProduct

section Tables

structure StaffUser where
  id : Nat
  email : Option String
  phone : Option Nat
  firstName : Option String
  lastName : Option String
  middleName : Option String
  profileStatus : ProfileStatus
  roleId : Nat
  currentProfileType : Option ProfileType
  hasClientProfile : Bool
  hasSupplierProfile : Bool
  deriving DecidableEq, Repr

structure EmployeeRow where
  userId : Nat
  departmentId : Option Nat
  activeDepartmentId : Option Nat
  status : ProfileStatus
  onecUserGuid : Option String
  onecPhysicalPersonGuid : Option String
  deriving DecidableEq, Repr

structure PermissionRow where
  id : Nat
  name : String
  deriving DecidableEq, Repr

structure RolePermission where
  roleId : Nat
  permissionId : Nat
  deriving DecidableEq, Repr

structure DepartmentRow where
  id : Nat
  name : String
  deriving DecidableEq, Repr

structure UserDepartmentRole where
  userId : Nat
  roleId : Nat
  departmentId : Nat
  deriving DecidableEq, Repr

structure AppealRow where
  id : Nat
  fromDepartmentId : Option Nat
  toDepartmentId : Nat
  deriving DecidableEq, Repr

structure StaffTables where
  users : List StaffUser
  employees : List EmployeeRow
  roles : List RoleRow
  permissions : List PermissionRow
  rolePermissions : List RolePermission
  departments : List DepartmentRow
  departmentRoles : List UserDepartmentRole
  appeals : List AppealRow
  deriving DecidableEq, Repr

variable (t : StaffTables)

def StaffTables.user (id : Nat) : Option StaffUser := t.users.find? (fun user => user.id == id)

def StaffTables.employee (userId : Nat) : Option EmployeeRow :=
  t.employees.find? (fun employee => employee.userId == userId)

def StaffTables.role (id : Nat) : Option RoleRow := t.roles.find? (fun role => role.id == id)

def StaffTables.roleNamed (name : String) : Option RoleRow :=
  t.roles.find? (fun role => role.name == name)

def StaffTables.department (id : Nat) : Option DepartmentRow :=
  t.departments.find? (fun department => department.id == id)

def StaffTables.permissionNamed (name : String) : Option PermissionRow :=
  t.permissions.find? (fun permission => permission.name == name)

structure StaffTables.RoleKeys : Prop where
  ids : (t.roles.map (·.id)).Nodup
  names : (t.roles.map (·.name)).Nodup
  positive : ∀ role ∈ t.roles, role.id ≠ 0
  named : ∀ role ∈ t.roles, role.name ≠ ""

structure StaffTables.ForeignKeys : Prop where
  rolePermission : ∀ row ∈ t.rolePermissions, row.roleId ∈ t.roles.map (·.id)
  departmentRole : ∀ row ∈ t.departmentRoles, row.departmentId ∈ t.departments.map (·.id)
  employee : ∀ row ∈ t.employees, ∀ id, row.departmentId = some id → id ∈ t.departments.map (·.id)
  active : ∀ row ∈ t.employees, ∀ id, row.activeDepartmentId = some id →
    id ∈ t.departments.map (·.id)

end Tables

section Values

inductive IdParam where
  | nan
  | unfit
  | id (id : Nat)
  deriving DecidableEq, Repr

inductive BodyField (α : Type) where
  | undefined
  | null
  | value (a : α)
  | unfit
  deriving DecidableEq, Repr

namespace BodyField
variable {α : Type}

def given : BodyField α → Bool
  | undefined => false
  | _ => true

def write (old : Option α) : BodyField α → Option α
  | value a => some a
  | null => none
  | _ => old

def fits : BodyField α → Bool
  | unfit => false
  | _ => true

end BodyField

inductive BodyText where
  | missing
  | text (text : String)
  | other

structure Refusal where
  status : Nat
  message : String
  deriving DecidableEq, Repr

inductive AdminAnswer where
  | success
  | error (refusal : Refusal)
  deriving DecidableEq, Repr

def AdminAnswer.isError : AdminAnswer → Bool
  | .success => false
  | .error _ => true

def isHexDigit (c : Char) : Bool :=
  c.isDigit || ('a' ≤ c && c ≤ 'f') || ('A' ≤ c && c ≤ 'F')

def guid1cRe (text : String) : Bool :=
  let groups := text.toList.splitOn '-'
  groups.map List.length == [8, 4, 4, 4, 12] && groups.all (fun group => group.all isHexDigit)

abbrev OptionalText := Option (Option String)

def normalizeOptionalOnecGuid (value : OptionalText) : OptionalText :=
  value.map fun given => given.bind fun raw =>
    let text := JsString.toLowerCase (JsString.trim raw)
    if text = "" then none else some text

def isValidOnecGuid : OptionalText → Bool
  | some (some text) => guid1cRe text
  | _ => true

def systemRoleNames : List String := ["user", "employee", "department_manager", "admin"]

end Values

end LeaderProduct
