import LeaderProduct.ManagedDepartments
import LeaderProduct.RoleChains

/-! What is left to an employee whom the moderation has rejected: the view of the profiles of
others and the appeals of the own department, through any requests of the user. -/
namespace LeaderProduct
open RowTable Transition

section Keyed

structure KeyedStaff where
  tables : StaffTables
  keys : tables.RoleKeys

variable {t : StaffTables}

theorem moderateEmployee_roles (action : Option ModerationAction) (param : IdParam) :
    (moderateEmployee t action param).2.roles = t.roles := by
  unfold moderateEmployee
  repeat' split
  all_goals rfl

def KeyedStaff.own (userId : Nat) (s : KeyedStaff) (request : OwnRequest) : KeyedStaff where
  tables := ownStep userId s.tables request
  keys := s.keys.of_roles (own_effect s.tables userId request).roles

def KeyedStaff.rejected (s : KeyedStaff) (userId : Nat) : KeyedStaff where
  tables := (moderateEmployee s.tables (some .reject) (.id userId)).2
  keys := s.keys.of_roles (moderateEmployee_roles _ _)

def StaffTables.withoutProfile (t : StaffTables) (userId : Nat) : StaffTables :=
  { t with employees := t.employees.filter (fun row => row.userId != userId) }

def KeyedStaff.withoutProfile (s : KeyedStaff) (userId : Nat) : KeyedStaff where
  tables := s.tables.withoutProfile userId
  keys := s.keys.of_roles rfl

theorem employee_withoutProfile (t : StaffTables) (userId : Nat) :
    (t.withoutProfile userId).employee userId = none := by
  simp [StaffTables.employee, StaffTables.withoutProfile]

end Keyed

section Views
variable (t : StaffTables)

def StaffTables.statusRefusal (userId : Nat) : Option Refusal :=
  if t.user userId = none then some ⟨404, "Пользователь не найден"⟩
  else if t.admits userId then none
  else some ⟨403, "Доступ запрещен: учетная запись заблокирована"⟩

def compactRoleName (name : String) : String :=
  String.ofList ((JsString.toLowerCase (JsString.trim name)).toList.filter fun c =>
    !(JsString.isSpace c || c == '_' || c == '-'))

def StaffTables.heldRoleName (userId : Nat) : String :=
  ((t.user userId).map (fun user => t.roleName user.roleId)).getD ""

def StaffTables.roleViews (userId : Nat) : Bool :=
  let roleName := compactRoleName (t.heldRoleName userId)
  let isAdmin := roleName == "admin" || roleName == "administrator"
  let isEmployeeRole := roleName == "employee" || roleName == "departmentmanager"
  isAdmin || isEmployeeRole

def StaffTables.hasDepartmentRole (userId : Nat) : Bool :=
  t.departmentRoles.any (fun row => row.userId == userId)

def StaffTables.currentProfileType (userId : Nat) : Option ProfileType :=
  (t.user userId).bind (·.currentProfileType)

def canViewForeignProfile (userId : Nat) : Bool :=
  t.roleViews userId || (t.employee userId).isSome || t.hasDepartmentRole userId ||
    t.currentProfileType userId == some .employee

/-- `GET /:userId/profile` of another user, as far as the profile is read. -/
def viewForeignProfile (requesterId : Nat) : Option Refusal :=
  match t.statusRefusal requesterId with
  | some refusal => some refusal
  | none =>
    if canViewForeignProfile t requesterId then none
    else some ⟨403, "Недостаточно прав для просмотра профиля"⟩

end Views

section Claims

structure ServiceRules where
  services : List ServiceRow
  userAccess : List (AccessRule Nat)
  roleAccess : List (AccessRule Nat)
  departmentAccess : List (AccessRule Nat)
  departmentRoleAccess : List (AccessRule DepartmentRoleRow)
  service_ids : (services.map (·.id)).Nodup
  service_keys : (services.map (·.key)).Nodup

variable (rules : ServiceRules) (s : KeyedStaff)

def StaffUser.accessName (user : StaffUser) : Option String :=
  let names := [user.firstName, user.lastName].filterMap fun name => name.filter (· ≠ "")
  ((some (JsString.trim (" ".intercalate names))).filter (· ≠ "")).or
    (user.email.filter (· ≠ ""))

def StaffTables.accessUser (t : StaffTables) (user : StaffUser) : AccessUser where
  fullName := user.accessName
  roleId := user.roleId
  currentProfileType := user.currentProfileType
  employeeProfile := (t.employee user.id).map fun row => ⟨row.departmentId, row.activeDepartmentId⟩
  departmentRoles := (t.departmentRoles.filter (fun row => row.userId == user.id)).map
    fun row => ⟨row.roleId, row.departmentId⟩

def KeyedStaff.access : AccessTables where
  roles := s.tables.roles
  users id := (truthy (some id)).bind fun id => (s.tables.user id).map s.tables.accessUser
  departments id := (s.tables.department id).map (·.name)
  services := rules.services
  userAccess := rules.userAccess
  roleAccess := rules.roleAccess
  departmentAccess := rules.departmentAccess
  departmentRoleAccess := rules.departmentRoleAccess
  role_ids := s.keys.ids
  role_names := s.keys.names
  service_ids := rules.service_ids
  service_keys := rules.service_keys
  no_user_zero := rfl

inductive ClaimAnswer where
  | taken
  | refused (refusal : Refusal)
  | service (answer : GuardAnswer)
  | permission (gate : PermissionGate)

def StaffTables.appeal (t : StaffTables) (id : Nat) : Option AppealRow :=
  t.appeals.find? (fun appeal => appeal.id == id)

def StaffTables.claimDepartment (t : StaffTables) (userId : Nat) : Option Nat :=
  truthy ((t.employee userId).bind (·.departmentId))

/-- `POST /:id/claim`, up to what it writes. -/
def claimAppeal (token : JwtPayload) (appealId : Nat) : ClaimAnswer :=
  match s.tables.statusRefusal token.userId with
  | some refusal => .refused refusal
  | none =>
    match authorizeServiceAccess (s.access rules) "appeals" token.userId with
    | .refused status message => .service (.refused status message)
    | .next =>
      match authorizePermissions s.tables ["view_appeal"] .all (some token) with
      | .unauthorized => .permission .unauthorized
      | .forbidden => .permission .forbidden
      | .next =>
        match s.tables.appeal appealId with
        | none => .refused ⟨404, "Обращение не найдено"⟩
        | some appeal =>
          if s.tables.claimDepartment token.userId = some appeal.toDepartmentId then .taken
          else .refused ⟨403, "Нет доступа к этому отделу"⟩

structure NoEmployeeStanding (userId : Nat) (s : KeyedStaff) : Prop where
  type : s.tables.currentProfileType userId ≠ some .employee
  role : s.tables.heldRoleName userId ≠ "employee"
  view : viewForeignProfile s.tables userId =
    viewForeignProfile (s.withoutProfile userId).tables userId
  claim : ∀ token : JwtPayload, token.userId = userId → ∀ appealId,
    claimAppeal rules s token appealId = claimAppeal rules (s.withoutProfile userId) token appealId

def StaffTables.otherGrounds (t : StaffTables) (userId : Nat) : Bool :=
  t.roleViews userId || t.hasDepartmentRole userId

def AdminClaims (userId : Nat) : Prop :=
  ∃ ctx, resolveUserAccessContext (s.access rules) userId = some ctx ∧ ctx.isAdmin = true ∧
    ∃ service ∈ rules.services, service.key = "appeals"

def StaffTables.Quiet (t : StaffTables) (departmentId : Nat) : Prop :=
  ∀ appealId appeal, t.appeal appealId = some appeal → appeal.toDepartmentId ≠ departmentId

def NothingToClaim (userId : Nat) : Prop :=
  AdminClaims rules s userId → ∀ departmentId,
    s.tables.claimDepartment userId = some departmentId → s.tables.Quiet departmentId

def Harmless (userId : Nat) (s : KeyedStaff) (request : OwnRequest) : Prop :=
  s.tables.admits userId = true →
    request ≠ .chooseCurrentProfile (.value .employee) ∧
      (AdminClaims rules s userId → ∀ departmentId,
        request.movesTo s.tables userId = some departmentId → departmentId ≠ 0 →
          s.tables.Quiet departmentId)

end Claims

section Gates
variable {rules : ServiceRules} {s : KeyedStaff} {userId : Nat}

theorem guard_of_other {a : AccessTables} {ctx : UserAccessContext} {serviceKey : String}
    (known : resolveUserAccessContext a userId = some ctx) (other : ctx.isEmployee = false) :
    authorizeServiceAccess a serviceKey userId =
      if a.services.any (fun service => service.key == serviceKey) then
        if ctx.isAdmin then .next else .refused 403 "Сервисы доступны только сотрудникам"
      else .refused 404 "Сервис не найден" := by
  have identified : userId ≠ 0 := by
    rintro rfl
    rw [resolveUserAccessContext, a.no_user_zero] at known
    cases known
  simp only [authorizeServiceAccess, if_neg identified, resolveServiceAccessForUser,
    explainServiceAccessForUser, known, Except.map]
  cases found : a.services.find? (fun service => service.key == serviceKey) with
  | none =>
    have missing : a.services.any (fun service => service.key == serviceKey) = false := by
      rw [List.find?_eq_none] at found
      rw [List.any_eq_false]
      exact found
    simp [missing]
  | some service =>
    have there : a.services.any (fun service => service.key == serviceKey) = true := by
      rw [List.any_eq_true]
      exact ⟨service, List.mem_of_find?_eq_some found, by simpa using List.find?_some found⟩
    rw [there]
    cases ctx.isAdmin <;> simp [other]

def leadsToAdmin (a : AccessTables) (roleId : Nat) : Bool :=
  (((a.role roleId).map (·.name)).filter (fun name => name ≠ "")).any fun name =>
    adminRoleNames.contains name ||
      (getRoleHierarchyByName a name).any adminRoleNames.contains

theorem access_users (identified : userId ≠ 0) :
    (s.access rules).users userId = (s.tables.user userId).map s.tables.accessUser := by
  have itself : truthy (some userId) = some userId := by
    rw [truthy, Option.filter_some, if_pos (by simpa using identified)]
  simp only [KeyedStaff.access, itself, Option.bind_some]

variable (rules s) in
theorem context_of_user {user : StaffUser} (identified : userId ≠ 0)
    (found : s.tables.user userId = some user) :
    ∃ ctx, resolveUserAccessContext (s.access rules) userId = some ctx ∧
      ctx.isAdmin = leadsToAdmin (s.access rules) user.roleId ∧
      ctx.isEmployee = decide (user.currentProfileType = some .employee) := by
  rw [resolveUserAccessContext, access_users identified, found]
  exact ⟨_, rfl, rfl, rfl⟩

theorem leadsToAdmin_congr {a b : AccessTables} (same : a.roles = b.roles) (roleId : Nat) :
    leadsToAdmin a roleId = leadsToAdmin b roleId := by
  have parents : parentRoleName a = parentRoleName b := by
    funext name
    simp only [parentRoleName, AccessTables.roleNamed, AccessTables.role, same]
  simp only [leadsToAdmin, AccessTables.role, getRoleHierarchyByName, AccessTables.climbRounds,
    parents, same]

theorem adminClaims_iff : AdminClaims rules s userId ↔
    userId ≠ 0 ∧ (∃ user, s.tables.user userId = some user ∧
      leadsToAdmin (s.access rules) user.roleId = true) ∧
      ∃ service ∈ rules.services, service.key = "appeals" := by
  constructor
  · rintro ⟨ctx, known, admin, service⟩
    have identified : userId ≠ 0 := by
      rintro rfl
      rw [resolveUserAccessContext, (s.access rules).no_user_zero] at known
      cases known
    cases found : s.tables.user userId with
    | none =>
      rw [resolveUserAccessContext, access_users identified, found] at known
      cases known
    | some user =>
      obtain ⟨ctx', known', same, _⟩ := context_of_user rules s identified found
      rw [known, Option.some.injEq] at known'
      subst known'
      exact ⟨identified, ⟨user, rfl, same ▸ admin⟩, service⟩
  · rintro ⟨identified, ⟨user, found, admin⟩, service⟩
    obtain ⟨ctx, known, same, _⟩ := context_of_user rules s identified found
    exact ⟨ctx, known, same.trans admin, service⟩

theorem authorizePermissions_admin (t : StaffTables) (required : List String)
    (mode : PermissionMode) (userId : Nat) :
    authorizePermissions t required mode (some ⟨userId, "admin"⟩) = .next := by
  have itself : "admin" ∈ t.getRoleHierarchyByName "admin" := by
    have named : (some "admin").filter (fun name : String => name ≠ "") = some "admin" := by decide
    rw [StaffTables.getRoleHierarchyByName, named, StaffTables.climbRounds, climb,
      if_neg List.not_mem_nil]
    exact subset_climb _ _ _ (List.mem_singleton_self _)
  have found : (t.getRoleHierarchyByName "admin").any adminRoleNames.contains = true := by
    rw [List.any_eq_true]
    exact ⟨"admin", itself, by decide⟩
  rw [authorizePermissions, if_pos found]

end Gates

section Standing
variable {rules : ServiceRules} {s : KeyedStaff} {userId : Nat}

theorem statusRefusal_eq_none {t : StaffTables} :
    t.statusRefusal userId = none ↔ t.admits userId = true := by
  unfold StaffTables.statusRefusal
  cases found : t.user userId with
  | none => simp [StaffTables.admits, found]
  | some user => simp

theorem view_same_iff {t : StaffTables} (employed : (t.employee userId).isSome = true)
    (type : t.currentProfileType userId ≠ some .employee) :
    viewForeignProfile t userId = viewForeignProfile (t.withoutProfile userId) userId ↔
      (t.admits userId = true → t.otherGrounds userId = true) := by
  have status : (t.withoutProfile userId).statusRefusal userId = t.statusRefusal userId := rfl
  have grounds : canViewForeignProfile (t.withoutProfile userId) userId =
      t.otherGrounds userId := by
    have other : ((t.withoutProfile userId).currentProfileType userId == some .employee) =
        false := by
      rw [beq_eq_false_iff_ne]
      exact type
    rw [canViewForeignProfile, other, employee_withoutProfile, Option.isSome_none, Bool.or_false,
      Bool.or_false]
    rfl
  have sees : canViewForeignProfile t userId = true := by
    simp [canViewForeignProfile, employed]
  unfold viewForeignProfile
  rw [status, sees, grounds]
  cases here : t.statusRefusal userId with
  | none => simp [statusRefusal_eq_none.mp here]
  | some refusal =>
    have shut : ¬ t.admits userId = true := by
      rw [← statusRefusal_eq_none, here]
      exact Option.some_ne_none refusal
    simp [shut]

section
variable (type : s.tables.currentProfileType userId ≠ some .employee)
include type

theorem guard_withoutProfile :
    authorizeServiceAccess ((s.withoutProfile userId).access rules) "appeals" userId =
      authorizeServiceAccess (s.access rules) "appeals" userId := by
  by_cases zero : userId = 0
  · rw [authorizeServiceAccess, authorizeServiceAccess, if_pos zero, if_pos zero]
  · cases found : s.tables.user userId with
    | none =>
      have unknown (s : KeyedStaff) (found : s.tables.user userId = none) :
          authorizeServiceAccess (s.access rules) "appeals" userId =
            .refused 500 "Ошибка проверки доступа к сервису" := by
        have known : resolveUserAccessContext (s.access rules) userId = none := by
          rw [resolveUserAccessContext, access_users zero, found]
          rfl
        rw [authorizeServiceAccess, if_neg zero, resolveServiceAccessForUser,
          explainServiceAccessForUser, known]
        rfl
      rw [unknown s found, unknown (s.withoutProfile userId) found]
    | some user =>
      have other : decide (user.currentProfileType = some .employee) = false := by
        simpa [StaffTables.currentProfileType, found] using type
      obtain ⟨ctx, known, admin, employee⟩ := context_of_user rules s zero found
      obtain ⟨ctx', known', admin', employee'⟩ :=
        context_of_user rules (s.withoutProfile userId) zero found
      have same : ctx'.isAdmin = ctx.isAdmin := by
        rw [admin, admin']
        exact leadsToAdmin_congr rfl _
      rw [guard_of_other known (employee.trans other),
        guard_of_other known' (employee'.trans other), same]
      rfl

theorem guard_next_of_other :
    authorizeServiceAccess (s.access rules) "appeals" userId = .next ↔
      AdminClaims rules s userId := by
  constructor
  · intro passed
    have identified : userId ≠ 0 := by
      rintro rfl
      cases passed
    cases found : s.tables.user userId with
    | none =>
      rw [authorizeServiceAccess, if_neg identified, resolveServiceAccessForUser,
        explainServiceAccessForUser, resolveUserAccessContext, access_users identified,
        found] at passed
      cases passed
    | some user =>
      have other : decide (user.currentProfileType = some .employee) = false := by
        simpa [StaffTables.currentProfileType, found] using type
      obtain ⟨ctx, known, admin, employee⟩ := context_of_user rules s identified found
      rw [guard_of_other known (employee.trans other)] at passed
      split at passed
      · next there =>
        split at passed
        · next isAdmin =>
          refine ⟨ctx, known, isAdmin, ?_⟩
          simpa [KeyedStaff.access] using there
        · cases passed
      · cases passed
  · rintro ⟨ctx, known, isAdmin, service, there, named⟩
    have listed : (s.access rules).services.any (fun service => service.key == "appeals") =
        true := by
      rw [List.any_eq_true]
      exact ⟨service, there, by simpa using named⟩
    obtain ⟨identified, ⟨user, found, _⟩, _⟩ :=
      adminClaims_iff.mp ⟨ctx, known, isAdmin, service, there, named⟩
    have other : decide (user.currentProfileType = some .employee) = false := by
      simpa [StaffTables.currentProfileType, found] using type
    obtain ⟨ctx', known', _, employee⟩ := context_of_user rules s identified found
    rw [known, Option.some.injEq] at known'
    subst known'
    rw [guard_of_other known (employee.trans other), if_pos listed, if_pos isAdmin]

theorem claim_same_iff :
    (∀ token : JwtPayload, token.userId = userId → ∀ appealId,
        claimAppeal rules s token appealId =
          claimAppeal rules (s.withoutProfile userId) token appealId) ↔
      (s.tables.admits userId = true → NothingToClaim rules s userId) := by
  have nowhere : (s.withoutProfile userId).tables.claimDepartment userId = none := by
    rw [StaffTables.claimDepartment, KeyedStaff.withoutProfile, employee_withoutProfile]
    rfl
  have status : (s.withoutProfile userId).tables.statusRefusal userId =
      s.tables.statusRefusal userId := rfl
  have permission (token : JwtPayload) :
      authorizePermissions (s.withoutProfile userId).tables ["view_appeal"] .all (some token) =
        authorizePermissions s.tables ["view_appeal"] .all (some token) := rfl
  have appeals : (s.withoutProfile userId).tables.appeal = s.tables.appeal := rfl
  constructor
  · intro same admitted admin departmentId works appealId appeal found mine
    have equal := same ⟨userId, "admin"⟩ rfl appealId
    simp [claimAppeal, statusRefusal_eq_none.mpr admitted, status,
      guard_withoutProfile type, (guard_next_of_other type).mpr admin, permission,
      authorizePermissions_admin, appeals, found, works, nowhere, mine] at equal
  · rintro nothing token rfl appealId
    unfold claimAppeal
    rw [status, guard_withoutProfile type, permission, appeals, nowhere]
    cases here : s.tables.statusRefusal token.userId with
    | some refusal => rfl
    | none =>
      dsimp only
      cases guard : authorizeServiceAccess (s.access rules) "appeals" token.userId with
      | refused status message => rfl
      | next =>
        dsimp only
        cases authorizePermissions s.tables ["view_appeal"] .all (some token) with
        | unauthorized => rfl
        | forbidden => rfl
        | next =>
          dsimp only
          cases found : s.tables.appeal appealId with
          | none => rfl
          | some appeal =>
            have quiet := nothing (statusRefusal_eq_none.mp here)
              ((guard_next_of_other type).mp guard)
            have apart : s.tables.claimDepartment token.userId ≠ some appeal.toDepartmentId := by
              intro mine
              exact quiet _ mine appealId appeal found rfl
            simp [apart]

end

variable (rules) in
theorem noEmployeeStanding_iff (employed : (s.tables.employee userId).isSome = true)
    (role : s.tables.heldRoleName userId ≠ "employee") :
    NoEmployeeStanding rules userId s ↔
      s.tables.currentProfileType userId ≠ some .employee ∧
        (s.tables.admits userId = true →
          s.tables.otherGrounds userId = true ∧ NothingToClaim rules s userId) := by
  constructor
  · intro law
    refine ⟨law.type, fun admitted => ⟨?_, ?_⟩⟩
    · exact (view_same_iff employed law.type).mp law.view admitted
    · exact (claim_same_iff law.type).mp law.claim admitted
  · rintro ⟨type, safe⟩
    exact ⟨type, role, (view_same_iff employed type).mpr fun admitted => (safe admitted).1,
      (claim_same_iff type).mpr fun admitted => (safe admitted).2⟩

end Standing

section Runs
variable {rules : ServiceRules} {s : KeyedStaff} {userId : Nat}

structure Dismissed (userId : Nat) (s : KeyedStaff) : Prop where
  known : (s.tables.user userId).isSome = true
  employed : (s.tables.employee userId).isSome = true
  role : s.tables.heldRoleName userId ≠ "employee"

variable (s userId) in
theorem map_standing_own (request : OwnRequest) :
    ((s.own userId request).tables.user userId).map StaffUser.standing =
      (s.tables.user userId).map StaffUser.standing :=
  (own_effect s.tables userId request).standing

theorem heldRoleName_own (request : OwnRequest) :
    (s.own userId request).tables.heldRoleName userId = s.tables.heldRoleName userId := by
  have named : (s.own userId request).tables.roleName = s.tables.roleName := by
    funext roleId
    have same := (own_effect s.tables userId request).roles
    simp only [StaffTables.roleName, StaffTables.role]
    rw [show (s.own userId request).tables.roles = s.tables.roles from same]
  have held (t : StaffTables) : t.heldRoleName userId =
      (((t.user userId).map StaffUser.standing).map fun standing => t.roleName standing.1).getD
        "" := by
    rw [Option.map_map]
    rfl
  rw [held, held, map_standing_own s userId, named]

theorem admits_own (request : OwnRequest) :
    (s.own userId request).tables.admits userId = s.tables.admits userId := by
  have asked (t : StaffTables) : t.admits userId =
      ((t.user userId).map StaffUser.standing).any fun standing => standing.2 != .blocked := by
    rw [Option.any_map]
    rfl
  rw [asked, asked, map_standing_own s userId]

theorem otherGrounds_own (request : OwnRequest) :
    (s.own userId request).tables.otherGrounds userId = s.tables.otherGrounds userId := by
  have roles := (own_effect s.tables userId request).departmentRoles
  simp only [StaffTables.otherGrounds, StaffTables.roleViews, StaffTables.hasDepartmentRole,
    heldRoleName_own]
  rw [show (s.own userId request).tables.departmentRoles = s.tables.departmentRoles from roles]

theorem adminClaims_own (request : OwnRequest) :
    AdminClaims rules (s.own userId request) userId ↔ AdminClaims rules s userId := by
  have leads (s : KeyedStaff) : (∃ user, s.tables.user userId = some user ∧
      leadsToAdmin (s.access rules) user.roleId = true) ↔
      ∃ standing, (s.tables.user userId).map StaffUser.standing = some standing ∧
        leadsToAdmin (s.access rules) standing.1 = true := by
    cases s.tables.user userId with
    | none => simp
    | some user => simp [StaffUser.standing]
  have chains (roleId : Nat) : leadsToAdmin ((s.own userId request).access rules) roleId =
      leadsToAdmin (s.access rules) roleId :=
    leadsToAdmin_congr (own_effect s.tables userId request).roles roleId
  rw [adminClaims_iff, adminClaims_iff, leads, leads, map_standing_own s userId]
  simp only [chains]

theorem Dismissed.own (dismissed : Dismissed userId s) (request : OwnRequest) :
    Dismissed userId (s.own userId request) where
  known := by
    have same := congrArg Option.isSome (map_standing_own s userId request)
    rw [Option.isSome_map, Option.isSome_map] at same
    exact same.trans dismissed.known
  employed := (own_effect s.tables userId request).employed dismissed.employed
  role := by
    rw [heldRoleName_own]
    exact dismissed.role

theorem takes_employee_iff (dismissed : Dismissed userId s)
    (admitted : s.tables.admits userId = true) (request : OwnRequest) :
    request.takes s.tables userId = some (some .employee) ↔
      request = .chooseCurrentProfile (.value .employee) := by
  obtain ⟨user, found⟩ := Option.isSome_iff_exists.mp dismissed.known
  have own : user.id = userId := by simpa using List.find?_some found
  have has : hasProfile s.tables user .employee = true := by
    rw [hasProfile, own]
    exact dismissed.employed
  cases request with
  | createEmployeeProfile names department =>
    have none_moves : OwnRequest.movesTo s.tables userId
        (.createEmployeeProfile names department) = none := by
      simp [OwnRequest.movesTo, Option.isSome_iff_ne_none.mp dismissed.employed]
    simp [OwnRequest.takes, none_moves]
  | createClientProfile names refusal => simp [OwnRequest.takes]
  | createSupplierProfile names refusal => simp [OwnRequest.takes]
  | updateMyDepartment department => simp [OwnRequest.takes]
  | updateMyActiveDepartment department => simp [OwnRequest.takes]
  | patchMyProfile body => simp [OwnRequest.takes]
  | chooseCurrentProfile type =>
    cases type with
    | undefined => simp [OwnRequest.takes]
    | unfit => simp [OwnRequest.takes]
    | null => simp [OwnRequest.takes]
    | value type =>
      cases type with
      | client => simp [OwnRequest.takes]
      | supplier => simp [OwnRequest.takes]
      | employee => simp [OwnRequest.takes, admitted, found, has]

theorem currentProfileType_own (dismissed : Dismissed userId s) (request : OwnRequest) :
    (s.own userId request).tables.currentProfileType userId =
      (request.takes s.tables userId).getD (s.tables.currentProfileType userId) := by
  have type := (own_effect s.tables userId request).type
  have joined (t : StaffTables) : t.currentProfileType userId =
      ((t.user userId).map (·.currentProfileType)).join := by
    cases found : t.user userId <;> simp [StaffTables.currentProfileType, found]
  obtain ⟨user, found⟩ := Option.isSome_iff_exists.mp dismissed.known
  rw [joined, show ((s.own userId request).tables.user userId).map (·.currentProfileType) = _ from
    type, found]
  simp [StaffTables.currentProfileType, found]

theorem claimDepartment_own (request : OwnRequest) :
    (s.own userId request).tables.claimDepartment userId =
      truthy ((request.movesTo s.tables userId).or
        ((s.tables.employee userId).bind (·.departmentId))) :=
  congrArg truthy (own_effect s.tables userId request).department

theorem quiet_own (request : OwnRequest) (departmentId : Nat) :
    (s.own userId request).tables.Quiet departmentId ↔ s.tables.Quiet departmentId := by
  have same : (s.own userId request).tables.appeals = s.tables.appeals :=
    (own_effect s.tables userId request).appeals
  simp only [StaffTables.Quiet, StaffTables.appeal, same]

theorem nothingToClaim_own_iff (nothing : NothingToClaim rules s userId) (request : OwnRequest) :
    NothingToClaim rules (s.own userId request) userId ↔
      (AdminClaims rules s userId → ∀ departmentId,
        request.movesTo s.tables userId = some departmentId → departmentId ≠ 0 →
          s.tables.Quiet departmentId) := by
  simp only [NothingToClaim, adminClaims_own, quiet_own, claimDepartment_own]
  refine imp_congr_right fun admin => ?_
  cases moves : request.movesTo s.tables userId with
  | none =>
    rw [Option.none_or]
    exact iff_of_true (nothing admin) nofun
  | some target =>
    rw [Option.some_or]
    constructor
    · rintro quiet departmentId same positive
      cases same
      exact quiet target (by simp [truthy, Option.filter_some, positive])
    · intro quiet departmentId same
      rw [truthy, Option.filter_some] at same
      split at same
      · next positive =>
        cases same
        exact quiet target rfl (by simpa using positive)
      · cases same

theorem noStanding_own_iff (dismissed : Dismissed userId s)
    (law : NoEmployeeStanding rules userId s) (request : OwnRequest) :
    NoEmployeeStanding rules userId (s.own userId request) ↔ Harmless rules userId s request := by
  rw [noEmployeeStanding_iff rules dismissed.employed dismissed.role] at law
  have next := dismissed.own request
  rw [noEmployeeStanding_iff rules next.employed next.role, currentProfileType_own dismissed,
    admits_own, otherGrounds_own, Harmless]
  cases admitted : s.tables.admits userId with
  | false =>
    have nothing_taken : request.takes s.tables userId = none := by
      simp [OwnRequest.takes, admitted]
    rw [nothing_taken, Option.getD_none]
    exact iff_of_true ⟨law.1, fun shut => absurd shut Bool.false_ne_true⟩ fun shut =>
      absurd shut Bool.false_ne_true
  | true =>
    obtain ⟨grounds, nothing⟩ := law.2 admitted
    have chosen : (request.takes s.tables userId).getD (s.tables.currentProfileType userId) ≠
        some .employee ↔ request ≠ .chooseCurrentProfile (.value .employee) := by
      rw [ne_eq, ne_eq, ← takes_employee_iff dismissed admitted request]
      cases request.takes s.tables userId with
      | none => simpa using law.1
      | some type => simp
    rw [chosen, nothingToClaim_own_iff nothing]
    simp [grounds]

theorem rejected_user {t : StaffTables}
    (rejected : (moderateEmployee t (some .reject) (.id userId)).1 = .success) :
    ∃ user roleId, t.user userId = some user ∧ (t.employee userId).isSome = true ∧
      moderatedRole t .reject (t.role user.roleId) user.roleId = .ok roleId ∧
      (moderateEmployee t (some .reject) (.id userId)).2 =
        (t.changeEmployee userId fun row => { row with status := .blocked }).changeUser userId
          fun user =>
            { user with
              roleId := roleId
              currentProfileType := ModerationAction.reject.profileType user.currentProfileType } := by
  cases found : t.user userId with
  | none => simp [moderateEmployee, found] at rejected
  | some user =>
    by_cases absent : t.employee userId = none
    · simp [moderateEmployee, found, absent] at rejected
    · cases given : moderatedRole t .reject (t.role user.roleId) user.roleId with
      | error refusal => simp [moderateEmployee, found, absent, given] at rejected
      | ok roleId =>
        refine ⟨user, roleId, rfl, Option.isSome_iff_ne_none.mpr absent, given, ?_⟩
        simp [moderateEmployee, found, absent, given, ModerationAction.status]

theorem moderatedRole_reject {t : StaffTables} (keys : t.RoleKeys) {held roleId : Nat}
    (given : moderatedRole t .reject (t.role held) held = .ok roleId) :
    t.roleName roleId ≠ "employee" := by
  simp only [moderatedRole] at given
  split at given
  · cases named : t.roleNamed "user" with
    | none => simp [named] at given
    | some role =>
      simp only [named, Except.ok.injEq] at given
      obtain ⟨known, own⟩ := StaffTables.roleNamed_mem named
      rw [StaffTables.roleName, ← given, StaffTables.role_of_mem keys known, Option.map_some,
        Option.getD_some, own]
      decide
  · next other =>
    cases given
    rw [StaffTables.roleName]
    intro same
    cases found : t.role held with
    | none => simp [found] at same
    | some role => exact other (by simpa [found] using same)

theorem dismissed_of_rejected
    (rejected : (moderateEmployee s.tables (some .reject) (.id userId)).1 = .success) :
    Dismissed userId (s.rejected userId) ∧
      (s.rejected userId).tables.currentProfileType userId ≠ some .employee := by
  obtain ⟨user, roleId, found, employed, given, after⟩ := rejected_user rejected
  have now : (s.rejected userId).tables.user userId = some { user with
      roleId := roleId
      currentProfileType := ModerationAction.reject.profileType user.currentProfileType } := by
    rw [show (s.rejected userId).tables = _ from after]
    have old : (s.tables.changeEmployee userId fun row => { row with status := .blocked }).user
        userId = some user := found
    rw [user_changeUser, old]
    · rfl
    · exact fun _ => rfl
  have works : (s.rejected userId).tables.employee userId =
      (s.tables.employee userId).map fun row => { row with status := .blocked } := by
    rw [show (s.rejected userId).tables = _ from after]
    exact employee_changeEmployee fun _ => rfl
  constructor
  · constructor
    · rw [now]
      rfl
    · rw [works, Option.isSome_map]
      exact employed
    · have named : (s.rejected userId).tables.roleName = s.tables.roleName := by
        funext id
        rw [StaffTables.roleName, StaffTables.roleName, StaffTables.role, StaffTables.role,
          KeyedStaff.rejected, moderateEmployee_roles]
      rw [StaffTables.heldRoleName, now, Option.map_some, Option.getD_some, named]
      exact moderatedRole_reject s.keys given
  · rw [StaffTables.currentProfileType, now, Option.bind_some]
    simp only [ModerationAction.profileType]
    split
    · exact (Option.some_ne_none _).symm
    · assumption

/-- After a rejection nothing of an employee comes back exactly when a user who is not blocked
has other grounds to view profiles, may not claim for an administrator's role, and neither takes
the profile type EMPLOYEE nor moves to where such a claim is possible. -/
theorem rejected_keeps_no_standing_iff (rules : ServiceRules) (s : KeyedStaff) (userId : Nat)
    (requests : List OwnRequest)
    (rejected : (moderateEmployee s.tables (some .reject) (.id userId)).1 = .success) :
    Always (KeyedStaff.own userId) (NoEmployeeStanding rules userId) (s.rejected userId) requests ↔
      ((s.rejected userId).tables.admits userId = true →
        (s.rejected userId).tables.otherGrounds userId = true ∧
          NothingToClaim rules (s.rejected userId) userId) ∧
      EachStep (KeyedStaff.own userId) (Harmless rules userId) (s.rejected userId) requests := by
  obtain ⟨dismissed, type⟩ := dismissed_of_rejected rejected
  have first := noEmployeeStanding_iff rules dismissed.employed dismissed.role
  have run (law : NoEmployeeStanding rules userId (s.rejected userId)) :
      Always (KeyedStaff.own userId) (NoEmployeeStanding rules userId) (s.rejected userId)
        requests ↔
        EachStep (KeyedStaff.own userId) (Harmless rules userId) (s.rejected userId) requests :=
    always_iff_eachStep_of_inv (J := Dismissed userId)
      (fun _ request dismissed => dismissed.own request)
      (fun _ request dismissed law => noStanding_own_iff dismissed law request) dismissed law
      requests
  constructor
  · intro all
    exact ⟨(first.mp all.first).2, (run all.first).mp all⟩
  · rintro ⟨safe, harmless⟩
    exact (run (first.mpr ⟨type, safe⟩)).mpr harmless

def applicantTables : StaffTables where
  users := [⟨7, none, none, none, none, none, .active, 1, some .employee, false, false⟩]
  employees := [⟨7, some 4, some 4, .pending, none, none⟩]
  roles := [⟨1, "user", none, none⟩]
  permissions := []
  rolePermissions := []
  departments := [⟨4, "Продажи"⟩]
  departmentRoles := []
  appeals := []

def applicant : KeyedStaff where
  tables := applicantTables
  keys := ⟨by decide, by decide, by decide, by decide⟩

def noServices : ServiceRules where
  services := []
  userAccess := []
  roleAccess := []
  departmentAccess := []
  departmentRoleAccess := []
  service_ids := by decide
  service_keys := by decide

def comeback : List OwnRequest :=
  [.updateMyActiveDepartment (some (.id 4)), .chooseCurrentProfile (.value .employee)]

theorem applicant_standing :
    (Always (KeyedStaff.own 7) (NoEmployeeStanding noServices 7) (applicant.rejected 7) comeback ↔
      ((applicant.rejected 7).tables.admits 7 = true →
        (applicant.rejected 7).tables.otherGrounds 7 = true ∧
          NothingToClaim noServices (applicant.rejected 7) 7) ∧
      EachStep (KeyedStaff.own 7) (Harmless noServices 7) (applicant.rejected 7) comeback) :=
  rejected_keeps_no_standing_iff noServices applicant 7 comeback (by decide)

/-- The rejected user takes the profile type EMPLOYEE again. -/
theorem rejected_employee_returns :
    (moderateEmployee applicant.tables (some .reject) (.id 7)).1 = .success ∧
      ¬ Always (KeyedStaff.own 7) (NoEmployeeStanding noServices 7) (applicant.rejected 7)
        [.chooseCurrentProfile (.value .employee)] := by
  refine ⟨by decide, fun law => ?_⟩
  have never := law.last.type
  revert never
  decide

end Runs

end LeaderProduct
