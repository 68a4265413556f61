import Mathlib.Data.List.Dedup

/-! Access to the services: the rules of a user, a department, a role and a role in a
department, the guard of one service and the menu of all of them. -/
namespace LeaderProduct

section Rows

structure RoleRow where
  id : Nat
  name : String
  displayName : Option String
  parentRoleId : Option Nat
  deriving DecidableEq, Repr

inductive ProfileType where
  | client | supplier | employee
  deriving DecidableEq, Repr

structure EmployeeProfile where
  departmentId : Option Nat
  activeDepartmentId : Option Nat

structure DepartmentRoleRow where
  roleId : Nat
  departmentId : Nat
  deriving DecidableEq, Repr

structure AccessUser where
  fullName : Option String
  roleId : Nat
  currentProfileType : Option ProfileType
  employeeProfile : Option EmployeeProfile
  departmentRoles : List DepartmentRoleRow

structure ServiceRow where
  id : Nat
  key : String
  name : String
  isActive : Bool
  defaultVisible : Bool
  defaultEnabled : Bool
  deriving DecidableEq, Repr

structure AccessRule (σ : Type) where
  id : Nat
  serviceId : Nat
  subject : σ
  visible : Option Bool
  enabled : Option Bool

structure AccessTables where
  roles : List RoleRow
  users : Nat → Option AccessUser
  departments : Nat → Option String
  services : List ServiceRow
  userAccess : List (AccessRule Nat)
  roleAccess : List (AccessRule Nat)
  departmentAccess : List (AccessRule Nat)
  departmentRoleAccess : List (AccessRule DepartmentRoleRow)
  role_ids : (roles.map (·.id)).Nodup
  role_names : (roles.map (·.name)).Nodup
  service_ids : (services.map (·.id)).Nodup
  service_keys : (services.map (·.key)).Nodup
  no_user_zero : users 0 = none

end Rows

section Context
variable (t : AccessTables)

/-- An id that JavaScript takes for true. -/
def truthy (id : Option Nat) : Option Nat := id.filter (fun n => n ≠ 0)

def AccessTables.role (id : Nat) : Option RoleRow := t.roles.find? (fun role => role.id == id)

def AccessTables.roleNamed (name : String) : Option RoleRow :=
  t.roles.find? (fun role => role.name == name)

def climb {κ : Type} [DecidableEq κ] (parent : κ → Option κ) :
    Nat → Option κ → List κ → List κ
  | 0, _, visited => visited
  | _ + 1, none, visited => visited
  | fuel + 1, some current, visited =>
    if current ∈ visited then visited
    else climb parent fuel (parent current) (visited ++ [current])

/-- Every round but the last visits another row of the table, or what none of them has. -/
def AccessTables.climbRounds : Nat := t.roles.length + 2

def parentRoleName (name : String) : Option String :=
  (((t.roleNamed name).bind (·.parentRoleId)).bind (fun id =>
    (t.role id).map (·.name))).filter (fun name => name ≠ "")

def getRoleHierarchyByName (roleName : String) : List String :=
  climb (parentRoleName t) t.climbRounds ((some roleName).filter (fun name => name ≠ "")) []

structure ChainEntry where
  roleId : Nat
  distance : Nat

def parentRole (id : Nat) : Option Nat := truthy ((t.role id).bind (·.parentRoleId))

def collectRoleChain (roleId : Nat) : List ChainEntry :=
  (climb (parentRole t) t.climbRounds (truthy (some roleId)) []).zipIdx.map (fun entry =>
    ⟨entry.1, entry.2⟩)

inductive RoleSource where
  | primaryRole | departmentRole
  deriving DecidableEq, Repr

structure RoleAssignment where
  roleId : Nat
  roleName : Option String
  distance : Nat
  source : RoleSource
  sourceDepartmentId : Option Nat
  deriving DecidableEq, Repr

structure UserAccessContext where
  userId : Nat
  roleName : Option String
  currentProfileType : Option ProfileType
  activeDepartmentId : Option Nat
  roleAssignments : List RoleAssignment
  departmentIds : List Nat
  isEmployee : Bool
  isAdmin : Bool
  deriving DecidableEq, Repr

def adminRoleNames : List String := ["admin", "administrator"]

def UserAccessContext.roleIds (ctx : UserAccessContext) : List Nat :=
  ctx.roleAssignments.map (·.roleId)

def UserAccessContext.roleDistance (ctx : UserAccessContext) (roleId : Nat) : Option Nat :=
  ((ctx.roleAssignments.filter (fun assignment => assignment.roleId == roleId)).map
    (·.distance)).min?

def effectiveDepartmentIds (user : AccessUser) (primary active : Option Nat) : List Nat :=
  match truthy active with
  | some active => [active]
  | none => (truthy primary).toList ++
      (user.departmentRoles.map (·.departmentId)).filter (fun id => id ≠ 0)

def assignmentsOf (source : RoleSource) (roleName : Option String) (departmentId : Option Nat)
    (roleId : Nat) : List RoleAssignment :=
  (collectRoleChain t roleId).map (fun entry =>
    ⟨entry.roleId, roleName, entry.distance, source, departmentId⟩)

/-- The context, or `none` when the user is unknown. -/
def resolveUserAccessContext (userId : Nat) : Option UserAccessContext :=
  (t.users userId).map (fun user =>
    let roleName := (t.role user.roleId).map (·.name)
    let primary := user.employeeProfile.bind (·.departmentId)
    let active := (user.employeeProfile.bind (·.activeDepartmentId)).or primary
    let relevant : List DepartmentRoleRow :=
      match truthy active with
      | some active => user.departmentRoles.filter (fun row => row.departmentId == active)
      | none => user.departmentRoles
    { userId := userId
      roleName := roleName
      currentProfileType := user.currentProfileType
      activeDepartmentId := active
      roleAssignments :=
        (truthy (some user.roleId)).elim [] (assignmentsOf t .primaryRole roleName none) ++
          relevant.flatMap (fun row =>
            assignmentsOf t .departmentRole none (some row.departmentId) row.roleId)
      departmentIds := effectiveDepartmentIds user primary active
      isEmployee := decide (user.currentProfileType = some .employee)
      isAdmin := (roleName.filter (fun name => name ≠ "")).any (fun name =>
        adminRoleNames.contains name ||
          (getRoleHierarchyByName t name).any adminRoleNames.contains) })

end Context

section Decision

def maxSafeInteger : Nat := 9007199254740991

inductive RuleField where
  | visible | enabled

structure UserRuleMatch where
  id : Nat
  userId : Nat
  userName : Option String
  visible : Option Bool
  enabled : Option Bool

structure RoleRuleMatch where
  id : Nat
  roleId : Nat
  roleName : Option String
  roleDisplayName : Option String
  visible : Option Bool
  enabled : Option Bool
  distance : Nat

structure DepartmentRuleMatch where
  id : Nat
  departmentId : Nat
  departmentName : Option String
  visible : Option Bool
  enabled : Option Bool

structure DepartmentRoleRuleMatch where
  id : Nat
  departmentId : Nat
  departmentName : Option String
  roleId : Nat
  roleName : Option String
  roleDisplayName : Option String
  visible : Option Bool
  enabled : Option Bool
  distance : Nat

def RuleField.pick (field : RuleField) (visible enabled : Option Bool) : Option Bool :=
  match field with
  | .visible => visible
  | .enabled => enabled

inductive DecisionOrigin where
  | default | explicit
  deriving DecidableEq, Repr

structure LayerDecision (ρ : Type) where
  value : Bool
  origin : DecisionOrigin
  matchedRules : List ρ

section Layers
variable {ρ : Type} (flag : ρ → Option Bool) (distance : ρ → Nat) (base : Bool) (rules : List ρ)

def evaluateField : LayerDecision ρ :=
  let explicitRules := rules.filter (fun rule => (flag rule).isSome)
  if explicitRules.isEmpty then ⟨base, .default, []⟩
  else if explicitRules.any (fun rule => flag rule == some false) then
    ⟨false, .explicit, explicitRules.filter (fun rule => flag rule == some false)⟩
  else ⟨true, .explicit, explicitRules.filter (fun rule => flag rule == some true)⟩

def minDistance : Nat :=
  rules.foldl (fun value rule => min value (distance rule)) maxSafeInteger

def nearestRules : List ρ :=
  rules.filter (fun rule => distance rule == minDistance distance rules)

def evaluateNearestField : LayerDecision ρ :=
  let explicitRules := rules.filter (fun rule => (flag rule).isSome)
  if explicitRules.isEmpty then ⟨base, .default, []⟩
  else if (nearestRules distance explicitRules).any (fun rule => flag rule == some false) then
    ⟨false, .explicit,
      (nearestRules distance explicitRules).filter (fun rule => flag rule == some false)⟩
  else
    ⟨true, .explicit,
      (nearestRules distance explicitRules).filter (fun rule => flag rule == some true)⟩

end Layers

variable (base : Bool) (field : RuleField)

def evaluateUserField (rules : List UserRuleMatch) : LayerDecision UserRuleMatch :=
  evaluateField (fun rule => field.pick rule.visible rule.enabled) base rules

def evaluateDepartmentField (rules : List DepartmentRuleMatch) :
    LayerDecision DepartmentRuleMatch :=
  evaluateField (fun rule => field.pick rule.visible rule.enabled) base rules

def evaluateRoleField (rules : List RoleRuleMatch) : LayerDecision RoleRuleMatch :=
  evaluateNearestField (fun rule => field.pick rule.visible rule.enabled) (·.distance) base rules

def evaluateDepartmentRoleField (rules : List DepartmentRoleRuleMatch) :
    LayerDecision DepartmentRoleRuleMatch :=
  evaluateNearestField (fun rule => field.pick rule.visible rule.enabled) (·.distance) base rules

inductive DecisionSource where
  | default | role | department | departmentRole | user

structure ResolvedFieldDecision where
  value : Bool
  source : DecisionSource

def resolveFinalField (userDecision : LayerDecision UserRuleMatch)
    (departmentRoleDecision : LayerDecision DepartmentRoleRuleMatch)
    (departmentDecision : LayerDecision DepartmentRuleMatch)
    (roleDecision : LayerDecision RoleRuleMatch) : ResolvedFieldDecision :=
  if userDecision.origin = .explicit then ⟨userDecision.value, .user⟩
  else if departmentRoleDecision.origin = .explicit then
    ⟨departmentRoleDecision.value, .departmentRole⟩
  else if departmentDecision.origin = .explicit then ⟨departmentDecision.value, .department⟩
  else if roleDecision.origin = .explicit then ⟨roleDecision.value, .role⟩
  else ⟨base, .default⟩

structure RuleMatches where
  userRules : List UserRuleMatch
  departmentRoleRules : List DepartmentRoleRuleMatch
  roleRules : List RoleRuleMatch
  departmentRules : List DepartmentRuleMatch

def finalField (rules : RuleMatches) : ResolvedFieldDecision :=
  resolveFinalField base (evaluateUserField base field rules.userRules)
    (evaluateDepartmentRoleField base field rules.departmentRoleRules)
    (evaluateDepartmentField base field rules.departmentRules)
    (evaluateRoleField base field rules.roleRules)

structure ServiceAccessDecision where
  visible : Bool
  enabled : Bool
  finalVisible : ResolvedFieldDecision
  finalEnabled : ResolvedFieldDecision

/-- The decisions of the single layers, which only the diagnosis shows, are left out. -/
def applyRuleFlags (baseVisible baseEnabled : Bool) (rules : RuleMatches) :
    ServiceAccessDecision :=
  let finalVisible := finalField baseVisible .visible rules
  let rawEnabled := finalField baseEnabled .enabled rules
  { visible := finalVisible.value
    enabled := if finalVisible.value then rawEnabled.value else false
    finalVisible := finalVisible
    finalEnabled := if finalVisible.value then rawEnabled else ⟨false, rawEnabled.source⟩ }

end Decision

section Access
variable (t : AccessTables) (ctx : UserAccessContext) (service : ServiceRow)

def rulesFor {σ : Type} (rules : List (AccessRule σ)) (picked : σ → Bool) :
    List (AccessRule σ) :=
  rules.filter (fun rule => rule.serviceId == service.id && picked rule.subject)

def departmentRoleDistance (rule : DepartmentRoleRow) : Option Nat :=
  ((ctx.roleAssignments.filter (fun assignment =>
    assignment.roleId == rule.roleId &&
      match assignment.source with
      | .primaryRole => ctx.departmentIds.contains rule.departmentId
      | .departmentRole => assignment.sourceDepartmentId == some rule.departmentId)).map
    (·.distance)).min?

def matchedDepartmentRoles : List (AccessRule DepartmentRoleRow × Nat) :=
  (rulesFor service t.departmentRoleAccess (fun subject =>
    ctx.departmentIds.contains subject.departmentId && ctx.roleIds.contains subject.roleId)).filterMap
    (fun rule =>
      (departmentRoleDistance ctx rule.subject).map (fun distance =>
        (rule, min maxSafeInteger distance)))

section Matches
variable (described : Bool)

def userRuleMatch (rule : AccessRule Nat) : UserRuleMatch where
  id := rule.id
  userId := rule.subject
  userName := if described then (t.users rule.subject).bind (·.fullName) else none
  visible := rule.visible
  enabled := rule.enabled

def roleRuleMatch (rule : AccessRule Nat) : RoleRuleMatch where
  id := rule.id
  roleId := rule.subject
  roleName := if described then (t.role rule.subject).map (·.name) else none
  roleDisplayName := if described then (t.role rule.subject).bind (·.displayName) else none
  visible := rule.visible
  enabled := rule.enabled
  distance := (ctx.roleDistance rule.subject).getD maxSafeInteger

def departmentRuleMatch (rule : AccessRule Nat) : DepartmentRuleMatch where
  id := rule.id
  departmentId := rule.subject
  departmentName := if described then t.departments rule.subject else none
  visible := rule.visible
  enabled := rule.enabled

def departmentRoleRuleMatch (matched : AccessRule DepartmentRoleRow × Nat) :
    DepartmentRoleRuleMatch where
  id := matched.1.id
  departmentId := matched.1.subject.departmentId
  departmentName := if described then t.departments matched.1.subject.departmentId else none
  roleId := matched.1.subject.roleId
  roleName := if described then (t.role matched.1.subject.roleId).map (·.name) else none
  roleDisplayName :=
    if described then (t.role matched.1.subject.roleId).bind (·.displayName) else none
  visible := matched.1.visible
  enabled := matched.1.enabled
  distance := matched.2

def mapMatchedDepartmentRoleRules : List DepartmentRoleRuleMatch :=
  (matchedDepartmentRoles t ctx service).map (departmentRoleRuleMatch t described)

def matchRules : RuleMatches where
  userRules :=
    (rulesFor service t.userAccess (fun userId => userId == ctx.userId)).map
      (userRuleMatch t described)
  departmentRoleRules := mapMatchedDepartmentRoleRules t ctx service described
  roleRules :=
    (rulesFor service t.roleAccess ctx.roleIds.contains).map (roleRuleMatch t ctx described)
  departmentRules :=
    (rulesFor service t.departmentAccess ctx.departmentIds.contains).map
      (departmentRuleMatch t described)

end Matches

def decideService (described : Bool) : ServiceAccessDecision :=
  applyRuleFlags (service.isActive && service.defaultVisible)
    (service.isActive && service.defaultEnabled) (matchRules t ctx service described)

inductive ReasonCode where
  | notEmployeeProfile | serviceInactive | serviceHidden | serviceDisabled

def buildReasonCodes (isEmployee isAdmin serviceIsActive visible enabled : Bool) :
    List ReasonCode :=
  if isAdmin then []
  else if !isEmployee then [.notEmployeeProfile]
  else
    (if serviceIsActive then [] else [.serviceInactive]) ++
      (if visible then [] else [.serviceHidden]) ++
      (if visible && !enabled then [.serviceDisabled] else [])

structure ServiceAccess where
  visible : Bool
  enabled : Bool
  isEmployee : Bool
  isAdmin : Bool
  reasonCodes : List ReasonCode

/-- `ok none` for a service that there is not; the error is an unknown user. -/
def explainServiceAccessForUser (userId : Nat) (serviceKey : String) :
    Except String (Option ServiceAccess) :=
  match resolveUserAccessContext t userId with
  | none => .error "User not found"
  | some ctx =>
    .ok ((t.services.find? (fun service => service.key == serviceKey)).map (fun service =>
      if ctx.isAdmin then ⟨true, true, true, true, []⟩
      else
        let decision := decideService t ctx service true
        let visible := ctx.isEmployee && decision.visible
        let enabled := ctx.isEmployee && decision.enabled
        ⟨visible, enabled, ctx.isEmployee, false,
          buildReasonCodes ctx.isEmployee false service.isActive visible enabled⟩))

structure ResolvedAccess where
  visible : Bool
  enabled : Bool
  isEmployee : Bool

def resolveServiceAccessForUser (userId : Nat) (serviceKey : String) :
    Except String (Option ResolvedAccess) :=
  (explainServiceAccessForUser t userId serviceKey).map (fun explanation =>
    explanation.map (fun access =>
      if access.isAdmin then ⟨true, true, true⟩
      else if !access.isEmployee then ⟨false, false, false⟩
      else ⟨access.visible, access.enabled, true⟩))

inductive GuardAnswer where
  | next
  | refused (status : Nat) (message : String)
  deriving DecidableEq, Repr

def authorizeServiceAccess (serviceKey : String) (userId : Nat) : GuardAnswer :=
  if userId = 0 then .refused 401 "Не авторизован"
  else
    match resolveServiceAccessForUser t userId serviceKey with
    | .error _ => .refused 500 "Ошибка проверки доступа к сервису"
    | .ok none => .refused 404 "Сервис не найден"
    | .ok (some access) =>
      if !access.isEmployee then .refused 403 "Сервисы доступны только сотрудникам"
      else if !access.visible || !access.enabled then .refused 403 "Доступ к сервису запрещён"
      else .next

structure ServiceAccessView where
  id : Nat
  key : String
  name : String
  visible : Bool
  enabled : Bool

structure ServiceList where
  services : List ServiceAccessView
  isEmployee : Bool

def listServicesForUser (userId : Nat) : Except String ServiceList :=
  match resolveUserAccessContext t userId with
  | none => .error "User not found"
  | some ctx =>
    let services := t.services.filter (·.isActive)
    .ok (if ctx.isAdmin then
        ⟨services.map (fun service => ⟨service.id, service.key, service.name, true, true⟩), true⟩
      else if !ctx.isEmployee then ⟨[], false⟩
      else
        ⟨services.map (fun service =>
          let decision := decideService t ctx service false
          ⟨service.id, service.key, service.name, decision.visible, decision.enabled⟩), true⟩)

def menuShows (userId : Nat) (serviceKey : String) : Bool :=
  match listServicesForUser t userId with
  | .error _ => false
  | .ok list => list.services.any (fun view =>
      view.key == serviceKey && view.visible && view.enabled)

end Access

end LeaderProduct
