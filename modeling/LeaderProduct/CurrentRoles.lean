import LeaderProduct.RoleChains
import LeaderProduct.Transition

/-! Authorization and the roles as they are at the moment of the request. -/
namespace LeaderProduct
open Relation Transition

section Chains
variable {t : StaffTables}

theorem rooted_parentRole {id : Nat} (goes : (t.parentRole id).isSome = true) :
    id ∈ t.roles.map (·.id) := by
  by_contra absent
  rw [← StaffTables.role_eq_none] at absent
  rw [StaffTables.parentRole, absent] at goes
  cases goes

theorem rooted_parentRoleName {name : String} (goes : (t.parentRoleName name).isSome = true) :
    name ∈ t.roles.map (·.name) := by
  cases found : t.roleNamed name with
  | none =>
    rw [StaffTables.parentRoleName, found] at goes
    cases goes
  | some role =>
    obtain ⟨known, named⟩ := StaffTables.roleNamed_mem found
    rw [← named]
    exact List.mem_map_of_mem known

theorem above_of_parentRole (keys : t.RoleKeys) {start id : Nat}
    (reached : ReflTransGen (fun child above => t.parentRole child = some above) start id) :
    t.Above start id := by
  induction reached with
  | refl => exact .refl
  | tail _ next ih => exact ih.tail ((parentRole_eq_some keys).mp next).2

theorem parentRole_of_above (keys : t.RoleKeys) {start id : Nat} (above : t.Above start id)
    (positive : id ≠ 0) :
    start ≠ 0 ∧ ReflTransGen (fun child above => t.parentRole child = some above) start id := by
  induction above with
  | refl => exact ⟨positive, .refl⟩
  | @tail child parent _ next ih =>
    obtain ⟨role, known, own, parented⟩ := next
    have child_positive : child ≠ 0 := own ▸ keys.positive role known
    obtain ⟨start_positive, reached⟩ := ih child_positive
    refine ⟨start_positive, reached.tail ?_⟩
    exact (parentRole_eq_some keys).mpr ⟨positive, role, known, own, parented⟩

theorem mem_collectRoleChain (keys : t.RoleKeys) {start : Nat} {role : RoleRow}
    (known : role ∈ t.roles) : role.id ∈ t.collectRoleChain start ↔ t.Above start role.id := by
  have enough : (t.roles.map (·.id)).length + 2 ≤ t.climbRounds := by
    rw [List.length_map]
    exact Nat.le_refl _
  rw [StaffTables.collectRoleChain, mem_climb_iff (fun id => rooted_parentRole) enough]
  constructor
  · rintro ⟨first, here, reached⟩
    have same : start = first := by
      simp only [truthy, Option.filter_eq_some_iff, Option.some.injEq] at here
      exact here.1
    rw [same]
    exact above_of_parentRole keys reached
  · intro above
    obtain ⟨positive, reached⟩ := parentRole_of_above keys above (keys.positive role known)
    refine ⟨start, ?_, reached⟩
    simp [truthy, positive]

theorem parentRoleName_eq_some (keys : t.RoleKeys) {name above : String} :
    t.parentRoleName name = some above ↔ ∃ role ∈ t.roles, role.name = name ∧
      ∃ parent ∈ t.roles, role.parentRoleId = some parent.id ∧ parent.name = above := by
  unfold StaffTables.parentRoleName
  constructor
  · intro next
    rw [Option.filter_eq_some_iff, Option.bind_eq_some_iff] at next
    obtain ⟨⟨id, found, next⟩, _⟩ := next
    obtain ⟨role, named, parented⟩ := Option.bind_eq_some_iff.mp found
    obtain ⟨parent, there, above_named⟩ := Option.map_eq_some_iff.mp next
    obtain ⟨known, own⟩ := StaffTables.roleNamed_mem named
    obtain ⟨parent_known, same⟩ := StaffTables.role_mem there
    exact ⟨role, known, own, parent, parent_known, by rw [parented, same], above_named⟩
  · rintro ⟨role, known, rfl, parent, parent_known, parented, rfl⟩
    rw [StaffTables.roleNamed_of_mem keys known, Option.bind_some, parented, Option.bind_some,
      StaffTables.role_of_mem keys parent_known]
    simp [keys.named parent parent_known]

theorem name_chain_iff (keys : t.RoleKeys) {start : RoleRow} (known : start ∈ t.roles)
    (name : String) :
    ReflTransGen (fun child above => t.parentRoleName child = some above) start.name name ↔
      ∃ role ∈ t.roles, t.Above start.id role.id ∧ role.name = name := by
  constructor
  · intro reached
    induction reached with
    | refl => exact ⟨start, known, .refl, rfl⟩
    | @tail child parent _ next ih =>
      obtain ⟨held, held_known, above, named⟩ := ih
      obtain ⟨role, role_known, same, above_role, above_known, parented, above_named⟩ :=
        (parentRoleName_eq_some keys).mp next
      have one : held = role := List.inj_on_of_nodup_map keys.names held_known role_known
        (named.trans same.symm)
      refine ⟨above_role, above_known, above.tail ⟨role, role_known, ?_, parented⟩, above_named⟩
      rw [one]
  · rintro ⟨role, role_known, above, rfl⟩
    have general : ∀ id, t.Above start.id id → ∀ role ∈ t.roles, role.id = id →
        ReflTransGen (fun child above => t.parentRoleName child = some above) start.name
          role.name := by
      intro id above
      induction above with
      | refl =>
        intro role role_known same
        rw [List.inj_on_of_nodup_map keys.ids role_known known same]
      | tail _ next ih =>
        intro role role_known same
        obtain ⟨child, child_known, own, parented⟩ := next
        refine (ih child child_known own).tail ((parentRoleName_eq_some keys).mpr ?_)
        exact ⟨child, child_known, rfl, role, role_known, by rw [parented, same], rfl⟩
    exact general role.id above role role_known rfl

theorem hierarchy_has_admin (keys : t.RoleKeys) (roleName : String) :
    (t.getRoleHierarchyByName roleName).any adminRoleNames.contains = true ↔
      t.AdminNamed roleName := by
  have enough : (t.roles.map (·.name)).length + 2 ≤ t.climbRounds := by
    rw [List.length_map]
    exact Nat.le_refl _
  have visited (name : String) : name ∈ t.getRoleHierarchyByName roleName ↔ roleName ≠ "" ∧
      ReflTransGen (fun child above => t.parentRoleName child = some above) roleName name := by
    rw [StaffTables.getRoleHierarchyByName,
      mem_climb_iff (fun name => rooted_parentRoleName) enough]
    simp only [Option.filter_eq_some_iff, Option.some.injEq, decide_eq_true_eq]
    constructor
    · rintro ⟨first, ⟨rfl, filled⟩, reached⟩
      exact ⟨filled, reached⟩
    · rintro ⟨filled, reached⟩
      exact ⟨roleName, ⟨rfl, filled⟩, reached⟩
  simp only [List.any_eq_true, visited, List.contains_iff_mem]
  constructor
  · rintro ⟨name, ⟨_, reached⟩, admin⟩
    rcases ReflTransGen.cases_head reached with rfl | ⟨next, first, _⟩
    · exact .inl admin
    · obtain ⟨role, known, rfl, _⟩ := (parentRoleName_eq_some keys).mp first
      obtain ⟨held, held_known, above, rfl⟩ := (name_chain_iff keys known name).mp reached
      exact .inr ⟨role, known, rfl, held, held_known, above, admin⟩
  · rintro (admin | ⟨role, known, rfl, held, held_known, above, admin⟩)
    · refine ⟨roleName, ⟨?_, .refl⟩, admin⟩
      rintro rfl
      revert admin
      decide
    · exact ⟨held.name, ⟨keys.named role known,
        (name_chain_iff keys known held.name).mpr ⟨held, held_known, above, rfl⟩⟩, admin⟩

end Chains

section Decision
variable {t : StaffTables}

theorem HasPermission.positive (keys : t.RoleKeys) {start : Nat} {name : String}
    (held : t.HasPermission start name) : start ≠ 0 := by
  obtain ⟨role, known, above, _⟩ := held
  exact (parentRole_of_above keys above (keys.positive role known)).1

theorem mem_computeUserPermissions (tables : t.RoleTables) (userId : Nat) (name : String) :
    name ∈ computeUserPermissions t userId ↔ t.PermittedNow userId name := by
  unfold computeUserPermissions StaffTables.PermittedNow
  cases found : t.user userId with
  | none => simp
  | some user =>
    have own : user.id = userId := by simpa using List.find?_some found
    have chain (start : Nat) : (∃ row ∈ t.rolePermissions, row.roleId ∈ t.collectRoleChain start ∧
        ∃ permission ∈ t.permissions, permission.id = row.permissionId ∧ permission.name = name) ↔
        t.HasPermission start name := by
      constructor
      · rintro ⟨row, known, listed, permission⟩
        obtain ⟨role, role_known, same⟩ := List.mem_map.mp (tables.rolePermission row known)
        rw [← same, mem_collectRoleChain tables.keys role_known] at listed
        exact ⟨role, role_known, listed, row, known, same.symm, permission⟩
      · rintro ⟨role, role_known, above, row, known, same, permission⟩
        rw [← mem_collectRoleChain tables.keys role_known, ← same] at above
        exact ⟨row, known, above, permission⟩
    have seeds (start : Nat) : start ∈ t.seedRoleIds user ↔ (user.roleId = start ∧ start ≠ 0) ∨
        ∃ row ∈ t.departmentRoles, row.userId = userId ∧ row.roleId = start := by
      simp only [StaffTables.seedRoleIds, truthy, List.mem_append, Option.mem_toList,
        Option.filter_eq_some_iff, Option.some.injEq, decide_eq_true_eq, List.mem_map,
        List.mem_filter, beq_iff_eq, own, and_assoc]
    have listed : name ∈ computeUserPermissions t userId ↔
        ∃ start ∈ t.seedRoleIds user, t.HasPermission start name := by
      simp only [computeUserPermissions, found, List.mem_flatMap, List.mem_filter, List.mem_map,
        List.contains_iff_mem, beq_iff_eq, and_assoc, ← chain]
      constructor
      · rintro ⟨row, known, ⟨start, seed, visited⟩, permission⟩
        exact ⟨start, seed, row, known, visited, permission⟩
      · rintro ⟨start, seed, row, known, visited, permission⟩
        exact ⟨row, known, ⟨start, seed, visited⟩, permission⟩
    rw [computeUserPermissions, found] at listed
    rw [listed]
    simp only [Option.some.injEq, exists_eq_left', seeds]
    constructor
    · rintro ⟨start, ⟨rfl, _⟩ | ⟨row, known, theirs, rfl⟩, held⟩
      · exact .inl held
      · exact .inr ⟨row, known, theirs, held⟩
    · rintro (held | ⟨row, known, theirs, held⟩)
      · exact ⟨user.roleId, .inl ⟨rfl, HasPermission.positive tables.keys held⟩, held⟩
      · exact ⟨row.roleId, .inr ⟨row, known, theirs, rfl⟩, held⟩

theorem holds_iff (tables : t.RoleTables) (userId : Nat) (required : List String)
    (mode : PermissionMode) :
    mode.holds required (computeUserPermissions t userId) = true ↔
      t.SufficesNow userId required mode := by
  cases mode with
  | all =>
    simp only [PermissionMode.holds, StaffTables.SufficesNow, List.all_eq_true,
      List.contains_iff_mem, mem_computeUserPermissions tables]
  | any =>
    simp only [PermissionMode.holds, StaffTables.SufficesNow, List.any_eq_true,
      List.contains_iff_mem, mem_computeUserPermissions tables]

theorem authorizePermissions_next_iff (tables : t.RoleTables) (required : List String)
    (mode : PermissionMode) (payload : JwtPayload) :
    authorizePermissions t required mode (some payload) = .next ↔
      t.AdminNamed payload.role ∨ t.SufficesNow payload.userId required mode := by
  rw [authorizePermissions, ← holds_iff tables, ← hierarchy_has_admin tables.keys]
  split
  · next admin => simp [admin]
  · next plain =>
    split
    · next holds => simp [holds]
    · next lacks => simp [plain, lacks]

end Decision

section Runs

structure StaffStore where
  tables : StaffTables
  issued : List JwtPayload

inductive StaffEvent where
  | admin (refusesNull : Bool) (request : AdminRequest)
  | assignRole (userId : IdParam) (choice : RoleChoice)
  | updateRole (roleId : IdParam) (body : UpdateRoleBody)
  | assignDepartmentManager (userId departmentId : IdParam)
  | moderateEmployee (userId : IdParam) (action : Option ModerationAction)
  | own (userId : Nat) (request : OwnRequest)
  | login (userId : Nat)

/-- `generateAccessToken`. -/
def StaffTables.payload (t : StaffTables) (userId : Nat) : Option JwtPayload :=
  (t.user userId).bind fun user => (t.role user.roleId).map fun role => ⟨userId, role.name⟩

def StaffTables.after (t : StaffTables) : StaffEvent → StaffTables
  | .admin refusesNull request => (request.answer refusesNull t).2
  | .assignRole userId choice => (LeaderProduct.assignRole t choice userId).2
  | .updateRole roleId body => (LeaderProduct.updateRole t body roleId).2
  | .assignDepartmentManager userId departmentId =>
      (LeaderProduct.assignDepartmentManager t userId departmentId).2
  | .moderateEmployee userId action => (LeaderProduct.moderateEmployee t action userId).2
  | .own userId request => (request.answer t userId).2
  | .login _ => t

def staffStep (s : StaffStore) (event : StaffEvent) : StaffStore where
  tables := s.tables.after event
  issued := s.issued ++ match event with
    | .login userId => (s.tables.payload userId).toList
    | _ => []

variable {t : StaffTables}

def StaffTables.SameRoles (t after : StaffTables) : Prop :=
  after.roles = t.roles ∧ after.rolePermissions = t.rolePermissions

theorem StaffTables.RoleTables.of_same {after : StaffTables} (tables : t.RoleTables)
    (same : t.SameRoles after) : after.RoleTables := by
  obtain ⟨roles, rolePermissions⟩ := same
  refine ⟨tables.keys.of_roles roles, ?_⟩
  rw [roles, rolePermissions]
  exact tables.rolePermission

theorem sameRoles_deleteDepartment (refusesNull : Bool) (departmentId : IdParam) :
    t.SameRoles (deleteDepartment t refusesNull departmentId).2 := by
  cases departmentId with
  | nan => exact ⟨rfl, rfl⟩
  | unfit => exact ⟨rfl, rfl⟩
  | id departmentId =>
    rw [deleteDepartment]
    split
    · exact ⟨rfl, rfl⟩
    · split <;> exact ⟨rfl, rfl⟩

theorem sameRoles_patchUser (body : PatchUserBody) (userId : IdParam) :
    t.SameRoles (patchUser t body userId).2 := by
  have general (userId : Option Nat) : t.SameRoles (patchUserFrom t userId body).2 := by
    have first (named : StaffTables) (done : patchUserRow t userId body = .ok named) :
        t.SameRoles named := by
      obtain ⟨phone, _, done⟩ := (except_bind_ok _ _ _).mp done
      repeat' split at done
      all_goals cases done
      all_goals exact ⟨rfl, rfl⟩
    have second (named placed : StaffTables) (done : patchDepartment named userId body = .ok placed) :
        named.SameRoles placed := by
      obtain ⟨given, _, done⟩ := (except_bind_ok _ _ _).mp done
      repeat' split at done
      all_goals cases done
      all_goals exact ⟨rfl, rfl⟩
    have third (placed after : StaffTables) (done : patchEmployee placed userId body = .ok after) :
        placed.SameRoles after := by
      unfold patchEmployee at done
      dsimp only at done
      repeat' split at done
      all_goals cases done
      all_goals exact ⟨rfl, rfl⟩
    rw [patchUserFrom]
    cases named : patchUserRow t userId body with
    | error refusal => exact ⟨rfl, rfl⟩
    | ok t₁ =>
      have one := first t₁ named
      dsimp only
      cases placed : patchDepartment t₁ userId body with
      | error refusal => exact one
      | ok t₂ =>
        have two := second t₁ t₂ placed
        dsimp only
        cases ended : patchEmployee t₂ userId body with
        | error refusal => exact ⟨two.1.trans one.1, two.2.trans one.2⟩
        | ok t₃ =>
          have three := third t₂ t₃ ended
          exact ⟨three.1.trans (two.1.trans one.1), three.2.trans (two.2.trans one.2)⟩
  cases userId with
  | nan => exact ⟨rfl, rfl⟩
  | unfit => exact general none
  | id userId => exact general (some userId)

theorem sameRoles_own (userId : Nat) (request : OwnRequest) :
    t.SameRoles (request.answer t userId).2 := by
  have created (after : StaffTables) (names : ProfileNames) (type : ProfileType)
      (message : String) (same : t.SameRoles after) :
      t.SameRoles (createdProfile userId after names type message).2 := by
    unfold createdProfile
    split <;> exact same
  unfold OwnRequest.answer
  split
  · exact ⟨rfl, rfl⟩
  · split
    · cases request with
      | createEmployeeProfile names department =>
        simp only [OwnRequest.handled, createEmployeeProfile]
        repeat' split
        all_goals first | exact ⟨rfl, rfl⟩ | exact created _ _ _ _ ⟨rfl, rfl⟩
      | createClientProfile names refusal =>
        simp only [OwnRequest.handled, createClientProfile]
        repeat' split
        all_goals first | exact ⟨rfl, rfl⟩ | exact created _ _ _ _ ⟨rfl, rfl⟩
      | createSupplierProfile names refusal =>
        simp only [OwnRequest.handled, createSupplierProfile]
        repeat' split
        all_goals first | exact ⟨rfl, rfl⟩ | exact created _ _ _ _ ⟨rfl, rfl⟩
      | updateMyDepartment department =>
        simp only [OwnRequest.handled]
        unfold updateMyDepartment
        repeat' split
        all_goals exact ⟨rfl, rfl⟩
      | updateMyActiveDepartment department =>
        simp only [OwnRequest.handled, updateMyActiveDepartment]
        repeat' split
        all_goals exact ⟨rfl, rfl⟩
      | chooseCurrentProfile type =>
        simp only [OwnRequest.handled]
        unfold chooseCurrentProfile
        repeat' split
        all_goals exact ⟨rfl, rfl⟩
      | patchMyProfile body =>
        simp only [OwnRequest.handled, patchMyProfile]
        repeat' split
        all_goals exact ⟨rfl, rfl⟩
    · exact ⟨rfl, rfl⟩

theorem StaffTables.RoleTables.grant (tables : t.RoleTables) {row : RolePermission}
    {written : StaffTables} (made : t.createRolePermission row = some written) :
    written.RoleTables := by
  unfold StaffTables.createRolePermission at made
  split at made
  · cases made
  · next allowed =>
    cases made
    rw [not_or, StaffTables.role_eq_none, not_not] at allowed
    refine ⟨⟨tables.keys.ids, tables.keys.names, tables.keys.positive, tables.keys.named⟩, ?_⟩
    intro other known
    rcases List.mem_append.mp known with old | new
    · exact tables.rolePermission other old
    · rw [List.mem_singleton.mp new]
      exact allowed.1

theorem StaffTables.RoleTables.grants (tables : t.RoleTables) (roleId : Nat)
    (perms : List PermissionRow) : (createRolePermissions roleId perms t).2.RoleTables := by
  induction perms generalizing t with
  | nil => exact tables
  | cons permission rest ih =>
    rw [createRolePermissions]
    cases made : t.createRolePermission ⟨roleId, permission.id⟩ with
    | none => exact tables
    | some written => exact ih (tables.grant made)

theorem StaffTables.RoleTables.named (tables : t.RoleTables) (roleId : Nat)
    (names : List (Option String)) : (addNamedPermissions roleId names t).2.RoleTables := by
  induction names generalizing t with
  | nil => exact tables
  | cons name rest ih =>
    cases name with
    | none => exact tables
    | some permName =>
      rw [addNamedPermissions]
      cases t.permissionNamed permName with
      | none => exact ih tables
      | some permission =>
        dsimp only
        cases made : t.createRolePermission ⟨roleId, permission.id⟩ with
        | none => exact tables
        | some written => exact ih (tables.grant made)

theorem StaffTables.RoleTables.dropped (tables : t.RoleTables) (roleId : Nat) :
    (t.dropRolePermissions roleId).RoleTables where
  keys := ⟨tables.keys.ids, tables.keys.names, tables.keys.positive, tables.keys.named⟩
  rolePermission := by
    intro row known
    exact tables.rolePermission row (List.mem_filter.mp known).1

theorem StaffTables.RoleTables.added (tables : t.RoleTables) {body : CreateRoleBody} {newId : Nat}
    {role : RoleRow} (checked : createdRole t body newId = .ok role) :
    (t.addRole role).RoleTables := by
  obtain ⟨positive, new_id, new_name, named⟩ := createdRole_ok checked
  have apart {κ : Type} (column : RoleRow → κ) (unique : (t.roles.map column).Nodup)
      (new : column role ∉ t.roles.map column) : ((t.addRole role).roles.map column).Nodup := by
    rw [StaffTables.addRole, List.map_append, List.map_singleton, List.nodup_append]
    refine ⟨unique, List.nodup_singleton _, fun a old b last => ?_⟩
    rw [List.mem_singleton.mp last]
    intro same
    exact new (same ▸ old)
  refine ⟨⟨apart _ tables.keys.ids new_id, apart _ tables.keys.names new_name, ?_, ?_⟩, ?_⟩
  · intro other known
    rcases List.mem_append.mp known with old | new
    · exact tables.keys.positive other old
    · rw [List.mem_singleton.mp new]
      exact positive
  · intro other known
    rcases List.mem_append.mp known with old | new
    · exact tables.keys.named other old
    · rw [List.mem_singleton.mp new]
      exact named
  · intro row known
    rw [StaffTables.addRole, List.map_append]
    exact List.mem_append_left _ (tables.rolePermission row known)

theorem StaffTables.RoleKeys.map (keys : t.RoleKeys) {change : RoleRow → RoleRow}
    (same : ∀ role, (change role).id = role.id ∧ (change role).name = role.name)
    {after : StaffTables} (roles : after.roles = t.roles.map change) : after.RoleKeys := by
  have ids : after.roles.map (·.id) = t.roles.map (·.id) := by
    rw [roles, List.map_map]
    exact List.map_congr_left fun role _ => (same role).1
  have names : after.roles.map (·.name) = t.roles.map (·.name) := by
    rw [roles, List.map_map]
    exact List.map_congr_left fun role _ => (same role).2
  refine ⟨ids ▸ keys.ids, names ▸ keys.names, ?_, ?_⟩
  · intro role known
    rw [roles] at known
    obtain ⟨old, there, rfl⟩ := List.mem_map.mp known
    rw [(same old).1]
    exact keys.positive old there
  · intro role known
    rw [roles] at known
    obtain ⟨old, there, rfl⟩ := List.mem_map.mp known
    rw [(same old).2]
    exact keys.named old there

theorem StaffTables.RoleTables.removed (tables : t.RoleTables) (roleId : Nat) :
    (t.removeRole roleId).RoleTables := by
  let unlink (role : RoleRow) : RoleRow :=
    if role.parentRoleId = some roleId then { role with parentRoleId := none } else role
  let unlinked : StaffTables := { t with roles := t.roles.map unlink }
  have same : ∀ role, (unlink role).id = role.id ∧ (unlink role).name = role.name := by
    intro role
    simp only [unlink]
    split <;> exact ⟨rfl, rfl⟩
  have keys : unlinked.RoleKeys := tables.keys.map same rfl
  have ids : unlinked.roles.map (·.id) = t.roles.map (·.id) := by
    rw [List.map_map]
    exact List.map_congr_left fun role _ => (same role).1
  refine ⟨⟨?_, ?_, ?_, ?_⟩, ?_⟩
  · exact (List.filter_sublist.map _).nodup keys.ids
  · exact (List.filter_sublist.map _).nodup keys.names
  · exact fun role known => keys.positive role (List.mem_filter.mp known).1
  · exact fun role known => keys.named role (List.mem_filter.mp known).1
  · intro row known
    obtain ⟨old, other⟩ := List.mem_filter.mp known
    have there := tables.rolePermission row old
    rw [← ids] at there
    obtain ⟨role, role_known, own⟩ := List.mem_map.mp there
    refine List.mem_map.mpr ⟨role, List.mem_filter.mpr ⟨role_known, ?_⟩, own⟩
    rw [decide_eq_true_eq] at other ⊢
    rw [own]
    exact other

theorem StaffTables.RoleTables.admin (tables : t.RoleTables) (refusesNull : Bool)
    (request : AdminRequest) : (request.answer refusesNull t).2.RoleTables := by
  cases request with
  | deleteDepartment departmentId =>
    exact tables.of_same (sameRoles_deleteDepartment refusesNull departmentId)
  | deleteRole roleId =>
    rw [AdminRequest.answer]
    rcases deleteRole_cases t refusesNull roleId with kept | ⟨_, roleId, plain | ⟨base, moved⟩⟩
    · rw [kept]
      exact tables
    · rw [plain]
      exact tables.removed roleId
    · have users_moved : (t.moveUsers roleId base.id).RoleTables := tables.of_same ⟨rfl, rfl⟩
      rw [moved]
      exact users_moved.removed roleId
  | setRolePermissions roleId permissions =>
    cases roleId with
    | nan => exact tables
    | unfit => exact tables
    | id roleId =>
      have granted := (tables.dropped roleId).grants roleId
        (t.permissions.filter fun permission =>
          (permissions.getD []).contains (some permission.name))
      rw [AdminRequest.answer, setRolePermissions]
      dsimp only
      split
      · exact tables.dropped roleId
      · split
        · next after ran =>
          rw [ran] at granted
          exact granted
        · next after ran =>
          rw [ran] at granted
          exact granted
  | createRole body newId =>
    rw [AdminRequest.answer, createRole]
    cases checked : createdRole t body newId with
    | error refusal => exact tables
    | ok role =>
      have granted := (tables.added checked).named role.id (body.permissions.getD [])
      dsimp only
      split
      · next after ran =>
        rw [ran] at granted
        exact granted
      · next after ran =>
        rw [ran] at granted
        exact granted
  | patchUser userId body => exact tables.of_same (sameRoles_patchUser body userId)

theorem StaffTables.RoleTables.after (tables : t.RoleTables) (event : StaffEvent) :
    (t.after event).RoleTables := by
  cases event with
  | admin refusesNull request => exact tables.admin refusesNull request
  | assignRole userId choice =>
    simp only [StaffTables.after, assignRole]
    repeat' split
    all_goals first | exact tables | exact tables.of_same ⟨rfl, rfl⟩
  | updateRole roleId body =>
    simp only [StaffTables.after]
    unfold updateRole
    repeat' split
    all_goals first | exact tables | skip
    refine ⟨tables.keys.map (fun role => ?_) rfl, ?_⟩
    · split <;> exact ⟨rfl, rfl⟩
    · intro row known
      have there := tables.rolePermission row known
      rw [StaffTables.changeRole, List.map_map]
      obtain ⟨role, role_known, own⟩ := List.mem_map.mp there
      refine List.mem_map.mpr ⟨role, role_known, ?_⟩
      rw [Function.comp_apply]
      split <;> exact own
  | assignDepartmentManager userId departmentId =>
    simp only [StaffTables.after]
    unfold assignDepartmentManager
    repeat' split
    all_goals first | exact tables | skip
    dsimp only
    split
    · exact tables
    · exact tables.of_same ⟨rfl, rfl⟩
  | moderateEmployee userId action =>
    simp only [StaffTables.after]
    unfold moderateEmployee
    repeat' split
    all_goals first | exact tables | exact tables.of_same ⟨rfl, rfl⟩
  | own userId request => exact tables.of_same (sameRoles_own userId request)
  | login userId => exact tables

theorem roleTables_run (s : StaffStore) (tables : s.tables.RoleTables) (events : List StaffEvent) :
    (run staffStep s events).tables.RoleTables := by
  have always : Always staffStep (fun s => s.tables.RoleTables) s events :=
    always_of_invariant (fun _ event kept => StaffTables.RoleTables.after kept event)
      (fun _ kept => kept) tables events
  exact always.last

/-- In every state that is reached, a token of it lets its holder through as the roles of that
moment say, exactly when the permissions suffice anyway or the role of the token is as much an
administrator's as the stored one. -/
theorem authorization_follows_roles_iff (start : { t : StaffTables // t.RoleTables })
    (events : List StaffEvent) :
    ∀ payload ∈ (run staffStep ⟨start, []⟩ events).issued,
      ∀ (required : List String) (mode : PermissionMode),
        ((authorizePermissions (run staffStep ⟨start, []⟩ events).tables required mode
            (some payload) = .next ↔
          (run staffStep ⟨start, []⟩ events).tables.AdminNow payload.userId ∨
            (run staffStep ⟨start, []⟩ events).tables.SufficesNow payload.userId required mode) ↔
        ((run staffStep ⟨start, []⟩ events).tables.SufficesNow payload.userId required mode ∨
          ((run staffStep ⟨start, []⟩ events).tables.AdminNamed payload.role ↔
            (run staffStep ⟨start, []⟩ events).tables.AdminNow payload.userId))) := by
  intro payload _ required mode
  have tables := roleTables_run ⟨start, []⟩ start.2 events
  rw [authorizePermissions_next_iff tables]
  by_cases suffices_now :
      (run staffStep ⟨start, []⟩ events).tables.SufficesNow payload.userId required mode
  · simp [suffices_now]
  · simp [suffices_now]

def staffWithAdmin : { t : StaffTables // t.RoleTables } where
  val :=
    { users := [⟨1, none, none, none, none, none, .active, 2, none, false, false⟩]
      employees := []
      roles := [⟨2, "admin", none, none⟩, ⟨3, "user", none, none⟩]
      permissions := []
      rolePermissions := []
      departments := []
      departmentRoles := []
      appeals := [] }
  property := ⟨⟨by decide, by decide, by decide, by decide⟩, by decide⟩

theorem authorization_of_fresh_token :
    (authorizePermissions (run staffStep ⟨staffWithAdmin, []⟩ [.login 1]).tables ["manage_users"]
        .any (some ⟨1, "admin"⟩) = .next ↔
      (run staffStep ⟨staffWithAdmin, []⟩ [.login 1]).tables.AdminNow 1 ∨
        (run staffStep ⟨staffWithAdmin, []⟩ [.login 1]).tables.SufficesNow 1 ["manage_users"]
          .any) ↔
    ((run staffStep ⟨staffWithAdmin, []⟩ [.login 1]).tables.SufficesNow 1 ["manage_users"] .any ∨
      ((run staffStep ⟨staffWithAdmin, []⟩ [.login 1]).tables.AdminNamed "admin" ↔
        (run staffStep ⟨staffWithAdmin, []⟩ [.login 1]).tables.AdminNow 1)) :=
  authorization_follows_roles_iff staffWithAdmin [.login 1] ⟨1, "admin"⟩ (by decide)
    ["manage_users"] .any

/-- The demoted administrator goes on with the token of before. -/
theorem demoted_admin_passes :
    ¬ ∀ (start : { t : StaffTables // t.RoleTables }) (events : List StaffEvent),
      ∀ payload ∈ (run staffStep ⟨start, []⟩ events).issued,
        ∀ (required : List String) (mode : PermissionMode),
          (authorizePermissions (run staffStep ⟨start, []⟩ events).tables required mode
              (some payload) = .next ↔
            (run staffStep ⟨start, []⟩ events).tables.AdminNow payload.userId ∨
              (run staffStep ⟨start, []⟩ events).tables.SufficesNow payload.userId required
                mode) := by
  intro follows
  let events : List StaffEvent := [.login 1, .assignRole (.id 1) ⟨some (.id 3), none⟩]
  have tables := roleTables_run ⟨staffWithAdmin, []⟩ staffWithAdmin.2 events
  have decision := follows staffWithAdmin events ⟨1, "admin"⟩ (by decide) ["manage_users"] .any
  have passed : authorizePermissions (run staffStep ⟨staffWithAdmin, []⟩ events).tables
      ["manage_users"] .any (some ⟨1, "admin"⟩) = .next := by decide
  rcases decision.mp passed with ⟨user, found, admin⟩ | permitted
  · obtain ⟨role, known, above, named⟩ := admin
    rw [← mem_collectRoleChain tables.keys known] at above
    cases found
    revert role
    decide
  · rw [← holds_iff tables] at permitted
    revert permitted
    decide

end Runs

end LeaderProduct
