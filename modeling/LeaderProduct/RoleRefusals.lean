import Mathlib.Data.List.Nodup
import LeaderProduct.AdminRequests
import LeaderProduct.Order

/-! When a refused request about a department or a role leaves the tables as they were. -/
namespace LeaderProduct

section Lists
variable {R : Type}

theorem map_eq_self_iff {change : R → R} {rows : List R} :
    rows.map change = rows ↔ ∀ row ∈ rows, change row = row := by
  conv_lhs => rhs; rw [← List.map_id rows]
  exact List.map_inj_left

end Lists

structure StaffTables.Constraints (t : StaffTables) : Prop where
  roleKeys : t.RoleKeys
  permissionIds : (t.permissions.map (·.id)).Nodup
  foreignKeys : t.ForeignKeys

section Find
variable {t : StaffTables}

theorem StaffTables.department_eq_none {id : Nat} :
    t.department id = none ↔ id ∉ t.departments.map (·.id) := by
  simp only [StaffTables.department, List.find?_eq_none, List.mem_map, not_exists, not_and,
    beq_iff_eq]

theorem StaffTables.role_eq_none {id : Nat} : t.role id = none ↔ id ∉ t.roles.map (·.id) := by
  simp only [StaffTables.role, List.find?_eq_none, List.mem_map, not_exists, not_and, beq_iff_eq]

theorem StaffTables.role_mem {id : Nat} {role : RoleRow} (found : t.role id = some role) :
    role ∈ t.roles ∧ role.id = id :=
  ⟨List.mem_of_find?_eq_some found, by simpa using List.find?_some found⟩

theorem StaffTables.RoleKeys.of_roles {after : StaffTables} (keys : t.RoleKeys)
    (same : after.roles = t.roles) : after.RoleKeys where
  ids := same ▸ keys.ids
  names := same ▸ keys.names
  positive := same ▸ keys.positive
  named := same ▸ keys.named

end Find

section Departments
variable {t : StaffTables} {departmentId : Nat}

def StaffTables.Deserted (t : StaffTables) (departmentId : Nat) : Prop :=
  (∀ row ∈ t.employees,
    row.departmentId ≠ some departmentId ∧ row.activeDepartmentId ≠ some departmentId) ∧
  ∀ row ∈ t.departmentRoles, row.departmentId ≠ departmentId

theorem cleared_eq_iff :
    ((t.detachEmployees departmentId).clearActive departmentId).dropDepartmentRoles departmentId =
      t ↔ t.Deserted departmentId := by
  have parts : ((t.detachEmployees departmentId).clearActive departmentId).dropDepartmentRoles
      departmentId = t ↔
      ((t.detachEmployees departmentId).clearActive departmentId).employees = t.employees ∧
        t.departmentRoles.filter (fun row => row.departmentId ≠ departmentId) =
          t.departmentRoles := by
    constructor
    · intro same
      have employees := congrArg StaffTables.employees same
      have departmentRoles := congrArg StaffTables.departmentRoles same
      exact ⟨employees, departmentRoles⟩
    · rintro ⟨employees, departmentRoles⟩
      have written : ((t.detachEmployees departmentId).clearActive departmentId).dropDepartmentRoles
          departmentId =
          { t with
            employees := ((t.detachEmployees departmentId).clearActive departmentId).employees
            departmentRoles :=
              t.departmentRoles.filter (fun row => row.departmentId ≠ departmentId) } := rfl
      rw [written, employees, departmentRoles]
  rw [parts, List.filter_eq_self]
  simp only [StaffTables.detachEmployees, StaffTables.clearActive, List.map_map, map_eq_self_iff,
    decide_eq_true_eq]
  apply and_congr_left'
  constructor
  · intro same row known
    have kept := same row known
    rw [Function.comp_apply] at kept
    constructor
    · intro here
      rw [if_pos here] at kept
      have gone := congrArg EmployeeRow.departmentId kept
      simp [here] at gone
    · intro here
      by_cases own : row.departmentId = some departmentId
      · rw [if_pos own] at kept
        have gone := congrArg EmployeeRow.departmentId kept
        simp [own] at gone
      · rw [if_neg own, if_pos here] at kept
        have gone := congrArg EmployeeRow.activeDepartmentId kept
        simp [here] at gone
  · intro deserted row known
    rw [Function.comp_apply, if_neg (deserted row known).1, if_neg (deserted row known).2]

theorem deserted_of_absent (keys : t.ForeignKeys) (absent : t.department departmentId = none) :
    t.Deserted departmentId := by
  rw [StaffTables.department_eq_none] at absent
  refine ⟨fun row known => ⟨fun here => ?_, fun here => ?_⟩, fun row known here => ?_⟩
  · exact absent (keys.employee row known departmentId here)
  · exact absent (keys.active row known departmentId here)
  · rw [← here] at absent
    exact absent (keys.departmentRole row known)

theorem deleteDepartment_unchanged_iff (keys : t.ForeignKeys) (refusesNull : Bool) :
    ((deleteDepartment t refusesNull (.id departmentId)).1.isError = true →
      (deleteDepartment t refusesNull (.id departmentId)).2 = t) ↔
    (refusesNull = false ∧ ∀ appeal ∈ t.appeals, appeal.toDepartmentId ≠ departmentId) ∨
      t.Deserted departmentId := by
  rw [deleteDepartment]
  cases refused : refusesNull || t.appeals.any (fun appeal => appeal.toDepartmentId == departmentId)
    with
  | true =>
    have blocked : ¬ (refusesNull = false ∧
        ∀ appeal ∈ t.appeals, appeal.toDepartmentId ≠ departmentId) := by
      rintro ⟨accepts, none⟩
      rw [accepts, Bool.false_or, List.any_eq_true] at refused
      obtain ⟨appeal, known, addressed⟩ := refused
      exact none appeal known (beq_iff_eq.mp addressed)
    rw [if_pos rfl, ← cleared_eq_iff]
    constructor
    · intro unchanged
      exact .inr (unchanged rfl)
    · rintro (free | same) _
      · exact absurd free blocked
      · exact same
  | false =>
    rw [if_neg Bool.false_ne_true]
    rw [Bool.or_eq_false_iff, List.any_eq_false] at refused
    apply iff_of_true
    · cases found : t.department departmentId with
      | none =>
        intro _
        exact cleared_eq_iff.mpr (deserted_of_absent keys found)
      | some row => exact fun error => Bool.noConfusion error
    · refine .inl ⟨refused.1, fun appeal known addressed => ?_⟩
      exact refused.2 appeal known (beq_iff_eq.mpr addressed)

end Departments

section Roles
variable {t : StaffTables} {roleId : Nat}

theorem deleteRole_cases (t : StaffTables) (refusesNull : Bool) (param : IdParam) :
    (deleteRole t refusesNull param).2 = t ∨
      (deleteRole t refusesNull param).1 = .success ∧ ∃ roleId,
        (deleteRole t refusesNull param).2 = t.removeRole roleId ∨
          ∃ base : RoleRow,
            (deleteRole t refusesNull param).2 = (t.moveUsers roleId base.id).removeRole roleId := by
  cases param with
  | nan => exact .inl rfl
  | unfit => exact .inl rfl
  | id roleId =>
    rw [deleteRole]
    cases t.role roleId with
    | none => exact .inl rfl
    | some role =>
      dsimp only
      by_cases system : systemRoleNames.contains role.name = true
      · rw [if_pos system]
        exact .inl rfl
      · rw [if_neg system]
        cases t.roleNamed "user" with
        | some base => exact .inr ⟨rfl, roleId, .inr ⟨base, rfl⟩⟩
        | none =>
          dsimp only
          by_cases refused : (refusesNull || t.users.any fun user => user.roleId == roleId) = true
          · rw [if_pos refused]
            exact .inl rfl
          · rw [if_neg refused]
            exact .inr ⟨rfl, roleId, .inl rfl⟩

theorem deleteRole_unchanged (t : StaffTables) (refusesNull : Bool) (roleId : IdParam)
    (error : (deleteRole t refusesNull roleId).1.isError = true) :
    (deleteRole t refusesNull roleId).2 = t := by
  rcases deleteRole_cases t refusesNull roleId with kept | ⟨success, _⟩
  · exact kept
  · rw [success] at error
    cases error

theorem createRolePermissions_absent (absent : t.role roleId = none) (perms : List PermissionRow) :
    (createRolePermissions roleId perms t).2 = t := by
  cases perms with
  | nil => rfl
  | cons permission rest =>
    rw [createRolePermissions, StaffTables.createRolePermission, if_pos (.inl absent)]

theorem createRolePermissions_done (there : t.role roleId ≠ none) (perms : List PermissionRow)
    (distinct : (perms.map (·.id)).Nodup)
    (fresh : ∀ permission ∈ perms, ⟨roleId, permission.id⟩ ∉ t.rolePermissions) :
    (createRolePermissions roleId perms t).1 = true := by
  induction perms generalizing t with
  | nil => rfl
  | cons permission rest ih =>
    rw [List.map_cons, List.nodup_cons] at distinct
    rw [List.forall_mem_cons] at fresh
    rw [createRolePermissions, StaffTables.createRolePermission, if_neg]
    · apply ih (t := { t with rolePermissions := t.rolePermissions ++ [⟨roleId, permission.id⟩] })
        there distinct.2
      intro other later
      rw [List.mem_append, List.mem_singleton, not_or]
      refine ⟨fresh.2 other later, fun same => distinct.1 ?_⟩
      have same_id : other.id = permission.id := congrArg RolePermission.permissionId same
      rw [← same_id]
      exact List.mem_map_of_mem later
    · rintro (gone | twice)
      · exact there gone
      · exact fresh.1 twice

theorem dropRolePermissions_eq_iff :
    t.dropRolePermissions roleId = t ↔ ∀ row ∈ t.rolePermissions, row.roleId ≠ roleId := by
  have parts : t.dropRolePermissions roleId = t ↔
      t.rolePermissions.filter (fun row => row.roleId ≠ roleId) = t.rolePermissions := by
    constructor
    · exact fun same => congrArg StaffTables.rolePermissions same
    · intro same
      rw [StaffTables.dropRolePermissions, same]
  rw [parts, List.filter_eq_self]
  simp only [decide_eq_true_eq]

theorem setRolePermissions_unchanged_iff (constraints : t.Constraints)
    (permissions : PermissionNames) :
    ((setRolePermissions t permissions (.id roleId)).1.isError = true →
      (setRolePermissions t permissions (.id roleId)).2 = t) ↔
    none ∉ permissions.getD [] ∨ ∀ row ∈ t.rolePermissions, row.roleId ≠ roleId := by
  rw [setRolePermissions, ← dropRolePermissions_eq_iff]
  dsimp only
  cases unfit : (permissions.getD []).contains none with
  | true =>
    rw [List.contains_iff_mem] at unfit
    rw [if_pos rfl]
    constructor
    · intro unchanged
      exact .inr (unchanged rfl)
    · rintro (fits | same) _
      · exact absurd unfit fits
      · exact same
  | false =>
    have fits : none ∉ permissions.getD [] := by
      rw [← List.contains_iff_mem, unfit]
      exact Bool.false_ne_true
    rw [if_neg Bool.false_ne_true]
    apply iff_of_true _ (.inl fits)
    have same_role : (t.dropRolePermissions roleId).role roleId = t.role roleId := rfl
    cases found : t.role roleId with
    | none =>
      have whole : t.dropRolePermissions roleId = t := by
        rw [dropRolePermissions_eq_iff]
        intro row known same
        rw [StaffTables.role_eq_none, ← same] at found
        exact found (constraints.foreignKeys.rolePermission row known)
      rw [whole]
      have kept := createRolePermissions_absent found (t.permissions.filter fun permission =>
        (permissions.getD []).contains (some permission.name))
      split
      · next after ran =>
        rw [ran] at kept
        exact fun _ => kept
      · next after ran =>
        rw [ran] at kept
        exact fun _ => kept
    | some role =>
      have done := createRolePermissions_done (t := t.dropRolePermissions roleId)
        (by rw [same_role, found]; exact Option.some_ne_none role)
        (t.permissions.filter fun permission =>
          (permissions.getD []).contains (some permission.name))
        ((List.filter_sublist.map _).nodup constraints.permissionIds)
        (fun permission _ listed => by simp [StaffTables.dropRolePermissions] at listed)
      split
      · exact fun error => Bool.noConfusion error
      · next after ran =>
        rw [ran] at done
        cases done

theorem createdRole_ok {body : CreateRoleBody} {newId : Nat} {role : RoleRow}
    (checked : createdRole t body newId = .ok role) :
    role.id ≠ 0 ∧ role.id ∉ t.roles.map (·.id) ∧ role.name ∉ t.roles.map (·.name) ∧
      role.name ≠ "" := by
  unfold createdRole at checked
  obtain ⟨name, _, checked⟩ := (except_bind_ok _ _ _).mp checked
  obtain ⟨displayName, _, checked⟩ := (except_bind_ok _ _ _).mp checked
  split at checked
  · cases checked
  · next given =>
    split at checked
    · cases checked
    · obtain ⟨parentRoleId, _, checked⟩ := (except_bind_ok _ _ _).mp checked
      split at checked
      · cases checked
      · next free =>
        cases checked
        rw [not_or, not_or] at free
        exact ⟨free.1, free.2.1, free.2.2, given⟩

def StaffTables.namedPermissions (t : StaffTables) (names : List (Option String)) :
    List PermissionRow := names.filterMap fun name => name.bind t.permissionNamed

theorem addNamedPermissions_iff (there : t.role roleId ≠ none) (names : List (Option String)) :
    (addNamedPermissions roleId names t).1 = true ↔
      none ∉ names ∧ ((t.namedPermissions names).map (·.id)).Nodup ∧
        ∀ permission ∈ t.namedPermissions names, ⟨roleId, permission.id⟩ ∉ t.rolePermissions := by
  induction names generalizing t with
  | nil => simp [addNamedPermissions, StaffTables.namedPermissions]
  | cons name rest ih =>
    cases name with
    | none => simp [addNamedPermissions]
    | some permName =>
      rw [addNamedPermissions]
      cases known : t.permissionNamed permName with
      | none =>
        have passed : t.namedPermissions (some permName :: rest) = t.namedPermissions rest := by
          simp [StaffTables.namedPermissions, known]
        rw [passed]
        simp only [List.mem_cons, reduceCtorEq, false_or]
        exact ih there
      | some permission =>
        have taken : t.namedPermissions (some permName :: rest) =
            permission :: t.namedPermissions rest := by
          simp [StaffTables.namedPermissions, known]
        rw [taken, List.map_cons, List.nodup_cons, List.forall_mem_cons]
        dsimp only
        rw [StaffTables.createRolePermission]
        by_cases held : (⟨roleId, permission.id⟩ : RolePermission) ∈ t.rolePermissions
        · rw [if_pos (.inr held)]
          simp [held]
        · rw [if_neg (not_or.mpr ⟨there, held⟩)]
          let written : StaffTables :=
            { t with rolePermissions := t.rolePermissions ++ [⟨roleId, permission.id⟩] }
          have later := ih (t := written) there
          have same : written.namedPermissions rest = t.namedPermissions rest := rfl
          rw [same] at later
          have fresh : (∀ other ∈ t.namedPermissions rest,
              ⟨roleId, other.id⟩ ∉ written.rolePermissions) ↔
              permission.id ∉ (t.namedPermissions rest).map (·.id) ∧
                ∀ other ∈ t.namedPermissions rest, ⟨roleId, other.id⟩ ∉ t.rolePermissions := by
            simp only [written, List.mem_append, List.mem_singleton, not_or,
              RolePermission.mk.injEq, true_and, List.mem_map, not_exists, not_and]
            constructor
            · intro both
              exact ⟨fun other listed => (both other listed).2, fun other listed =>
                (both other listed).1⟩
            · rintro ⟨apart, free⟩ other listed
              exact ⟨free other listed, apart other listed⟩
          refine later.trans ?_
          rw [fresh]
          simp only [List.mem_cons, reduceCtorEq, false_or, held, not_false_iff, true_and]
          tauto

theorem addNamedPermissions_roles (roleId : Nat) (names : List (Option String)) (t : StaffTables) :
    (addNamedPermissions roleId names t).2.roles = t.roles := by
  induction names generalizing t with
  | nil => rfl
  | cons name rest ih =>
    cases name with
    | none => rfl
    | some permName =>
      rw [addNamedPermissions]
      cases t.permissionNamed permName with
      | none => exact ih t
      | some permission =>
        dsimp only
        unfold StaffTables.createRolePermission
        split
        · rfl
        · next written made =>
          split at made
          · cases made
          · cases made
            exact ih _

def StaffTables.CanName (t : StaffTables) (names : List (Option String)) : Prop :=
  none ∉ names ∧ ((t.namedPermissions names).map (·.id)).Nodup

theorem createRole_unchanged_iff (constraints : t.Constraints) (body : CreateRoleBody)
    (newId : Nat) :
    ((createRole t body newId).1.isError = true → (createRole t body newId).2 = t) ↔
      ∀ role, createdRole t body newId = .ok role → t.CanName (body.permissions.getD []) := by
  rw [createRole]
  cases checked : createdRole t body newId with
  | error refusal => exact iff_of_true (fun _ => rfl) fun _ => nofun
  | ok role =>
    obtain ⟨_, new_id, _, _⟩ := createdRole_ok checked
    have there : (t.addRole role).role role.id ≠ none := by
      rw [Ne, StaffTables.role_eq_none, not_not, StaffTables.addRole, List.map_append]
      exact List.mem_append_right _ (List.mem_singleton_self _)
    have loop := addNamedPermissions_iff there (body.permissions.getD [])
    have fresh : ∀ permission ∈ (t.addRole role).namedPermissions (body.permissions.getD []),
        ⟨role.id, permission.id⟩ ∉ (t.addRole role).rolePermissions := by
      intro permission _ held
      exact new_id (constraints.foreignKeys.rolePermission _ held)
    have kept := addNamedPermissions_roles role.id (body.permissions.getD [])
      (t.addRole role)
    simp only [Except.ok.injEq, forall_eq']
    split
    · next after ran =>
      rw [ran] at loop
      exact iff_of_true (fun error => Bool.noConfusion error)
        ⟨(loop.mp rfl).1, (loop.mp rfl).2.1⟩
    · next after ran =>
      rw [ran] at loop kept
      apply iff_of_false
      · intro unchanged
        have same : after.roles = t.roles := congrArg StaffTables.roles (unchanged rfl)
        have longer := congrArg List.length (kept.symm.trans same)
        simp [StaffTables.addRole] at longer
      · rintro ⟨texts, distinct⟩
        exact Bool.false_ne_true (loop.mpr ⟨texts, distinct, fresh⟩)

end Roles

end LeaderProduct
