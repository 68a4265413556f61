import LeaderProduct.OwnProfile
import LeaderProduct.Transition

/-! The departments whose appeals a user manages, and what the own requests of the user do to
them. -/
namespace LeaderProduct
open RowTable Transition

section Managers
variable (t : StaffTables) (userId : Nat)

def StaffTables.roleName (roleId : Nat) : String := ((t.role roleId).map (·.name)).getD ""

def StaffTables.profileDepartment : Option Nat :=
  (((t.employee userId).bind (·.departmentId)).bind t.department).map (·.id)

def StaffTables.userMini : Option UserMini :=
  (t.user userId).map fun user =>
    { roleName := t.roleName user.roleId
      departmentRoles := (t.departmentRoles.filter (fun row => row.userId == userId)).map
        fun row => ⟨row.departmentId, t.roleName row.roleId⟩
      departmentId := t.profileDepartment userId }

def getManagedDepartmentIds : Option UserMini → List Nat
  | none => []
  | some user =>
    if isAdminRole user then t.departments.map (·.id)
    else
      ((user.departmentRoles.filter (fun own => own.roleName == "department_manager")).map
          (·.departmentId) ++
        if user.roleName == "department_manager" then (truthy user.departmentId).toList
        else []).eraseDups

def StaffTables.manages (departmentId : Nat) : Bool :=
  (t.userMini userId).any (fun user => isDepartmentManager user departmentId)

def StaffTables.managedIds : List Nat := getManagedDepartmentIds t (t.userMini userId)

structure NeverWidens (start : StaffTables) (userId : Nat) (t : StaffTables) : Prop where
  manages : ∀ departmentId, t.manages userId departmentId = true →
    start.manages userId departmentId = true
  managedIds : t.managedIds userId ⊆ start.managedIds userId

def ownStep (userId : Nat) (t : StaffTables) (request : OwnRequest) : StaffTables :=
  (request.answer t userId).2

/-- A manager by the global role moves the own profile to no department that was not managed at
the start. -/
def StaysWithin (start : StaffTables) (userId : Nat) (t : StaffTables) (request : OwnRequest) :
    Prop :=
  (∃ user, t.userMini userId = some user ∧ user.roleName = "department_manager") →
    ∀ departmentId, request.movesTo t userId = some departmentId → departmentId ≠ 0 →
      start.manages userId departmentId = true

end Managers

variable {departmentId : Nat}

section Grants
variable {start t : StaffTables} {userId : Nat}

structure SameGrants (start t : StaffTables) (userId : Nat) : Prop where
  roles : t.roles = start.roles
  departments : t.departments = start.departments
  departmentRoles : t.departmentRoles = start.departmentRoles
  standing : (t.user userId).map StaffUser.standing = (start.user userId).map StaffUser.standing

theorem SameGrants.refl : SameGrants t t userId := ⟨rfl, rfl, rfl, rfl⟩

theorem SameGrants.own (same : SameGrants start t userId) (request : OwnRequest) :
    SameGrants start (ownStep userId t request) userId := by
  have effect := own_effect t userId request
  exact ⟨effect.roles.trans same.roles, effect.departments.trans same.departments,
    effect.departmentRoles.trans same.departmentRoles, effect.standing.trans same.standing⟩

theorem SameGrants.userMini (same : SameGrants start t userId) :
    t.userMini userId = (start.userMini userId).map fun user =>
      { user with departmentId := t.profileDepartment userId } := by
  have named : t.roleName = start.roleName := by
    funext roleId
    simp [StaffTables.roleName, StaffTables.role, same.roles]
  have standing := same.standing
  unfold StaffTables.userMini
  rw [named, same.departmentRoles]
  cases here : t.user userId with
  | none =>
    rw [here] at standing
    cases there : start.user userId with
    | none => rfl
    | some old => simp [there] at standing
  | some user =>
    rw [here] at standing
    cases there : start.user userId with
    | none => simp [there] at standing
    | some old =>
      have role : user.roleId = old.roleId := by
        have both : user.standing = old.standing := by simpa [there] using standing
        exact congrArg Prod.fst both
      simp [role]

variable {user : UserMini}

theorem isDepartmentManager_iff :
    isDepartmentManager user departmentId = true ↔
      (∃ own ∈ user.departmentRoles, own.roleName = "department_manager" ∧
        (departmentId = 0 ∨ own.departmentId = departmentId)) ∨
      user.roleName = "department_manager" ∧
        (departmentId = 0 ∨ user.departmentId = some departmentId) := by
  simp [isDepartmentManager]

theorem mem_getManagedDepartmentIds (other : isAdminRole user = false) :
    departmentId ∈ getManagedDepartmentIds t (some user) ↔
      (∃ own ∈ user.departmentRoles, own.roleName = "department_manager" ∧
        own.departmentId = departmentId) ∨
      user.roleName = "department_manager" ∧ user.departmentId = some departmentId ∧
        departmentId ≠ 0 := by
  simp only [getManagedDepartmentIds, other, Bool.false_eq_true, if_false, List.mem_eraseDups,
    List.mem_append, List.mem_map, List.mem_filter, beq_iff_eq]
  apply or_congr
  · simp only [and_assoc]
  · by_cases manager : user.roleName = "department_manager"
    · simp [manager, truthy]
    · simp [manager]

theorem neverWidens_iff (same : SameGrants start t userId)
    (found : start.userMini userId = some user) :
    NeverWidens start userId t ↔
      (user.roleName = "department_manager" → ∀ departmentId,
        t.profileDepartment userId = some departmentId → departmentId ≠ 0 →
          start.manages userId departmentId = true) := by
  have now : t.userMini userId =
      some { user with departmentId := t.profileDepartment userId } := by
    rw [same.userMini, found]
    rfl
  constructor
  · intro law manager departmentId placed positive
    apply law.manages
    rw [StaffTables.manages, now, Option.any_some, isDepartmentManager_iff]
    exact .inr ⟨manager, .inr placed⟩
  · intro within
    constructor
    · intro departmentId managed
      rw [StaffTables.manages, now, Option.any_some, isDepartmentManager_iff] at managed
      by_cases zero : departmentId = 0
      · rw [StaffTables.manages, found, Option.any_some, isDepartmentManager_iff]
        rcases managed with by_department | ⟨manager, _⟩
        · exact .inl by_department
        · exact .inr ⟨manager, .inl zero⟩
      · rcases managed with by_department | ⟨manager, none_or_placed⟩
        · rw [StaffTables.manages, found, Option.any_some, isDepartmentManager_iff]
          exact .inl by_department
        · exact within manager departmentId (none_or_placed.resolve_left zero) zero
    · intro departmentId managed
      rw [StaffTables.managedIds, now] at managed
      rw [StaffTables.managedIds, found]
      cases admin : isAdminRole user with
      | true =>
        have admin_now : isAdminRole { user with departmentId := t.profileDepartment userId } =
            true := admin
        rw [getManagedDepartmentIds, if_pos admin_now, same.departments] at managed
        rw [getManagedDepartmentIds, if_pos admin]
        exact managed
      | false =>
        have other_now : isAdminRole { user with departmentId := t.profileDepartment userId } =
            false := admin
        rw [mem_getManagedDepartmentIds other_now] at managed
        rw [mem_getManagedDepartmentIds admin]
        rcases managed with by_department | ⟨manager, placed, positive⟩
        · exact .inl by_department
        · have before := within manager departmentId placed positive
          rw [StaffTables.manages, found, Option.any_some, isDepartmentManager_iff] at before
          rcases before with ⟨own, member, named, place⟩ | ⟨_, place⟩
          · exact .inl ⟨own, member, named, place.resolve_left positive⟩
          · exact .inr ⟨manager, place.resolve_left positive, positive⟩

theorem neverWidens_of_absent (same : SameGrants start t userId)
    (absent : start.userMini userId = none) : NeverWidens start userId t := by
  have now : t.userMini userId = none := by
    rw [same.userMini, absent]
    rfl
  constructor
  · intro departmentId managed
    rw [StaffTables.manages, now] at managed
    cases managed
  · intro departmentId managed
    rw [StaffTables.managedIds, now] at managed
    cases managed

theorem neverWidens_self : NeverWidens t userId t := ⟨fun _ => id, List.Subset.refl _⟩

end Grants

section Moves
variable {start t : StaffTables} {userId : Nat}

theorem knownDepartment_eq_some {department : Option IdParam}
    (known : t.knownDepartment department = some departmentId) :
    ∃ row, t.department departmentId = some row ∧ row.id = departmentId := by
  unfold StaffTables.knownDepartment at known
  split at known
  · next given =>
    split at known
    · cases known
    · next there =>
      cases known
      obtain ⟨row, found⟩ := Option.ne_none_iff_exists'.mp there
      exact ⟨row, found, by simpa using List.find?_some found⟩
  · cases known

theorem movesTo_known {request : OwnRequest}
    (moves : request.movesTo t userId = some departmentId) :
    ∃ row, t.department departmentId = some row ∧ row.id = departmentId := by
  unfold OwnRequest.movesTo at moves
  split at moves
  · split at moves
    · split at moves
      · exact knownDepartment_eq_some moves
      · cases moves
    · split at moves
      · exact knownDepartment_eq_some moves
      · cases moves
    · cases moves
  · cases moves

theorem profileDepartment_own (request : OwnRequest) :
    (ownStep userId t request).profileDepartment userId =
      (request.movesTo t userId).or (t.profileDepartment userId) := by
  have effect := own_effect t userId request
  have departments : (ownStep userId t request).department = t.department := by
    funext departmentId
    exact congrArg (List.find? (fun department => department.id == departmentId))
      effect.departments
  unfold StaffTables.profileDepartment
  rw [departments, show ((ownStep userId t request).employee userId).bind (·.departmentId) = _ from
    effect.department]
  cases moves : request.movesTo t userId with
  | none => rfl
  | some departmentId =>
    obtain ⟨row, found, own⟩ := movesTo_known moves
    simp [found, own]

theorem neverWidens_own_iff (same : SameGrants start t userId) (law : NeverWidens start userId t)
    (request : OwnRequest) :
    NeverWidens start userId (ownStep userId t request) ↔
      StaysWithin start userId t request := by
  cases found : start.userMini userId with
  | none =>
    have now : t.userMini userId = none := by
      rw [same.userMini, found]
      rfl
    refine iff_of_true (neverWidens_of_absent (same.own request) found) ?_
    rintro ⟨user, there, _⟩
    rw [now] at there
    cases there
  | some user =>
    have now : t.userMini userId =
        some { user with departmentId := t.profileDepartment userId } := by
      rw [same.userMini, found]
      rfl
    rw [neverWidens_iff same found] at law
    rw [neverWidens_iff (same.own request) found, profileDepartment_own]
    constructor
    · rintro later ⟨held, there, manager⟩ departmentId moves positive
      rw [now] at there
      cases there
      apply later manager departmentId _ positive
      rw [moves, Option.some_or]
    · intro within manager departmentId placed positive
      cases moves : request.movesTo t userId with
      | none =>
        rw [moves, Option.none_or] at placed
        exact law manager departmentId placed positive
      | some target =>
        rw [moves, Option.some_or] at placed
        cases placed
        exact within ⟨_, now, manager⟩ departmentId moves positive

/-- The departments that a user manages never widen exactly when a manager by the global role
moves the own profile only to departments managed at the start. -/
theorem managed_never_widen_iff (start : StaffTables) (userId : Nat) (requests : List OwnRequest) :
    Always (ownStep userId) (NeverWidens start userId) start requests ↔
      EachStep (ownStep userId) (StaysWithin start userId) start requests :=
  always_iff_eachStep_of_inv (J := fun t => SameGrants start t userId)
    (fun _ request same => same.own request)
    (fun _ request same law => neverWidens_own_iff same law request) .refl neverWidens_self
    requests

def managerTables : StaffTables where
  users := [⟨7, none, none, none, none, none, .active, 3, some .employee, false, false⟩]
  employees := [⟨7, some 1, some 1, .active, none, none⟩]
  roles := [⟨3, "department_manager", none, none⟩]
  permissions := []
  rolePermissions := []
  departments := [⟨1, "Продажи"⟩, ⟨2, "Склад"⟩]
  departmentRoles := []
  appeals := []

theorem moving_widens_managed :
    ¬ Always (ownStep 7) (NeverWidens managerTables 7) managerTables
      [.updateMyDepartment (some (.id 2))] := by
  intro law
  have widened := law.last.manages 2 (by decide)
  revert widened
  decide

end Moves

end LeaderProduct
