import Mathlib.Logic.Relation
import LeaderProduct.RoleRefusals
import LeaderProduct.ServiceMenu
import LeaderProduct.StaffRequests

/-! The check of permissions of a request, and what the walks up the parents of a role find. -/
namespace LeaderProduct
open Relation

section Climb
variable {κ : Type} [DecidableEq κ] {parent : κ → Option κ} {rows : List κ}

theorem subset_climb (fuel : Nat) (current : Option κ) (visited : List κ) :
    visited ⊆ climb parent fuel current visited := by
  induction fuel generalizing current visited with
  | zero => exact List.Subset.refl _
  | succ fuel ih =>
    cases current with
    | none => exact List.Subset.refl _
    | some key =>
      rw [climb]
      split
      · exact List.Subset.refl _
      · exact List.Subset.trans (List.subset_append_left _ _) (ih (parent key) (visited ++ [key]))

variable {fuel : Nat}

theorem climb_sound {current : Option κ} {visited : List κ} {key : κ}
    (found : key ∈ climb parent fuel current visited) :
    key ∈ visited ∨ ∃ first, current = some first ∧
      ReflTransGen (fun child above => parent child = some above) first key := by
  induction fuel generalizing current visited with
  | zero => exact .inl found
  | succ fuel ih =>
    cases current with
    | none => exact .inl found
    | some first =>
      rw [climb] at found
      split at found
      · exact .inl found
      · rcases ih found with old | ⟨above, next, later⟩
        · rcases List.mem_append.mp old with old | last
          · exact .inl old
          · rw [List.mem_singleton] at last
            exact .inr ⟨first, rfl, last ▸ .refl⟩
        · exact .inr ⟨first, rfl, .head next later⟩

theorem climb_ended (fuel : Nat) {visited : List κ}
    (closed : ∀ key ∈ visited, ∀ above, parent key = some above →
      above ∈ visited ∨ none = some above) :
    (∀ first, none = some first → first ∈ climb parent fuel none visited) ∧
      ∀ key ∈ climb parent fuel none visited, ∀ above, parent key = some above →
        above ∈ climb parent fuel none visited := by
  have stays : climb parent fuel none visited = visited := by cases fuel <;> rfl
  rw [stays]
  exact ⟨nofun, fun key member above next => (closed key member above next).resolve_right nofun⟩

section
variable (rooted : ∀ key, (parent key).isSome = true → key ∈ rows)
include rooted

theorem climb_closed {current : Option κ} {visited : List κ} (distinct : visited.Nodup)
    (known : current.isSome = true → ∀ key ∈ visited, key ∈ rows)
    (enough : rows.length + 2 ≤ fuel + visited.length)
    (closed : ∀ key ∈ visited, ∀ above, parent key = some above →
      above ∈ visited ∨ current = some above) :
    (∀ first, current = some first → first ∈ climb parent fuel current visited) ∧
      ∀ key ∈ climb parent fuel current visited, ∀ above, parent key = some above →
        above ∈ climb parent fuel current visited := by
  induction fuel generalizing current visited with
  | zero =>
    cases current with
    | none => exact climb_ended 0 closed
    | some first =>
      have fits := (List.subperm_of_subset distinct (known rfl)).length_le
      omega
  | succ fuel ih =>
    cases current with
    | none => exact climb_ended (fuel + 1) closed
    | some first =>
      rw [climb]
      split
      · next old =>
        refine ⟨fun other same => ?_, fun key member above next => ?_⟩
        · cases same
          exact old
        · rcases closed key member above next with here | here
          · exact here
          · cases here
            exact old
      · next new =>
        have longer : rows.length + 2 ≤ fuel + (visited ++ [first]).length := by
          rw [List.length_append, List.length_singleton]
          omega
        have apart : (visited ++ [first]).Nodup := by
          rw [List.nodup_append]
          refine ⟨distinct, List.nodup_singleton first, fun a old b last => ?_⟩
          rw [List.mem_singleton.mp last]
          intro same
          exact new (same ▸ old)
        have still_known : (parent first).isSome = true → ∀ key ∈ visited ++ [first],
            key ∈ rows := by
          intro goes key member
          rcases List.mem_append.mp member with old | last
          · exact known rfl key old
          · rw [List.mem_singleton.mp last]
            exact rooted first goes
        have still_closed : ∀ key ∈ visited ++ [first], ∀ above, parent key = some above →
            above ∈ visited ++ [first] ∨ parent first = some above := by
          intro key member above next
          rcases List.mem_append.mp member with old | last
          · rcases closed key old above next with here | here
            · exact .inl (List.mem_append_left _ here)
            · cases here
              exact .inl (List.mem_append_right _ (List.mem_singleton_self first))
          · rw [List.mem_singleton.mp last] at next
            exact .inr next
        refine ⟨fun other same => ?_, (ih apart still_known longer still_closed).2⟩
        cases same
        exact subset_climb _ _ _ (List.mem_append_right _ (List.mem_singleton_self first))

theorem climb_closed_from (enough : rows.length + 2 ≤ fuel) (current : Option κ) :
    (∀ first, current = some first → first ∈ climb parent fuel current []) ∧
      ∀ key ∈ climb parent fuel current [], ∀ above, parent key = some above →
        above ∈ climb parent fuel current [] := by
  apply climb_closed rooted List.nodup_nil
  · exact fun _ _ none => absurd none List.not_mem_nil
  · rw [List.length_nil]
    omega
  · exact fun _ none => absurd none List.not_mem_nil

theorem mem_climb_iff (enough : rows.length + 2 ≤ fuel) (current : Option κ) (key : κ) :
    key ∈ climb parent fuel current [] ↔ ∃ first, current = some first ∧
      ReflTransGen (fun child above => parent child = some above) first key := by
  constructor
  · intro found
    rcases climb_sound found with none | reached
    · cases none
    · exact reached
  · rintro ⟨first, here, reached⟩
    obtain ⟨start, closed⟩ := climb_closed_from rooted enough current
    induction reached with
    | refl => exact start first here
    | tail _ next ih => exact closed _ ih _ next

end

end Climb

section Authorization
variable (t : StaffTables)

structure JwtPayload where
  userId : Nat
  role : String
  deriving DecidableEq, Repr

inductive PermissionMode where
  | all
  | any

inductive PermissionGate where
  | next
  | unauthorized
  | forbidden
  deriving DecidableEq, Repr

def StaffTables.climbRounds : Nat := t.roles.length + 2

def StaffTables.parentRoleName (name : String) : Option String :=
  (((t.roleNamed name).bind (·.parentRoleId)).bind (fun id => (t.role id).map (·.name))).filter
    (fun name => name ≠ "")

def StaffTables.getRoleHierarchyByName (roleName : String) : List String :=
  climb t.parentRoleName t.climbRounds ((some roleName).filter (fun name => name ≠ "")) []

def StaffTables.parentRole (id : Nat) : Option Nat := truthy ((t.role id).bind (·.parentRoleId))

def StaffTables.collectRoleChain (roleId : Nat) : List Nat :=
  climb t.parentRole t.climbRounds (truthy (some roleId)) []

def StaffTables.seedRoleIds (user : StaffUser) : List Nat :=
  (truthy (some user.roleId)).toList ++
    (t.departmentRoles.filter (fun row => row.userId == user.id)).map (·.roleId)

def computeUserPermissions (userId : Nat) : List String :=
  match t.user userId with
  | none => []
  | some user =>
    let allRoleIds := (t.seedRoleIds user).flatMap t.collectRoleChain
    (t.rolePermissions.filter (fun row => allRoleIds.contains row.roleId)).flatMap fun row =>
      (t.permissions.filter (fun permission => permission.id == row.permissionId)).map (·.name)

def PermissionMode.holds (mode : PermissionMode) (required permSet : List String) : Bool :=
  match mode with
  | .any => required.any permSet.contains
  | .all => required.all permSet.contains

def authorizePermissions (requiredPermissions : List String) (mode : PermissionMode) :
    Option JwtPayload → PermissionGate
  | none => .unauthorized
  | some user =>
    if (t.getRoleHierarchyByName user.role).any adminRoleNames.contains then .next
    else if mode.holds requiredPermissions (computeUserPermissions t user.userId) then .next
    else .forbidden

structure StaffTables.RoleTables : Prop where
  keys : t.RoleKeys
  rolePermission : ∀ row ∈ t.rolePermissions, row.roleId ∈ t.roles.map (·.id)

def StaffTables.Above : Nat → Nat → Prop :=
  ReflTransGen fun child above => ∃ role ∈ t.roles, role.id = child ∧ role.parentRoleId = some above

def StaffTables.HasAdmin (roleId : Nat) : Prop :=
  ∃ role ∈ t.roles, t.Above roleId role.id ∧ role.name ∈ adminRoleNames

def StaffTables.AdminNow (userId : Nat) : Prop :=
  ∃ user, t.user userId = some user ∧ t.HasAdmin user.roleId

def StaffTables.HasPermission (roleId : Nat) (name : String) : Prop :=
  ∃ role ∈ t.roles, t.Above roleId role.id ∧ ∃ row ∈ t.rolePermissions, row.roleId = role.id ∧
    ∃ permission ∈ t.permissions, permission.id = row.permissionId ∧ permission.name = name

def StaffTables.PermittedNow (userId : Nat) (name : String) : Prop :=
  ∃ user, t.user userId = some user ∧
    (t.HasPermission user.roleId name ∨
      ∃ row ∈ t.departmentRoles, row.userId = userId ∧ t.HasPermission row.roleId name)

def StaffTables.SufficesNow (userId : Nat) (required : List String) : PermissionMode → Prop
  | .all => ∀ name ∈ required, t.PermittedNow userId name
  | .any => ∃ name ∈ required, t.PermittedNow userId name

def StaffTables.AdminNamed (roleName : String) : Prop :=
  roleName ∈ adminRoleNames ∨ ∃ role ∈ t.roles, role.name = roleName ∧ t.HasAdmin role.id

end Authorization

section Find
variable {t : StaffTables}

variable {role : RoleRow}

theorem StaffTables.role_of_mem (keys : t.RoleKeys) (known : role ∈ t.roles) :
    t.role role.id = some role := by
  have found := RowTable.lookup_of_mem keys.ids known
  rw [StaffTables.role, ← found]
  rfl

theorem StaffTables.roleNamed_of_mem (keys : t.RoleKeys) (known : role ∈ t.roles) :
    t.roleNamed role.name = some role := by
  have found := RowTable.lookup_of_mem keys.names known
  rw [StaffTables.roleNamed, ← found]
  rfl

theorem StaffTables.roleNamed_mem {name : String} (found : t.roleNamed name = some role) :
    role ∈ t.roles ∧ role.name = name :=
  ⟨List.mem_of_find?_eq_some found, by simpa using List.find?_some found⟩

theorem parentRole_eq_some (keys : t.RoleKeys) {id above : Nat} :
    t.parentRole id = some above ↔
      above ≠ 0 ∧ ∃ role ∈ t.roles, role.id = id ∧ role.parentRoleId = some above := by
  unfold StaffTables.parentRole truthy
  constructor
  · intro next
    rw [Option.filter_eq_some_iff, Option.bind_eq_some_iff] at next
    obtain ⟨⟨role, found, parent⟩, positive⟩ := next
    obtain ⟨known, own⟩ := StaffTables.role_mem found
    exact ⟨by simpa using positive, role, known, own, parent⟩
  · rintro ⟨positive, role, known, rfl, parent⟩
    rw [StaffTables.role_of_mem keys known, Option.bind_some, parent]
    simp [positive]

end Find

end LeaderProduct
