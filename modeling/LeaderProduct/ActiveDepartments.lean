import LeaderProduct.CurrentRoles

/-! The active department of an employee. It is the own department or one in which the user has a
role; the deletion of a role takes such grounds away and leaves the choice that rested on them. -/
namespace LeaderProduct
open Transition

section Requests
variable (t : StaffTables)

def userDepartmentRefusal : Refusal := ⟨500, "Ошибка обновления отдела"⟩

/-- `PUT /:userId/department`. -/
def updateUserDepartment : IdParam → Option IdParam → AdminAnswer × StaffTables
  | _, none => (.error ⟨400, "ID отдела обязателен"⟩, t)
  | _, some .nan => (.error ⟨400, "Некорректный ID отдела"⟩, t)
  | .nan, _ => (.error ⟨400, "Некорректный ID пользователя"⟩, t)
  | .unfit, _ => (.error userDepartmentRefusal, t)
  | .id userId, department =>
    if t.user userId = none then (.error ⟨404, "Пользователь не найден"⟩, t)
    else updateMyDepartment t userId department

/-- `PUT /:userId/active-department`. -/
def updateUserActiveDepartment (department : Option IdParam) : IdParam → AdminAnswer × StaffTables
  | .nan => (.error ⟨400, "Некорректный ID пользователя"⟩, t)
  | .unfit => (.error ⟨500, "Ошибка обновления активного отдела"⟩, t)
  | .id userId =>
    if t.user userId = none then (.error ⟨404, "Пользователь не найден"⟩, t)
    else updateMyActiveDepartment t userId department

structure AddressBody where
  street : BodyField String
  city : BodyField String
  state : BodyField String
  postalCode : BodyField String
  country : BodyField String

def AddressBody.fits (address : AddressBody) : Bool :=
  address.street.fits && address.city.fits && address.state.fits && address.postalCode.fits &&
    address.country.fits

def ensureAddressValid (address : AddressBody) : Option Refusal :=
  if !address.street.isFilled || !address.city.isFilled || !address.country.isFilled then
    some ⟨400, "Для адреса обязательны поля street, city, country"⟩
  else none

structure PatchUserProfileBody where
  status : BodyField ProfileStatus
  departmentId : Option (Option IdParam)
  address : Option (Option AddressBody)

def userProfileRefusal : Refusal := ⟨500, "Ошибка обновления профиля пользователя"⟩

def noProfileData : Refusal := ⟨400, "Нет данных для обновления"⟩

/-- The profile of a client or a supplier: its address and status are in tables of their own. -/
def patchOtherProfile (body : PatchUserProfileBody) (found : Bool) (missing : String) :
    AdminAnswer :=
  if !found then .error ⟨404, missing⟩
  else
    match body.address with
    | some (some address) =>
      match ensureAddressValid address with
      | some refusal => .error refusal
      | none => if address.fits then .success else .error userProfileRefusal
    | some none => .success
    | none => if body.status.given then .success else .error noProfileData

def patchEmployeeProfile (body : PatchUserProfileBody) (userId : Nat) : AdminAnswer × StaffTables :=
  if t.employee userId = none then (.error ⟨404, "Профиль сотрудника не найден"⟩, t)
  else
    match departmentOfPatch t body.departmentId with
    | .error refusal => (.error refusal, t)
    | .ok department =>
      if !body.status.given && department.isNone then (.error noProfileData, t)
      else
        (.success, t.changeEmployee userId fun row =>
          { row with
            status := (body.status.write (some row.status)).getD row.status
            departmentId := department.getD row.departmentId
            activeDepartmentId := department.getD row.activeDepartmentId })

/-- `PATCH /:userId/profiles/:type`. The type is `none` where it is none of the three. -/
def patchUserProfile (type : Option ProfileType) (body : PatchUserProfileBody) :
    IdParam → AdminAnswer × StaffTables
  | .nan => (.error ⟨400, "Некорректный ID пользователя"⟩, t)
  | userId =>
    match type with
    | none => (.error ⟨400, "Некорректный тип профиля"⟩, t)
    | some type =>
      if body.status = .null ∨ body.status = .unfit then
        (.error ⟨400, "Некорректный статус профиля"⟩, t)
      else
        match userId with
        | .id userId =>
          match type with
          | .employee => patchEmployeeProfile t body userId
          | .client =>
            (patchOtherProfile body ((t.user userId).any (·.hasClientProfile))
              "Клиентский профиль не найден", t)
          | .supplier =>
            (patchOtherProfile body ((t.user userId).any (·.hasSupplierProfile))
              "Профиль поставщика не найден", t)
        | _ => (.error userProfileRefusal, t)

inductive DepartmentEvent where
  | staff (event : StaffEvent)
  | updateUserDepartment (userId : IdParam) (department : Option IdParam)
  | updateUserActiveDepartment (userId : IdParam) (department : Option IdParam)
  | patchUserProfile (userId : IdParam) (type : Option ProfileType) (body : PatchUserProfileBody)

def departmentStep (t : StaffTables) : DepartmentEvent → StaffTables
  | .staff event => t.after event
  | .updateUserDepartment userId department =>
      (LeaderProduct.updateUserDepartment t userId department).2
  | .updateUserActiveDepartment userId department =>
      (LeaderProduct.updateUserActiveDepartment t department userId).2
  | .patchUserProfile userId type body => (LeaderProduct.patchUserProfile t type body userId).2

end Requests

section Law
variable (t : StaffTables)

def StaffTables.OneProfile : Prop := (t.employees.map (·.userId)).Nodup

def StaffTables.Rightful (row : EmployeeRow) : Prop :=
  row.activeDepartmentId = none ∨ row.activeDepartmentId = row.departmentId ∨
    ∃ grant ∈ t.departmentRoles, grant.userId = row.userId ∧
      row.activeDepartmentId = some grant.departmentId

def StaffTables.OwnActive : Prop := ∀ row ∈ t.employees, t.Rightful row

instance : Decidable t.OneProfile :=
  inferInstanceAs (Decidable (t.employees.map (·.userId)).Nodup)

instance (row : EmployeeRow) : Decidable (t.Rightful row) :=
  inferInstanceAs (Decidable (row.activeDepartmentId = none ∨
    row.activeDepartmentId = row.departmentId ∨ ∃ grant ∈ t.departmentRoles,
      grant.userId = row.userId ∧ row.activeDepartmentId = some grant.departmentId))

instance : Decidable t.OwnActive :=
  inferInstanceAs (Decidable (∀ row ∈ t.employees, t.Rightful row))

def StaffTables.deletedRole (refusesNull : Bool) : IdParam → Option Nat
  | .id roleId =>
    (t.role roleId).bind fun role =>
      if systemRoleNames.contains role.name then none
      else if (t.roleNamed "user").isNone &&
          (refusesNull || t.users.any (fun user => user.roleId == roleId)) then none
      else some roleId
  | _ => none

def StaffTables.SoleGround (roleId : Nat) : Prop :=
  ∃ row ∈ t.employees, ∃ departmentId, row.activeDepartmentId = some departmentId ∧
    row.departmentId ≠ some departmentId ∧ ∀ grant ∈ t.departmentRoles,
      grant.userId = row.userId → grant.departmentId = departmentId → grant.roleId = roleId

/-- The event deletes no role on which somebody's active department rests. -/
def StrandsNobody (t : StaffTables) : DepartmentEvent → Prop
  | .staff (.admin refusesNull (.deleteRole roleId)) =>
    ∀ id, t.deletedRole refusesNull roleId = some id → ¬ t.SoleGround id
  | _ => True

end Law

section Profiles
variable {t after : StaffTables}

def EmployeeRow.SamePlace (old row : EmployeeRow) : Prop :=
  row.userId = old.userId ∧ row.departmentId = old.departmentId ∧
    row.activeDepartmentId = old.activeDepartmentId

theorem EmployeeRow.SamePlace.refl (row : EmployeeRow) : row.SamePlace row := ⟨rfl, rfl, rfl⟩

theorem StaffTables.Rightful.moved {old row : EmployeeRow} (same : old.SamePlace row)
    (grants : t.departmentRoles ⊆ after.departmentRoles) (own : t.Rightful old) :
    after.Rightful row := by
  obtain ⟨user, department, active⟩ := same
  unfold StaffTables.Rightful
  rw [user, department, active]
  rcases own with unset | home | ⟨grant, known, theirs, there⟩
  · exact .inl unset
  · exact .inr (.inl home)
  · exact .inr (.inr ⟨grant, grants known, theirs, there⟩)

structure Honours (t after : StaffTables) : Prop where
  grants : t.departmentRoles ⊆ after.departmentRoles
  profiles : ∀ row ∈ after.employees,
    after.Rightful row ∨ ∃ old ∈ t.employees, old.SamePlace row
  keys : t.OneProfile → after.OneProfile

theorem Honours.ownActive (kept : Honours t after) (law : t.OwnActive) : after.OwnActive := by
  intro row known
  rcases kept.profiles row known with own | ⟨old, there, same⟩
  · exact own
  · exact (law old there).moved same kept.grants

theorem Honours.of_same (employees : after.employees = t.employees)
    (grants : after.departmentRoles = t.departmentRoles) : Honours t after where
  grants := by simp [grants]
  profiles := by
    intro row known
    rw [employees] at known
    exact .inr ⟨row, known, .refl row⟩
  keys := by
    intro keys
    unfold StaffTables.OneProfile
    rw [employees]
    exact keys

theorem Honours.refl : Honours t t := .of_same rfl rfl

theorem Honours.changeUser (userId : Nat) (change : StaffUser → StaffUser) :
    Honours t (t.changeUser userId change) := .of_same rfl rfl

theorem Honours.trans {mid : StaffTables} (first : Honours t mid) (next : Honours mid after) :
    Honours t after where
  grants := fun _ here => next.grants (first.grants here)
  profiles := by
    intro row known
    rcases next.profiles row known with own | ⟨between, there, same⟩
    · exact .inl own
    · rcases first.profiles between there with own | ⟨old, start, before⟩
      · exact .inl (own.moved same next.grants)
      · obtain ⟨user, department, active⟩ := before
        exact .inr ⟨old, start, same.1.trans user, same.2.1.trans department,
          same.2.2.trans active⟩
  keys := fun keys => next.keys (first.keys keys)

theorem Honours.changeEmployee (userId : Nat) {change : EmployeeRow → EmployeeRow}
    (keeps : ∀ row, (change row).userId = row.userId)
    (places : ∀ row ∈ t.employees, row.userId = userId →
      t.Rightful (change row) ∨ row.SamePlace (change row)) :
    Honours t (t.changeEmployee userId change) where
  grants := List.Subset.refl _
  profiles := by
    intro row known
    obtain ⟨old, there, rfl⟩ := List.mem_map.mp known
    split
    · next theirs =>
      rcases places old there theirs with own | same
      · exact .inl own
      · exact .inr ⟨old, there, same⟩
    · exact .inr ⟨old, there, .refl old⟩
  keys := by
    intro keys
    have same : (t.changeEmployee userId change).employees.map (·.userId) =
        t.employees.map (·.userId) := RowTable.keys_modify keeps t.employees userId
    unfold StaffTables.OneProfile
    rw [same]
    exact keys

theorem Honours.place (userId : Nat) {change : EmployeeRow → EmployeeRow}
    (keeps : ∀ row, (change row).userId = row.userId)
    (together : ∀ row, (change row).activeDepartmentId = (change row).departmentId ∨
      row.SamePlace (change row)) : Honours t (t.changeEmployee userId change) := by
  apply Honours.changeEmployee userId keeps
  intro row _ _
  rcases together row with home | same
  · exact .inl (.inr (.inl home))
  · exact .inr same

theorem honours_updateMyDepartment (userId : Nat) (department : Option IdParam) :
    Honours t (updateMyDepartment t userId department).2 := by
  rcases department with _ | _ | _ | departmentId
  · exact .refl
  · exact .refl
  · exact .refl
  · rw [updateMyDepartment]
    split
    · exact .refl
    · exact .place userId (fun _ => rfl) fun _ => .inl rfl

theorem rightful_of_canUse (keys : t.OneProfile) {userId departmentId : Nat} {row : EmployeeRow}
    (known : row ∈ t.employees) (theirs : row.userId = userId)
    (usable : canUseDepartmentAsActive t userId departmentId = true) :
    t.Rightful { row with activeDepartmentId := some departmentId } := by
  have found : t.employee userId = some row := by
    subst theirs
    exact RowTable.lookup_of_mem keys known
  simp only [canUseDepartmentAsActive, found, Bool.or_eq_true, beq_iff_eq, List.any_eq_true,
    Bool.and_eq_true] at usable
  rcases usable with home | ⟨grant, there, user, here⟩
  · exact .inr (.inl home.symm)
  · exact .inr (.inr ⟨grant, there, user.trans theirs.symm, congrArg some here.symm⟩)

theorem honours_updateMyActiveDepartment (keys : t.OneProfile) (userId : Nat)
    (department : Option IdParam) : Honours t (updateMyActiveDepartment t userId department).2 := by
  unfold updateMyActiveDepartment
  split
  · exact .refl
  · rcases department with _ | _ | _ | departmentId
    · refine Honours.changeEmployee userId (fun _ => rfl) ?_
      exact fun _ _ _ => .inl (.inl rfl)
    · exact .refl
    · exact .refl
    · dsimp only
      split
      · exact .refl
      · split
        · next usable =>
          refine Honours.changeEmployee userId (fun _ => rfl) ?_
          exact fun row known theirs => .inl (rightful_of_canUse keys known theirs usable)
        · exact .refl

theorem Honours.createdProfile {created : StaffTables} (kept : Honours t created) (userId : Nat)
    (names : ProfileNames) (type : ProfileType) (message : String) :
    Honours t (createdProfile userId created names type message).2 := by
  unfold LeaderProduct.createdProfile
  split
  · exact kept.trans (.of_same rfl rfl)
  · exact kept

theorem Honours.addEmployee {row : EmployeeRow} (absent : t.employee row.userId = none)
    (home : row.activeDepartmentId = row.departmentId) :
    Honours t { t with employees := t.employees ++ [row] } where
  grants := List.Subset.refl _
  profiles := by
    intro given known
    rcases List.mem_append.mp known with old | new
    · exact .inr ⟨given, old, .refl given⟩
    · rw [List.mem_singleton.mp new]
      exact .inl (.inr (.inl home))
  keys := by
    intro keys
    unfold StaffTables.OneProfile
    rw [List.map_append, List.nodup_append]
    refine ⟨keys, by simp, ?_⟩
    intro taken known id new
    obtain ⟨old, there, rfl⟩ := List.mem_map.mp known
    have other := List.find?_eq_none.mp absent old there
    rw [List.map_singleton, List.mem_singleton] at new
    rw [new]
    simpa using other

theorem honours_own (keys : t.OneProfile) (userId : Nat) (request : OwnRequest) :
    Honours t (request.answer t userId).2 := by
  unfold OwnRequest.answer
  split
  · exact .refl
  split
  · cases request with
    | createEmployeeProfile names department =>
      simp only [OwnRequest.handled, createEmployeeProfile]
      split
      · exact .refl
      split
      · exact .refl
      · next absent =>
        rw [not_not] at absent
        rcases department with _ | _ | _ | departmentId
        · exact .refl
        · exact .refl
        · exact .refl
        · dsimp only
          split
          · exact .refl
          · exact (Honours.addEmployee absent rfl).createdProfile userId names .employee _
    | createClientProfile names refusal =>
      simp only [OwnRequest.handled, createClientProfile]
      repeat' split
      all_goals first
        | exact .refl
        | exact (Honours.changeUser userId _).createdProfile userId names .client _
    | createSupplierProfile names refusal =>
      simp only [OwnRequest.handled, createSupplierProfile]
      repeat' split
      all_goals first
        | exact .refl
        | exact (Honours.changeUser userId _).createdProfile userId names .supplier _
    | updateMyDepartment department => exact honours_updateMyDepartment userId department
    | updateMyActiveDepartment department =>
      exact honours_updateMyActiveDepartment keys userId department
    | chooseCurrentProfile type =>
      simp only [OwnRequest.handled]
      unfold chooseCurrentProfile
      repeat' split
      all_goals first | exact .refl | exact .of_same rfl rfl
    | patchMyProfile body =>
      simp only [OwnRequest.handled, patchMyProfile, patchMyProfile.named]
      repeat' split
      all_goals first | exact .refl | exact .of_same rfl rfl
  · exact .refl

theorem honours_patchEmployeeProfile (body : PatchUserProfileBody) (userId : Nat) :
    Honours t (patchEmployeeProfile t body userId).2 := by
  unfold patchEmployeeProfile
  split
  · exact .refl
  · cases departmentOfPatch t body.departmentId with
    | error refusal => exact .refl
    | ok department =>
      dsimp only
      split
      · exact .refl
      · refine Honours.place userId (fun _ => rfl) fun row => ?_
        cases department with
        | none => exact .inr ⟨rfl, rfl, rfl⟩
        | some department => exact .inl rfl

theorem honours_patchUserProfile (type : Option ProfileType) (body : PatchUserProfileBody)
    (userId : IdParam) : Honours t (patchUserProfile t type body userId).2 := by
  unfold patchUserProfile
  repeat' split
  all_goals first | exact .refl | exact honours_patchEmployeeProfile body _

theorem honours_patchUser (body : PatchUserBody) (userId : IdParam) :
    Honours t (patchUser t body userId).2 := by
  have general (userId : Option Nat) : Honours t (patchUserFrom t userId body).2 := by
    have first (named : StaffTables) (done : patchUserRow t userId body = .ok named) :
        Honours t named := by
      obtain ⟨phone, _, done⟩ := (except_bind_ok _ _ _).mp done
      repeat' split at done
      all_goals cases done
      all_goals exact .of_same rfl rfl
    have second (named placed : StaffTables)
        (done : patchDepartment named userId body = .ok placed) : Honours named placed := by
      obtain ⟨given, _, done⟩ := (except_bind_ok _ _ _).mp done
      repeat' split at done
      all_goals cases done
      · exact .refl
      · exact .place _ (fun _ => rfl) fun _ => .inl rfl
    have third (placed after : StaffTables) (done : patchEmployee placed userId body = .ok after) :
        Honours placed after := by
      unfold patchEmployee at done
      dsimp only at done
      repeat' split at done
      all_goals cases done
      · exact .refl
      · exact .place _ (fun _ => rfl) fun _ => .inr ⟨rfl, rfl, rfl⟩
    rw [patchUserFrom]
    cases named : patchUserRow t userId body with
    | error refusal => exact .refl
    | ok t₁ =>
      have one := first t₁ named
      dsimp only
      cases placed : patchDepartment t₁ userId body with
      | error refusal => exact one
      | ok t₂ =>
        have two := one.trans (second t₁ t₂ placed)
        dsimp only
        cases ended : patchEmployee t₂ userId body with
        | error refusal => exact two
        | ok t₃ => exact two.trans (third t₂ t₃ ended)
  cases userId with
  | nan => exact .refl
  | unfit => exact general none
  | id userId => exact general (some userId)

theorem Honours.createRolePermission {row : RolePermission} {written : StaffTables}
    (done : t.createRolePermission row = some written) : Honours t written := by
  unfold StaffTables.createRolePermission at done
  split at done
  · cases done
  · cases done
    exact .of_same rfl rfl

theorem honours_createRolePermissions (roleId : Nat) (permissions : List PermissionRow) :
    Honours t (createRolePermissions roleId permissions t).2 := by
  induction permissions generalizing t with
  | nil => exact .refl
  | cons permission rest ih =>
    rw [createRolePermissions]
    cases done : t.createRolePermission ⟨roleId, permission.id⟩ with
    | none => exact .refl
    | some written => exact (Honours.createRolePermission done).trans ih

theorem honours_addNamedPermissions (roleId : Nat) (names : List (Option String)) :
    Honours t (addNamedPermissions roleId names t).2 := by
  induction names generalizing t with
  | nil => exact .refl
  | cons name rest ih =>
    cases name with
    | none => exact .refl
    | some name =>
      rw [addNamedPermissions]
      cases t.permissionNamed name with
      | none => exact ih
      | some permission =>
        dsimp only
        cases done : t.createRolePermission ⟨roleId, permission.id⟩ with
        | none => exact .refl
        | some written => exact (Honours.createRolePermission done).trans ih

theorem honours_setRolePermissions (roleId : IdParam) (permissions : PermissionNames) :
    Honours t (setRolePermissions t permissions roleId).2 := by
  cases roleId with
  | nan => exact .refl
  | unfit => exact .refl
  | id roleId =>
    have dropped : Honours t (t.dropRolePermissions roleId) := .of_same rfl rfl
    have granted := dropped.trans (honours_createRolePermissions roleId
      (t.permissions.filter fun permission =>
        (permissions.getD []).contains (some permission.name)))
    rw [setRolePermissions]
    dsimp only
    split
    · exact dropped
    · split
      · next after ran => rwa [ran] at granted
      · next after ran => rwa [ran] at granted

theorem honours_createRole (body : CreateRoleBody) (newId : Nat) :
    Honours t (createRole t body newId).2 := by
  rw [createRole]
  cases createdRole t body newId with
  | error refusal => exact .refl
  | ok role =>
    have added : Honours t (t.addRole role) := .of_same rfl rfl
    have granted := added.trans
      (honours_addNamedPermissions role.id (body.permissions.getD []))
    dsimp only
    split
    · next after ran => rwa [ran] at granted
    · next after ran => rwa [ran] at granted

theorem honours_assignDepartmentManager (userId departmentId : IdParam) :
    Honours t (assignDepartmentManager t userId departmentId).2 := by
  unfold assignDepartmentManager
  repeat' split
  all_goals first | exact .refl | skip
  dsimp only
  split
  · exact .refl
  · refine ⟨List.subset_append_left _ _, ?_, id⟩
    exact fun row known => .inr ⟨row, known, .refl row⟩

theorem honours_moderateEmployee (action : Option ModerationAction) (userId : IdParam) :
    Honours t (moderateEmployee t action userId).2 := by
  unfold moderateEmployee
  repeat' split
  all_goals first | exact .refl | skip
  refine Honours.trans ?_ (.changeUser _ _)
  exact .place _ (fun _ => rfl) fun _ => .inr ⟨rfl, rfl, rfl⟩

end Profiles

section Deletions
variable {t after : StaffTables}

theorem ownActive_deleteDepartment (refusesNull : Bool) (departmentId : IdParam)
    (law : t.OwnActive) : (deleteDepartment t refusesNull departmentId).2.OwnActive := by
  cases departmentId with
  | nan => exact law
  | unfit => exact law
  | id departmentId =>
    have cleared : (((t.detachEmployees departmentId).clearActive
        departmentId).dropDepartmentRoles departmentId).OwnActive := by
      intro row known
      obtain ⟨between, there, rfl⟩ := List.mem_map.mp known
      obtain ⟨old, start, rfl⟩ := List.mem_map.mp there
      by_cases home : old.departmentId = some departmentId
      · simp [home, StaffTables.Rightful]
      · rw [if_neg home]
        by_cases active : old.activeDepartmentId = some departmentId
        · simp [active, StaffTables.Rightful]
        · rw [if_neg active]
          rcases law old start with unset | same | ⟨grant, held, theirs, here⟩
          · exact .inl unset
          · exact .inr (.inl same)
          · refine .inr (.inr ⟨grant, List.mem_filter.mpr ⟨held, ?_⟩, theirs, here⟩)
            rw [decide_eq_true_eq]
            rintro rfl
            exact active here
    rw [deleteDepartment]
    split
    · exact cleared
    · split
      · exact cleared
      · exact (Honours.of_same rfl rfl).ownActive cleared

theorem oneProfile_deleteDepartment (refusesNull : Bool) (departmentId : IdParam)
    (keys : t.OneProfile) : (deleteDepartment t refusesNull departmentId).2.OneProfile := by
  have same : (deleteDepartment t refusesNull departmentId).2.employees.map (·.userId) =
      t.employees.map (·.userId) := by
    cases departmentId with
    | nan => rfl
    | unfit => rfl
    | id departmentId =>
      have cleared : (((t.detachEmployees departmentId).clearActive
          departmentId).dropDepartmentRoles departmentId).employees.map (·.userId) =
            t.employees.map (·.userId) := by
        simp only [StaffTables.detachEmployees, StaffTables.clearActive,
          StaffTables.dropDepartmentRoles, List.map_map]
        apply List.map_congr_left
        intro row _
        simp only [Function.comp_apply]
        split <;> split <;> rfl
      rw [deleteDepartment]
      split
      · exact cleared
      · split <;> exact cleared
  unfold StaffTables.OneProfile
  rw [same]
  exact keys

theorem deleteRole_tables (t : StaffTables) (refusesNull : Bool) (param : IdParam) :
    (deleteRole t refusesNull param).2.employees = t.employees ∧
      (deleteRole t refusesNull param).2.departmentRoles =
        match t.deletedRole refusesNull param with
        | none => t.departmentRoles
        | some roleId => t.departmentRoles.filter (fun row => row.roleId ≠ roleId) := by
  cases param with
  | nan => exact ⟨rfl, rfl⟩
  | unfit => exact ⟨rfl, rfl⟩
  | id roleId =>
    rw [deleteRole, StaffTables.deletedRole]
    cases t.role roleId with
    | none => exact ⟨rfl, rfl⟩
    | some role =>
      simp only [Option.bind_some]
      by_cases system : systemRoleNames.contains role.name = true
      · rw [if_pos system, if_pos system]
        exact ⟨rfl, rfl⟩
      · rw [if_neg system, if_neg system]
        cases t.roleNamed "user" with
        | some base => exact ⟨rfl, rfl⟩
        | none =>
          simp only [Option.isNone_none, Bool.true_and]
          split
          · exact ⟨rfl, rfl⟩
          · exact ⟨rfl, rfl⟩

theorem ownActive_without_role_iff {roleId : Nat} (law : t.OwnActive)
    (employees : after.employees = t.employees)
    (grants : after.departmentRoles = t.departmentRoles.filter (fun row => row.roleId ≠ roleId)) :
    after.OwnActive ↔ ¬ t.SoleGround roleId := by
  constructor
  · rintro kept ⟨row, known, departmentId, active, elsewhere, sole⟩
    rw [← employees] at known
    rcases kept row known with unset | home | ⟨grant, held, theirs, here⟩
    · rw [active] at unset
      cases unset
    · exact elsewhere (home.symm.trans active)
    · rw [grants, List.mem_filter, decide_eq_true_eq] at held
      rw [active, Option.some.injEq] at here
      exact held.2 (sole grant held.1 theirs here.symm)
  · intro grounded row known
    rw [employees] at known
    rcases law row known with unset | home | ⟨grant, held, theirs, here⟩
    · exact .inl unset
    · exact .inr (.inl home)
    · by_contra lost
      apply grounded
      refine ⟨row, known, grant.departmentId, here, ?_, ?_⟩
      · intro home
        exact lost (.inr (.inl (here.trans home.symm)))
      · intro other there user department
        by_contra another
        apply lost
        refine .inr (.inr ⟨other, ?_, user, ?_⟩)
        · rw [grants, List.mem_filter, decide_eq_true_eq]
          exact ⟨there, another⟩
        · rw [here, department]

theorem ownActive_deleteRole_iff (law : t.OwnActive) (refusesNull : Bool) (param : IdParam) :
    (deleteRole t refusesNull param).2.OwnActive ↔
      StrandsNobody t (.staff (.admin refusesNull (.deleteRole param))) := by
  obtain ⟨employees, grants⟩ := deleteRole_tables t refusesNull param
  unfold StrandsNobody
  cases deleted : t.deletedRole refusesNull param with
  | none =>
    rw [deleted] at grants
    refine iff_of_true ((Honours.of_same employees grants).ownActive law) ?_
    intro id found
    rw [deleted] at found
    cases found
  | some roleId =>
    rw [deleted] at grants
    rw [ownActive_without_role_iff law employees grants]
    simp [deleted]

end Deletions

section Runs

def DepartmentEvent.isDeletion : DepartmentEvent → Bool
  | .staff (.admin _ (.deleteDepartment _)) => true
  | .staff (.admin _ (.deleteRole _)) => true
  | _ => false

theorem honours_step {t : StaffTables} (keys : t.OneProfile) {event : DepartmentEvent}
    (other : event.isDeletion = false) : Honours t (departmentStep t event) := by
  cases event with
  | staff event =>
    cases event with
    | admin refusesNull request =>
      cases request with
      | deleteDepartment departmentId => cases other
      | deleteRole roleId => cases other
      | setRolePermissions roleId permissions =>
        exact honours_setRolePermissions roleId permissions
      | createRole body newId => exact honours_createRole body newId
      | patchUser userId body => exact honours_patchUser body userId
    | assignRole userId choice =>
      simp only [departmentStep, StaffTables.after, assignRole]
      repeat' split
      all_goals first | exact .refl | exact .changeUser _ _
    | updateRole roleId body =>
      simp only [departmentStep, StaffTables.after]
      unfold updateRole
      repeat' split
      all_goals first | exact .refl | exact .of_same rfl rfl
    | assignDepartmentManager userId departmentId =>
      exact honours_assignDepartmentManager userId departmentId
    | moderateEmployee userId action => exact honours_moderateEmployee action userId
    | own userId request => exact honours_own keys userId request
    | login userId => exact .refl
  | updateUserDepartment userId department =>
    simp only [departmentStep]
    unfold updateUserDepartment
    repeat' split
    all_goals first | exact .refl | exact honours_updateMyDepartment _ _
  | updateUserActiveDepartment userId department =>
    simp only [departmentStep]
    unfold updateUserActiveDepartment
    repeat' split
    all_goals first | exact .refl | exact honours_updateMyActiveDepartment keys _ _
  | patchUserProfile userId type body => exact honours_patchUserProfile type body userId

theorem oneProfile_step (t : StaffTables) (event : DepartmentEvent) (keys : t.OneProfile) :
    (departmentStep t event).OneProfile := by
  cases other : event.isDeletion with
  | false => exact (honours_step keys other).keys keys
  | true =>
    unfold DepartmentEvent.isDeletion at other
    split at other
    · exact oneProfile_deleteDepartment _ _ keys
    · next refusesNull roleId =>
      simp only [departmentStep, StaffTables.after, AdminRequest.answer, StaffTables.OneProfile]
      rw [(deleteRole_tables t refusesNull roleId).1]
      exact keys
    · cases other

theorem ownActive_step_iff (t : StaffTables) (event : DepartmentEvent) (keys : t.OneProfile)
    (law : t.OwnActive) : (departmentStep t event).OwnActive ↔ StrandsNobody t event := by
  cases other : event.isDeletion with
  | false =>
    have strands : StrandsNobody t event := by
      unfold StrandsNobody
      split
      · cases other
      · trivial
    exact iff_of_true ((honours_step keys other).ownActive law) strands
  | true =>
    unfold DepartmentEvent.isDeletion at other
    split at other
    · exact iff_of_true (ownActive_deleteDepartment _ _ law) trivial
    · exact ownActive_deleteRole_iff law _ _
    · cases other

/-- The employee profiles of users, one each, with active departments of their own. -/
abbrev PlacedStaff := { t : StaffTables // t.OneProfile ∧ t.OwnActive }

/-- Every active department stays one of the employee's own exactly when no role is deleted on
which one rests. -/
theorem active_departments_own_iff (start : PlacedStaff) (events : List DepartmentEvent) :
    Always departmentStep StaffTables.OwnActive start.1 events ↔
      EachStep departmentStep StrandsNobody start.1 events :=
  always_iff_eachStep_of_inv oneProfile_step ownActive_step_iff start.2.1 start.2.2 events

def deputyStaff : PlacedStaff where
  val :=
    { users := [⟨1, none, none, none, none, none, .active, 2, some .employee, false, false⟩]
      employees := [⟨1, some 1, some 2, .active, none, none⟩]
      roles := [⟨2, "employee", none, none⟩, ⟨3, "user", none, none⟩, ⟨9, "deputy", none, none⟩]
      permissions := []
      rolePermissions := []
      departments := [⟨1, "a"⟩, ⟨2, "b"⟩]
      departmentRoles := [⟨1, 9, 2⟩]
      appeals := [] }
  property := by decide

/-- The role goes, and the department stays the active one. -/
theorem deleted_role_strands_active :
    ¬ ∀ (start : PlacedStaff) (events : List DepartmentEvent),
      Always departmentStep StaffTables.OwnActive start.1 events := by
  intro always
  have law := always deputyStaff [.staff (.admin true (.deleteRole (.id 9)))]
  revert law
  decide

end Runs

end LeaderProduct
