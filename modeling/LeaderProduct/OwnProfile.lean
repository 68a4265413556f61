import LeaderProduct.StaffRequests

/-! What a request of a user for the own account can change: the department of the profile, the
profile type and the names, and nothing that administrators give. -/
namespace LeaderProduct
open RowTable

section Lookup
variable {t : StaffTables} {userId : Nat}

theorem user_changeUser {change : StaffUser → StaffUser}
    (keeps : ∀ user, (change user).id = user.id) :
    (t.changeUser userId change).user userId = (t.user userId).map change := by
  have found := lookup_modify keeps t.users userId userId
  rw [if_pos rfl] at found
  exact found

theorem employee_changeEmployee {change : EmployeeRow → EmployeeRow}
    (keeps : ∀ row, (change row).userId = row.userId) :
    (t.changeEmployee userId change).employee userId = (t.employee userId).map change := by
  have found := lookup_modify keeps t.employees userId userId
  rw [if_pos rfl] at found
  exact found

end Lookup

section Effect

def StaffTables.knownDepartment (t : StaffTables) : Option IdParam → Option Nat
  | some (.id departmentId) => if t.department departmentId = none then none else some departmentId
  | _ => none

def OwnRequest.movesTo (t : StaffTables) (userId : Nat) (request : OwnRequest) : Option Nat :=
  if t.admits userId then
    match request with
    | .createEmployeeProfile names department =>
      if names.firstName.isFilled && names.lastName.isFilled && (t.employee userId).isNone then
        t.knownDepartment department
      else none
    | .updateMyDepartment department =>
      if (t.employee userId).isSome then t.knownDepartment department else none
    | _ => none
  else none

def OwnRequest.takes (t : StaffTables) (userId : Nat) (request : OwnRequest) :
    Option (Option ProfileType) :=
  if t.admits userId then
    match request with
    | .createEmployeeProfile names _ =>
      if (request.movesTo t userId).isSome && names.fits then some (some .employee) else none
    | .createClientProfile names refusal =>
      if names.firstName.isFilled && !(t.user userId).any (·.hasClientProfile) &&
          refusal.isNone && names.fits then
        some (some .client)
      else none
    | .createSupplierProfile names refusal =>
      if names.firstName.isFilled && !(t.user userId).any (·.hasSupplierProfile) &&
          refusal.isNone && names.fits then
        some (some .supplier)
      else none
    | .chooseCurrentProfile .null => some none
    | .chooseCurrentProfile (.value type) =>
      if (t.user userId).any (fun user => hasProfile t user type) then some (some type) else none
    | _ => none
  else none

def StaffUser.standing (user : StaffUser) : Nat × ProfileStatus := (user.roleId, user.profileStatus)

structure OwnEffect (t after : StaffTables) (userId : Nat) (moves : Option Nat)
    (takes : Option (Option ProfileType)) : Prop where
  roles : after.roles = t.roles
  departments : after.departments = t.departments
  departmentRoles : after.departmentRoles = t.departmentRoles
  appeals : after.appeals = t.appeals
  standing : (after.user userId).map StaffUser.standing = (t.user userId).map StaffUser.standing
  type : (after.user userId).map (·.currentProfileType) =
    (t.user userId).map (fun user => takes.getD user.currentProfileType)
  department : (after.employee userId).bind (·.departmentId) =
    moves.or ((t.employee userId).bind (·.departmentId))
  employed : (t.employee userId).isSome = true → (after.employee userId).isSome = true

variable {t : StaffTables} {userId : Nat}

theorem OwnEffect.nothing : OwnEffect t t userId none none where
  roles := rfl
  departments := rfl
  departmentRoles := rfl
  appeals := rfl
  standing := rfl
  type := rfl
  department := rfl
  employed := id

theorem OwnEffect.changeUser {created : StaffTables} {moves : Option Nat}
    {takes : Option (Option ProfileType)} (before : OwnEffect t created userId moves none)
    {change : StaffUser → StaffUser}
    (keeps : ∀ user, (change user).id = user.id ∧ (change user).standing = user.standing)
    (type : ∀ user, (change user).currentProfileType = takes.getD user.currentProfileType) :
    OwnEffect t (created.changeUser userId change) userId moves takes where
  roles := before.roles
  departments := before.departments
  departmentRoles := before.departmentRoles
  appeals := before.appeals
  standing := by
    rw [user_changeUser (fun user => (keeps user).1), Option.map_map, ← before.standing]
    congr 1
    funext user
    exact (keeps user).2
  type := by
    rw [user_changeUser (fun user => (keeps user).1), Option.map_map]
    have same := before.type
    simp only [Option.getD_none] at same
    have both : (created.user userId).map (fun user => takes.getD user.currentProfileType) =
        (t.user userId).map (fun user => takes.getD user.currentProfileType) := by
      have lifted := congrArg (Option.map fun type => takes.getD type) same
      rw [Option.map_map, Option.map_map] at lifted
      exact lifted
    rw [← both]
    congr 1
    funext user
    exact type user
  department := before.department
  employed := before.employed

theorem OwnEffect.changeEmployee {change : EmployeeRow → EmployeeRow} {moves : Option Nat}
    (keeps : ∀ row, (change row).userId = row.userId)
    (department : ∀ row, t.employee userId = some row →
      (change row).departmentId = moves.or row.departmentId)
    (employed : moves.isSome = true → (t.employee userId).isSome = true) :
    OwnEffect t (t.changeEmployee userId change) userId moves none where
  roles := rfl
  departments := rfl
  departmentRoles := rfl
  appeals := rfl
  standing := rfl
  type := rfl
  department := by
    rw [employee_changeEmployee keeps]
    cases found : t.employee userId with
    | none =>
      rw [found] at employed
      cases moves with
      | none => rfl
      | some moved => cases employed rfl
    | some row =>
      rw [Option.map_some, Option.bind_some, Option.bind_some]
      exact department row found
  employed := by
    intro there
    rw [employee_changeEmployee keeps, Option.isSome_map]
    exact there

theorem OwnEffect.addEmployee {row : EmployeeRow} {moved : Nat} (absent : t.employee userId = none)
    (own : row.userId = userId) (placed : row.departmentId = some moved) :
    OwnEffect t { t with employees := t.employees ++ [row] } userId (some moved) none where
  roles := rfl
  departments := rfl
  departmentRoles := rfl
  appeals := rfl
  standing := rfl
  type := rfl
  department := by
    have found : ({ t with employees := t.employees ++ [row] } : StaffTables).employee userId =
        some row := by
      have appended : lookup EmployeeRow.userId (t.employees ++ [row]) userId =
          (lookup EmployeeRow.userId t.employees userId).or
            (if row.userId = userId then some row else none) := lookup_append _ _ _
      rw [if_pos own] at appended
      have none_before : lookup EmployeeRow.userId t.employees userId = none := absent
      rw [none_before, Option.none_or] at appended
      exact appended
    rw [found, Option.bind_some, placed]
    rfl
  employed := by
    rw [absent]
    exact nofun

theorem effect_createdProfile {created : StaffTables} {moves : Option Nat}
    (before : OwnEffect t created userId moves none) (names : ProfileNames) (type : ProfileType)
    (message : String) :
    OwnEffect t (createdProfile userId created names type message).2 userId moves
      (if names.fits then some (some type) else none) := by
  unfold createdProfile
  split
  · exact before.changeUser (fun _ => ⟨rfl, rfl⟩) fun _ => rfl
  · exact before

theorem effect_createEmployeeProfile (admitted : t.admits userId = true) (names : ProfileNames)
    (department : Option IdParam) :
    OwnEffect t (createEmployeeProfile t userId names department).2 userId
      ((OwnRequest.createEmployeeProfile names department).movesTo t userId)
      ((OwnRequest.createEmployeeProfile names department).takes t userId) := by
  simp only [OwnRequest.takes, OwnRequest.movesTo, admitted, if_true]
  unfold createEmployeeProfile
  cases filled : names.firstName.isFilled && names.lastName.isFilled with
  | false =>
    have refused : (!names.firstName.isFilled || !names.lastName.isFilled ||
        department.isNone) = true := by
      rw [← Bool.not_and, filled]
      rfl
    rw [if_pos refused]
    simp only [Bool.false_and, Bool.false_eq_true, if_false, Option.isSome_none]
    exact .nothing
  | true =>
    cases absent : t.employee userId with
    | some row =>
      simp only [Option.isNone_some, Bool.and_false, Bool.false_eq_true, if_false,
        Option.isSome_none, Bool.false_and]
      split
      · exact .nothing
      · rw [if_pos (by simp)]
        exact .nothing
    | none =>
      rw [← Bool.not_and, filled]
      rcases department with _ | _ | _ | departmentId
      · exact .nothing
      · exact .nothing
      · exact .nothing
      · by_cases missing : t.department departmentId = none
        · simp [StaffTables.knownDepartment, missing]
          exact .nothing
        · simp [StaffTables.knownDepartment, missing]
          exact effect_createdProfile (.addEmployee absent rfl rfl) names .employee _

theorem effect_flagProfile (flag : StaffUser → StaffUser)
    (keeps : ∀ user, (flag user).id = user.id ∧ (flag user).standing = user.standing)
    (same : ∀ user, (flag user).currentProfileType = user.currentProfileType)
    (names : ProfileNames) (type : ProfileType) (message : String) :
    OwnEffect t (createdProfile userId (t.changeUser userId flag) names type message).2 userId none
      (if names.fits then some (some type) else none) :=
  effect_createdProfile (OwnEffect.nothing.changeUser keeps same) names type message

theorem effect_createClientProfile (admitted : t.admits userId = true) (names : ProfileNames)
    (refusal : Option Refusal) :
    OwnEffect t (createClientProfile t userId names refusal).2 userId none
      ((OwnRequest.createClientProfile names refusal).takes t userId) := by
  simp only [OwnRequest.takes, createClientProfile, admitted, if_true]
  cases names.firstName.isFilled with
  | false => exact .nothing
  | true =>
    cases (t.user userId).any (·.hasClientProfile) with
    | true => exact .nothing
    | false =>
      cases refusal with
      | some refusal => exact .nothing
      | none =>
        exact effect_flagProfile (fun user => { user with hasClientProfile := true })
          (fun _ => ⟨rfl, rfl⟩) (fun _ => rfl) names .client _

theorem effect_createSupplierProfile (admitted : t.admits userId = true) (names : ProfileNames)
    (refusal : Option Refusal) :
    OwnEffect t (createSupplierProfile t userId names refusal).2 userId none
      ((OwnRequest.createSupplierProfile names refusal).takes t userId) := by
  simp only [OwnRequest.takes, createSupplierProfile, admitted, if_true]
  cases names.firstName.isFilled with
  | false => exact .nothing
  | true =>
    cases (t.user userId).any (·.hasSupplierProfile) with
    | true => exact .nothing
    | false =>
      cases refusal with
      | some refusal => exact .nothing
      | none =>
        exact effect_flagProfile (fun user => { user with hasSupplierProfile := true })
          (fun _ => ⟨rfl, rfl⟩) (fun _ => rfl) names .supplier _

theorem effect_updateMyDepartment (department : Option IdParam) :
    OwnEffect t (updateMyDepartment t userId department).2 userId
      (if (t.employee userId).isSome then t.knownDepartment department else none) none := by
  rcases department with _ | _ | _ | departmentId
  · simpa [StaffTables.knownDepartment, updateMyDepartment] using OwnEffect.nothing
  · simpa [StaffTables.knownDepartment, updateMyDepartment] using OwnEffect.nothing
  · simpa [StaffTables.knownDepartment, updateMyDepartment] using OwnEffect.nothing
  · rw [updateMyDepartment]
    by_cases missing : t.department departmentId = none
    · rw [if_pos missing]
      simpa [StaffTables.knownDepartment, missing] using OwnEffect.nothing
    · rw [if_neg missing]
      cases employed : t.employee userId with
      | none =>
        simp only [Option.isSome_none, Bool.false_eq_true, if_false]
        refine OwnEffect.changeEmployee (fun _ => rfl) (fun row found => ?_) nofun
        rw [employed] at found
        cases found
      | some row =>
        simp only [Option.isSome_some, if_true, StaffTables.knownDepartment, missing, if_false]
        refine OwnEffect.changeEmployee (fun _ => rfl) (fun _ _ => rfl) fun _ => ?_
        rw [employed]
        rfl

theorem effect_chooseCurrentProfile (admitted : t.admits userId = true)
    (there : t.user userId ≠ none) (type : BodyField ProfileType) :
    OwnEffect t (chooseCurrentProfile t userId type).2 userId none
      ((OwnRequest.chooseCurrentProfile type).takes t userId) := by
  simp only [OwnRequest.takes, admitted, if_true]
  cases type with
  | undefined => exact .nothing
  | unfit => exact .nothing
  | null =>
    rw [chooseCurrentProfile, if_neg there]
    exact OwnEffect.nothing.changeUser (fun _ => ⟨rfl, rfl⟩) fun _ => rfl
  | value type =>
    rw [chooseCurrentProfile]
    cases found : t.user userId with
    | none => exact absurd found there
    | some user =>
      have asked : (some user).any (fun user => hasProfile t user type) =
          hasProfile t user type := rfl
      simp only [asked]
      cases hasProfile t user type with
      | true => exact OwnEffect.nothing.changeUser (fun _ => ⟨rfl, rfl⟩) fun _ => rfl
      | false => exact .nothing

theorem own_effect (t : StaffTables) (userId : Nat) (request : OwnRequest) :
    OwnEffect t (request.answer t userId).2 userId (request.movesTo t userId)
      (request.takes t userId) := by
  unfold OwnRequest.answer
  cases admitted : t.admits userId with
  | false =>
    have nothing : request.movesTo t userId = none ∧ request.takes t userId = none := by
      simp [OwnRequest.movesTo, OwnRequest.takes, admitted]
    rw [nothing.1, nothing.2]
    split
    · exact .nothing
    · exact .nothing
  | true =>
    have there : t.user userId ≠ none := by
      intro absent
      rw [StaffTables.admits, absent] at admitted
      cases admitted
    rw [if_neg there, if_pos rfl]
    cases request with
    | createEmployeeProfile names department =>
      exact effect_createEmployeeProfile admitted names department
    | createClientProfile names refusal =>
      simp only [OwnRequest.movesTo, admitted, if_true]
      exact effect_createClientProfile admitted names refusal
    | createSupplierProfile names refusal =>
      simp only [OwnRequest.movesTo, admitted, if_true]
      exact effect_createSupplierProfile admitted names refusal
    | updateMyDepartment department =>
      simp only [OwnRequest.movesTo, OwnRequest.takes, admitted, if_true]
      exact effect_updateMyDepartment department
    | updateMyActiveDepartment department =>
      simp only [OwnRequest.movesTo, OwnRequest.takes, OwnRequest.handled,
        updateMyActiveDepartment, admitted, if_true]
      repeat' split
      all_goals first
        | exact .nothing
        | refine OwnEffect.changeEmployee (fun _ => rfl) (fun _ _ => rfl) nofun
    | chooseCurrentProfile type =>
      simp only [OwnRequest.movesTo, admitted, if_true]
      exact effect_chooseCurrentProfile admitted there type
    | patchMyProfile body =>
      simp only [OwnRequest.movesTo, OwnRequest.takes, OwnRequest.handled, patchMyProfile,
        patchMyProfile.named, admitted, if_true]
      repeat' split
      all_goals first
        | exact .nothing
        | exact OwnEffect.nothing.changeUser (fun _ => ⟨rfl, rfl⟩) fun _ => rfl

end Effect

end LeaderProduct
