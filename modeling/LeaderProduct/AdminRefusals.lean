import LeaderProduct.RoleRefusals

/-! When a refused request of the administration leaves the tables as they were. -/
namespace LeaderProduct

section Users
variable {t : StaffTables} {userId : Nat} {body : PatchUserBody}

def StaffTables.RefusesUser (t : StaffTables) (userId : Nat) (body : PatchUserBody) : Prop :=
  match phonePatch body.phone with
  | .error _ => True
  | .ok phone => body.hasData = true ∧
      (body.dataFits = false ∨ t.user userId = none ∨ t.takenByOther userId body.email phone = true)

def StaffTables.KeepsUser (t : StaffTables) (userId : Nat) (body : PatchUserBody) : Prop :=
  ∀ phone, phonePatch body.phone = .ok phone → body.hasData = true →
    ∀ user ∈ t.users, user.id = userId → body.patched phone user = user

def StaffTables.RefusesDepartment (t : StaffTables) (body : PatchUserBody) : Prop :=
  ∃ refusal, departmentOfPatch t body.departmentId = .error refusal

def StaffTables.KeepsDepartment (t : StaffTables) (userId : Nat) (body : PatchUserBody) : Prop :=
  ∀ department, departmentOfPatch t body.departmentId = .ok (some department) →
    ∀ row ∈ t.employees, row.userId = userId →
      row.departmentId = department ∧ row.activeDepartmentId = department

def StaffTables.RefusesEmployee (t : StaffTables) (userId : Nat) (body : PatchUserBody) : Prop :=
  let onecUserGuid := normalizeOptionalOnecGuid body.onecUserGuid
  let onecPhysicalPersonGuid := normalizeOptionalOnecGuid body.onecPhysicalPersonGuid
  isValidOnecGuid onecUserGuid = false ∨ isValidOnecGuid onecPhysicalPersonGuid = false ∨
    (¬ (onecUserGuid = none ∧ onecPhysicalPersonGuid = none) ∧
      (t.employee userId = none ∨
        t.guidTakenByOther userId onecUserGuid onecPhysicalPersonGuid = true))

/-- Whatever refuses the patch comes before the first write that changes something. -/
def StaffTables.PatchHarmless (t : StaffTables) (userId : Nat) (body : PatchUserBody) : Prop :=
  t.RefusesUser userId body ∨
    ((t.RefusesDepartment body → t.KeepsUser userId body) ∧
      (t.RefusesEmployee userId body →
        t.KeepsUser userId body ∧ t.KeepsDepartment userId body))

theorem changeUser_eq_iff (change : StaffUser → StaffUser) :
    t.changeUser userId change = t ↔ ∀ user ∈ t.users, user.id = userId → change user = user := by
  have parts : t.changeUser userId change = t ↔
      (t.users.map fun user => if user.id = userId then change user else user) = t.users := by
    constructor
    · exact fun same => congrArg StaffTables.users same
    · intro same
      rw [StaffTables.changeUser, same]
  rw [parts, map_eq_self_iff]
  apply forall₂_congr
  intro user _
  by_cases own : user.id = userId
  · simp [own]
  · simp [own]

theorem changeEmployee_eq_iff (change : EmployeeRow → EmployeeRow) :
    t.changeEmployee userId change = t ↔
      ∀ row ∈ t.employees, row.userId = userId → change row = row := by
  have parts : t.changeEmployee userId change = t ↔
      (t.employees.map fun row => if row.userId = userId then change row else row) =
        t.employees := by
    constructor
    · exact fun same => congrArg StaffTables.employees same
    · intro same
      rw [StaffTables.changeEmployee, same]
  rw [parts, map_eq_self_iff]
  apply forall₂_congr
  intro row _
  by_cases own : row.userId = userId
  · simp [own]
  · simp [own]

theorem patchUserRow_cases (t : StaffTables) (userId : Nat) (body : PatchUserBody) :
    (t.RefusesUser userId body ∧ ∃ refusal, patchUserRow t (some userId) body = .error refusal) ∨
    (¬ t.RefusesUser userId body ∧ ∃ users,
      patchUserRow t (some userId) body = .ok { t with users := users } ∧
        ({ t with users := users } = t ↔ t.KeepsUser userId body)) := by
  unfold StaffTables.RefusesUser StaffTables.KeepsUser patchUserRow
  cases phone : phonePatch body.phone with
  | error refusal => exact .inl ⟨trivial, refusal, rfl⟩
  | ok given =>
    simp only [Except.ok.injEq, forall_eq', bind, Except.bind]
    cases data : body.hasData with
    | false =>
      exact .inr ⟨by simp, t.users, rfl, by simp⟩
    | true =>
      rw [Bool.not_true, if_neg Bool.false_ne_true]
      cases fits : body.dataFits with
      | false => exact .inl ⟨⟨rfl, .inl rfl⟩, _, rfl⟩
      | true =>
        rw [Bool.not_true, if_neg Bool.false_ne_true]
        by_cases missing : t.user userId = none
        · rw [if_pos missing]
          exact .inl ⟨⟨rfl, .inr (.inl missing)⟩, _, rfl⟩
        · rw [if_neg missing]
          by_cases taken : t.takenByOther userId body.email given = true
          · rw [if_pos taken]
            exact .inl ⟨⟨rfl, .inr (.inr taken)⟩, _, rfl⟩
          · rw [if_neg taken]
            refine .inr ⟨?_, _, rfl, ?_⟩
            · rintro ⟨_, unfit | gone | twice⟩
              · cases unfit
              · exact missing gone
              · exact taken twice
            · exact (changeUser_eq_iff (body.patched given)).trans
                ⟨fun kept _ => kept, fun kept => kept rfl⟩

theorem departmentOfPatch_users (users : List StaffUser) (given : Option (Option IdParam)) :
    departmentOfPatch { t with users := users } given = departmentOfPatch t given := by
  rcases given with _ | _ | _ | _ | id <;> rfl

theorem patchDepartment_cases (t : StaffTables) (userId : Nat) (body : PatchUserBody) :
    (t.RefusesDepartment body ∧ ∃ refusal, patchDepartment t (some userId) body = .error refusal) ∨
    (¬ t.RefusesDepartment body ∧ ∃ change : EmployeeRow → EmployeeRow,
      patchDepartment t (some userId) body = .ok (t.changeEmployee userId change) ∧
        (∀ row, (change row).userId = row.userId ∧ (change row).onecUserGuid = row.onecUserGuid ∧
          (change row).onecPhysicalPersonGuid = row.onecPhysicalPersonGuid) ∧
        (t.changeEmployee userId change = t ↔ t.KeepsDepartment userId body)) := by
  unfold StaffTables.RefusesDepartment StaffTables.KeepsDepartment patchDepartment
  cases departmentOfPatch t body.departmentId with
  | error refusal => exact .inl ⟨⟨refusal, rfl⟩, refusal, rfl⟩
  | ok given =>
    refine .inr ⟨by simp, ?_⟩
    cases given with
    | none =>
      have same : t.changeEmployee userId id = t := by
        rw [changeEmployee_eq_iff]
        exact fun _ _ _ => rfl
      refine ⟨id, ?_, fun _ => ⟨rfl, rfl, rfl⟩, iff_of_true same fun _ => nofun⟩
      rw [same]
      rfl
    | some department =>
      refine ⟨_, rfl, fun _ => ⟨rfl, rfl, rfl⟩, ?_⟩
      rw [changeEmployee_eq_iff]
      simp only [Except.ok.injEq, Option.some.injEq, forall_eq']
      apply forall₃_congr
      intro row _ _
      constructor
      · intro same
        exact ⟨(congrArg EmployeeRow.departmentId same).symm,
          (congrArg EmployeeRow.activeDepartmentId same).symm⟩
      · rintro ⟨rfl, same⟩
        cases row
        cases same
        rfl

theorem refusesEmployee_changed (t : StaffTables) (userId : Nat) (body : PatchUserBody)
    (users : List StaffUser) {change : EmployeeRow → EmployeeRow}
    (keeps : ∀ row, (change row).userId = row.userId ∧
      (change row).onecUserGuid = row.onecUserGuid ∧
        (change row).onecPhysicalPersonGuid = row.onecPhysicalPersonGuid) :
    (({ t with users := users } : StaffTables).changeEmployee userId change).RefusesEmployee userId
      body ↔ t.RefusesEmployee userId body := by
  have found : (({ t with users := users } : StaffTables).changeEmployee userId change).employee
      userId = none ↔ t.employee userId = none := by
    simp only [StaffTables.employee, StaffTables.changeEmployee, List.find?_eq_none, List.mem_map,
      forall_exists_index, and_imp, forall_apply_eq_imp_iff₂]
    apply forall₂_congr
    intro row _
    split
    · rw [(keeps row).1]
    · rfl
  have taken (onecUserGuid onecPhysicalPersonGuid : OptionalText) :
      (({ t with users := users } : StaffTables).changeEmployee userId change).guidTakenByOther
        userId onecUserGuid onecPhysicalPersonGuid =
      t.guidTakenByOther userId onecUserGuid onecPhysicalPersonGuid := by
    rw [StaffTables.guidTakenByOther, StaffTables.guidTakenByOther, StaffTables.changeEmployee,
      List.any_map]
    congr 1
    funext row
    rw [Function.comp_apply]
    split
    · rw [(keeps row).1, (keeps row).2.1, (keeps row).2.2]
    · rfl
  unfold StaffTables.RefusesEmployee
  dsimp only
  rw [found, taken]

theorem patchEmployee_error_iff (t : StaffTables) (userId : Nat) (body : PatchUserBody) :
    (∃ refusal, patchEmployee t (some userId) body = .error refusal) ↔
      t.RefusesEmployee userId body := by
  unfold patchEmployee StaffTables.RefusesEmployee
  dsimp only
  cases isValidOnecGuid (normalizeOptionalOnecGuid body.onecUserGuid) with
  | false => simp
  | true =>
    cases isValidOnecGuid (normalizeOptionalOnecGuid body.onecPhysicalPersonGuid) with
    | false => simp
    | true =>
      rw [Bool.not_true, Bool.or_self, if_neg Bool.false_ne_true]
      by_cases nothing : normalizeOptionalOnecGuid body.onecUserGuid = none ∧
          normalizeOptionalOnecGuid body.onecPhysicalPersonGuid = none
      · rw [if_pos nothing]
        simp [nothing]
      · rw [if_neg nothing]
        by_cases missing : t.employee userId = none
        · simp [missing, nothing]
        · rw [if_neg missing]
          by_cases taken : t.guidTakenByOther userId (normalizeOptionalOnecGuid body.onecUserGuid)
              (normalizeOptionalOnecGuid body.onecPhysicalPersonGuid) = true
          · rw [if_pos taken]
            simp [taken, nothing]
          · rw [if_neg taken]
            simp [taken, missing]

theorem patchUser_unchanged_iff (t : StaffTables) (userId : Nat) (body : PatchUserBody) :
    ((patchUser t body (.id userId)).1.isError = true → (patchUser t body (.id userId)).2 = t) ↔
      t.PatchHarmless userId body := by
  rw [patchUser, patchUserFrom, StaffTables.PatchHarmless]
  rcases patchUserRow_cases t userId body with
    ⟨refused, refusal, stopped⟩ | ⟨accepted, users, named, kept_user⟩
  · rw [stopped]
    exact iff_of_true (fun _ => rfl) (.inl refused)
  · rw [named]
    dsimp only
    have same_department : StaffTables.RefusesDepartment { t with users := users } body ↔
        t.RefusesDepartment body := by
      rw [StaffTables.RefusesDepartment, departmentOfPatch_users]
      rfl
    have same_keeps : StaffTables.KeepsDepartment { t with users := users } userId body ↔
        t.KeepsDepartment userId body := by
      rw [StaffTables.KeepsDepartment, departmentOfPatch_users]
      rfl
    rcases patchDepartment_cases { t with users := users } userId body with
      ⟨refused, refusal, stopped⟩ | ⟨placed, change, moved, keeps, kept_department⟩
    · rw [stopped]
      rw [same_department] at refused
      constructor
      · intro unchanged
        have keeps_user := kept_user.mp (unchanged rfl)
        obtain ⟨refusal, found⟩ := refused
        refine .inr ⟨fun _ => keeps_user, fun _ => ⟨keeps_user, fun department other => ?_⟩⟩
        rw [found] at other
        cases other
      · rintro (stopped | ⟨department, _⟩) _
        · exact absurd stopped accepted
        · exact kept_user.mpr (department refused)
    · rw [moved]
      rw [same_department] at placed
      rw [same_keeps] at kept_department
      dsimp only
      have same_employee := refusesEmployee_changed t userId body users keeps
      have outcome := patchEmployee_error_iff
        (({ t with users := users } : StaffTables).changeEmployee userId change) userId body
      rw [same_employee] at outcome
      cases ended : patchEmployee
          (({ t with users := users } : StaffTables).changeEmployee userId change) (some userId)
          body with
      | error refusal =>
        have refused := outcome.mp ⟨refusal, ended⟩
        constructor
        · intro unchanged
          have whole := unchanged rfl
          have same_users : users = t.users := congrArg StaffTables.users whole
          have first : ({ t with users := users } : StaffTables) = t := by rw [same_users]
          refine .inr ⟨fun department => absurd department placed,
            fun _ => ⟨kept_user.mp first, kept_department.mp ?_⟩⟩
          exact whole.trans first.symm
        · rintro (stopped | ⟨_, employee⟩) _
          · exact absurd stopped accepted
          · obtain ⟨keeps_user, keeps_department⟩ := employee refused
            exact (kept_department.mpr keeps_department).trans (kept_user.mpr keeps_user)
      | ok after =>
        have passes : ¬ t.RefusesEmployee userId body := by
          intro refused
          obtain ⟨refusal, stopped⟩ := outcome.mpr refused
          rw [ended] at stopped
          cases stopped
        apply iff_of_true
        · intro error
          cases error
        · exact .inr ⟨fun department => absurd department placed,
            fun employee => absurd employee passes⟩

theorem patchUser_unfit (t : StaffTables) (body : PatchUserBody) :
    (patchUser t body .unfit).2 = t := by
  rw [patchUser, patchUserFrom]
  have first : ∀ named, patchUserRow t none body = .ok named → named = t := by
    intro named done
    obtain ⟨phone, _, done⟩ := (except_bind_ok _ _ _).mp done
    split at done
    · cases done
      rfl
    · cases done
  have second : ∀ placed, patchDepartment t none body = .ok placed → placed = t := by
    intro placed done
    obtain ⟨given, _, done⟩ := (except_bind_ok _ _ _).mp done
    cases given with
    | none =>
      cases done
      rfl
    | some department => cases done
  have third : ∀ after, patchEmployee t none body = .ok after → after = t := by
    intro after done
    unfold patchEmployee at done
    dsimp only at done
    split at done
    · cases done
    · split at done
      · cases done
        rfl
      · cases done
  cases named : patchUserRow t none body with
  | error refusal => rfl
  | ok t₁ =>
    rw [first t₁ named]
    dsimp only
    cases placed : patchDepartment t none body with
    | error refusal => rfl
    | ok t₂ =>
      rw [second t₂ placed]
      dsimp only
      cases ended : patchEmployee t none body with
      | error refusal => rfl
      | ok t₃ => exact third t₃ ended

end Users

/-- The condition on the tables and the request under which a refusal leaves the tables alone. -/
def AdminRequest.Harmless (refusesNull : Bool) (t : StaffTables) : AdminRequest → Prop
  | .deleteDepartment (.id departmentId) =>
      (refusesNull = false ∧ ∀ appeal ∈ t.appeals, appeal.toDepartmentId ≠ departmentId) ∨
        t.Deserted departmentId
  | .setRolePermissions (.id roleId) permissions =>
      none ∉ permissions.getD [] ∨ ∀ row ∈ t.rolePermissions, row.roleId ≠ roleId
  | .createRole body newId =>
      ∀ role, createdRole t body newId = .ok role → t.CanName (body.permissions.getD [])
  | .patchUser (.id userId) body => t.PatchHarmless userId body
  | _ => True

/-- A refused request changes nothing exactly under that condition. -/
theorem refused_admin_request_unchanged_iff (refusesNull : Bool)
    (t : { t : StaffTables // t.Constraints }) (request : AdminRequest) :
    ((request.answer refusesNull t).1.isError = true → (request.answer refusesNull t).2 = t) ↔
      request.Harmless refusesNull t := by
  cases request with
  | deleteDepartment departmentId =>
    cases departmentId with
    | nan => exact iff_of_true (fun _ => rfl) trivial
    | unfit => exact iff_of_true (fun _ => rfl) trivial
    | id departmentId => exact deleteDepartment_unchanged_iff t.2.foreignKeys refusesNull
  | deleteRole roleId => exact iff_of_true (deleteRole_unchanged t refusesNull roleId) trivial
  | setRolePermissions roleId permissions =>
    cases roleId with
    | nan => exact iff_of_true (fun _ => rfl) trivial
    | unfit => exact iff_of_true (fun _ => rfl) trivial
    | id roleId => exact setRolePermissions_unchanged_iff t.2 permissions
  | createRole body newId => exact createRole_unchanged_iff t.2 body newId
  | patchUser userId body =>
    cases userId with
    | nan => exact iff_of_true (fun _ => rfl) trivial
    | unfit => exact iff_of_true (fun _ => patchUser_unfit t body) trivial
    | id userId => exact patchUser_unchanged_iff t userId body

def staffWithAppeal : { t : StaffTables // t.Constraints } where
  val :=
    { users := [⟨1, none, none, none, none, none, .active, 2, some .employee, false, false⟩]
      employees := [⟨1, some 5, some 5, .active, none, none⟩]
      roles := [⟨2, "employee", none, none⟩]
      permissions := []
      rolePermissions := []
      departments := [⟨5, "sales"⟩]
      departmentRoles := []
      appeals := [⟨9, none, 5⟩] }
  property :=
    { roleKeys := ⟨by decide, by decide, by decide, by decide⟩
      permissionIds := by decide
      foreignKeys := ⟨by decide, by decide, by simp, by simp⟩ }

/-- The department stays, and its employee has lost it. -/
theorem refused_department_deletion_detaches :
    ¬ ∀ (refusesNull : Bool) (t : { t : StaffTables // t.Constraints }) (request : AdminRequest),
      (request.answer refusesNull t).1.isError = true →
        (request.answer refusesNull t).2 = t := by
  intro unchanged
  have same := unchanged false staffWithAppeal (.deleteDepartment (.id 5)) (by decide)
  revert same
  decide

end LeaderProduct
