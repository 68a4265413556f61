import LeaderProduct.CheckedWrites
import LeaderProduct.CurrentRoles
import LeaderProduct.Cycles

/-! The hierarchy of the roles under requests that are not transactions. The new parent of a role
is checked by single reads up its parents, and written later. -/
namespace LeaderProduct
open Cycles Interleaving Transition

section Writes

inductive RoleWrite where
  | createRole (role : RoleRow)
  | createRolePermission (row : RolePermission)
  | updateRole (roleId : Nat) (displayName : Option String) (parentRoleId : Option (Option Nat))
  | moveUsers (refusesNull : Bool) (roleId : Nat) (baseRoleId : Option Nat)
  | clearParent (roleId : Nat)
  | dropDepartmentRoles (roleId : Nat)
  | dropRolePermissions (roleId : Nat)
  | deleteRole (roleId : Nat)

def createRefusal : Refusal := ⟨500, "Ошибка создания роли"⟩
def deleteRefusal : Refusal := ⟨500, "Ошибка удаления роли"⟩
def roleNotFound : Refusal := ⟨404, "Роль не найдена"⟩

variable (t : StaffTables)

def StaffTables.holdsRole (roleId : Nat) : Bool := t.users.any (fun user => user.roleId == roleId)

def RoleWrite.refusal : RoleWrite → Option Refusal
  | .createRole role =>
    if role.id = 0 ∨ role.id ∈ t.roles.map (·.id) ∨ role.name ∈ t.roles.map (·.name) ∨
        ∃ above ∈ role.parentRoleId, t.role above = none then
      some createRefusal
    else none
  | .createRolePermission row =>
    if t.role row.roleId = none ∨ row ∈ t.rolePermissions then some createRefusal else none
  | .updateRole roleId _ parentRoleId =>
    if t.role roleId = none then some roleNotFound
    else if ∃ above ∈ parentRoleId.join, t.role above = none then some updateRefusal
    else none
  | .moveUsers refusesNull roleId none =>
    if refusesNull || t.holdsRole roleId then some deleteRefusal else none
  | .moveUsers _ roleId (some baseRoleId) =>
    if t.holdsRole roleId && (t.role baseRoleId).isNone then some deleteRefusal else none
  | .deleteRole roleId =>
    if t.role roleId = none then some roleNotFound
    else if t.holdsRole roleId || t.departmentRoles.any (fun row => row.roleId == roleId) ||
        t.rolePermissions.any (fun row => row.roleId == roleId) then
      some deleteRefusal
    else none
  | _ => none

def StaffTables.clearParent (roleId : Nat) : StaffTables :=
  { t with roles := t.roles.map fun role =>
      if role.parentRoleId = some roleId then { role with parentRoleId := none } else role }

/-- The foreign key of the children is set to null with the row. -/
def RoleWrite.carriedOut : RoleWrite → StaffTables
  | .createRole role => t.addRole role
  | .createRolePermission row => { t with rolePermissions := t.rolePermissions ++ [row] }
  | .updateRole roleId displayName parentRoleId => t.changeRole roleId displayName parentRoleId
  | .moveUsers _ _ none => t
  | .moveUsers _ roleId (some baseRoleId) => t.moveUsers roleId baseRoleId
  | .clearParent roleId => t.clearParent roleId
  | .dropDepartmentRoles roleId =>
    { t with departmentRoles := t.departmentRoles.filter (fun row => row.roleId ≠ roleId) }
  | .dropRolePermissions roleId => t.dropRolePermissions roleId
  | .deleteRole roleId =>
    { t.clearParent roleId with
      roles := (t.clearParent roleId).roles.filter (fun role => role.id ≠ roleId) }

def RoleWrite.apply (w : RoleWrite) (t : StaffTables) : StaffTables :=
  match w.refusal t with
  | some _ => t
  | none => w.carriedOut t

end Writes

section Requests

/-- A request whose answer is `none` has not come to one within its rounds. -/
abbrev RoleJob := Job StaffTables RoleWrite (Option AdminAnswer)

def answered (refusal : Refusal) : RoleJob := .done (some (.error refusal))

def writing (w : RoleWrite) (next : RoleJob) : RoleJob :=
  .write w fun t =>
    match w.refusal t with
    | some refusal => answered refusal
    | none => next

def succeeded : RoleJob := .done (some .success)

def granting (roleId : Nat) : List (Option String) → RoleJob
  | [] => succeeded
  | none :: _ => answered createRefusal
  | some permName :: rest => .read fun t =>
    match t.permissionNamed permName with
    | none => granting roleId rest
    | some permission =>
      writing (.createRolePermission ⟨roleId, permission.id⟩) (granting roleId rest)

def validating (unfit : Refusal) (parentRoleId : IdParam) (next : Nat → RoleJob) : RoleJob :=
  match parentRoleId with
  | .nan => answered ⟨400, "Некорректный ID родительской роли"⟩
  | .unfit => answered unfit
  | .id parentRoleId => .read fun t =>
    if t.role parentRoleId = none then answered ⟨400, "Родительская роль не найдена"⟩
    else next parentRoleId

/-- `POST /roles`. -/
def createRoleJob (body : CreateRoleBody) (newId : Nat) : RoleJob :=
  match trimText createRefusal body.name, trimText createRefusal body.displayName with
  | .error refusal, _ => answered refusal
  | _, .error refusal => answered refusal
  | .ok name, .ok displayName =>
    if name = "" then answered ⟨400, "Код роли обязателен"⟩
    else if displayName = "" then answered ⟨400, "Название роли обязательно"⟩
    else
      let creating (parentRoleId : Option Nat) : RoleJob :=
        writing (.createRole ⟨newId, name, some displayName, parentRoleId⟩)
          (granting newId (body.permissions.getD []))
      match body.parentRoleId with
      | none => creating none
      | some parentRoleId =>
        validating createRefusal parentRoleId (fun parentRoleId => creating (some parentRoleId))

/-- `wouldCreateRoleCycle`, read by read, and what follows where it is false. -/
def climbing (roleId : Nat) (next : RoleJob) : Nat → Option Nat → List Nat → RoleJob
  | 0, _, _ => .done none
  | rounds + 1, currentRoleId, visited =>
    match truthy currentRoleId with
    | none => next
    | some currentRoleId =>
      if currentRoleId = roleId ∨ currentRoleId ∈ visited then
        answered ⟨400, "Нельзя создать циклическую иерархию ролей"⟩
      else .read fun t =>
        climbing roleId next rounds ((t.role currentRoleId).bind (·.parentRoleId))
          (currentRoleId :: visited)

/-- `PATCH /roles/:roleId`. `rounds` is how far the walk up the parents gets: while it goes on,
others may add to its way. -/
def updateRoleJob (body : UpdateRoleBody) (rounds : Nat) : IdParam → RoleJob
  | .nan => answered ⟨400, "Некорректный ID роли"⟩
  | .unfit => answered updateRefusal
  | .id roleId => .read fun t =>
    if t.role roleId = none then answered roleNotFound
    else if body.nameGiven then answered ⟨400, "Технический код роли менять нельзя"⟩
    else if body.displayName.map JsString.trim = some "" then
      answered ⟨400, "Название роли не может быть пустым"⟩
    else
      let updating (parentRoleId : Option (Option Nat)) : RoleJob :=
        writing (.updateRole roleId (body.displayName.map JsString.trim) parentRoleId) succeeded
      match body.parentRoleId with
      | none =>
        if body.displayName = none then answered ⟨400, "Нет данных для обновления"⟩
        else updating none
      | some none => updating (some none)
      | some (some parentRoleId) =>
        if parentRoleId = .id roleId then
          answered ⟨400, "Роль не может быть родителем самой себя"⟩
        else
          validating updateRefusal parentRoleId fun parentRoleId =>
            climbing roleId (updating (some (some parentRoleId))) rounds (some parentRoleId) []

/-- `DELETE /roles/:roleId`. -/
def deleteRoleJob (refusesNull : Bool) : IdParam → RoleJob
  | .nan => answered ⟨400, "Некорректный ID роли"⟩
  | .unfit => answered deleteRefusal
  | .id roleId => .read fun t =>
    match t.role roleId with
    | none => answered roleNotFound
    | some role =>
      if systemRoleNames.contains role.name then answered ⟨400, "Базовую роль нельзя удалить"⟩
      else .read fun t =>
        writing (.moveUsers refusesNull roleId ((t.roleNamed "user").map (·.id))) <|
          writing (.clearParent roleId) <| writing (.dropDepartmentRoles roleId) <|
            writing (.dropRolePermissions roleId) <| writing (.deleteRole roleId) succeeded

inductive RoleRequest where
  | createRole (body : CreateRoleBody) (newId : Nat)
  | updateRole (roleId : IdParam) (body : UpdateRoleBody) (rounds : Nat)
  | deleteRole (refusesNull : Bool) (roleId : IdParam)

def RoleRequest.job : RoleRequest → RoleJob
  | .createRole body newId => createRoleJob body newId
  | .updateRole roleId body rounds => updateRoleJob body rounds roleId
  | .deleteRole refusesNull roleId => deleteRoleJob refusesNull roleId

end Requests

variable {roleId above parentRoleId rounds : Nat}

section Hierarchy
variable (t : StaffTables)

structure StaffTables.HierarchyKeys : Prop where
  ids : (t.roles.map (·.id)).Nodup
  positive : 0 ∉ t.roles.map (·.id)
  parents : ∀ role ∈ t.roles, ∀ above, role.parentRoleId = some above →
    above ∈ t.roles.map (·.id)

def StaffTables.ParentOf (child above : Nat) : Prop :=
  ∃ role ∈ t.roles, role.id = child ∧ role.parentRoleId = some above

def StaffTables.EndlessAbove (id : Nat) : Prop :=
  ∃ role, Relation.ReflTransGen t.ParentOf id role ∧ OnCycle t.ParentOf role

def ParentNotBelow (w : RoleWrite) (t : StaffTables) : Prop :=
  match w with
  | .updateRole roleId _ (some (some parentRoleId)) =>
    t.role roleId ≠ none → t.role parentRoleId ≠ none → ¬ t.Above parentRoleId roleId
  | _ => True

variable {t} {after : StaffTables}

theorem role_isSome_iff {id : Nat} : t.role id ≠ none ↔ id ∈ t.roles.map (·.id) := by
  rw [Ne, StaffTables.role_eq_none, not_not]

theorem ParentOf.known {child above : Nat} (step : t.ParentOf child above) :
    child ∈ t.roles.map (·.id) := by
  obtain ⟨role, known, rfl, _⟩ := step
  exact List.mem_map_of_mem known

variable {child : Nat}

theorem ParentOf.above_known (keys : t.HierarchyKeys) (step : t.ParentOf child above) :
    above ∈ t.roles.map (·.id) := by
  obtain ⟨role, known, _, parent⟩ := step
  exact keys.parents role known above parent

theorem parentOf_addRole {role : RoleRow} :
    (t.addRole role).ParentOf child above ↔
      t.ParentOf child above ∨ role.id = child ∧ role.parentRoleId = some above := by
  simp [StaffTables.ParentOf, StaffTables.addRole, or_and_right, exists_or]

theorem parentOf_changeRole (there : roleId ∈ t.roles.map (·.id)) (displayName : Option String)
    (child above : Nat) :
    (t.changeRole roleId displayName (some (some parentRoleId))).ParentOf child above ↔
      Redirect t.ParentOf roleId parentRoleId child above := by
  simp only [StaffTables.ParentOf, StaffTables.changeRole, List.mem_map, exists_exists_and_eq_and,
    Redirect]
  constructor
  · rintro ⟨role, known, own, parent⟩
    by_cases here : role.id = roleId
    · rw [if_pos here] at own parent
      exact .inl ⟨own.symm.trans here, (Option.some.inj parent).symm⟩
    · rw [if_neg here] at own parent
      exact .inr ⟨own ▸ here, role, known, own, parent⟩
  · rintro (⟨rfl, rfl⟩ | ⟨other, role, known, rfl, parent⟩)
    · obtain ⟨role, known, own⟩ := List.mem_map.mp there
      refine ⟨role, known, ?_⟩
      rw [if_pos own]
      exact ⟨own, rfl⟩
    · refine ⟨role, known, ?_⟩
      rw [if_neg other]
      exact ⟨rfl, parent⟩

theorem parentOf_clearParent (step : (t.clearParent roleId).ParentOf child above) :
    t.ParentOf child above ∧ above ≠ roleId := by
  obtain ⟨role, known, own, parent⟩ := step
  obtain ⟨old, there, rfl⟩ := List.mem_map.mp known
  by_cases cleared : old.parentRoleId = some roleId
  · rw [if_pos cleared] at parent
    cases parent
  · rw [if_neg cleared] at own parent
    refine ⟨⟨old, there, own, parent⟩, ?_⟩
    rintro rfl
    exact cleared parent

theorem not_above_new (keys : t.HierarchyKeys) {newId : Nat} (fresh : newId ∉ t.roles.map (·.id))
    (known : above ∈ t.roles.map (·.id)) :
    ¬ Relation.ReflTransGen t.ParentOf above newId := by
  intro reached
  rcases Relation.ReflTransGen.cases_tail reached with rfl | ⟨child, _, last⟩
  · exact fresh known
  · exact fresh (ParentOf.above_known keys last)

theorem acyclic_addRole (keys : t.HierarchyKeys) {role : RoleRow}
    (fresh : role.id ∉ t.roles.map (·.id))
    (parents : ∀ above, role.parentRoleId = some above → above ∈ t.roles.map (·.id))
    (acyclic : Acyclic t.ParentOf) : Acyclic (t.addRole role).ParentOf := by
  cases parent : role.parentRoleId with
  | none =>
    refine acyclic.mono fun child above step => ?_
    rcases parentOf_addRole.mp step with old | ⟨_, new⟩
    · exact old
    · rw [parent] at new
      cases new
  | some parentRoleId =>
    have apart := not_above_new keys fresh (parents parentRoleId parent)
    refine ((acyclic_redirect_iff acyclic).mpr apart).mono fun child above step => ?_
    rcases parentOf_addRole.mp step with old | ⟨own, new⟩
    · refine .inr ⟨?_, old⟩
      rintro rfl
      exact fresh (ParentOf.known old)
    · rw [parent, Option.some.injEq] at new
      exact .inl ⟨own.symm, new.symm⟩

theorem ids_clearParent (roleId : Nat) :
    (t.clearParent roleId).roles.map (·.id) = t.roles.map (·.id) := by
  simp only [StaffTables.clearParent, List.map_map]
  apply List.map_congr_left
  intro role _
  rw [Function.comp_apply]
  split <;> rfl

theorem ids_changeRole (roleId : Nat) (displayName : Option String)
    (parentRoleId : Option (Option Nat)) :
    (t.changeRole roleId displayName parentRoleId).roles.map (·.id) = t.roles.map (·.id) := by
  simp only [StaffTables.changeRole, List.map_map]
  apply List.map_congr_left
  intro role _
  rw [Function.comp_apply]
  split <;> rfl

theorem StaffTables.HierarchyKeys.of_same (keys : t.HierarchyKeys) (same : after.roles = t.roles) :
    after.HierarchyKeys := by
  refine ⟨?_, ?_, ?_⟩
  · rw [same]
    exact keys.ids
  · rw [same]
    exact keys.positive
  · rw [same]
    exact keys.parents

theorem StaffTables.HierarchyKeys.clearParent (keys : t.HierarchyKeys) (roleId : Nat) :
    (t.clearParent roleId).HierarchyKeys := by
  refine ⟨?_, ?_, ?_⟩
  · rw [ids_clearParent]
    exact keys.ids
  · rw [ids_clearParent]
    exact keys.positive
  · intro role known above parent
    rw [ids_clearParent]
    have step : (t.clearParent roleId).ParentOf role.id above := ⟨role, known, rfl, parent⟩
    exact ParentOf.above_known keys (parentOf_clearParent step).1

theorem hierarchyKeys_apply (w : RoleWrite) (t : StaffTables) (keys : t.HierarchyKeys) :
    (w.apply t).HierarchyKeys := by
  unfold RoleWrite.apply
  split
  · exact keys
  · next allowed =>
    cases w with
    | createRole role =>
      simp only [RoleWrite.refusal, ite_eq_right_iff, reduceCtorEq, imp_false, not_or, not_exists,
        not_and] at allowed
      obtain ⟨positive, fresh, _, parents⟩ := allowed
      refine ⟨?_, ?_, ?_⟩
      · rw [RoleWrite.carriedOut, StaffTables.addRole, List.map_append, List.nodup_append]
        refine ⟨keys.ids, List.nodup_singleton _, ?_⟩
        intro id known new there
        rw [List.map_singleton, List.mem_singleton] at there
        rintro rfl
        exact fresh (there ▸ known)
      · simp only [RoleWrite.carriedOut, StaffTables.addRole, List.map_append, List.mem_append,
          List.map_singleton, List.mem_singleton, not_or]
        exact ⟨keys.positive, fun zero => positive zero.symm⟩
      · intro given known above parent
        simp only [RoleWrite.carriedOut, StaffTables.addRole, List.map_append, List.mem_append]
        rcases List.mem_append.mp known with old | new
        · exact .inl (keys.parents given old above parent)
        · rw [List.mem_singleton.mp new] at parent
          exact .inl (role_isSome_iff.mp (parents above parent))
    | createRolePermission row => exact keys.of_same rfl
    | updateRole roleId displayName parentRoleId =>
      simp only [RoleWrite.refusal] at allowed
      split at allowed
      · cases allowed
      · simp only [ite_eq_right_iff, reduceCtorEq, imp_false, not_exists, not_and] at allowed
        refine ⟨?_, ?_, ?_⟩
        · rw [RoleWrite.carriedOut, ids_changeRole]
          exact keys.ids
        · rw [RoleWrite.carriedOut, ids_changeRole]
          exact keys.positive
        · intro given known above parent
          rw [RoleWrite.carriedOut, ids_changeRole]
          obtain ⟨old, there, rfl⟩ := List.mem_map.mp known
          have stays : old.parentRoleId = some above → above ∈ t.roles.map (·.id) :=
            keys.parents old there above
          split at parent
          · cases parentRoleId with
            | none => exact stays parent
            | some parentRoleId =>
              exact role_isSome_iff.mp (allowed above (by simpa using parent))
          · exact stays parent
    | moveUsers refusesNull roleId baseRoleId =>
      cases baseRoleId with
      | none => exact keys
      | some baseRoleId => exact keys.of_same rfl
    | clearParent roleId => exact keys.clearParent roleId
    | dropDepartmentRoles roleId => exact keys.of_same rfl
    | dropRolePermissions roleId => exact keys.of_same rfl
    | deleteRole roleId =>
      have cleared := keys.clearParent roleId
      refine ⟨(List.filter_sublist.map _).nodup cleared.ids, ?_, ?_⟩
      · intro zero
        exact cleared.positive ((List.filter_sublist.map _).subset zero)
      · intro role known above parent
        obtain ⟨there, _⟩ := List.mem_filter.mp known
        have step : (t.clearParent roleId).ParentOf role.id above := ⟨role, there, rfl, parent⟩
        have other := (parentOf_clearParent step).2
        obtain ⟨row, row_known, own⟩ := List.mem_map.mp (ParentOf.above_known cleared step)
        refine List.mem_map.mpr ⟨row, List.mem_filter.mpr ⟨row_known, ?_⟩, own⟩
        rw [decide_eq_true_eq, own]
        exact other

/-- The only statement that can close a cycle is the one that writes a parent. -/
theorem acyclic_apply_iff (w : RoleWrite) (t : StaffTables) (keys : t.HierarchyKeys)
    (acyclic : Acyclic t.ParentOf) : Acyclic (w.apply t).ParentOf ↔ ParentNotBelow w t := by
  have fewer {after : StaffTables} (less : ∀ a b, after.ParentOf a b → t.ParentOf a b) :
      Acyclic after.ParentOf := acyclic.mono less
  unfold RoleWrite.apply
  cases refused : w.refusal t with
  | some refusal =>
    refine iff_of_true acyclic ?_
    unfold ParentNotBelow
    split
    · next roleId _ parentRoleId =>
      intro there above
      simp [RoleWrite.refusal, there, above] at refused
    · trivial
  | none =>
    dsimp only
    cases w with
    | createRole role =>
      simp only [RoleWrite.refusal, ite_eq_right_iff, reduceCtorEq, imp_false, not_or, not_exists,
        not_and] at refused
      obtain ⟨_, fresh, _, parents⟩ := refused
      refine iff_of_true (acyclic_addRole keys fresh ?_ acyclic) trivial
      exact fun above parent => role_isSome_iff.mp (parents above parent)
    | createRolePermission row => exact iff_of_true (fewer fun _ _ => id) trivial
    | updateRole roleId displayName parentRoleId =>
      simp only [RoleWrite.refusal] at refused
      split at refused
      · cases refused
      · next there =>
        rcases parentRoleId with _ | _ | parentRoleId
        · refine iff_of_true (fewer ?_) trivial
          rintro child above ⟨role, known, own, parent⟩
          obtain ⟨old, old_known, rfl⟩ := List.mem_map.mp known
          refine ⟨old, old_known, ?_, ?_⟩
          · rw [← own]
            split <;> rfl
          · rw [← parent]
            split <;> rfl
        · refine iff_of_true (fewer ?_) trivial
          rintro child above ⟨role, known, own, parent⟩
          obtain ⟨old, old_known, rfl⟩ := List.mem_map.mp known
          by_cases here : old.id = roleId
          · rw [if_pos here] at parent
            cases parent
          · rw [if_neg here] at own parent
            exact ⟨old, old_known, own, parent⟩
        · have present : t.role parentRoleId ≠ none := by
            simpa using refused
          have same : (t.changeRole roleId displayName (some (some parentRoleId))).ParentOf =
              Redirect t.ParentOf roleId parentRoleId := by
            funext child above
            exact propext (parentOf_changeRole (role_isSome_iff.mp there) displayName child above)
          rw [RoleWrite.carriedOut, same, acyclic_redirect_iff acyclic]
          exact ⟨fun apart _ _ => apart, fun apart => apart there present⟩
    | moveUsers refusesNull roleId baseRoleId =>
      cases baseRoleId with
      | none => exact iff_of_true acyclic trivial
      | some baseRoleId => exact iff_of_true (fewer fun _ _ => id) trivial
    | clearParent roleId =>
      exact iff_of_true (fewer fun _ _ step => (parentOf_clearParent step).1) trivial
    | dropDepartmentRoles roleId => exact iff_of_true (fewer fun _ _ => id) trivial
    | dropRolePermissions roleId => exact iff_of_true (fewer fun _ _ => id) trivial
    | deleteRole roleId =>
      refine iff_of_true (fewer ?_) trivial
      rintro child above ⟨role, known, own, parent⟩
      have step : (t.clearParent roleId).ParentOf child above :=
        ⟨role, (List.mem_filter.mp known).1, own, parent⟩
      exact (parentOf_clearParent step).1

end Hierarchy

section Check
variable {t : StaffTables}

theorem next_parentRole (keys : t.HierarchyKeys) : Next t.parentRole = t.ParentOf := by
  funext child above
  unfold Next StaffTables.parentRole truthy
  rw [Option.filter_eq_some_iff, Option.bind_eq_some_iff]
  apply propext
  constructor
  · rintro ⟨⟨role, found, parent⟩, _⟩
    obtain ⟨known, own⟩ := StaffTables.role_mem found
    exact ⟨role, known, own, parent⟩
  · rintro ⟨role, known, rfl, parent⟩
    have found : t.role role.id = some role := RowTable.lookup_of_mem keys.ids known
    refine ⟨⟨role, found, parent⟩, ?_⟩
    rw [decide_eq_true_eq]
    rintro rfl
    exact keys.positive (keys.parents role known 0 parent)

theorem climbsTo_eq (roleId rounds : Nat) (current : Option Nat) (visited : List Nat) :
    climbsTo t roleId rounds current visited =
      (walkUp t.parentRole roleId rounds (truthy current) visited).getD false := by
  induction rounds generalizing current visited with
  | zero => rfl
  | succ rounds ih =>
    rw [climbsTo]
    cases truthy current with
    | none => rfl
    | some key =>
      dsimp only [walkUp]
      split
      · rfl
      · exact ih _ _

theorem walkUp_roles (t : StaffTables) (roleId : Nat) (parentRoleId : Option Nat)
    (enough : t.roles.length + 2 ≤ rounds) :
    ∃ answer, walkUp t.parentRole roleId rounds (truthy parentRoleId) [] = some answer := by
  apply Option.isSome_iff_exists.mp
  have rooted (key : Nat) (goes : (t.parentRole key).isSome = true) : key ∈ t.roles.map (·.id) :=
    rooted_parentRole goes
  apply walkUp_ends rooted List.nodup_nil (fun _ => List.nil_subset _)
  rw [List.length_map, List.length_nil]
  omega

theorem walkUp_above_iff (keys : t.HierarchyKeys) (there : roleId ∈ t.roles.map (·.id))
    {answer : Bool}
    (walked : walkUp t.parentRole roleId rounds (truthy (some parentRoleId)) [] = some answer) :
    answer = true ↔ t.Above parentRoleId roleId ∨ t.EndlessAbove parentRoleId := by
  rw [walkUp_iff walked]
  unfold ComesBack
  rw [next_parentRole keys]
  constructor
  · rintro ⟨first, here, back⟩
    simp only [truthy, Option.filter_eq_some_iff, Option.some.injEq] at here
    rw [here.1]
    exact back
  · intro back
    refine ⟨parentRoleId, ?_, back⟩
    have positive : parentRoleId ≠ 0 := by
      rintro rfl
      have rootless (above : Nat) : ¬ t.ParentOf 0 above :=
        fun step => keys.positive (ParentOf.known step)
      have stuck {role : Nat} (path : Relation.ReflTransGen t.ParentOf 0 role) : role = 0 := by
        rcases Relation.ReflTransGen.cases_head path with same | ⟨above, step, _⟩
        · exact same.symm
        · exact absurd step (rootless above)
      rcases back with reached | ⟨role, reached, around⟩
      · exact keys.positive (stuck reached ▸ there)
      · obtain ⟨above, step, _⟩ := around.exists_next
        exact rootless above (stuck reached ▸ step)
    simp [truthy, positive]

theorem wouldCreateRoleCycle_iff (keys : t.HierarchyKeys) (there : roleId ∈ t.roles.map (·.id))
    (parentRoleId : Nat) :
    wouldCreateRoleCycle t roleId (some parentRoleId) = true ↔
      t.Above parentRoleId roleId ∨ t.EndlessAbove parentRoleId := by
  obtain ⟨answer, walked⟩ := walkUp_roles t roleId (some parentRoleId) (Nat.le_refl _)
  have answered : wouldCreateRoleCycle t roleId (some parentRoleId) = answer := by
    rw [wouldCreateRoleCycle, climbsTo_eq, walked]
    rfl
  rw [answered]
  exact walkUp_above_iff keys there walked

theorem walkUp_settles (t : StaffTables) (roleId : Nat) (parentRoleId : Option Nat) (more : Nat) :
    walkUp t.parentRole roleId (t.roles.length + 2 + more) (truthy parentRoleId) [] =
      some (wouldCreateRoleCycle t roleId parentRoleId) := by
  obtain ⟨answer, walked⟩ := walkUp_roles t roleId parentRoleId (Nat.le_refl _)
  obtain ⟨later, walked_on⟩ := walkUp_roles t roleId parentRoleId
    (Nat.le_add_right (t.roles.length + 2) more)
  have answered : wouldCreateRoleCycle t roleId parentRoleId = answer := by
    rw [wouldCreateRoleCycle, climbsTo_eq, walked]
    rfl
  have same : later = answer := by
    apply Bool.eq_iff_iff.mpr
    rw [walkUp_iff walked, walkUp_iff walked_on]
  rw [walked_on, same, answered]

def StaffTables.reparent (t : StaffTables) (roleId : Nat) (parentRoleId : Option Nat) :
    StaffTables := t.changeRole roleId none (some parentRoleId)

theorem parentOf_reparent (there : roleId ∈ t.roles.map (·.id)) (parentRoleId : Nat) :
    (t.reparent roleId (some parentRoleId)).ParentOf =
      Redirect t.ParentOf roleId parentRoleId := by
  funext child above
  exact propext (parentOf_changeRole there none child above)

theorem parentOf_freed :
    ¬ (t.reparent roleId none).ParentOf roleId above := by
  rintro ⟨role, known, own, parent⟩
  obtain ⟨old, _, rfl⟩ := List.mem_map.mp known
  by_cases here : old.id = roleId
  · rw [if_pos here] at parent
    cases parent
  · rw [if_neg here] at own
    exact here own

theorem not_onCycle_freed : ¬ OnCycle (t.reparent roleId none).ParentOf roleId := by
  intro on
  obtain ⟨above, step, _⟩ := on.exists_next
  exact parentOf_freed step

theorem not_endless_freed : ¬ (t.reparent roleId none).EndlessAbove roleId := by
  rintro ⟨role, path, on⟩
  rcases Relation.ReflTransGen.cases_head path with rfl | ⟨above, step, _⟩
  · exact not_onCycle_freed on
  · exact parentOf_freed step

theorem wouldCreateRoleCycle_endless (keys : t.HierarchyKeys) (there : roleId ∈ t.roles.map (·.id))
    (parentRoleId : Option Nat) :
    wouldCreateRoleCycle t roleId parentRoleId = true ↔
      (t.reparent roleId parentRoleId).EndlessAbove roleId := by
  cases parentRoleId with
  | none => exact iff_of_false Bool.false_ne_true not_endless_freed
  | some parentRoleId =>
    have comes := redirect_reaches_cycle_iff (R := t.ParentOf) (x := roleId) (p := parentRoleId)
    rw [← parentOf_reparent there] at comes
    rw [wouldCreateRoleCycle_iff keys there]
    exact comes.symm

/-- The role itself is on the cycle, unless its new parent has one of its own above. -/
theorem wouldCreateRoleCycle_closes_iff (keys : t.HierarchyKeys)
    (there : roleId ∈ t.roles.map (·.id)) (parentRoleId : Option Nat) :
    (wouldCreateRoleCycle t roleId parentRoleId = true ↔
        OnCycle (t.reparent roleId parentRoleId).ParentOf roleId) ↔
      ∀ parent, parentRoleId = some parent → t.EndlessAbove parent → t.Above parent roleId := by
  cases parentRoleId with
  | none =>
    refine iff_of_true (iff_of_false Bool.false_ne_true not_onCycle_freed) ?_
    exact nofun
  | some parentRoleId =>
    have closes : OnCycle (t.reparent roleId (some parentRoleId)).ParentOf roleId ↔
        t.Above parentRoleId roleId := by
      rw [parentOf_reparent there, onCycle_redirect_iff]
      rfl
    rw [wouldCreateRoleCycle_iff keys there, closes]
    constructor
    · rintro agree parent same endless
      cases same
      exact agree.mp (.inr endless)
    · intro within
      constructor
      · rintro (above | endless)
        · exact above
        · exact within parentRoleId rfl endless
      · exact .inl

end Check

section Walk

/-- The way up that was walked from the role `current` on, with the tables that each read of a
parent has met, is as it was; or above the first role that has another parent by now it does not
come to `roleId`. -/
def WayStands (t : StaffTables) (roleId : Nat) : Option Nat → List StaffTables → Prop
  | some current, seen :: later =>
    if t.parentRole current = seen.parentRole current then
      WayStands t roleId (seen.parentRole current) later
    else ∀ above, t.parentRole current = some above → ¬ t.Above above roleId
  | _, _ => True

def WalkedFree (roleId : Nat) : Option Nat → List StaffTables → Prop
  | none, [] => True
  | some current, seen :: later =>
    current ≠ roleId ∧ WalkedFree roleId (seen.parentRole current) later
  | _, _ => False

/-- What the reads of `wouldCreateRoleCycle` have met, the first of them first: before them the
request has read the role and its new parent. -/
def walkedTables (past : List (Statement StaffTables RoleWrite)) : List StaffTables :=
  (past.reverse.drop 2).map (·.met)

/-- Where a parent is written, the way up that the request has checked still stands. -/
def CheckStands (past : List (Statement StaffTables RoleWrite)) (w : RoleWrite) (t : StaffTables)
    (_ : Unit) : Prop :=
  match w with
  | .updateRole roleId _ (some (some parentRoleId)) =>
    t.role roleId ≠ none → t.role parentRoleId ≠ none →
      WayStands t roleId (some parentRoleId) (walkedTables past)
  | _ => True

def RoleChecked (past : List (Statement StaffTables RoleWrite)) : RoleWrite → Prop
  | .updateRole roleId _ (some (some parentRoleId)) =>
    WalkedFree roleId (truthy (some parentRoleId)) (walkedTables past)
  | _ => True

variable {t : StaffTables}

theorem above_iff_next (keys : t.HierarchyKeys) {current : Nat} (apart : current ≠ roleId) :
    t.Above current roleId ↔ ∃ above, t.parentRole current = some above ∧ t.Above above roleId := by
  have steps (child above : Nat) : t.parentRole child = some above ↔ t.ParentOf child above :=
    iff_of_eq (congrFun (congrFun (next_parentRole keys) child) above)
  constructor
  · intro reached
    rcases Relation.ReflTransGen.cases_head reached with same | ⟨above, step, rest⟩
    · exact absurd same apart
    · exact ⟨above, (steps current above).mpr step, rest⟩
  · rintro ⟨above, step, rest⟩
    exact .head ((steps current above).mp step) rest

theorem wayStands_iff (keys : t.HierarchyKeys) {current : Option Nat} {walked : List StaffTables}
    (free : WalkedFree roleId current walked) :
    WayStands t roleId current walked ↔ ∀ first, current = some first → ¬ t.Above first roleId := by
  induction walked generalizing current with
  | nil =>
    cases current with
    | none => exact iff_of_true trivial (fun first here => by cases here)
    | some current => exact free.elim
  | cons seen later ih =>
    cases current with
    | none => exact free.elim
    | some current =>
      have ahead : (∀ first, some current = some first → ¬ t.Above first roleId) ↔
          ∀ above, t.parentRole current = some above → ¬ t.Above above roleId := by
        simp only [Option.some.injEq, forall_eq']
        rw [above_iff_next keys free.1]
        exact ⟨fun never above next further => never ⟨above, next, further⟩,
          fun never ⟨above, next, further⟩ => never above next further⟩
      rw [ahead, WayStands]
      split
      · next same => rw [ih free.2, same]
      · exact Iff.rfl

variable {past : List (Statement StaffTables RoleWrite)}

theorem backed_climbing {next : RoleJob}
    (later : ∀ past, WalkedFree roleId (truthy (some parentRoleId)) (walkedTables past) →
      next.Backed (fun _ => True) RoleChecked past) {current : Option Nat} {visited : List Nat}
    (looked : 2 ≤ past.length) (free : ∀ rest, WalkedFree roleId (truthy current) rest →
      WalkedFree roleId (truthy (some parentRoleId)) (walkedTables past ++ rest)) :
    (climbing roleId next rounds current visited).Backed (fun _ => True) RoleChecked past := by
  induction rounds generalizing current visited past with
  | zero => exact trivial
  | succ rounds ih =>
    rw [climbing]
    cases here : truthy current with
    | none =>
      rw [here] at free
      refine later past ?_
      have whole := free [] trivial
      rwa [List.append_nil] at whole
    | some key =>
      rw [here] at free
      dsimp only
      split
      · exact trivial
      · next apart =>
        intro t _
        refine ih (Nat.le_succ_of_le looked) (fun rest further => ?_)
        have onward := free (t :: rest) ⟨fun same => apart (.inl same), further⟩
        rw [List.append_cons] at onward
        rw [walkedTables, List.reverse_cons,
          List.drop_append_of_le_length (by rw [List.length_reverse]; exact looked), List.map_append]
        exact onward

theorem backed_writing {w : RoleWrite} {next : RoleJob} (checked : RoleChecked past w)
    (later : ∀ past, next.Backed (fun _ => True) RoleChecked past) :
    (writing w next).Backed (fun _ => True) RoleChecked past := by
  refine ⟨checked, fun t _ => ?_⟩
  dsimp only
  split
  · exact trivial
  · exact later _

theorem backed_granting (roleId : Nat) (names : List (Option String))
    (past : List (Statement StaffTables RoleWrite)) :
    (granting roleId names).Backed (fun _ => True) RoleChecked past := by
  induction names generalizing past with
  | nil => exact trivial
  | cons name rest ih =>
    cases name with
    | none => exact trivial
    | some name =>
      intro t _
      dsimp only
      split
      · exact ih _
      · exact backed_writing trivial ih

theorem backed_validating (unfit : Refusal) (parentRoleId : IdParam) {next : Nat → RoleJob}
    (later : ∀ id t, (next id).Backed (fun _ => True) RoleChecked (⟨t, none⟩ :: past)) :
    (validating unfit parentRoleId next).Backed (fun _ => True) RoleChecked past := by
  cases parentRoleId with
  | nan => exact trivial
  | unfit => exact trivial
  | id parentRoleId =>
    intro t _
    dsimp only
    split
    · exact trivial
    · exact later parentRoleId t

theorem backed_createRoleJob (body : CreateRoleBody) (newId : Nat) :
    (createRoleJob body newId).Backed (fun _ => True) RoleChecked [] := by
  unfold createRoleJob
  split
  · exact trivial
  · exact trivial
  · next name displayName _ _ =>
    have creating (parentRoleId : Option Nat) (past : List (Statement StaffTables RoleWrite)) :
        (writing (.createRole ⟨newId, name, some displayName, parentRoleId⟩)
          (granting newId (body.permissions.getD []))).Backed (fun _ => True) RoleChecked past :=
      backed_writing trivial (backed_granting newId _)
    split
    · exact trivial
    split
    · exact trivial
    dsimp only
    split
    · exact creating none _
    · exact backed_validating _ _ fun id _ => creating (some id) _

theorem backed_updateRoleJob (body : UpdateRoleBody) (rounds : Nat) (roleId : IdParam) :
    (updateRoleJob body rounds roleId).Backed (fun _ => True) RoleChecked [] := by
  cases roleId with
  | nan => exact trivial
  | unfit => exact trivial
  | id roleId =>
    intro t _
    dsimp only
    split
    · exact trivial
    split
    · exact trivial
    split
    · exact trivial
    split
    · split
      · exact trivial
      · exact backed_writing trivial (fun _ => trivial)
    · exact backed_writing trivial (fun _ => trivial)
    · split
      · exact trivial
      · refine backed_validating _ _ fun parentRoleId u =>
          backed_climbing (fun past free => ?_) (Nat.le_refl 2) (fun rest free => free)
        exact backed_writing free (fun _ => trivial)

theorem backed_deleteRoleJob (refusesNull : Bool) (roleId : IdParam) :
    (deleteRoleJob refusesNull roleId).Backed (fun _ => True) RoleChecked [] := by
  cases roleId with
  | nan => exact trivial
  | unfit => exact trivial
  | id roleId =>
    intro t _
    dsimp only
    split
    · exact trivial
    · split
      · exact trivial
      · intro t _
        refine backed_writing trivial fun _ => ?_
        refine backed_writing trivial fun _ => ?_
        refine backed_writing trivial fun _ => ?_
        refine backed_writing trivial fun _ => ?_
        exact backed_writing trivial fun _ => trivial

theorem checkStands_iff (keys : t.HierarchyKeys) {w : RoleWrite} (checked : RoleChecked past w)
    (u : Unit) :
    CheckStands past w t u ↔ ParentNotBelow w t := by
  unfold CheckStands ParentNotBelow
  split
  · next roleId _ parentRoleId =>
    refine imp_congr_right fun _ => imp_congr_right fun there => ?_
    have positive : truthy (some parentRoleId) = some parentRoleId := by
      have known := role_isSome_iff.mp there
      simp only [truthy, Option.filter_eq_some_iff, true_and, decide_eq_true_eq]
      rintro rfl
      exact keys.positive known
    rw [RoleChecked, positive] at checked
    rw [wayStands_iff keys checked]
    simp only [Option.some.injEq, forall_eq']
  · exact Iff.rfl

theorem role_guards : Guards RoleWrite.apply RoleRequest.job (fun _ _ u => u) (fun _ => True)
    RoleChecked (fun _ _ => True) (fun t (_ : Unit) => t.HierarchyKeys) CheckStands
      ParentNotBelow where
  backed := by
    rintro (⟨body, newId⟩ | ⟨roleId, body, rounds⟩ | ⟨refusesNull, roleId⟩)
    · exact backed_createRoleJob body newId
    · exact backed_updateRoleJob body rounds roleId
    · exact backed_deleteRoleJob refusesNull roleId
  known := fun _ => trivial
  refl := fun _ => trivial
  keeps_rel := fun _ _ _ => trivial
  keeps := fun _ keys _ => hierarchyKeys_apply _ _ keys
  exact_write := fun checked _ keys => checkStands_iff keys checked _

end Walk

section Runs

/-- The keyed tables of roles, with whatever cycles. -/
abbrev KeyedRoles := { t : StaffTables // t.HierarchyKeys }

/-- The hierarchies that have none. -/
abbrev RoleTree := { t : StaffTables // t.HierarchyKeys ∧ Acyclic t.ParentOf }

/-- The hierarchy stays without cycles exactly when the way up that a request has checked still
stands where it writes the parent. On one state of the tables the check ends, it says whether the
role would have a cycle above it, and whether it would be on one unless its new parent has another
cycle above. -/
theorem role_hierarchy_acyclic_iff (start : RoleTree) (actions : List (Action RoleRequest))
    (t : KeyedRoles) (role : { role : RoleRow // role ∈ t.1.roles }) (parentRoleId : Option Nat) :
    (Always (step RoleWrite.apply RoleRequest.job)
        (fun s : System StaffTables RoleWrite (Option AdminAnswer) =>
          Acyclic s.shared.ParentOf) (System.start start.1) actions ↔
      EachStep (watch RoleWrite.apply RoleRequest.job (fun _ _ u => u)) (Finds CheckStands)
        (Watched.start start.1 ()) actions) ∧
    (∀ more : Nat, walkUp t.1.parentRole role.1.id (t.1.roles.length + 2 + more)
      (truthy parentRoleId) [] = some (wouldCreateRoleCycle t.1 role.1.id parentRoleId)) ∧
    (wouldCreateRoleCycle t.1 role.1.id parentRoleId = true ↔
      (t.1.reparent role.1.id parentRoleId).EndlessAbove role.1.id) ∧
    ((wouldCreateRoleCycle t.1 role.1.id parentRoleId = true ↔
        OnCycle (t.1.reparent role.1.id parentRoleId).ParentOf role.1.id) ↔
      ∀ parent, parentRoleId = some parent → t.1.EndlessAbove parent →
        t.1.Above parent role.1.id) := by
  have there : role.1.id ∈ t.1.roles.map (·.id) := List.mem_map_of_mem role.2
  refine ⟨?_, walkUp_settles t.1 role.1.id parentRoleId,
    wouldCreateRoleCycle_endless t.2 there parentRoleId,
    wouldCreateRoleCycle_closes_iff t.2 there parentRoleId⟩
  rw [role_guards.eachStep_iff start.2.1]
  exact always_iff_meets (J := StaffTables.HierarchyKeys)
    (I := fun t : StaffTables => Acyclic t.ParentOf) hierarchyKeys_apply acyclic_apply_iff
    start.2.1 start.2.2 actions

def twoRoles : RoleTree where
  val :=
    { users := []
      employees := []
      roles := [⟨1, "a", none, none⟩, ⟨2, "b", none, none⟩]
      permissions := []
      rolePermissions := []
      departments := []
      departmentRoles := []
      appeals := [] }
  property := by
    refine ⟨⟨by decide, by decide, by decide⟩, ?_⟩
    intro role on
    obtain ⟨above, ⟨row, known, _, parent⟩, _⟩ := on.exists_next
    revert parent
    revert row
    simp

def reparentRequest (roleId parentRoleId : Nat) : RoleRequest :=
  .updateRole (.id roleId) ⟨false, none, some (some (.id parentRoleId))⟩ 4

def crossedReparenting : List (Action RoleRequest) :=
  [.begin 0 (reparentRequest 1 2), .begin 1 (reparentRequest 2 1),
    .step 0, .step 0, .step 0, .step 1, .step 1, .step 1, .step 0, .step 1]

theorem crossed_reparenting_closes_cycle :
    ¬ ∀ (start : RoleTree) (actions : List (Action RoleRequest)),
      Always (step RoleWrite.apply RoleRequest.job)
        (fun s : System StaffTables RoleWrite (Option AdminAnswer) =>
          Acyclic s.shared.ParentOf) (System.start start.1) actions := by
  intro always
  have acyclic := (always twoRoles crossedReparenting).last
  have roles : (run (step RoleWrite.apply RoleRequest.job) (System.start twoRoles.1)
      crossedReparenting).shared.roles = [⟨1, "a", none, some 2⟩, ⟨2, "b", none, some 1⟩] := by
    decide
  apply acyclic 1
  refine Relation.TransGen.tail (b := 2) (.single ?_) ?_
  · exact ⟨⟨1, "a", none, some 2⟩, by simp [roles], rfl, rfl⟩
  · exact ⟨⟨2, "b", none, some 1⟩, by simp [roles], rfl, rfl⟩

end Runs

end LeaderProduct
