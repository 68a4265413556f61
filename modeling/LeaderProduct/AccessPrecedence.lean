import Mathlib.Order.Lattice.Nat
import LeaderProduct.RoleChains
import LeaderProduct.RuleLayers

/-! Which rules decide about a service: those of the user, then of the roles in departments, then
of the departments and then of the roles, and in the layers of roles only the nearest ones. -/
namespace LeaderProduct
open RuleLayers

section Fields
variable {ρ : Type} {flag : ρ → Option Bool} {distance : ρ → Nat} {base : Bool} {rules : List ρ}

def layerOf (flag : ρ → Option Bool) (distance : ρ → Nat) (rules : List ρ) : Layer ρ where
  rules := {rule | rule ∈ rules}
  flag := flag
  rank := distance

def verdictOutcome (base : Bool) : Option Bool → Bool × DecisionOrigin
  | some value => (value, .explicit)
  | none => (base, .default)

section
variable (safe : ∀ rule ∈ rules, distance rule ≤ maxSafeInteger)
include safe

theorem minDistance_least
    (given : rules ≠ []) : (rules.map distance).min? = some (minDistance distance rules) := by
  obtain ⟨least, found⟩ := Option.isSome_iff_exists.mp
    (List.isSome_min?_of_ne_nil (fun none => given (List.map_eq_nil_iff.mp none)) :
      (rules.map distance).min?.isSome = true)
  obtain ⟨rule, member, here⟩ := List.mem_map.mp (List.min?_mem found)
  have bound := safe rule member
  have folded : minDistance distance rules = (rules.map distance).foldl min maxSafeInteger := by
    rw [minDistance, List.foldl_map]
  rw [folded, List.foldl_min, found, Option.getD_some, Nat.min_eq_right (here ▸ bound)]

theorem counts_iff (rule : ρ) :
    (layerOf flag distance rules).Counts rule ↔
      rule ∈ nearestRules distance (rules.filter (fun rule => (flag rule).isSome)) := by
  have member (rule : ρ) : rule ∈ rules.filter (fun rule => (flag rule).isSome) ↔
      rule ∈ rules ∧ (flag rule).isSome = true := List.mem_filter
  have safe_explicit : ∀ rule ∈ rules.filter (fun rule => (flag rule).isSome),
      distance rule ≤ maxSafeInteger := fun rule here => safe rule ((member rule).mp here).1
  have least (given : rules.filter (fun rule => (flag rule).isSome) ≠ []) :=
    List.min?_eq_some_iff.mp (minDistance_least safe_explicit given)
  rw [nearestRules, List.mem_filter, beq_iff_eq]
  constructor
  · rintro ⟨here, explicit, nearest⟩
    have explicit_rule := (member rule).mpr ⟨here, explicit⟩
    obtain ⟨reached, below⟩ := least (List.ne_nil_of_mem explicit_rule)
    obtain ⟨other, among, same⟩ := List.mem_map.mp reached
    have other_rule := (member other).mp among
    have near : distance rule ≤ distance other := nearest other other_rule.1 other_rule.2
    have far := below _ (List.mem_map_of_mem explicit_rule)
    exact ⟨explicit_rule, by omega⟩
  · rintro ⟨explicit_rule, near⟩
    obtain ⟨here, explicit⟩ := (member rule).mp explicit_rule
    refine ⟨here, explicit, fun other there spoken => ?_⟩
    have below := (least (List.ne_nil_of_mem explicit_rule)).2 _
      (List.mem_map_of_mem ((member other).mpr ⟨there, spoken⟩))
    have close : distance rule ≤ distance other := by omega
    exact close

theorem evaluateNearestField_outcome
    :
    (evaluateNearestField flag distance base rules).outcome =
      verdictOutcome base (layerOf flag distance rules).verdict := by
  have speaks_iff : (layerOf flag distance rules).Speaks ↔
      (rules.filter (fun rule => (flag rule).isSome)).isEmpty = false := by
    rw [List.isEmpty_eq_false_iff_exists_mem]
    simp only [List.mem_filter]
    rfl
  have denies_iff : (layerOf flag distance rules).Denies ↔
      (nearestRules distance (rules.filter (fun rule => (flag rule).isSome))).any
        (fun rule => flag rule == some false) = true := by
    simp only [Layer.Denies, counts_iff safe, List.any_eq_true, beq_iff_eq]
    rfl
  unfold evaluateNearestField
  dsimp only
  by_cases speaks : (layerOf flag distance rules).Speaks
  · rw [speaks_iff.mp speaks]
    by_cases denies : (layerOf flag distance rules).Denies
    · rw [Layer.verdict_of_denies _ denies, if_neg Bool.false_ne_true,
        if_pos (denies_iff.mp denies)]
      rfl
    · rw [Layer.verdict_of_allows _ speaks denies, if_neg Bool.false_ne_true,
        if_neg (fun found => denies (denies_iff.mpr found))]
      rfl
  · have empty : (rules.filter (fun rule => (flag rule).isSome)).isEmpty = true := by
      rw [speaks_iff, Bool.not_eq_false] at speaks
      exact speaks
    rw [Layer.verdict_of_silent _ speaks, if_pos empty]
    rfl

end

theorem evaluateField_outcome :
    (evaluateField flag base rules).outcome =
      verdictOutcome base (layerOf flag (fun _ => 0) rules).verdict := by
  rw [← evaluateNearestField_outcome (fun _ _ => Nat.zero_le _)]
  have all : ∀ explicit : List ρ, explicit ≠ [] → nearestRules (fun _ => 0) explicit = explicit := by
    intro explicit given
    have least : (explicit.map (fun _ => 0)).min? = some (minDistance (fun _ => 0) explicit) :=
      minDistance_least (fun _ _ => Nat.zero_le _) given
    obtain ⟨rule, _, zero⟩ := List.mem_map.mp (List.min?_mem least)
    rw [nearestRules, ← zero]
    simp
  unfold evaluateField evaluateNearestField
  dsimp only
  cases empty : (rules.filter (fun rule => (flag rule).isSome)).isEmpty with
  | true => rfl
  | false => rw [all _ (List.isEmpty_eq_false_iff.mp empty)]

end Fields

section Chains
variable {κ : Type} [DecidableEq κ] {parent : κ → Option κ}

def ascend (parent : κ → Option κ) (current : Option κ) : Nat → Option κ
  | 0 => current
  | n + 1 => (ascend parent current n).bind parent

theorem climb_nodup {fuel : Nat} {current : Option κ} {visited : List κ}
    (distinct : visited.Nodup) : (climb parent fuel current visited).Nodup := by
  induction fuel generalizing current visited with
  | zero => exact distinct
  | succ fuel ih =>
    cases current with
    | none => exact distinct
    | some key =>
      rw [climb]
      split
      · exact distinct
      · next new =>
        apply ih
        rw [List.nodup_append]
        refine ⟨distinct, List.nodup_singleton key, fun a old b last => ?_⟩
        rw [List.mem_singleton.mp last]
        rintro rfl
        exact new old

theorem climb_ascends {start : Option κ} {fuel : Nat} {current : Option κ} {visited : List κ}
    (here : current = ascend parent start visited.length)
    (before : ∀ i key, visited[i]? = some key → ascend parent start i = some key) :
    ∀ i key, (climb parent fuel current visited)[i]? = some key →
      ascend parent start i = some key := by
  induction fuel generalizing current visited with
  | zero => exact before
  | succ fuel ih =>
    cases current with
    | none => exact before
    | some first =>
      rw [climb]
      split
      · exact before
      · apply ih
        · rw [List.length_append, List.length_singleton, ascend, ← here, Option.bind_some]
        · intro i key found
          rw [List.getElem?_append] at found
          split at found
          · exact before i key found
          · next beyond =>
            have last : i = visited.length := by
              have within := (List.getElem?_eq_some_iff.mp found).1
              rw [List.length_singleton] at within
              omega
            subst last
            rw [Nat.sub_self] at found
            rw [← here]
            exact found

theorem climb_length (fuel : Nat) (current : Option κ) (visited : List κ) :
    (climb parent fuel current visited).length ≤ fuel + visited.length := by
  induction fuel generalizing current visited with
  | zero => rw [climb, Nat.zero_add]
  | succ fuel ih =>
    cases current with
    | none => rw [climb]; omega
    | some first =>
      rw [climb]
      split
      · omega
      · have longer := ih (parent first) (visited ++ [first])
        rw [List.length_append, List.length_singleton] at longer
        omega

omit [DecidableEq κ] in
theorem reached_of_ascend {first key : κ} {n : Nat} (up : ascend parent (some first) n = some key) :
    Relation.ReflTransGen (fun child above => parent child = some above) first key := by
  induction n generalizing key with
  | zero =>
    cases up
    exact .refl
  | succ n ih =>
    obtain ⟨below, before, next⟩ := Option.bind_eq_some_iff.mp up
    exact .tail (ih before) next

theorem climb_getElem_iff {rows : List κ}
    (rooted : ∀ key, (parent key).isSome = true → key ∈ rows) {fuel : Nat}
    (enough : rows.length + 2 ≤ fuel) (start : Option κ) (key : κ) (i : Nat) :
    (climb parent fuel start [])[i]? = some key ↔
      IsLeast {n | ascend parent start n = some key} i := by
  have ascends : ∀ i key, (climb parent fuel start [])[i]? = some key →
      ascend parent start i = some key := climb_ascends rfl nofun
  have distinct : (climb parent fuel start []).Nodup := climb_nodup List.nodup_nil
  have visited : ∀ n, ascend parent start n = some key →
      ∃ j : Nat, (climb parent fuel start [])[j]? = some key := by
    intro n up
    cases start with
    | none =>
      have nothing : ∀ n, ascend parent none n = none := by
        intro n
        induction n with
        | zero => rfl
        | succ n ih => rw [ascend, ih, Option.bind_none]
      rw [nothing] at up
      cases up
    | some first =>
      have member := (mem_climb_iff rooted enough (some first) key).mpr
        ⟨first, rfl, reached_of_ascend up⟩
      exact List.mem_iff_getElem?.mp member
  -- no key is visited at two places
  have one_place : ∀ n j : Nat, (climb parent fuel start [])[j]? = some key →
      ascend parent start n = some key → n ≤ j → n = j := by
    intro n j found up below
    obtain ⟨within, there⟩ := List.getElem?_eq_some_iff.mp found
    have here : (climb parent fuel start []).get ⟨n, by omega⟩ = key := by
      have other := ascends n _ (List.getElem?_eq_getElem (by omega))
      rw [up, Option.some.injEq] at other
      exact other.symm
    exact (List.Nodup.getElem_inj_iff distinct).mp (here.trans there.symm)
  constructor
  · intro found
    refine ⟨ascends i key found, fun n up => ?_⟩
    rcases Nat.le_total i n with below | above
    · exact below
    · exact Nat.le_of_eq (one_place n i found up above).symm
  · rintro ⟨up, least⟩
    obtain ⟨j, found⟩ := visited i up
    have same := one_place i j found up (least (ascends j key found))
    exact same ▸ found

end Chains

section Reference
variable (t : AccessTables) (user : AccessUser) (userId : Nat) (service : ServiceRow)

def AccessUser.activeDepartment : Option Nat :=
  truthy ((user.employeeProfile.bind (·.activeDepartmentId)).or
    (user.employeeProfile.bind (·.departmentId)))

def AccessUser.InDepartment (departmentId : Nat) : Prop :=
  match user.activeDepartment with
  | some active => departmentId = active
  | none => departmentId ≠ 0 ∧ (user.employeeProfile.bind (·.departmentId) = some departmentId ∨
      ∃ row ∈ user.departmentRoles, row.departmentId = departmentId)

def AccessUser.Acting (row : DepartmentRoleRow) : Prop :=
  row ∈ user.departmentRoles ∧
    ∀ active, user.activeDepartment = some active → row.departmentId = active

def roleUp (roleId : Nat) (n : Nat) : Option Nat :=
  ascend (parentRole t) (truthy (some roleId)) n

def holdsAt (roleId : Nat) : Set Nat :=
  {n | roleUp t user.roleId n = some roleId ∨
    ∃ row, user.Acting row ∧ roleUp t row.roleId n = some roleId}

def holdsInAt (subject : DepartmentRoleRow) : Set Nat :=
  {n | roleUp t user.roleId n = some subject.roleId ∨
    ∃ row, user.Acting row ∧ row.departmentId = subject.departmentId ∧
      roleUp t row.roleId n = some subject.roleId}

def AccessRule.flag {σ : Type} (field : RuleField) (rule : AccessRule σ) : Option Bool :=
  field.pick rule.visible rule.enabled

variable (field : RuleField)

def userLayer : Layer (AccessRule Nat) where
  rules := {rule | rule ∈ t.userAccess ∧ rule.serviceId = service.id ∧ rule.subject = userId}
  flag := AccessRule.flag field
  rank _ := 0

noncomputable def departmentRoleLayer : Layer (AccessRule DepartmentRoleRow) where
  rules := {rule | rule ∈ t.departmentRoleAccess ∧ rule.serviceId = service.id ∧
    user.InDepartment rule.subject.departmentId ∧ (holdsInAt t user rule.subject).Nonempty}
  flag := AccessRule.flag field
  rank rule := sInf (holdsInAt t user rule.subject)

def departmentLayer : Layer (AccessRule Nat) where
  rules := {rule | rule ∈ t.departmentAccess ∧ rule.serviceId = service.id ∧
    user.InDepartment rule.subject}
  flag := AccessRule.flag field
  rank _ := 0

noncomputable def roleLayer : Layer (AccessRule Nat) where
  rules := {rule | rule ∈ t.roleAccess ∧ rule.serviceId = service.id ∧
    (holdsAt t user rule.subject).Nonempty}
  flag := AccessRule.flag field
  rank rule := sInf (holdsAt t user rule.subject)

/-- The default of the service, which is off where the service is. -/
def ServiceRow.base (service : ServiceRow) (field : RuleField) : Bool :=
  service.isActive &&
    match field with
    | .visible => service.defaultVisible
    | .enabled => service.defaultEnabled

/-- What the most specific layer that says anything says of the field. -/
noncomputable def layeredField : ResolvedFieldDecision :=
  mostSpecific ⟨service.base field, .default⟩
    [(userLayer t userId service field).verdict.map (⟨·, .user⟩),
      (departmentRoleLayer t user service field).verdict.map (⟨·, .departmentRole⟩),
      (departmentLayer t user service field).verdict.map (⟨·, .department⟩),
      (roleLayer t user service field).verdict.map (⟨·, .role⟩)]

end Reference

section Distances
variable {t : AccessTables} {user : AccessUser} {userId : Nat} {ctx : UserAccessContext}

theorem isLeast_iff_of_cofinal {A B : Set Nat} (sub : A ⊆ B) (low : ∀ b ∈ B, ∃ a ∈ A, a ≤ b)
    (d : Nat) : IsLeast A d ↔ IsLeast B d := by
  constructor
  · rintro ⟨member, least⟩
    refine ⟨sub member, fun b there => ?_⟩
    obtain ⟨a, here, below⟩ := low b there
    exact (least here).trans below
  · rintro ⟨member, least⟩
    obtain ⟨a, here, below⟩ := low d member
    have same : a = d := Nat.le_antisymm below (least (sub here))
    exact ⟨same ▸ here, fun b there => least (sub there)⟩

theorem exists_least {A : Set Nat} {n : Nat} (member : n ∈ A) : ∃ m, IsLeast A m ∧ m ≤ n :=
  ⟨sInf A, ⟨Nat.sInf_mem ⟨n, member⟩, fun _ there => Nat.sInf_le there⟩, Nat.sInf_le member⟩

theorem mem_serviceRoleChain (t : AccessTables) (roleId : Nat) (entry : ChainEntry) :
    entry ∈ collectRoleChain t roleId ↔
      IsLeast {n | roleUp t roleId n = some entry.roleId} entry.distance := by
  have rows : (t.roles.map (·.id)).length + 2 ≤ t.climbRounds := by
    rw [List.length_map]
    exact Nat.le_refl _
  rw [collectRoleChain, List.mem_map]
  constructor
  · rintro ⟨⟨key, place⟩, visited, rfl⟩
    exact (climb_getElem_iff (fun _ => role_of_parent t) rows _ key place).mp
      (List.mem_zipIdx_iff_getElem?.mp visited)
  · intro least
    have visited := (climb_getElem_iff (fun _ => role_of_parent t) rows _ entry.roleId
      entry.distance).mpr least
    exact ⟨(entry.roleId, entry.distance), List.mem_zipIdx_iff_getElem?.mpr visited, rfl⟩

theorem collectRoleChain_distance {roleId : Nat} {entry : ChainEntry}
    (member : entry ∈ collectRoleChain t roleId) : entry.distance ≤ t.roles.length + 1 := by
  rw [collectRoleChain, List.mem_map] at member
  obtain ⟨⟨key, place⟩, visited, rfl⟩ := member
  have within := (List.getElem?_eq_some_iff.mp (List.mem_zipIdx_iff_getElem?.mp visited)).1
  have bound : (climb (parentRole t) t.climbRounds (truthy (some roleId)) []).length ≤
      t.climbRounds + [].length := climb_length _ _ _
  rw [List.length_nil, AccessTables.climbRounds] at bound
  dsimp only at within ⊢
  rw [AccessTables.climbRounds] at within
  omega

theorem mem_assignmentsOf {source : RoleSource} {roleName : Option String}
    {departmentId : Option Nat} {roleId : Nat} {assignment : RoleAssignment} :
    assignment ∈ assignmentsOf t source roleName departmentId roleId ↔
      assignment.roleName = roleName ∧ assignment.source = source ∧
        assignment.sourceDepartmentId = departmentId ∧
        IsLeast {n | roleUp t roleId n = some assignment.roleId} assignment.distance := by
  rw [assignmentsOf, List.mem_map]
  constructor
  · rintro ⟨entry, visited, rfl⟩
    exact ⟨rfl, rfl, rfl, (mem_serviceRoleChain t roleId entry).mp visited⟩
  · rintro ⟨rfl, rfl, rfl, least⟩
    exact ⟨⟨assignment.roleId, assignment.distance⟩,
      (mem_serviceRoleChain t roleId ⟨assignment.roleId, assignment.distance⟩).mpr least, rfl⟩

theorem context_parts (found : t.users userId = some user)
    (known : resolveUserAccessContext t userId = some ctx) :
    ctx.userId = userId ∧
      (∀ departmentId, departmentId ∈ ctx.departmentIds ↔ user.InDepartment departmentId) ∧
      ∃ roleName, ∀ assignment, assignment ∈ ctx.roleAssignments ↔
        assignment ∈ assignmentsOf t .primaryRole roleName none user.roleId ∨
          ∃ row, user.Acting row ∧
            assignment ∈ assignmentsOf t .departmentRole none (some row.departmentId) row.roleId := by
  rw [resolveUserAccessContext, found, Option.map_some, Option.some.injEq] at known
  subst known
  refine ⟨rfl, fun departmentId => ?_, (t.role user.roleId).map (·.name), fun assignment => ?_⟩
  · simp only [effectiveDepartmentIds, AccessUser.InDepartment, AccessUser.activeDepartment]
    cases active : truthy ((user.employeeProfile.bind (·.activeDepartmentId)).or
      (user.employeeProfile.bind (·.departmentId))) with
    | some active => simp
    | none =>
      simp only [truthy, List.mem_append, List.mem_filter, List.mem_map, Option.mem_toList,
        Option.filter_eq_some_iff, decide_eq_true_eq]
      rw [← or_and_right]
      exact and_comm
  · simp only [List.mem_append, List.mem_flatMap]
    apply or_congr
    · by_cases zero : user.roleId = 0
      · have empty (roleName : Option String) :
            assignmentsOf t .primaryRole roleName none user.roleId = [] := by
          rw [assignmentsOf, collectRoleChain, zero]
          rfl
        rw [empty, zero]
        rfl
      · have itself : truthy (some user.roleId) = some user.roleId := by
          rw [truthy, Option.filter_some, if_pos (by simpa using zero)]
        rw [itself, Option.elim_some]
    · refine exists_congr fun row => and_congr_left fun _ => ?_
      rw [AccessUser.Acting, AccessUser.activeDepartment]
      cases truthy ((user.employeeProfile.bind (·.activeDepartmentId)).or
        (user.employeeProfile.bind (·.departmentId))) with
      | none => simp
      | some active => simp

theorem assignments_at (found : t.users userId = some user)
    (known : resolveUserAccessContext t userId = some ctx)
    (kind : RoleSource → Option Nat → Prop) (roleId n : Nat) :
    (∃ assignment ∈ ctx.roleAssignments, assignment.roleId = roleId ∧
        kind assignment.source assignment.sourceDepartmentId ∧ assignment.distance = n) ↔
      kind .primaryRole none ∧ IsLeast {n | roleUp t user.roleId n = some roleId} n ∨
        ∃ row, user.Acting row ∧ kind .departmentRole (some row.departmentId) ∧
          IsLeast {n | roleUp t row.roleId n = some roleId} n := by
  obtain ⟨-, -, roleName, parts⟩ := context_parts found known
  constructor
  · rintro ⟨assignment, member, rfl, of_kind, rfl⟩
    rcases (parts assignment).mp member with own | ⟨row, acting, own⟩
    · obtain ⟨-, source, department, least⟩ := mem_assignmentsOf.mp own
      rw [source, department] at of_kind
      exact .inl ⟨of_kind, least⟩
    · obtain ⟨-, source, department, least⟩ := mem_assignmentsOf.mp own
      rw [source, department] at of_kind
      exact .inr ⟨row, acting, of_kind, least⟩
  · rintro (⟨of_kind, least⟩ | ⟨row, acting, of_kind, least⟩)
    · exact ⟨⟨roleId, roleName, n, .primaryRole, none⟩,
        (parts _).mpr (.inl (mem_assignmentsOf.mpr ⟨rfl, rfl, rfl, least⟩)), rfl, of_kind, rfl⟩
    · exact ⟨⟨roleId, none, n, .departmentRole, some row.departmentId⟩,
        (parts _).mpr (.inr ⟨row, acting, mem_assignmentsOf.mpr ⟨rfl, rfl, rfl, least⟩⟩), rfl,
        of_kind, rfl⟩

theorem assignment_distance (found : t.users userId = some user)
    (known : resolveUserAccessContext t userId = some ctx) {assignment : RoleAssignment}
    (member : assignment ∈ ctx.roleAssignments) : assignment.distance ≤ t.roles.length + 1 := by
  obtain ⟨-, -, roleName, parts⟩ := context_parts found known
  rcases (parts assignment).mp member with own | ⟨row, -, own⟩
  · obtain ⟨entry, visited, rfl⟩ := List.mem_map.mp own
    exact collectRoleChain_distance visited
  · obtain ⟨entry, visited, rfl⟩ := List.mem_map.mp own
    exact collectRoleChain_distance visited

/-- The least distance over the assignments of a kind is the least over all ways up. -/
theorem least_assignment_iff (found : t.users userId = some user)
    (known : resolveUserAccessContext t userId = some ctx)
    (kind : RoleSource → Option Nat → Prop) (primary : kind .primaryRole none) (roleId d : Nat) :
    IsLeast {n | ∃ assignment ∈ ctx.roleAssignments, assignment.roleId = roleId ∧
        kind assignment.source assignment.sourceDepartmentId ∧ assignment.distance = n} d ↔
      IsLeast {n | roleUp t user.roleId n = some roleId ∨
        ∃ row, user.Acting row ∧ kind .departmentRole (some row.departmentId) ∧
          roleUp t row.roleId n = some roleId} d := by
  apply isLeast_iff_of_cofinal
  · intro n at_n
    rcases (assignments_at found known kind roleId n).mp at_n with ⟨-, least⟩ |
      ⟨row, acting, of_kind, least⟩
    · exact .inl least.1
    · exact .inr ⟨row, acting, of_kind, least.1⟩
  · rintro n (up | ⟨row, acting, of_kind, up⟩)
    · have up_n : n ∈ {n | roleUp t user.roleId n = some roleId} := up
      obtain ⟨m, least, below⟩ := exists_least up_n
      exact ⟨m, (assignments_at found known kind roleId m).mpr (.inl ⟨primary, least⟩), below⟩
    · have up_n : n ∈ {n | roleUp t row.roleId n = some roleId} := up
      obtain ⟨m, least, below⟩ := exists_least up_n
      exact ⟨m, (assignments_at found known kind roleId m).mpr (.inr ⟨row, acting, of_kind, least⟩),
        below⟩

theorem min?_distances_iff {assignments : List RoleAssignment} {p : RoleAssignment → Bool}
    (d : Nat) : ((assignments.filter p).map (·.distance)).min? = some d ↔
      IsLeast {n | ∃ assignment ∈ assignments, p assignment = true ∧ assignment.distance = n} d := by
  have member (n : Nat) : n ∈ (assignments.filter p).map (·.distance) ↔
      ∃ assignment ∈ assignments, p assignment = true ∧ assignment.distance = n := by
    simp only [List.mem_map, List.mem_filter, and_assoc]
  rw [List.min?_eq_some_iff, member]
  simp only [member]
  rfl

theorem roleDistance_iff (found : t.users userId = some user)
    (known : resolveUserAccessContext t userId = some ctx) (roleId d : Nat) :
    ctx.roleDistance roleId = some d ↔ IsLeast (holdsAt t user roleId) d := by
  have least := least_assignment_iff found known (fun _ _ => True) trivial roleId d
  simp only [true_and] at least
  rw [UserAccessContext.roleDistance, min?_distances_iff, holdsAt, ← least]
  simp only [beq_iff_eq]

theorem departmentRoleDistance_iff (found : t.users userId = some user)
    (known : resolveUserAccessContext t userId = some ctx) {subject : DepartmentRoleRow}
    (here : user.InDepartment subject.departmentId) (d : Nat) :
    departmentRoleDistance ctx subject = some d ↔ IsLeast (holdsInAt t user subject) d := by
  obtain ⟨-, departments, -⟩ := context_parts found known
  have listed := (departments subject.departmentId).mpr here
  have least := least_assignment_iff found known
    (fun source departmentId => source = .primaryRole ∨ departmentId = some subject.departmentId)
    (.inl rfl) subject.roleId d
  simp only [reduceCtorEq, false_or, Option.some.injEq] at least
  rw [departmentRoleDistance, min?_distances_iff, holdsInAt, ← least]
  congr! 3 with n
  refine exists_congr fun assignment => and_congr_right fun _ => ?_
  rw [Bool.and_eq_true, beq_iff_eq, and_assoc]
  refine and_congr_right fun _ => and_congr_left fun _ => ?_
  cases assignment.source with
  | primaryRole => simpa using listed
  | departmentRole => simp

theorem roleIds_iff (found : t.users userId = some user)
    (known : resolveUserAccessContext t userId = some ctx) (roleId : Nat) :
    roleId ∈ ctx.roleIds ↔ (holdsAt t user roleId).Nonempty := by
  have some_distance : roleId ∈ ctx.roleIds ↔ (ctx.roleDistance roleId).isSome = true := by
    rw [UserAccessContext.roleDistance, List.isSome_min?_iff]
    simp only [UserAccessContext.roleIds, List.mem_map, ne_eq, List.map_eq_nil_iff,
      List.filter_eq_nil_iff, not_forall, beq_iff_eq]
    simp
  rw [some_distance, Option.isSome_iff_exists]
  constructor
  · rintro ⟨d, least⟩
    exact ⟨d, ((roleDistance_iff found known roleId d).mp least).1⟩
  · rintro ⟨n, at_n⟩
    obtain ⟨d, least, -⟩ := exists_least at_n
    exact ⟨d, (roleDistance_iff found known roleId d).mpr least⟩

end Distances

section Decision
variable {t : AccessTables} {user : AccessUser} {userId : Nat} {ctx : UserAccessContext}

theorem verdict_map {α σ ρ : Type} {flag : ρ → Option Bool} {distance : ρ → Nat} (f : α → ρ)
    (g : α → σ) {items : List α} {L : Layer σ}
    (members : ∀ rule, rule ∈ L.rules ↔ ∃ a ∈ items, g a = rule)
    (flags : ∀ a ∈ items, flag (f a) = L.flag (g a))
    (ranks : ∀ a ∈ items, distance (f a) = L.rank (g a)) :
    (layerOf flag distance (items.map f)).verdict = L.verdict := by
  apply Layer.verdict_congr
  · intro rule member
    obtain ⟨a, here, rfl⟩ := List.mem_map.mp member
    exact ⟨g a, (members _).mpr ⟨a, here, rfl⟩, (flags a here).symm, (ranks a here).symm⟩
  · intro rule member
    obtain ⟨a, here, rfl⟩ := (members rule).mp member
    exact ⟨f a, List.mem_map_of_mem here, flags a here, ranks a here⟩

theorem resolveFinalField_eq {base : Bool} {user : LayerDecision UserRuleMatch}
    {departmentRole : LayerDecision DepartmentRoleRuleMatch}
    {department : LayerDecision DepartmentRuleMatch} {role : LayerDecision RoleRuleMatch}
    {a b c d : Option Bool} (users : user.outcome = verdictOutcome base a)
    (departmentRoles : departmentRole.outcome = verdictOutcome base b)
    (departments : department.outcome = verdictOutcome base c)
    (roles : role.outcome = verdictOutcome base d) :
    resolveFinalField base user departmentRole department role =
      mostSpecific ⟨base, .default⟩ [a.map (⟨·, .user⟩), b.map (⟨·, .departmentRole⟩),
        c.map (⟨·, .department⟩), d.map (⟨·, .role⟩)] := by
  have origin {ρ : Type} {decision : LayerDecision ρ} {v : Option Bool}
      (same : decision.outcome = verdictOutcome base v) :
      (decision.origin = .explicit ↔ v.isSome = true) ∧ ∀ value, v = some value →
        decision.value = value := by
    cases v with
    | none => exact ⟨by simp [(Prod.mk.inj same).2], nofun⟩
    | some value =>
      refine ⟨by simp [(Prod.mk.inj same).2], fun other given => ?_⟩
      cases given
      exact (Prod.mk.inj same).1
  unfold resolveFinalField
  cases a with
  | some value => rw [if_pos ((origin users).1.mpr rfl), (origin users).2 value rfl]; rfl
  | none =>
    rw [if_neg (fun explicit => nomatch (origin users).1.mp explicit)]
    cases b with
    | some value =>
      rw [if_pos ((origin departmentRoles).1.mpr rfl), (origin departmentRoles).2 value rfl]
      rfl
    | none =>
      rw [if_neg (fun explicit => nomatch (origin departmentRoles).1.mp explicit)]
      cases c with
      | some value =>
        rw [if_pos ((origin departments).1.mpr rfl), (origin departments).2 value rfl]
        rfl
      | none =>
        rw [if_neg (fun explicit => nomatch (origin departments).1.mp explicit)]
        cases d with
        | some value => rw [if_pos ((origin roles).1.mpr rfl), (origin roles).2 value rfl]; rfl
        | none => rw [if_neg (fun explicit => nomatch (origin roles).1.mp explicit)]; rfl

theorem isLeast_sInf {A : Set Nat} (given : A.Nonempty) : IsLeast A (sInf A) :=
  ⟨Nat.sInf_mem given, fun _ there => Nat.sInf_le there⟩

theorem safe_length (ids : ∀ role ∈ t.roles, role.id < 2 ^ 31) :
    t.roles.length + 1 ≤ maxSafeInteger := by
  have within : t.roles.map (·.id) ⊆ List.range (2 ^ 31) := by
    intro id member
    obtain ⟨role, there, rfl⟩ := List.mem_map.mp member
    exact List.mem_range.mpr (ids role there)
  have bound := (List.subperm_of_subset t.role_ids within).length_le
  rw [List.length_map, List.length_range] at bound
  unfold maxSafeInteger
  omega

theorem safe_distance (found : t.users userId = some user)
    (known : resolveUserAccessContext t userId = some ctx)
    (ids : ∀ role ∈ t.roles, role.id < 2 ^ 31) {p : RoleAssignment → Bool} {d : Nat}
    (least : ((ctx.roleAssignments.filter p).map (·.distance)).min? = some d) :
    d ≤ maxSafeInteger := by
  obtain ⟨assignment, member, -, rfl⟩ := ((min?_distances_iff d).mp least).1
  exact (assignment_distance found known member).trans (safe_length ids)

theorem mem_rulesFor {σ : Type} {service : ServiceRow} {rules : List (AccessRule σ)}
    {pick : σ → Bool} {rule : AccessRule σ} : rule ∈ rulesFor service rules pick ↔
      rule ∈ rules ∧ rule.serviceId = service.id ∧ pick rule.subject = true := by
  rw [rulesFor, List.mem_filter, Bool.and_eq_true, beq_iff_eq]

theorem mem_matchedDepartmentRoles (found : t.users userId = some user)
    (known : resolveUserAccessContext t userId = some ctx)
    (ids : ∀ role ∈ t.roles, role.id < 2 ^ 31) (service : ServiceRow)
    (matched : AccessRule DepartmentRoleRow × Nat) :
    matched ∈ matchedDepartmentRoles t ctx service ↔
      (matched.1 ∈ t.departmentRoleAccess ∧ matched.1.serviceId = service.id ∧
        user.InDepartment matched.1.subject.departmentId ∧
        (holdsInAt t user matched.1.subject).Nonempty) ∧
      matched.2 = sInf (holdsInAt t user matched.1.subject) := by
  obtain ⟨-, departments, -⟩ := context_parts found known
  have exact_distance {subject : DepartmentRoleRow} {d : Nat}
      (here : user.InDepartment subject.departmentId)
      (least : departmentRoleDistance ctx subject = some d) :
      min maxSafeInteger d = sInf (holdsInAt t user subject) := by
    have bound : d ≤ maxSafeInteger := safe_distance found known ids least
    rw [((departmentRoleDistance_iff found known here d).mp least).csInf_eq]
    exact Nat.min_eq_right bound
  rw [matchedDepartmentRoles, List.mem_filterMap]
  simp only [mem_rulesFor, Bool.and_eq_true, List.contains_iff_mem, departments,
    roleIds_iff found known, Option.map_eq_some_iff]
  constructor
  · rintro ⟨rule, ⟨there, service_id, here, -⟩, d, least, rfl⟩
    have held := ((departmentRoleDistance_iff found known here d).mp least).1
    exact ⟨⟨there, service_id, here, ⟨d, held⟩⟩, exact_distance here least⟩
  · rintro ⟨⟨there, service_id, here, held⟩, rank⟩
    have least := (departmentRoleDistance_iff found known here _).mpr (isLeast_sInf held)
    have anywhere : (holdsAt t user matched.1.subject.roleId).Nonempty := by
      obtain ⟨n, own | ⟨row, acting, -, up⟩⟩ := held
      · exact ⟨n, .inl own⟩
      · exact ⟨n, .inr ⟨row, acting, up⟩⟩
    refine ⟨matched.1, ⟨there, service_id, here, anywhere⟩, _, least, ?_⟩
    rw [exact_distance here least, ← rank]

theorem finalField_layered (found : t.users userId = some user)
    (known : resolveUserAccessContext t userId = some ctx)
    (ids : ∀ role ∈ t.roles, role.id < 2 ^ 31) (service : ServiceRow) (field : RuleField)
    (described : Bool) :
    finalField (service.base field) field (matchRules t ctx service described) =
      layeredField t user userId service field := by
  obtain ⟨itself, departments, -⟩ := context_parts found known
  apply resolveFinalField_eq
  · rw [evaluateUserField, evaluateField_outcome]
    congr 1
    apply verdict_map (userRuleMatch t described) id
    · intro rule
      simp [mem_rulesFor, userLayer, itself]
    · exact fun _ _ => rfl
    · exact fun _ _ => rfl
  · rw [evaluateDepartmentRoleField, evaluateNearestField_outcome]
    · congr 1
      apply verdict_map (departmentRoleRuleMatch t described) Prod.fst
      · intro rule
        constructor
        · intro member
          exact ⟨(rule, sInf (holdsInAt t user rule.subject)),
            (mem_matchedDepartmentRoles found known ids service _).mpr ⟨member, rfl⟩, rfl⟩
        · rintro ⟨matched, member, rfl⟩
          exact ((mem_matchedDepartmentRoles found known ids service matched).mp member).1
      · exact fun _ _ => rfl
      · exact fun matched member =>
          ((mem_matchedDepartmentRoles found known ids service matched).mp member).2
    · intro rule member
      obtain ⟨matched, there, rfl⟩ := List.mem_map.mp member
      obtain ⟨source, -, same⟩ := List.mem_filterMap.mp there
      obtain ⟨d, -, rfl⟩ := Option.map_eq_some_iff.mp same
      exact Nat.min_le_left _ _
  · rw [evaluateDepartmentField, evaluateField_outcome]
    congr 1
    apply verdict_map (departmentRuleMatch t described) id
    · intro rule
      simp [mem_rulesFor, departmentLayer, departments]
    · exact fun _ _ => rfl
    · exact fun _ _ => rfl
  · rw [evaluateRoleField, evaluateNearestField_outcome]
    · congr 1
      apply verdict_map (roleRuleMatch t ctx described) id
      · intro rule
        simp [mem_rulesFor, roleLayer, roleIds_iff found known]
      · exact fun _ _ => rfl
      · intro rule member
        obtain ⟨-, -, held⟩ := mem_rulesFor.mp member
        rw [List.contains_iff_mem, roleIds_iff found known] at held
        have least := (roleDistance_iff found known rule.subject _).mpr (isLeast_sInf held)
        rw [roleRuleMatch, least]
        rfl
    · intro rule member
      obtain ⟨source, -, rfl⟩ := List.mem_map.mp member
      cases least : ctx.roleDistance source.subject with
      | none =>
        rw [roleRuleMatch, least]
        exact Nat.le_refl _
      | some d =>
        rw [roleRuleMatch, least]
        exact safe_distance found known ids least

structure Reordered (t t' : AccessTables) : Prop where
  roles : t'.roles = t.roles
  userAccess : t'.userAccess.Perm t.userAccess
  roleAccess : t'.roleAccess.Perm t.roleAccess
  departmentAccess : t'.departmentAccess.Perm t.departmentAccess
  departmentRoleAccess : t'.departmentRoleAccess.Perm t.departmentRoleAccess
  users : ∀ userId user', t'.users userId = some user' → ∃ user, t.users userId = some user ∧
    ∃ rows, user' = { user with departmentRoles := rows } ∧ rows.Perm user.departmentRoles

theorem layeredField_reordered {t' : AccessTables} (same : Reordered t t')
    {rows : List DepartmentRoleRow} (perm : rows.Perm user.departmentRoles) (userId : Nat)
    (service : ServiceRow) (field : RuleField) :
    layeredField t' { user with departmentRoles := rows } userId service field =
      layeredField t user userId service field := by
  have up : roleUp t' = roleUp t := by
    funext roleId n
    have parents : parentRole t' = parentRole t := by
      funext id
      simp only [parentRole, AccessTables.role, same.roles]
    rw [roleUp, roleUp, parents]
  have acting : ({ user with departmentRoles := rows } : AccessUser).Acting = user.Acting := by
    funext row
    exact propext (and_congr_left fun _ => perm.mem_iff)
  have departments : ({ user with departmentRoles := rows } : AccessUser).InDepartment =
      user.InDepartment := by
    funext departmentId
    simp only [AccessUser.InDepartment, AccessUser.activeDepartment, perm.mem_iff]
  have holds : holdsAt t' { user with departmentRoles := rows } = holdsAt t user := by
    funext roleId
    simp only [holdsAt, up, acting]
  have holds_in : holdsInAt t' { user with departmentRoles := rows } = holdsInAt t user := by
    funext subject
    simp only [holdsInAt, up, acting]
  simp only [layeredField, userLayer, departmentRoleLayer, departmentLayer, roleLayer, holds,
    holds_in, departments, same.userAccess.mem_iff, same.roleAccess.mem_iff,
    same.departmentAccess.mem_iff, same.departmentRoleAccess.mem_iff]

theorem decideService_layered (found : t.users userId = some user)
    (known : resolveUserAccessContext t userId = some ctx)
    (ids : ∀ role ∈ t.roles, role.id < 2 ^ 31) (service : ServiceRow) (described : Bool) :
    decideService t ctx service described =
      let visible := layeredField t user userId service .visible
      let enabled := layeredField t user userId service .enabled
      { visible := visible.value
        enabled := if visible.value then enabled.value else false
        finalVisible := visible
        finalEnabled := if visible.value then enabled else ⟨false, enabled.source⟩ } := by
  have visible := finalField_layered found known ids service .visible described
  have enabled := finalField_layered found known ids service .enabled described
  rw [← visible, ← enabled]
  rfl

/-- The decision about a service is that of the layers, and a service that is not shown is not
enabled either. -/
theorem service_decision_layered (t : AccessTables) (ids : ∀ role ∈ t.roles, role.id < 2 ^ 31)
    (userId : Nat) (ctx : UserAccessContext)
    (known : resolveUserAccessContext t userId = some ctx) (service : ServiceRow)
    (described : Bool) :
    ∃ user, t.users userId = some user ∧
      (decideService t ctx service described).visible =
        (layeredField t user userId service .visible).value ∧
      ((decideService t ctx service described).visible = true →
        (decideService t ctx service described).enabled =
          (layeredField t user userId service .enabled).value) ∧
      ((decideService t ctx service described).enabled = true →
        (decideService t ctx service described).visible = true) ∧
      ∀ t' ctx', Reordered t t' → resolveUserAccessContext t' userId = some ctx' →
        decideService t' ctx' service described = decideService t ctx service described := by
  cases found : t.users userId with
  | none => simp [resolveUserAccessContext, found] at known
  | some user =>
    have decided := decideService_layered found known ids service described
    have visible_eq : (decideService t ctx service described).visible =
        (layeredField t user userId service .visible).value := by rw [decided]
    have enabled_eq : (decideService t ctx service described).enabled =
        if (layeredField t user userId service .visible).value then
          (layeredField t user userId service .enabled).value
        else false := by rw [decided]
    refine ⟨user, rfl, visible_eq, ?_, ?_, ?_⟩
    · intro visible
      rw [visible_eq] at visible
      rw [enabled_eq, if_pos visible]
    · intro enabled
      rw [enabled_eq] at enabled
      rw [visible_eq]
      by_contra hidden
      rw [if_neg hidden] at enabled
      cases enabled
    · intro t' ctx' same known'
      cases found' : t'.users userId with
      | none => simp [resolveUserAccessContext, found'] at known'
      | some user' =>
        obtain ⟨user_before, found_before, rows, rfl, perm⟩ := same.users userId user' found'
        rw [found, Option.some.injEq] at found_before
        subst found_before
        have ids' : ∀ role ∈ t'.roles, role.id < 2 ^ 31 := same.roles ▸ ids
        rw [decideService_layered found' known' ids', decided,
          layeredField_reordered same perm, layeredField_reordered same perm]

def hiddenSample : AccessTables :=
  { inactiveSample with
    services := [⟨3, "tracking", "Tracking", true, true, true⟩]
    userAccess := [⟨1, 3, 7, some false, some true⟩]
    service_ids := by decide
    service_keys := by decide }

def hiddenContext : UserAccessContext where
  userId := 7
  roleName := some "employee"
  currentProfileType := some .employee
  activeDepartmentId := none
  roleAssignments := [⟨1, some "employee", 0, .primaryRole, none⟩]
  departmentIds := []
  isEmployee := true
  isAdmin := false

def hiddenService : ServiceRow := ⟨3, "tracking", "Tracking", true, true, true⟩

theorem hidden_sample_layered : ∃ user, hiddenSample.users 7 = some user ∧
    (decideService hiddenSample hiddenContext hiddenService false).visible =
      (layeredField hiddenSample user 7 hiddenService .visible).value := by
  obtain ⟨user, found, visible, -⟩ :=
    service_decision_layered hiddenSample (by decide) 7 hiddenContext (by decide) hiddenService false
  exact ⟨user, found, visible⟩

/-- The layer of the user enables the service, and the decision does not. -/
theorem hidden_service_not_enabled :
    resolveUserAccessContext hiddenSample 7 = some hiddenContext ∧
      ∃ user, hiddenSample.users 7 = some user ∧
        (decideService hiddenSample hiddenContext hiddenService false).enabled = false ∧
        (layeredField hiddenSample user 7 hiddenService .enabled).value = true := by
  refine ⟨by decide, _, rfl, by decide, ?_⟩
  have member : (⟨1, 3, 7, some false, some true⟩ : AccessRule Nat) ∈
      (userLayer hiddenSample 7 hiddenService .enabled).rules :=
    ⟨List.mem_singleton_self _, rfl, rfl⟩
  have allows : ¬ (userLayer hiddenSample 7 hiddenService .enabled).Denies := by
    rintro ⟨rule, ⟨⟨there, -⟩, -⟩, denied⟩
    rw [List.mem_singleton.mp there] at denied
    cases denied
  rw [layeredField, Layer.verdict_of_allows _ ⟨_, member, rfl⟩ allows]
  rfl

end Decision

end LeaderProduct
