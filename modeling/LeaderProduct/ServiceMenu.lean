import Mathlib.Data.List.Perm.Subperm
import LeaderProduct.ServiceAccess

/-! When the guard of a service and the menu agree. -/
namespace LeaderProduct

section Layers
variable {α ρ : Type} {flag : ρ → Option Bool} {distance : ρ → Nat} {base : Bool} {f g : α → ρ}

def LayerDecision.outcome (decision : LayerDecision ρ) : Bool × DecisionOrigin :=
  (decision.value, decision.origin)

theorem explicit_map (flags : ∀ a, flag (f a) = flag (g a)) (rules : List α) :
    (rules.map f).filter (fun rule => (flag rule).isSome) =
      (rules.filter (fun a => (flag (g a)).isSome)).map f := by
  rw [List.filter_map]
  simp only [Function.comp_def, flags]

theorem evaluateField_congr (flags : ∀ a, flag (f a) = flag (g a)) (rules : List α) :
    (evaluateField flag base (rules.map f)).outcome =
      (evaluateField flag base (rules.map g)).outcome := by
  simp only [evaluateField, LayerDecision.outcome, explicit_map flags,
    explicit_map (f := g) (g := g) (fun _ => rfl), List.isEmpty_map, List.any_map,
    Function.comp_def, flags]
  split
  · rfl
  · split <;> rfl

theorem nearestRules_map (distances : ∀ a, distance (f a) = distance (g a)) (rules : List α) :
    nearestRules distance (rules.map f) =
      (nearestRules (fun a => distance (g a)) rules).map f := by
  simp only [nearestRules, minDistance, List.foldl_map, List.filter_map, Function.comp_def,
    distances]

theorem evaluateNearestField_congr (flags : ∀ a, flag (f a) = flag (g a))
    (distances : ∀ a, distance (f a) = distance (g a)) (rules : List α) :
    (evaluateNearestField flag distance base (rules.map f)).outcome =
      (evaluateNearestField flag distance base (rules.map g)).outcome := by
  simp only [evaluateNearestField, LayerDecision.outcome, explicit_map flags,
    explicit_map (f := g) (g := g) (fun _ => rfl), List.isEmpty_map, nearestRules_map distances,
    nearestRules_map (fun a => rfl), List.any_map, Function.comp_def, flags]
  split
  · rfl
  · split <;> rfl

end Layers

section Names
variable (t : AccessTables) (ctx : UserAccessContext) (service : ServiceRow) (base : Bool)
  (field : RuleField)

theorem resolveFinalField_congr {user user' : LayerDecision UserRuleMatch}
    {departmentRole departmentRole' : LayerDecision DepartmentRoleRuleMatch}
    {department department' : LayerDecision DepartmentRuleMatch}
    {role role' : LayerDecision RoleRuleMatch} (users : user.outcome = user'.outcome)
    (departmentRoles : departmentRole.outcome = departmentRole'.outcome)
    (departments : department.outcome = department'.outcome) (roles : role.outcome = role'.outcome) :
    resolveFinalField base user departmentRole department role =
      resolveFinalField base user' departmentRole' department' role' := by
  simp only [LayerDecision.outcome, Prod.mk.injEq] at users departmentRoles departments roles
  simp only [resolveFinalField, users, departmentRoles, departments, roles]

theorem finalField_described : finalField base field (matchRules t ctx service true) =
    finalField base field (matchRules t ctx service false) := by
  apply resolveFinalField_congr
  · exact evaluateField_congr (f := userRuleMatch t true) (g := userRuleMatch t false)
      (fun _ => rfl) _
  · exact evaluateNearestField_congr (f := departmentRoleRuleMatch t true)
      (g := departmentRoleRuleMatch t false) (fun _ => rfl) (fun _ => rfl) _
  · exact evaluateField_congr (f := departmentRuleMatch t true) (g := departmentRuleMatch t false)
      (fun _ => rfl) _
  · exact evaluateNearestField_congr (f := roleRuleMatch t ctx true)
      (g := roleRuleMatch t ctx false) (fun _ => rfl) (fun _ => rfl) _

theorem decideService_described :
    decideService t ctx service true = decideService t ctx service false := by
  simp only [decideService, applyRuleFlags, finalField_described]

end Names

section Guard
variable (t : AccessTables) (userId : Nat) (serviceKey : String)

def NonAdmin : Prop :=
  ∃ ctx, resolveUserAccessContext t userId = some ctx ∧ ctx.isAdmin = false

/-- The rules that the user meets say visible and enabled, whatever the service says. -/
def RulesOpen (service : ServiceRow) : Prop :=
  ∃ ctx, resolveUserAccessContext t userId = some ctx ∧ ctx.isEmployee = true ∧
    (finalField false .visible (matchRules t ctx service true)).value = true ∧
    (finalField false .enabled (matchRules t ctx service true)).value = true

/-- For a non-admin the guard and the menu agree, and an inactive service is closed. -/
def GuardMatchesMenu : Prop :=
  NonAdmin t userId →
    (authorizeServiceAccess t serviceKey userId = .next ↔ menuShows t userId serviceKey = true) ∧
    ∀ service ∈ t.services, service.key = serviceKey → service.isActive = false →
      authorizeServiceAccess t serviceKey userId ≠ .next

variable {t userId serviceKey} {ctx : UserAccessContext} {service : ServiceRow}

theorem find_of_nodup {services : List ServiceRow} (unique : (services.map (·.key)).Nodup)
    (there : service ∈ services) :
    services.find? (fun other => other.key == service.key) = some service := by
  induction services with
  | nil => cases there
  | cons first rest ih =>
    rw [List.map_cons, List.nodup_cons] at unique
    rcases List.mem_cons.mp there with rfl | later
    · exact List.find?_cons_of_pos (beq_self_eq_true _)
    · have other : ¬ (first.key == service.key) = true := by
        rw [beq_iff_eq]
        exact fun same => unique.1 (same ▸ List.mem_map_of_mem later)
      rw [List.find?_cons, Bool.eq_false_iff.mpr other]
      exact ih unique.2 later

theorem find_service (there : service ∈ t.services) (named : service.key = serviceKey) :
    t.services.find? (fun service => service.key == serviceKey) = some service := by
  rw [← named]
  exact find_of_nodup t.service_keys there

theorem guard_next_iff (known : resolveUserAccessContext t userId = some ctx)
    (notAdmin : ctx.isAdmin = false) :
    authorizeServiceAccess t serviceKey userId = .next ↔
      ctx.isEmployee = true ∧ ∃ service ∈ t.services, service.key = serviceKey ∧
        (decideService t ctx service false).visible = true ∧
        (decideService t ctx service false).enabled = true := by
  have identified : userId ≠ 0 := by
    rintro rfl
    rw [resolveUserAccessContext, t.no_user_zero] at known
    cases known
  have explained : explainServiceAccessForUser t userId serviceKey =
      .ok ((t.services.find? (fun service => service.key == serviceKey)).map (fun service =>
        let decision := decideService t ctx service false
        let visible := ctx.isEmployee && decision.visible
        let enabled := ctx.isEmployee && decision.enabled
        ⟨visible, enabled, ctx.isEmployee, false,
          buildReasonCodes ctx.isEmployee false service.isActive visible enabled⟩)) := by
    simp only [explainServiceAccessForUser, known, notAdmin, decideService_described]
    rfl
  rw [authorizeServiceAccess, if_neg identified, resolveServiceAccessForUser, explained]
  cases found : t.services.find? (fun service => service.key == serviceKey) with
  | none =>
    refine iff_of_false (by simp [Except.map]) ?_
    rintro ⟨-, service, there, named, -⟩
    rw [find_service there named] at found
    cases found
  | some service =>
    have there := List.mem_of_find?_eq_some found
    have named : service.key = serviceKey := by
      simpa using List.find?_some found
    cases employee : ctx.isEmployee with
    | false => simp [Except.map]
    | true =>
      simp only [Except.map, Option.map_some, Bool.true_and]
      constructor
      · intro passed
        refine ⟨trivial, service, there, named, ?_⟩
        revert passed
        cases (decideService t ctx service false).visible <;>
          cases (decideService t ctx service false).enabled <;> simp
      · rintro ⟨-, other, there', named', visible, enabled⟩
        have same := find_service there' named'
        rw [found, Option.some.injEq] at same
        rw [same, visible, enabled]
        rfl

theorem menuShows_iff (known : resolveUserAccessContext t userId = some ctx)
    (notAdmin : ctx.isAdmin = false) :
    menuShows t userId serviceKey = true ↔
      ctx.isEmployee = true ∧ ∃ service ∈ t.services, service.key = serviceKey ∧
        service.isActive = true ∧
        (decideService t ctx service false).visible = true ∧
        (decideService t ctx service false).enabled = true := by
  have listed : listServicesForUser t userId =
      .ok (if ctx.isEmployee then
        ⟨(t.services.filter (·.isActive)).map (fun service =>
          let decision := decideService t ctx service false
          ⟨service.id, service.key, service.name, decision.visible, decision.enabled⟩), true⟩
      else ⟨[], false⟩) := by
    simp only [listServicesForUser, known, notAdmin]
    cases ctx.isEmployee <;> rfl
  rw [menuShows, listed]
  cases ctx.isEmployee with
  | false => simp
  | true =>
    simp only [if_true, true_and, List.any_map, List.any_eq_true, List.mem_filter,
      Function.comp_apply, Bool.and_eq_true, beq_iff_eq]
    constructor
    · rintro ⟨service, ⟨there, active⟩, ⟨named, visible⟩, enabled⟩
      exact ⟨service, there, named, active, visible, enabled⟩
    · rintro ⟨service, there, named, active, visible, enabled⟩
      exact ⟨service, ⟨there, active⟩, ⟨named, visible⟩, enabled⟩

theorem decideService_inactive (inactive : service.isActive = false) :
    ((decideService t ctx service false).visible = true ∧
        (decideService t ctx service false).enabled = true) ↔
      (finalField false .visible (matchRules t ctx service true)).value = true ∧
        (finalField false .enabled (matchRules t ctx service true)).value = true := by
  simp only [decideService, applyRuleFlags, inactive, Bool.false_and, finalField_described]
  cases (finalField false .visible (matchRules t ctx service false)).value <;> simp

end Guard

section Climb
variable {κ : Type} [DecidableEq κ] {parent : κ → Option κ} {rows : List κ}

end Climb

section Roles
variable (t : AccessTables)

theorem role_of_parent {id : Nat} (rooted : (parentRole t id).isSome = true) :
    id ∈ t.roles.map (·.id) := by
  cases found : t.role id with
  | none =>
    rw [parentRole, found] at rooted
    cases rooted
  | some role =>
    have named : role.id = id := by
      simpa using List.find?_some found
    exact named ▸ List.mem_map_of_mem (List.mem_of_find?_eq_some found)

end Roles

section Agreement
variable (t : AccessTables) (userId : Nat) (serviceKey : String)

/-- The guard agrees with the menu exactly when no inactive service of that key has rules that
open it to a non-admin. -/
theorem guard_matches_menu_iff :
    GuardMatchesMenu t userId serviceKey ↔
      (NonAdmin t userId → ∀ service ∈ t.services, service.key = serviceKey →
        service.isActive = false → ¬ RulesOpen t userId service) := by
  constructor
  · intro agree nonAdmin service there named inactive
    obtain ⟨ctx, known, notAdmin⟩ := nonAdmin
    rintro ⟨ctx', known', employee, rules⟩
    rw [known, Option.some.injEq] at known'
    subst known'
    have closed := (agree ⟨ctx, known, notAdmin⟩).2 service there named inactive
    exact closed ((guard_next_iff known notAdmin).mpr
      ⟨employee, service, there, named, (decideService_inactive inactive).mpr rules⟩)
  · rintro closed ⟨ctx, known, notAdmin⟩
    have shut (service : ServiceRow) (there : service ∈ t.services)
        (named : service.key = serviceKey) (inactive : service.isActive = false)
        (employee : ctx.isEmployee = true) : ¬ ((decideService t ctx service false).visible = true ∧
          (decideService t ctx service false).enabled = true) := by
      intro decided
      exact closed ⟨ctx, known, notAdmin⟩ service there named inactive
        ⟨ctx, known, employee, (decideService_inactive inactive).mp decided⟩
    have same : authorizeServiceAccess t serviceKey userId = .next ↔
        menuShows t userId serviceKey = true := by
      rw [guard_next_iff known notAdmin, menuShows_iff known notAdmin]
      constructor
      · rintro ⟨employee, service, there, named, decided⟩
        refine ⟨employee, service, there, named, ?_, decided⟩
        cases active : service.isActive with
        | true => rfl
        | false => exact absurd decided (shut service there named active employee)
      · rintro ⟨employee, service, there, named, -, decided⟩
        exact ⟨employee, service, there, named, decided⟩
    refine ⟨same, fun service there named inactive passed => ?_⟩
    obtain ⟨employee, other, there', named', decided⟩ := (guard_next_iff known notAdmin).mp passed
    have one := find_service there' named'
    rw [find_service there named, Option.some.injEq] at one
    rw [← one] at decided
    exact shut service there named inactive employee decided

def inactiveSample : AccessTables where
  roles := [⟨1, "employee", none, none⟩]
  users id := if id = 7 then some ⟨none, 1, some .employee, none, []⟩ else none
  departments _ := none
  services := [⟨3, "tracking", "Tracking", false, true, true⟩]
  userAccess := [⟨1, 3, 7, some true, some true⟩]
  roleAccess := []
  departmentAccess := []
  departmentRoleAccess := []
  role_ids := by decide
  role_names := by decide
  service_ids := by decide
  service_keys := by decide
  no_user_zero := rfl

theorem inactive_service_open : ¬ GuardMatchesMenu inactiveSample 7 "tracking" := by
  intro agree
  have nonAdmin : NonAdmin inactiveSample 7 := ⟨_, rfl, by decide⟩
  have closed := (agree nonAdmin).2 ⟨3, "tracking", "Tracking", false, true, true⟩
    (List.mem_singleton.mpr rfl) rfl rfl
  exact closed (by decide)

end Agreement

end LeaderProduct
