import LeaderProduct.ServiceRules

/-! Whose word is the last. What is stored of a flag is what the last write that concerned it has
made of it, and the flag of a user's own rule decides before those of all others. -/
namespace LeaderProduct
open Interleaving RowTable Transition

section Stored

def ServiceRule.flag (field : RuleField) (rule : ServiceRule) : Option Bool :=
  field.pick rule.visible rule.enabled

def RuleItem.flag {σ : Type} (field : RuleField) (item : RuleItem σ) : Option Bool :=
  field.pick item.visible item.enabled

def ServiceTables.flag (t : ServiceTables) (key : Nat × RuleSubject) (field : RuleField) :
    Option Bool := (t.rule key).bind (·.flag field)

/-- What a write makes of a flag of the rule with a key, if it concerns it. One that gives no
explicit flag for a single rule does not. -/
def ServiceWrite.sets (key : Nat × RuleSubject) (field : RuleField) :
    ServiceWrite → Option (Option Bool)
  | .upsertRule serviceId subject visible enabled =>
    if key = (serviceId, subject) then (field.pick visible.flag enabled.flag).map some else none
  | .replaceAccessRules serviceId rules =>
    if key.1 = serviceId then some ((lookup (·.id) rules key.2).bind (·.flag field)) else none
  | .replaceAccessCatalog subject rules =>
    if key.2 = subject then some ((lookup (·.id) rules key.1).bind (·.flag field)) else none
  | .deleteRule serviceId subject => if key = (serviceId, subject) then some none else none
  | .dropParty party => if party ∈ key.2.parties then some none else none
  | .createService _ | .updateService _ _ | .addParty _ => none

def lastSet (written : List ServiceWrite) (key : Nat × RuleSubject) (field : RuleField) :
    Option Bool := ((written.filterMap (·.sets key field)).getLast?).join

variable {t : ServiceTables} {key : Nat × RuleSubject} {field : RuleField}

theorem pick_or (a b c d : Option Bool) :
    field.pick (a.or b) (c.or d) = (field.pick a c).or (field.pick b d) := by
  cases field <;> rfl

theorem flag_upsert (serviceId : Nat) (subject : RuleSubject) (visible enabled : BodyField Bool) :
    ((ServiceWrite.upsertRule serviceId subject visible enabled).carriedOut t).flag key field =
      ((ServiceWrite.upsertRule serviceId subject visible enabled).sets key field).getD
        (t.flag key field) := by
  simp only [ServiceTables.flag, ServiceTables.rule, ServiceWrite.carriedOut, ServiceWrite.sets]
  have own (old : Option ServiceRule) :
      (mergedRule serviceId subject visible enabled old).key = (serviceId, subject) := rfl
  rw [lookup_upsert own]
  by_cases here : key = (serviceId, subject)
  · subst here
    rw [if_pos rfl, if_pos rfl, Option.bind_some, ServiceRule.flag, mergedRule, pick_or]
    cases field.pick visible.flag enabled.flag with
    | some flag => rfl
    | none =>
      cases lookup ServiceRule.key t.rules (serviceId, subject) with
      | some old => simp [ServiceRule.flag]
      | none => cases field <;> rfl
  · rw [if_neg here, if_neg here, Option.getD_none]

theorem flag_replaced {A σ : Type} [DecidableEq A] [DecidableEq σ] {items : List (RuleItem σ)}
    {row : RuleItem σ → ServiceRule} (part : Nat × RuleSubject → A) {keep : A}
    (rename : σ → Nat × RuleSubject)
    (own : ∀ item id, (row item).key = rename id ↔ item.id = id)
    (inside : ∀ item, part (row item).key = keep)
    (flags : ∀ item, (row item).flag field = item.flag field) (id : σ)
    (renamed : part key = keep → key = rename id) :
    (lookup ServiceRule.key (t.rules.filter (fun rule => part rule.key ≠ keep) ++ items.map row)
        key).bind (·.flag field) =
      if part key = keep then (lookup (·.id) items id).bind (·.flag field) else t.flag key field := by
  rw [lookup_append_rows, lookup_filter_key (fun key => decide (part key ≠ keep))]
  by_cases here : part key = keep
  · have gone : decide (part key ≠ keep) = false := by simp [here]
    rw [gone, if_neg Bool.false_ne_true, if_pos here, Option.none_or, renamed here,
      lookup_map_key own]
    cases lookup (·.id) items id with
    | none => rfl
    | some item => exact flags item
  · have absent : lookup ServiceRule.key (items.map row) key = none := by
      rw [lookup, List.find?_eq_none]
      intro rule member
      obtain ⟨item, _, rfl⟩ := List.mem_map.mp member
      rw [decide_eq_true_eq]
      intro same
      exact here (same ▸ inside item)
    have stays : decide (part key ≠ keep) = true := by simp [here]
    rw [stays, if_pos rfl, if_neg here, absent, Option.or_none]
    rfl

theorem flag_filtered (keep : Nat × RuleSubject → Bool) :
    (lookup ServiceRule.key (t.rules.filter (fun rule => keep rule.key)) key).bind (·.flag field) =
      if keep key then t.flag key field else none := by
  rw [lookup_filter_key]
  split
  · rfl
  · rfl

theorem flag_carriedOut (w : ServiceWrite) :
    (w.carriedOut t).flag key field = (w.sets key field).getD (t.flag key field) := by
  cases w with
  | createService | updateService | addParty => rfl
  | upsertRule serviceId subject visible enabled => exact flag_upsert serviceId subject visible enabled
  | replaceAccessRules serviceId rules =>
    refine (flag_replaced Prod.fst (fun subject => (serviceId, subject)) ?_ ?_ ?_ key.2 ?_).trans ?_
    · intro item id
      simp [ServiceRule.key]
    · exact fun _ => rfl
    · exact fun _ => rfl
    · rintro rfl
      rfl
    · simp only [ServiceWrite.sets]
      split <;> rfl
  | replaceAccessCatalog subject rules =>
    refine (flag_replaced Prod.snd (fun serviceId => (serviceId, subject)) ?_ ?_ ?_ key.1 ?_).trans ?_
    · intro item id
      simp [ServiceRule.key]
    · exact fun _ => rfl
    · exact fun _ => rfl
    · rintro rfl
      rfl
    · simp only [ServiceWrite.sets]
      split <;> rfl
  | deleteRule serviceId subject =>
    refine (flag_filtered (fun key => decide (key ≠ (serviceId, subject)))).trans ?_
    by_cases here : key = (serviceId, subject) <;> simp [ServiceWrite.sets, here]
  | dropParty party =>
    refine (flag_filtered (fun key => decide (party ∉ key.2.parties))).trans ?_
    by_cases here : party ∈ key.2.parties <;> simp [ServiceWrite.sets, here]

structure ServiceTables.Told (t : ServiceTables) : Prop where
  flags : ∀ key field, t.flag key field = lastSet t.written key field
  keys : (t.rules.map ServiceRule.key).Nodup

theorem lastSet_concat (written : List ServiceWrite) (w : ServiceWrite) :
    lastSet (written ++ [w]) key field = (w.sets key field).getD (lastSet written key field) := by
  unfold lastSet
  rw [List.filterMap_append]
  cases set : w.sets key field with
  | none => simp [set]
  | some value => simp [set]

theorem nodup_filter (unique : (t.rules.map ServiceRule.key).Nodup) (keep : ServiceRule → Bool) :
    ((t.rules.filter keep).map ServiceRule.key).Nodup :=
  (List.filter_sublist.map ServiceRule.key).nodup unique

theorem nodup_replaced {σ : Type} {items : List (RuleItem σ)} {row : RuleItem σ → ServiceRule}
    (rename : σ → Nat × RuleSubject) (unique : (t.rules.map ServiceRule.key).Nodup)
    {keep : ServiceRule → Bool} (distinct : (items.map (·.id)).Nodup)
    (own : ∀ item, (row item).key = rename item.id) (injective : Function.Injective rename)
    (apart : ∀ rule, keep rule = true → ∀ id, rule.key ≠ rename id) :
    ((t.rules.filter keep ++ items.map row).map ServiceRule.key).Nodup := by
  have renamed : (items.map row).map ServiceRule.key = (items.map (·.id)).map rename := by
    simp [own]
  rw [List.map_append, renamed, List.nodup_append]
  refine ⟨nodup_filter unique keep, distinct.map injective, ?_⟩
  rintro key old _ new rfl
  obtain ⟨rule, member, rfl⟩ := List.mem_map.mp old
  obtain ⟨id, _, same⟩ := List.mem_map.mp new
  exact apart rule (List.mem_filter.mp member).2 id same.symm

theorem keys_carriedOut {w : ServiceWrite} (unique : (t.rules.map ServiceRule.key).Nodup)
    (carried : w.refusal t = none) : ((w.carriedOut t).rules.map ServiceRule.key).Nodup := by
  cases w with
  | createService | updateService | addParty => exact unique
  | upsertRule serviceId subject visible enabled => exact nodup_upsert (fun _ => rfl) unique
  | replaceAccessRules serviceId rules =>
    simp only [ServiceWrite.refusal, ite_eq_left_iff, reduceCtorEq, imp_false, not_not] at carried
    refine nodup_replaced (fun subject => (serviceId, subject)) unique carried.1
      (fun _ => rfl) (fun _ _ same => (Prod.mk.inj same).2) ?_
    rintro rule kept subject same
    simp [show rule.serviceId = serviceId from (Prod.mk.inj same).1] at kept
  | replaceAccessCatalog subject rules =>
    simp only [ServiceWrite.refusal, ite_eq_left_iff, reduceCtorEq, imp_false, not_not] at carried
    refine nodup_replaced (fun serviceId => (serviceId, subject)) unique carried.1
      (fun _ => rfl) (fun _ _ same => (Prod.mk.inj same).1) ?_
    rintro rule kept serviceId same
    simp [show rule.subject = subject from (Prod.mk.inj same).2] at kept
  | deleteRule | dropParty => exact nodup_filter unique _

theorem told_apply (w : ServiceWrite) (t : ServiceTables) (told : t.Told) : (w.apply t).Told := by
  unfold ServiceWrite.apply
  split
  · exact told
  · next carried =>
    refine ⟨fun key field => ?_, keys_carriedOut told.keys carried⟩
    rw [lastSet_concat, ← told.flags]
    exact flag_carriedOut w

theorem told_empty : ServiceTables.empty.Told := ⟨fun _ _ => rfl, List.nodup_nil⟩

end Stored

section Own

def AccessRule.bare {σ : Type} (subject : σ → RuleSubject) (rule : AccessRule σ) : ServiceRule :=
  ⟨rule.serviceId, subject rule.subject, rule.visible, rule.enabled⟩

inductive RuleKind where
  | user | role | department | departmentRole
  deriving DecidableEq, Repr

def RuleSubject.kind : RuleSubject → RuleKind
  | .user _ => .user
  | .role _ => .role
  | .department _ => .department
  | .departmentRole _ => .departmentRole

def ServiceTables.rulesOf (s : ServiceTables) (kind : RuleKind) : List ServiceRule :=
  s.rules.filter (fun rule => rule.subject.kind = kind)

structure ServiceTables.Shown (s : ServiceTables) (t : AccessTables) : Prop where
  services : t.services.Perm s.services
  users : (t.userAccess.map (AccessRule.bare .user)).Perm (s.rulesOf .user)
  roles : (t.roleAccess.map (AccessRule.bare .role)).Perm (s.rulesOf .role)
  departments : (t.departmentAccess.map (AccessRule.bare .department)).Perm (s.rulesOf .department)
  departmentRoles : (t.departmentRoleAccess.map (AccessRule.bare .departmentRole)).Perm
    (s.rulesOf .departmentRole)

theorem evaluateField_of_one {ρ : Type} {flag : ρ → Option Bool} {base : Bool} {rules : List ρ}
    (one : rules.length ≤ 1) (value : Bool) :
    ((evaluateField flag base rules).origin = .explicit ∧
        (evaluateField flag base rules).value = value) ↔
      ∃ rule ∈ rules, flag rule = some value := by
  match rules, one with
  | [], _ => simp [evaluateField]
  | [rule], _ =>
    unfold evaluateField
    cases here : flag rule with
    | none => simp [here]
    | some own => cases own <;> simp [here]
  | _ :: _ :: _, two => simp at two

theorem finalField_user_iff {base : Bool} {field : RuleField} {rules : RuleMatches} {value : Bool} :
    finalField base field rules = ⟨value, .user⟩ ↔
      (evaluateUserField base field rules.userRules).origin = .explicit ∧
        (evaluateUserField base field rules.userRules).value = value := by
  unfold finalField resolveFinalField
  split
  · next own => simp [own]
  · next other =>
    refine iff_of_false ?_ (fun explicit => other explicit.1)
    repeat' split
    all_goals simp

variable {s : ServiceTables} {t : AccessTables} {ctx : UserAccessContext} {service : ServiceRow}

theorem mem_own_iff (shown : s.Shown t) (rule : ServiceRule) :
    rule ∈ (rulesFor service t.userAccess (fun userId => userId == ctx.userId)).map
        (AccessRule.bare .user) ↔
      rule ∈ s.rules ∧ rule.key = (service.id, .user ctx.userId) := by
  have member : rule ∈ t.userAccess.map (AccessRule.bare .user) ↔
      rule ∈ s.rules ∧ rule.subject.kind = .user := by
    rw [shown.users.mem_iff, ServiceTables.rulesOf, List.mem_filter, decide_eq_true_eq]
  constructor
  · intro here
    obtain ⟨row, found, rfl⟩ := List.mem_map.mp here
    simp only [rulesFor, List.mem_filter, Bool.and_eq_true, beq_iff_eq] at found
    refine ⟨(member.mp (List.mem_map_of_mem found.1)).1, ?_⟩
    rw [ServiceRule.key, AccessRule.bare, found.2.1, found.2.2]
  · rintro ⟨here, own⟩
    obtain ⟨of_service, of_user⟩ := Prod.mk.inj own
    obtain ⟨row, found, rfl⟩ := List.mem_map.mp (member.mpr ⟨here, by rw [of_user]; rfl⟩)
    refine List.mem_map_of_mem (List.mem_filter.mpr ⟨found, ?_⟩)
    simp only [AccessRule.bare, RuleSubject.user.injEq] at of_service of_user
    simp [of_service, of_user]

theorem own_rules_length (told : s.Told) (shown : s.Shown t) :
    (rulesFor service t.userAccess (fun userId => userId == ctx.userId)).length ≤ 1 := by
  have keys : ((t.userAccess.map (AccessRule.bare .user)).map ServiceRule.key).Nodup := by
    rw [(shown.users.map ServiceRule.key).nodup_iff]
    exact nodup_filter told.keys _
  have unique : (((rulesFor service t.userAccess (fun userId => userId == ctx.userId)).map
      (AccessRule.bare .user)).map ServiceRule.key).Nodup :=
    ((List.filter_sublist.map _).map _).nodup keys
  have same : ∀ key ∈ ((rulesFor service t.userAccess (fun userId => userId == ctx.userId)).map
      (AccessRule.bare .user)).map ServiceRule.key, key = (service.id, .user ctx.userId) := by
    intro key member
    obtain ⟨rule, here, rfl⟩ := List.mem_map.mp member
    exact ((mem_own_iff shown rule).mp here).2
  rw [List.eq_replicate_of_mem same] at unique
  simpa using List.nodup_replicate.mp unique

theorem own_flag_iff (told : s.Told) (shown : s.Shown t) (described base : Bool) (field : RuleField)
    (value : Bool) :
    finalField base field (matchRules t ctx service described) = ⟨value, .user⟩ ↔
      s.flag (service.id, .user ctx.userId) field = some value := by
  have one : (matchRules t ctx service described).userRules.length ≤ 1 := by
    simpa [matchRules] using own_rules_length told shown
  rw [finalField_user_iff, evaluateUserField, evaluateField_of_one one]
  constructor
  · rintro ⟨row, member, flag⟩
    obtain ⟨rule, here, rfl⟩ := List.mem_map.mp member
    obtain ⟨stored, own⟩ := (mem_own_iff shown _).mp (List.mem_map_of_mem here)
    have found := lookup_of_mem told.keys stored
    rw [own] at found
    rw [ServiceTables.flag, ServiceTables.rule, found]
    exact flag
  · intro flag
    obtain ⟨rule, found, here⟩ := Option.bind_eq_some_iff.mp flag
    obtain ⟨row, member, rfl⟩ := List.mem_map.mp
      ((mem_own_iff shown rule).mpr ⟨mem_of_lookup found, key_of_lookup found⟩)
    exact ⟨_, List.mem_map_of_mem member, here⟩

/-- However the requests of administrators overlap: for a service and a user the resolver goes by
the user's own rule exactly where the last write that concerned this flag of it has made it
explicit. A later write of that rule without the flag does not concern it; a replacement of the
service's rules, a deletion of the rule or of the user does. -/
theorem own_rule_decides_iff (actions : List (Action ServiceRequest)) (t : AccessTables)
    (shown : (run (Interleaving.step ServiceWrite.apply ServiceRequest.job)
      (System.start ServiceTables.empty) actions).shared.Shown t)
    (ctx : UserAccessContext) (service : ServiceRow) (described base : Bool) (field : RuleField)
    (value : Bool) :
    finalField base field (matchRules t ctx service described) = ⟨value, .user⟩ ↔
      lastSet (run (Interleaving.step ServiceWrite.apply ServiceRequest.job)
        (System.start ServiceTables.empty) actions).shared.written
          (service.id, .user ctx.userId) field = some value := by
  have told : (run (Interleaving.step ServiceWrite.apply ServiceRequest.job)
      (System.start ServiceTables.empty) actions).shared.Told :=
    run_invariant (I := fun s : System ServiceTables ServiceWrite AdminAnswer => s.shared.Told)
      (fun s a _ now => step_keeps told_apply s a now) told_empty
  rw [← told.flags]
  exact own_flag_iff told shown described base field value

def sampleWrites : List (Action ServiceRequest) :=
  [.begin 0 (.addParty (.user 7)), .step 0, .step 0,
    .begin 0 (.createService 1 ⟨some "crm", some "CRM", none, none, none, none⟩), .step 0, .step 0,
    .step 0,
    .begin 0 (.putUserAccess (.id 1) (some 7) (.value true) (.value true)), .step 0, .step 0,
    .step 0, .step 0,
    .begin 0 (.putUserAccess (.id 1) (some 7) (.value false) .null), .step 0, .step 0, .step 0]

def sampleShown : AccessTables where
  roles := []
  users _ := none
  departments _ := none
  services := [⟨1, "crm", "CRM", true, true, true⟩]
  userAccess := [⟨5, 1, 7, some false, some true⟩]
  roleAccess := []
  departmentAccess := []
  departmentRoleAccess := []
  role_ids := by simp
  role_names := by simp
  service_ids := by simp
  service_keys := by simp
  no_user_zero := rfl

theorem sampleWrites_shown :
    (run (Interleaving.step ServiceWrite.apply ServiceRequest.job)
      (System.start ServiceTables.empty) sampleWrites).shared.Shown sampleShown := by
  constructor <;> decide +kernel

/-- The rule hides the service and still says that it is enabled. -/
theorem hidden_service_stays_enabled :
    finalField true .enabled (matchRules sampleShown
      ⟨7, none, some .employee, none, [], [], true, false⟩ ⟨1, "crm", "CRM", true, true, true⟩ false) =
      ⟨true, .user⟩ :=
  (own_rule_decides_iff sampleWrites sampleShown sampleWrites_shown _ _ false true .enabled true).mpr
    (by decide +kernel)

end Own

end LeaderProduct
