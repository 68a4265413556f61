import LeaderProduct.Interleaving
import LeaderProduct.KeyedTotals
import LeaderProduct.Order
import LeaderProduct.StaffTables

/-! The rules of who sees and uses a service, as the administration writes them. -/
namespace LeaderProduct
open Interleaving RowTable Transition

section Bodies

inductive RuleSubject where
  | user (userId : Nat)
  | role (roleId : Nat)
  | department (departmentId : Nat)
  | departmentRole (row : DepartmentRoleRow)
  deriving DecidableEq, Repr

inductive RuleParty where
  | user (id : Nat)
  | role (id : Nat)
  | department (id : Nat)
  deriving DecidableEq, Repr

def RuleSubject.parties : RuleSubject → List RuleParty
  | .user userId => [.user userId]
  | .role roleId => [.role roleId]
  | .department departmentId => [.department departmentId]
  | .departmentRole row => [.department row.departmentId, .role row.roleId]

structure ServiceRule where
  serviceId : Nat
  subject : RuleSubject
  visible : Option Bool
  enabled : Option Bool
  deriving DecidableEq, Repr

def ServiceRule.key (rule : ServiceRule) : Nat × RuleSubject := (rule.serviceId, rule.subject)

def BodyField.flag : BodyField Bool → Option Bool
  | .value flag => some flag
  | _ => none

def validateVisibilityEnabledPair (visible enabled : Option Bool)
    (visibleLabel enabledLabel : String) : Option String :=
  if visible = none ∧ enabled = none then
    some s!"Нужно указать хотя бы один явный флаг {visibleLabel} или {enabledLabel}"
  else if visible = some false ∧ enabled = some true then
    some s!"{enabledLabel} не может быть true, если {visibleLabel} = false"
  else none

structure RawRule where
  id : String → Option Nat
  visible : BodyField Bool
  enabled : BodyField Bool

inductive RawRules where
  | undefined
  | notArray
  | array (items : List (Option RawRule))

structure RuleItem (σ : Type) where
  id : σ
  visible : Option Bool
  enabled : Option Bool

def RuleItem.of {σ τ : Type} (f : σ → τ) (item : RuleItem σ) : RuleItem τ :=
  ⟨f item.id, item.visible, item.enabled⟩

def RuleItem.passes {σ : Type} (item : RuleItem σ) : Prop :=
  validateVisibilityEnabledPair item.visible item.enabled "visible" "enabled" = none

def readRuleFlag (name : String) : BodyField Bool → Except String (Option Bool)
  | .undefined | .null => .ok none
  | .value flag => .ok (some flag)
  | .unfit => .error s!"{name} должен быть boolean или null"

section Normalize
variable {σ : Type} [DecidableEq σ] (readId : RawRule → Except String σ) (repeated : σ → String)

def normalizeRule (seen : List σ) : Option RawRule → Except String (RuleItem σ)
  | none => .error "Каждое правило должно быть объектом"
  | some item => do
    let id ← readId item
    if id ∈ seen then throw (repeated id)
    else
      let visible ← readRuleFlag "visible" item.visible
      let enabled ← readRuleFlag "enabled" item.enabled
      match validateVisibilityEnabledPair visible enabled "visible" "enabled" with
      | some message => throw message
      | none => return ⟨id, visible, enabled⟩

def normalizeFrom (items : List (RuleItem σ)) :
    List (Option RawRule) → Except String (List (RuleItem σ))
  | [] => .ok items
  | raw :: rest => do
    let item ← normalizeRule readId repeated (items.map (·.id)) raw
    normalizeFrom (items ++ [item]) rest

def normalizeRules (notArray : String) : RawRules → Except String (List (RuleItem σ))
  | .undefined => .ok []
  | .notArray => .error notArray
  | .array items => normalizeFrom readId repeated [] items

end Normalize

def positiveId (idKey : String) (item : RawRule) : Except String Nat :=
  match item.id idKey with
  | some id => .ok id
  | none => .error s!"{idKey} должен быть положительным числом"

def normalizeRuleItems (value : RawRules) (idKey : String) : Except String (List (RuleItem Nat)) :=
  normalizeRules (positiveId idKey) (fun id => s!"Повторяющийся {idKey}: {id}")
    s!"{idKey} rules должны быть массивом" value

def normalizeDepartmentRoleRuleItems (value : RawRules) :
    Except String (List (RuleItem DepartmentRoleRow)) :=
  normalizeRules
    (fun item => do
      let departmentId ← positiveId "departmentId" item
      let roleId ← positiveId "roleId" item
      return ⟨roleId, departmentId⟩)
    (fun ⟨roleId, departmentId⟩ =>
      s!"Повторяющееся правило departmentId={departmentId}, roleId={roleId}")
    "departmentRoleAccess rules должны быть массивом" value

structure ServicePatch where
  name : BodyField String
  kind : Option String
  isActive : BodyField Bool
  defaultVisible : BodyField Bool
  defaultEnabled : BodyField Bool

/-- A column that is not optional. -/
def BodyField.required {α : Type} : BodyField α → Bool
  | .undefined | .value _ => true
  | .null | .unfit => false

def BodyField.orOld {α : Type} (old : α) : BodyField α → α
  | .value a => a
  | _ => old

def ServicePatch.fits (body : ServicePatch) : Bool :=
  body.name.required && body.isActive.required && body.defaultVisible.required &&
    body.defaultEnabled.required

def ServicePatch.data (body : ServicePatch) (row : ServiceRow) : ServiceRow :=
  { row with
    name := body.name.orOld row.name
    isActive := body.isActive.orOld row.isActive
    defaultVisible := body.defaultVisible.orOld row.defaultVisible
    defaultEnabled := body.defaultEnabled.orOld row.defaultEnabled }

def normalizeServiceKind (value : String) : Option String :=
  let normalized := JsString.toUpperCase (JsString.trim (if value = "" then "CLOUD" else value))
  if normalized = "LOCAL" ∨ normalized = "CLOUD" then none
  else some "kind должен быть LOCAL или CLOUD"

end Bodies

section Tables

inductive ServiceWrite where
  | createService (row : ServiceRow)
  | updateService (serviceId : Nat) (body : ServicePatch)
  | replaceAccessRules (serviceId : Nat) (rules : List (RuleItem RuleSubject))
  | replaceAccessCatalog (subject : RuleSubject) (rules : List (RuleItem Nat))
  | upsertRule (serviceId : Nat) (subject : RuleSubject) (visible enabled : BodyField Bool)
  | deleteRule (serviceId : Nat) (subject : RuleSubject)
  | addParty (party : RuleParty)
  | dropParty (party : RuleParty)

/-- `written` is not in the source: the writes that have been carried out. -/
structure ServiceTables where
  services : List ServiceRow
  rules : List ServiceRule
  parties : List RuleParty
  written : List ServiceWrite

variable (t : ServiceTables)

def ServiceTables.service (id : Nat) : Option ServiceRow := lookup (·.id) t.services id

def ServiceTables.rule (key : Nat × RuleSubject) : Option ServiceRule :=
  lookup ServiceRule.key t.rules key

def ServiceTables.refers (serviceId : Nat) (subject : RuleSubject) : Bool :=
  (t.service serviceId).isSome && subject.parties.all (fun party => decide (party ∈ t.parties))

def RuleSubject.saveFailure : RuleSubject → Refusal
  | .user _ => ⟨500, "Ошибка сохранения правила пользователя"⟩
  | .departmentRole _ => ⟨500, "Ошибка сохранения правила отдела и роли"⟩
  | .role _ | .department _ => ⟨500, "Ошибка сохранения правила"⟩

def createServiceFailure : Refusal := ⟨500, "Ошибка создания сервиса"⟩
def updateServiceFailure : Refusal := ⟨500, "Ошибка обновления сервиса"⟩
def serviceNotFound : Refusal := ⟨404, "Сервис не найден"⟩
def accessRulesFailure : Refusal := ⟨500, "Ошибка сохранения правил доступа"⟩
def accessCatalogFailure : Refusal := ⟨500, "Ошибка сохранения настроек доступа отдела"⟩

/-- Why the database, or the client for it, does not carry a write out. -/
def ServiceWrite.refusal : ServiceWrite → Option Refusal
  | .createService row =>
    if row.id ∈ t.services.map (·.id) ∨ row.key ∈ t.services.map (·.key) then
      some createServiceFailure
    else none
  | .updateService serviceId body =>
    if body.fits = false then some updateServiceFailure
    else if (t.service serviceId).isSome then none else some serviceNotFound
  | .replaceAccessRules serviceId rules =>
    if (rules.map (·.id)).Nodup ∧ rules.all (fun item => t.refers serviceId item.id) then none
    else some accessRulesFailure
  | .replaceAccessCatalog subject rules =>
    if (rules.map (·.id)).Nodup ∧ rules.all (fun item => t.refers item.id subject) then none
    else some accessCatalogFailure
  | .upsertRule serviceId subject visible enabled =>
    if visible.fits && enabled.fits &&
        ((t.rule (serviceId, subject)).isSome || t.refers serviceId subject) then none
    else some subject.saveFailure
  | .deleteRule serviceId subject =>
    if (t.rule (serviceId, subject)).isSome then none else some ⟨404, "Правило не найдено"⟩
  | .addParty _ | .dropParty _ => none

def mergedRule (serviceId : Nat) (subject : RuleSubject) (visible enabled : BodyField Bool)
    (old : Option ServiceRule) : ServiceRule where
  serviceId := serviceId
  subject := subject
  visible := visible.flag.or (old.bind (·.visible))
  enabled := enabled.flag.or (old.bind (·.enabled))

/-- What a write does to the tables. The rules go with what they refer to. -/
def ServiceWrite.carriedOut : ServiceWrite → ServiceTables
  | .createService row => { t with services := t.services ++ [row] }
  | .updateService serviceId body =>
    { t with services := RowTable.modify (·.id) t.services serviceId body.data }
  | .replaceAccessRules serviceId rules =>
    { t with rules := t.rules.filter (fun rule => rule.serviceId ≠ serviceId) ++
        rules.map (fun item => ⟨serviceId, item.id, item.visible, item.enabled⟩) }
  | .replaceAccessCatalog subject rules =>
    { t with rules := t.rules.filter (fun rule => rule.subject ≠ subject) ++
        rules.map (fun item => ⟨item.id, subject, item.visible, item.enabled⟩) }
  | .upsertRule serviceId subject visible enabled =>
    let write := mergedRule serviceId subject visible enabled
    { t with rules := upsert ServiceRule.key t.rules (serviceId, subject) write }
  | .deleteRule serviceId subject =>
    { t with rules := t.rules.filter (fun rule => rule.key ≠ (serviceId, subject)) }
  | .addParty party => { t with parties := t.parties ++ [party] }
  | .dropParty party =>
    { t with
      parties := t.parties.filter (· ≠ party)
      rules := t.rules.filter (fun rule => party ∉ rule.subject.parties) }

def ServiceWrite.apply (w : ServiceWrite) (t : ServiceTables) : ServiceTables :=
  match w.refusal t with
  | some _ => t
  | none => { w.carriedOut t with written := t.written ++ [w] }

end Tables

section Handlers

abbrev ServiceJob := Job ServiceTables ServiceWrite AdminAnswer

namespace ServiceJob

def refused (status : Nat) (message : String) : ServiceJob := .done (.error ⟨status, message⟩)

def checking (message : Option String) (next : ServiceJob) : ServiceJob :=
  match message with
  | some message => refused 400 message
  | none => next

def reading {α : Type} (read : Except String α) (next : α → ServiceJob) : ServiceJob :=
  match read with
  | .error message => refused 400 message
  | .ok value => next value

def finding (found : ServiceTables → Bool) (missing : String) (next : ServiceJob) : ServiceJob :=
  .read fun t => if found t then next else refused 404 missing

def findingService (serviceId : Nat) (next : ServiceJob) : ServiceJob :=
  finding (fun t => (t.service serviceId).isSome) "Сервис не найден" next

def notFound : RuleParty → String
  | .user _ => "Пользователь не найден"
  | .role _ => "Роль не найдена"
  | .department _ => "Отдел не найден"

def findingParties : List RuleParty → ServiceJob → ServiceJob
  | [], next => next
  | party :: rest, next =>
    finding (fun t => decide (party ∈ t.parties)) (notFound party) (findingParties rest next)

def countingParties (parties : List RuleParty) (missing : String) (next : ServiceJob) : ServiceJob :=
  if parties = [] then next
  else finding
    (fun t => (t.parties.filter (fun party => decide (party ∈ parties))).length == parties.length)
    missing next

def saving (w : ServiceWrite) : ServiceJob :=
  .write w fun t => .done (match w.refusal t with
    | some refusal => .error refusal
    | none => .success)

end ServiceJob

open ServiceJob

structure CreateServiceBody where
  key : Option String
  name : Option String
  kind : Option String
  isActive : Option Bool
  defaultVisible : Option Bool
  defaultEnabled : Option Bool

@[irreducible] def snakeCase (text : String) : Bool :=
  text ≠ "" && text.toList.all (fun c => ('a' ≤ c && c ≤ 'z') || ('0' ≤ c && c ≤ '9') || c == '_')

/-- `POST /admin`, with the id that the sequence gives. -/
def createService (newId : Nat) (body : CreateServiceBody) : ServiceJob :=
  let key := JsString.toLowerCase (JsString.trim (body.key.getD ""))
  let name := JsString.trim (body.name.getD "")
  let visible := body.defaultVisible.getD true
  let enabled := body.defaultEnabled.getD true
  if !snakeCase key then
    refused 400 "Ключ сервиса обязателен и должен быть в формате lowercase snake_case"
  else if name = "" then refused 400 "Название сервиса обязательно"
  else
    checking (normalizeServiceKind (body.kind.getD "")) <|
    checking (validateVisibilityEnabledPair (some visible) (some enabled) "defaultVisible"
      "defaultEnabled") <|
    .read fun t =>
      if key ∈ t.services.map (·.key) then refused 400 "Сервис с таким key уже существует"
      else saving (.createService ⟨newId, key, name, body.isActive.getD true, visible, enabled⟩)

/-- The flag that is checked: that of the body, where it has one, or the stored one. -/
def BodyField.next (stored : Bool) : BodyField Bool → Option Bool
  | .undefined => some stored
  | given => given.flag

/-- `PATCH /:serviceId`. -/
def patchService (serviceId : IdParam) (body : ServicePatch) : ServiceJob :=
  match serviceId with
  | .nan => refused 400 "Некорректный ID сервиса"
  | .unfit =>
    checking (body.kind.bind normalizeServiceKind) (.done (.error updateServiceFailure))
  | .id serviceId =>
    checking (body.kind.bind normalizeServiceKind) <|
    if body.defaultVisible.given || body.defaultEnabled.given then
      .read fun t =>
        match t.service serviceId with
        | none => refused 404 "Сервис не найден"
        | some current =>
          checking (validateVisibilityEnabledPair (body.defaultVisible.next current.defaultVisible)
            (body.defaultEnabled.next current.defaultEnabled) "defaultVisible" "defaultEnabled")
            (saving (.updateService serviceId body))
    else saving (.updateService serviceId body)

structure AccessRulesBody where
  roleAccess : RawRules
  departmentAccess : RawRules
  departmentRoleAccess : RawRules
  userAccess : RawRules

/-- `PUT /:serviceId/access-rules`. -/
def replaceAccessRules (serviceId : IdParam) (body : AccessRulesBody) : ServiceJob :=
  if serviceId = .nan then refused 400 "Некорректный ID сервиса"
  else
    reading (normalizeRuleItems body.roleAccess "roleId") fun roles =>
    reading (normalizeRuleItems body.departmentAccess "departmentId") fun departments =>
    reading (normalizeDepartmentRoleRuleItems body.departmentRoleAccess) fun departmentRoles =>
    reading (normalizeRuleItems body.userAccess "userId") fun users =>
    match serviceId with
    | .nan | .unfit => .done (.error accessRulesFailure)
    | .id serviceId =>
      findingService serviceId <|
      countingParties (roles.map (RuleParty.role ·.id)) "Одна или несколько ролей не найдены" <|
      countingParties (departments.map (RuleParty.department ·.id))
        "Один или несколько отделов не найдены" <|
      countingParties (departmentRoles.map (RuleParty.role ·.id.roleId)).eraseDups
        "Одна или несколько ролей не найдены" <|
      countingParties (departmentRoles.map (RuleParty.department ·.id.departmentId)).eraseDups
        "Один или несколько отделов не найдены" <|
      countingParties (users.map (RuleParty.user ·.id))
        "Один или несколько пользователей не найдены" <|
      saving (.replaceAccessRules serviceId
        (roles.map (.of .role) ++ departments.map (.of .department) ++
          departmentRoles.map (.of .departmentRole) ++ users.map (.of .user)))

/-- `PUT /departments/:departmentId/access-catalog`. -/
def replaceAccessCatalog (departmentId : IdParam) (roleId : Option IdParam) (rules : RawRules) :
    ServiceJob :=
  if departmentId = .nan then refused 400 "Некорректный ID отдела"
  else if roleId = some .nan then refused 400 "Некорректный ID роли"
  else
    match departmentId with
    | .nan | .unfit => .done (.error accessCatalogFailure)
    | .id departmentId =>
      findingParties [.department departmentId] <|
      let savingFor (subject : RuleSubject) : ServiceJob :=
        reading (normalizeRuleItems rules "serviceId") fun items =>
        let write := saving (.replaceAccessCatalog subject items)
        if items = [] then write
        else finding (fun t => (t.services.filter (fun service =>
            decide (service.id ∈ items.map (·.id)))).length == items.length)
          "Один или несколько сервисов не найдены" write
      match roleId with
      | none | some (.id 0) => savingFor (.department departmentId)
      | some (.id (role + 1)) =>
        findingParties [.role (role + 1)] (savingFor (.departmentRole ⟨role + 1, departmentId⟩))
      | some .nan | some .unfit => .done (.error accessCatalogFailure)

def saveRule (serviceId : IdParam) (required : String) (subject : Option RuleSubject)
    (visible enabled : BodyField Bool) : ServiceJob :=
  if serviceId = .nan then refused 400 "Некорректный ID сервиса"
  else
    match subject with
    | none => refused 400 required
    | some subject =>
      checking (validateVisibilityEnabledPair visible.flag enabled.flag "visible" "enabled") <|
      match serviceId with
      | .nan | .unfit => .done (.error subject.saveFailure)
      | .id serviceId =>
        findingService serviceId <|
        findingParties subject.parties <|
        saving (.upsertRule serviceId subject visible enabled)

/-- `PUT /:serviceId/user-access`. -/
def putUserAccess (serviceId : IdParam) (userId : Option Nat) : BodyField Bool → BodyField Bool →
    ServiceJob :=
  saveRule serviceId "userId обязателен" ((truthy userId).map .user)

/-- `PUT /:serviceId/role-access`. -/
def putRoleAccess (serviceId : IdParam) (roleId : Option Nat) : BodyField Bool → BodyField Bool →
    ServiceJob :=
  saveRule serviceId "roleId обязателен" ((truthy roleId).map .role)

/-- `PUT /:serviceId/department-access`. -/
def putDepartmentAccess (serviceId : IdParam) (departmentId : Option Nat) :
    BodyField Bool → BodyField Bool → ServiceJob :=
  saveRule serviceId "departmentId обязателен" ((truthy departmentId).map .department)

/-- `PUT /:serviceId/department-role-access`. -/
def putDepartmentRoleAccess (serviceId : IdParam) (departmentId roleId : Option Nat) :
    BodyField Bool → BodyField Bool → ServiceJob :=
  saveRule serviceId "departmentId и roleId обязательны"
    ((truthy departmentId).bind fun departmentId =>
      (truthy roleId).map fun roleId => .departmentRole ⟨roleId, departmentId⟩)

def removeRule (serviceId : IdParam) (ids : List IdParam) (failure : Refusal)
    (subject : Option RuleSubject) : ServiceJob :=
  if serviceId = .nan ∨ .nan ∈ ids then refused 400 "Некорректные параметры"
  else
    match serviceId, subject with
    | .id serviceId, some subject => saving (.deleteRule serviceId subject)
    | _, _ => .done (.error failure)

def IdParam.number : IdParam → Option Nat
  | .id n => some n
  | .nan | .unfit => none

/-- `DELETE /:serviceId/user-access/:userId`. -/
def deleteUserAccess (serviceId userId : IdParam) : ServiceJob :=
  removeRule serviceId [userId] ⟨500, "Ошибка удаления правила пользователя"⟩
    (userId.number.map .user)

/-- `DELETE /:serviceId/role-access/:roleId`. -/
def deleteRoleAccess (serviceId roleId : IdParam) : ServiceJob :=
  removeRule serviceId [roleId] ⟨500, "Ошибка удаления правила"⟩ (roleId.number.map .role)

/-- `DELETE /:serviceId/department-access/:departmentId`. -/
def deleteDepartmentAccess (serviceId departmentId : IdParam) : ServiceJob :=
  removeRule serviceId [departmentId] ⟨500, "Ошибка удаления правила"⟩
    (departmentId.number.map .department)

/-- `DELETE /:serviceId/department-role-access/:departmentId/:roleId`. -/
def deleteDepartmentRoleAccess (serviceId departmentId roleId : IdParam) : ServiceJob :=
  removeRule serviceId [departmentId, roleId] ⟨500, "Ошибка удаления правила отдела и роли"⟩
    (departmentId.number.bind fun departmentId =>
      roleId.number.map fun roleId => .departmentRole ⟨roleId, departmentId⟩)

inductive ServiceRequest where
  | createService (newId : Nat) (body : CreateServiceBody)
  | patchService (serviceId : IdParam) (body : ServicePatch)
  | replaceAccessRules (serviceId : IdParam) (body : AccessRulesBody)
  | replaceAccessCatalog (departmentId : IdParam) (roleId : Option IdParam) (rules : RawRules)
  | putUserAccess (serviceId : IdParam) (userId : Option Nat) (visible enabled : BodyField Bool)
  | putRoleAccess (serviceId : IdParam) (roleId : Option Nat) (visible enabled : BodyField Bool)
  | putDepartmentAccess (serviceId : IdParam) (departmentId : Option Nat)
      (visible enabled : BodyField Bool)
  | putDepartmentRoleAccess (serviceId : IdParam) (departmentId roleId : Option Nat)
      (visible enabled : BodyField Bool)
  | deleteUserAccess (serviceId userId : IdParam)
  | deleteRoleAccess (serviceId roleId : IdParam)
  | deleteDepartmentAccess (serviceId departmentId : IdParam)
  | deleteDepartmentRoleAccess (serviceId departmentId roleId : IdParam)
  | addParty (party : RuleParty)
  | dropParty (party : RuleParty)

def ServiceRequest.job : ServiceRequest → ServiceJob
  | .createService newId body => LeaderProduct.createService newId body
  | .patchService serviceId body => LeaderProduct.patchService serviceId body
  | .replaceAccessRules serviceId body => LeaderProduct.replaceAccessRules serviceId body
  | .replaceAccessCatalog departmentId roleId rules =>
    LeaderProduct.replaceAccessCatalog departmentId roleId rules
  | .putUserAccess serviceId userId visible enabled =>
    LeaderProduct.putUserAccess serviceId userId visible enabled
  | .putRoleAccess serviceId roleId visible enabled =>
    LeaderProduct.putRoleAccess serviceId roleId visible enabled
  | .putDepartmentAccess serviceId departmentId visible enabled =>
    LeaderProduct.putDepartmentAccess serviceId departmentId visible enabled
  | .putDepartmentRoleAccess serviceId departmentId roleId visible enabled =>
    LeaderProduct.putDepartmentRoleAccess serviceId departmentId roleId visible enabled
  | .deleteUserAccess serviceId userId => LeaderProduct.deleteUserAccess serviceId userId
  | .deleteRoleAccess serviceId roleId => LeaderProduct.deleteRoleAccess serviceId roleId
  | .deleteDepartmentAccess serviceId departmentId =>
    LeaderProduct.deleteDepartmentAccess serviceId departmentId
  | .deleteDepartmentRoleAccess serviceId departmentId roleId =>
    LeaderProduct.deleteDepartmentRoleAccess serviceId departmentId roleId
  | .addParty party => saving (.addParty party)
  | .dropParty party => saving (.dropParty party)

end Handlers

section Passing

def Opposes (visible enabled storedVisible storedEnabled : Option Bool) : Prop :=
  (visible = some false ∧ enabled = none ∧ storedEnabled = some true) ∨
    (visible = none ∧ enabled = some true ∧ storedVisible = some false)

theorem validate_none_iff {visible enabled : Option Bool} {visibleLabel enabledLabel : String} :
    validateVisibilityEnabledPair visible enabled visibleLabel enabledLabel = none ↔
      ¬(visible = none ∧ enabled = none) ∧ ¬(visible = some false ∧ enabled = some true) := by
  unfold validateVisibilityEnabledPair
  split
  · next neither => simp [neither]
  · next given =>
    split
    · next opposite => simp [opposite]
    · next apart => simp [given, apart]

theorem merged_passes_iff {visible enabled storedVisible storedEnabled : Option Bool}
    {visibleLabel enabledLabel : String} (given : ¬(visible = some false ∧ enabled = some true))
    (stored : validateVisibilityEnabledPair storedVisible storedEnabled visibleLabel enabledLabel =
      none) :
    validateVisibilityEnabledPair (visible.or storedVisible) (enabled.or storedEnabled) visibleLabel
        enabledLabel = none ↔
      ¬Opposes visible enabled storedVisible storedEnabled := by
  rw [validate_none_iff] at stored ⊢
  unfold Opposes
  cases visible with
  | none =>
    cases enabled with
    | none => simpa using stored
    | some enabled => simp [and_comm]
  | some visible =>
    cases enabled with
    | none => simp
    | some enabled => simpa using given

structure ServiceTables.AllPass (t : ServiceTables) : Prop where
  services : ∀ service ∈ t.services, validateVisibilityEnabledPair (some service.defaultVisible)
    (some service.defaultEnabled) "defaultVisible" "defaultEnabled" = none
  rules : ∀ rule ∈ t.rules,
    validateVisibilityEnabledPair rule.visible rule.enabled "visible" "enabled" = none

def ServiceWrite.Checked : ServiceWrite → Prop
  | .createService row => validateVisibilityEnabledPair (some row.defaultVisible)
      (some row.defaultEnabled) "defaultVisible" "defaultEnabled" = none
  | .updateService _ body =>
    ¬(body.defaultVisible.flag = some false ∧ body.defaultEnabled.flag = some true)
  | .replaceAccessRules _ rules => ∀ item ∈ rules, item.passes
  | .replaceAccessCatalog _ rules => ∀ item ∈ rules, item.passes
  | .upsertRule _ _ visible enabled =>
    validateVisibilityEnabledPair visible.flag enabled.flag "visible" "enabled" = none
  | _ => True

def ServiceWrite.Opposed (t : ServiceTables) : ServiceWrite → Prop
  | .updateService serviceId body => ∃ service ∈ t.services, service.id = serviceId ∧
      Opposes body.defaultVisible.flag body.defaultEnabled.flag (some service.defaultVisible)
        (some service.defaultEnabled)
  | .upsertRule serviceId subject visible enabled =>
    ∃ rule ∈ t.rules, rule.key = (serviceId, subject) ∧
      Opposes visible.flag enabled.flag rule.visible rule.enabled
  | _ => False

def NotOpposed (w : ServiceWrite) (t : ServiceTables) : Prop := w.refusal t = none → ¬w.Opposed t

section Checks
open ServiceJob
variable {P : ServiceWrite → Prop} {next : ServiceJob}

theorem within_done (answer : AdminAnswer) : (Job.done answer : ServiceJob).Within P := True.intro

theorem within_refused (status : Nat) (message : String) : (refused status message).Within P :=
  True.intro

theorem within_checking {message : Option String} (after : message = none → next.Within P) :
    (checking message next).Within P := by
  unfold checking
  split
  · exact True.intro
  · exact after rfl

theorem within_reading {α : Type} {read : Except String α} {next : α → ServiceJob}
    (after : ∀ value, read = .ok value → (next value).Within P) : (reading read next).Within P := by
  unfold reading
  split
  · exact True.intro
  · exact after _ rfl

theorem within_finding {found : ServiceTables → Bool} {missing : String}
    (after : next.Within P) : (finding found missing next).Within P := by
  intro t
  dsimp only
  split
  · exact after
  · exact True.intro

theorem within_findingParties {parties : List RuleParty} (after : next.Within P) :
    (findingParties parties next).Within P := by
  induction parties with
  | nil => exact after
  | cons party rest ih => exact within_finding ih

theorem within_countingParties {parties : List RuleParty} {missing : String}
    (after : next.Within P) : (countingParties parties missing next).Within P := by
  unfold countingParties
  split
  · exact after
  · exact within_finding after

theorem within_saving {w : ServiceWrite} (fits : P w) : (saving w).Within P :=
  ⟨fits, fun _ => True.intro⟩

section Normalize
variable {σ : Type} [DecidableEq σ] {readId : RawRule → Except String σ} {repeated : σ → String}

theorem normalizeRule_passes {seen : List σ} {raw : Option RawRule} {item : RuleItem σ}
    (read : normalizeRule readId repeated seen raw = .ok item) : item.passes := by
  cases raw with
  | none => cases read
  | some raw =>
    obtain ⟨id, _, read⟩ := (except_bind_ok _ _ _).mp read
    split at read
    · cases read
    · obtain ⟨visible, _, read⟩ := (except_bind_ok _ _ _).mp read
      obtain ⟨enabled, _, read⟩ := (except_bind_ok _ _ _).mp read
      split at read
      · cases read
      · next passes =>
        cases read
        exact passes

theorem normalizeFrom_passes {items rules : List (RuleItem σ)} {raws : List (Option RawRule)}
    (read : normalizeFrom readId repeated items raws = .ok rules)
    (before : ∀ item ∈ items, item.passes) : ∀ item ∈ rules, item.passes := by
  induction raws generalizing items with
  | nil =>
    cases read
    exact before
  | cons raw rest ih =>
    obtain ⟨item, one, read⟩ := (except_bind_ok _ _ _).mp read
    refine ih read fun other member => ?_
    rcases List.mem_append.mp member with old | new
    · exact before other old
    · cases List.mem_singleton.mp new
      exact normalizeRule_passes one

theorem normalizeRules_passes {notArray : String} {value : RawRules} {rules : List (RuleItem σ)}
    (read : normalizeRules readId repeated notArray value = .ok rules) :
    ∀ item ∈ rules, item.passes := by
  cases value with
  | undefined =>
    cases read
    simp
  | notArray => cases read
  | array items => exact normalizeFrom_passes read (by simp)

end Normalize

theorem passes_of {σ τ : Type} {f : σ → τ} {items : List (RuleItem σ)}
    (passes : ∀ item ∈ items, item.passes) : ∀ item ∈ items.map (RuleItem.of f), item.passes := by
  intro item member
  obtain ⟨old, there, rfl⟩ := List.mem_map.mp member
  exact passes old there

theorem within_ite {c : Prop} [Decidable c] {first second : ServiceJob} (yes : first.Within P)
    (no : second.Within P) : (if c then first else second).Within P := by
  split
  · exact yes
  · exact no

theorem createService_checked (newId : Nat) (body : CreateServiceBody) :
    (createService newId body).Within ServiceWrite.Checked := by
  unfold createService
  extract_lets key name visible enabled
  -- by other names the texts are not computed
  generalize key = key, name = name, normalizeServiceKind (body.kind.getD "") = kind
  refine within_ite (within_refused ..) (within_ite (within_refused ..) ?_)
  refine within_checking fun _ => within_checking fun passes t => ?_
  exact within_ite (within_refused ..) (within_saving passes)

theorem next_of_flag {given : BodyField Bool} {flag : Bool} (here : given.flag = some flag)
    (stored : Bool) : given.next stored = some flag := by
  cases given with
  | value given => exact here
  | _ => cases here

theorem flag_of_not_given {given : BodyField Bool} (absent : given.given = false) :
    given.flag = none := by
  cases given with
  | undefined => rfl
  | _ => cases absent

theorem patchService_checked (serviceId : IdParam) (body : ServicePatch) :
    (patchService serviceId body).Within ServiceWrite.Checked := by
  unfold patchService
  split
  · exact True.intro
  · exact within_checking fun _ => within_done _
  · refine within_checking fun _ => ?_
    split
    · intro t
      dsimp only
      split
      · exact True.intro
      · refine within_checking fun passes => within_saving ?_
        rintro ⟨visible, enabled⟩
        rw [next_of_flag visible, next_of_flag enabled] at passes
        exact (validate_none_iff.mp passes).2 ⟨rfl, rfl⟩
    · next absent =>
      rw [Bool.or_eq_true, not_or] at absent
      refine within_saving ?_
      rintro ⟨visible, _⟩
      rw [flag_of_not_given (Bool.eq_false_iff.mpr absent.1)] at visible
      cases visible

theorem replaceAccessRules_checked (serviceId : IdParam) (body : AccessRulesBody) :
    (replaceAccessRules serviceId body).Within ServiceWrite.Checked := by
  unfold replaceAccessRules
  split
  · exact True.intro
  · refine within_reading fun roles read_roles => within_reading fun departments read_departments =>
      within_reading fun departmentRoles read_departmentRoles =>
      within_reading fun users read_users => ?_
    split
    · exact True.intro
    · exact True.intro
    · refine within_finding <| within_countingParties <| within_countingParties <|
        within_countingParties <| within_countingParties <| within_countingParties <|
        within_saving ?_
      intro item member
      simp only [List.mem_append] at member
      rcases member with ((role | department) | departmentRole) | user
      · exact passes_of (normalizeRules_passes read_roles) item role
      · exact passes_of (normalizeRules_passes read_departments) item department
      · exact passes_of (normalizeRules_passes read_departmentRoles) item departmentRole
      · exact passes_of (normalizeRules_passes read_users) item user

theorem replaceAccessCatalog_checked (departmentId : IdParam) (roleId : Option IdParam)
    (rules : RawRules) :
    (replaceAccessCatalog departmentId roleId rules).Within ServiceWrite.Checked := by
  unfold replaceAccessCatalog
  have saved (subject : RuleSubject) : (reading (normalizeRuleItems rules "serviceId") fun items =>
      let write := saving (.replaceAccessCatalog subject items)
      if items = [] then write
      else finding (fun t => (t.services.filter (fun service =>
          decide (service.id ∈ items.map (·.id)))).length == items.length)
        "Один или несколько сервисов не найдены" write).Within ServiceWrite.Checked := by
    refine within_reading fun items read => ?_
    have write : (saving (.replaceAccessCatalog subject items)).Within ServiceWrite.Checked :=
      within_saving (normalizeRules_passes read)
    dsimp only
    split
    · exact write
    · exact within_finding write
  split
  · exact True.intro
  · split
    · exact True.intro
    · split
      · exact True.intro
      · exact True.intro
      · refine within_findingParties ?_
        dsimp only
        split
        · exact saved _
        · exact saved _
        · exact within_findingParties (saved _)
        · exact True.intro
        · exact True.intro

theorem saveRule_checked (serviceId : IdParam) (required : String) (subject : Option RuleSubject)
    (visible enabled : BodyField Bool) :
    (saveRule serviceId required subject visible enabled).Within ServiceWrite.Checked := by
  unfold saveRule
  split
  · exact True.intro
  · split
    · exact True.intro
    · refine within_checking fun passes => ?_
      split
      · exact True.intro
      · exact True.intro
      · exact within_finding (within_findingParties (within_saving passes))

theorem removeRule_checked (serviceId : IdParam) (ids : List IdParam) (failure : Refusal)
    (subject : Option RuleSubject) :
    (removeRule serviceId ids failure subject).Within ServiceWrite.Checked := by
  unfold removeRule
  split
  · exact True.intro
  · split
    · exact within_saving True.intro
    · exact True.intro

theorem job_checked (request : ServiceRequest) : request.job.Within ServiceWrite.Checked := by
  cases request with
  | createService newId body => exact createService_checked newId body
  | patchService serviceId body => exact patchService_checked serviceId body
  | replaceAccessRules serviceId body => exact replaceAccessRules_checked serviceId body
  | replaceAccessCatalog departmentId roleId rules =>
    exact replaceAccessCatalog_checked departmentId roleId rules
  | putUserAccess | putRoleAccess | putDepartmentAccess | putDepartmentRoleAccess =>
    apply saveRule_checked
  | deleteUserAccess | deleteRoleAccess | deleteDepartmentAccess | deleteDepartmentRoleAccess =>
    apply removeRule_checked
  | addParty | dropParty => exact within_saving True.intro

end Checks

section Exact
variable {t : ServiceTables}

theorem pass_modify_iff {serviceId : Nat} {body : ServicePatch} (all : t.AllPass)
    (fits : body.fits = true)
    (checked : ¬(body.defaultVisible.flag = some false ∧ body.defaultEnabled.flag = some true)) :
    (∀ service ∈ RowTable.modify (·.id) t.services serviceId body.data,
        validateVisibilityEnabledPair (some service.defaultVisible) (some service.defaultEnabled)
          "defaultVisible" "defaultEnabled" = none) ↔
      ¬(ServiceWrite.updateService serviceId body).Opposed t := by
  have merged {given : BodyField Bool} (required : given.required = true) (stored : Bool) :
      some (given.orOld stored) = given.flag.or (some stored) := by
    cases given with
    | undefined | value => rfl
    | null | unfit => cases required
  simp only [ServicePatch.fits, Bool.and_eq_true] at fits
  have one (service : ServiceRow) (member : service ∈ t.services) :
      validateVisibilityEnabledPair (some (body.data service).defaultVisible)
          (some (body.data service).defaultEnabled) "defaultVisible" "defaultEnabled" = none ↔
        ¬Opposes body.defaultVisible.flag body.defaultEnabled.flag (some service.defaultVisible)
          (some service.defaultEnabled) := by
    simp only [ServicePatch.data, merged fits.1.2, merged fits.2]
    exact merged_passes_iff checked (all.services service member)
  simp only [ServiceWrite.Opposed, RowTable.modify, List.forall_mem_map, not_exists, not_and]
  refine forall₂_congr fun service member => ?_
  by_cases here : service.id = serviceId
  · simp only [here, if_true, true_imp_iff]
    exact one service member
  · simp only [here, if_false, false_imp_iff, iff_true]
    exact all.services service member

theorem pass_upsert_iff {serviceId : Nat} {subject : RuleSubject} {visible enabled : BodyField Bool}
    (all : t.AllPass)
    (checked : validateVisibilityEnabledPair visible.flag enabled.flag "visible" "enabled" = none) :
    (∀ rule ∈ upsert ServiceRule.key t.rules (serviceId, subject)
        (mergedRule serviceId subject visible enabled),
        validateVisibilityEnabledPair rule.visible rule.enabled "visible" "enabled" = none) ↔
      ¬(ServiceWrite.upsertRule serviceId subject visible enabled).Opposed t := by
  have apart := (validate_none_iff.mp checked).2
  unfold upsert
  cases found : lookup ServiceRule.key t.rules (serviceId, subject) with
  | none =>
    have unknown : ¬(ServiceWrite.upsertRule serviceId subject visible enabled).Opposed t := by
      rintro ⟨rule, member, own, _⟩
      exact not_mem_keys_of_lookup found (own ▸ List.mem_map_of_mem member)
    refine iff_of_true (fun rule member => ?_) unknown
    rcases List.mem_append.mp member with old | new
    · exact all.rules rule old
    · cases List.mem_singleton.mp new
      simpa [mergedRule] using checked
  | some _ =>
    simp only [ServiceWrite.Opposed, RowTable.modify, List.forall_mem_map, not_exists, not_and]
    refine forall₂_congr fun rule member => ?_
    by_cases here : rule.key = (serviceId, subject)
    · simp only [here, if_true, true_imp_iff]
      exact merged_passes_iff apart (all.rules rule member)
    · simp only [here, if_false, false_imp_iff, iff_true]
      exact all.rules rule member

theorem rules_pass_filter (all : t.AllPass) (keep : ServiceRule → Bool) :
    ∀ rule ∈ t.rules.filter keep,
      validateVisibilityEnabledPair rule.visible rule.enabled "visible" "enabled" = none :=
  fun rule member => all.rules rule (List.mem_filter.mp member).1

theorem rules_pass_replaced {σ : Type} {items : List (RuleItem σ)} {row : RuleItem σ → ServiceRule}
    (all : t.AllPass) (keep : ServiceRule → Bool) (checked : ∀ item ∈ items, item.passes)
    (flags : ∀ item, (row item).visible = item.visible ∧ (row item).enabled = item.enabled) :
    ∀ rule ∈ t.rules.filter keep ++ items.map row,
      validateVisibilityEnabledPair rule.visible rule.enabled "visible" "enabled" = none := by
  intro rule member
  rcases List.mem_append.mp member with old | new
  · exact rules_pass_filter all keep rule old
  · obtain ⟨item, there, rfl⟩ := List.mem_map.mp new
    rw [(flags item).1, (flags item).2]
    exact checked item there

theorem allPass_apply_iff {w : ServiceWrite} (checked : w.Checked) (all : t.AllPass) :
    (w.apply t).AllPass ↔ NotOpposed w t := by
  unfold ServiceWrite.apply NotOpposed
  split
  · next refused => exact iff_of_true all (fun carried => by rw [refused] at carried; cases carried)
  · next carried =>
    simp only [carried, true_imp_iff]
    cases w with
    | createService row =>
      refine iff_of_true ⟨fun service member => ?_, all.rules⟩ id
      rcases List.mem_append.mp member with old | new
      · exact all.services service old
      · cases List.mem_singleton.mp new
        exact checked
    | updateService serviceId body =>
      have fits : body.fits = true := by
        cases fit : body.fits with
        | true => rfl
        | false => simp [ServiceWrite.refusal, fit] at carried
      rw [← pass_modify_iff all fits checked]
      exact ⟨fun after => after.services, fun services => ⟨services, all.rules⟩⟩
    | replaceAccessRules serviceId rules =>
      exact iff_of_true ⟨all.services, rules_pass_replaced all _ checked fun _ => ⟨rfl, rfl⟩⟩ id
    | replaceAccessCatalog subject rules =>
      exact iff_of_true ⟨all.services, rules_pass_replaced all _ checked fun _ => ⟨rfl, rfl⟩⟩ id
    | upsertRule serviceId subject visible enabled =>
      rw [← pass_upsert_iff all checked]
      exact ⟨fun after => after.rules, fun rules => ⟨all.services, rules⟩⟩
    | deleteRule serviceId subject =>
      exact iff_of_true ⟨all.services, rules_pass_filter all _⟩ id
    | addParty party => exact iff_of_true ⟨all.services, all.rules⟩ id
    | dropParty party => exact iff_of_true ⟨all.services, rules_pass_filter all _⟩ id

def ServiceTables.empty : ServiceTables := ⟨[], [], [], []⟩

/-- However the requests of administrators overlap: the flags of every service and every rule pass
the check of the requests that write them as long as no write gives one flag alone against the
other as it is stored at that moment, and no longer. -/
theorem stored_flags_pass_iff (actions : List (Action ServiceRequest)) :
    Always (Interleaving.step ServiceWrite.apply ServiceRequest.job)
        (fun s => s.shared.AllPass) (System.start ServiceTables.empty) actions ↔
      EachStep (Interleaving.step ServiceWrite.apply ServiceRequest.job) (Meets NotOpposed)
        (System.start ServiceTables.empty) actions :=
  always_iff_meets_within job_checked (fun _ _ checked all => allPass_apply_iff checked all)
    ⟨by simp [ServiceTables.empty], by simp [ServiceTables.empty]⟩ actions

end Exact
end Passing

end LeaderProduct
