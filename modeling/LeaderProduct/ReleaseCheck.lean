import LeaderProduct.AppReleases

/-! What the two checks for an update overlook: one reads the newest release alone, the other the
newest ten, and a rollout may keep all of these from a device. -/
namespace LeaderProduct
open RankedWindow

section Apk
variable (hash : String → Nat)

def CheckedDevice.canGet (device : CheckedDevice) (release : AppUpdate) : Bool :=
  decide (device.versionCode < release.versionCode) &&
    (decide (device.versionCode < release.minSupportedVersionCode) || release.isMandatory ||
      release.shouldIncludeUpdate hash device.deviceId)

def UpdateCheckPayload.offered (payload : UpdateCheckPayload) : Option Nat :=
  if payload.updateAvailable then payload.latest.map (·.latestId) else none

def CheckedDevice.releases (device : CheckedDevice) (table : AppUpdateTable) : List AppUpdate :=
  table.active device.platform device.channel

structure ApkCheckTells (table : AppUpdateTable) (device : CheckedDevice)
    (payload : UpdateCheckPayload) : Prop where
  newest : (∃ release ∈ device.releases table, device.canGet hash release = true) →
    payload.offered = ((device.releases table).find? (device.canGet hash)).map (·.id)
  unsupported : (∃ release ∈ device.releases table,
    device.versionCode < release.minSupportedVersionCode) → payload.mandatory = true

/-- The newest release is for the device where any is, and is needed where any is. -/
structure LatestSuffices (table : AppUpdateTable) (device : CheckedDevice) : Prop where
  gets : (∀ release ∈ device.releases table, device.canGet hash release = false) ∨
    ∃ latest, table.latestActive device.platform device.channel = some latest ∧
      device.canGet hash latest = true
  supports : (∀ release ∈ device.releases table,
      release.minSupportedVersionCode ≤ device.versionCode) ∨
    ∃ latest, table.latestActive device.platform device.channel = some latest ∧
      device.versionCode < latest.versionCode ∧
      (device.versionCode < latest.minSupportedVersionCode ∨ latest.isMandatory = true)

variable {hash} {device : CheckedDevice} {resolve : String → Option String} {latest : AppUpdate}

theorem answer_offered : (device.answer hash resolve (some latest)).offered =
    if device.canGet hash latest = true then some latest.id else none := by
  simp only [UpdateCheckPayload.offered, CheckedDevice.answer, CheckedDevice.canGet]
  by_cases newer : device.versionCode < latest.versionCode
  · simp [newer]
  · simp [newer]

theorem answer_mandatory : (device.answer hash resolve (some latest)).mandatory = true ↔
    device.versionCode < latest.versionCode ∧
      (device.versionCode < latest.minSupportedVersionCode ∨ latest.isMandatory = true) := by
  simp only [CheckedDevice.answer]
  by_cases newer : device.versionCode < latest.versionCode
  · simp +contextual [newer]
  · simp [newer]

variable {table : AppUpdateTable}

theorem latestActive_eq : table.latestActive device.platform device.channel =
    (device.releases table).head? := rfl

theorem offers_newest_iff :
    ((∃ release ∈ device.releases table, device.canGet hash release = true) →
      (device.answer hash resolve (table.latestActive device.platform device.channel)).offered =
        ((device.releases table).find? (device.canGet hash)).map (·.id)) ↔
    ((∀ release ∈ device.releases table, device.canGet hash release = false) ∨
      ∃ latest, table.latestActive device.platform device.channel = some latest ∧
        device.canGet hash latest = true) := by
  rw [latestActive_eq]
  cases device.releases table with
  | nil => simp
  | cons latest rest =>
    rw [List.head?_cons, answer_offered, List.find?_cons]
    cases gets : device.canGet hash latest with
    | true => simp [gets]
    | false =>
      -- a release found further on is none that the answer speaks of
      cases other : rest.find? (device.canGet hash) with
      | none =>
        have none_gets : ∀ release ∈ rest, device.canGet hash release = false := by
          simpa using List.find?_eq_none.mp other
        exact iff_of_true (fun _ => rfl) (.inl (List.forall_mem_cons.mpr ⟨gets, none_gets⟩))
      | some release => simp [gets]

theorem tells_unsupported_iff :
    ((∃ release ∈ device.releases table, device.versionCode < release.minSupportedVersionCode) →
      (device.answer hash resolve
        (table.latestActive device.platform device.channel)).mandatory = true) ↔
    ((∀ release ∈ device.releases table, release.minSupportedVersionCode ≤ device.versionCode) ∨
      ∃ latest, table.latestActive device.platform device.channel = some latest ∧
        device.versionCode < latest.versionCode ∧
        (device.versionCode < latest.minSupportedVersionCode ∨ latest.isMandatory = true)) := by
  have nobody : (¬∃ release ∈ device.releases table,
      device.versionCode < release.minSupportedVersionCode) ↔
      ∀ release ∈ device.releases table, release.minSupportedVersionCode ≤ device.versionCode := by
    simp
  rw [imp_iff_not_or, nobody, latestActive_eq]
  cases (device.releases table).head? with
  | none => simp [CheckedDevice.answer]
  | some latest => rw [answer_mandatory]; simp

end Apk

section Ota
variable (hash : String → Nat) (js : JsConversions) (releases : OtaReleases) (request : OtaRequest)

def OtaRequest.active : List OtaRelease :=
  match request.readPlatform js with
  | none => []
  | some platform =>
    if request.readRuntimeVersion js = "" then []
    else activeFor releases platform (request.readChannel js) (request.readRuntimeVersion js)

structure NewerFor (update : OtaRelease) : Prop where
  listed : update ∈ request.active js releases
  newer : ∀ row ∈ releases.rows, row.updateId = request.currentUpdateId →
    row.createdAt < update.createdAt
  included : update.includes hash (request.readDeviceId js) = true

def OtaCheckTells (offer : Option OtaRelease) : Prop :=
  (∃ update, NewerFor hash js releases request update) →
    offer = (request.active js releases).find? (·.includes hash (request.readDeviceId js))

/-- One of the newest ten is for the client where any newer one is. -/
def TenSuffice : Prop :=
  (∀ update, ¬NewerFor hash js releases request update) ∨
    ∃ update ∈ request.candidates js releases, update.includes hash (request.readDeviceId js) = true

variable {hash js releases request}

theorem candidates_eq_take :
    request.candidates js releases = (request.active js releases).take 10 := by
  unfold OtaRequest.candidates OtaRequest.active
  cases request.readPlatform js with
  | none => rfl
  | some platform => dsimp only; split <;> rfl

theorem active_newest {update other : OtaRelease} {p : OtaRelease → Bool}
    (found : (request.active js releases).find? p = some update)
    (listed : other ∈ request.active js releases) (picked : p other = true) :
    update ∈ releases.rows ∧ other.createdAt ≤ update.createdAt := by
  unfold OtaRequest.active at found listed
  cases read : request.readPlatform js with
  | none => rw [read] at listed; cases listed
  | some platform =>
    rw [read] at found listed
    dsimp only at found listed
    split at found
    · cases found
    · next version =>
      rw [if_neg version] at listed
      have here := mem_newestFirst.mp (List.mem_of_find?_eq_some found)
      have there := mem_newestFirst.mp listed
      have newest := newestFirst_find found there picked
      exact ⟨List.mem_of_mem_filter here, newest⟩

theorem ota_offers_newest_iff :
    OtaCheckTells hash js releases request (handleUpdateRequest hash js releases request) ↔
      TenSuffice hash js releases request := by
  cases found : (request.candidates js releases).find?
      (·.includes hash (request.readDeviceId js)) with
  | none =>
    have silent : ¬∃ update ∈ request.candidates js releases,
        update.includes hash (request.readDeviceId js) = true := by
      simpa using List.find?_eq_none.mp found
    rw [TenSuffice, or_iff_left silent, OtaCheckTells, handleUpdateRequest_eq, found, ← not_exists]
    refine ⟨fun tells newer => ?_, fun nothing newer => absurd newer nothing⟩
    obtain ⟨update, inner⟩ := newer
    have missed := List.find?_eq_none.mp (tells ⟨update, inner⟩).symm
    exact missed update inner.listed inner.included
  | some selected =>
    have picked := List.find?_some found
    have listed := List.mem_of_find?_eq_some found
    refine iff_of_true ?_ (.inr ⟨selected, listed, picked⟩)
    rintro ⟨update, inner⟩
    have first : (request.active js releases).find? (·.includes hash (request.readDeviceId js)) =
        some selected := by
      rw [← List.take_append_drop 10 (request.active js releases), ← candidates_eq_take,
        List.find?_append, found, Option.some_or]
    obtain ⟨here, newest⟩ := active_newest first inner.listed inner.included
    rw [first]
    refine handleUpdateRequest_some.mpr ⟨found, fun installed => ?_⟩
    exact absurd (inner.newer selected here installed) newest.not_gt

end Ota

section Both
variable (hash : String → Nat) (js : JsConversions) (resolve : String → Option String)
  (table : AppUpdateTable) (query : UpdateCheckQuery) (releases : OtaReleases) (request : OtaRequest)

/-- A partial rollout hides no other release just when the newest release of the app is one for the
device, and says what it needs, and one of the newest ten over the air is for the client. -/
theorem rollout_hides_nothing_iff {device : CheckedDevice} (reads : query.read js = .ok device) :
    ((∃ payload, updateCheck hash js resolve table query = .ok payload ∧
        ApkCheckTells hash table device payload) ∧
      OtaCheckTells hash js releases request (handleUpdateRequest hash js releases request)) ↔
      LatestSuffices hash table device ∧ TenSuffice hash js releases request := by
  have answered : updateCheck hash js resolve table query =
      .ok (device.answer hash resolve (table.latestActive device.platform device.channel)) := by
    rw [updateCheck, reads]; rfl
  refine and_congr ?_ ota_offers_newest_iff
  rw [answered]
  constructor
  · rintro ⟨payload, same, tells⟩
    obtain rfl := Except.ok.inj same
    exact ⟨offers_newest_iff.mp tells.newest, tells_unsupported_iff.mp tells.unsupported⟩
  · rintro ⟨gets, supports⟩
    exact ⟨_, rfl, offers_newest_iff.mpr gets, tells_unsupported_iff.mpr supports⟩

end Both

def tenthRolledOut : AppUpdateTable where
  rows :=
    [⟨1, .android, "prod", 2, "1.1", 1, false, 100, true, none, none, some "1.apk", none, none, none⟩,
      ⟨2, .android, "prod", 3, "1.2", 1, false, 10, true, none, none, some "2.apk", none, none, none⟩]
  uniqueIds := by decide
  uniqueVersions := by decide

def firstVersion : UpdateCheckQuery :=
  ⟨some (.string "android"), some (.string "1"), none, some (.string "d1")⟩

theorem tenth_rolled_out_told : (∃ payload, updateCheck (fun _ => 5) OtaSample.conversions some
      tenthRolledOut firstVersion = .ok payload ∧
      ApkCheckTells (fun _ => 5) tenthRolledOut ⟨.android, 1, "prod", some "d1"⟩ payload) ∧
    OtaCheckTells (fun _ => 5) OtaSample.conversions halfRolledOut namelessClient
      (handleUpdateRequest (fun _ => 5) OtaSample.conversions halfRolledOut namelessClient) :=
  (rollout_hides_nothing_iff (fun _ => 5) OtaSample.conversions some tenthRolledOut firstVersion
    halfRolledOut namelessClient rfl).mpr
    ⟨⟨.inr ⟨_, rfl, by decide⟩, .inl (by decide)⟩, .inr (by decide)⟩

/-- The digest of `d1:2` falls into the bucket 66. -/
theorem newer_release_hidden : ∃ payload, updateCheck (fun _ => 66) OtaSample.conversions some
      tenthRolledOut firstVersion = .ok payload ∧
    ¬ApkCheckTells (fun _ => 66) tenthRolledOut ⟨.android, 1, "prod", some "d1"⟩ payload :=
  ⟨_, rfl, fun tells => absurd (tells.newest (by decide)) (by decide)⟩

end LeaderProduct
