import LeaderProduct.OtaCleanup

/-! Which update over the air a client is offered. -/
namespace LeaderProduct
open RankedWindow

section Check

structure OtaRelease extends AppOtaUpdate where
  rolloutPercent : Nat
  named : updateId ≠ "" ∧ JsString.trim updateId = updateId

structure OtaReleases where
  rows : List OtaRelease
  uniqueUpdateIds : (rows.map (·.updateId)).Nodup

structure OtaRequest where
  expoPlatform : Option String
  platform : Option Json
  expoRuntimeVersion : Option String
  runtimeVersion : Option Json
  expoChannelName : Option String
  channel : Option Json
  expoDeviceId : Option String
  deviceId : Option Json
  expoCurrentUpdateId : Option String

variable (hash : String → Nat) (js : JsConversions)

/-- `hash` stands for the first eight digits of the SHA-1 digest. -/
def hashBucket (value : String) : Nat := hash value % 100

def shouldIncludeUpdate (deviceId : Option String) (updateId : String) (rolloutPercent : Nat) : Bool :=
  if 100 ≤ rolloutPercent then true
  else match deviceId with
    | none => false
    | some deviceId => decide (hashBucket hash (deviceId ++ ":" ++ updateId) < rolloutPercent)

/-- `header || field`. -/
def firstGiven (header : Option String) (field : Option Json) : Option Json :=
  ((header.map Json.string).filter isTruthy).or (field.filter isTruthy)

def trimmedText (raw : Option Json) : String := JsString.trim ((raw.map (textOfValue js)).getD "")

def OtaRequest.readPlatform (request : OtaRequest) : Option AppPlatform :=
  (parsePlatform js (firstGiven request.expoPlatform request.platform)).or
    (parsePlatform js request.platform)

def OtaRequest.readRuntimeVersion (request : OtaRequest) : String :=
  trimmedText js (firstGiven request.expoRuntimeVersion request.runtimeVersion)

def OtaRequest.readChannel (request : OtaRequest) : String :=
  parseChannel js (firstGiven request.expoChannelName request.channel)

/-- The device, or else the update that the client runs. -/
def OtaRequest.readDeviceId (request : OtaRequest) : Option String :=
  let id := trimmedText js ((firstGiven request.expoDeviceId request.deviceId).or
    (firstGiven request.expoCurrentUpdateId none))
  if id = "" then none else some id

def OtaRequest.currentUpdateId (request : OtaRequest) : String :=
  JsString.trim (request.expoCurrentUpdateId.getD "")

def activeFor (releases : OtaReleases) (platform : AppPlatform) (channel runtimeVersion : String) :
    List OtaRelease :=
  newestFirst (·.createdAt) (releases.rows.filter (fun row =>
    row.platform == platform && row.channel == channel && row.runtimeVersion == runtimeVersion &&
      row.isActive))

def otaCandidates (releases : OtaReleases) (platform : AppPlatform)
    (channel runtimeVersion : String) : List OtaRelease :=
  (activeFor releases platform channel runtimeVersion).take 10

def OtaRelease.includes (release : OtaRelease) (deviceId : Option String) : Bool :=
  shouldIncludeUpdate hash deviceId release.updateId release.rolloutPercent

/-- `handleUpdateRequest`: the update of the manifest, none for the empty answer. -/
def handleUpdateRequest (releases : OtaReleases) (request : OtaRequest) : Option OtaRelease :=
  match request.readPlatform js with
  | none => none
  | some platform =>
    let runtimeVersion := request.readRuntimeVersion js
    if runtimeVersion = "" then none
    else
      let deviceId := request.readDeviceId js
      let candidates := otaCandidates releases platform (request.readChannel js) runtimeVersion
      match candidates.find? (·.includes hash deviceId) with
      | none => none
      | some selected =>
        if request.currentUpdateId ≠ "" ∧ request.currentUpdateId = selected.updateId then none
        else some selected

end Check

section Rounds
variable (offer : Option String → Option OtaRelease)

def installedAfter (start : Option String) : Nat → Option String
  | 0 => start
  | n + 1 =>
    match offer (installedAfter start n) with
    | none => installedAfter start n
    | some update => some update.updateId

/-- After the first installation the check offers nothing more. -/
def ChecksSettle (start : Option String) : Prop :=
  ∀ k n, k < n → (offer (installedAfter offer start k)).isSome = true →
    offer (installedAfter offer start n) = none

variable {offer} {start : Option String}

theorem installedAfter_still {n : Nat} (nothing : offer (installedAfter offer start n) = none)
    (m : Nat) : installedAfter offer start (n + m) = installedAfter offer start n := by
  induction m with
  | zero => rfl
  | succ m ih => rw [Nat.add_succ, installedAfter, ih, nothing]

theorem settles_iff : ChecksSettle offer start ↔
    ∀ update, offer start = some update → offer (some update.updateId) = none := by
  constructor
  · intro settles update offered
    have one : installedAfter offer start 1 = some update.updateId := by
      rw [installedAfter, installedAfter, offered]
    have ended := settles 0 1 Nat.zero_lt_one (by rw [installedAfter, offered]; rfl)
    rwa [one] at ended
  · intro ends k n later offered
    cases first : offer start with
    | none =>
      have still : installedAfter offer start (0 + k) = start := installedAfter_still first k
      rw [Nat.zero_add] at still
      rw [still, first] at offered
      cases offered
    | some update =>
      have one : installedAfter offer start 1 = some update.updateId := by
        rw [installedAfter, installedAfter, first]
      have ended : offer (installedAfter offer start 1) = none := by rw [one]; exact ends update first
      obtain ⟨m, rfl⟩ := Nat.exists_eq_add_of_le (Nat.one_le_of_lt later)
      rw [installedAfter_still ended m, ended]

end Rounds

variable {update : OtaRelease}

section Identity
variable {hash : String → Nat} {js : JsConversions} {releases : OtaReleases} {request : OtaRequest}

def OtaRequest.running (request : OtaRequest) (installed : Option String) : OtaRequest :=
  { request with expoCurrentUpdateId := installed }

def OtaRequest.candidates (js : JsConversions) (request : OtaRequest) (releases : OtaReleases) :
    List OtaRelease :=
  match request.readPlatform js with
  | none => []
  | some platform =>
    if request.readRuntimeVersion js = "" then []
    else otaCandidates releases platform (request.readChannel js) (request.readRuntimeVersion js)

theorem handleUpdateRequest_eq : handleUpdateRequest hash js releases request =
    ((request.candidates js releases).find? (·.includes hash (request.readDeviceId js))).filter
      (fun selected =>
        !decide (request.currentUpdateId ≠ "" ∧ request.currentUpdateId = selected.updateId)) := by
  unfold handleUpdateRequest OtaRequest.candidates
  cases request.readPlatform js with
  | none => rfl
  | some platform =>
    dsimp only
    split
    · rfl
    · cases (otaCandidates releases platform (request.readChannel js)
          (request.readRuntimeVersion js)).find? (·.includes hash (request.readDeviceId js)) with
      | none => rfl
      | some selected =>
        dsimp only [Option.filter]
        split
        · next same => exact (if_neg (by rw [decide_eq_true same]; decide)).symm
        · next other => exact (if_pos (by rw [decide_eq_false other]; rfl)).symm

theorem handleUpdateRequest_some :
    handleUpdateRequest hash js releases request = some update ↔
      (request.candidates js releases).find? (·.includes hash (request.readDeviceId js)) = some update ∧
        update.updateId ≠ request.currentUpdateId := by
  rw [handleUpdateRequest_eq, Option.filter_eq_some_iff]
  refine and_congr_right fun _ => ?_
  rw [Bool.not_eq_true', decide_eq_false_iff_not]
  constructor
  · exact fun other same => other ⟨fun none => update.named.1 (same.trans none), same.symm⟩
  · exact fun other same => other same.2.symm

theorem candidates_nodup (js : JsConversions) (request : OtaRequest) (releases : OtaReleases) :
    ((request.candidates js releases).map (·.updateId)).Nodup := by
  unfold OtaRequest.candidates
  cases request.readPlatform js with
  | none => exact List.nodup_nil
  | some platform =>
    dsimp only
    split
    · exact List.nodup_nil
    · have sorted : ((activeFor releases platform (request.readChannel js)
          (request.readRuntimeVersion js)).map (·.updateId)).Nodup :=
        ((List.perm_insertionSort _ _).map _).nodup_iff.mpr
          (releases.uniqueUpdateIds.sublist (List.filter_sublist.map _))
      exact sorted.sublist ((List.take_sublist _ _).map _)

theorem candidates_running (installed : Option String) :
    (request.running installed).candidates js releases = request.candidates js releases := rfl

theorem running_current (update : OtaRelease) :
    (request.running (some update.updateId)).currentUpdateId = update.updateId :=
  update.named.2

theorem offered_again_iff (listed : update ∈ request.candidates js releases) :
    handleUpdateRequest hash js releases (request.running (some update.updateId)) = none ↔
      ∀ selected, (request.candidates js releases).find? (·.includes hash
        ((request.running (some update.updateId)).readDeviceId js)) = some selected →
          selected = update := by
  rw [handleUpdateRequest_eq, candidates_running, running_current]
  cases found : (request.candidates js releases).find? (·.includes hash
      ((request.running (some update.updateId)).readDeviceId js)) with
  | none => simp
  | some selected =>
    have here := List.mem_of_find?_eq_some found
    have same : update.updateId = selected.updateId ↔ selected = update :=
      ⟨fun ids => List.inj_on_of_nodup_map (candidates_nodup js request releases) here listed ids.symm,
        fun rows => by rw [rows]⟩
    simp [Option.filter, update.named.1, same]

theorem readDeviceId_stated (stated : (firstGiven request.expoDeviceId request.deviceId).isSome = true)
    (installed : Option String) :
    (request.running installed).readDeviceId js = request.readDeviceId js := by
  obtain ⟨raw, given⟩ := Option.isSome_iff_exists.mp stated
  simp [OtaRequest.readDeviceId, OtaRequest.running, given]

theorem readDeviceId_running (unstated : firstGiven request.expoDeviceId request.deviceId = none)
    (update : OtaRelease) :
    (request.running (some update.updateId)).readDeviceId js = some update.updateId := by
  obtain ⟨nonempty, trimmed⟩ := update.named
  have fallback : firstGiven (some update.updateId) none = some (Json.string update.updateId) := by
    simp [firstGiven, isTruthy, nonempty]
  unfold OtaRequest.readDeviceId OtaRequest.running
  rw [unstated, Option.none_or, fallback]
  simp [trimmedText, textOfValue, trimmed, nonempty]

end Identity

section Settling

/-- The first update offered is also the first that picks a client known by it, or no update
does. -/
def KeepsOwn (hash : String → Nat) (candidates : List OtaRelease) (deviceId : Option String)
    (currentUpdateId : String) : Prop :=
  ∀ newer update older, candidates = newer ++ update :: older →
    (∀ other ∈ newer, other.includes hash deviceId = false) → update.includes hash deviceId = true →
    update.updateId ≠ currentUpdateId →
      (∀ other ∈ newer, other.includes hash (some update.updateId) = false) ∧
        (update.includes hash (some update.updateId) = true ∨
          ∀ other ∈ older, other.includes hash (some update.updateId) = false)

variable {hash : String → Nat} {js : JsConversions} {releases : OtaReleases} {request : OtaRequest}

theorem find_only_iff {rows newer older : List OtaRelease} {p : OtaRelease → Bool}
    (split : rows = newer ++ update :: older) (distinct : (rows.map (·.updateId)).Nodup) :
    (∀ selected, rows.find? p = some selected → selected = update) ↔
      (∀ other ∈ newer, p other = false) ∧
        (p update = true ∨ ∀ other ∈ older, p other = false) := by
  subst split
  have apart : ∀ other, other ∈ newer ∨ other ∈ older → other ≠ update := by
    rintro other (before | after) rfl
    · rw [List.map_append, List.nodup_append] at distinct
      exact distinct.2.2 _ (List.mem_map_of_mem before) _ (List.mem_map_of_mem List.mem_cons_self) rfl
    · rw [List.map_append, List.nodup_append, List.map_cons, List.nodup_cons] at distinct
      exact distinct.2.1.1 (List.mem_map_of_mem after)
  rw [List.find?_append]
  cases ahead : newer.find? p with
  | some found =>
    have here := List.mem_of_find?_eq_some ahead
    refine iff_of_false (fun only => apart found (.inl here) (only found rfl)) (fun unpicked => ?_)
    exact Bool.false_ne_true ((unpicked.1 found here).symm.trans (List.find?_some ahead))
  | none =>
    have skipped : ∀ other ∈ newer, p other = false := by simpa using List.find?_eq_none.mp ahead
    rw [Option.none_or, List.find?_cons]
    cases own : p update with
    | true =>
      exact iff_of_true (fun selected picked => (Option.some.inj picked).symm) ⟨skipped, .inl rfl⟩
    | false =>
      cases behind : older.find? p with
      | none =>
        have silent : ∀ other ∈ older, p other = false := by simpa using List.find?_eq_none.mp behind
        exact iff_of_true (fun selected picked => nomatch picked) ⟨skipped, .inr silent⟩
      | some found =>
        have there := List.mem_of_find?_eq_some behind
        refine iff_of_false (fun only => apart found (.inr there) (only found rfl))
          (fun picked => ?_)
        rcases picked.2 with wrong | unpicked
        · cases wrong
        · exact Bool.false_ne_true ((unpicked found there).symm.trans (List.find?_some behind))

theorem nameless_offered_iff {newer older : List OtaRelease}
    (unstated : firstGiven request.expoDeviceId request.deviceId = none)
    (split : request.candidates js releases = newer ++ update :: older) :
    handleUpdateRequest hash js releases (request.running (some update.updateId)) = none ↔
      (∀ other ∈ newer, other.includes hash (some update.updateId) = false) ∧
        (update.includes hash (some update.updateId) = true ∨
          ∀ other ∈ older, other.includes hash (some update.updateId) = false) := by
  have listed : update ∈ request.candidates js releases := by rw [split]; simp
  rw [offered_again_iff listed, readDeviceId_running unstated]
  exact find_only_iff split (candidates_nodup js request releases)

theorem ota_checks_settle_iff (hash : String → Nat) (js : JsConversions) (releases : OtaReleases)
    (request : OtaRequest) :
    ChecksSettle (fun installed => handleUpdateRequest hash js releases (request.running installed))
        request.expoCurrentUpdateId ↔
      (firstGiven request.expoDeviceId request.deviceId).isSome = true ∨
        KeepsOwn hash (request.candidates js releases) (request.readDeviceId js)
          request.currentUpdateId := by
  have own : request.running request.expoCurrentUpdateId = request := rfl
  rw [settles_iff, own]
  cases stated : (firstGiven request.expoDeviceId request.deviceId).isSome with
  | true =>
    refine iff_of_true (fun update offered => ?_) (.inl rfl)
    have found := (handleUpdateRequest_some.mp offered).1
    refine (offered_again_iff (List.mem_of_find?_eq_some found)).mpr (fun selected again => ?_)
    rw [readDeviceId_stated stated] at again
    exact Option.some.inj (again.symm.trans found)
  | false =>
    have unstated := Option.not_isSome_iff_eq_none.mp (Bool.eq_false_iff.mp stated)
    constructor
    · intro settles
      refine .inr fun newer update older split skipped included differs => ?_
      refine (nameless_offered_iff unstated split).mp (settles update ?_)
      refine handleUpdateRequest_some.mpr ⟨?_, differs⟩
      rw [split]
      exact List.find?_eq_some_iff_append.mpr ⟨included, newer, older, rfl, by simpa using skipped⟩
    · rintro (wrong | keeps) update offered
      · cases wrong
      · obtain ⟨found, differs⟩ := handleUpdateRequest_some.mp offered
        obtain ⟨included, newer, older, split, skipped⟩ := List.find?_eq_some_iff_append.mp found
        exact (nameless_offered_iff unstated split).mpr
          (keeps newer update older split (by simpa using skipped) included differs)

def halfRolledOut : OtaReleases where
  rows := [⟨⟨1, .android, "prod", "1", "u1", none, "bundle-1", none, true, 1⟩, 100, by decide⟩,
    ⟨⟨2, .android, "prod", "1", "u2", none, "bundle-2", none, true, 2⟩, 50, by decide⟩]
  uniqueUpdateIds := by decide

def namelessClient : OtaRequest :=
  ⟨some "android", none, some "1", none, none, none, none, none, none⟩

def rolloutDigest (value : String) : Nat := if value = "u1:u2" then 13 else 55

theorem nameless_client_alternates : ¬ ChecksSettle
    (fun installed => handleUpdateRequest rolloutDigest OtaSample.conversions halfRolledOut
      (namelessClient.running installed)) namelessClient.expoCurrentUpdateId :=
  fun settles => absurd (settles 0 1 (by decide) (by decide)) (by decide)

end Settling
end LeaderProduct
