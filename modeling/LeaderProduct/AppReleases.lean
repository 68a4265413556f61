import LeaderProduct.OtaOffers

/-! The releases of the app and the check for a newer one. -/
namespace LeaderProduct
open RankedWindow

structure AppUpdate where
  id : Nat
  platform : AppPlatform
  channel : String
  versionCode : Int
  versionName : String
  minSupportedVersionCode : Int
  isMandatory : Bool
  rolloutPercent : Nat
  isActive : Bool
  releaseNotes : Option String
  storeUrl : Option String
  apkKey : Option String
  fileSize : Option Int
  checksum : Option String
  checksumMd5 : Option String
  deriving DecidableEq

structure AppUpdateTable where
  rows : List AppUpdate
  uniqueIds : (rows.map (·.id)).Nodup
  uniqueVersions : (rows.map (fun row => (row.platform, row.channel, row.versionCode))).Nodup

def AppUpdateTable.active (table : AppUpdateTable) (platform : AppPlatform) (channel : String) :
    List AppUpdate :=
  newestFirst (·.versionCode) (table.rows.filter (fun row =>
    row.platform == platform && row.channel == channel && row.isActive))

def AppUpdateTable.latestActive (table : AppUpdateTable) (platform : AppPlatform)
    (channel : String) : Option AppUpdate :=
  (table.active platform channel).head?

namespace AppUpdate

/-- `shouldIncludeUpdate`, which takes the empty device for none. -/
def shouldIncludeUpdate (hash : String → Nat) (deviceId : Option String) (release : AppUpdate) : Bool :=
  LeaderProduct.shouldIncludeUpdate hash (deviceId.filter (· ≠ "")) (toString release.id)
    release.rolloutPercent

end AppUpdate

structure UpdateRefusal where
  status : Nat
  message : String
  deriving DecidableEq

namespace Updates
variable (js : JsConversions)

/-- The outer `none` is a value without `toLowerCase`, which throws. -/
def parsePlatform (raw : Option Json) : Option (Option AppPlatform) :=
  match raw.filter isTruthy with
  | none => some none
  | some (.string text) =>
    if JsString.toLowerCase text = "android" then some (some .android)
    else if JsString.toLowerCase text = "ios" then some (some .ios)
    else some none
  | some _ => none

def parseChannel (raw : Option Json) : String :=
  let val := trimmedText js (raw.filter isTruthy)
  if val = "" then "prod" else val

def textOr (fallback : String) (raw : Option Json) : String :=
  match raw with
  | none | some .null => fallback
  | some value => textOfValue js value

end Updates

structure UpdateCheckQuery where
  platform : Option Json
  versionCode : Option Json
  channel : Option Json
  deviceId : Option Json

structure CheckedDevice where
  platform : AppPlatform
  versionCode : Int
  channel : String
  deviceId : Option String

def UpdateCheckQuery.read (js : JsConversions) (query : UpdateCheckQuery) :
    Except UpdateRefusal CheckedDevice :=
  match Updates.parsePlatform query.platform with
  | none => .error ⟨500, "Ошибка проверки обновления"⟩
  | some none => .error ⟨400, "platform должен быть android или ios"⟩
  | some (some platform) =>
    match (JsString.parseInt (Updates.textOr js "" query.versionCode)).filter JsString.isFinite with
    | none => .error ⟨400, "versionCode должен быть целым числом"⟩
    | some versionCode =>
      .ok ⟨platform, versionCode, Updates.parseChannel js query.channel, textIfTruthy js query.deviceId⟩

structure LatestPayload where
  latestId : Nat
  latestVersionCode : Int
  latestVersionName : String
  minSupportedVersionCode : Int
  rolloutPercent : Nat
  releaseNotes : Option String
  storeUrl : Option String
  downloadUrl : Option String
  fileSize : Option Int
  checksum : Option String
  checksumMd5 : Option String

structure UpdateCheckPayload where
  updateAvailable : Bool
  mandatory : Bool
  latest : Option LatestPayload
  message : String

section Check
variable (hash : String → Nat) (js : JsConversions) (resolveUpdateDownloadUrl : String → Option String)

def CheckedDevice.answer (device : CheckedDevice) (found : Option AppUpdate) : UpdateCheckPayload :=
  match found with
  | none => ⟨false, false, none, "Обновлений не найдено"⟩
  | some latest =>
    let updateAvailable := decide (device.versionCode < latest.versionCode)
    let mandatory := updateAvailable &&
      (decide (device.versionCode < latest.minSupportedVersionCode) || latest.isMandatory)
    let eligible := if updateAvailable then
      mandatory || latest.shouldIncludeUpdate hash device.deviceId else false
    { updateAvailable := updateAvailable && eligible
      mandatory := mandatory && eligible
      latest := some
        { latestId := latest.id
          latestVersionCode := latest.versionCode
          latestVersionName := latest.versionName
          minSupportedVersionCode := latest.minSupportedVersionCode
          rolloutPercent := latest.rolloutPercent
          releaseNotes := latest.releaseNotes
          storeUrl := latest.storeUrl
          downloadUrl := if updateAvailable && eligible then
            (latest.apkKey.filter (· ≠ "")).bind resolveUpdateDownloadUrl else none
          fileSize := latest.fileSize
          checksum := latest.checksum
          checksumMd5 := latest.checksumMd5 }
      message := "Статус обновления" }

/-- `GET /updates/check`. -/
def updateCheck (table : AppUpdateTable) (query : UpdateCheckQuery) :
    Except UpdateRefusal UpdateCheckPayload := do
  let device ← query.read js
  return device.answer hash resolveUpdateDownloadUrl (table.latestActive device.platform device.channel)

end Check
end LeaderProduct
