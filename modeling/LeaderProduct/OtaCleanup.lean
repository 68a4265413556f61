import Mathlib.Data.Finset.Basic
import LeaderProduct.MaxInitData
import LeaderProduct.RankedWindow

/-! The clean-up of updates delivered over the air. -/
namespace LeaderProduct
open RankedWindow

inductive AppPlatform where
  | android
  | ios
  deriving DecidableEq, Repr

structure AppOtaUpdate where
  id : Nat
  platform : AppPlatform
  channel : String
  runtimeVersion : String
  updateId : String
  manifestKey : Option String
  launchAssetKey : String
  assets : Option Json
  isActive : Bool
  createdAt : Int

structure OtaTable where
  rows : List AppOtaUpdate
  uniqueIds : (rows.map (·.id)).Nodup
  uniqueUpdateIds : (rows.map (·.updateId)).Nodup

structure OtaStore where
  table : OtaTable
  objects : Finset String

structure OtaAssetInput where
  key : String
  hash : Option String
  contentType : Option String
  fileExtension : Option String

section Values
variable (js : JsConversions)

def isTruthy : Json → Bool
  | .null => false
  | .bool b => b
  | .number n => n ≠ 0
  | .string text => text ≠ ""
  | .array _ | .object _ => true

def textOfValue : Json → String
  | .string text => text
  | raw => js.stringOf raw

def textIfTruthy (raw : Option Json) : Option String :=
  (raw.filter isTruthy).map (textOfValue js)

def numberOfValue : Json → Option Rat
  | .number n => some n
  | .bool b => some (if b then 1 else 0)
  | .null => some 0
  | .string text => js.numberOf text
  | raw => js.numberOf (js.stringOf raw)

def firstValue : Option Json → Option Json
  | some (.array items) => items.head?
  | raw => raw

def parsePlatform (raw : Option Json) : Option AppPlatform :=
  let normalized := JsString.toLowerCase ((textIfTruthy js (firstValue raw)).getD "")
  if normalized = "android" then some .android
  else if normalized = "ios" then some .ios
  else if normalized = "ANDROID" then some .android
  else if normalized = "IOS" then some .ios
  else none

def parseChannel (raw : Option Json) : String :=
  let channel := JsString.trim ((textIfTruthy js (firstValue raw)).getD "")
  if channel = "" then "prod" else channel

def parseBoolean (raw : Option Json) (fallback : Bool) : Bool :=
  match raw with
  | none | some .null | some (.string "") => fallback
  | some (.bool b) => b
  | some (.number n) => n = 1
  | some other =>
    let text := JsString.toLowerCase (JsString.trim (textOfValue js other))
    text = "true" ∨ text = "1" ∨ text = "yes"

def parsePositiveInt (raw : Option Json) (fallback : Nat) : Option Nat :=
  match raw with
  | none | some .null | some (.string "") => some fallback
  | some other =>
    (numberOfValue js other).bind (fun n => if n < 0 then none else some n.floor.toNat)

def assetKey (item : Json) : String :=
  JsString.trim ((textIfTruthy js (memberOf item "key")).getD "")

def normalizeAsset (index : Nat) (item : Json) : Except String OtaAssetInput :=
  match item with
  | .object _ | .array _ =>
    if assetKey js item = "" then .error s!"assets[{index}].key is required"
    else .ok
      { key := assetKey js item
        hash := (textIfTruthy js (memberOf item "hash")).map JsString.trim
        contentType := (textIfTruthy js (memberOf item "contentType")).map JsString.trim
        fileExtension := (textIfTruthy js (memberOf item "fileExtension")).map JsString.trim }
  | _ => .error s!"assets[{index}] must be an object"

def normalizeAssets : Nat → List Json → Except String (List OtaAssetInput)
  | _, [] => .ok []
  | index, item :: items => do
    let asset ← normalizeAsset js index item
    let assets ← normalizeAssets (index + 1) items
    return asset :: assets

def normalizeAssetList (raw : Option Json) : Except String (List OtaAssetInput) :=
  match raw.filter isTruthy with
  | none => .ok []
  | some (.array items) => normalizeAssets js 0 items
  | some _ => .error "assets must be an array"

end Values

/-- A set of the source keeps the first place of an element. -/
def addKey (keys : List String) (key : String) : List String :=
  if key ∈ keys then keys else keys ++ [key]

def collectUpdateObjectKeys (js : JsConversions) (update : AppOtaUpdate) :
    Except String (List String) := do
  let manifest := (update.manifestKey.filter (· ≠ "")).toList
  let launch := if update.launchAssetKey = "" then [] else [update.launchAssetKey]
  let assets ← normalizeAssetList js update.assets
  return (manifest ++ launch ++ (assets.map (·.key)).filter (· ≠ "")).foldl addKey []

structure CleanupQuery where
  platform : Option AppPlatform
  channel : Option String
  runtimeVersion : Option String
  includeActive : Bool
  dryRun : Bool
  deleteDbRows : Bool
  keepLast : Nat
  limit : Nat
  olderThanDays : Nat

def readCleanup (js : JsConversions) (body : Json) : Except String CleanupQuery :=
  let includeActive := parseBoolean js (memberOf body "includeActive") false
  let dryRun := parseBoolean js (memberOf body "dryRun") true
  match parsePositiveInt js (memberOf body "keepLast") 0,
      parsePositiveInt js (memberOf body "limit") 50,
      parsePositiveInt js (memberOf body "olderThanDays") 0 with
  | some keepLast, some limit, some olderThanDays =>
    if includeActive && !dryRun then
      .error "Активные OTA нельзя удалять через cleanup. Сначала деактивируйте обновление."
    else .ok
      { platform := parsePlatform js (memberOf body "platform")
        channel := ((memberOf body "channel").filter isTruthy).map (fun raw =>
          parseChannel js (some raw))
        runtimeVersion := (textIfTruthy js (memberOf body "runtimeVersion")).map JsString.trim
        includeActive := includeActive
        dryRun := dryRun
        deleteDbRows := parseBoolean js (memberOf body "deleteDbRows") false
        keepLast := keepLast
        limit := limit
        olderThanDays := olderThanDays }
  | _, _, _ => .error "keepLast, limit и olderThanDays должны быть положительными числами"

namespace CleanupQuery
variable (query : CleanupQuery)

/-- The bound on `createdAt`, where the query has one; the outer `none` is a date that the
database does not take. -/
def createdBound (now : Int) : Option (Option Int) :=
  if 0 < query.olderThanDays then
    let time := now - query.olderThanDays * 24 * 60 * 60 * 1000
    if -8640000000000000 ≤ time then some (some time) else none
  else some none

def selects (createdBefore : Option Int) (update : AppOtaUpdate) : Bool :=
  (query.includeActive || !update.isActive) &&
  query.platform.all (· == update.platform) &&
  (query.channel.filter (· ≠ "")).all (· == update.channel) &&
  (query.runtimeVersion.filter (· ≠ "")).all (· == update.runtimeVersion) &&
  createdBefore.all (fun time => decide (update.createdAt < time))

def take : Nat := min (query.limit + query.keepLast) 200

def updates (createdBefore : Option Int) (table : OtaTable) : List AppOtaUpdate :=
  (newestFirst (·.createdAt) (table.rows.filter (query.selects createdBefore))).take query.take

def candidates (createdBefore : Option Int) (table : OtaTable) : List AppOtaUpdate :=
  (query.updates createdBefore table).drop query.keepLast

end CleanupQuery

structure OtaFile where
  updateId : String
  key : String

def updateFiles (js : JsConversions) : List AppOtaUpdate → Except String (List OtaFile)
  | [] => .ok []
  | update :: rest => do
    let keys ← collectUpdateObjectKeys js update
    let files ← updateFiles js rest
    return keys.map (⟨update.updateId, ·⟩) ++ files

structure DeleteRun where
  objects : Finset String
  deletedFiles : List OtaFile
  failedFiles : List (OtaFile × String)

def deleteFile (failure : OtaFile → Option String) (run : DeleteRun) (file : OtaFile) :
    DeleteRun :=
  match failure file with
  | none =>
    { run with
      objects := run.objects.erase file.key
      deletedFiles := run.deletedFiles ++ [file] }
  | some error => { run with failedFiles := run.failedFiles ++ [(file, error)] }

def OtaTable.deleteMany (table : OtaTable) (ids : List Nat) : OtaTable where
  rows := table.rows.filter (fun row => row.id ∉ ids)
  uniqueIds := table.uniqueIds.sublist (List.filter_sublist.map _)
  uniqueUpdateIds := table.uniqueUpdateIds.sublist (List.filter_sublist.map _)

structure CleanupReport where
  dryRun : Bool
  includeActive : Bool
  keepLast : Nat
  matchedUpdates : Nat
  cleanupUpdates : List (Nat × String)
  files : List OtaFile
  deletedFiles : List OtaFile
  failedFiles : List (OtaFile × String)
  deletedDbRows : Nat

inductive CleanupAnswer where
  | refused (status : Nat) (message : String)
  | done (report : CleanupReport) (message : String)

def cleanupFailed : CleanupAnswer := .refused 500 "Ошибка очистки OTA файлов"

section Cleanup
variable (js : JsConversions) (failure : OtaFile → Option String) (now : Int) (body : Json)
  (store : OtaStore)

def cleanup : OtaStore × CleanupAnswer :=
  match readCleanup js body with
  | .error message => (store, .refused 400 message)
  | .ok query =>
    match query.createdBound now with
    | none => (store, cleanupFailed)
    | some createdBefore =>
      let updates := query.updates createdBefore store.table
      let candidates := query.candidates createdBefore store.table
      match updateFiles js candidates with
      | .error _ => (store, cleanupFailed)
      | .ok files =>
        let run := if query.dryRun then ⟨store.objects, [], []⟩
          else files.foldl (deleteFile failure) ⟨store.objects, [], []⟩
        let table := if !query.dryRun && query.deleteDbRows && run.failedFiles.isEmpty &&
            !candidates.isEmpty
          then store.table.deleteMany (candidates.map (·.id)) else store.table
        (⟨table, run.objects⟩, .done
          { dryRun := query.dryRun
            includeActive := query.includeActive
            keepLast := query.keepLast
            matchedUpdates := updates.length
            cleanupUpdates := candidates.map (fun update => (update.id, update.updateId))
            files := files
            deletedFiles := run.deletedFiles
            failedFiles := run.failedFiles
            deletedDbRows := store.table.rows.length - table.rows.length }
          (if query.dryRun then "План очистки OTA файлов" else "Очистка OTA файлов выполнена"))

end Cleanup

section Needed
variable (js : JsConversions)

def assetKeys (raw : Option Json) : List String :=
  match raw with
  | some (.array items) => (items.map (assetKey js)).filter (· ≠ "")
  | _ => []

/-- The update needs the object: its manifest, its launch asset or one of its assets. -/
def Needs (update : AppOtaUpdate) (key : String) : Prop :=
  update.manifestKey = some key ∨ update.launchAssetKey = key ∨ key ∈ assetKeys js update.assets

def Readable (update : AppOtaUpdate) : Prop :=
  ∃ assets, normalizeAssetList js update.assets = .ok assets

structure OnPage (query : CleanupQuery) (createdBefore : Option Int) (table : OtaTable)
    (update : AppOtaUpdate) : Prop where
  listed : update ∈ table.rows
  selected : query.selects createdBefore update = true
  past : query.keepLast ≤ rank (·.createdAt) (·.id)
    (table.rows.filter (query.selects createdBefore)) update
  within : rank (·.createdAt) (·.id) (table.rows.filter (query.selects createdBefore)) update <
    query.take

variable (now : Int) (body : Json) (table : OtaTable)

def Cleaned (update : AppOtaUpdate) : Prop :=
  ∃ query createdBefore, readCleanup js body = .ok query ∧
    query.createdBound now = some createdBefore ∧ OnPage query createdBefore table update

/-- The update is active or the clean-up does not take it. -/
def KeptUpdate (update : AppOtaUpdate) : Prop :=
  update ∈ table.rows ∧ (update.isActive = true ∨ ¬Cleaned js now body table update)

structure Condemns (update : AppOtaUpdate) (key : String) : Prop where
  cleaned : Cleaned js now body table update
  carriedOut : ∀ query, readCleanup js body = .ok query → query.dryRun = false
  readable : ∀ other, Cleaned js now body table other → Readable js other
  needed : Needs js update key
  stated : key ≠ ""

end Needed

variable {key : String} {update : AppOtaUpdate} {files : List OtaFile}

section Keys
variable {js : JsConversions}

theorem normalizeAsset_key {index : Nat} {item : Json} {asset : OtaAssetInput}
    (read : normalizeAsset js index item = .ok asset) :
    asset.key = assetKey js item ∧ assetKey js item ≠ "" := by
  unfold normalizeAsset at read
  split at read
  case h_3 => cases read
  all_goals
    split at read
    · cases read
    · rename_i stated
      cases Except.ok.inj read
      exact ⟨rfl, stated⟩

theorem normalizeAssets_keys {items : List Json} {index : Nat} {assets : List OtaAssetInput}
    (read : normalizeAssets js index items = .ok assets) :
    assets.map (·.key) = (items.map (assetKey js)).filter (· ≠ "") := by
  induction items generalizing index assets with
  | nil =>
    cases Except.ok.inj read
    rfl
  | cons item items ih =>
    simp only [normalizeAssets, bind, Except.bind] at read
    cases first : normalizeAsset js index item with
    | error message => simp [first] at read
    | ok asset =>
      cases rest : normalizeAssets js (index + 1) items with
      | error message => simp [first, rest] at read
      | ok later =>
        simp only [first, rest, pure, Except.pure] at read
        cases Except.ok.inj read
        obtain ⟨same, stated⟩ := normalizeAsset_key first
        rw [List.map_cons, List.map_cons, List.filter_cons_of_pos (by simpa using stated), ih rest,
          same]

theorem normalizeAssetList_keys {raw : Option Json} {assets : List OtaAssetInput}
    (read : normalizeAssetList js raw = .ok assets) : assets.map (·.key) = assetKeys js raw := by
  unfold normalizeAssetList at read
  split at read
  · next falsy =>
    cases Except.ok.inj read
    unfold assetKeys
    split
    · simp [isTruthy] at falsy
    · rfl
  · next items listed =>
    rw [(Option.filter_eq_some_iff.mp listed).1]
    exact normalizeAssets_keys read
  · cases read

variable {keys : List String}

theorem mem_addKey {other : String} :
    other ∈ addKey keys key ↔ other ∈ keys ∨ other = key := by
  unfold addKey
  split
  · rename_i listed
    constructor
    · exact .inl
    · rintro (there | same)
      · exact there
      · exact same ▸ listed
  · simp

theorem mem_foldl_addKey {found : List String} :
    key ∈ keys.foldl addKey found ↔ key ∈ found ∨ key ∈ keys := by
  induction keys generalizing found with
  | nil => simp
  | cons first rest ih => rw [List.foldl_cons, ih, mem_addKey, List.mem_cons, or_assoc]

theorem mem_collectUpdateObjectKeys (read : collectUpdateObjectKeys js update = .ok keys)
    (key : String) :
    key ∈ keys ↔ Needs js update key ∧ key ≠ "" := by
  simp only [collectUpdateObjectKeys, bind, Except.bind] at read
  cases listed : normalizeAssetList js update.assets with
  | error message => simp [listed] at read
  | ok assets =>
    simp only [listed, pure, Except.pure] at read
    cases Except.ok.inj read
    have launch : (key ∈ if update.launchAssetKey = "" then [] else [update.launchAssetKey]) ↔
        update.launchAssetKey = key ∧ key ≠ "" := by
      split
      · rename_i empty
        simp [empty, eq_comm]
      · rename_i stated
        rw [List.mem_singleton]
        constructor
        · rintro rfl
          exact ⟨rfl, stated⟩
        · exact fun own => own.1.symm
    simp only [mem_foldl_addKey, normalizeAssetList_keys listed, List.mem_append, launch,
      Option.mem_toList, Option.filter_eq_some_iff, List.mem_filter, Needs, List.not_mem_nil,
      false_or, decide_eq_true_eq]
    tauto

theorem readable_iff :
    Readable js update ↔ ∃ keys, collectUpdateObjectKeys js update = .ok keys := by
  simp only [Readable, collectUpdateObjectKeys, bind, Except.bind]
  cases normalizeAssetList js update.assets with
  | error message => simp
  | ok assets => simp [pure, Except.pure]

end Keys

section Candidates
variable {js : JsConversions} {query : CleanupQuery} {createdBefore : Option Int}
  {table : OtaTable}

theorem mem_candidates :
    update ∈ query.candidates createdBefore table ↔ OnPage query createdBefore table update := by
  have unique : ((table.rows.filter (query.selects createdBefore)).map (·.id)).Nodup :=
    table.uniqueIds.sublist (List.filter_sublist.map _)
  rw [CleanupQuery.candidates, CleanupQuery.updates, mem_newestFirst_window unique,
    List.mem_filter]
  constructor
  · rintro ⟨⟨listed, selected⟩, past, within⟩
    exact ⟨listed, selected, past, within⟩
  · rintro ⟨listed, selected, past, within⟩
    exact ⟨⟨listed, selected⟩, past, within⟩

theorem mem_updateFiles {updates : List AppOtaUpdate} (read : updateFiles js updates = .ok files)
    (file : OtaFile) :
    file ∈ files ↔ ∃ update ∈ updates,
      update.updateId = file.updateId ∧ Needs js update file.key ∧ file.key ≠ "" := by
  induction updates generalizing files with
  | nil =>
    cases Except.ok.inj read
    simp
  | cons update rest ih =>
    simp only [updateFiles, bind, Except.bind] at read
    cases first : collectUpdateObjectKeys js update with
    | error message => simp [first] at read
    | ok keys =>
      cases later : updateFiles js rest with
      | error message => simp [first, later] at read
      | ok others =>
        simp only [first, later, pure, Except.pure] at read
        cases Except.ok.inj read
        have own : file ∈ keys.map (OtaFile.mk update.updateId) ↔
            update.updateId = file.updateId ∧ Needs js update file.key ∧ file.key ≠ "" := by
          rw [List.mem_map, ← mem_collectUpdateObjectKeys first]
          constructor
          · rintro ⟨key, listed, rfl⟩
            exact ⟨rfl, listed⟩
          · rintro ⟨same, listed⟩
            exact ⟨file.key, listed, same ▸ rfl⟩
        rw [List.mem_append, own, ih later, List.exists_mem_cons_iff]

theorem updateFiles_readable {updates : List AppOtaUpdate} :
    (∃ files, updateFiles js updates = .ok files) ↔ ∀ update ∈ updates, Readable js update := by
  induction updates with
  | nil => simp [updateFiles]
  | cons update rest ih =>
    rw [List.forall_mem_cons, ← ih, readable_iff]
    simp only [updateFiles, bind, Except.bind]
    cases collectUpdateObjectKeys js update with
    | error message => simp
    | ok keys =>
      cases updateFiles js rest with
      | error message => simp
      | ok files => simp [pure, Except.pure]

end Candidates

section Deletion
variable {failure : OtaFile → Option String}

theorem mem_deleteFile {run : DeleteRun} {file : OtaFile} :
    key ∈ (deleteFile failure run file).objects ↔
      key ∈ run.objects ∧ ¬(file.key = key ∧ failure file = none) := by
  cases outcome : failure file with
  | none =>
    simp only [deleteFile, outcome, Finset.mem_erase, and_true]
    exact ⟨fun left => ⟨left.2, fun same => left.1 same.symm⟩,
      fun left => ⟨fun same => left.2 same.symm, left.1⟩⟩
  | some error => simp [deleteFile, outcome]

theorem mem_deleteFiles {run : DeleteRun} :
    key ∈ (files.foldl (deleteFile failure) run).objects ↔
      key ∈ run.objects ∧ ∀ file ∈ files, ¬(file.key = key ∧ failure file = none) := by
  induction files generalizing run with
  | nil => simp
  | cons file files ih =>
    rw [List.foldl_cons, ih, mem_deleteFile, List.forall_mem_cons, and_assoc]

end Deletion

section Safety
variable (js : JsConversions) (failure : OtaFile → Option String) (now : Int) (body : Json)
  (store : OtaStore)

theorem cleaned_iff {query : CleanupQuery} {createdBefore : Option Int}
    (read : readCleanup js body = .ok query)
    (bound : query.createdBound now = some createdBefore) (update : AppOtaUpdate) :
    Cleaned js now body store.table update ↔
      update ∈ query.candidates createdBefore store.table := by
  rw [mem_candidates]
  constructor
  · rintro ⟨query', createdBefore', read', bound', page⟩
    cases Except.ok.inj (read.symm.trans read')
    cases Option.some.inj (bound.symm.trans bound')
    exact page
  · exact fun page => ⟨query, createdBefore, read, bound, page⟩

theorem files_spare_iff {query : CleanupQuery} {createdBefore : Option Int}
    (read : readCleanup js body = .ok query) (dry : query.dryRun = false)
    (bound : query.createdBound now = some createdBefore)
    (listed : updateFiles js (query.candidates createdBefore store.table) = .ok files)
    (key : String) :
    (∀ file ∈ files, ¬(file.key = key ∧ failure file = none)) ↔
      ∀ update, Condemns js now body store.table update key →
        failure ⟨update.updateId, key⟩ ≠ none := by
  have taken := cleaned_iff js now body store read bound
  constructor
  · intro spared update condemned fine
    have file : ⟨update.updateId, key⟩ ∈ files := (mem_updateFiles listed _).mpr
      ⟨update, (taken update).mp condemned.cleaned, rfl, condemned.needed, condemned.stated⟩
    exact spared _ file ⟨rfl, fine⟩
  · rintro fails ⟨updateId, key'⟩ member ⟨rfl, fine⟩
    obtain ⟨update, candidate, rfl, needed, stated⟩ := (mem_updateFiles listed _).mp member
    have readable := updateFiles_readable.mp ⟨files, listed⟩
    refine fails update ?_ fine
    exact
      { cleaned := (taken update).mpr candidate
        carriedOut := fun query' accepted => by
          cases Except.ok.inj (read.symm.trans accepted)
          exact dry
        readable := fun other own => readable other ((taken other).mp own)
        needed := needed
        stated := stated }

theorem mem_cleanup_objects (key : String) :
    key ∈ (cleanup js failure now body store).1.objects ↔
      key ∈ store.objects ∧ ∀ update, Condemns js now body store.table update key →
        failure ⟨update.updateId, key⟩ ≠ none := by
  have untouched (spared : ∀ update, ¬Condemns js now body store.table update key) :
      key ∈ store.objects ↔ key ∈ store.objects ∧ ∀ update,
        Condemns js now body store.table update key → failure ⟨update.updateId, key⟩ ≠ none :=
    ⟨fun there => ⟨there, fun update condemned => absurd condemned (spared update)⟩, And.left⟩
  unfold cleanup
  cases read : readCleanup js body with
  | error message =>
    refine untouched (fun update condemned => ?_)
    obtain ⟨query, _, accepted, _⟩ := condemned.cleaned
    cases read.symm.trans accepted
  | ok query =>
    cases bound : query.createdBound now with
    | none =>
      simp only [bound]
      refine untouched (fun update condemned => ?_)
      obtain ⟨query', _, accepted, bound', _⟩ := condemned.cleaned
      cases Except.ok.inj (read.symm.trans accepted)
      cases bound.symm.trans bound'
    | some createdBefore =>
      cases listed : updateFiles js (query.candidates createdBefore store.table) with
      | error message =>
        simp only [bound, listed]
        refine untouched (fun update condemned => ?_)
        obtain ⟨files, found⟩ := updateFiles_readable.mpr (fun other member =>
          condemned.readable other ((cleaned_iff js now body store read bound other).mpr member))
        cases listed.symm.trans found
      | ok files =>
        cases dry : query.dryRun with
        | true =>
          simp only [bound, listed, dry, if_true]
          refine untouched (fun update condemned => ?_)
          cases dry.symm.trans (condemned.carriedOut query read)
        | false =>
          simp only [bound, listed, dry, if_neg Bool.false_ne_true, mem_deleteFiles]
          exact and_congr_right fun _ =>
            files_spare_iff js failure now body store read dry bound listed key

/-- A clean-up leaves every kept update its objects exactly when it deletes none that a kept
update needs: an object in storage, of an update that it takes, whose deletion does not fail. -/
theorem cleanup_keeps_needed_iff :
    (∀ update, KeptUpdate js now body store.table update → ∀ key, Needs js update key →
      key ∈ store.objects → key ∈ (cleanup js failure now body store).1.objects) ↔
    ∀ update key, Condemns js now body store.table update key →
      failure ⟨update.updateId, key⟩ = none → key ∈ store.objects →
      ∀ other, KeptUpdate js now body store.table other → ¬Needs js other key := by
  constructor
  · intro safe update key condemned fine there other kept needs
    have left := safe other kept key needs there
    exact ((mem_cleanup_objects js failure now body store key).mp left).2 update condemned fine
  · intro spared update kept key needs there
    rw [mem_cleanup_objects]
    exact ⟨there, fun other condemned fine =>
      spared other key condemned fine there update kept needs⟩

end Safety

namespace OtaSample

def iconAsset : Json := .array [.object [("key", .string "ota/icon.png")]]

def retired : AppOtaUpdate where
  id := 1
  platform := .android
  channel := "prod"
  runtimeVersion := "1.0"
  updateId := "u1"
  manifestKey := none
  launchAssetKey := "ota/1.js"
  assets := some iconAsset
  isActive := false
  createdAt := 1

def current : AppOtaUpdate :=
  { retired with id := 2, updateId := "u2", launchAssetKey := "ota/2.js", isActive := true
                 createdAt := 2 }

def store : OtaStore where
  table := ⟨[retired, current], by decide, by decide⟩
  objects := {"ota/1.js", "ota/2.js", "ota/icon.png"}

def conversions : JsConversions := .ofTexts

end OtaSample

open OtaSample in
/-- The clean-up of the retired bundle takes the icon of the current one away. -/
theorem cleanup_deletes_shared_asset :
    ¬∀ update, KeptUpdate conversions 10 (.object [("dryRun", .bool false)]) store.table update →
      ∀ key, Needs conversions update key → key ∈ store.objects →
        key ∈ (cleanup conversions (fun _ => none) 10 (.object [("dryRun", .bool false)])
          store).1.objects := by
  intro safe
  have needs : Needs conversions current "ota/icon.png" := .inr (.inr (by decide +kernel))
  have left := safe current ⟨by simp [store], .inl rfl⟩ "ota/icon.png" needs (by decide)
  have gone : "ota/icon.png" ∉ (cleanup conversions (fun _ => none) 10
      (.object [("dryRun", .bool false)]) store).1.objects := by decide +kernel
  exact gone left

end LeaderProduct
