import Mathlib.Data.List.Basic
import LeaderProduct.KeyedTotals

/-! The images of products. 1C lists its files page by page, and every file is brought into a table
that has a row for each content the file has had. -/
namespace LeaderProduct
open RowTable

structure HexDigest where
  text : String
  hexadecimal : ∀ c ∈ text.toList, c.isDigit ∨ c ∈ ['a', 'b', 'c', 'd', 'e', 'f']

inductive ProductImageSyncState where
  | pending
  | synced
  | error
  | deleted
  deriving DecidableEq, Repr

structure ProductImage where
  productGuid : String
  fileGuid : String
  isMain : Bool
  hashSha256 : String
  modifiedAt1c : Option Int
  syncedAt : Int
  deletedAt : Option Int
  syncState : ProductImageSyncState
  lastError : Option String
  deriving DecidableEq, Repr

namespace ProductImage

def key (row : ProductImage) : String × String := (row.fileGuid, row.hashSha256)

def isLive (row : ProductImage) : Bool :=
  decide (row.syncState = .synced) && row.deletedAt.isNone

end ProductImage

structure OnecProductImageMetadata where
  productGuid : String
  fileGuid : String
  modifiedAt : Option Int
  isMain : Bool
  deletionMark : Bool

structure OnecImage (Buffer : Type) where
  metadata : OnecProductImageMetadata
  body : Buffer

inductive OnecFault where
  | config (message : String)
  | network (message : String)
  | http (upstreamStatus : Nat) (message : String)
  | other (message : String)

namespace OnecFault

def message : OnecFault → String
  | .config message | .network message | .http _ message | .other message => message

def onecImageErrorMessage : OnecFault → String
  | .config message => "1C image sync config error: " ++ message
  | .network message => "1C image sync network error: " ++ message
  | .http upstreamStatus message =>
      "1C image sync HTTP " ++ toString upstreamStatus ++ ": " ++ message
  | .other message => message

end OnecFault

inductive SyncImageStep where
  | markDeleted
  | readError
  | download
  | readRow
  | buildDerivatives
  | upload
  | write
  deriving DecidableEq, Repr

/-- What becomes of one image in a run: the clock, the step that throws when it is reached, after
its retries, and whether the error can be recorded. -/
structure ImageAttempt where
  now : Int
  fails : Option (SyncImageStep × OnecFault)
  markFails : Bool

def ImageAttempt.reach (attempt : ImageAttempt) (step : SyncImageStep) : Except OnecFault Unit :=
  match attempt.fails with
  | some (failing, fault) => if failing = step then .error fault else .ok ()
  | none => .ok ()

inductive SyncOutcome where
  | uploaded
  | skipped
  | deleted

def errorHash (fileGuid : String) : String := "error:" ++ fileGuid

def sameDate : Option Int → Option Int → Bool
  | none, none => true
  | some left, some right => decide ((left - right).natAbs < 1000)
  | _, _ => false

def markImageError (rows : List ProductImage) (metadata : OnecProductImageMetadata)
    (attempt : ImageAttempt) (fault : OnecFault) : List ProductImage :=
  if attempt.markFails then rows
  else
    upsert ProductImage.key rows (metadata.fileGuid, errorHash metadata.fileGuid) fun
      | none =>
        { productGuid := metadata.productGuid
          fileGuid := metadata.fileGuid
          isMain := false
          hashSha256 := errorHash metadata.fileGuid
          modifiedAt1c := metadata.modifiedAt
          syncedAt := attempt.now
          deletedAt := none
          syncState := .error
          lastError := some fault.message }
      | some row =>
        { row with
          productGuid := metadata.productGuid
          fileGuid := metadata.fileGuid
          hashSha256 := errorHash metadata.fileGuid
          modifiedAt1c := metadata.modifiedAt
          syncState := .error
          lastError := some fault.message
          syncedAt := attempt.now }

/-- The answer of `shouldSkipRecentImageError`, where its query does not throw. -/
def recentImageError (retryMs : Nat) (rows : List ProductImage)
    (metadata : OnecProductImageMetadata) (now : Int) : Bool :=
  if retryMs = 0 then false
  else
    match lookup ProductImage.key rows (metadata.fileGuid, errorHash metadata.fileGuid) with
    | none => false
    | some existingError =>
      if existingError.deletedAt.isSome || decide (existingError.syncState ≠ .error) then false
      else if !sameDate existingError.modifiedAt1c metadata.modifiedAt then false
      else decide (now - existingError.syncedAt < retryMs)

def shouldSkipRecentImageError (retryMs : Nat) (rows : List ProductImage)
    (metadata : OnecProductImageMetadata) (attempt : ImageAttempt) : Except OnecFault Bool := do
  if retryMs = 0 then return false
  attempt.reach .readError
  return recentImageError retryMs rows metadata attempt.now

def markImagesDeleted (rows : List ProductImage) (metadata : OnecProductImageMetadata)
    (now : Int) : List ProductImage :=
  rows.map fun row =>
    if row.productGuid = metadata.productGuid ∧ row.fileGuid = metadata.fileGuid ∧
        row.deletedAt = none then
      { row with deletedAt := some now, syncState := .deleted }
    else row

def retireOtherHashes (rows : List ProductImage) (fileGuid hash : String) (now : Int) :
    List ProductImage :=
  rows.map fun row =>
    if row.fileGuid = fileGuid ∧ row.hashSha256 ≠ hash ∧ row.deletedAt = none then
      { row with deletedAt := some now, syncState := .deleted }
    else row

def syncedRow (metadata : OnecProductImageMetadata) (hash : String) (now : Int) : ProductImage :=
  { productGuid := metadata.productGuid
    fileGuid := metadata.fileGuid
    isMain := metadata.isMain
    hashSha256 := hash
    modifiedAt1c := metadata.modifiedAt
    syncedAt := now
    deletedAt := none
    syncState := .synced
    lastError := none }

def writeImage (rows : List ProductImage) (metadata : OnecProductImageMetadata) (hash : String)
    (now : Int) : List ProductImage :=
  upsert ProductImage.key (retireOtherHashes rows metadata.fileGuid hash now)
    (metadata.fileGuid, hash) (fun _ => syncedRow metadata hash now)

section Sync
variable {Buffer : Type} (sha256 : Buffer → HexDigest)

def syncImage (retryMs : Nat) (rows : List ProductImage) (image : OnecImage Buffer)
    (attempt : ImageAttempt) : Except OnecFault (SyncOutcome × List ProductImage) := do
  if image.metadata.deletionMark then
    attempt.reach .markDeleted
    return (.deleted, markImagesDeleted rows image.metadata attempt.now)
  if ← shouldSkipRecentImageError retryMs rows image.metadata attempt then
    return (.skipped, rows)
  attempt.reach .download
  let hash := (sha256 image.body).text
  attempt.reach .readRow
  if (lookup ProductImage.key rows (image.metadata.fileGuid, hash)).any ProductImage.isLive then
    return (.skipped, rows)
  attempt.reach .buildDerivatives
  attempt.reach .upload
  attempt.reach .write
  return (.uploaded, writeImage rows image.metadata hash attempt.now)

structure SyncStats where
  requested : Nat
  uploaded : Nat
  skipped : Nat
  deleted : Nat
  failed : Nat
  errors : List String

def SyncStats.empty : SyncStats := ⟨0, 0, 0, 0, 0, []⟩

def SyncStats.record (stats : SyncStats) (metadata : OnecProductImageMetadata) :
    Except OnecFault SyncOutcome → SyncStats
  | .ok .uploaded => { stats with uploaded := stats.uploaded + 1 }
  | .ok .deleted => { stats with deleted := stats.deleted + 1 }
  | .ok .skipped => { stats with skipped := stats.skipped + 1 }
  | .error fault =>
      { stats with
        failed := stats.failed + 1
        errors := stats.errors ++
          [metadata.productGuid ++ "/" ++ metadata.fileGuid ++ ": " ++
            fault.onecImageErrorMessage] }

structure SyncSetting where
  retryMs : Nat
  attempt : String → ImageAttempt

def syncItem (setting : SyncSetting) (before : SyncStats × List ProductImage)
    (image : OnecImage Buffer) : SyncStats × List ProductImage :=
  let attempt := setting.attempt image.metadata.fileGuid
  match syncImage sha256 setting.retryMs before.2 image attempt with
  | .ok (outcome, rows) => (before.1.record image.metadata (.ok outcome), rows)
  | .error fault =>
      (before.1.record image.metadata (.error fault),
        markImageError before.2 image.metadata attempt fault)

structure ImagePage (Buffer : Type) where
  items : List (OnecImage Buffer)
  hasMore : Bool

def syncPages (setting : SyncSetting) (serve : Nat → Nat → Except OnecFault (ImagePage Buffer))
    (oneProduct : Bool) (limit : Nat) : Nat → Nat → SyncStats × List ProductImage →
    Option (Except OnecFault SyncStats × List ProductImage)
  | 0, _, _ => none
  | fuel + 1, offset, before =>
    match serve limit offset with
    | .error fault => some (.error fault, before.2)
    | .ok page =>
      let stats := { before.1 with requested := before.1.requested + page.items.length }
      let done := page.items.foldl (syncItem sha256 setting) (stats, before.2)
      if !page.hasMore || oneProduct then some (.ok done.1, done.2)
      else syncPages setting serve oneProduct limit fuel (offset + limit) done

structure SyncParams where
  productGuid : Option String
  limit : Option Int
  offset : Option Int

def SyncParams.pageLimit (params : SyncParams) : Nat :=
  (min (max ((params.limit.filter (fun limit => limit ≠ 0)).getD 50) 1) 200).toNat

def SyncParams.firstOffset (params : SyncParams) : Nat := (max (params.offset.getD 0) 0).toNat

def syncProductImages (setting : SyncSetting)
    (serve : Nat → Nat → Except OnecFault (ImagePage Buffer)) (params : SyncParams) (fuel : Nat)
    (rows : List ProductImage) : Option (Except OnecFault SyncStats × List ProductImage) :=
  syncPages sha256 setting serve (params.productGuid.any (fun guid => guid ≠ "")) params.pageLimit
    fuel params.firstOffset (.empty, rows)

end Sync

end LeaderProduct
