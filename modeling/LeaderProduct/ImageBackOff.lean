import LeaderProduct.ProductImageConvergence
import LeaderProduct.Transition

/-! The wait after a failed image. It is kept in a row of its own, which a later success marks as
deleted and a later failure writes over as it stands, so that the next wait is not kept. -/
namespace LeaderProduct
open RowTable ProductImage Transition

section Code

structure ImageIdentity where
  productGuid : String
  fileGuid : String
  modifiedAt : Option Int
  deriving DecidableEq

structure ImageTurn (Buffer : Type) (identity : ImageIdentity) where
  elapsed : Nat
  image : OnecImage Buffer
  fails : Option (SyncImageStep × OnecFault)
  markFails : Bool
  unchanged : image.metadata.fileGuid = identity.fileGuid →
    image.metadata.productGuid = identity.productGuid ∧
      image.metadata.modifiedAt = identity.modifiedAt

structure ImageHistory where
  rows : List ProductImage
  clock : Int
  failures : List Int

variable {Buffer : Type} (sha256 : Buffer → HexDigest) (retryMs : Nat) {identity : ImageIdentity}

def ImageTurn.attempt (turn : ImageTurn Buffer identity) (s : ImageHistory) : ImageAttempt :=
  ⟨s.clock + turn.elapsed, turn.fails, turn.markFails⟩

def imageStep (s : ImageHistory) (turn : ImageTurn Buffer identity) : ImageHistory :=
  let attempt := turn.attempt s
  let after := syncItem sha256 ⟨retryMs, fun _ => attempt⟩ (.empty, s.rows) turn.image
  { rows := after.2
    clock := attempt.now
    failures := if turn.image.metadata.fileGuid = identity.fileGuid ∧ after.1.failed ≠ 0 ∧
        turn.markFails = false then attempt.now :: s.failures else s.failures }

def fetches (rows : List ProductImage) (metadata : OnecProductImageMetadata)
    (attempt : ImageAttempt) : Bool :=
  !metadata.deletionMark && match shouldSkipRecentImageError retryMs rows metadata attempt with
    | .ok skips => !skips
    | .error _ => false

end Code

section Property
variable {Buffer : Type} (sha256 : Buffer → HexDigest) (retryMs : Nat) (identity : ImageIdentity)

/-- No attempt from now on, within the window of a recorded failure, would fetch the image. -/
def HoldsBack (s : ImageHistory) : Prop :=
  ∀ (metadata : OnecProductImageMetadata) (attempt : ImageAttempt),
    metadata.productGuid = identity.productGuid → metadata.fileGuid = identity.fileGuid →
    metadata.modifiedAt = identity.modifiedAt → s.clock ≤ attempt.now →
    (∃ t ∈ s.failures, attempt.now < t + retryMs) → fetches retryMs s.rows metadata attempt = false

def errorRow (rows : List ProductImage) : Option ProductImage :=
  lookup key rows (identity.fileGuid, errorHash identity.fileGuid)

structure ErrorRowKept (s : ImageHistory) : Prop where
  past : ∀ t ∈ s.failures, t ≤ s.clock
  row : s.failures ≠ [] → ∃ row, errorRow identity s.rows = some row ∧
    row.productGuid = identity.productGuid ∧ row.modifiedAt1c = identity.modifiedAt ∧
    (∀ t ∈ s.failures, t ≤ row.syncedAt) ∧ (row.deletedAt = none → row.syncState = .error)

def Effective (s : ImageHistory) : Prop :=
  (∃ t ∈ s.failures, s.clock < t + retryMs) →
    ∃ row, errorRow identity s.rows = some row ∧ row.deletedAt = none

variable {identity}

/-- A recorded failure finds no error row that is marked as deleted, and the image is not marked as
deleted within the window of a failure. -/
def KeepsBackOff (s : ImageHistory) (turn : ImageTurn Buffer identity) : Prop :=
  turn.image.metadata.fileGuid = identity.fileGuid → 0 < retryMs →
    match syncImage sha256 retryMs s.rows turn.image (turn.attempt s) with
    | .error _ => turn.markFails = false →
      ∀ row, errorRow identity s.rows = some row → row.deletedAt = none
    | .ok (.deleted, _) => ∀ t ∈ s.failures, t + retryMs ≤ s.clock + turn.elapsed
    | .ok _ => True

end Property

variable {after : List ProductImage}

section Rows
variable {Buffer : Type} {sha256 : Buffer → HexDigest} {retryMs : Nat} {identity : ImageIdentity}
  {s : ImageHistory} {rows : List ProductImage}

theorem sameDate_self (date : Option Int) : sameDate date date = true := by
  cases date with
  | none => rfl
  | some date => simp [sameDate]

theorem syncImage_inv {image : OnecImage Buffer} {attempt : ImageAttempt} {outcome : SyncOutcome}
    (done : syncImage sha256 retryMs rows image attempt = .ok (outcome, after)) :
    (outcome = .deleted ∧ after = markImagesDeleted rows image.metadata attempt.now) ∨
    (outcome = .skipped ∧ after = rows) ∨
    (outcome = .uploaded ∧ fetches retryMs rows image.metadata attempt = true ∧
      after = writeImage rows image.metadata (sha256 image.body).text attempt.now) := by
  unfold syncImage at done
  by_cases marked : image.metadata.deletionMark
  · rw [if_pos marked] at done
    obtain ⟨_, _, deleted⟩ := (except_bind_ok _ _ _).mp done
    cases deleted
    exact .inl ⟨rfl, rfl⟩
  · rw [if_neg marked] at done
    obtain ⟨skips, asked, done⟩ := (except_bind_ok _ _ _).mp done
    cases skips with
    | true =>
      cases done
      exact .inr (.inl ⟨rfl, rfl⟩)
    | false =>
      have fetched : fetches retryMs rows image.metadata attempt = true := by
        simp [fetches, marked, asked]
      obtain ⟨_, _, done⟩ := (except_bind_ok _ _ _).mp done
      obtain ⟨_, _, done⟩ := (except_bind_ok _ _ _).mp done
      split at done
      · cases done
        exact .inr (.inl ⟨rfl, rfl⟩)
      · obtain ⟨_, _, done⟩ := (except_bind_ok _ _ _).mp done
        obtain ⟨_, _, done⟩ := (except_bind_ok _ _ _).mp done
        obtain ⟨_, _, done⟩ := (except_bind_ok _ _ _).mp done
        cases done
        exact .inr (.inr ⟨rfl, fetched, rfl⟩)

variable {metadata : OnecProductImageMetadata}

theorem recentImageError_iff {row : ProductImage} {now : Int}
    (file : metadata.fileGuid = identity.fileGuid) (found : errorRow identity rows = some row)
    (same : row.modifiedAt1c = metadata.modifiedAt)
    (state : row.deletedAt = none → row.syncState = .error) :
    recentImageError retryMs rows metadata now = true ↔
      0 < retryMs ∧ row.deletedAt = none ∧ now - row.syncedAt < retryMs := by
  have there : lookup key rows (metadata.fileGuid, errorHash metadata.fileGuid) = some row := by
    rw [file]; exact found
  unfold recentImageError
  by_cases never : retryMs = 0
  · simp [never]
  · rw [if_neg never, there]
    dsimp only
    rw [same, sameDate_self]
    cases removed : row.deletedAt with
    | none => simp [state removed, Nat.pos_of_ne_zero never]
    | some time => simp

theorem holdsBack_iff (kept : ErrorRowKept identity s) :
    HoldsBack retryMs identity s ↔ Effective retryMs identity s := by
  constructor
  · rintro holds ⟨t, listed, late⟩
    obtain ⟨row, found, -, same, -, state⟩ := kept.row (List.ne_nil_of_mem listed)
    let metadata : OnecProductImageMetadata :=
      ⟨identity.productGuid, identity.fileGuid, identity.modifiedAt, false, false⟩
    have skipped := holds metadata ⟨s.clock, none, false⟩ rfl rfl rfl (Int.le_refl s.clock)
      ⟨t, listed, late⟩
    have recent : recentImageError retryMs s.rows metadata s.clock = true := by
      unfold fetches shouldSkipRecentImageError at skipped
      by_cases never : retryMs = 0
      · rw [if_pos never] at skipped
        cases skipped
      · rw [if_neg never] at skipped
        simpa [ImageAttempt.reach, metadata] using skipped
    exact ⟨row, found, ((recentImageError_iff rfl found same state).mp recent).2.1⟩
  · rintro effective metadata attempt - file modified later ⟨t, listed, within⟩
    have past := kept.past t listed
    obtain ⟨row, found, -, same, last, state⟩ := kept.row (List.ne_nil_of_mem listed)
    obtain ⟨other, again, undeleted⟩ := effective ⟨t, listed, by omega⟩
    cases found.symm.trans again
    have recent : recentImageError retryMs s.rows metadata attempt.now = true := by
      refine (recentImageError_iff file found (same.trans modified.symm) state).mpr
        ⟨by omega, undeleted, ?_⟩
      have := last t listed
      omega
    unfold fetches
    cases asked : shouldSkipRecentImageError retryMs s.rows metadata attempt with
    | error fault => exact Bool.and_false _
    | ok skips =>
      rw [shouldSkipRecentImageError_ok asked, recent]
      exact Bool.and_false _

theorem errorRow_markImagesDeleted (now : Int) :
    errorRow identity (markImagesDeleted rows metadata now) =
      (errorRow identity rows).map (fun row =>
        if row.productGuid = metadata.productGuid ∧ row.fileGuid = metadata.fileGuid ∧
            row.deletedAt = none then
          { row with deletedAt := some now, syncState := .deleted } else row) :=
  lookup_map (fun row => by split <;> rfl) rows _

theorem errorRow_writeImage (digest : HexDigest) (now : Int) :
    errorRow identity (writeImage rows metadata digest.text now) =
      (errorRow identity rows).map (fun row =>
        if row.fileGuid = metadata.fileGuid ∧ row.hashSha256 ≠ digest.text ∧ row.deletedAt = none then
          { row with deletedAt := some now, syncState := .deleted } else row) := by
  have other : (identity.fileGuid, errorHash identity.fileGuid) ≠ (metadata.fileGuid, digest.text) := by
    intro same
    exact HexDigest.ne_errorHash digest identity.fileGuid (congrArg Prod.snd same).symm
  have own (_ : Option ProductImage) :
      key (syncedRow metadata digest.text now) = (metadata.fileGuid, digest.text) := rfl
  rw [errorRow, writeImage, lookup_upsert own, if_neg other]
  exact lookup_map (fun row => by split <;> rfl) rows _

theorem errorRow_of_fileRows
    (same : fileRows after identity.fileGuid = fileRows rows identity.fileGuid) :
    errorRow identity after = errorRow identity rows := by
  rw [errorRow, errorRow, ← lookup_fileRows, same, lookup_fileRows]

theorem errorRow_markImageError (rows : List ProductImage) {attempt : ImageAttempt}
    (file : metadata.fileGuid = identity.fileGuid) (recorded : attempt.markFails = false)
    (fault : OnecFault) :
    ∃ row, errorRow identity (markImageError rows metadata attempt fault) = some row ∧
      row.productGuid = metadata.productGuid ∧ row.modifiedAt1c = metadata.modifiedAt ∧
      row.syncedAt = attempt.now ∧ row.syncState = .error ∧
      row.deletedAt = (errorRow identity rows).bind (·.deletedAt) := by
  unfold markImageError errorRow
  rw [recorded, if_neg Bool.false_ne_true, lookup_upsert (fun row => by cases row <;> rfl), file,
    if_pos rfl]
  refine ⟨_, rfl, ?_⟩
  cases lookup key rows (identity.fileGuid, errorHash identity.fileGuid) with
  | none => exact ⟨rfl, rfl, rfl, rfl, rfl⟩
  | some row => exact ⟨rfl, rfl, rfl, rfl, rfl⟩

end Rows

section Turns
variable {Buffer : Type} {sha256 : Buffer → HexDigest} {retryMs : Nat} {identity : ImageIdentity}
  {s s' : ImageHistory} {turn : ImageTurn Buffer identity}

theorem imageStep_ok {outcome : SyncOutcome}
    (done : syncImage sha256 retryMs s.rows turn.image (turn.attempt s) = .ok (outcome, after)) :
    imageStep sha256 retryMs s turn = ⟨after, s.clock + turn.elapsed, s.failures⟩ := by
  have item : syncItem sha256 ⟨retryMs, fun _ => turn.attempt s⟩ (.empty, s.rows) turn.image =
      (SyncStats.empty.record turn.image.metadata (.ok outcome), after) := by
    rw [syncItem, done]
  unfold imageStep
  dsimp only
  rw [item]
  cases outcome <;> simp [SyncStats.record, SyncStats.empty, ImageTurn.attempt]

theorem imageStep_error {fault : OnecFault}
    (failed : syncImage sha256 retryMs s.rows turn.image (turn.attempt s) = .error fault) :
    imageStep sha256 retryMs s turn =
      ⟨markImageError s.rows turn.image.metadata (turn.attempt s) fault, s.clock + turn.elapsed,
        if turn.image.metadata.fileGuid = identity.fileGuid ∧ turn.markFails = false then
          (s.clock + turn.elapsed) :: s.failures else s.failures⟩ := by
  have item : syncItem sha256 ⟨retryMs, fun _ => turn.attempt s⟩ (.empty, s.rows) turn.image =
      (SyncStats.empty.record turn.image.metadata (.error fault),
        markImageError s.rows turn.image.metadata (turn.attempt s) fault) := by
    rw [syncItem, failed]
  unfold imageStep
  dsimp only
  rw [item]
  simp [SyncStats.record, SyncStats.empty, ImageTurn.attempt]

theorem ErrorRowKept.changed {change : ProductImage → ProductImage} (kept : ErrorRowKept identity s)
    (clock : s.clock ≤ s'.clock) (failures : s'.failures = s.failures)
    (rows : errorRow identity s'.rows = (errorRow identity s.rows).map change)
    (marks : ∀ row, (change row).productGuid = row.productGuid ∧
      (change row).modifiedAt1c = row.modifiedAt1c ∧ (change row).syncedAt = row.syncedAt ∧
      ((change row).deletedAt = none → change row = row)) : ErrorRowKept identity s' := by
  constructor
  · intro t listed
    rw [failures] at listed
    exact Int.le_trans (kept.past t listed) clock
  · intro some_failure
    rw [failures] at some_failure ⊢
    obtain ⟨row, found, product, modified, last, state⟩ := kept.row some_failure
    obtain ⟨sameProduct, sameModified, sameTime, same⟩ := marks row
    refine ⟨change row, by rw [rows, found, Option.map_some], sameProduct.trans product,
      sameModified.trans modified, fun t listed => sameTime ▸ last t listed, fun undeleted => ?_⟩
    have unchanged := same undeleted
    rw [unchanged] at undeleted ⊢
    exact state undeleted

theorem marked_only (p : ProductImage → Prop) [DecidablePred p] (now : Int) (row : ProductImage) :
    let after := if p row then { row with deletedAt := some now, syncState := .deleted } else row
    after.productGuid = row.productGuid ∧ after.modifiedAt1c = row.modifiedAt1c ∧
      after.syncedAt = row.syncedAt ∧ (after.deletedAt = none → after = row) := by
  dsimp only
  split
  · exact ⟨rfl, rfl, rfl, fun wrong => nomatch wrong⟩
  · exact ⟨rfl, rfl, rfl, fun _ => rfl⟩

theorem ErrorRowKept.quiet (kept : ErrorRowKept identity s) (clock : s.clock ≤ s'.clock)
    (failures : s'.failures = s.failures)
    (rows : errorRow identity s'.rows = errorRow identity s.rows) :
    ErrorRowKept identity s' := by
  have as_change : errorRow identity s'.rows = (errorRow identity s.rows).map id := by
    rw [rows, Option.map_id, id]
  exact kept.changed clock failures as_change (fun _ => ⟨rfl, rfl, rfl, fun _ => rfl⟩)

theorem Effective.quiet (effective : Effective retryMs identity s) (clock : s.clock ≤ s'.clock)
    (failures : s'.failures = s.failures)
    (rows : errorRow identity s'.rows = errorRow identity s.rows) :
    Effective retryMs identity s' := by
  rintro ⟨t, listed, late⟩
  rw [failures] at listed
  rw [rows]
  exact effective ⟨t, listed, by omega⟩

theorem imageStep_other (other : turn.image.metadata.fileGuid ≠ identity.fileGuid) :
    (imageStep sha256 retryMs s turn).failures = s.failures ∧
      errorRow identity (imageStep sha256 retryMs s turn).rows = errorRow identity s.rows := by
  constructor
  · unfold imageStep
    exact if_neg fun own => other own.1
  · exact errorRow_of_fileRows (fileRows_syncItem sha256 _ _ other)

theorem ErrorRowKept.step (kept : ErrorRowKept identity s) (turn : ImageTurn Buffer identity) :
    ErrorRowKept identity (imageStep sha256 retryMs s turn) := by
  have later : s.clock ≤ s.clock + turn.elapsed := by omega
  by_cases own : turn.image.metadata.fileGuid = identity.fileGuid
  · cases done : syncImage sha256 retryMs s.rows turn.image (turn.attempt s) with
    | ok result =>
      obtain ⟨outcome, after⟩ := result
      rw [imageStep_ok done]
      rcases syncImage_inv done with ⟨-, rfl⟩ | ⟨-, rfl⟩ | ⟨-, -, rfl⟩
      · exact kept.changed later rfl (errorRow_markImagesDeleted _) (marked_only _ _)
      · exact kept.quiet later rfl rfl
      · exact kept.changed later rfl (errorRow_writeImage _ _) (marked_only _ _)
    | error fault =>
      rw [imageStep_error done]
      cases unmarked : turn.markFails with
      | true =>
        refine kept.quiet later (if_neg fun recorded => nomatch recorded.2) ?_
        rw [markImageError, ImageTurn.attempt, unmarked, if_pos rfl]
      | false =>
        obtain ⟨row, found, product, modified, time, state, -⟩ := errorRow_markImageError s.rows own
          (show (turn.attempt s).markFails = false from unmarked) fault
        obtain ⟨sameProduct, sameModified⟩ := turn.unchanged own
        have past : ∀ t ∈ (s.clock + turn.elapsed) :: s.failures, t ≤ s.clock + turn.elapsed :=
          List.forall_mem_cons.mpr
            ⟨Int.le_refl _, fun t listed => Int.le_trans (kept.past t listed) later⟩
        rw [if_pos ⟨own, rfl⟩]
        exact ⟨past, fun _ => ⟨row, found, product.trans sameProduct, modified.trans sameModified,
          time ▸ past, fun _ => state⟩⟩
  · exact kept.quiet later (imageStep_other own).1 (imageStep_other own).2

theorem deleted_effective_iff (kept : ErrorRowKept identity s)
    (own : turn.image.metadata.fileGuid = identity.fileGuid) (now : Int) :
    Effective retryMs identity
        ⟨markImagesDeleted s.rows turn.image.metadata now, s.clock + turn.elapsed, s.failures⟩ ↔
      ∀ t ∈ s.failures, t + retryMs ≤ s.clock + turn.elapsed := by
  constructor
  · intro after t listed
    by_contra open_still
    obtain ⟨row, found, undeleted⟩ := after ⟨t, listed, Int.not_le.mp open_still⟩
    rw [errorRow_markImagesDeleted] at found
    obtain ⟨old, known, rfl⟩ := Option.map_eq_some_iff.mp found
    obtain ⟨_, again, product, -⟩ := kept.row (List.ne_nil_of_mem listed)
    cases known.symm.trans again
    have file : old.fileGuid = identity.fileGuid := congrArg Prod.fst (key_of_lookup known)
    split at undeleted
    · cases undeleted
    · next unmarked =>
      exact unmarked ⟨product.trans (turn.unchanged own).1.symm, file.trans own.symm, undeleted⟩
  · rintro closed ⟨t, listed, late⟩
    exact absurd late (Int.not_lt.mpr (closed t listed))

/-- A recorded failure opens a window just when it finds no error row that is marked as deleted. -/
theorem recorded_effective_iff (own : turn.image.metadata.fileGuid = identity.fileGuid)
    (recorded : (turn.attempt s).markFails = false) (positive : 0 < retryMs) (fault : OnecFault) :
    Effective retryMs identity
        ⟨markImageError s.rows turn.image.metadata (turn.attempt s) fault, s.clock + turn.elapsed,
          (s.clock + turn.elapsed) :: s.failures⟩ ↔
      ∀ row, errorRow identity s.rows = some row → row.deletedAt = none := by
  obtain ⟨row, found, -, -, -, -, removed⟩ := errorRow_markImageError s.rows own recorded fault
  constructor
  · intro after old known
    obtain ⟨new, again, undeleted⟩ :=
      after ⟨s.clock + turn.elapsed, List.mem_cons_self, by dsimp only; omega⟩
    cases found.symm.trans again
    rwa [removed, known] at undeleted
  · intro unmarked _
    refine ⟨row, found, ?_⟩
    rw [removed]
    cases known : errorRow identity s.rows with
    | none => rfl
    | some old => exact unmarked old known

theorem effective_of_no_wait (kept : ErrorRowKept identity s) : Effective 0 identity s := by
  rintro ⟨t, listed, late⟩
  have past := kept.past t listed
  omega

theorem imageStep_effective_iff (kept : ErrorRowKept identity s)
    (effective : Effective retryMs identity s) (turn : ImageTurn Buffer identity) :
    Effective retryMs identity (imageStep sha256 retryMs s turn) ↔
      KeepsBackOff sha256 retryMs s turn := by
  have later : s.clock ≤ s.clock + turn.elapsed := by omega
  by_cases own : turn.image.metadata.fileGuid = identity.fileGuid
  · by_cases never : retryMs = 0
    · subst never
      exact iff_of_true (effective_of_no_wait (kept.step turn))
        (fun _ some_wait => absurd some_wait (Nat.lt_irrefl 0))
    have positive : 0 < retryMs := Nat.pos_of_ne_zero never
    cases done : syncImage sha256 retryMs s.rows turn.image (turn.attempt s) with
    | ok result =>
      obtain ⟨outcome, after⟩ := result
      rw [imageStep_ok done, KeepsBackOff, done]
      rcases syncImage_inv done with ⟨rfl, rfl⟩ | ⟨rfl, rfl⟩ | ⟨rfl, fetched, rfl⟩
      · rw [deleted_effective_iff kept own]
        exact ⟨fun closed _ _ => closed, fun closed => closed own positive⟩
      · exact iff_of_true (effective.quiet later rfl rfl) (fun _ _ => trivial)
      · -- it has come to the download, so that no window is open
        refine iff_of_true ?_ (fun _ _ => trivial)
        rintro ⟨t, listed, late⟩
        obtain ⟨sameProduct, sameModified⟩ := turn.unchanged own
        have skipped := (holdsBack_iff kept).mpr effective turn.image.metadata (turn.attempt s)
          sameProduct own sameModified later ⟨t, listed, late⟩
        rw [fetched] at skipped
        cases skipped
    | error fault =>
      rw [imageStep_error done, KeepsBackOff, done]
      cases unmarked : turn.markFails with
      | true =>
        refine iff_of_true (effective.quiet later (if_neg fun recorded => nomatch recorded.2) ?_)
          (fun _ _ recorded => nomatch recorded)
        rw [markImageError, ImageTurn.attempt, unmarked, if_pos rfl]
      | false =>
        rw [if_pos ⟨own, rfl⟩, recorded_effective_iff own unmarked positive]
        exact ⟨fun none_marked _ _ _ => none_marked, fun none_marked => none_marked own positive rfl⟩
  · obtain ⟨failures, rows⟩ : (imageStep sha256 retryMs s turn).failures = _ ∧ _ := imageStep_other own
    exact iff_of_true (effective.quiet later failures rows) (fun mine => absurd mine own)

end Turns

section Runs
variable {Buffer : Type}

/-- In all runs one after another a failed image is left alone for its wait, just when each recorded
failure finds no error row that is marked as deleted, and no deletion of the image comes within a
wait. -/
theorem failed_image_left_alone_iff (sha256 : Buffer → HexDigest) (retryMs : Nat)
    (identity : ImageIdentity) (rows : List ProductImage) (clock : Int)
    (turns : List (ImageTurn Buffer identity)) :
    Always (imageStep sha256 retryMs) (HoldsBack retryMs identity) ⟨rows, clock, []⟩ turns ↔
      EachStep (imageStep sha256 retryMs) (KeepsBackOff sha256 retryMs) ⟨rows, clock, []⟩ turns := by
  have start : ErrorRowKept identity ⟨rows, clock, []⟩ :=
    ⟨fun _ wrong => (nomatch wrong), fun some_failure => absurd rfl some_failure⟩
  refine always_iff_eachStep_of_inv (J := ErrorRowKept identity) (fun s turn kept => kept.step turn)
    (fun s turn kept holds => ?_) start ?_ turns
  · rw [holdsBack_iff (kept.step turn)]
    exact imageStep_effective_iff kept ((holdsBack_iff kept).mp holds) turn
  · exact (holdsBack_iff start).mpr fun ⟨_, listed, _⟩ => nomatch listed

def sampleImage : ImageIdentity := ⟨"p1", "f1", none⟩

def sampleTurn (elapsed : Nat) (fails : Option (SyncImageStep × OnecFault)) :
    ImageTurn HexDigest sampleImage where
  elapsed := elapsed
  image := ⟨⟨"p1", "f1", none, false, false⟩, ⟨"a0", by simp⟩⟩
  fails := fails
  markFails := false
  unchanged := fun _ => ⟨rfl, rfl⟩

def failsAgain : List (ImageTurn HexDigest sampleImage) :=
  [sampleTurn 0 (some (.download, .network "timeout")), sampleTurn 86400000 none,
    sampleTurn 1000 (some (.download, .network "timeout"))]

theorem failed_image_fetched_again : ¬Always (imageStep id 86400000) (HoldsBack 86400000 sampleImage)
    ⟨[], 0, []⟩ failsAgain :=
  fun always => absurd (always.last ⟨"p1", "f1", none, false, false⟩ ⟨86401000, none, false⟩ rfl rfl rfl
    (by decide) (by decide)) (by decide)

end Runs
end LeaderProduct
