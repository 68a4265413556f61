import LeaderProduct.Order
import LeaderProduct.ProductImages

/-! What one image does to the rows: those of other files stay, and the live ones of its own file
are some that the table had or the one that it writes. -/
namespace LeaderProduct
open RowTable ProductImage

def fileRows (rows : List ProductImage) (fileGuid : String) : List ProductImage :=
  rows.filter fun row => decide (row.fileGuid = fileGuid)

def liveRows (rows : List ProductImage) (fileGuid : String) : List ProductImage :=
  (fileRows rows fileGuid).filter isLive

structure TidyImages (rows : List ProductImage) : Prop where
  keys : (rows.map key).Nodup
  errors : ∀ row ∈ rows, row.isLive = true → row.hashSha256 ≠ errorHash row.fileGuid
  one : ∀ fileGuid, (liveRows rows fileGuid).length ≤ 1

section Rows
variable {rows : List ProductImage} {metadata : OnecProductImageMetadata} {fileGuid : String}

theorem mem_liveRows {row : ProductImage} :
    row ∈ liveRows rows fileGuid ↔ row ∈ rows ∧ row.isLive = true ∧ row.fileGuid = fileGuid := by
  simp only [liveRows, fileRows, List.mem_filter, decide_eq_true_eq]
  tauto

theorem liveRows_eq_filter :
    liveRows rows fileGuid =
      rows.filter fun row => decide (row.fileGuid = fileGuid) && row.isLive := by
  rw [liveRows, fileRows, List.filter_filter]
  exact List.filter_congr fun row _ => Bool.and_comm _ _

theorem lookup_fileRows (hash : String) :
    lookup key (fileRows rows fileGuid) (fileGuid, hash) = lookup key rows (fileGuid, hash) := by
  rw [lookup, fileRows, List.find?_filter]
  congr 1
  funext row
  simp only [key, Prod.mk.injEq]
  by_cases own : row.fileGuid = fileGuid
  · simp [own]
  · simp [own]

theorem fileRows_markImagesDeleted (now : Int) (other : metadata.fileGuid ≠ fileGuid) :
    fileRows (markImagesDeleted rows metadata now) fileGuid = fileRows rows fileGuid := by
  apply filter_map_of_fixed
  · intro row
    split <;> rfl
  · intro row own
    rw [decide_eq_true_eq] at own
    rw [if_neg]
    rintro ⟨_, same, _⟩
    exact other (same.symm.trans own)

theorem fileRows_retireOtherHashes {file : String} (hash : String) (now : Int)
    (other : file ≠ fileGuid) :
    fileRows (retireOtherHashes rows file hash now) fileGuid = fileRows rows fileGuid := by
  apply filter_map_of_fixed
  · intro row
    split <;> rfl
  · intro row own
    rw [decide_eq_true_eq] at own
    rw [if_neg]
    rintro ⟨same, _, _⟩
    exact other (same.symm.trans own)

theorem fileRows_writeImage (hash : String) (now : Int) (other : metadata.fileGuid ≠ fileGuid) :
    fileRows (writeImage rows metadata hash now) fileGuid = fileRows rows fileGuid := by
  rw [writeImage, fileRows, filter_upsert_of_not]
  · exact fileRows_retireOtherHashes hash now other
  · intro _
    exact decide_eq_false other
  · intro row _ same
    rw [key, Prod.mk.injEq] at same
    rw [same.1]
    exact decide_eq_false other

theorem fileRows_markImageError (attempt : ImageAttempt) (fault : OnecFault)
    (other : metadata.fileGuid ≠ fileGuid) :
    fileRows (markImageError rows metadata attempt fault) fileGuid = fileRows rows fileGuid := by
  unfold markImageError
  split
  · rfl
  · rw [fileRows, filter_upsert_of_not]
    · rfl
    · intro row
      cases row <;> exact decide_eq_false other
    · intro row _ same
      rw [key, Prod.mk.injEq] at same
      rw [same.1]
      exact decide_eq_false other

theorem liveRows_markImagesDeleted (now : Int) :
    liveRows (markImagesDeleted rows metadata now) metadata.fileGuid =
      (liveRows rows metadata.fileGuid).filter fun row =>
        !decide (row.productGuid = metadata.productGuid) := by
  rw [liveRows_eq_filter, markImagesDeleted, filter_map_ite, liveRows_eq_filter,
    List.filter_filter]
  · apply List.filter_congr
    intro row _
    by_cases own : row.fileGuid = metadata.fileGuid
    · cases removed : row.deletedAt with
      | none => simp [own, Bool.and_comm]
      | some time => simp [own, removed, isLive]
    · simp [own]
  · intro row
    simp [isLive]

theorem liveRows_retireOtherHashes (hash : String) (now : Int) :
    liveRows (retireOtherHashes rows fileGuid hash now) fileGuid =
      (liveRows rows fileGuid).filter fun row => decide (row.hashSha256 = hash) := by
  rw [liveRows_eq_filter, retireOtherHashes, filter_map_ite, liveRows_eq_filter,
    List.filter_filter]
  · apply List.filter_congr
    intro row _
    by_cases own : row.fileGuid = fileGuid
    · cases removed : row.deletedAt with
      | none => simp [own, Bool.and_comm]
      | some time => simp [own, removed, isLive]
    · simp [own]
  · intro row
    simp [isLive]

theorem keys_retireOtherHashes (hash : String) (now : Int) :
    (retireOtherHashes rows fileGuid hash now).map key = rows.map key := by
  rw [retireOtherHashes, List.map_map]
  apply List.map_congr_left
  intro row _
  rw [Function.comp_apply]
  split <;> rfl

theorem liveRows_writeImage (tidy : TidyImages rows) {hash : String} (now : Int)
    (absent : (lookup key rows (metadata.fileGuid, hash)).any isLive = false) :
    liveRows (writeImage rows metadata hash now) metadata.fileGuid =
      [syncedRow metadata hash now] := by
  have unique : ((retireOtherHashes rows metadata.fileGuid hash now).map key).Nodup := by
    rw [keys_retireOtherHashes]
    exact tidy.keys
  rw [liveRows_eq_filter, writeImage]
  apply filter_upsert_of_nil unique
  · rw [← liveRows_eq_filter, liveRows_retireOtherHashes, List.filter_eq_nil_iff]
    intro row live
    obtain ⟨known, live, own⟩ := mem_liveRows.mp live
    rw [decide_eq_true_eq]
    intro same
    have found := lookup_of_mem tidy.keys known
    rw [key, own, same] at found
    rw [found, Option.any_some, live] at absent
    cases absent
  · simp [syncedRow, isLive]

theorem liveRows_markImageError (tidy : TidyImages rows) (attempt : ImageAttempt)
    (fault : OnecFault) :
    liveRows (markImageError rows metadata attempt fault) fileGuid = liveRows rows fileGuid := by
  unfold markImageError
  split
  · rfl
  · rw [liveRows_eq_filter, filter_upsert_of_not, ← liveRows_eq_filter]
    · intro row
      cases row <;> simp [isLive]
    · intro row known same
      rw [key, Prod.mk.injEq] at same
      rw [Bool.and_eq_false_iff]
      refine .inr (Bool.eq_false_iff.mpr fun live => ?_)
      refine tidy.errors row known live ?_
      rw [same.1, same.2]

end Rows

section Image
variable {Buffer : Type} (sha256 : Buffer → HexDigest)

def sameContent (rows : List ProductImage) (image : OnecImage Buffer) : Bool :=
  (lookup key rows (image.metadata.fileGuid, (sha256 image.body).text)).any isLive

def settledImage (retryMs : Nat) (rows : List ProductImage) (image : OnecImage Buffer)
    (now : Int) : List ProductImage :=
  if image.metadata.deletionMark then markImagesDeleted rows image.metadata now
  else if recentImageError retryMs rows image.metadata now || sameContent sha256 rows image then
    rows
  else writeImage rows image.metadata (sha256 image.body).text now

def settledLive (retryMs : Nat) (rows : List ProductImage) (image : OnecImage Buffer)
    (now : Int) : List ProductImage :=
  if image.metadata.deletionMark then
    (liveRows rows image.metadata.fileGuid).filter fun row =>
      !decide (row.productGuid = image.metadata.productGuid)
  else if recentImageError retryMs rows image.metadata now || sameContent sha256 rows image then
    liveRows rows image.metadata.fileGuid
  else [syncedRow image.metadata (sha256 image.body).text now]

variable {sha256} {retryMs : Nat} {rows : List ProductImage} {image : OnecImage Buffer}

theorem shouldSkipRecentImageError_ok {metadata : OnecProductImageMetadata}
    {attempt : ImageAttempt} {skips : Bool}
    (asked : shouldSkipRecentImageError retryMs rows metadata attempt = .ok skips) :
    skips = recentImageError retryMs rows metadata attempt.now := by
  unfold shouldSkipRecentImageError at asked
  by_cases never : retryMs = 0
  · rw [if_pos never] at asked
    cases asked
    rw [recentImageError, if_pos never]
  · rw [if_neg never] at asked
    obtain ⟨_, _, answered⟩ := (except_bind_ok _ _ _).mp asked
    cases answered
    rfl

theorem syncImage_ok {attempt : ImageAttempt} {outcome : SyncOutcome} {after : List ProductImage}
    (done : syncImage sha256 retryMs rows image attempt = .ok (outcome, after)) :
    after = settledImage sha256 retryMs rows image attempt.now := by
  unfold settledImage
  unfold syncImage at done
  by_cases marked : image.metadata.deletionMark
  · rw [if_pos marked] at done ⊢
    obtain ⟨_, _, deleted⟩ := (except_bind_ok _ _ _).mp done
    cases deleted
    rfl
  · rw [if_neg marked] at done ⊢
    obtain ⟨skips, asked, done⟩ := (except_bind_ok _ _ _).mp done
    rw [← shouldSkipRecentImageError_ok asked]
    cases skips with
    | true =>
      cases done
      rfl
    | false =>
      obtain ⟨_, _, done⟩ := (except_bind_ok _ _ _).mp done
      obtain ⟨_, _, done⟩ := (except_bind_ok _ _ _).mp done
      rw [Bool.false_or, sameContent]
      split at done
      · next same =>
        cases done
        rw [if_pos same]
      · next different =>
        obtain ⟨_, _, done⟩ := (except_bind_ok _ _ _).mp done
        obtain ⟨_, _, done⟩ := (except_bind_ok _ _ _).mp done
        obtain ⟨_, _, done⟩ := (except_bind_ok _ _ _).mp done
        cases done
        rw [if_neg different]

theorem liveRows_settledImage (tidy : TidyImages rows) (now : Int) :
    liveRows (settledImage sha256 retryMs rows image now) image.metadata.fileGuid =
      settledLive sha256 retryMs rows image now := by
  unfold settledImage settledLive
  split
  · exact liveRows_markImagesDeleted now
  · split
    · rfl
    · next fresh =>
      rw [Bool.not_eq_true, Bool.or_eq_false_iff] at fresh
      exact liveRows_writeImage tidy now fresh.2

theorem fileRows_settledImage {fileGuid : String} (now : Int)
    (other : image.metadata.fileGuid ≠ fileGuid) :
    fileRows (settledImage sha256 retryMs rows image now) fileGuid = fileRows rows fileGuid := by
  unfold settledImage
  split
  · exact fileRows_markImagesDeleted now other
  · split
    · rfl
    · exact fileRows_writeImage _ now other

theorem settledLive_congr {others : List ProductImage} (now : Int)
    (same : fileRows others image.metadata.fileGuid = fileRows rows image.metadata.fileGuid) :
    settledLive sha256 retryMs others image now = settledLive sha256 retryMs rows image now := by
  have lookups (hash : String) :
      lookup key others (image.metadata.fileGuid, hash) =
        lookup key rows (image.metadata.fileGuid, hash) := by
    rw [← lookup_fileRows, same, lookup_fileRows]
  have recent : recentImageError retryMs others image.metadata now =
      recentImageError retryMs rows image.metadata now := by
    rw [recentImageError, recentImageError, lookups]
  unfold settledLive
  rw [recent, sameContent, sameContent, lookups, liveRows, liveRows, same]

theorem keys_markImagesDeleted {metadata : OnecProductImageMetadata} (now : Int) :
    (markImagesDeleted rows metadata now).map key = rows.map key := by
  rw [markImagesDeleted, List.map_map]
  apply List.map_congr_left
  intro row _
  rw [Function.comp_apply]
  split <;> rfl

theorem HexDigest.ne_errorHash (digest : HexDigest) (fileGuid : String) :
    digest.text ≠ errorHash fileGuid := by
  intro same
  have colon : ':' ∈ digest.text.toList := by
    rw [same, errorHash, String.toList_append]
    exact List.mem_append_left _ (by decide)
  have digit := digest.hexadecimal ':' colon
  revert digit
  decide

theorem TidyImages.of_live (tidy : TidyImages rows) {after : List ProductImage}
    (keys : (after.map key).Nodup)
    (live : ∀ fileGuid, (liveRows after fileGuid).Sublist (liveRows rows fileGuid) ∨
      ∃ row, liveRows after fileGuid = [row] ∧ row.hashSha256 ≠ errorHash row.fileGuid) :
    TidyImages after where
  keys := keys
  errors := by
    intro row known here
    have member : row ∈ liveRows after row.fileGuid := mem_liveRows.mpr ⟨known, here, rfl⟩
    rcases live row.fileGuid with fewer | ⟨written, only, digest⟩
    · have old := mem_liveRows.mp (fewer.subset member)
      exact tidy.errors row old.1 here
    · rw [only, List.mem_singleton] at member
      rw [member]
      exact digest
  one := by
    intro fileGuid
    rcases live fileGuid with fewer | ⟨written, only, _⟩
    · exact Nat.le_trans fewer.length_le (tidy.one fileGuid)
    · rw [only]
      exact Nat.le_refl 1

theorem TidyImages.settled (tidy : TidyImages rows) (retryMs : Nat) (image : OnecImage Buffer)
    (now : Int) : TidyImages (settledImage sha256 retryMs rows image now) := by
  apply tidy.of_live
  · unfold settledImage
    split
    · rw [keys_markImagesDeleted]
      exact tidy.keys
    · split
      · exact tidy.keys
      · have unique : ((retireOtherHashes rows image.metadata.fileGuid
            (sha256 image.body).text now).map key).Nodup := by
          rw [keys_retireOtherHashes]
          exact tidy.keys
        have own (_ : Option ProductImage) :
            key (syncedRow image.metadata (sha256 image.body).text now) =
              (image.metadata.fileGuid, (sha256 image.body).text) := rfl
        exact nodup_upsert own unique
  · intro fileGuid
    by_cases own : image.metadata.fileGuid = fileGuid
    · subst own
      rw [liveRows_settledImage tidy, settledLive]
      split
      · exact .inl List.filter_sublist
      · split
        · exact .inl (List.Sublist.refl _)
        · exact .inr ⟨_, rfl, HexDigest.ne_errorHash _ _⟩
    · rw [liveRows, fileRows_settledImage now own]
      exact .inl (List.Sublist.refl _)

theorem TidyImages.marked (tidy : TidyImages rows) (metadata : OnecProductImageMetadata)
    (attempt : ImageAttempt) (fault : OnecFault) :
    TidyImages (markImageError rows metadata attempt fault) := by
  apply tidy.of_live
  · unfold markImageError
    split
    · exact tidy.keys
    · apply nodup_upsert _ tidy.keys
      intro row
      cases row <;> rfl
  · intro fileGuid
    rw [liveRows_markImageError tidy]
    exact .inl (List.Sublist.refl _)

end Image

end LeaderProduct
