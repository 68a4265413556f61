import LeaderProduct.ProductImageRows

/-! What a whole run makes of the live rows. A run brings every file to what 1C says of it, or
leaves it where the skip by content looks at nothing but the hash. -/
namespace LeaderProduct
open RowTable ProductImage

variable {before : SyncStats × List ProductImage} {fileGuid : String}

section Items
variable {Buffer : Type} (sha256 : Buffer → HexDigest) (setting : SyncSetting)

theorem syncItem_cases (before : SyncStats × List ProductImage) (image : OnecImage Buffer) :
    ((syncItem sha256 setting before image).1.failed = before.1.failed ∧
      (syncItem sha256 setting before image).2 =
        settledImage sha256 setting.retryMs before.2 image
          (setting.attempt image.metadata.fileGuid).now) ∨
    ((syncItem sha256 setting before image).1.failed = before.1.failed + 1 ∧
      ∃ fault, (syncItem sha256 setting before image).2 =
        markImageError before.2 image.metadata
          (setting.attempt image.metadata.fileGuid) fault) := by
  unfold syncItem
  dsimp only
  cases done : syncImage sha256 setting.retryMs before.2 image
      (setting.attempt image.metadata.fileGuid) with
  | ok result =>
    obtain ⟨outcome, after⟩ := result
    refine .inl ⟨?_, syncImage_ok done⟩
    cases outcome <;> rfl
  | error fault => exact .inr ⟨rfl, fault, rfl⟩

theorem TidyImages.item (tidy : TidyImages before.2) (image : OnecImage Buffer) :
    TidyImages (syncItem sha256 setting before image).2 := by
  rcases syncItem_cases sha256 setting before image with ⟨_, settled⟩ | ⟨_, fault, marked⟩
  · rw [settled]
    exact tidy.settled _ _ _
  · rw [marked]
    exact tidy.marked _ _ _

theorem TidyImages.items (tidy : TidyImages before.2) (images : List (OnecImage Buffer)) :
    TidyImages (images.foldl (syncItem sha256 setting) before).2 := by
  induction images generalizing before with
  | nil => exact tidy
  | cons image rest ih => exact ih (tidy.item sha256 setting image)

theorem fileRows_syncItem (before : SyncStats × List ProductImage) {image : OnecImage Buffer}
    (other : image.metadata.fileGuid ≠ fileGuid) :
    fileRows (syncItem sha256 setting before image).2 fileGuid = fileRows before.2 fileGuid := by
  rcases syncItem_cases sha256 setting before image with ⟨_, settled⟩ | ⟨_, fault, marked⟩
  · rw [settled, fileRows_settledImage _ other]
  · rw [marked, fileRows_markImageError _ _ other]

theorem fileRows_syncItems {images : List (OnecImage Buffer)}
    (absent : fileGuid ∉ images.map (·.metadata.fileGuid))
    (before : SyncStats × List ProductImage) :
    fileRows (images.foldl (syncItem sha256 setting) before).2 fileGuid =
      fileRows before.2 fileGuid := by
  induction images generalizing before with
  | nil => rfl
  | cons image rest ih =>
    rw [List.map_cons, List.mem_cons, not_or] at absent
    rw [List.foldl_cons, ih absent.2, fileRows_syncItem sha256 setting before (Ne.symm absent.1)]

theorem failed_le_syncItems (images : List (OnecImage Buffer))
    (before : SyncStats × List ProductImage) :
    before.1.failed ≤ (images.foldl (syncItem sha256 setting) before).1.failed := by
  induction images generalizing before with
  | nil => exact Nat.le_refl _
  | cons image rest ih =>
    have later := ih (syncItem sha256 setting before image)
    rw [List.foldl_cons]
    rcases syncItem_cases sha256 setting before image with ⟨same, _⟩ | ⟨more, _⟩
    · omega
    · omega

theorem liveRows_syncItems {images : List (OnecImage Buffer)}
    (unique : (images.map (·.metadata.fileGuid)).Nodup) (before : SyncStats × List ProductImage)
    (tidy : TidyImages before.2)
    (clean : (images.foldl (syncItem sha256 setting) before).1.failed = before.1.failed) :
    ∀ image ∈ images,
      liveRows (images.foldl (syncItem sha256 setting) before).2 image.metadata.fileGuid =
        settledLive sha256 setting.retryMs before.2 image
          (setting.attempt image.metadata.fileGuid).now := by
  induction images generalizing before with
  | nil => exact fun _ none => absurd none List.not_mem_nil
  | cons first rest ih =>
    rw [List.map_cons, List.nodup_cons] at unique
    rw [List.foldl_cons] at clean ⊢
    have later := failed_le_syncItems sha256 setting rest (syncItem sha256 setting before first)
    have settled : (syncItem sha256 setting before first).1.failed = before.1.failed ∧
        (syncItem sha256 setting before first).2 =
          settledImage sha256 setting.retryMs before.2 first
            (setting.attempt first.metadata.fileGuid).now := by
      rcases syncItem_cases sha256 setting before first with settled | ⟨more, _⟩
      · exact settled
      · omega
    intro image listed
    rcases List.mem_cons.mp listed with rfl | listed
    · rw [liveRows, fileRows_syncItems sha256 setting unique.1, settled.2]
      exact liveRows_settledImage tidy _
    · have other : first.metadata.fileGuid ≠ image.metadata.fileGuid := by
        intro same
        exact unique.1 (List.mem_map.mpr ⟨image, listed, same.symm⟩)
      rw [ih unique.2 _ (tidy.item sha256 setting first) (clean.trans settled.1.symm) image listed]
      exact settledLive_congr _ (fileRows_syncItem sha256 setting before other)

end Items

structure OnecImageList (Buffer : Type) where
  items : List (OnecImage Buffer)
  unique : (items.map (·.metadata.fileGuid)).Nodup

def OnecImageList.serve {Buffer : Type} (images : OnecImageList Buffer)
    (unreadable : Nat → Option OnecFault) (limit offset : Nat) :
    Except OnecFault (ImagePage Buffer) :=
  match unreadable offset with
  | some fault => .error fault
  | none =>
    .ok ⟨(images.items.drop offset).take limit, decide (offset + limit < images.items.length)⟩

structure ImageRun (Buffer : Type) where
  images : OnecImageList Buffer
  unreadable : Nat → Option OnecFault
  setting : SyncSetting
  limit : Option Int

section Runs
variable {Buffer : Type} (sha256 : Buffer → HexDigest)

def ImageRun.sync (run : ImageRun Buffer) (rows : List ProductImage) :
    Option (Except OnecFault SyncStats × List ProductImage) :=
  syncProductImages sha256 run.setting (run.images.serve run.unreadable) ⟨none, run.limit, none⟩
    (run.images.items.length + 1) rows

def imagesAfter (runs : List (ImageRun Buffer)) : Option (List ProductImage) :=
  runs.foldlM (fun rows run => (run.sync sha256 rows).map Prod.snd) []

theorem syncItem_stats (setting : SyncSetting) (image : OnecImage Buffer)
    {other : SyncStats × List ProductImage} (rows : before.2 = other.2)
    (failed : before.1.failed = other.1.failed) :
    (syncItem sha256 setting before image).2 = (syncItem sha256 setting other image).2 ∧
      (syncItem sha256 setting before image).1.failed =
        (syncItem sha256 setting other image).1.failed := by
  unfold syncItem
  dsimp only
  rw [rows]
  cases syncImage sha256 setting.retryMs other.2 image
      (setting.attempt image.metadata.fileGuid) with
  | ok result =>
    obtain ⟨outcome, after⟩ := result
    refine ⟨rfl, ?_⟩
    cases outcome with
    | uploaded => exact failed
    | skipped => exact failed
    | deleted => exact failed
  | error fault => exact ⟨rfl, congrArg (· + 1) failed⟩

theorem syncItems_stats (setting : SyncSetting) (images : List (OnecImage Buffer))
    {other : SyncStats × List ProductImage} (rows : before.2 = other.2)
    (failed : before.1.failed = other.1.failed) :
    (images.foldl (syncItem sha256 setting) before).2 =
        (images.foldl (syncItem sha256 setting) other).2 ∧
      (images.foldl (syncItem sha256 setting) before).1.failed =
        (images.foldl (syncItem sha256 setting) other).1.failed := by
  induction images generalizing before other with
  | nil => exact ⟨rows, failed⟩
  | cons image rest ih =>
    obtain ⟨same_rows, same_failed⟩ := syncItem_stats sha256 setting image rows failed
    exact ih same_rows same_failed

theorem syncPages_serve (setting : SyncSetting) (images : OnecImageList Buffer)
    (unreadable : Nat → Option OnecFault) {limit : Nat} (positive : 0 < limit) (fuel offset : Nat)
    (enough : images.items.length - offset < fuel) (before : SyncStats × List ProductImage) :
    ∃ result done rest,
      syncPages sha256 setting (images.serve unreadable) false limit fuel offset before =
        some (result, (done.foldl (syncItem sha256 setting) before).2) ∧
      images.items.drop offset = done ++ rest ∧
      ∀ stats, result = .ok stats → rest = [] ∧
        stats.failed = (done.foldl (syncItem sha256 setting) before).1.failed := by
  induction fuel generalizing offset before with
  | zero => omega
  | succ fuel ih =>
    rw [syncPages]
    cases answer : unreadable offset with
    | some fault =>
      have served : images.serve unreadable limit offset = .error fault := by
        rw [OnecImageList.serve, answer]
      rw [served]
      exact ⟨.error fault, [], _, rfl, rfl, fun _ => nofun⟩
    | none =>
      let page := (images.items.drop offset).take limit
      let counted : SyncStats :=
        { before.1 with requested := before.1.requested + page.length }
      have counts (done : List (OnecImage Buffer)) :=
        syncItems_stats sha256 setting done (show (counted, before.2).2 = before.2 from rfl)
          (show (counted, before.2).1.failed = before.1.failed from rfl)
      have served : images.serve unreadable limit offset =
          .ok ⟨page, decide (offset + limit < images.items.length)⟩ := by
        rw [OnecImageList.serve, answer]
      rw [served]
      by_cases more : offset + limit < images.items.length
      · obtain ⟨result, done, rest, ran, parts, ended⟩ := ih (offset + limit) (by omega)
          (page.foldl (syncItem sha256 setting) (counted, before.2))
        have same := counts (page ++ done)
        rw [List.foldl_append] at same
        refine ⟨result, page ++ done, rest, ?_, ?_, ?_⟩
        · rw [← same.1]
          simp only [more, decide_true, Bool.not_true, Bool.or_self, Bool.false_eq_true, if_false]
          exact ran
        · rw [List.append_assoc, ← parts, ← List.drop_drop, List.take_append_drop]
        · intro stats finished
          rw [← same.2]
          exact ended stats finished
      · have whole : page = images.items.drop offset := by
          apply List.take_of_length_le
          rw [List.length_drop]
          omega
        refine ⟨.ok (page.foldl (syncItem sha256 setting) (counted, before.2)).1, page, [],
          ?_, ?_, ?_⟩
        · rw [← (counts page).1]
          simp only [more, decide_false, Bool.not_false, Bool.true_or, if_true]
          rfl
        · rw [List.append_nil, whole]
        · intro stats finished
          cases finished
          exact ⟨rfl, (counts page).2⟩

theorem SyncParams.pageLimit_pos (params : SyncParams) : 0 < params.pageLimit := by
  unfold SyncParams.pageLimit
  omega

theorem ImageRun.sync_cases (run : ImageRun Buffer) (rows : List ProductImage) :
    ∃ result done rest,
      run.sync sha256 rows =
        some (result, (done.foldl (syncItem sha256 run.setting) (.empty, rows)).2) ∧
      run.images.items = done ++ rest ∧
      ∀ stats, result = .ok stats → rest = [] ∧
        stats.failed = (done.foldl (syncItem sha256 run.setting) (.empty, rows)).1.failed := by
  have pages := syncPages_serve sha256 run.setting run.images run.unreadable
    (SyncParams.pageLimit_pos ⟨none, run.limit, none⟩) (run.images.items.length + 1) 0 (by omega)
    (.empty, rows)
  rw [List.drop_zero] at pages
  exact pages

theorem TidyImages.empty : TidyImages [] where
  keys := List.nodup_nil
  errors := fun _ none => absurd none List.not_mem_nil
  one := fun _ => Nat.zero_le 1

theorem tidy_imagesAfter (runs : List (ImageRun Buffer)) :
    ∃ rows, imagesAfter sha256 runs = some rows ∧ TidyImages rows := by
  have general (start : List ProductImage) (tidy : TidyImages start) :
      ∃ rows, runs.foldlM (fun rows run => (run.sync sha256 rows).map Prod.snd) start = some rows ∧
        TidyImages rows := by
    induction runs generalizing start with
    | nil => exact ⟨start, rfl, tidy⟩
    | cons run rest ih =>
      obtain ⟨result, done, _, ran, _, _⟩ := run.sync_cases sha256 start
      have next : TidyImages (done.foldl (syncItem sha256 run.setting) (.empty, start)).2 :=
        TidyImages.items sha256 run.setting tidy done
      obtain ⟨rows, later, tidy_rows⟩ := ih _ next
      refine ⟨rows, ?_, tidy_rows⟩
      rw [List.foldlM_cons, ran]
      exact later
  exact general [] TidyImages.empty

def ProductImage.view (row : ProductImage) : String × String × Bool :=
  (row.productGuid, row.hashSha256, row.isMain)

def OnecImage.view (image : OnecImage Buffer) : String × String × Bool :=
  (image.metadata.productGuid, (sha256 image.body).text, image.metadata.isMain)

/-- The live rows are those of the list: one for each file that is not marked deleted. -/
def ImagesConverged (images : OnecImageList Buffer) (rows : List ProductImage) : Prop :=
  ∀ fileGuid, (liveRows rows fileGuid).map ProductImage.view =
    (images.items.filter fun image =>
      decide (image.metadata.fileGuid = fileGuid) && !image.metadata.deletionMark).map
        (OnecImage.view sha256)

/-- The run can bring the file to where the list has it. A row of the same content is not looked at
again, a deletion finds the rows of the listed product only, and a recent error stops the rest. -/
structure ImageFollows (setting : SyncSetting) (rows : List ProductImage)
    (image : OnecImage Buffer) : Prop where
  owner : image.metadata.deletionMark = true →
    ∀ row ∈ liveRows rows image.metadata.fileGuid, row.productGuid = image.metadata.productGuid
  described : image.metadata.deletionMark = false →
    ∀ row ∈ liveRows rows image.metadata.fileGuid, row.hashSha256 = (sha256 image.body).text →
      row.productGuid = image.metadata.productGuid ∧ row.isMain = image.metadata.isMain
  retried : image.metadata.deletionMark = false →
    recentImageError setting.retryMs rows image.metadata
      (setting.attempt image.metadata.fileGuid).now = true →
    ∃ row ∈ liveRows rows image.metadata.fileGuid, row.hashSha256 = (sha256 image.body).text

structure ImagesFollow (setting : SyncSetting) (images : OnecImageList Buffer)
    (rows : List ProductImage) : Prop where
  listed : ∀ row ∈ rows, row.isLive = true → row.fileGuid ∈ images.items.map (·.metadata.fileGuid)
  each : ∀ image ∈ images.items, ImageFollows sha256 setting rows image

variable {sha256}

theorem filter_file_of_mem {items : List (OnecImage Buffer)}
    (unique : (items.map (·.metadata.fileGuid)).Nodup) {image : OnecImage Buffer}
    (listed : image ∈ items) :
    items.filter (fun other => decide (other.metadata.fileGuid = image.metadata.fileGuid) &&
      !other.metadata.deletionMark) = if image.metadata.deletionMark then [] else [image] := by
  induction items with
  | nil => cases listed
  | cons first rest ih =>
    rw [List.map_cons, List.nodup_cons] at unique
    rcases List.mem_cons.mp listed with rfl | listed
    · have others : rest.filter (fun other =>
          decide (other.metadata.fileGuid = image.metadata.fileGuid) &&
            !other.metadata.deletionMark) = [] := by
        rw [List.filter_eq_nil_iff]
        intro other member
        have different : other.metadata.fileGuid ≠ image.metadata.fileGuid := by
          intro same
          exact unique.1 (List.mem_map.mpr ⟨other, member, same⟩)
        simp [different]
      rw [List.filter_cons, others]
      cases image.metadata.deletionMark <;> simp
    · have different : first.metadata.fileGuid ≠ image.metadata.fileGuid := by
        intro same
        exact unique.1 (List.mem_map.mpr ⟨image, listed, same.symm⟩)
      rw [List.filter_cons, ih unique.2 listed]
      simp [different]

theorem filter_file_of_not_mem {items : List (OnecImage Buffer)}
    (absent : fileGuid ∉ items.map (·.metadata.fileGuid)) :
    items.filter (fun image => decide (image.metadata.fileGuid = fileGuid) &&
      !image.metadata.deletionMark) = [] := by
  rw [List.filter_eq_nil_iff]
  intro image listed
  have different : image.metadata.fileGuid ≠ fileGuid := by
    intro same
    exact absent (List.mem_map.mpr ⟨image, listed, same⟩)
  simp [different]

variable {rows : List ProductImage}

theorem TidyImages.only (tidy : TidyImages rows) {row other : ProductImage}
    (listed : row ∈ liveRows rows fileGuid) (also : other ∈ liveRows rows fileGuid) :
    other = row := by
  have one := tidy.one fileGuid
  cases live : liveRows rows fileGuid with
  | nil =>
    rw [live] at listed
    cases listed
  | cons first rest =>
    rw [live, List.length_cons] at one
    have alone : rest = [] := List.eq_nil_of_length_eq_zero (by omega)
    rw [live, alone, List.mem_singleton] at listed also
    rw [listed, also]

theorem view_liveRows_iff (tidy : TidyImages rows) (image : OnecImage Buffer) :
    (liveRows rows image.metadata.fileGuid).map ProductImage.view = [image.view sha256] ↔
      ∃ row ∈ liveRows rows image.metadata.fileGuid, row.view = image.view sha256 := by
  constructor
  · intro whole
    have member : image.view sha256 ∈
        (liveRows rows image.metadata.fileGuid).map ProductImage.view := by
      rw [whole]
      exact List.mem_singleton_self _
    exact List.mem_map.mp member
  · rintro ⟨row, listed, same⟩
    have one := tidy.one image.metadata.fileGuid
    cases live : liveRows rows image.metadata.fileGuid with
    | nil =>
      rw [live] at listed
      cases listed
    | cons first rest =>
      rw [live, List.length_cons] at one
      have alone : rest = [] := List.eq_nil_of_length_eq_zero (by omega)
      rw [live, alone, List.mem_singleton] at listed
      rw [alone, List.map_cons, List.map_nil, ← listed, same]

theorem sameContent_iff (tidy : TidyImages rows) (image : OnecImage Buffer) :
    sameContent sha256 rows image = true ↔
      ∃ row ∈ liveRows rows image.metadata.fileGuid, row.hashSha256 = (sha256 image.body).text := by
  constructor
  · intro same
    obtain ⟨row, found, live⟩ := (Option.any_eq_true _ _).mp same
    have own := key_of_lookup found
    rw [ProductImage.key, Prod.mk.injEq] at own
    exact ⟨row, mem_liveRows.mpr ⟨mem_of_lookup found, live, own.1⟩, own.2⟩
  · rintro ⟨row, listed, same⟩
    obtain ⟨known, live, own⟩ := mem_liveRows.mp listed
    have found := lookup_of_mem tidy.keys known
    rw [ProductImage.key, own, same] at found
    rw [sameContent, found]
    exact live

theorem settledLive_iff (tidy : TidyImages rows) (setting : SyncSetting)
    (image : OnecImage Buffer) : (settledLive sha256 setting.retryMs rows image
        (setting.attempt image.metadata.fileGuid).now).map ProductImage.view =
      (if image.metadata.deletionMark then [] else [image]).map (OnecImage.view sha256) ↔
    ImageFollows sha256 setting rows image := by
  unfold settledLive
  cases marked : image.metadata.deletionMark with
  | true =>
    rw [if_pos rfl, if_pos rfl, List.map_nil, List.map_eq_nil_iff, List.filter_eq_nil_iff]
    constructor
    · intro owned
      refine ⟨fun _ row live => ?_, fun kept => ?_, fun kept => ?_⟩
      · simpa using owned row live
      · rw [marked] at kept
        cases kept
      · rw [marked] at kept
        cases kept
    · intro follows row live
      simpa using follows.owner marked row live
  | false =>
    rw [if_neg Bool.false_ne_true, if_neg Bool.false_ne_true, List.map_singleton]
    cases skipped : recentImageError setting.retryMs rows image.metadata
        (setting.attempt image.metadata.fileGuid).now || sameContent sha256 rows image with
    | true =>
      rw [if_pos rfl, view_liveRows_iff tidy]
      constructor
      · rintro ⟨row, listed, same⟩
        simp only [ProductImage.view, OnecImage.view, Prod.mk.injEq] at same
        refine ⟨fun kept => ?_, fun _ other also _ => ?_, fun _ _ => ⟨row, listed, same.2.1⟩⟩
        · rw [marked] at kept
          cases kept
        · rw [tidy.only listed also]
          exact ⟨same.1, same.2.2⟩
      · intro follows
        have known : ∃ row ∈ liveRows rows image.metadata.fileGuid,
            row.hashSha256 = (sha256 image.body).text := by
          rw [Bool.or_eq_true] at skipped
          rcases skipped with recent | same
          · exact follows.retried marked recent
          · exact (sameContent_iff tidy image).mp same
        obtain ⟨row, listed, same⟩ := known
        obtain ⟨product, main⟩ := follows.described marked row listed same
        refine ⟨row, listed, ?_⟩
        rw [ProductImage.view, OnecImage.view, product, same, main]
    | false =>
      rw [Bool.or_eq_false_iff] at skipped
      refine iff_of_true rfl ⟨fun kept => ?_, fun _ row listed same => ?_, fun _ recent => ?_⟩
      · rw [marked] at kept
        cases kept
      · have here := (sameContent_iff tidy image).mpr ⟨row, listed, same⟩
        rw [skipped.2] at here
        cases here
      · rw [skipped.1] at recent
        cases recent

/-- After any runs, a run without failures brings the live rows to the list exactly when the table
follows it. -/
theorem product_images_converge_iff (sha256 : Buffer → HexDigest) (history : List (ImageRun Buffer))
    (last : ImageRun Buffer) :
    ∃ rows result after, imagesAfter sha256 history = some rows ∧
      last.sync sha256 rows = some (result, after) ∧
      ∀ stats, result = .ok stats → stats.failed = 0 →
        (ImagesConverged sha256 last.images after ↔
          ImagesFollow sha256 last.setting last.images rows) := by
  obtain ⟨rows, reached, tidy⟩ := tidy_imagesAfter sha256 history
  obtain ⟨result, done, rest, ran, parts, ended⟩ := last.sync_cases sha256 rows
  refine ⟨rows, result, _, reached, ran, ?_⟩
  intro stats finished clean
  obtain ⟨nothing, failed⟩ := ended stats finished
  rw [nothing, List.append_nil] at parts
  subst parts
  rw [clean] at failed
  have settled := liveRows_syncItems sha256 last.setting last.images.unique
    (.empty, rows) tidy failed.symm
  constructor
  · intro converged
    constructor
    · intro row known live
      by_contra absent
      have kept := converged row.fileGuid
      rw [filter_file_of_not_mem absent, liveRows, fileRows_syncItems sha256 _ absent, List.map_nil,
        List.map_eq_nil_iff] at kept
      have member : row ∈ liveRows rows row.fileGuid := mem_liveRows.mpr ⟨known, live, rfl⟩
      rw [liveRows, kept] at member
      cases member
    · intro image listed
      rw [← settledLive_iff tidy, ← settled image listed, converged,
        filter_file_of_mem last.images.unique listed]
  · intro follows fileGuid
    by_cases listed : fileGuid ∈ last.images.items.map (·.metadata.fileGuid)
    · obtain ⟨image, member, rfl⟩ := List.mem_map.mp listed
      rw [settled image member, filter_file_of_mem last.images.unique member]
      exact (settledLive_iff tidy last.setting image).mpr (follows.each image member)
    · rw [filter_file_of_not_mem listed, liveRows, fileRows_syncItems sha256 _ listed, List.map_nil,
        List.map_eq_nil_iff, List.filter_eq_nil_iff]
      intro row own live
      rw [fileRows, List.mem_filter, decide_eq_true_eq] at own
      have known := follows.listed row own.1 live
      rw [own.2] at known
      exact listed known

end Runs

def oneImageRun (isMain : Bool) : ImageRun HexDigest where
  images :=
    { items := [⟨⟨"product", "file", some 0, isMain, false⟩, ⟨"00", by simp⟩⟩]
      unique := List.pairwise_singleton _ _ }
  unreadable := fun _ => none
  setting := ⟨86400000, fun _ => ⟨1000, none, false⟩⟩
  limit := none

/-- An image that becomes the main one stays as it was. -/
theorem product_images_do_not_converge :
    ¬ ∀ (history : List (ImageRun HexDigest)) (last : ImageRun HexDigest)
      (rows after : List ProductImage) (stats : SyncStats),
      imagesAfter id history = some rows → last.sync id rows = some (.ok stats, after) →
      stats.failed = 0 → ImagesConverged id last.images after := by
  intro converge
  let row : ProductImage := ⟨"product", "file", false, "00", some 0, 1000, none, .synced, none⟩
  have first : imagesAfter id [oneImageRun false] = some [row] := by decide
  have second : (oneImageRun true).sync id [row] = some (.ok ⟨1, 0, 1, 0, 0, []⟩, [row]) := by rfl
  have both := converge _ _ _ _ _ first second rfl "file"
  revert both
  decide

end LeaderProduct
