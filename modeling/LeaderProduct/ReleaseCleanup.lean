import LeaderProduct.AppReleases

/-! The clean-up of releases. It keeps the newest versions of one list over all platforms and
channels that it matches, active or not, and each object that a release left uses. -/
namespace LeaderProduct
open RankedWindow

section Code

structure ReleaseStore where
  table : AppUpdateTable
  objects : Finset String

def AppUpdateTable.delete (table : AppUpdateTable) (id : Nat) : AppUpdateTable where
  rows := table.rows.filter (fun row => row.id != id)
  uniqueIds := table.uniqueIds.sublist (List.filter_sublist.map _)
  uniqueVersions := table.uniqueVersions.sublist (List.filter_sublist.map _)

/-- The releases that use the object, but for the one to skip; an id of zero skips none. -/
def AppUpdateTable.usedCount (table : AppUpdateTable) (key : String) (skipUpdateId : Nat) : Nat :=
  table.rows.countP (fun row =>
    row.apkKey == some key && (skipUpdateId == 0 || row.id != skipUpdateId))

variable (fails : String → Bool)

/-- `fails` tells which deletions of an object fail; they are passed over. -/
def safeDeleteApk (store : ReleaseStore) (key : Option String) (skipUpdateId : Nat) : ReleaseStore :=
  match key.filter (· ≠ "") with
  | none => store
  | some key =>
    if 0 < store.table.usedCount key skipUpdateId then store
    else if fails key then store
    else { store with objects := store.objects.erase key }

def deleteRelease (purgeFile : Bool) (store : ReleaseStore) (u : AppUpdate) : ReleaseStore :=
  let left : ReleaseStore := { store with table := store.table.delete u.id }
  if purgeFile then safeDeleteApk fails left u.apkKey u.id else left

def Updates.parseBoolean : Json → Bool
  | .bool b => b
  | .number n => n = 1
  | .string text =>
    let v := JsString.toLowerCase (JsString.trim text)
    v = "true" ∨ v = "1" ∨ v = "yes"
  | _ => false

structure ReleaseCleanup where
  platform : Option AppPlatform
  channel : Option String
  keepLatest : Nat
  purgeFile : Bool

/-- `none` is a platform that throws. -/
def ReleaseCleanup.read (js : JsConversions) (body : Json) : Option ReleaseCleanup :=
  (Updates.parsePlatform (memberOf body "platform")).map (fun platform =>
    { platform := platform
      channel := ((memberOf body "channel").filter isTruthy).map (fun raw =>
        Updates.parseChannel js (some raw))
      keepLatest := (max ((JsString.parseInt
        (Updates.textOr js "1" (memberOf body "keepLatest"))).getD 1) 1).toNat
      purgeFile := ((memberOf body "purgeFile").map Updates.parseBoolean).getD true })

namespace ReleaseCleanup
variable (cleanup : ReleaseCleanup)

def selects (row : AppUpdate) : Bool :=
  cleanup.platform.all (· == row.platform) && cleanup.channel.all (· == row.channel)

def updates (table : AppUpdateTable) : List AppUpdate :=
  newestFirst (·.versionCode) (table.rows.filter cleanup.selects)

def toDelete (table : AppUpdateTable) : List AppUpdate :=
  (cleanup.updates table).drop cleanup.keepLatest

end ReleaseCleanup

structure ReleaseCleanupReport where
  deletedCount : Nat
  deletedIds : List Nat

/-- `POST /updates/cleanup`. -/
def cleanupReleases (js : JsConversions) (body : Json) (store : ReleaseStore) :
    ReleaseStore × Except UpdateRefusal ReleaseCleanupReport :=
  match ReleaseCleanup.read js body with
  | none => (store, .error ⟨500, "Ошибка очистки обновлений"⟩)
  | some cleanup =>
    let toDelete := cleanup.toDelete store.table
    (toDelete.foldl (deleteRelease fails cleanup.purgeFile) store,
      .ok ⟨toDelete.length, toDelete.map (·.id)⟩)

end Code

section Loop
variable {fails : String → Bool} {purgeFile : Bool} {store : ReleaseStore} {u row : AppUpdate}
  {key : String}

theorem safeDeleteApk_table {deleted : Option String} {skipUpdateId : Nat} :
    (safeDeleteApk fails store deleted skipUpdateId).table = store.table := by
  unfold safeDeleteApk
  split
  · rfl
  · split
    · rfl
    · split <;> rfl

theorem deleteRelease_table :
    (deleteRelease fails purgeFile store u).table = store.table.delete u.id := by
  unfold deleteRelease
  split
  · exact safeDeleteApk_table
  · rfl

theorem safeDeleteApk_keeps {skipUpdateId : Nat} {deleted : Option String}
    (left : row ∈ store.table.rows) (other : row.id ≠ skipUpdateId) (uses : row.apkKey = some key)
    (stored : key ∈ store.objects) :
    key ∈ (safeDeleteApk fails store deleted skipUpdateId).objects := by
  unfold safeDeleteApk
  split
  · exact stored
  · next gone _ =>
    split
    · exact stored
    · next unused =>
      split
      · exact stored
      · refine Finset.mem_erase.mpr ⟨?_, stored⟩
        rintro rfl
        refine unused (List.countP_pos_iff.mpr ⟨row, left, ?_⟩)
        simp [uses, other]

theorem deleteRelease_objects (left : row ∈ (store.table.delete u.id).rows)
    (uses : row.apkKey = some key) (stored : key ∈ store.objects) :
    key ∈ (deleteRelease fails purgeFile store u).objects := by
  have other : row.id ≠ u.id := by
    have apart := (List.mem_filter.mp left).2
    simpa using apart
  unfold deleteRelease
  split
  · exact safeDeleteApk_keeps left other uses stored
  · exact stored

theorem deleteReleases_rows (releases : List AppUpdate) (store : ReleaseStore) :
    (releases.foldl (deleteRelease fails purgeFile) store).table.rows =
      store.table.rows.filter (fun row => row.id ∉ releases.map (·.id)) := by
  induction releases generalizing store with
  | nil => simp
  | cons u rest ih =>
    rw [List.foldl_cons, ih, deleteRelease_table, AppUpdateTable.delete, List.filter_filter]
    refine List.filter_congr (fun row _ => ?_)
    by_cases same : row.id = u.id
    · simp [same]
    · simp [same]

theorem deleteReleases_objects (releases : List AppUpdate) (store : ReleaseStore)
    (left : row ∈ (releases.foldl (deleteRelease fails purgeFile) store).table.rows)
    (uses : row.apkKey = some key) (stored : key ∈ store.objects) :
    key ∈ (releases.foldl (deleteRelease fails purgeFile) store).objects := by
  induction releases generalizing store with
  | nil => exact stored
  | cons u rest ih =>
    refine ih (deleteRelease fails purgeFile store u) left (deleteRelease_objects ?_ uses stored)
    rw [List.foldl_cons, deleteReleases_rows, deleteRelease_table] at left
    exact List.mem_of_mem_filter left

end Loop

section Kept
variable (js : JsConversions) (fails : String → Bool) (body : Json) (store : ReleaseStore)

def AppUpdateTable.ofChannel (table : AppUpdateTable) (platform : AppPlatform) (channel : String) :
    List AppUpdate :=
  table.rows.filter (fun row => row.platform == platform && row.channel == channel)

structure KeepsOffered (after : ReleaseStore) : Prop where
  newest : ∀ platform channel latest, store.table.latestActive platform channel = some latest →
    latest ∈ after.table.rows ∧
      ∀ key, latest.apkKey = some key → key ∈ store.objects → key ∈ after.objects
  enough : ∀ cleanup platform channel, ReleaseCleanup.read js body = some cleanup →
    cleanup.keepLatest ≤ (store.table.ofChannel platform channel).length →
    cleanup.keepLatest ≤ (after.table.ofChannel platform channel).length

/-- How many of the releases that the clean-up matches stand before the release. -/
def ReleaseCleanup.place (cleanup : ReleaseCleanup) (table : AppUpdateTable) (row : AppUpdate) : Nat :=
  rank (·.versionCode) (·.id) (table.rows.filter cleanup.selects) row

/-- The newest active releases are among the first of the matching ones, and a platform and channel
with enough releases has all of these. -/
structure SparesOffered (cleanup : ReleaseCleanup) (table : AppUpdateTable) : Prop where
  newest : ∀ platform channel latest, table.latestActive platform channel = some latest →
    cleanup.selects latest = true → cleanup.place table latest < cleanup.keepLatest
  enough : ∀ platform channel, cleanup.keepLatest ≤ (table.ofChannel platform channel).length →
    (∃ row ∈ table.ofChannel platform channel, cleanup.selects row = true) →
    ∀ row ∈ table.rows, cleanup.selects row = true → cleanup.place table row < cleanup.keepLatest →
      row.platform = platform ∧ row.channel = channel

variable {fails store} {cleanup : ReleaseCleanup} {table : AppUpdateTable}

theorem matching_ids (cleanup : ReleaseCleanup) (table : AppUpdateTable) :
    ((table.rows.filter cleanup.selects).map (·.id)).Nodup :=
  table.uniqueIds.sublist (List.filter_sublist.map _)

theorem mem_updates {row : AppUpdate} : row ∈ cleanup.updates table ↔
    row ∈ table.rows ∧ cleanup.selects row = true :=
  mem_newestFirst.trans List.mem_filter

theorem mem_first {row : AppUpdate} : row ∈ (cleanup.updates table).take cleanup.keepLatest ↔
    (row ∈ table.rows ∧ cleanup.selects row = true) ∧
      cleanup.place table row < cleanup.keepLatest := by
  have window : row ∈ ((cleanup.updates table).take cleanup.keepLatest).drop 0 ↔ _ :=
    mem_newestFirst_window (matching_ids cleanup table) 0 cleanup.keepLatest
  rw [List.drop_zero, List.mem_filter] at window
  rw [window, ReleaseCleanup.place]
  simp only [Nat.zero_le, true_and]

theorem mem_toDelete {row : AppUpdate} : row ∈ cleanup.toDelete table ↔
    (row ∈ table.rows ∧ cleanup.selects row = true) ∧
      cleanup.keepLatest ≤ cleanup.place table row := by
  have distinct : (cleanup.updates table).Nodup :=
    ((List.perm_insertionSort _ _).map (·.id)).nodup_iff.mpr (matching_ids cleanup table) |>.of_map _
  have parts := List.take_append_drop cleanup.keepLatest (cleanup.updates table)
  rw [← parts, List.nodup_append] at distinct
  rw [ReleaseCleanup.toDelete, ← mem_updates]
  constructor
  · intro late
    refine ⟨List.mem_of_mem_drop late, not_lt.mp fun early => ?_⟩
    have first := mem_first.mpr ⟨mem_updates.mp (List.mem_of_mem_drop late), early⟩
    exact distinct.2.2 row first row late rfl
  · rintro ⟨listed, late⟩
    rw [← parts, List.mem_append] at listed
    exact listed.resolve_left fun early => (mem_first.mp early).2.not_ge late

theorem id_mem_toDelete {row : AppUpdate} (listed : row ∈ table.rows) :
    row.id ∈ (cleanup.toDelete table).map (·.id) ↔ row ∈ cleanup.toDelete table := by
  constructor
  · intro there
    obtain ⟨other, late, same⟩ := List.mem_map.mp there
    obtain rfl := List.inj_on_of_nodup_map table.uniqueIds (mem_toDelete.mp late).1.1 listed same
    exact late
  · exact List.mem_map_of_mem

theorem cleanupReleases_eq (reads : ReleaseCleanup.read js body = some cleanup) :
    (cleanupReleases fails js body store).1 =
      (cleanup.toDelete store.table).foldl (deleteRelease fails cleanup.purgeFile) store := by
  rw [cleanupReleases, reads]

theorem cleanupReleases_rows (reads : ReleaseCleanup.read js body = some cleanup) {row : AppUpdate} :
    row ∈ (cleanupReleases fails js body store).1.table.rows ↔
      row ∈ store.table.rows ∧ row ∉ cleanup.toDelete store.table := by
  rw [cleanupReleases_eq js body reads, deleteReleases_rows, List.mem_filter, decide_eq_true_iff]
  exact and_congr_right fun listed => not_congr (id_mem_toDelete listed)

theorem le_countP_take_iff {R : Type} {rows : List R} {n : Nat} {p : R → Bool}
    (enough : n ≤ rows.length) : n ≤ (rows.take n).countP p ↔ ∀ row ∈ rows.take n, p row = true := by
  have full : (rows.take n).length = n := by rw [List.length_take, min_eq_left enough]
  have most := List.countP_le_length (p := p) (l := rows.take n)
  rw [← List.countP_eq_length, full]
  omega

theorem ofChannel_left (reads : ReleaseCleanup.read js body = some cleanup) {platform : AppPlatform}
    {channel : String}
    (matched : ∀ row, row.platform = platform → row.channel = channel → cleanup.selects row = true) :
    ((cleanupReleases fails js body store).1.table.ofChannel platform channel).length =
      ((cleanup.updates store.table).take cleanup.keepLatest).countP
        (fun row => row.platform == platform && row.channel == channel) := by
  let group : AppUpdate → Bool := fun row => row.platform == platform && row.channel == channel
  let left : AppUpdate → Bool := fun row => decide (row.id ∉ (cleanup.toDelete store.table).map (·.id))
  have rows : (cleanupReleases fails js body store).1.table.rows = store.table.rows.filter left := by
    rw [cleanupReleases_eq js body reads, deleteReleases_rows]
  have inside : ∀ row, (group row && left row) = ((group row && left row) && cleanup.selects row) := by
    intro row
    cases member : group row with
    | false => rfl
    | true =>
      obtain ⟨ofPlatform, ofChannel⟩ := Bool.and_eq_true_iff.mp member
      rw [matched row (by simpa using ofPlatform) (by simpa using ofChannel), Bool.and_true]
  have kept : ∀ row ∈ (cleanup.updates store.table).take cleanup.keepLatest, left row = true := by
    intro row early
    obtain ⟨⟨listed, -⟩, before⟩ := mem_first.mp early
    refine decide_eq_true fun late => ?_
    exact (mem_toDelete.mp ((id_mem_toDelete listed).mp late)).2.not_gt before
  have gone : ∀ row ∈ cleanup.toDelete store.table, left row = false := by
    intro row late
    exact decide_eq_false fun out => out (List.mem_map_of_mem late)
  calc ((cleanupReleases fails js body store).1.table.ofChannel platform channel).length
      = store.table.rows.countP (fun row => group row && left row) := by
        rw [AppUpdateTable.ofChannel, rows, List.filter_filter, ← List.countP_eq_length_filter]
    _ = (store.table.rows.filter cleanup.selects).countP (fun row => group row && left row) := by
        rw [List.countP_filter]
        exact List.countP_congr fun row _ => by rw [← inside row]
    _ = (cleanup.updates store.table).countP (fun row => group row && left row) :=
        ((List.perm_insertionSort _ _).countP_eq _).symm
    _ = ((cleanup.updates store.table).take cleanup.keepLatest).countP
          (fun row => group row && left row) := by
        rw [← List.take_append_drop cleanup.keepLatest (cleanup.updates store.table),
          List.countP_append, List.take_append_drop]
        refine Nat.add_eq_left.mpr (List.countP_eq_zero.mpr fun row late => ?_)
        rw [gone row late, Bool.and_false]
        exact Bool.false_ne_true
    _ = ((cleanup.updates store.table).take cleanup.keepLatest).countP group :=
        List.countP_congr fun row early => by rw [kept row early, Bool.and_true]

theorem newest_kept_iff (reads : ReleaseCleanup.read js body = some cleanup) :
    (∀ platform channel latest, store.table.latestActive platform channel = some latest →
      latest ∈ (cleanupReleases fails js body store).1.table.rows ∧
        ∀ key, latest.apkKey = some key → key ∈ store.objects →
          key ∈ (cleanupReleases fails js body store).1.objects) ↔
    ∀ platform channel latest, store.table.latestActive platform channel = some latest →
      cleanup.selects latest = true → cleanup.place store.table latest < cleanup.keepLatest := by
  have run : (cleanupReleases fails js body store).1 = _ := cleanupReleases_eq js body reads
  refine forall₄_congr fun platform channel latest found => ?_
  have listed : latest ∈ store.table.rows :=
    List.mem_of_mem_filter (mem_newestFirst.mp (List.mem_of_head? found))
  rw [cleanupReleases_rows js body reads, mem_toDelete]
  constructor
  · rintro ⟨⟨-, kept⟩, -⟩ selected
    exact not_le.mp fun late => kept ⟨⟨listed, selected⟩, late⟩
  · intro early
    have kept : ¬((latest ∈ store.table.rows ∧ cleanup.selects latest = true) ∧
        cleanup.keepLatest ≤ cleanup.place store.table latest) :=
      fun late => (early late.1.2).not_ge late.2
    refine ⟨⟨listed, kept⟩, fun key uses stored => ?_⟩
    rw [run]
    refine deleteReleases_objects _ store ?_ uses stored
    rw [← run, cleanupReleases_rows js body reads, mem_toDelete]
    exact ⟨listed, kept⟩

theorem selects_ofChannel {platform : AppPlatform} {channel : String}
    (some_matched : ∃ row ∈ table.ofChannel platform channel, cleanup.selects row = true)
    (row : AppUpdate) (ofPlatform : row.platform = platform) (ofChannel : row.channel = channel) :
    cleanup.selects row = true := by
  obtain ⟨other, listed, selected⟩ := some_matched
  have there : other.platform = platform ∧ other.channel = channel := by
    simpa using (List.mem_filter.mp listed).2
  rw [ReleaseCleanup.selects, there.1, there.2] at selected
  rw [ReleaseCleanup.selects, ofPlatform, ofChannel]
  exact selected

theorem enough_kept_iff (reads : ReleaseCleanup.read js body = some cleanup) (platform : AppPlatform)
    (channel : String) :
    (cleanup.keepLatest ≤ (store.table.ofChannel platform channel).length →
      cleanup.keepLatest ≤
        ((cleanupReleases fails js body store).1.table.ofChannel platform channel).length) ↔
    (cleanup.keepLatest ≤ (store.table.ofChannel platform channel).length →
      (∃ row ∈ store.table.ofChannel platform channel, cleanup.selects row = true) →
      ∀ row ∈ store.table.rows, cleanup.selects row = true →
        cleanup.place store.table row < cleanup.keepLatest →
        row.platform = platform ∧ row.channel = channel) := by
  refine imp_congr_right fun enough => ?_
  by_cases some_matched : ∃ row ∈ store.table.ofChannel platform channel, cleanup.selects row = true
  · have matched := selects_ofChannel some_matched
    have most : cleanup.keepLatest ≤ (cleanup.updates store.table).length := by
      refine enough.trans ?_
      rw [ReleaseCleanup.updates, newestFirst, List.length_insertionSort, AppUpdateTable.ofChannel,
        ← List.countP_eq_length_filter, ← List.countP_eq_length_filter]
      refine List.countP_mono_left fun row _ inside => ?_
      have here : row.platform = platform ∧ row.channel = channel := by simpa using inside
      exact matched row here.1 here.2
    rw [ofChannel_left js body reads matched, le_countP_take_iff most]
    simp only [mem_first, and_imp, Bool.and_eq_true, beq_iff_eq, some_matched, forall_const]
  · -- none of them is touched
    refine iff_of_true (enough.trans (le_of_eq ?_)) (fun wrong => absurd wrong some_matched)
    rw [AppUpdateTable.ofChannel, AppUpdateTable.ofChannel, cleanupReleases_eq js body reads,
      deleteReleases_rows, List.filter_filter]
    congr 1
    refine List.filter_congr fun row listed => ?_
    cases inside : row.platform == platform && row.channel == channel with
    | false => rw [Bool.false_and]
    | true =>
      have kept : row.id ∉ (cleanup.toDelete store.table).map (·.id) := fun late =>
        some_matched ⟨row, List.mem_filter.mpr ⟨listed, inside⟩,
          (mem_toDelete.mp ((id_mem_toDelete listed).mp late)).1.2⟩
      rw [Bool.true_and, decide_eq_true kept]

/-- A clean-up leaves what devices are offered just when each newest active release that it matches
is among the first, and all of these are of a platform and channel that has enough. -/
theorem cleanup_keeps_offered_iff (fails : String → Bool) (store : ReleaseStore) :
    KeepsOffered js body store (cleanupReleases fails js body store).1 ↔
      ∀ cleanup, ReleaseCleanup.read js body = some cleanup → SparesOffered cleanup store.table := by
  cases reads : ReleaseCleanup.read js body with
  | none =>
    refine iff_of_true ⟨fun platform channel latest found => ?_, fun cleanup _ _ wrong => ?_⟩
      (fun cleanup wrong => nomatch wrong)
    · rw [cleanupReleases, reads]
      exact ⟨List.mem_of_mem_filter (mem_newestFirst.mp (List.mem_of_head? found)),
        fun key _ stored => stored⟩
    · rw [reads] at wrong
      cases wrong
  | some cleanup =>
    constructor
    · rintro ⟨newest, enough⟩ other same
      obtain rfl := Option.some.inj same
      exact ⟨(newest_kept_iff js body reads).mp newest, fun platform channel =>
        (enough_kept_iff js body reads platform channel).mp (enough cleanup platform channel reads)⟩
    · intro spares
      obtain ⟨newest, enough⟩ := spares cleanup rfl
      refine ⟨(newest_kept_iff js body reads).mpr newest, fun other platform channel same => ?_⟩
      rw [reads] at same
      obtain rfl := Option.some.inj same
      exact (enough_kept_iff js body reads platform channel).mpr (enough platform channel)

end Kept

def twoPlatforms : ReleaseStore where
  table :=
    { rows :=
        [⟨1, .android, "prod", 5, "2.0", 1, false, 100, true, none, none, some "5.apk", none, none,
            none⟩,
          ⟨2, .ios, "prod", 3, "1.2", 1, false, 100, true, none, none, some "3.ipa", none, none, none⟩]
      uniqueIds := by decide
      uniqueVersions := by decide }
  objects := {"5.apk", "3.ipa"}

theorem cleanup_removes_offered : ¬KeepsOffered OtaSample.conversions (.object []) twoPlatforms
    (cleanupReleases (fun _ => false) OtaSample.conversions (.object []) twoPlatforms).1 :=
  fun kept => absurd (kept.newest .ios "prod" _ rfl).1 (by decide)

end LeaderProduct
