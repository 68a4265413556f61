import Mathlib.Data.List.Basic
import LeaderProduct.CatalogWrites

/-! When every client of the catalog feed converges. -/
namespace LeaderProduct
open Transition

section Pages
variable {t : Tables} {cursor : Option String} {limit afterRevision : Nat} {guid : String}

theorem mem_snapshotRows (facts : IndexFacts t) : guid ∈ snapshotRows t cursor ↔
    (t.products guid).any (·.isActive) = true ∧ ∀ last ∈ cursor, last < guid := by
  simp only [snapshotRows, List.mem_filter, Bool.and_eq_true]
  constructor
  · rintro ⟨-, active, behind⟩
    refine ⟨active, fun last here => ?_⟩
    rw [Option.mem_def.mp here, Option.all_some, decide_eq_true_eq] at behind
    exact behind
  · rintro ⟨active, behind⟩
    refine ⟨(facts.listed guid).mpr ?_, active, ?_⟩
    · cases stored : t.products guid with
      | none =>
        rw [stored] at active
        cases active
      | some row => rfl
    · cases cursor with
      | none => rfl
      | some last => exact decide_eq_true (behind last rfl)

theorem snapshotPage_eq : snapshotPage t cursor limit = (snapshotRows t cursor).take limit := by
  rw [snapshotPage, List.take_take, Nat.min_eq_left (Nat.le_succ limit)]

theorem snapshotHasMore_iff :
    snapshotHasMore t cursor limit = true ↔ limit < (snapshotRows t cursor).length := by
  rw [snapshotHasMore, decide_eq_true_eq, List.length_take]
  omega

theorem snapshotRows_ascending (facts : IndexFacts t) :
    (snapshotRows t cursor).Pairwise (· < ·) :=
  facts.ascending.filter _

/-- A page that is not the last one ends with a product that has every row of the page before
it and every other row behind it. -/
theorem snapshotPage_last (facts : IndexFacts t) (some_row : 0 < limit)
    (more : snapshotHasMore t cursor limit = true) :
    ∃ last, (snapshotPage t cursor limit).getLast? = some last ∧
      last ∈ snapshotRows t cursor ∧
      ∀ guid ∈ snapshotRows t cursor, guid ∈ snapshotPage t cursor limit ↔ guid ≤ last := by
  have ascending := @snapshotRows_ascending t cursor facts
  have longer := snapshotHasMore_iff.mp more
  rw [snapshotPage_eq]
  rw [← List.take_append_drop limit (snapshotRows t cursor)] at ascending
  obtain ⟨within, -, across⟩ := List.pairwise_append.mp ascending
  cases ending : ((snapshotRows t cursor).take limit).getLast? with
  | none =>
    have empty := congrArg List.length (List.getLast?_eq_none_iff.mp ending)
    rw [List.length_take, List.length_nil] at empty
    omega
  | some last =>
    have there := List.mem_of_getLast? ending
    refine ⟨last, rfl, List.mem_of_mem_take there, fun guid row => ⟨fun onPage => ?_, fun before => ?_⟩⟩
    · obtain ⟨front, split⟩ := List.getLast?_eq_some_iff.mp ending
      rw [split] at within onPage
      rcases List.mem_append.mp onPage with inFront | final
      · exact le_of_lt ((List.pairwise_append.mp within).2.2 guid inFront last
          (List.mem_singleton.mpr rfl))
      · exact le_of_eq (List.mem_singleton.mp final)
    · rw [← List.take_append_drop limit (snapshotRows t cursor)] at row
      rcases List.mem_append.mp row with onPage | behind
      · exact onPage
      · exact absurd (across last there guid behind) (not_lt_of_ge before)

theorem snapshotPage_whole (last : snapshotHasMore t cursor limit = false) :
    snapshotPage t cursor limit = snapshotRows t cursor := by
  rw [snapshotPage_eq]
  refine List.take_of_length_le (Nat.le_of_not_lt fun longer => ?_)
  rw [snapshotHasMore_iff.mpr longer] at last
  cases last

theorem served_none (inactive : (t.products guid).any (·.isActive) = false) :
    served t guid = none := by
  cases stored : t.products guid with
  | none => rw [served, stored, Option.filter_none, Option.map_none]
  | some row =>
    rw [stored, Option.any_some] at inactive
    rw [served, stored, Option.filter_some, inactive]
    rfl

theorem mem_changedGuids : guid ∈ changedGuids t afterRevision limit ↔
    ∃ entry ∈ changesPage t.changes t.sequence afterRevision limit, entry.2.productGuid = guid := by
  rw [changedGuids, List.mem_map]
  exact mem_latestChanges_guid

theorem changesHasMore_iff {log : CatalogLog} {sequence : Nat} :
    changesHasMore log sequence afterRevision limit = true ↔
      limit < (changesAfter log sequence afterRevision).length := by
  rw [changesHasMore, decide_eq_true_eq, List.length_take]
  omega

end Pages

section Reader

def ReaderPhase.Passed : ReaderPhase → String → Prop
  | .snapshot cursor, guid => ∃ last ∈ cursor, guid ≤ last
  | .changes _, _ => True

def CatalogReader.revision (reader : CatalogReader) : Nat :=
  match reader.phase with
  | .snapshot _ => reader.snapshotRevision
  | .changes afterRevision => afterRevision

def Owed (t : Tables) (afterRevision : Nat) (guid : String) : Prop :=
  ∃ revision change, afterRevision < revision ∧ t.changes revision = some change ∧
    change.productGuid = guid

structure ReaderFacts (t : Tables) (reader : CatalogReader) : Prop where
  revision : reader.revision ≤ t.catalogState.currentRevision
  unread : ∀ guid, ¬ reader.phase.Passed guid → reader.items guid = none
  passed : t.catalogState.minAvailableRevision ≤ reader.revision →
    ∀ guid, reader.phase.Passed guid →
      reader.items guid = served t guid ∨ Owed t reader.revision guid

variable {epochs : Epochs} {c c' : Catalog} {t : Tables} {reader : CatalogReader}
  {now : Instant} {limit afterRevision : Nat} {cursor : Option String} {guid : String}

theorem ReaderFacts.written (facts : ReaderFacts c.tables reader) (log : LogFacts c.now c.tables)
    (outcome : WriteOutcome epochs c c')
    (fresh : c'.tables.catalogState.epoch ≠ epochs.uuid c.drawn)
    (records : ∀ guid, served c'.tables guid ≠ served c.tables guid →
      Owed c'.tables c.tables.sequence guid) : ReaderFacts c'.tables reader := by
  have below := facts.revision
  have current := log.current
  cases outcome with
  | grown kept =>
    refine ⟨?_, facts.unread, fun least guid passed => ?_⟩
    · rcases kept.current with same | grown
      · rw [same]
        exact below
      · omega
    · rw [kept.least] at least
      by_cases same : served c'.tables guid = served c.tables guid
      · rcases facts.passed least guid passed with has | ⟨revision, change, ahead, stored, named⟩
        · exact .inl (has.trans same.symm)
        · have numbered := Nat.le_trans (log.stored stored).2.1 current
          exact .inr ⟨revision, change, ahead, (kept.changes numbered).trans stored, named⟩
      · obtain ⟨revision, change, ahead, stored, named⟩ := records guid same
        exact .inr ⟨revision, change, by omega, stored, named⟩
  | renewed epoch _ => exact absurd epoch fresh
  | pruned same _ kept least changes =>
    refine ⟨by rw [kept]; exact below, facts.unread, fun enough guid passed => ?_⟩
    rw [same]
    rcases facts.passed (Nat.le_trans least enough) guid passed with has | owed
    · exact .inl has
    · obtain ⟨revision, change, ahead, stored, named⟩ := owed
      exact .inr ⟨revision, change, ahead, changes stored (Nat.lt_of_le_of_lt enough ahead), named⟩

theorem readPage_revision (snapshot : reader.phase = .snapshot cursor) :
    (readPage t reader cursor limit).revision = reader.revision := by
  unfold CatalogReader.revision
  rw [snapshot]
  unfold readPage
  dsimp only
  by_cases more : snapshotHasMore t cursor limit = true
  · rw [if_pos more]
  · rw [if_neg more]

theorem readPage_passed (index : IndexFacts t) (some_row : 0 < limit)
    (passed : (readPage t reader cursor limit).phase.Passed guid)
    (absent : guid ∉ snapshotPage t cursor limit) :
    (ReaderPhase.snapshot cursor).Passed guid ∨ served t guid = none := by
  by_cases before : ∃ last ∈ cursor, guid ≤ last
  · exact .inl before
  · right
    refine served_none (Bool.eq_false_iff.mpr fun active => absent ?_)
    have row : guid ∈ snapshotRows t cursor :=
      (mem_snapshotRows index).mpr ⟨active, fun last here =>
        lt_of_not_ge fun covered => before ⟨last, here, covered⟩⟩
    cases more : snapshotHasMore t cursor limit with
    | false =>
      rw [snapshotPage_whole more]
      exact row
    | true =>
      obtain ⟨last, ending, -, within⟩ := snapshotPage_last index some_row more
      refine (within guid row).mpr ?_
      simp only [readPage, more, if_true, ending] at passed
      obtain ⟨_, here, upTo⟩ := passed
      cases here
      exact upTo

theorem readPage_unread (index : IndexFacts t) (some_row : 0 < limit)
    (unread : ¬ (readPage t reader cursor limit).phase.Passed guid) :
    ¬ (ReaderPhase.snapshot cursor).Passed guid ∧ guid ∉ snapshotPage t cursor limit := by
  cases more : snapshotHasMore t cursor limit with
  | false =>
    simp only [readPage, more] at unread
    exact absurd trivial unread
  | true =>
    obtain ⟨last, ending, final, within⟩ := snapshotPage_last index some_row more
    simp only [readPage, more, if_true, ending] at unread
    have behind : last < guid := lt_of_not_ge fun upTo => unread ⟨last, rfl, upTo⟩
    constructor
    · rintro ⟨before, here, upTo⟩
      exact absurd (lt_of_le_of_lt upTo (((mem_snapshotRows index).mp final).2 before here))
        (lt_asymm behind)
    · intro onPage
      have row : guid ∈ snapshotRows t cursor := by
        rw [snapshotPage_eq] at onPage
        exact List.mem_of_mem_take onPage
      exact absurd ((within guid row).mp onPage) (not_le_of_gt behind)

theorem ReaderFacts.page (facts : ReaderFacts t reader) (index : IndexFacts t)
    (snapshot : reader.phase = .snapshot cursor) (some_row : 0 < limit) :
    ReaderFacts t (readPage t reader cursor limit) := by
  have revision := @readPage_revision t reader limit cursor snapshot
  refine ⟨by rw [revision]; exact facts.revision, fun guid unread => ?_, fun least guid passed => ?_⟩
  · obtain ⟨before, absent⟩ := readPage_unread index some_row unread
    rw [← snapshot] at before
    exact (if_neg absent).trans (facts.unread guid before)
  · rw [revision] at least ⊢
    by_cases onPage : guid ∈ snapshotPage t cursor limit
    · exact .inl (if_pos onPage)
    · have same : (readPage t reader cursor limit).items guid = reader.items guid := if_neg onPage
      rw [same]
      by_cases before : reader.phase.Passed guid
      · exact facts.passed least guid before
      · have gone := readPage_passed index some_row passed onPage
        rw [← snapshot] at gone
        rw [facts.unread guid before, gone.resolve_left before]
        exact .inl rfl

theorem ReaderFacts.opened (index : IndexFacts t) (limit : PageLimit) :
    ReaderFacts t (openSnapshot t limit) := by
  refine ReaderFacts.page ⟨Nat.le_refl _, fun _ _ => rfl, fun _ guid passed => ?_⟩ index rfl
    (Nat.lt_of_lt_of_le (by decide) limit.least)
  obtain ⟨_, none, _⟩ := passed
  cases none

theorem owed_behind_page (log : LogFacts now t) (owed : Owed t afterRevision guid) :
    guid ∈ changedGuids t afterRevision limit ∨
      Owed t (nextRevision t.changes t.sequence afterRevision limit) guid := by
  obtain ⟨revision, change, ahead, stored, named⟩ := owed
  have listed : (revision, change) ∈ changesAfter t.changes t.sequence afterRevision :=
    mem_changesAfter.mpr ⟨Nat.le_trans (log.stored stored).2.1 log.current, ahead, stored⟩
  rcases mem_page_or_nextRevision_lt listed with onPage | behind
  · exact .inl (mem_changedGuids.mpr ⟨_, onPage, named⟩)
  · exact .inr ⟨revision, change, behind, stored, named⟩

theorem nextRevision_stored :
    nextRevision t.changes t.sequence afterRevision limit = afterRevision ∨
      ∃ entry ∈ changesAfter t.changes t.sequence afterRevision,
        nextRevision t.changes t.sequence afterRevision limit = entry.1 := by
  rw [nextRevision, changesPage_eq]
  cases last : ((changesAfter t.changes t.sequence afterRevision).take limit).getLast? with
  | none => exact .inl rfl
  | some entry =>
    exact .inr ⟨entry, List.mem_of_mem_take (List.mem_of_getLast? last), rfl⟩

theorem ReaderFacts.changePage (facts : ReaderFacts t reader) (log : LogFacts now t)
    (changes : reader.phase = .changes afterRevision)
    (least : t.catalogState.minAvailableRevision ≤ afterRevision) :
    ReaderFacts t (readChangePage t reader afterRevision limit) := by
  have revision : reader.revision = afterRevision := by
    rw [CatalogReader.revision, changes]
  have below := facts.revision
  refine ⟨?_, fun _ unread => absurd trivial unread, fun _ guid _ => ?_⟩
  · change nextRevision t.changes t.sequence afterRevision limit ≤ t.catalogState.currentRevision
    rcases @nextRevision_stored t limit afterRevision with same | ⟨entry, listed, same⟩
    · omega
    · rw [same]
      exact (log.stored (mem_changesAfter.mp listed).2.2).2.1
  · by_cases onPage : guid ∈ changedGuids t afterRevision limit
    · exact .inl (if_pos onPage)
    · have same : (readChangePage t reader afterRevision limit).items guid = reader.items guid :=
        if_neg onPage
      have passed : reader.phase.Passed guid := by
        rw [changes]
        trivial
      rw [same]
      rcases facts.passed (by omega) guid passed with has | owed
      · exact .inl has
      · rw [revision] at owed
        exact .inr ((owed_behind_page log owed).resolve_left onPage)

theorem ReaderFacts.changePage_last (facts : ReaderFacts t reader) (log : LogFacts now t)
    (changes : reader.phase = .changes afterRevision)
    (least : t.catalogState.minAvailableRevision ≤ afterRevision)
    (last : changesHasMore t.changes t.sequence afterRevision limit = false) :
    (readChangePage t reader afterRevision limit).items = served t := by
  funext guid
  by_cases onPage : guid ∈ changedGuids t afterRevision limit
  · exact if_pos onPage
  · have same : (readChangePage t reader afterRevision limit).items guid = reader.items guid :=
      if_neg onPage
    have revision : reader.revision = afterRevision := by
      rw [CatalogReader.revision, changes]
    have passed : reader.phase.Passed guid := by
      rw [changes]
      trivial
    rw [same]
    refine (facts.passed (by omega) guid passed).resolve_right fun owed => ?_
    rw [revision] at owed
    obtain ⟨stored, change, ahead, there, named⟩ := owed
    have listed : (stored, change) ∈ changesAfter t.changes t.sequence afterRevision :=
      mem_changesAfter.mpr ⟨Nat.le_trans (log.stored there).2.1 log.current, ahead, there⟩
    have whole : changesPage t.changes t.sequence afterRevision limit =
        changesAfter t.changes t.sequence afterRevision := by
      rw [changesPage_eq]
      refine List.take_of_length_le (Nat.le_of_not_lt fun longer => ?_)
      rw [changesHasMore_iff.mpr longer] at last
      cases last
    rw [← whole] at listed
    exact onPage (mem_changedGuids.mpr ⟨_, listed, named⟩)

end Reader

section Feed
variable {epochs : Epochs} {s : CatalogFeed} {reader : CatalogReader} {limit : PageLimit}
  {t : Tables}

theorem validateEpoch_none {actual requested : String}
    (admitted : validateEpoch actual (some requested) = none) : requested = actual := by
  unfold validateEpoch at admitted
  split at admitted
  · cases admitted
  · rename_i same
    simpa using same

theorem refuseChanges_none {afterRevision : Nat}
    (least : t.catalogState.minAvailableRevision ≤ t.catalogState.currentRevision)
    (admitted : ¬ (refuseChanges t.catalogState afterRevision (some reader.epoch)).isSome = true) :
    reader.epoch = t.catalogState.epoch ∧ t.catalogState.minAvailableRevision ≤ afterRevision := by
  rw [Option.not_isSome_iff_eq_none, refuseChanges, Option.or_eq_none_iff] at admitted
  obtain ⟨epoch, covered⟩ := admitted
  refine ⟨validateEpoch_none epoch, ?_⟩
  split at covered
  · cases covered
  · omega

structure FeedFacts (epochs : Epochs) (s : CatalogFeed) : Prop where
  catalog : CatalogFacts epochs s.catalog
  drawn : ∀ reader ∈ s.reader, ∃ k < s.catalog.drawn, reader.epoch = epochs.uuid k
  reader : ∀ reader ∈ s.reader, reader.epoch = s.catalog.tables.catalogState.epoch →
    ReaderFacts s.catalog.tables reader
  converged : FeedConverged s

theorem writeCatalog_drawn (c : Catalog) (w : CatalogWrite) :
    c.drawn ≤ (writeCatalog epochs c w).drawn := by
  cases w with
  | promote db session staged => exact Nat.le_succ _
  | live item => exact Nat.le_refl _
  | manifest =>
    have same := @getCatalogManifest_drawn c
    simp only [writeCatalog]
    exact Nat.le_of_eq same.symm
  | wait time => exact Nat.le_refl _

theorem FeedFacts.write (facts : FeedFacts epochs s) (w : CatalogWrite)
    (records : RecordsServed epochs s.catalog w) :
    FeedFacts epochs (feedStep epochs s (.write w)) := by
  obtain ⟨catalog, outcome⟩ := writeCatalog_outcome facts.catalog w
  refine ⟨catalog, fun reader there => ?_, fun reader there same => ?_, nofun⟩
  · obtain ⟨k, below, drawn⟩ := facts.drawn reader there
    exact ⟨k, Nat.lt_of_lt_of_le below (writeCatalog_drawn s.catalog w), drawn⟩
  · obtain ⟨k, below, drawn⟩ := facts.drawn reader there
    have fresh : (writeCatalog epochs s.catalog w).tables.catalogState.epoch ≠
        epochs.uuid s.catalog.drawn := by
      intro renewed
      have again : epochs.uuid k = epochs.uuid s.catalog.drawn :=
        drawn.symm.trans (same.trans renewed)
      exact absurd (epochs.distinct again) (Nat.ne_of_lt below)
    have epoch : (writeCatalog epochs s.catalog w).tables.catalogState.epoch =
        s.catalog.tables.catalogState.epoch := by
      cases outcome with
      | grown kept => exact kept.epoch
      | renewed renewed _ => exact absurd renewed fresh
      | pruned _ epoch _ _ _ => exact epoch
    refine (facts.reader reader there (same.trans epoch)).written facts.catalog.log outcome fresh ?_
    exact records.resolve_left (fun changed => changed epoch)

theorem FeedFacts.request (facts : FeedFacts epochs s) {after : CatalogReader}
    {upToDate : Bool} (there : reader ∈ s.reader) (epoch : after.epoch = reader.epoch)
    (read : reader.epoch = s.catalog.tables.catalogState.epoch →
      ReaderFacts s.catalog.tables after)
    (converged : upToDate = true → after.items = served s.catalog.tables) :
    FeedFacts epochs { s with reader := some after, upToDate := upToDate } := by
  refine ⟨facts.catalog, fun _ here => ?_, fun _ here same => ?_, fun told _ here => ?_⟩
  · cases here
    rw [epoch]
    exact facts.drawn reader there
  · cases here
    exact read (epoch.symm.trans same)
  · cases here
    exact converged told

theorem FeedFacts.gone (facts : FeedFacts epochs s) {upToDate : Bool} :
    FeedFacts epochs { s with reader := none, upToDate := upToDate } :=
  ⟨facts.catalog, nofun, nofun, nofun⟩

theorem FeedFacts.step (facts : FeedFacts epochs s) (a : FeedAction)
    (records : ∀ w, a = .write w → RecordsServed epochs s.catalog w) :
    FeedFacts epochs (feedStep epochs s a) := by
  cases a with
  | write w => exact facts.write w (records w rfl)
  | openSnapshot limit =>
    refine ⟨facts.catalog, fun _ here => ?_, fun _ here _ => ?_, nofun⟩
    · cases here
      exact facts.catalog.epoch
    · cases here
      exact .opened facts.catalog.index limit
  | nextPage limit =>
    simp only [feedStep]
    cases there : s.reader with
    | none => exact facts.gone
    | some reader =>
      simp only [Option.bind_some, requestPage]
      cases phase : reader.phase with
      | changes afterRevision =>
        exact facts.request there rfl (facts.reader reader there) nofun
      | snapshot cursor =>
        dsimp only
        split
        · exact facts.gone
        · refine facts.request there rfl (fun same => ?_) nofun
          exact (facts.reader reader there same).page facts.catalog.index phase
            (Nat.lt_of_lt_of_le (by decide) limit.least)
  | changes limit =>
    simp only [feedStep]
    cases there : s.reader with
    | none => exact facts
    | some reader =>
      simp only [requestChanges]
      cases phase : reader.phase with
      | snapshot cursor => exact facts.request there rfl (facts.reader reader there) nofun
      | changes afterRevision =>
        dsimp only
        split
        · exact facts.gone
        · rename_i admitted
          have log := facts.catalog.log
          obtain ⟨epoch, least⟩ := refuseChanges_none log.least admitted
          have current := facts.reader reader there epoch
          refine facts.request there rfl (fun _ => current.changePage log phase least)
            (fun told => current.changePage_last log phase least ?_)
          rw [Bool.not_eq_true'] at told
          exact told

theorem catalogFacts_blankCatalog : CatalogFacts epochs (blankCatalog epochs) := by
  refine ⟨⟨?_, ?_, Nat.le_refl _, Nat.le_refl _⟩, ⟨fun guid => ?_, List.Pairwise.nil⟩,
    0, Nat.zero_lt_one, rfl⟩
  · intro revision change stored
    cases stored
  · intro earlier later change change' stored
    cases stored
  · exact ⟨fun listed => absurd listed List.not_mem_nil, fun stored => by cases stored⟩

/-- Every write records what it makes the feed serve differently: then every client
converges. -/
theorem FeedFacts.run {writes : List CatalogWrite} (run : List FeedAction)
    (facts : FeedFacts epochs s) (written : writesOf run <+: writes)
    (records : EachStep (writeCatalog epochs) (RecordsServed epochs) s.catalog writes) :
    Always (feedStep epochs) FeedConverged s run := by
  induction run generalizing s writes with
  | nil => exact facts.converged
  | cons a rest ih =>
    refine ⟨facts.converged, ?_⟩
    cases a with
    | write w =>
      obtain ⟨post, split⟩ := written
      have head : writes = w :: (writesOf rest ++ post) := split.symm
      rw [head] at records
      exact ih (facts.write w records.1) (List.prefix_append _ _) records.2
    | openSnapshot limit =>
      have next := facts.step (.openSnapshot limit) (fun _ same => by cases same)
      exact ih next written records
    | nextPage limit =>
      have next := facts.step (.nextPage limit) (fun _ same => by cases same)
      exact ih next written records
    | changes limit =>
      have next := facts.step (.changes limit) (fun _ same => by cases same)
      have kept : (feedStep epochs s (.changes limit)).catalog = s.catalog := by
        simp only [feedStep]
        split <;> rfl
      rw [← kept] at records
      exact ih next written records

end Feed

section Necessity
variable {epochs : Epochs} {c : Catalog} {limit : PageLimit}

theorem snapshotRows_shrink (index : IndexFacts c.tables) {cursor : Option String} {last : String}
    (row : last ∈ snapshotRows c.tables cursor) :
    (snapshotRows c.tables (some last)).length < (snapshotRows c.tables cursor).length := by
  have behind := ((mem_snapshotRows index).mp row).2
  have rest : snapshotRows c.tables (some last) =
      (snapshotRows c.tables cursor).filter (fun guid => decide (last < guid)) := by
    rw [snapshotRows, snapshotRows, List.filter_filter]
    refine List.filter_congr fun guid _ => ?_
    rw [Option.all_some]
    by_cases after : last < guid
    · have both : cursor.all (fun first => decide (first < guid)) = true := by
        rw [Option.all_eq_true]
        exact fun first here => decide_eq_true (lt_trans (behind first here) after)
      rw [both, Bool.and_true, decide_eq_true after, Bool.and_true, Bool.true_and]
    · rw [decide_eq_false after, Bool.and_false, Bool.false_and]
  rw [rest]
  refine List.length_filter_lt_length_iff_exists.mpr ⟨last, row, ?_⟩
  rw [decide_eq_true_eq]
  exact lt_irrefl last

theorem pages_end (index : IndexFacts c.tables) {reader : CatalogReader} {cursor : Option String}
    (snapshot : reader.phase = .snapshot cursor) (facts : ReaderFacts c.tables reader)
    (epoch : reader.epoch = c.tables.catalogState.epoch)
    (known : reader.snapshotRevision ≤ c.tables.catalogState.currentRevision) :
    ∃ n reader', run (feedStep epochs) ⟨c, some (readPage c.tables reader cursor limit.value), false⟩
        (List.replicate n (.nextPage limit)) = ⟨c, some reader', false⟩ ∧
      reader'.phase = .changes reader.snapshotRevision ∧ reader'.epoch = reader.epoch ∧
      ReaderFacts c.tables reader' := by
  have some_row : 0 < limit.value := Nat.lt_of_lt_of_le (by decide) limit.least
  have read := facts.page index snapshot some_row
  cases more : snapshotHasMore c.tables cursor limit.value with
  | false =>
    refine ⟨0, _, rfl, ?_, rfl, read⟩
    simp only [readPage, more]
    rfl
  | true =>
    obtain ⟨last, ending, row, -⟩ := snapshotPage_last index some_row more
    have shrinks := snapshotRows_shrink index row
    have next : (readPage c.tables reader cursor limit.value).phase = .snapshot (some last) := by
      simp only [readPage, more, if_true, ending]
    obtain ⟨n, reader', ran, rest⟩ := pages_end index next read epoch known
    refine ⟨n + 1, reader', ?_, rest⟩
    have admitted : refuseSnapshot c.tables.catalogState reader.snapshotRevision
        (some reader.epoch) = none := by
      rw [refuseSnapshot, if_neg (Nat.not_lt.mpr known), Option.or_none, validateEpoch, epoch,
        Option.any_some, bne_self_eq_false, if_neg Bool.false_ne_true]
    have step : feedStep epochs ⟨c, some (readPage c.tables reader cursor limit.value), false⟩
        (.nextPage limit) = ⟨c, some (readPage c.tables (readPage c.tables reader cursor limit.value)
          (some last) limit.value), false⟩ := by
      simp only [feedStep, Option.bind_some, requestPage, next]
      have same : refuseSnapshot c.tables.catalogState
          (readPage c.tables reader cursor limit.value).snapshotRevision
          (some (readPage c.tables reader cursor limit.value).epoch) = none := admitted
      rw [same, Option.isSome_none, if_neg Bool.false_ne_true]
    rw [List.replicate_succ, run, step]
    exact ran
termination_by (snapshotRows c.tables cursor).length

theorem nextRevision_grows {log : CatalogLog} {sequence afterRevision limit : Nat}
    (some_row : 0 < limit) (more : changesHasMore log sequence afterRevision limit = true) :
    afterRevision < nextRevision log sequence afterRevision limit ∧
      nextRevision log sequence afterRevision limit ≤ sequence := by
  have longer := changesHasMore_iff.mp more
  rw [nextRevision, changesPage_eq]
  cases ending : ((changesAfter log sequence afterRevision).take limit).getLast? with
  | none =>
    have empty := congrArg List.length (List.getLast?_eq_none_iff.mp ending)
    rw [List.length_take, List.length_nil] at empty
    omega
  | some entry =>
    obtain ⟨numbered, above, -⟩ :=
      mem_changesAfter.mp (List.mem_of_mem_take (List.mem_of_getLast? ending))
    exact ⟨above, numbered⟩

theorem changes_end {reader : CatalogReader} {afterRevision : Nat} {upToDate : Bool}
    (phase : reader.phase = .changes afterRevision)
    (epoch : reader.epoch = c.tables.catalogState.epoch)
    (least : c.tables.catalogState.minAvailableRevision ≤ afterRevision) :
    ∃ n reader', run (feedStep epochs) ⟨c, some reader, upToDate⟩
        (List.replicate n (.changes limit)) = ⟨c, some reader', true⟩ ∧
      ∀ guid, ¬ Owed c.tables afterRevision guid → reader'.items guid = reader.items guid := by
  have some_row : 0 < limit.value := Nat.lt_of_lt_of_le (by decide) limit.least
  have admitted : (refuseChanges c.tables.catalogState afterRevision
      (some reader.epoch)).isSome = false := by
    rw [refuseChanges, if_neg (fun late => absurd late.1 (Nat.not_lt.mpr least)), Option.or_none,
      validateEpoch, epoch, Option.any_some, bne_self_eq_false, if_neg Bool.false_ne_true]
    rfl
  have step : feedStep epochs ⟨c, some reader, upToDate⟩ (.changes limit) =
      ⟨c, some (readChangePage c.tables reader afterRevision limit.value),
        !changesHasMore c.tables.changes c.tables.sequence afterRevision limit.value⟩ := by
    simp only [feedStep, requestChanges, phase, admitted]
    rfl
  have kept (guid : String) (settled : ¬ Owed c.tables afterRevision guid) :
      (readChangePage c.tables reader afterRevision limit.value).items guid =
        reader.items guid := by
    refine if_neg fun onPage => settled ?_
    obtain ⟨entry, listed, named⟩ := mem_changedGuids.mp onPage
    rw [changesPage_eq] at listed
    obtain ⟨-, above, stored⟩ := mem_changesAfter.mp (List.mem_of_mem_take listed)
    exact ⟨entry.1, entry.2, above, stored, named⟩
  cases more : changesHasMore c.tables.changes c.tables.sequence afterRevision limit.value with
  | false =>
    refine ⟨1, _, ?_, kept⟩
    rw [List.replicate_one, run, step, more]
    rfl
  | true =>
    obtain ⟨grows, numbered⟩ := nextRevision_grows some_row more
    have next : (readChangePage c.tables reader afterRevision limit.value).phase =
        .changes (nextRevision c.tables.changes c.tables.sequence afterRevision limit.value) := rfl
    obtain ⟨n, reader', ran, same⟩ :=
      changes_end next epoch (Nat.le_trans least (Nat.le_of_lt grows))
    refine ⟨n + 1, reader', ?_, fun guid settled => ?_⟩
    · rw [List.replicate_succ, run, step, more]
      exact ran
    · refine (same guid fun owed => settled ?_).trans (kept guid settled)
      obtain ⟨revision, change, above, rest⟩ := owed
      exact ⟨revision, change, Nat.lt_trans grows above, rest⟩
termination_by c.tables.sequence - afterRevision

/-- A client that has read everything before a write misses what the write does not record. -/
theorem recordsServed_of_converges {s : CatalogFeed} (facts : CatalogFacts epochs s.catalog)
    (w : CatalogWrite)
    (converges : ∀ run, writesOf run = [w] → Always (feedStep epochs) FeedConverged s run) :
    RecordsServed epochs s.catalog w := by
  have limit : PageLimit := ⟨50, Nat.le_refl _, by decide⟩
  obtain ⟨written, outcome⟩ := writeCatalog_outcome facts w
  by_contra unrecorded
  obtain ⟨sameEpoch, unserved⟩ := not_or.mp unrecorded
  have epoch := not_not.mp sameEpoch
  push Not at unserved
  obtain ⟨guid, differs, silent⟩ := unserved
  have opened : ReaderFacts s.catalog.tables ⟨s.catalog.tables.catalogState.epoch,
      s.catalog.tables.catalogState.currentRevision, .snapshot none, fun _ => none⟩ := by
    refine ⟨Nat.le_refl _, fun _ _ => rfl, fun _ guid passed => ?_⟩
    obtain ⟨_, here, _⟩ := passed
    cases here
  obtain ⟨n, reader, paged, phase, same, has⟩ := @pages_end epochs s.catalog limit facts.index
    _ none rfl opened rfl (Nat.le_refl _)
  have settled : ¬ Owed s.catalog.tables s.catalog.tables.catalogState.currentRevision guid := by
    rintro ⟨revision, change, above, stored, -⟩
    exact absurd (facts.log.stored stored).2.1 (Nat.not_le_of_lt above)
  have revision : reader.revision = s.catalog.tables.catalogState.currentRevision := by
    rw [CatalogReader.revision, phase]
  have before : reader.items guid = served s.catalog.tables guid := by
    have passed : reader.phase.Passed guid := by
      rw [phase]
      trivial
    refine (has.passed (by rw [revision]; exact facts.log.least) guid passed).resolve_right ?_
    rw [revision]
    exact settled
  cases outcome with
  | renewed renewed _ =>
    obtain ⟨k, below, drawn⟩ := facts.epoch
    have again : epochs.uuid k = epochs.uuid s.catalog.drawn :=
      drawn.symm.trans (epoch.symm.trans renewed)
    exact absurd (epochs.distinct again) (Nat.ne_of_lt below)
  | pruned sameServed _ _ _ _ => exact differs (congrFun sameServed guid)
  | grown kept =>
    have least : (writeCatalog epochs s.catalog w).tables.catalogState.minAvailableRevision ≤
        s.catalog.tables.catalogState.currentRevision := by
      rw [kept.least]
      exact facts.log.least
    obtain ⟨m, reader', ended, keeps⟩ := @changes_end epochs (writeCatalog epochs s.catalog w)
      limit reader _ false phase (same.trans epoch.symm) least
    have whole := (converges ((.openSnapshot limit :: List.replicate n (.nextPage limit)) ++
      (.write w :: List.replicate m (.changes limit)))
      (by simp [writesOf])).last
    have read : run (feedStep epochs) s (.openSnapshot limit :: List.replicate n (.nextPage limit)) =
        ⟨s.catalog, some reader, false⟩ := paged
    have reread : run (feedStep epochs) ⟨s.catalog, some reader, false⟩
        (.write w :: List.replicate m (.changes limit)) =
        ⟨writeCatalog epochs s.catalog w, some reader', true⟩ := ended
    rw [run_append, read, reread] at whole
    have now := congrFun (whole rfl reader' rfl) guid
    have still : ¬ Owed (writeCatalog epochs s.catalog w).tables
        s.catalog.tables.catalogState.currentRevision guid := by
      rintro ⟨revision, change, above, stored, named⟩
      by_cases old : revision ≤ s.catalog.tables.sequence
      · rw [kept.changes old] at stored
        exact absurd (facts.log.stored stored).2.1 (Nat.not_le_of_lt above)
      · exact silent revision change (Nat.lt_of_not_le old) stored named
    exact differs (now.symm.trans ((keeps guid still).trans before))

end Necessity

section Exact
variable {epochs : Epochs}

theorem eachStep_recordsServed {s : CatalogFeed} {writes : List CatalogWrite}
    (facts : CatalogFacts epochs s.catalog)
    (converges : ∀ run, writesOf run <+: writes → Always (feedStep epochs) FeedConverged s run) :
    EachStep (writeCatalog epochs) (RecordsServed epochs) s.catalog writes := by
  induction writes generalizing s with
  | nil => trivial
  | cons w rest ih =>
    refine ⟨recordsServed_of_converges facts w (fun run once => converges run ?_), ?_⟩
    · rw [once]
      exact List.prefix_append [w] rest
    · refine ih (s := feedStep epochs s (.write w)) (writeCatalog_outcome facts w).1 ?_
      intro run written
      exact (converges (.write w :: run) (List.cons_prefix_cons.mpr ⟨rfl, written⟩)).2

/-- Every client of the feed converges exactly when every write either renews the epoch or
records a change of each product that it makes the feed serve differently. -/
theorem feed_converges_iff (epochs : Epochs) (writes : List CatalogWrite) :
    FeedConverges epochs writes ↔
      EachStep (writeCatalog epochs) (RecordsServed epochs) (blankCatalog epochs) writes := by
  constructor
  · intro converges
    exact eachStep_recordsServed (s := emptyFeed epochs) catalogFacts_blankCatalog converges
  · intro records run written
    have start : FeedFacts epochs (emptyFeed epochs) :=
      ⟨catalogFacts_blankCatalog, nofun, nofun, nofun⟩
    exact start.run run written records

/-- A live upsert records nothing, so it may not make the feed serve anything differently. -/
theorem recordsServed_live_iff (c : Catalog) (facts : CatalogFacts epochs c) (item : LiveProduct) :
    RecordsServed epochs c (.live item) ↔
      served (upsertLiveProduct c.tables item c.now) = served c.tables := by
  have state : (writeCatalog epochs c (.live item)).tables.catalogState = c.tables.catalogState :=
    (upsertLiveProduct_log item).1
  have changes : (writeCatalog epochs c (.live item)).tables.changes = c.tables.changes :=
    (upsertLiveProduct_log item).2
  constructor
  · intro records
    have served_recorded := records.resolve_left (fun changed => changed (by rw [state]))
    funext guid
    by_contra differs
    obtain ⟨revision, change, above, stored, -⟩ := served_recorded guid differs
    rw [changes] at stored
    have numbered := Nat.le_trans (facts.log.stored stored).2.1 facts.log.current
    omega
  · intro same
    exact .inr fun guid differs => absurd (congrFun same guid) differs

def Records (t t' : Tables) : Prop :=
  ∀ guid, served t' guid ≠ served t guid →
    ∃ revision change, t.sequence < revision ∧ t'.changes revision = some change ∧
      change.productGuid = guid

inductive PromotionWrite (epoch : String) (now : Instant) (staged : StagedSession) (t : Tables) :
    Tables → Prop
  | clear : PromotionWrite epoch now staged t (clearEntityInTx t epoch .nomenclature)
  | group (row : StagedRow NomenclatureItem) (here : row ∈ staged.nomenclature.rows)
      (group : row.payload.isGroup = true) : PromotionWrite epoch now staged t (applyGroup row t).2
  | product (row : StagedRow NomenclatureItem) (here : row ∈ staged.nomenclature.rows)
      (single : row.payload.isGroup = false) :
      PromotionWrite epoch now staged t (applyProduct now row t).2
  | beside (t' : Tables) (same : SameCatalog t t') : PromotionWrite epoch now staged t t'

section Promotion
variable {epoch : String} {now : Instant} {staged : StagedSession} {s t u : Tables}

theorem Records.trans (first : Records s t) (grown : s.sequence ≤ t.sequence)
    (facts : LogFacts now t) (kept : LogKept t u) (second : Records t u) : Records s u := by
  intro guid differs
  by_cases later : served u guid = served t guid
  · obtain ⟨revision, change, above, stored, own⟩ := first guid (later ▸ differs)
    have below := Nat.le_trans (facts.stored stored).2.1 facts.current
    exact ⟨revision, change, above, (kept.changes below).trans stored, own⟩
  · obtain ⟨revision, change, above, stored, own⟩ := second guid later
    exact ⟨revision, change, Nat.lt_of_le_of_lt grown above, stored, own⟩

/-- What holds along a promotion: the log has begun anew, or records what was served before. -/
theorem promotion_records
    (records : ∀ t, Relation.ReflTransGen (PromotionWrite epoch now staged) s t →
      ∀ t', PromotionWrite epoch now staged t t' → t'.catalogState.epoch = epoch ∨ Records t t') :
    WriteRule epoch now staged (fun t t' =>
      LogFacts now t → Relation.ReflTransGen (PromotionWrite epoch now staged) s t →
        LogFacts now t' ∧ Relation.ReflTransGen (PromotionWrite epoch now staged) s t' ∧
          (t'.catalogState.epoch = epoch ∨ LogKept t t' ∧ Records t t')) := by
  have single {t t' : Tables} (wrote : PromotionWrite epoch now staged t t')
      (logged : LogWritten epoch now t t') (facts : LogFacts now t)
      (met : Relation.ReflTransGen (PromotionWrite epoch now staged) s t) :
      LogFacts now t' ∧ Relation.ReflTransGen (PromotionWrite epoch now staged) s t' ∧
        (t'.catalogState.epoch = epoch ∨ LogKept t t' ∧ Records t t') := by
    refine ⟨logged.log facts, met.tail wrote, ?_⟩
    rcases logged.kept with kept | renewed
    · exact (records t met t' wrote).imp_right (fun recorded => ⟨kept, recorded⟩)
    · exact .inl renewed
  have rule : WriteRule epoch now staged (LogWritten epoch now) := promotion_logWritten staged
  refine .ofCatalog (fun same => single (.beside _ same) same.logWritten) ?_
    (fun t => single .clear (rule.clear t .nomenclature))
    (fun row here group t => single (.group row here group) (rule.group row here group t))
    (fun row here product t => single (.product row here product) (rule.product row here product t))
  intro s t u first second facts met
  obtain ⟨facts', met', either⟩ := first facts met
  obtain ⟨facts'', met'', either'⟩ := second facts' met'
  refine ⟨facts'', met'', ?_⟩
  rcases either' with renewed | ⟨kept', recorded'⟩
  · exact .inl renewed
  · exact either.imp (fun renewed => kept'.epoch.trans renewed)
      (fun ⟨kept, recorded⟩ => ⟨kept.trans kept', recorded.trans kept.sequence facts' kept' recorded'⟩)

/-- A promotion records what it makes the feed serve differently where each row of a group or of
a product does, on whatever tables the rows of the session lead to. -/
theorem recordsServed_promote {c : Catalog} (facts : CatalogFacts epochs c) (db : Database)
    (session : SyncSession) (staged : StagedSession)
    (groups : ∀ t, Relation.ReflTransGen (PromotionWrite (epochs.uuid c.drawn) c.now staged) c.tables t →
      ∀ row ∈ staged.nomenclature.rows, row.payload.isGroup = true → Records t (applyGroup row t).2)
    (products : ∀ t,
      Relation.ReflTransGen (PromotionWrite (epochs.uuid c.drawn) c.now staged) c.tables t →
      ∀ row ∈ staged.nomenclature.rows, row.payload.isGroup = false →
        Records t (applyProduct c.now row t).2) :
    RecordsServed epochs c (.promote db session staged) := by
  have records : ∀ t,
      Relation.ReflTransGen (PromotionWrite (epochs.uuid c.drawn) c.now staged) c.tables t →
      ∀ t', PromotionWrite (epochs.uuid c.drawn) c.now staged t t' →
        t'.catalogState.epoch = epochs.uuid c.drawn ∨ Records t t' := by
    intro t met t' wrote
    cases wrote with
    | clear => exact .inl rfl
    | group row here group => exact .inr (groups t met row here group)
    | product row here single => exact .inr (products t met row here single)
    | beside _ same => exact .inr fun guid differs => absurd (congrFun same.served guid) differs
  have whole := @complete_related { db with epoch := epochs.uuid c.drawn } c.now _ staged session
    c.tables (promotion_records records) facts.log .refl
  rcases whole.2.2 with renewed | ⟨_, recorded⟩
  · obtain ⟨k, below, drawn⟩ := facts.epoch
    refine .inl fun same => ?_
    have again : epochs.uuid c.drawn = epochs.uuid k := renewed.symm.trans (same.trans drawn)
    exact absurd (epochs.distinct again) (Nat.ne_of_gt below)
  · exact .inr recorded

end Promotion

section Rows
variable {now : Instant} {t : Tables}

theorem records_quiet (facts : LogFacts now t) {t' : Tables} (changes : t'.changes = t.changes) :
    Records t t' ↔ served t' = served t := by
  constructor
  · intro records
    funext guid
    by_contra differs
    obtain ⟨revision, change, above, stored, -⟩ := records guid differs
    rw [changes] at stored
    have numbered := Nat.le_trans (facts.stored stored).2.1 facts.current
    omega
  · intro same guid differs
    exact absurd (congrFun same guid) differs

/-- A group may not get another name while an active product is in it. -/
theorem records_group_iff (facts : LogFacts now t) (row : StagedRow NomenclatureItem) :
    Records t (applyGroup row t).2 ↔
      ∀ guid product, t.products guid = some product → product.isActive = true →
        product.group = some row.payload.guid →
        (t.groups row.payload.guid).map (·.name) = some row.payload.name := by
  have quiet : Records t (applyGroup row t).2 ↔ served (applyGroup row t).2 = served t :=
    records_quiet facts rfl
  rw [quiet]
  have own : (applyGroup row t).2.groups row.payload.guid = some (groupRow row.payload
      ((present row.payload.parentGuid).filter (fun guid => (t.groups guid).isSome))
      (t.groups row.payload.guid)) := Function.update_self _ _ _
  constructor
  · intro same guid product stored active within
    have shown := congrFun same guid
    rw [served, served] at shown
    change ((t.products guid).filter _).map _ = _ at shown
    rw [stored, Option.filter_some, if_pos active, Option.map_some, Option.map_some,
      Option.some.injEq] at shown
    have named := congrArg ServedProduct.group shown
    simp only [serializeProduct, within, Option.bind_some, own, Option.map_some] at named
    cases before : t.groups row.payload.guid with
    | none =>
      rw [before] at named
      cases named
    | some stored =>
      rw [before, Option.map_some, Option.some.injEq, Prod.mk.injEq] at named
      exact congrArg some named.2.symm
  · intro named
    funext guid
    rw [served, served]
    change ((t.products guid).filter _).map _ = _
    cases stored : t.products guid with
    | none => rfl
    | some product =>
      cases active : product.isActive with
      | false => rw [Option.filter_some, active]; rfl
      | true =>
        rw [Option.filter_some, if_pos active, Option.map_some, Option.map_some]
        have group : (serializeProduct (applyGroup row t).2 guid product).group =
            (serializeProduct t guid product).group := by
          simp only [serializeProduct]
          cases within : product.group with
          | none => rfl
          | some group =>
            simp only [Option.bind_some]
            by_cases here : group = row.payload.guid
            · subst here
              have same := named guid product stored active within
              obtain ⟨before, found, name⟩ := Option.map_eq_some_iff.mp same
              rw [own, found, Option.map_some, Option.map_some, name]
              rfl
            · have other : (applyGroup row t).2.groups group = t.groups group :=
                Function.update_of_ne here _ _
              rw [other]
        have rest : serializeProduct (applyGroup row t).2 guid product =
            { serializeProduct t guid product with
              group := (serializeProduct (applyGroup row t).2 guid product).group } := rfl
        rw [rest, group]

theorem served_record {guid : String} {operation : CatalogChangeOperation} {hash : String}
    {other : String} (foreign : other ≠ guid) :
    served (t.recordProductCatalogChange guid operation hash now) other = served t other := by
  have kept : (t.recordProductCatalogChange guid operation hash now).products other =
      t.products other := Function.update_of_ne foreign _ _
  rw [served, served, kept]
  rfl

theorem sequence_writeProduct (item : NomenclatureItem) :
    (writeProduct now item t).sequence = t.sequence ∧
      (writeProduct now item t).changes = t.changes := by
  have packs (packs : List PackageItem) (s : Tables) :
      (packs.foldl (applyPackage item) s).sequence = s.sequence ∧
        (packs.foldl (applyPackage item) s).changes = s.changes := by
    induction packs generalizing s with
    | nil => exact ⟨rfl, rfl⟩
    | cons pack packs ih =>
      rw [List.foldl_cons, (ih _).1, (ih _).2, applyPackage]
      split
      · split <;> exact ⟨rfl, rfl⟩
      · dsimp only
        split <;> exact ⟨rfl, rfl⟩
  rw [writeProduct]
  refine ⟨(packs _ _).1.trans ?_, (packs _ _).2.trans ?_⟩
  · cases item.baseUnit <;> rfl
  · cases item.baseUnit <;> rfl

/-- A product of a session may be the only one that its row makes the feed serve differently, and
with the hash of the last change none may be. -/
theorem records_product_iff (facts : LogFacts now t) (row : StagedRow NomenclatureItem)
    (found : ∀ guid, present row.payload.parentGuid = some guid → (t.groups guid).isSome = true) :
    Records t (applyProduct now row t).2 ↔
      ∀ guid, served (writeProduct now row.payload t) guid ≠ served t guid →
        guid = row.payload.guid ∧
          (t.products row.payload.guid).bind (·.catalogHash) ≠ some row.payloadHash := by
  have applied : (applyProduct now row t).2 =
      if (t.products row.payload.guid).bind (·.catalogHash) ≠ some row.payloadHash then
        (writeProduct now row.payload t).recordProductCatalogChange row.payload.guid
          (catalogOperation row.payload) row.payloadHash now
      else writeProduct now row.payload t := by
    unfold applyProduct requireRef
    dsimp only
    split
    · rfl
    · next guid parent => rw [if_pos (found guid parent)]
  obtain ⟨sequence, changes⟩ := @sequence_writeProduct now t row.payload
  by_cases unchanged : (t.products row.payload.guid).bind (·.catalogHash) = some row.payloadHash
  · rw [applied, if_neg (not_not.mpr unchanged), records_quiet facts changes]
    constructor
    · intro same guid differs
      exact absurd (congrFun same guid) differs
    · intro none_differs
      funext guid
      by_contra differs
      exact (none_differs guid differs).2 unchanged
  · rw [applied, if_pos unchanged]
    constructor
    · intro records guid differs
      refine ⟨?_, unchanged⟩
      by_contra foreign
      obtain ⟨revision, change, above, stored, own⟩ := records guid (by
        rw [served_record foreign]
        exact differs)
      simp only [Tables.recordProductCatalogChange, sequence, changes] at stored
      by_cases new : revision = t.sequence + 1
      · rw [new, Function.update_self, Option.some.injEq] at stored
        exact foreign (own.symm.trans (congrArg CatalogChange.productGuid stored.symm))
      · rw [Function.update_of_ne new] at stored
        have numbered := Nat.le_trans (facts.stored stored).2.1 facts.current
        omega
    · intro own guid differs
      have here : guid = row.payload.guid := by
        by_contra foreign
        rw [served_record foreign] at differs
        exact foreign (own guid differs).1
      refine ⟨t.sequence + 1, ⟨row.payload.guid, catalogOperation row.payload, row.payloadHash, now⟩,
        Nat.lt_succ_self _, ?_, here.symm⟩
      simp only [Tables.recordProductCatalogChange, sequence]
      exact Function.update_self _ _ _

def broughtUnits (item : NomenclatureItem) : List UnitItem :=
  item.baseUnit.toList ++
    (item.packages.filter (fun pack => !isBaseUnitPackage pack item.baseUnit)).map (·.unit)

structure ServedAlike (other : String) (t t' : Tables) : Prop where
  units : t'.units = t.units
  groups : t'.groups = t.groups
  product : t'.products other = t.products other
  packages : ∀ guid, (t'.packages guid).filter (fun stored => stored.product == other) =
    (t.packages guid).filter (fun stored => stored.product == other)
  loosePackages : t'.loosePackages.filter (fun stored => stored.product == other) =
    t.loosePackages.filter (fun stored => stored.product == other)

theorem ServedAlike.served {other : String} {t' : Tables} (alike : ServedAlike other t t') :
    served t' other = served t other := by
  have packages : servePackage t' = servePackage t := by
    funext row
    rw [servePackage, servePackage, alike.units]
  rw [LeaderProduct.served, LeaderProduct.served, alike.product]
  congr 1
  funext row
  rw [serializeProduct, serializeProduct, alike.units, alike.groups, packages, alike.loosePackages]
  congr 1
  funext guid
  rw [alike.packages]

theorem upsertUnit_same {unit : UnitItem}
    (stored : t.units unit.guid = some (unitRow unit (t.units unit.guid))) : t.upsertUnit unit = t := by
  rw [Tables.upsertUnit, ← stored, Function.update_eq_self]

theorem ServedAlike.package {item : NomenclatureItem} {other : String} {s : Tables}
    {pack : PackageItem} (alike : ServedAlike other t s) (foreign : other ≠ item.guid)
    (unit : isBaseUnitPackage pack item.baseUnit = false →
      t.units pack.unit.guid = some (unitRow pack.unit (t.units pack.unit.guid)))
    (free : ∀ guid, present pack.guid = some guid →
      (t.packages guid).filter (fun stored => stored.product == other) = none) :
    ServedAlike other t (applyPackage item s pack) := by
  have own (row : PackageRow) (mine : row.product = item.guid) : (row.product == other) = false := by
    rw [mine]
    exact beq_eq_false_iff_ne.mpr foreign.symm
  have put (guid : String) (named : present pack.guid = some guid) (row : Option PackageRow)
      (mine : row.filter (fun stored => stored.product == other) = none) :
      ServedAlike other t { s with packages := Function.update s.packages guid row } := by
    refine ⟨alike.units, alike.groups, alike.product, fun other => ?_, alike.loosePackages⟩
    by_cases here : other = guid
    · subst here
      simp only [Function.update_self]
      exact mine.trans (free other named).symm
    · simp only [Function.update_of_ne here]
      exact alike.packages other
  unfold applyPackage
  split
  · split
    · next guid named =>
      refine put guid named _ (Option.filter_eq_none_iff.mpr fun row kept mine => ?_)
      have there := (Option.filter_eq_some_iff.mp kept).1
      have before := (alike.packages guid).trans (free guid named)
      rw [there] at before
      exact Option.filter_eq_none_iff.mp before row rfl mine
    · exact alike
  · next written =>
    have stored := unit (Bool.not_eq_true _ ▸ written)
    rw [← alike.units] at stored
    rw [upsertUnit_same stored]
    dsimp only
    split
    · next guid named =>
      refine put guid named _ ?_
      rw [Option.filter_some, packageRow, own _ rfl]
      rfl
    · refine ⟨alike.units, alike.groups, alike.product, alike.packages, ?_⟩
      rw [List.filter_append, List.filter_cons, packageRow, own _ rfl]
      exact (List.append_nil _).trans alike.loosePackages

/-- The row of a product leaves another one as it is served where the units that it brings along
are stored as they are, and none of its packages is a package of the other. -/
theorem served_writeProduct {item : NomenclatureItem} {other : String} (foreign : other ≠ item.guid)
    (units : ∀ unit ∈ broughtUnits item, t.units unit.guid = some (unitRow unit (t.units unit.guid)))
    (packages : ∀ pack ∈ item.packages, ∀ guid, present pack.guid = some guid →
      (t.packages guid).filter (fun stored => stored.product == other) = none) :
    served (writeProduct now item t) other = served t other := by
  have packs (packs : List PackageItem) (s : Tables) (alike : ServedAlike other t s)
      (within : ∀ pack ∈ packs, pack ∈ item.packages) :
      ServedAlike other t (packs.foldl (applyPackage item) s) := by
    induction packs generalizing s with
    | nil => exact alike
    | cons pack packs ih =>
      rw [List.forall_mem_cons] at within
      refine ih _ (alike.package foreign (fun written => units pack.unit ?_)
        (packages pack within.1)) within.2
      refine List.mem_append_right _ (List.mem_map_of_mem (List.mem_filter.mpr ⟨within.1, ?_⟩))
      rw [written]
      rfl
  have base : (item.baseUnit.map t.upsertUnit).getD t = t := by
    cases here : item.baseUnit with
    | none => rfl
    | some unit =>
      refine upsertUnit_same (units unit (List.mem_append_left _ ?_))
      rw [here]
      exact List.mem_singleton_self unit
  have product : ServedAlike other t
      (t.setProduct item.guid (productRow item now (t.products item.guid))) :=
    ⟨rfl, rfl, Function.update_of_ne foreign _ _, fun _ => rfl, rfl⟩
  rw [writeProduct, base]
  exact (packs item.packages _ product (fun _ member => member)).served

end Rows

def liveSample : LiveProduct :=
  ⟨"product", "Milk", none, none, none, false, true, none, []⟩

def countedEpochs : Epochs where
  uuid k := String.ofList (List.replicate k 'a')
  distinct k k' same := by
    have lists := congrArg String.toList same
    rw [String.toList_ofList, String.toList_ofList] at lists
    simpa using congrArg List.length lists

/-- A client that has read the empty catalog never learns of the product that a live order
brings along. -/
theorem live_product_missed : ¬ FeedConverges countedEpochs [.live liveSample] := by
  intro converges
  have records := (eachStep_recordsServed (s := emptyFeed countedEpochs)
    catalogFacts_blankCatalog converges).1
  have same := (recordsServed_live_iff _ catalogFacts_blankCatalog liveSample).mp records
  have shown : (served (upsertLiveProduct (blankCatalog countedEpochs).tables liveSample 0)
      "product").isSome = true := by decide
  have there := congrFun same "product"
  have empty : served (blankCatalog countedEpochs).tables "product" = none := rfl
  have missing : served (upsertLiveProduct (blankCatalog countedEpochs).tables liveSample 0)
      "product" = none := there.trans empty
  rw [missing] at shown
  cases shown

end Exact

end LeaderProduct
