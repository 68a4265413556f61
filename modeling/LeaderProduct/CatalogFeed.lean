import LeaderProduct.CatalogDelivery
import LeaderProduct.PromotionTables

/-! The catalog feed as a whole: the writes of the catalog in turn, and a client that reads
the snapshot page by page and then the change log, with writes between its requests. -/
namespace LeaderProduct
open Transition

section Live

structure LiveUnit where
  guid : String
  name : String
  symbol : Option String

structure LivePackage where
  guid : String
  name : String
  multiplier : Option Rat
  isDefault : Bool
  unit : Option LiveUnit

structure LiveProduct where
  guid : String
  name : String
  code : Option String
  article : Option String
  sku : Option String
  isWeight : Bool
  isActive : Bool
  baseUnit : Option LiveUnit
  packages : List LivePackage

def safeLiveName (value : Option String) (fallback : String) : String := (trimmed value).getD fallback

def LiveUnit.labels (unit : LiveUnit) : UnitItem := ⟨unit.guid, unit.name, none, unit.symbol⟩

def isLiveBaseUnitPackage (pack : LivePackage) (baseUnit : Option LiveUnit) : Bool :=
  baseUnit.any (fun base => sameMultiplier (pack.multiplier.getD 1) &&
    pack.unit.all (fun unit => sameUnitIdentity unit.labels base.labels))

def liveUnitGuid (unit : Option LiveUnit) (fallbackGuid : String) : String :=
  (trimmed (unit.map (·.guid))).getD fallbackGuid

def liveUnitRow (unit : Option LiveUnit) : UnitRow :=
  let symbol := unit.bind (·.symbol)
  let name := safeLiveName (unit.map (·.name)) ((present symbol).getD "шт")
  ⟨name, symbol, some (symbol.getD name)⟩

def Tables.upsertLiveUnit (t : Tables) (unit : Option LiveUnit) (fallbackGuid : String) : Tables :=
  { t with
    units := Function.update t.units (liveUnitGuid unit fallbackGuid) (some (liveUnitRow unit)) }

/-- The columns that the live upsert leaves out keep what is stored. -/
def liveProductRow (item : LiveProduct) (sourceUpdatedAt : Instant) (stored : Option ProductRow) :
    ProductRow where
  name := safeLiveName (some item.name) item.guid
  code := item.code
  article := item.article
  sku := item.sku
  isWeight := item.isWeight
  isService := (stored.map (·.isService)).getD false
  isActive := item.isActive
  group := stored.bind (·.group)
  baseUnit := some (liveUnitGuid item.baseUnit ("default-unit-" ++ item.guid))
  sourceUpdatedAt := some sourceUpdatedAt
  catalogHash := stored.bind (·.catalogHash)
  catalogRevision := (stored.map (·.catalogRevision)).getD 0

def livePackageRow (item : LiveProduct) (pack : LivePackage) (stored : Option PackageRow) :
    PackageRow where
  product := item.guid
  unit := liveUnitGuid (pack.unit.or item.baseUnit) ("default-unit-" ++ item.guid)
  name := safeLiveName (some pack.name) pack.guid
  multiplier := pack.multiplier.getD 1
  barcode := stored.bind (·.barcode)
  isDefault := pack.isDefault
  sortOrder := (stored.map (·.sortOrder)).getD 0

def applyLivePackage (item : LiveProduct) (t : Tables) (pack : LivePackage) : Tables :=
  if pack.guid = "" then t
  else if isLiveBaseUnitPackage pack item.baseUnit then t.dropPackage item.guid pack.guid
  else
    (t.upsertLiveUnit (pack.unit.or item.baseUnit) ("default-unit-" ++ item.guid)).upsertPackage
      pack.guid (livePackageRow item pack)

def upsertLiveProduct (t : Tables) (item : LiveProduct) (sourceUpdatedAt : Instant) : Tables :=
  let t := t.upsertLiveUnit item.baseUnit ("default-unit-" ++ item.guid)
  let t := t.setProduct item.guid (liveProductRow item sourceUpdatedAt (t.products item.guid))
  item.packages.foldl (applyLivePackage item) t

end Live

section Serve
variable (t : Tables)

structure ServedPackage where
  name : String
  multiplier : Rat
  barcode : Option String
  isDefault : Bool
  sortOrder : Int
  unit : String × Option UnitRow

structure ServedProduct where
  name : String
  code : Option String
  article : Option String
  sku : Option String
  isWeight : Bool
  isService : Bool
  group : Option (String × String)
  baseUnit : Option (String × Option UnitRow)
  packages : String → Option ServedPackage
  loosePackages : List ServedPackage
  revision : Nat
  sourceUpdatedAt : Option Instant

def servePackage (row : PackageRow) : ServedPackage :=
  ⟨row.name, row.multiplier, row.barcode, row.isDefault, row.sortOrder, (row.unit, t.units row.unit)⟩

def serializeProduct (guid : String) (row : ProductRow) : ServedProduct where
  name := row.name
  code := row.code
  article := row.article
  sku := row.sku
  isWeight := row.isWeight
  isService := row.isService
  group := row.group.bind (fun group => (t.groups group).map (fun stored => (group, stored.name)))
  baseUnit := row.baseUnit.map (fun unit => (unit, t.units unit))
  packages := fun pack =>
    ((t.packages pack).filter (fun stored => stored.product == guid)).map (servePackage t)
  loosePackages :=
    (t.loosePackages.filter (fun stored => stored.product == guid)).map (servePackage t)
  revision := row.catalogRevision
  sourceUpdatedAt := row.sourceUpdatedAt

def served (guid : String) : Option ServedProduct :=
  ((t.products guid).filter (·.isActive)).map (serializeProduct t guid)

def snapshotRows (cursor : Option String) : List String :=
  t.productIndex.filter (fun guid =>
    (t.products guid).any (·.isActive) && cursor.all (fun last => decide (last < guid)))

def snapshotPage (cursor : Option String) (limit : Nat) : List String :=
  ((snapshotRows t cursor).take (limit + 1)).take limit

def snapshotHasMore (cursor : Option String) (limit : Nat) : Bool :=
  decide (limit < ((snapshotRows t cursor).take (limit + 1)).length)

end Serve

section Client

structure PageLimit where
  value : Nat
  least : 50 ≤ value
  most : value ≤ 1000

inductive ReaderPhase where
  | snapshot (cursor : Option String)
  | changes (afterRevision : Nat)

structure CatalogReader where
  epoch : String
  snapshotRevision : Nat
  phase : ReaderPhase
  items : String → Option ServedProduct

variable (t : Tables)

def takeProducts (guids : List String) (items : String → Option ServedProduct) :
    String → Option ServedProduct :=
  fun guid => if guid ∈ guids then served t guid else items guid

def readPage (reader : CatalogReader) (cursor : Option String) (limit : Nat) : CatalogReader :=
  { reader with
    items := takeProducts t (snapshotPage t cursor limit) reader.items
    phase :=
      if snapshotHasMore t cursor limit then .snapshot (snapshotPage t cursor limit).getLast?
      else .changes reader.snapshotRevision }

def openSnapshot (limit : PageLimit) : CatalogReader :=
  readPage t ⟨t.catalogState.epoch, t.catalogState.currentRevision, .snapshot none, fun _ => none⟩
    none limit.value

def refuseSnapshot (state : CatalogState) (snapshotRevision : Nat) (epoch : Option String) :
    Option CatalogError :=
  (validateEpoch state.epoch epoch).or
    (if state.currentRevision < snapshotRevision then
      some ⟨409, "Запрошенная ревизия каталога ещё не существует."⟩
    else none)

def changedGuids (afterRevision limit : Nat) : List String :=
  (latestChanges (changesPage t.changes t.sequence afterRevision limit)).map
    (fun entry => entry.2.productGuid)

def readChangePage (reader : CatalogReader) (afterRevision limit : Nat) : CatalogReader :=
  { reader with
    items := takeProducts t (changedGuids t afterRevision limit) reader.items
    phase := .changes (nextRevision t.changes t.sequence afterRevision limit) }

end Client

section Feed

structure Epochs where
  uuid : Nat → String
  distinct : Function.Injective uuid

structure Catalog where
  tables : Tables
  drawn : Nat
  now : Instant
  lastChangePruneAt : Instant

inductive CatalogWrite where
  | promote (db : Database) (session : SyncSession) (staged : StagedSession)
  | live (item : LiveProduct)
  | manifest
  | wait (time : Nat)

variable (epochs : Epochs)

def blankCatalog : Catalog := ⟨.empty (epochs.uuid 0), 1, 0, 0⟩

def pruneChanges (c : Catalog) : Catalog :=
  if c.now < c.lastChangePruneAt + changePruneIntervalMs then c
  else
    { c with
      tables := { c.tables with
        changes := fun revision =>
          (c.tables.changes revision).filter (fun change => !expired c.now change) }
      lastChangePruneAt := c.now }

def getCatalogManifest (c : Catalog) : Catalog :=
  let c := pruneChanges c
  { c with
    tables := { c.tables with
      catalogState := { c.tables.catalogState with
        minAvailableRevision :=
          (firstRevision c.tables.changes c.tables.sequence).getD
            c.tables.catalogState.currentRevision } } }

def writeCatalog (c : Catalog) : CatalogWrite → Catalog
  | .promote db session staged =>
    { c with
      tables := (completeOnecSyncSession { db with epoch := epochs.uuid c.drawn } c.now session
        staged c.tables).tables
      drawn := c.drawn + 1 }
  | .live item => { c with tables := upsertLiveProduct c.tables item c.now }
  | .manifest => getCatalogManifest c
  | .wait time => { c with now := c.now + time }

inductive FeedAction where
  | write (w : CatalogWrite)
  | openSnapshot (limit : PageLimit)
  | nextPage (limit : PageLimit)
  | changes (limit : PageLimit)

/-- The catalog and one client of it. It is up to date while nothing has been written since
the change page that told it so. -/
structure CatalogFeed where
  catalog : Catalog
  reader : Option CatalogReader
  upToDate : Bool

def requestPage (t : Tables) (reader : CatalogReader) (limit : PageLimit) : Option CatalogReader :=
  match reader.phase with
  | .changes _ => some reader
  | .snapshot cursor =>
    if (refuseSnapshot t.catalogState reader.snapshotRevision (some reader.epoch)).isSome then none
    else some (readPage t reader cursor limit.value)

def requestChanges (t : Tables) (reader : CatalogReader) (limit : PageLimit) :
    Option CatalogReader × Bool :=
  match reader.phase with
  | .snapshot _ => (some reader, false)
  | .changes afterRevision =>
    if (refuseChanges t.catalogState afterRevision (some reader.epoch)).isSome then (none, false)
    else (some (readChangePage t reader afterRevision limit.value),
      !changesHasMore t.changes t.sequence afterRevision limit.value)

def feedStep (s : CatalogFeed) : FeedAction → CatalogFeed
  | .write w => { s with catalog := writeCatalog epochs s.catalog w, upToDate := false }
  | .openSnapshot limit =>
    { s with reader := some (LeaderProduct.openSnapshot s.catalog.tables limit), upToDate := false }
  | .nextPage limit =>
    { s with
      reader := s.reader.bind (fun reader => requestPage s.catalog.tables reader limit)
      upToDate := false }
  | .changes limit =>
    match s.reader with
    | none => s
    | some reader =>
      { s with
        reader := (requestChanges s.catalog.tables reader limit).1
        upToDate := (requestChanges s.catalog.tables reader limit).2 }

def emptyFeed : CatalogFeed := ⟨blankCatalog epochs, none, false⟩

def FeedConverged (s : CatalogFeed) : Prop :=
  s.upToDate = true → ∀ reader, s.reader = some reader → reader.items = served s.catalog.tables

def writesOf (run : List FeedAction) : List CatalogWrite :=
  run.filterMap (fun
    | .write w => some w
    | _ => none)

/-- Every client converges, however its requests fall between the writes. -/
def FeedConverges (writes : List CatalogWrite) : Prop :=
  ∀ run, writesOf run <+: writes → Always (feedStep epochs) FeedConverged (emptyFeed epochs) run

/-- A write that leaves the epoch records a change of every product that it makes the feed
serve differently, or no more. -/
def RecordsServed (c : Catalog) (w : CatalogWrite) : Prop :=
  (writeCatalog epochs c w).tables.catalogState.epoch ≠ c.tables.catalogState.epoch ∨
    ∀ guid, served (writeCatalog epochs c w).tables guid ≠ served c.tables guid →
      ∃ revision change, c.tables.sequence < revision ∧
        (writeCatalog epochs c w).tables.changes revision = some change ∧
        change.productGuid = guid

end Feed

end LeaderProduct
