import LeaderProduct.InvalidatedCache
import LeaderProduct.ReleaseCleanup
import LeaderProduct.Transition

/-! The cache of the newest releases in a process. Writing a release clears the cache, but a load
that has read before the write keeps its value after it, and removes the registration of the next
load. -/
namespace LeaderProduct
open InvalidatedCache Transition

section Code

abbrev LatestUpdateCache := Cache (AppPlatform × String) (Option AppUpdate)

def latestUpdateCacheTtlMs : Nat := 30000

inductive ReleaseStatement where
  | create (row : AppUpdate)
  | update (id : Nat) (data : AppUpdate)
  | delete (id : Nat)

def AppUpdateTable.ofRows (rows : List AppUpdate) : Option AppUpdateTable :=
  if ids : (rows.map (·.id)).Nodup then
    if versions : (rows.map (fun row => (row.platform, row.channel, row.versionCode))).Nodup then
      some ⟨rows, ids, versions⟩
    else none
  else none

def AppUpdateTable.has (table : AppUpdateTable) (id : Nat) : Bool := table.rows.any (·.id == id)

/-- The table after the statement, where the database accepts it. -/
def AppUpdateTable.run (table : AppUpdateTable) : ReleaseStatement → Option AppUpdateTable
  | .create row => AppUpdateTable.ofRows (table.rows ++ [row])
  | .update id data =>
    if table.has id then
      AppUpdateTable.ofRows
        (table.rows.map (fun row => if row.id = id then { data with id := id } else row))
    else none
  | .delete id => if table.has id then some (table.delete id) else none

inductive ReleaseWriter where
  | committed (index : Nat) (purges : Bool)
  | purging (index : Nat)
  | cleaning (toDelete : List Nat) (last : Option Nat)

structure ReleaseProcess where
  table : AppUpdateTable
  cache : LatestUpdateCache
  writers : Nat → Option ReleaseWriter

inductive ReleaseAction where
  | check (id : Nat) (platform : AppPlatform) (channel : String)
  | query (load : Nat)
  | keep (load : Nat)
  | fail (load : Nat)
  | finish (load : Nat)
  | write (id : Nat) (statement : ReleaseStatement) (purgeFile : Bool)
  | cleanup (id : Nat) (cleanup : ReleaseCleanup)
  | resume (id : Nat)
  | interrupt (id : Nat)
  | wait (time : Nat)

namespace ReleaseProcess
variable (s : ReleaseProcess)

def start (table : AppUpdateTable) (now : Nat) : ReleaseProcess := ⟨table, .empty now, fun _ => none⟩

def setWriter (id : Nat) (writer : Option ReleaseWriter) : ReleaseProcess :=
  { s with writers := Function.update s.writers id writer }

def findLatestActiveUpdate (id : Nat) (platform : AppPlatform) (channel : String) : ReleaseProcess :=
  { s with cache := s.cache.lookup id (platform, channel) }

def invalidateLatestUpdateCache (index : Nat) : ReleaseProcess :=
  { s with cache := s.cache.clear index }

def answer (id : Nat) (index : Nat) : ReleaseProcess :=
  { s.setWriter id none with cache := s.cache.answer index }

def commit (id : Nat) (table : AppUpdateTable) (writer : Nat → ReleaseWriter) : ReleaseProcess :=
  { s.setWriter id (some (writer (s.cache.writes + 1))) with
    table := table
    cache := s.cache.write }

/-- A clean-up that ends with an error, of a deletion or of the count of the users of a file. -/
def abandon (id : Nat) (last : Option Nat) : ReleaseProcess :=
  match last with
  | none => s.setWriter id none
  | some index => s.answer id index

def write (id : Nat) (statement : ReleaseStatement) (purgeFile : Bool) : ReleaseProcess :=
  if (s.writers id).isSome then s
  else match s.table.run statement with
    | none => s
    | some table =>
      let purges := match statement with
        | .delete _ => purgeFile
        | _ => false
      s.commit id table (.committed · purges)

def cleanup (id : Nat) (cleanup : ReleaseCleanup) : ReleaseProcess :=
  if (s.writers id).isSome then s
  else s.setWriter id (some (.cleaning ((cleanup.toDelete s.table).map (·.id)) none))

def resume (id : Nat) : ReleaseProcess :=
  match s.writers id with
  | none => s
  | some (.committed index purges) =>
    let cleared := s.invalidateLatestUpdateCache index
    if purges then cleared.setWriter id (some (.purging index)) else cleared.answer id index
  | some (.purging index) => s.answer id index
  | some (.cleaning [] none) => s.setWriter id none
  | some (.cleaning [] (some index)) => (s.invalidateLatestUpdateCache index).answer id index
  | some (.cleaning (u :: rest) last) =>
    match s.table.run (.delete u) with
    | none => s.abandon id last
    | some table => s.commit id table (fun index => .cleaning rest (some index))

def interrupt (id : Nat) : ReleaseProcess :=
  match s.writers id with
  | some (.cleaning _ last) => s.abandon id last
  | _ => s

end ReleaseProcess

def releaseStep (s : ReleaseProcess) : ReleaseAction → ReleaseProcess
  | .check id platform channel => s.findLatestActiveUpdate id platform channel
  | .query load => { s with cache := s.cache.query (fun key => s.table.latestActive key.1 key.2) load }
  | .keep load => { s with cache := s.cache.keep latestUpdateCacheTtlMs load }
  | .fail load => { s with cache := s.cache.fail load }
  | .finish load => { s with cache := s.cache.finish load }
  | .write id statement purgeFile => s.write id statement purgeFile
  | .cleanup id cleanup => s.cleanup id cleanup
  | .resume id => s.resume id
  | .interrupt id => s.interrupt id
  | .wait time => { s with cache := s.cache.wait time }

end Code

section Runs
variable {s : ReleaseProcess}

/-- No load keeps what it has read before a write that was invalidated, or removes the registration
of another, and no clean-up ends with an error once it has deleted a release. -/
def Orderly (s : ReleaseProcess) : ReleaseAction → Prop
  | .keep load => s.cache.KeepsNew load
  | .finish load => s.cache.EndsOwn load
  | .resume id => ∀ u rest last, s.writers id = some (.cleaning (u :: rest) (some last)) →
    s.table.has u = true
  | .interrupt id => ∀ toDelete last, s.writers id = some (.cleaning toDelete last) → last = none
  | _ => True

def ReleaseWriter.Within (cache : LatestUpdateCache) : ReleaseWriter → Prop
  | .committed index _ => index ≤ cache.writes
  | .purging index => index ≤ cache.cleared
  | .cleaning _ last => ∀ index, last = some index → index ≤ cache.writes

structure Coherent (s : ReleaseProcess) : Prop where
  sound : Sound s.cache
  writers : ∀ id writer, s.writers id = some writer → writer.Within s.cache

theorem ReleaseWriter.Within.mono {before after : LatestUpdateCache} {writer : ReleaseWriter}
    (within : writer.Within before) (writes : before.writes ≤ after.writes)
    (cleared : before.cleared ≤ after.cleared) : writer.Within after := by
  cases writer with
  | committed index purges => exact Nat.le_trans within writes
  | purging index => exact Nat.le_trans within cleared
  | cleaning toDelete last => exact fun index same => Nat.le_trans (within index same) writes

theorem Coherent.of_cache {cache : LatestUpdateCache} (coherent : Coherent s) (sound : Sound cache)
    (counts : SameCounts s.cache cache) : Coherent { s with cache := cache } :=
  ⟨sound, fun id writer there =>
    (coherent.writers id writer there).mono (Nat.le_of_eq counts.1.symm) (Nat.le_of_eq counts.2.symm)⟩

theorem Coherent.of_writer {id : Nat} {next : Option ReleaseWriter} {table : AppUpdateTable}
    {cache : LatestUpdateCache} (coherent : Coherent s) (sound : Sound cache)
    (writes : s.cache.writes ≤ cache.writes) (cleared : s.cache.cleared ≤ cache.cleared)
    (within : ∀ writer, next = some writer → writer.Within cache) :
    Coherent ⟨table, cache, Function.update s.writers id next⟩ := by
  refine ⟨sound, fun i writer there => ?_⟩
  cases next with
  | none => exact (coherent.writers i writer (of_update_none there).2).mono writes cleared
  | some new =>
    rcases of_update_some there with ⟨-, rfl⟩ | ⟨-, before⟩
    · exact within _ rfl
    · exact (coherent.writers i writer before).mono writes cleared

theorem Coherent.commit {id : Nat} {table : AppUpdateTable} {writer : Nat → ReleaseWriter}
    (coherent : Coherent s)
    (within : ∀ cache : LatestUpdateCache, ∀ index, index ≤ cache.writes →
      (writer index).Within cache) :
    Coherent (s.commit id table writer) :=
  coherent.of_writer coherent.sound.write (Nat.le_succ _) (Nat.le_refl _)
    (fun _ same => Option.some.inj same ▸ within _ _ (Nat.le_refl _))

theorem Coherent.answer {id index : Nat} (coherent : Coherent s) (done : index ≤ s.cache.cleared) :
    Coherent (s.answer id index) :=
  coherent.of_writer (coherent.sound.answer done) (Nat.le_refl _) (Nat.le_refl _)
    (fun _ wrong => nomatch wrong)

theorem Coherent.invalidate {index : Nat} (coherent : Coherent s) (done : index ≤ s.cache.writes) :
    Coherent (s.invalidateLatestUpdateCache index) :=
  ⟨coherent.sound.clear done, fun id writer there =>
    (coherent.writers id writer there).mono (Nat.le_refl _) (Nat.le_max_left ..)⟩

theorem Coherent.setWriter {id : Nat} {next : Option ReleaseWriter} (coherent : Coherent s)
    (within : ∀ writer, next = some writer → writer.Within s.cache) : Coherent (s.setWriter id next) :=
  coherent.of_writer coherent.sound (Nat.le_refl _) (Nat.le_refl _) within

theorem invalidate_cleared (s : ReleaseProcess) (index : Nat) :
    index ≤ (s.invalidateLatestUpdateCache index).cache.cleared := Nat.le_max_right ..

theorem Coherent.resume {id : Nat} (coherent : Coherent s) (orderly : Orderly s (.resume id)) :
    Coherent (s.resume id) := by
  unfold ReleaseProcess.resume
  split
  · exact coherent
  · next index purges known =>
    have cleared := coherent.invalidate (coherent.writers id _ known : index ≤ s.cache.writes)
    dsimp only
    split
    · refine cleared.setWriter (fun writer same => ?_)
      cases same
      exact invalidate_cleared s index
    · exact cleared.answer (invalidate_cleared s index)
  · next index known => exact coherent.answer (coherent.writers id _ known)
  · exact coherent.setWriter (fun _ wrong => nomatch wrong)
  · next index known =>
    have done : index ≤ s.cache.writes := coherent.writers id _ known index rfl
    exact (coherent.invalidate done).answer (invalidate_cleared s index)
  · next u rest last known =>
    split
    · next refused =>
      cases last with
      | none => exact coherent.setWriter (fun _ wrong => nomatch wrong)
      | some index =>
        have there := orderly u rest index known
        rw [AppUpdateTable.run, if_pos there] at refused
        cases refused
    · exact coherent.commit (fun cache index done other same => Option.some.inj same ▸ done)

theorem Coherent.step {action : ReleaseAction} (coherent : Coherent s)
    (orderly : Orderly s action) : Coherent (releaseStep s action) := by
  cases action with
  | check id platform channel =>
    exact coherent.of_cache (coherent.sound.lookup id _) (lookup_counts _)
  | query load => exact coherent.of_cache (coherent.sound.query _ load) (query_counts _)
  | keep load => exact coherent.of_cache (coherent.sound.keep _ orderly) (keep_counts _)
  | fail load => exact coherent.of_cache (coherent.sound.fail load) fail_counts
  | finish load => exact coherent.of_cache (coherent.sound.finish orderly) finish_counts
  | wait time => exact coherent.of_cache (coherent.sound.wait time) ⟨rfl, rfl⟩
  | write id statement purgeFile =>
    simp only [releaseStep, ReleaseProcess.write]
    split
    · exact coherent
    · split
      · exact coherent
      · exact coherent.commit (fun cache index done => done)
  | cleanup id cleanup =>
    simp only [releaseStep, ReleaseProcess.cleanup]
    split
    · exact coherent
    · refine coherent.setWriter (fun writer same => ?_)
      cases same
      exact fun index wrong => nomatch wrong
  | resume id => exact coherent.resume orderly
  | interrupt id =>
    simp only [releaseStep, ReleaseProcess.interrupt]
    split
    · next toDelete last known =>
      cases orderly toDelete last known
      exact coherent.setWriter (fun _ wrong => nomatch wrong)
    · exact coherent

/-- In an orderly run no check is given a release read before a write that had returned. -/
theorem withdrawn_release_not_offered (table : AppUpdateTable) (now : Nat)
    (actions : List ReleaseAction) (met : EachStep releaseStep Orderly (.start table now) actions) :
    Always releaseStep (fun s => NeverStale s.cache) (.start table now) actions := by
  have start : Coherent (.start table now) :=
    ⟨Sound.empty now, fun _ _ wrong => nomatch wrong⟩
  exact (always_of_eachStep (fun _ _ coherent orderly => coherent.step orderly) start actions
    met).mono fun _ coherent => coherent.sound.neverStale

def deletedAfterwards : List ReleaseAction :=
  [.check 1 .android "prod", .query 1, .keep 1, .finish 1, .write 2 (.delete 1) false, .resume 2,
    .check 3 .android "prod", .query 3]

theorem deleted_release_not_offered : Always releaseStep (fun s => NeverStale s.cache)
    (.start twoPlatforms.table 0) deletedAfterwards :=
  withdrawn_release_not_offered twoPlatforms.table 0 deletedAfterwards
    ⟨trivial, trivial, fun _ _ known phase => by cases known; cases phase; exact Nat.le_refl _,
      fun _ known => by cases known; exact .inr rfl, trivial,
      fun _ _ _ cleans => (nomatch cleans), trivial, trivial, trivial⟩

def deletedMeanwhile : List ReleaseAction :=
  [.check 1 .android "prod", .query 1, .write 2 (.delete 1) false, .resume 2, .keep 1, .finish 1,
    .check 3 .android "prod"]

theorem withdrawn_release_offered : ¬Always releaseStep (fun s => NeverStale s.cache)
    (.start twoPlatforms.table 0) deletedMeanwhile :=
  fun always => absurd (always.last.fresh 3 _ _ rfl rfl) (by decide)

end Runs
end LeaderProduct
