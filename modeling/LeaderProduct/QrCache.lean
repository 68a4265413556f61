import LeaderProduct.CacheAside
import LeaderProduct.QrCodes

/-! The QR codes as they are read, through a cache whose keys are texts. -/
namespace LeaderProduct
open CacheAside Transition

section Asking

structure QrOptions where
  simple : String
  width : String
  darkColor : String
  lightColor : String
  margin : String
  errorCorrection : String

inductive QrAsk where
  | detail (id : String) (options : QrOptions)
  | list (createdById status : String) (limit offset : String)

inductive QrShown where
  | detail (row : QrRow)
  | list (rows : List QrRow)

structure QrReader where
  viewer : QrViewer
  ask : QrAsk

def numberOr (text : String) (default : Int) : Int :=
  match JsString.parseInt text with
  | none => default
  | some n => if n = 0 then default else n

structure QrWhere where
  createdById : Option Int
  status : Option QRStatus

/-- The `where` of a list, `none` for a creator that is not a number. -/
def listWhere (viewer : QrViewer) (createdById status : String) : Option QrWhere :=
  let status := qrStatusNamed status
  if !viewer.isAdmin then some ⟨some viewer.userId, status⟩
  else if createdById = "" then some ⟨none, status⟩
  else (JsString.parseInt createdById).map fun creator => ⟨some creator, status⟩

def QrWhere.holds (where_ : QrWhere) (row : QrRow) : Bool :=
  (match where_.createdById with
    | none => true
    | some creator => decide ((row.createdById : Int) = creator)) &&
  (match where_.status with
    | none => true
    | some status => decide (row.status = status))

/-- `skip` and `take`: a negative `take` counts from the end, a negative `skip` is refused. -/
def pageOf (rows : List QrRow) (skip take : Int) : Option (List QrRow) :=
  if skip < 0 then none
  else if 0 ≤ take then some ((rows.drop skip.toNat).take take.toNat)
  else some ((rows.reverse.drop skip.toNat).take (-take).toNat).reverse

namespace QrReader
variable (reader : QrReader)

def cacheKey : String :=
  match reader.ask with
  | .detail id o =>
    "qr:" ++ id ++ ":" ++ o.simple ++ ":" ++ o.width ++ ":" ++ o.darkColor ++ ":" ++ o.lightColor ++
      ":" ++ o.margin ++ ":" ++ o.errorCorrection
  | .list createdById status limit offset =>
    "qr:list:" ++ toString reader.viewer.userId ++ ":" ++ createdById ++ ":" ++ status ++ ":" ++
      toString (numberOr limit 10) ++ ":" ++ toString (numberOr offset 0)

def refused : Bool :=
  match reader.ask with
  | .detail .. => false
  | .list createdById status _ _ => (listWhere reader.viewer createdById status).isNone

/-- What the database tells the reader, newest code first; `none` where the request fails. -/
def answerFrom (desk : QrDesk) : Option QrShown :=
  match reader.ask with
  | .detail id _ => ((desk.findUnique id).filter (reader.viewer.mayUse ·)).map .detail
  | .list createdById status limit offset =>
    (listWhere reader.viewer createdById status).bind fun where_ =>
      (pageOf (desk.rows.reverse.filter where_.holds) (numberOr offset 0) (numberOr limit 10)).map
        .list

def mayKnow : QrShown → Bool
  | .detail row => reader.viewer.mayUse row
  | .list rows => rows.all (reader.viewer.mayUse ·)

end QrReader
end Asking

section Site

def itemScope (id : String) : String := "qr:" ++ id

def listScope (userId : Nat) : String := "qr:list:" ++ toString userId

def qrCovers (scope key : String) : Bool := scope.toList.isPrefixOf key.toList

def QrCodeRequest.target : QrCodeRequest → Option String
  | .update _ id _ | .delete _ id | .restore _ id => some id
  | .create .. | .scan _ => none

def QrCodeRequest.listed (desk : QrDesk) : QrCodeRequest → Option Nat
  | .create viewer .. => some viewer.userId
  | .update _ id _ | .delete _ id | .restore _ id => (desk.findUnique id).map (·.createdById)
  | .scan _ => none

def QrCodeRequest.scopes (desk : QrDesk) (request : QrCodeRequest) : List String :=
  (request.target.map itemScope).toList ++ ((request.listed desk).map listScope).toList

structure QrWriter where
  index : Nat
  todo : List String
  running : Option (Nat × String)
  swept : List String

/-- `accepted` are the writes so far, and `returned` those that have been answered with all their
prefixes deleted; a reader keeps those that had been when it came. -/
structure QrSite where
  desk : QrDesk
  accepted : List (QrCodeRequest × List String)
  cache : Cache String String QrShown
  readers : Nat → Option (QrReader × List Nat)
  writers : Nat → Option QrWriter
  returned : List Nat

def scopesOf (accepted : List (QrCodeRequest × List String)) (index : Nat) : List String :=
  (accepted[index - 1]?.map Prod.snd).getD []

inductive QrEvent where
  | get (id : Nat) (reader : QrReader) (reached : Bool)
  | find (id : Nat) (answered : Bool)
  | store (id : Nat) (reached : Bool)
  | write (id : Nat) (request : QrCodeRequest)
  | sweep (id : Nat) (reached : Bool)
  | delete (id : Nat) (reached : Bool)
  | answer (id : Nat)
  | wait (time : Nat)

def qrTtlSeconds : Nat := 60

namespace QrSite
variable (reader : JsonReader) (validator : Validators) (s : QrSite)

def started (now : Nat) : QrSite := ⟨⟨[]⟩, [], .empty now, fun _ => none, fun _ => none, []⟩

def get (id : Nat) (asking : QrReader) (reached : Bool) : QrSite :=
  match s.readers id with
  | some _ => s
  | none =>
    if asking.refused then s
    else { s with
      readers := Function.update s.readers id (some (asking, s.returned))
      cache := s.cache.lookup qrTtlSeconds id asking.cacheKey reached }

def find (id : Nat) (answered : Bool) : QrSite :=
  match s.readers id with
  | none => s
  | some (asking, _) =>
    { s with cache := s.cache.query id (if answered then asking.answerFrom s.desk else none) }

def store (id : Nat) (reached : Bool) : QrSite :=
  { s with cache := s.cache.store qrCovers id reached }

def write (id : Nat) (request : QrCodeRequest) : QrSite :=
  match s.writers id, s.desk.handle reader validator request with
  | none, .ok desk =>
    { s with
      desk := desk
      accepted := s.accepted ++ [(request, request.scopes s.desk)]
      cache := s.cache.write
      writers := Function.update s.writers id
        (some ⟨s.accepted.length + 1, request.scopes s.desk, none, []⟩) }
  | _, _ => s

def setWriter (id : Nat) (writer : Option QrWriter) : QrSite :=
  { s with writers := Function.update s.writers id writer }

/-- `cacheDelPrefix` asks for the keys of the next prefix. An error ends it. -/
def sweep (id : Nat) (reached : Bool) : QrSite :=
  match s.writers id with
  | some ⟨index, scope :: todo, none, swept⟩ =>
    if reached then
      { s.setWriter id (some ⟨index, todo, some (s.cache.sweeps.length, scope), swept⟩) with
        cache := s.cache.sweep qrCovers index scope }
    else s.setWriter id (some ⟨index, todo, none, swept⟩)
  | _ => s

def delete (id : Nat) (reached : Bool) : QrSite :=
  match s.writers id with
  | some ⟨index, todo, some (n, scope), swept⟩ =>
    if reached then
      { s.setWriter id (some ⟨index, todo, none, scope :: swept⟩) with cache := s.cache.delete n }
    else s.setWriter id (some ⟨index, todo, none, swept⟩)
  | _ => s

def answer (id : Nat) : QrSite :=
  match s.writers id with
  | some ⟨index, [], none, swept⟩ =>
    if (scopesOf s.accepted index).all (· ∈ swept) then
      { s.setWriter id none with returned := index :: s.returned }
    else s.setWriter id none
  | _ => s

def step (s : QrSite) : QrEvent → QrSite
  | .get id asking reached => s.get id asking reached
  | .find id answered => s.find id answered
  | .store id reached => s.store id reached
  | .write id request => s.write reader validator id request
  | .sweep id reached => s.sweep id reached
  | .delete id reached => s.delete id reached
  | .answer id => s.answer id
  | .wait time => { s with cache := s.cache.wait time }

end QrSite
end Site

variable {asking : QrReader} {lookup : CacheAside.Lookup String String QrShown}

section Invariant
variable (parser : JsonReader) (validator : Validators)

def deskAfter (accepted : List (QrCodeRequest × List String)) (n : Nat) : QrDesk :=
  run (fun desk request => desk.step parser validator request) ⟨[]⟩
    ((accepted.take n).map Prod.fst)

def Numbered (accepted : List (QrCodeRequest × List String)) (index : Nat) : Prop :=
  0 < index ∧ index ≤ accepted.length

structure Asked (accepted : List (QrCodeRequest × List String))
    (lookup : CacheAside.Lookup String String QrShown) (asking : QrReader) (since : List Nat) :
    Prop where
  key : lookup.key = asking.cacheKey
  read : ∀ copy, lookup.phase.read = some copy → copy.seen ≤ accepted.length ∧
    asking.answerFrom (deskAfter parser validator accepted copy.seen) = some copy.value
  since : ∀ index ∈ since, Numbered accepted index ∧
    ∀ scope ∈ scopesOf accepted index, (index, scope) ∈ lookup.past

namespace QrSite

structure Under (s : QrSite) (writer : QrWriter) : Prop where
  index : Numbered s.accepted writer.index
  swept : ∀ scope ∈ writer.swept, (writer.index, scope) ∈ s.cache.ended
  running : ∀ n scope, writer.running = some (n, scope) →
    ∃ sweep, s.cache.sweeps[n]? = some sweep ∧ sweep.index = writer.index ∧ sweep.scope = scope

structure Sound (s : QrSite) : Prop where
  replay : s.desk = deskAfter parser validator s.accepted s.accepted.length
  writes : s.cache.writes = s.accepted.length
  cache : Cache.Sound qrCovers qrTtlSeconds s.cache
  asked : ∀ id lookup, s.cache.lookups id = some lookup → ∃ asking since,
    s.readers id = some (asking, since) ∧ Asked parser validator s.accepted lookup asking since
  scopes : ∀ (n : Nat) write, s.accepted[n]? = some write →
    write.2 = write.1.scopes (deskAfter parser validator s.accepted n)
  returned : ∀ index ∈ s.returned, Numbered s.accepted index ∧
    ∀ scope ∈ scopesOf s.accepted index, (index, scope) ∈ s.cache.ended
  writers : ∀ id writer, s.writers id = some writer → s.Under writer

variable {parser validator} {s : QrSite}

theorem Under.kept {writer : QrWriter} (under : s.Under writer) (s' : QrSite)
    (accepted : ∀ index, Numbered s.accepted index → Numbered s'.accepted index)
    (cache : Cache.SweepsKept s.cache s'.cache) : s'.Under writer := by
  refine ⟨accepted _ under.index, fun scope here => cache.ended (under.swept scope here), ?_⟩
  intro n scope runs
  obtain ⟨sweep, at_n, index, same⟩ := under.running n scope runs
  obtain ⟨later, there, index', same', -⟩ := cache.sweeps n sweep at_n
  exact ⟨later, there, index'.trans index, same'.trans same⟩

theorem sound_started (now : Nat) : Sound parser validator (started now) where
  replay := rfl
  writes := rfl
  cache := Cache.sound_empty now
  asked := nofun
  scopes := nofun
  returned := nofun
  writers := nofun

theorem Sound.with_cache (sound : Sound parser validator s)
    (readers : Nat → Option (QrReader × List Nat)) {cache : Cache String String QrShown}
    (inside : Cache.Sound qrCovers qrTtlSeconds cache) (writes : cache.writes = s.cache.writes)
    (kept : Cache.SweepsKept s.cache cache)
    (asked : ∀ id lookup, cache.lookups id = some lookup → ∃ asking since,
      readers id = some (asking, since) ∧ Asked parser validator s.accepted lookup asking since) :
    Sound parser validator { s with cache := cache, readers := readers } where
  replay := sound.replay
  writes := writes.trans sound.writes
  cache := inside
  asked := asked
  scopes := sound.scopes
  returned index here :=
    ⟨(sound.returned index here).1,
      fun scope there => kept.ended ((sound.returned index here).2 scope there)⟩
  writers id writer known := (sound.writers id writer known).kept _ (fun _ number => number) kept

theorem sound_find (sound : Sound parser validator s) (id : Nat) (answered : Bool) :
    Sound parser validator (s.find id answered) := by
  unfold find
  cases known : s.readers id with
  | none => exact sound
  | some reader =>
    obtain ⟨asking, since⟩ := reader
    refine sound.with_cache _ (Cache.sound_query sound.cache _ _) (by simp)
      (Cache.sweepsKept_query _ _) (Cache.each_query sound.asked ?_ ?_)
    · intro lookup found there told
      obtain ⟨other, before, same, asked⟩ := sound.asked id lookup there
      rw [known] at same
      cases same
      refine ⟨asking, since, known, asked.key, ?_, asked.since⟩
      rintro _ ⟨⟩
      have now : s.cache.writes = s.accepted.length := sound.writes
      cases answered with
      | false => cases told
      | true => exact ⟨now.le, by rw [now, ← sound.replay]; exact told⟩
    · intro lookup there
      obtain ⟨other, before, same, asked⟩ := sound.asked id lookup there
      exact ⟨other, before, same, asked.key, nofun, asked.since⟩

theorem sound_store (sound : Sound parser validator s) (id : Nat) (reached : Bool) :
    Sound parser validator (s.store id reached) := by
  refine sound.with_cache _ (Cache.sound_store sound.cache id reached) (by simp)
    (Cache.sweepsKept_store _ _) (Cache.each_store sound.asked ?_)
  intro lookup copy there fetched
  obtain ⟨asking, since, known, asked⟩ := sound.asked id lookup there
  refine ⟨asking, since, known, asked.key, ?_, asked.since⟩
  rintro _ ⟨⟩
  exact asked.read copy (by rw [fetched]; rfl)

theorem sound_get (sound : Sound parser validator s) (id : Nat) (asking : QrReader)
    (reached : Bool) : Sound parser validator (s.get id asking reached) := by
  unfold get
  cases unused : s.readers id with
  | some _ => exact sound
  | none =>
    dsimp only
    split
    · exact sound
    · refine sound.with_cache _ (Cache.sound_lookup sound.cache id asking.cacheKey reached)
        (by simp) (Cache.sweepsKept_lookup _ _ _) (Cache.each_lookup ?_ ?_)
      · intro i lookup there
        obtain ⟨other, since, known, asked⟩ := sound.asked i lookup there
        have apart : i ≠ id := by
          rintro rfl
          rw [unused] at known
          cases known
        exact ⟨other, since, (Function.update_of_ne apart _ _).trans known, asked⟩
      · intro phase unread _
        refine ⟨asking, s.returned, Function.update_self _ _ _, rfl, ?_, sound.returned⟩
        intro copy read
        rw [unread] at read
        cases read

variable {accepted : List (QrCodeRequest × List String)}

theorem deskAfter_append {n : Nat} (inside : n ≤ accepted.length)
    (later : List (QrCodeRequest × List String)) :
    deskAfter parser validator (accepted ++ later) n = deskAfter parser validator accepted n := by
  rw [deskAfter, List.take_append_of_le_length inside]
  rfl

theorem scopesOf_append {index : Nat} (numbered : Numbered accepted index)
    (later : List (QrCodeRequest × List String)) :
    scopesOf (accepted ++ later) index = scopesOf accepted index := by
  have inside : index - 1 < accepted.length := by
    have := numbered.1
    have := numbered.2
    omega
  rw [scopesOf, List.getElem?_append_left inside]
  rfl

theorem numbered_append {index : Nat} (numbered : Numbered accepted index)
    (later : List (QrCodeRequest × List String)) :
    Numbered (accepted ++ later) index :=
  ⟨numbered.1, numbered.2.trans (by simp)⟩

theorem asked_append {since : List Nat}
    (asked : Asked parser validator accepted lookup asking since)
    (later : List (QrCodeRequest × List String)) :
    Asked parser validator (accepted ++ later) lookup asking since where
  key := asked.key
  read copy read := by
    obtain ⟨inside, told⟩ := asked.read copy read
    exact ⟨inside.trans (by simp), by rw [deskAfter_append inside]; exact told⟩
  since index here := by
    obtain ⟨numbered, past⟩ := asked.since index here
    exact ⟨numbered_append numbered later, by rw [scopesOf_append numbered]; exact past⟩

section
variable (sound : Sound parser validator s)
include sound

theorem sound_write (id : Nat) (request : QrCodeRequest) :
    Sound parser validator (s.write parser validator id request) := by
  unfold write
  split
  · next desk unused done =>
    have kept : Cache.SweepsKept s.cache s.cache.write := .of_eq rfl
    refine ⟨?_, ?_, Cache.sound_write sound.cache, ?_, ?_, ?_, ?_⟩
    · have stepped : s.desk.step parser validator request = desk := by
        rw [QrDesk.step, done]
      simp only [deskAfter, List.length_append, List.length_singleton]
      rw [List.take_of_length_le (by simp), List.map_append, run_append]
      have before := sound.replay
      rw [deskAfter, List.take_of_length_le (Nat.le_refl _)] at before
      rw [← before]
      exact stepped.symm
    · simp [Cache.write, sound.writes]
    · intro i lookup there
      obtain ⟨asking, since, known, asked⟩ := sound.asked i lookup there
      exact ⟨asking, since, known, asked_append asked _⟩
    · intro n written there
      rcases Nat.lt_or_ge n s.accepted.length with inside | beyond
      · rw [List.getElem?_append_left inside] at there
        rw [deskAfter_append inside.le]
        exact sound.scopes n written there
      · rw [List.getElem?_append_right beyond, List.getElem?_singleton] at there
        split at there
        · next last =>
          cases there
          have same : n = s.accepted.length := by omega
          rw [deskAfter_append same.le, same, ← sound.replay]
        · cases there
    · intro index here
      obtain ⟨numbered, past⟩ := sound.returned index here
      exact ⟨numbered_append numbered _, by rw [scopesOf_append numbered]; exact past⟩
    · refine InvalidatedCache.each_update ?_ ?_
      · intro i writer known
        exact (sound.writers i writer known).kept _ (fun _ numbered => numbered_append numbered _) kept
      · exact ⟨⟨Nat.succ_pos _, by simp⟩, by simp, by simp⟩
  · exact sound

theorem Sound.with_writer (id : Nat) {writer : Option QrWriter}
    (under : ∀ next, writer = some next → s.Under next) :
    Sound parser validator (s.setWriter id writer) where
  replay := sound.replay
  writes := sound.writes
  cache := sound.cache
  asked := sound.asked
  scopes := sound.scopes
  returned := sound.returned
  writers := by
    intro i other known
    have own : (s.setWriter id writer).Under other ↔ s.Under other :=
      ⟨fun h => ⟨h.index, h.swept, h.running⟩, fun h => ⟨h.index, h.swept, h.running⟩⟩
    rw [own]
    have now : Function.update s.writers id writer i = some other := known
    by_cases same : i = id
    · rw [same, Function.update_self] at now
      exact under other now
    · rw [Function.update_of_ne same] at now
      exact sound.writers i other now

theorem sound_sweep (id : Nat) (reached : Bool) :
    Sound parser validator (s.sweep id reached) := by
  unfold sweep
  split
  · next index scope todo swept known =>
    have under := sound.writers id _ known
    have still : s.Under ⟨index, todo, none, swept⟩ := ⟨under.index, under.swept, nofun⟩
    split
    · have cached := sound.with_cache s.readers
        (Cache.sound_sweep sound.cache index scope) (by simp) (Cache.sweepsKept_sweep _ _)
        (by rw [Cache.lookups_sweep]; exact sound.asked)
      refine cached.with_writer id ?_
      rintro _ ⟨⟩
      have kept := still.kept { s with cache := s.cache.sweep qrCovers index scope }
        (fun _ numbered => numbered) (Cache.sweepsKept_sweep _ _)
      refine ⟨kept.index, kept.swept, ?_⟩
      rintro _ _ ⟨⟩
      exact Cache.sweep_last (by rw [sound.writes]; exact under.index.2) scope
    · exact sound.with_writer id (by rintro _ ⟨⟩; exact still)
  · exact sound

theorem sound_delete (id : Nat) (reached : Bool) :
    Sound parser validator (s.delete id reached) := by
  unfold delete
  split
  · next index todo n scope swept known =>
    have under := sound.writers id _ known
    have still : s.Under ⟨index, todo, none, swept⟩ := ⟨under.index, under.swept, nofun⟩
    split
    · have cached := sound.with_cache s.readers (Cache.sound_delete sound.cache n)
        (by simp) (Cache.sweepsKept_delete _) (by rw [Cache.lookups_delete]; exact sound.asked)
      refine cached.with_writer id ?_
      rintro _ ⟨⟩
      have kept := still.kept { s with cache := s.cache.delete n }
        (fun _ numbered => numbered) (Cache.sweepsKept_delete _)
      refine ⟨kept.index, List.forall_mem_cons.mpr ⟨?_, kept.swept⟩, nofun⟩
      obtain ⟨running, there, same_index, same_scope⟩ := under.running n scope rfl
      have past := Cache.ended_delete there
      rwa [same_index, same_scope] at past
    · exact sound.with_writer id (by rintro _ ⟨⟩; exact still)
  · exact sound

theorem sound_answer (id : Nat) :
    Sound parser validator (s.answer id) := by
  unfold answer
  split
  · next index swept known =>
    have under := sound.writers id _ known
    have left : Sound parser validator (s.setWriter id none) := sound.with_writer id nofun
    split
    · next all =>
      refine ⟨left.replay, left.writes, left.cache, left.asked, left.scopes, ?_, ?_⟩
      · refine List.forall_mem_cons.mpr ⟨⟨under.index, fun scope here => ?_⟩, left.returned⟩
        have told := List.all_eq_true.mp all scope here
        exact under.swept scope (by simpa using told)
      · intro i writer stays
        exact (left.writers i writer stays).kept _ (fun _ numbered => numbered) (.of_eq rfl)
    · exact left
  · exact sound

theorem sound_wait (time : Nat) :
    Sound parser validator { s with cache := s.cache.wait time } :=
  sound.with_cache s.readers (Cache.sound_wait sound.cache time) rfl (.of_eq rfl)
    sound.asked

theorem sound_step (event : QrEvent) :
    Sound parser validator (s.step parser validator event) := by
  cases event with
  | get id asking reached => exact sound_get sound id asking reached
  | find id answered => exact sound_find sound id answered
  | store id reached => exact sound_store sound id reached
  | write id request => exact sound_write sound id request
  | sweep id reached => exact sound_sweep sound id reached
  | delete id reached => exact sound_delete sound id reached
  | answer id => exact sound_answer sound id
  | wait time => exact sound_wait sound time

end

theorem sound_run (now : Nat) (events : List QrEvent) :
    Sound parser validator (run (step parser validator) (started now) events) :=
  run_invariant (I := Sound parser validator) (fun _ event _ sound => sound_step sound event)
    (sound_started now)

end QrSite
end Invariant

section Results
variable {parser : JsonReader} {validator : Validators}

def QrReader.concernedBy (asking : QrReader) (desk : QrDesk) (request : QrCodeRequest) : Prop :=
  match asking.ask with
  | .detail id _ => request.target = some id
  | .list .. => request.listed desk = some asking.viewer.userId

theorem prefix_covers {scope key : String} {rest : List Char}
    (split : key.toList = scope.toList ++ rest) : qrCovers scope key = true := by
  rw [qrCovers, List.isPrefixOf_iff_prefix, split]
  exact List.prefix_append _ _

theorem covers_of_concernedBy {desk : QrDesk} {request : QrCodeRequest}
    (concerned : asking.concernedBy desk request) :
    ∃ scope ∈ request.scopes desk, qrCovers scope asking.cacheKey = true := by
  unfold QrReader.concernedBy at concerned
  split at concerned
  · next id options asked =>
    refine ⟨itemScope id, by simp [QrCodeRequest.scopes, concerned], ?_⟩
    apply prefix_covers
    rw [QrReader.cacheKey, asked]
    simp only [itemScope, String.toList_append, List.append_assoc]
    rfl
  · next createdById status limit offset asked =>
    refine ⟨listScope asking.viewer.userId, by simp [QrCodeRequest.scopes, concerned], ?_⟩
    apply prefix_covers
    rw [QrReader.cacheKey, asked]
    simp only [listScope, String.toList_append, List.append_assoc]
    rfl

theorem mem_pageOf {rows page : List QrRow} {skip take : Int}
    (paged : pageOf rows skip take = some page) {row : QrRow} (here : row ∈ page) : row ∈ rows := by
  unfold pageOf at paged
  split at paged
  · cases paged
  · split at paged
    · cases paged
      exact List.mem_of_mem_drop (List.mem_of_mem_take here)
    · cases paged
      have back := List.mem_of_mem_drop (List.mem_of_mem_take (List.mem_reverse.mp here))
      exact List.mem_reverse.mp back

theorem mayKnow_of_answerFrom {desk : QrDesk} {shown : QrShown}
    (told : asking.answerFrom desk = some shown) : asking.mayKnow shown = true := by
  unfold QrReader.answerFrom at told
  split at told
  · obtain ⟨row, found, rfl⟩ := Option.map_eq_some_iff.mp told
    exact (Option.filter_eq_some_iff.mp found).2
  · obtain ⟨where_, chosen, paged⟩ := Option.bind_eq_some_iff.mp told
    obtain ⟨page, cut, rfl⟩ := Option.map_eq_some_iff.mp paged
    refine List.all_eq_true.mpr fun row here => ?_
    have holds := (List.mem_filter.mp (mem_pageOf cut here)).2
    cases admin : asking.viewer.isAdmin with
    | true => simp [QrViewer.mayUse, admin]
    | false =>
      simp only [listWhere, admin, Bool.not_false, if_true, Option.some.injEq] at chosen
      subst chosen
      simp only [QrWhere.holds, Bool.and_eq_true, decide_eq_true_eq] at holds
      have own : row.createdById = asking.viewer.userId := by exact_mod_cast holds.1
      simp [QrViewer.mayUse, own]

def QrEvent.ofReader : QrEvent → Bool
  | .get .. | .find .. | .store .. => true
  | _ => false

namespace QrSite
variable {s : QrSite}

structure Told (s : QrSite) (id : Nat) (asking : QrReader) (since : List Nat)
    (lookup : CacheAside.Lookup String String QrShown) (copy : Copy QrShown) : Prop where
  reader : s.readers id = some (asking, since)
  known : s.cache.lookups id = some lookup
  shown : lookup.phase.shown = some copy

/-- No reader has been told of the code of another. -/
def OnlyOwn (s : QrSite) : Prop :=
  ∀ id asking since lookup copy, s.Told id asking since lookup copy →
    asking.mayKnow copy.value = true

/-- A request that reaches the cache finds nothing there that its reader may not know. -/
def MeetsOwn (s : QrSite) : QrEvent → Prop
  | .get id asking true => s.readers id = none → asking.refused = false →
      ∀ entry, s.cache.live qrTtlSeconds asking.cacheKey = some entry →
        asking.mayKnow entry.value = true
  | _ => True

variable {id : Nat}

theorem Sound.source (sound : Sound parser validator s) {since : List Nat} {copy : Copy QrShown}
    (told : s.Told id asking since lookup copy) : ∃ other, other.cacheKey = asking.cacheKey ∧
      other.answerFrom (deskAfter parser validator s.accepted copy.seen) = some copy.value ∧
      (other = asking ∨ ∃ entry, lookup.phase = .hit entry) := by
  obtain ⟨_, _, same, asked⟩ := sound.asked id lookup told.known
  rw [told.reader] at same
  cases same
  have shown := told.shown
  cases phase : lookup.phase with
  | loaded own =>
    rw [phase] at shown
    cases shown
    exact ⟨asking, rfl, (asked.read copy (by rw [phase]; rfl)).2, .inl rfl⟩
  | hit entry =>
    rw [phase] at shown
    cases shown
    obtain ⟨first, known, keyed, loaded⟩ := (sound.cache.hit id lookup told.known entry phase).source
    obtain ⟨other, before, _, first_asked⟩ := sound.asked entry.storedBy first known
    refine ⟨other, ?_, (first_asked.read entry.toCopy (by rw [loaded]; rfl)).2, .inr ⟨entry, rfl⟩⟩
    rw [← first_asked.key, keyed, asked.key]
  | querying | fetched | failed =>
    rw [phase] at shown
    cases shown

theorem aside_kept (event : QrEvent) (aside : event.ofReader = false) :
    (s.step parser validator event).cache.lookups = s.cache.lookups ∧
      (s.step parser validator event).readers = s.readers := by
  cases event with
  | get | find | store => cases aside
  | write i request =>
    simp only [step, write]
    split <;> exact ⟨rfl, rfl⟩
  | sweep i reached =>
    simp only [step, sweep]
    split
    · split
      · exact ⟨Cache.lookups_sweep _ _, rfl⟩
      · exact ⟨rfl, rfl⟩
    · exact ⟨rfl, rfl⟩
  | delete i reached =>
    simp only [step, delete]
    split
    · split
      · exact ⟨Cache.lookups_delete _, rfl⟩
      · exact ⟨rfl, rfl⟩
    · exact ⟨rfl, rfl⟩
  | answer i =>
    simp only [step, answer]
    split
    · split <;> exact ⟨rfl, rfl⟩
    · exact ⟨rfl, rfl⟩
  | wait time => exact ⟨rfl, rfl⟩

theorem hit_before {event : QrEvent} {entry : Entry QrShown}
    (known : (s.step parser validator event).cache.lookups id = some lookup)
    (hit : lookup.phase = .hit entry) :
    s.cache.lookups id = some lookup ∨ ∃ asking, event = .get id asking true ∧
      s.readers id = none ∧ asking.refused = false ∧
      s.cache.live qrTtlSeconds asking.cacheKey = some entry := by
  cases event with
  | get i asking reached =>
    simp only [step, get] at known
    cases unused : s.readers i with
    | some _ =>
      rw [unused] at known
      exact .inl known
    | none =>
      rw [unused] at known
      cases refused : asking.refused with
      | true =>
        rw [refused] at known
        exact .inl known
      | false =>
        rw [refused] at known
        refine Cache.each_lookup
          (Q := fun j reader => reader.phase = .hit entry → s.cache.lookups j = some reader ∨
            ∃ asking', QrEvent.get i asking reached = .get j asking' true ∧ s.readers j = none ∧
              asking'.refused = false ∧ s.cache.live qrTtlSeconds asking'.cacheKey = some entry)
          (fun j reader there _ => .inl there) ?_ id lookup known hit
        intro phase _ found here
        obtain ⟨rfl, live⟩ := found entry here
        exact .inr ⟨asking, rfl, unused, refused, live⟩
  | find i answered =>
    left
    simp only [step, find] at known
    cases reader : s.readers i with
    | none =>
      rw [reader] at known
      exact known
    | some asking =>
      rw [reader] at known
      exact Cache.each_query
        (Q := fun j reader => reader.phase = .hit entry → s.cache.lookups j = some reader)
        (fun j reader there _ => there) (fun _ _ _ _ => nofun) (fun _ _ => nofun) id lookup known hit
  | store i reached =>
    exact .inl (Cache.each_store
      (Q := fun j reader => reader.phase = .hit entry → s.cache.lookups j = some reader)
      (fun j reader there _ => there) (fun _ _ _ _ => nofun) id lookup known hit)
  | write | sweep | delete | answer | wait =>
    rw [(aside_kept _ rfl).1] at known
    exact .inl known

theorem readers_kept {reader : QrReader × List Nat} (known : s.readers id = some reader)
    (event : QrEvent) : (s.step parser validator event).readers id = some reader := by
  cases event with
  | get i asking reached =>
    simp only [step, get]
    cases unused : s.readers i with
    | some _ => exact known
    | none =>
      dsimp only
      split
      · exact known
      · have apart : id ≠ i := by
          rintro rfl
          rw [unused] at known
          cases known
        exact (Function.update_of_ne apart _ _).trans known
  | find i answered =>
    simp only [step, find]
    split <;> exact known
  | store i reached => exact known
  | write | sweep | delete | answer | wait =>
    rw [(aside_kept _ rfl).2]
    exact known

theorem told_hit (sound : Sound parser validator s) {entry : Entry QrShown}
    (unused : s.readers id = none) (taken : asking.refused = false)
    (live : s.cache.live qrTtlSeconds asking.cacheKey = some entry) :
    (s.get id asking true).Told id asking s.returned
      ⟨asking.cacheKey, s.cache.now, s.cache.ended, .hit entry⟩ entry.toCopy := by
  have fresh : s.cache.lookups id = none := by
    cases known : s.cache.lookups id with
    | none => rfl
    | some lookup =>
      obtain ⟨_, _, reader, _⟩ := sound.asked id lookup known
      rw [unused] at reader
      cases reader
  have after : s.get id asking true = { s with
      readers := Function.update s.readers id (some (asking, s.returned))
      cache := s.cache.lookup qrTtlSeconds id asking.cacheKey true } := by
    simp [get, unused, taken]
  rw [after]
  refine ⟨Function.update_self _ _ _, ?_, rfl⟩
  simp only [Cache.lookup, fresh, live, if_true]
  exact Function.update_self _ _ _

theorem onlyOwn_step_iff (sound : Sound parser validator s) (only : s.OnlyOwn) (event : QrEvent) :
    (s.step parser validator event).OnlyOwn ↔ s.MeetsOwn event := by
  constructor
  · intro after
    cases event with
    | get id asking reached =>
      cases reached with
      | false => trivial
      | true =>
        intro unused taken entry live
        exact after id asking _ _ _ (told_hit sound unused taken live)
    | _ => trivial
  · intro meets id asking since lookup copy told
    have later := sound_step sound event
    obtain ⟨other, keyed, answer, whence⟩ := later.source told
    rcases whence with rfl | ⟨entry, hit⟩
    · exact mayKnow_of_answerFrom answer
    · have shown := told.shown
      rw [hit] at shown
      cases shown
      rcases hit_before told.known hit with before | ⟨asking', rfl, unused, taken, live⟩
      · obtain ⟨asking', since', known, _⟩ := sound.asked id lookup before
        have same := (readers_kept known event).symm.trans told.reader
        cases same
        exact only id asking since lookup entry.toCopy ⟨known, before, by rw [hit]; rfl⟩
      · have same := (told_hit sound unused taken live).reader.symm.trans told.reader
        cases same
        exact meets unused taken entry live

/-- Whoever reads, writes and deletes at the same time: nobody is told of the code of another as
long as no request finds an answer in the cache that its reader may not know, and no longer. -/
theorem strangers_told_iff (parser : JsonReader) (validator : Validators) (now : Nat)
    (events : List QrEvent) :
    Always (step parser validator) OnlyOwn (started now) events ↔
      EachStep (step parser validator) MeetsOwn (started now) events :=
  always_iff_eachStep_of_inv (J := Sound parser validator) (fun _ event sound => sound_step sound event)
    (fun _ event sound only => onlyOwn_step_iff sound only event) (sound_started now)
    (fun _ _ _ _ _ told => by cases told.reader) events

/-- What a reader is told is what the database told one that asked by the same key, and that one
might know it. It has seen every change that the reader is concerned by and that had been answered,
with its keys deleted, before the reader came; unless it is an entry that came into the cache after
such a deletion, which is told for a minute. -/
structure Current (parser : JsonReader) (validator : Validators) (s : QrSite) : Prop where
  source : ∀ id asking since lookup copy, s.Told id asking since lookup copy →
    ∃ other : QrReader, other.cacheKey = asking.cacheKey ∧ other.mayKnow copy.value = true ∧
      other.answerFrom (deskAfter parser validator s.accepted copy.seen) = some copy.value
  changes : ∀ id asking since lookup copy, s.Told id asking since lookup copy →
    ∀ index ∈ since, ∀ write, s.accepted[index - 1]? = some write →
      asking.concernedBy (deskAfter parser validator s.accepted (index - 1)) write.1 →
      index ≤ copy.seen ∨ ∃ entry, lookup.phase = .hit entry ∧ entry.late = true ∧
        entry.storedAt ≤ lookup.startedAt ∧ lookup.startedAt < entry.storedAt + qrTtlSeconds

theorem Sound.current (sound : Sound parser validator s) : Current parser validator s where
  source := by
    intro id asking since lookup copy told
    obtain ⟨other, keyed, answer, -⟩ := sound.source told
    exact ⟨other, keyed, mayKnow_of_answerFrom answer, answer⟩
  changes := by
    intro id asking since lookup copy told index here write at_index concerned
    obtain ⟨_, _, same, asked⟩ := sound.asked id lookup told.known
    have one := told.reader.symm.trans same
    cases one
    obtain ⟨scope, listed, covered⟩ := covers_of_concernedBy concerned
    have its_scope : scope ∈ scopesOf s.accepted index := by
      rw [scopesOf, at_index, Option.map_some, Option.getD_some,
        sound.scopes (index - 1) write at_index]
      exact listed
    have past := (asked.since index here).2 scope its_scope
    rw [← asked.key] at covered
    exact sound.cache.answered told.known told.shown past covered

theorem told_current (parser : JsonReader) (validator : Validators) (now : Nat)
    (events : List QrEvent) :
    Current parser validator (run (step parser validator) (started now) events) :=
  (sound_run now events).current

end QrSite
end Results

end LeaderProduct
