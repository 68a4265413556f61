import LeaderProduct.SummaryTruth

/-! How often a summary is read from 1C because somebody forces it. -/
namespace LeaderProduct
open Transition

section Forcing
variable {T X E : Type} {config : SummaryConfig T X E} {s s' s'' : SummaryDesk T X E}
namespace SummaryDesk

/-- Two forced readings of one process for the same manager and day start ten seconds apart at
least. -/
def Apart (later earlier : Nat × SummaryPayload × Instant) : Prop :=
  later.1 = earlier.1 → later.2.1 = earlier.2.1 →
    earlier.2.2 + todaySummaryManualCooldownMs ≤ later.2.2

structure Spaced (s : SummaryDesk T X E) : Prop where
  apart : s.manualStarts.Pairwise Apart
  last : ∀ process payload t, (process, payload, t) ∈ s.manualStarts →
    ∃ latest, (s.processes process).manualRefreshAt payload = some latest ∧ t ≤ latest

structure SameStarts (s s' : SummaryDesk T X E) : Prop where
  starts : s'.manualStarts = s.manualStarts
  times : ∀ process, (s'.processes process).manualRefreshAt = (s.processes process).manualRefreshAt

theorem SameStarts.refl (s : SummaryDesk T X E) : SameStarts s s := ⟨rfl, fun _ => rfl⟩

theorem SameStarts.trans (first : SameStarts s s') (second : SameStarts s' s'') : SameStarts s s'' :=
  ⟨second.starts.trans first.starts, fun process => (second.times process).trans (first.times process)⟩

theorem Spaced.same (spaced : Spaced s) (same : SameStarts s s') : Spaced s' where
  apart := by
    rw [same.starts]
    exact spaced.apart
  last := by
    intro process payload t there
    rw [same.starts] at there
    rw [same.times]
    exact spaced.last process payload t there

theorem sameStarts_setProcess {process : Nat} {p : SummaryProcess T}
    (times : p.manualRefreshAt = (s.processes process).manualRefreshAt) :
    SameStarts s (s.setProcess process p) := by
  refine ⟨rfl, fun other => ?_⟩
  by_cases own : other = process
  · subst own
    simp [SummaryDesk.setProcess, times]
  · simp [SummaryDesk.setProcess, own]

theorem sameStarts_setPhase (id : Nat) (ask : SummaryAsk T E) (phase : SummaryPhase T E) :
    SameStarts s (s.setPhase id ask phase) := ⟨rfl, fun _ => rfl⟩

theorem sameStarts_answer (id : Nat) (ask : SummaryAsk T E) (manual payload : Option SummaryPayload)
    (reply : SummaryReply T E) : SameStarts s (s.answer id ask manual payload reply) := by
  cases manual with
  | none => exact ⟨rfl, fun _ => rfl⟩
  | some key =>
    have left : SameStarts s (s.setProcess ask.process { s.processes ask.process with
        manualRefreshes :=
          Function.update (s.processes ask.process).manualRefreshes key none }) :=
      sameStarts_setProcess rfl
    exact ⟨left.starts, left.times⟩

theorem sameStarts_loadStale (id : Nat) (ask : SummaryAsk T E) (payload : SummaryPayload)
    (manual : Bool) (error : SummaryError E) :
    SameStarts s (s.loadStale config id ask payload manual error) := by
  unfold SummaryDesk.loadStale
  dsimp only
  split
  · exact sameStarts_setPhase ..
  · split
    · exact sameStarts_answer ..
    · refine SameStarts.trans ?_ (sameStarts_setPhase ..)
      exact sameStarts_setProcess rfl

theorem sameStarts_withReading (id : Nat) (ask : SummaryAsk T E) (payload : SummaryPayload)
    (manual : Bool) (reply : CacheReply (CachedRead T X) E) :
    SameStarts s (s.withReading config id ask payload manual reply) := by
  unfold SummaryDesk.withReading
  split
  · split
    · exact sameStarts_answer ..
    · refine SameStarts.trans ?_ (sameStarts_setPhase ..)
      exact sameStarts_setProcess rfl
  · exact SameStarts.refl s
  · exact sameStarts_loadStale ..
  · exact sameStarts_loadStale ..

theorem Spaced.startFresh (spaced : Spaced s) (id : Nat) {ask : SummaryAsk T E}
    {payload : SummaryPayload} {forceRefresh : Bool}
    (rested : forceRefresh = true → ∀ latest,
      (s.processes ask.process).manualRefreshAt payload = some latest →
        latest + todaySummaryManualCooldownMs ≤ s.now) (call : Nat) :
    Spaced (s.startFresh config id ask payload forceRefresh call) := by
  unfold SummaryDesk.startFresh
  split
  · exact spaced
  · cases forceRefresh with
    | false => exact spaced.same ⟨rfl, fun _ => rfl⟩
    | true =>
      constructor
      case apart =>
        refine List.pairwise_cons.mpr ⟨fun earlier there same_process same_payload => ?_, spaced.apart⟩
        obtain ⟨process, key, t⟩ := earlier
        dsimp only at same_process same_payload
        subst same_process same_payload
        obtain ⟨latest, known, before⟩ := spaced.last _ _ t there
        exact (Nat.add_le_add_right before _).trans (rested rfl latest known)
      case last =>
        intro process key t there
        by_cases own : process = ask.process ∧ key = payload
        · obtain ⟨rfl, rfl⟩ := own
          refine ⟨s.now, by simp [SummaryDesk.setProcess], ?_⟩
          rcases List.mem_cons.mp there with new | old
          · cases new
            exact Nat.le_refl _
          · obtain ⟨latest, known, before⟩ := spaced.last _ _ t old
            exact before.trans ((Nat.le_add_right _ _).trans (rested rfl latest known))
        · have old : (process, key, t) ∈ s.manualStarts := by
            rcases List.mem_cons.mp there with new | old
            · cases new
              exact absurd ⟨rfl, rfl⟩ own
            · exact old
          obtain ⟨latest, known, before⟩ := spaced.last process key t old
          refine ⟨latest, ?_, before⟩
          by_cases process_own : process = ask.process
          · have other : key ≠ payload := fun same => own ⟨process_own, same⟩
            subst process_own
            simpa [SummaryDesk.setProcess, other] using known
          · simpa [SummaryDesk.setProcess, SummaryDesk.setPhase, SummaryDesk.stepCache, process_own]
              using known

theorem Spaced.withManager (spaced : Spaced s) (id : Nat) (ask : SummaryAsk T E) (forceRefresh : Bool)
    (call : Nat) : Spaced (s.withManager config id ask forceRefresh call) := by
  unfold SummaryDesk.withManager
  split
  · exact spaced.same (sameStarts_answer ..)
  · dsimp only
    split
    · split
      · exact spaced.same (sameStarts_setPhase ..)
      · split
        · exact spaced.same (sameStarts_setPhase ..)
        · next rested =>
          refine spaced.startFresh id (fun _ latest known => ?_) call
          rw [known, Option.getD_some] at rested
          have pause : todaySummaryManualCooldownMs ≤ s.now - latest := Nat.le_of_not_lt rested
          have some_time : 0 < s.now - latest := Nat.lt_of_lt_of_le (by decide) pause
          exact Nat.add_le_of_le_sub' (Nat.lt_of_sub_pos some_time).le pause
    · refine spaced.startFresh id ?_ call
      exact nofun

theorem Spaced.continueAsk (spaced : Spaced s) (id : Nat) (event : SummaryEvent T X E)
    (ask : SummaryAsk T E) : Spaced (s.continueAsk config id event ask) := by
  unfold SummaryDesk.continueAsk
  split
  · refine Spaced.withManager (spaced.same ?_) ..
    exact ⟨rfl, fun _ => rfl⟩
  · unfold SummaryDesk.resume
    split
    · exact spaced
    · split
      · exact spaced.same (sameStarts_withReading ..)
      · exact spaced.same (sameStarts_withReading ..)
      · exact spaced
  · unfold SummaryDesk.persisted
    refine spaced.same (SameStarts.trans ?_ (sameStarts_answer ..))
    exact ⟨rfl, fun _ => rfl⟩
  · unfold SummaryDesk.readStale
    split
    · refine spaced.same (SameStarts.trans ?_ (sameStarts_answer ..))
      exact sameStarts_setProcess rfl
    · exact spaced.same (sameStarts_answer ..)
  · exact spaced

theorem summaryStep_spaced (spaced : Spaced s) (event : SummaryEvent T X E) :
    Spaced (summaryStep config s event) := by
  have onAsk (id : Nat) (event : SummaryEvent T X E) :
      Spaced ((s.asks id).elim s (s.continueAsk config id event)) :=
    elim_rule spaced fun ask _ => spaced.continueAsk id event ask
  cases event with
  | cache action =>
    simp only [summaryStep]
    split
    · exact spaced.same ⟨rfl, fun _ => rfl⟩
    · exact spaced
  | live call outcome =>
    simp only [summaryStep, SummaryDesk.live]
    split
    · exact spaced.same ⟨rfl, fun _ => rfl⟩
    · exact spaced
  | ask id process forceRefresh =>
    simp only [summaryStep]
    split
    · exact spaced
    · exact spaced.same ⟨rfl, fun _ => rfl⟩
  | manager id call onecUserGuid => exact onAsk id _
  | resume id => exact onAsk id _
  | persisted id landed => exact onAsk id _
  | staleRead id answered => exact onAsk id _
  | forgetStale hash => exact spaced.same ⟨rfl, fun _ => rfl⟩

end SummaryDesk
end Forcing

section Runs
variable {T X E : Type}
namespace SummaryDesk

/-- The asks that read as the task of a forced reading are one for a process, manager and day at a
time, and the forced readings start ten seconds apart. -/
structure ForcedSparsely (s : SummaryDesk T X E) : Prop where
  alone : ∀ id id' ask ask' payload, s.asks id = some ask → s.asks id' = some ask' →
    ask.process = ask'.process → ask.phase.task = some payload →
      ask'.phase.task = some payload → id = id'
  apart : s.manualStarts.Pairwise Apart

theorem Truthful.alone {config : SummaryConfig T X E} {s : SummaryDesk T X E}
    (truthful : Truthful config s) {id id' : Nat} {ask ask' : SummaryAsk T E}
    {payload : SummaryPayload} (known : s.asks id = some ask) (known' : s.asks id' = some ask')
    (process : ask.process = ask'.process) (task : ask.phase.task = some payload)
    (task' : ask'.phase.task = some payload) : id = id' := by
  have listed := truthful.running id ask payload known task
  rw [process, truthful.running id' ask' payload known' task'] at listed
  exact (Option.some.inj listed).symm

/-- However often and in how many requests at once somebody forces a reading. -/
theorem forced_readings_sparse (config : SummaryConfig T X E) (now : Instant)
    (events : List (SummaryEvent T X E)) :
    Always (summaryStep config) ForcedSparsely (start now) events :=
  always_of_invariant (J := fun s => Truthful config s ∧ Spaced s)
    (fun _ event both => ⟨summaryStep_truthful both.1 event, summaryStep_spaced both.2 event⟩)
    (fun _ both => ⟨fun _ _ _ _ _ known known' process task task' =>
      both.1.alone known known' process task task', both.2.apart⟩)
    ⟨truthful_start config now, List.Pairwise.nil, nofun⟩ events

end SummaryDesk
end Runs

end LeaderProduct
