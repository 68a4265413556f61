import Mathlib.Data.List.Sort
import Mathlib.MeasureTheory.Measure.Lebesgue.Basic
import LeaderProduct.AppealDesk
import LeaderProduct.Timeline

/-! How long an appeal stayed open and in work, computed from its status history, against the
lengths of the moments at which it had these statuses. -/
namespace LeaderProduct

section Code

structure TimedChange where
  oldStatus : AppealStatus
  newStatus : AppealStatus
  changedAt : Int

structure SlaMetrics where
  openDurationMs : Nat
  workDurationMs : Nat
  timeToFirstInProgressMs : Option Nat
  timeToFirstResolvedMs : Option Nat
  deriving DecidableEq, Repr

structure SlaPoint where
  status : AppealStatus
  start : Int
  stop : Int

def sortedChanges (history : List TimedChange) : List TimedChange :=
  history.insertionSort (fun a b => a.changedAt ≤ b.changedAt)

def slaPoints (cursorStatus : AppealStatus) (cursorStart now : Int) :
    List TimedChange → List SlaPoint
  | [] => [⟨cursorStatus, cursorStart, now⟩]
  | h :: sorted =>
    ⟨cursorStatus, cursorStart, h.changedAt⟩ :: slaPoints h.newStatus h.changedAt now sorted

def sumByStatus (points : List SlaPoint) (status : AppealStatus) : Nat :=
  ((points.filter (fun p => decide (p.status = status))).map
    (fun p => (p.stop - p.start).toNat)).sum

def timeToFirst (appealCreatedAt : Int) (sorted : List TimedChange) (status : AppealStatus) :
    Option Nat :=
  (sorted.find? (fun h => decide (h.newStatus = status))).map
    (fun h => (h.changedAt - appealCreatedAt).toNat)

/-- The current status only stands in for a missing cursor, and there always is one. -/
def calculateAppealSla (appealCreatedAt : Int) (_currentStatus : AppealStatus)
    (history : List TimedChange) (now : Int) : SlaMetrics :=
  let sorted := sortedChanges history
  let points := slaPoints .opened appealCreatedAt now sorted
  { openDurationMs := sumByStatus points .opened
    workDurationMs := sumByStatus points .inProgress
    timeToFirstInProgressMs := timeToFirst appealCreatedAt sorted .inProgress
    timeToFirstResolvedMs := timeToFirst appealCreatedAt sorted .resolved }

end Code

section Moments

def timeline (history : List TimedChange) : List (ℝ × AppealStatus) :=
  history.map (fun h => ((h.changedAt : ℝ), h.newStatus))

/-- The appeal has the status at that moment: opened until the first change. -/
def HasStatus (history : List TimedChange) (moment : ℝ) (status : AppealStatus) : Prop :=
  Timeline.Holds .opened (timeline history) moment status

def momentsIn (status : AppealStatus) (appealCreatedAt : Int) (history : List TimedChange)
    (now : Int) : Set ℝ :=
  {moment | (appealCreatedAt : ℝ) ≤ moment ∧ moment < now ∧ HasStatus history moment status}

end Moments

section Measure

theorem mem_timeline {history history' : List TimedChange} (perm : history.Perm history')
    (c : ℝ × AppealStatus) : c ∈ timeline history ↔ c ∈ timeline history' :=
  (perm.map _).mem_iff

theorem length_between (start stop : Int) :
    MeasureTheory.volume (Set.Ico (start : ℝ) stop) = ((stop - start).toNat : ENNReal) := by
  have difference : ((stop : ℝ) - start) = ((stop - start : Int) : ℝ) := by push_cast; ring
  rw [Real.volume_Ico, difference]
  rcases Int.le_total 0 (stop - start) with forward | backward
  · obtain ⟨length, same⟩ := Int.eq_ofNat_of_zero_le forward
    rw [same, Int.toNat_natCast, Int.cast_natCast, ENNReal.ofReal_natCast]
  · have none_left : ((stop - start : Int) : ℝ) ≤ 0 := by exact_mod_cast backward
    rw [ENNReal.ofReal_of_nonpos none_left, Int.toNat_of_nonpos backward, Nat.cast_zero]

theorem sumByStatus_cons (point : SlaPoint) (points : List SlaPoint) (status : AppealStatus) :
    sumByStatus (point :: points) status =
      (if status = point.status then (point.stop - point.start).toNat else 0) +
        sumByStatus points status := by
  by_cases same : point.status = status
  · simp [sumByStatus, same]
  · simp [sumByStatus, same, Ne.symm same]

theorem volume_slaPoints {sorted : List TimedChange} {first : AppealStatus} {start now : Int}
    (ordered : sorted.Pairwise (fun a b => a.changedAt < b.changedAt))
    (after_start : ∀ h ∈ sorted, start ≤ h.changedAt) (before_now : ∀ h ∈ sorted, h.changedAt ≤ now)
    (status : AppealStatus) :
    MeasureTheory.volume (Timeline.spell first (timeline sorted) (start : ℝ) now status) =
      (sumByStatus (slaPoints first start now sorted) status : ENNReal) := by
  induction sorted generalizing first start with
  | nil =>
    rw [timeline, List.map_nil, Timeline.length_spell_nil, length_between, slaPoints,
      sumByStatus_cons]
    by_cases same : status = first <;> simp [same, sumByStatus]
  | cons h sorted ih =>
    obtain ⟨later, ordered⟩ := List.pairwise_cons.mp ordered
    have later_moments : ∀ d ∈ timeline sorted, (h.changedAt : ℝ) < d.1 := by
      intro d listed
      obtain ⟨h', inner, rfl⟩ := List.mem_map.mp listed
      exact Int.cast_lt.mpr (later h' inner)
    have started : (start : ℝ) ≤ h.changedAt := by
      exact_mod_cast after_start h List.mem_cons_self
    have ends : (h.changedAt : ℝ) ≤ now := by exact_mod_cast before_now h List.mem_cons_self
    have rest := @ih h.newStatus h.changedAt ordered (fun h' inner => le_of_lt (later h' inner))
      (fun h' inner => before_now h' (List.mem_cons_of_mem h inner))
    have split : timeline (h :: sorted) = ((h.changedAt : ℝ), h.newStatus) :: timeline sorted := rfl
    rw [split, Timeline.length_spell_cons MeasureTheory.volume (fun a b => measurableSet_Ico)
      later_moments started ends, length_between, slaPoints, sumByStatus_cons, Nat.cast_add, ← rest]
    by_cases same : status = first <;> simp [same]

end Measure

section Sorting
variable {history history' : List TimedChange}

theorem sortedChanges_perm (history : List TimedChange) : (sortedChanges history).Perm history :=
  List.perm_insertionSort _ history

theorem sortedChanges_ordered (history : List TimedChange) :
    (sortedChanges history).Pairwise (fun a b => a.changedAt ≤ b.changedAt) := by
  have total : Std.Total (fun a b : TimedChange => a.changedAt ≤ b.changedAt) :=
    ⟨fun a b => le_total a.changedAt b.changedAt⟩
  have transitive : IsTrans TimedChange (fun a b => a.changedAt ≤ b.changedAt) :=
    ⟨fun _ _ _ => le_trans⟩
  exact List.pairwise_insertionSort _ history

theorem sortedChanges_strict (distinct : (history.map TimedChange.changedAt).Nodup) :
    (sortedChanges history).Pairwise (fun a b => a.changedAt < b.changedAt) := by
  have apart : ((sortedChanges history).map TimedChange.changedAt).Nodup :=
    ((sortedChanges_perm history).map _).nodup_iff.mpr distinct
  have different := List.pairwise_map.mp apart
  exact (sortedChanges_ordered history).imp₂ (fun a b le ne => lt_of_le_of_ne le ne) different

theorem sortedChanges_of_perm (distinct : (history.map TimedChange.changedAt).Nodup)
    (perm : history'.Perm history) : sortedChanges history' = sortedChanges history := by
  have same_rows : (sortedChanges history').Perm (sortedChanges history) :=
    ((sortedChanges_perm history').trans perm).trans (sortedChanges_perm history).symm
  refine same_rows.eq_of_pairwise (fun a b listed listed' le ge => ?_)
    (sortedChanges_ordered history') (sortedChanges_ordered history)
  have here : a ∈ history := perm.subset ((sortedChanges_perm history').subset listed)
  have there : b ∈ history := (sortedChanges_perm history).subset listed'
  exact List.inj_on_of_nodup_map distinct here there (le_antisymm le ge)

theorem first_changedAt_iff (p : TimedChange → Bool) (time : Int) :
    ((sortedChanges history).find? p).map TimedChange.changedAt = some time ↔
      (∃ h ∈ history, p h = true ∧ h.changedAt = time) ∧
        ∀ h ∈ history, p h = true → time ≤ h.changedAt := by
  have earliest : ∀ h, (sortedChanges history).find? p = some h →
      (h ∈ history ∧ p h = true) ∧ ∀ h' ∈ history, p h' = true → h.changedAt ≤ h'.changedAt := by
    intro h found
    obtain ⟨kind, before, after, split, none_before⟩ := List.find?_eq_some_iff_append.mp found
    have listed : h ∈ history :=
      (sortedChanges_perm history).subset (List.mem_of_find?_eq_some found)
    refine ⟨⟨listed, kind⟩, fun h' listed' kind' => ?_⟩
    have ordered := sortedChanges_ordered history
    have sorted' : h' ∈ sortedChanges history := (sortedChanges_perm history).symm.subset listed'
    rw [split] at ordered sorted'
    obtain ⟨-, later, -⟩ := List.pairwise_append.mp ordered
    rcases List.mem_append.mp sorted' with early | late
    · have other := none_before h' early
      rw [kind'] at other
      cases other
    · rcases List.mem_cons.mp late with same | behind
      · rw [same]
      · exact (List.pairwise_cons.mp later).1 h' behind
  constructor
  · intro first
    obtain ⟨h, found, rfl⟩ := Option.map_eq_some_iff.mp first
    obtain ⟨⟨listed, kind⟩, least⟩ := earliest h found
    exact ⟨⟨h, listed, kind, rfl⟩, least⟩
  · rintro ⟨⟨h, listed, kind, rfl⟩, least⟩
    have some_kind : ((sortedChanges history).find? p).isSome = true :=
      List.find?_isSome.mpr ⟨h, (sortedChanges_perm history).symm.subset listed, kind⟩
    obtain ⟨first, found⟩ := Option.isSome_iff_exists.mp some_kind
    obtain ⟨⟨listed', kind'⟩, least'⟩ := earliest first found
    rw [found, Option.map_some, le_antisymm (least' h listed kind) (least first listed' kind')]

end Sorting

section Repeat
variable {history : List TimedChange} {h : TimedChange}

theorem distinct_moments (distinct : (history.map TimedChange.changedAt).Nodup) :
    ((timeline history).map Prod.fst).Nodup := by
  have casts : (timeline history).map Prod.fst =
      (history.map TimedChange.changedAt).map (Int.cast : Int → ℝ) := by
    simp [timeline, Function.comp_def]
  rw [casts]
  exact distinct.map Int.cast_injective

theorem momentsIn_repeat (distinct : ((h :: history).map TimedChange.changedAt).Nodup)
    (repeats : HasStatus history h.changedAt h.newStatus) (status : AppealStatus)
    (appealCreatedAt now : Int) :
    momentsIn status appealCreatedAt (h :: history) now =
      momentsIn status appealCreatedAt history now := by
  have same (moment : ℝ) :
      HasStatus (h :: history) moment status ↔ HasStatus history moment status :=
    Timeline.holds_insert_repeat (distinct_moments distinct) repeats
  ext moment
  simp only [momentsIn, Set.mem_ofPred_eq, same]

theorem timeToFirst_repeat (repeats : HasStatus history h.changedAt h.newStatus)
    (appealCreatedAt : Int) {status : AppealStatus} (other : status ≠ .opened) :
    timeToFirst appealCreatedAt (sortedChanges (h :: history)) status =
      timeToFirst appealCreatedAt (sortedChanges history) status := by
  have earlier : h.newStatus = status →
      ∃ c ∈ history, c.newStatus = status ∧ c.changedAt ≤ h.changedAt := by
    intro kind
    obtain ⟨d, listed, reached, value⟩ := Timeline.Holds.set_before repeats (kind ▸ other)
    obtain ⟨c, inner, rfl⟩ := List.mem_map.mp listed
    exact ⟨c, inner, value.trans kind, Int.cast_le.mp reached⟩
  have same_first :
      ((sortedChanges (h :: history)).find? (fun h => decide (h.newStatus = status))).map
          TimedChange.changedAt =
        ((sortedChanges history).find? (fun h => decide (h.newStatus = status))).map
          TimedChange.changedAt := by
    refine Option.ext fun time => ?_
    rw [first_changedAt_iff, first_changedAt_iff]
    simp only [decide_eq_true_eq]
    constructor
    · rintro ⟨⟨g, listed, kind, at_time⟩, least⟩
      have least_inner : ∀ c ∈ history, c.newStatus = status → time ≤ c.changedAt :=
        fun c inner => least c (List.mem_cons_of_mem h inner)
      refine ⟨?_, least_inner⟩
      rcases List.mem_cons.mp listed with same | inner
      · obtain ⟨c, inner, kind', before⟩ := earlier (same ▸ kind)
        have back : c.changedAt ≤ time := by rw [← at_time, same]; exact before
        exact ⟨c, inner, kind', le_antisymm back (least_inner c inner kind')⟩
      · exact ⟨g, inner, kind, at_time⟩
    · rintro ⟨⟨g, inner, kind, at_time⟩, least⟩
      refine ⟨⟨g, List.mem_cons_of_mem h inner, kind, at_time⟩, fun c listed kind' => ?_⟩
      rcases List.mem_cons.mp listed with same | inner'
      · obtain ⟨c', inner', kind'', before⟩ := earlier (same ▸ kind')
        rw [same]
        exact le_trans (least c' inner' kind'') before
      · exact least c inner' kind'
  have shape (sorted : List TimedChange) : timeToFirst appealCreatedAt sorted status =
      ((sorted.find? (fun h => decide (h.newStatus = status))).map TimedChange.changedAt).map
        (fun time => (time - appealCreatedAt).toNat) := by
    rw [timeToFirst, Option.map_map]; rfl
  rw [shape, shape, same_first]

end Repeat

section Durations
variable {appealCreatedAt : Int} {history : List TimedChange} {now : Int}

theorem volume_momentsIn (distinct : (history.map TimedChange.changedAt).Nodup)
    (after_creation : ∀ h ∈ history, appealCreatedAt ≤ h.changedAt)
    (before_now : ∀ h ∈ history, h.changedAt ≤ now) (status : AppealStatus) :
    MeasureTheory.volume (momentsIn status appealCreatedAt history now) =
      (sumByStatus (slaPoints .opened appealCreatedAt now (sortedChanges history)) status :
        ENNReal) := by
  have rows (h : TimedChange) (listed : h ∈ sortedChanges history) : h ∈ history :=
    (sortedChanges_perm history).subset listed
  have moments : momentsIn status appealCreatedAt history now =
      Timeline.spell .opened (timeline (sortedChanges history)) (appealCreatedAt : ℝ) now status :=
    Timeline.spell_congr (mem_timeline (sortedChanges_perm history).symm)
  rw [moments]
  exact volume_slaPoints (sortedChanges_strict distinct)
    (fun h listed => after_creation h (rows h listed))
    (fun h listed => before_now h (rows h listed)) status

theorem sumByStatus_eq {history' : List TimedChange} {status : AppealStatus}
    (distinct : (history.map TimedChange.changedAt).Nodup)
    (after_creation : ∀ h ∈ history, appealCreatedAt ≤ h.changedAt)
    (before_now : ∀ h ∈ history, h.changedAt ≤ now)
    (distinct' : (history'.map TimedChange.changedAt).Nodup)
    (after_creation' : ∀ h ∈ history', appealCreatedAt ≤ h.changedAt)
    (before_now' : ∀ h ∈ history', h.changedAt ≤ now)
    (same : momentsIn status appealCreatedAt history now =
      momentsIn status appealCreatedAt history' now) :
    sumByStatus (slaPoints .opened appealCreatedAt now (sortedChanges history)) status =
      sumByStatus (slaPoints .opened appealCreatedAt now (sortedChanges history')) status := by
  have lengths := congrArg MeasureTheory.volume same
  rw [volume_momentsIn distinct after_creation before_now,
    volume_momentsIn distinct' after_creation' before_now'] at lengths
  exact_mod_cast lengths

end Durations

/-- The durations are the lengths of the moments with the status; the order of the rows and a row
that repeats the status of its moment do not matter. -/
theorem sla_measures_history (appealCreatedAt : Int) (currentStatus : AppealStatus)
    (history : List TimedChange) (now : Int)
    (distinct : (history.map TimedChange.changedAt).Nodup)
    (after_creation : ∀ h ∈ history, appealCreatedAt ≤ h.changedAt)
    (before_now : ∀ h ∈ history, h.changedAt ≤ now) :
    (MeasureTheory.volume (momentsIn .opened appealCreatedAt history now) =
        ((calculateAppealSla appealCreatedAt currentStatus history now).openDurationMs : ENNReal) ∧
      MeasureTheory.volume (momentsIn .inProgress appealCreatedAt history now) =
        ((calculateAppealSla appealCreatedAt currentStatus history now).workDurationMs : ENNReal)) ∧
    (∀ history', history'.Perm history →
      calculateAppealSla appealCreatedAt currentStatus history' now =
        calculateAppealSla appealCreatedAt currentStatus history now) ∧
    ∀ (before after : List TimedChange) (h : TimedChange), before ++ after = history →
      h.changedAt ∉ history.map TimedChange.changedAt →
      appealCreatedAt ≤ h.changedAt → h.changedAt ≤ now →
      HasStatus history h.changedAt h.newStatus →
      calculateAppealSla appealCreatedAt currentStatus (before ++ h :: after) now =
        calculateAppealSla appealCreatedAt currentStatus history now := by
  refine ⟨⟨volume_momentsIn distinct after_creation before_now _,
    volume_momentsIn distinct after_creation before_now _⟩, fun history' perm => ?_,
    fun before after h split fresh created reached repeats => ?_⟩
  · simp only [calculateAppealSla, sortedChanges_of_perm distinct perm]
  · subst split
    have distinct_all : ((h :: (before ++ after)).map TimedChange.changedAt).Nodup :=
      List.nodup_cons.mpr ⟨fresh, distinct⟩
    have to_front : (before ++ h :: after).Perm (h :: (before ++ after)) := List.perm_middle
    have sum (status : AppealStatus) := sumByStatus_eq distinct_all
      (List.forall_mem_cons.mpr ⟨created, after_creation⟩)
      (List.forall_mem_cons.mpr ⟨reached, before_now⟩) distinct after_creation before_now
      (momentsIn_repeat distinct_all repeats status appealCreatedAt now)
    have first {status : AppealStatus} (other : status ≠ .opened) :=
      timeToFirst_repeat repeats appealCreatedAt other
    simp only [calculateAppealSla, sortedChanges_of_perm distinct_all to_front, sum,
      first (show AppealStatus.inProgress ≠ .opened by decide),
      first (show AppealStatus.resolved ≠ .opened by decide)]

def returnedHistory : List TimedChange :=
  [⟨.resolved, .inProgress, 70⟩, ⟨.opened, .inProgress, 30⟩, ⟨.inProgress, .resolved, 50⟩]

theorem sla_measures_history_returned :
    MeasureTheory.volume (momentsIn .opened 10 returnedHistory 100) = 20 ∧
      MeasureTheory.volume (momentsIn .inProgress 10 returnedHistory 100) = 50 := by
  obtain ⟨⟨opened, work⟩, -⟩ := sla_measures_history 10 .inProgress returnedHistory 100
    (by decide) (by decide) (by decide)
  have sla :
      calculateAppealSla 10 .inProgress returnedHistory 100 = ⟨20, 50, some 20, some 40⟩ := by
    decide
  rw [sla] at opened work
  exact ⟨opened, work⟩

end LeaderProduct
