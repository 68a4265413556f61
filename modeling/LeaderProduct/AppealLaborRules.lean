import LeaderProduct.AppealLabor

/-! What every labor entry keeps to, whatever becomes of the rates, the departments and the
assignees around it, and how it is shown. -/
namespace LeaderProduct
open Transition

section Decimal

def TwoDigits (value : Rat) : Prop := ∃ n : Nat, value = n / 100

theorem TwoDigits.nonneg {value : Rat} (two : TwoDigits value) : 0 ≤ value := by
  obtain ⟨n, rfl⟩ := two
  positivity

theorem twoDigits_zero : TwoDigits 0 := ⟨0, by simp⟩

theorem TwoDigits.min {a b : Rat} (first : TwoDigits a) (second : TwoDigits b) :
    TwoDigits (min a b) := by
  rcases min_choice a b with same | same <;> rw [same]
  · exact first
  · exact second

theorem round2_twoDigits {value : Rat} (nonneg : 0 ≤ value) : TwoDigits (round2 value) := by
  rw [round2, if_neg (not_lt.mpr nonneg)]
  have floor : 0 ≤ ⌊value * 100 + 1 / 2⌋ := Int.floor_nonneg.mpr (by positivity)
  obtain ⟨n, hundredths⟩ := Int.eq_ofNat_of_zero_le floor
  exact ⟨n, by rw [hundredths]; simp⟩

theorem TwoDigits.round2 {value : Rat} (two : TwoDigits value) : round2 value = value := by
  rw [LeaderProduct.round2, if_neg (not_lt.mpr two.nonneg)]
  obtain ⟨n, rfl⟩ := two
  have floor : ⌊(n : Rat) / 100 * 100 + 1 / 2⌋ = (n : Int) := by
    rw [div_mul_cancel₀ _ (by norm_num), Int.floor_eq_iff]
    constructor <;> push_cast <;> linarith
  rw [floor]
  simp

theorem normalizeHourValue_twoDigits (value : Rat) : TwoDigits (normalizeHourValue value) := by
  rw [normalizeHourValue]
  by_cases negative : value < 0
  · have floor : 0 ≤ ⌊-value * 100 + 1 / 2⌋ := Int.floor_nonneg.mpr (by linarith)
    have below : round2 value ≤ 0 := by
      rw [round2, if_pos negative]
      have : (0 : Rat) ≤ ⌊-value * 100 + 1 / 2⌋ := by exact_mod_cast floor
      linarith
    rw [max_eq_left below]
    exact twoDigits_zero
  · have two := round2_twoDigits (not_lt.mp negative)
    rw [max_eq_right two.nonneg]
    exact two

theorem TwoDigits.normalize {value : Rat} (two : TwoDigits value) :
    normalizeHourValue value = value := by
  rw [normalizeHourValue, two.round2, max_eq_right two.nonneg]

end Decimal

section Shown

structure LaborEntryDto where
  assigneeUserId : Nat
  accruedHours : Rat
  paidHours : Rat
  remainingHours : Rat
  payable : Bool
  hourlyRateRub : Option Rat
  effectiveHourlyRateRub : Rat
  amountAccruedRub : Rat
  amountPaidRub : Rat
  amountRemainingRub : Rat
  hours : Rat
  paymentStatus : LaborPaymentStatus
  paidAt : Option Int
  paidBy : Option Nat

def mapLaborEntryDto (assigneeUserId : Nat) (entry : LaborEntry) (assigneeHourlyRate : Option Rat)
    (appealLaborNotRequired : Bool) : LaborEntryDto :=
  let accruedHours := normalizeHourValue entry.hours
  let rawPaidHours := normalizeHourValue entry.paidHours
  let effectiveHourlyRateRub :=
    if appealLaborNotRequired then 0 else max 0 (round2 entry.effectiveHourlyRateRub)
  let payable := !appealLaborNotRequired && decide (0 < effectiveHourlyRateRub)
  let paidHours := if payable then min rawPaidHours accruedHours else 0
  let remainingHours := max 0 (round2 (accruedHours - paidHours))
  let paymentStatus := if appealLaborNotRequired then .notRequired
    else deriveLaborPaymentStatus payable accruedHours paidHours
  { assigneeUserId := assigneeUserId
    accruedHours := accruedHours
    paidHours := paidHours
    remainingHours := remainingHours
    payable := payable
    hourlyRateRub := assigneeHourlyRate.map round2
    effectiveHourlyRateRub := effectiveHourlyRateRub
    amountAccruedRub := round2 (accruedHours * effectiveHourlyRateRub)
    amountPaidRub := round2 (paidHours * effectiveHourlyRateRub)
    amountRemainingRub := round2 (remainingHours * effectiveHourlyRateRub)
    hours := accruedHours
    paymentStatus := paymentStatus
    paidAt := if paymentStatus = .paid then entry.paidAt else none
    paidBy := if paymentStatus = .paid then entry.paidById else none }

end Shown

section Amounts

def kopecks (n : Nat) : Nat := (n + 50) / 100

theorem round2_hundredths (n : Nat) : round2 ((n : Rat) / 10000) = (kopecks n : Rat) / 100 := by
  have nonneg : ¬(n : Rat) / 10000 < 0 := not_lt.mpr (by positivity)
  have floor : ⌊(n : Rat) / 10000 * 100 + 1 / 2⌋ = (kopecks n : Int) := by
    rw [show (n : Rat) / 10000 * 100 + 1 / 2 = ((n + 50 : Nat) : Rat) / (100 : Nat) by
      push_cast; ring]
    exact Rat.floor_natCast_div_natCast (n + 50) 100
  rw [round2, if_neg nonneg, floor]
  rfl

/-- What two amounts leave above whole kopecks, in hundredths of a kopeck: less than a half together
where each of them is less, and a half more than a whole one where neither of them is. -/
def FractionsFit (first second : Nat) : Prop :=
  (first % 100 < 50 → second % 100 < 50 → first % 100 + second % 100 < 50) ∧
  (50 ≤ first % 100 → 50 ≤ second % 100 → 150 ≤ first % 100 + second % 100)

theorem kopecks_add_iff (first second : Nat) :
    kopecks (first + second) = kopecks first + kopecks second ↔ FractionsFit first second := by
  unfold kopecks FractionsFit
  omega

theorem round2_product (first second : Nat) :
    round2 ((first : Rat) / 100 * ((second : Rat) / 100)) = (kopecks (first * second) : Rat) / 100 := by
  rw [← round2_hundredths]
  congr 1
  push_cast
  ring

variable {entry : LaborEntry} {rate hours paidHours : Nat}

theorem shown_amounts (rated : entry.effectiveHourlyRateRub = (rate : Rat) / 100)
    (worked : entry.hours = (hours : Rat) / 100) (paid : entry.paidHours = (paidHours : Rat) / 100)
    (paid_le : paidHours ≤ hours) (assigneeUserId : Nat) (assigneeHourlyRate : Option Rat) :
    let dto := mapLaborEntryDto assigneeUserId entry assigneeHourlyRate false
    dto.amountAccruedRub = (kopecks (hours * rate) : Rat) / 100 ∧
      dto.amountPaidRub = (kopecks (paidHours * rate) : Rat) / 100 ∧
      dto.amountRemainingRub = (kopecks ((hours - paidHours) * rate) : Rat) / 100 := by
  have rate_two : TwoDigits entry.effectiveHourlyRateRub := ⟨rate, rated⟩
  have shown_rate : max 0 (round2 entry.effectiveHourlyRateRub) = (rate : Rat) / 100 := by
    rw [rate_two.round2, max_eq_right rate_two.nonneg, rated]
  simp only [mapLaborEntryDto, Bool.false_eq_true, if_false, shown_rate, Bool.not_false,
    Bool.true_and, worked, paid, TwoDigits.normalize ⟨_, rfl⟩]
  rcases Nat.eq_zero_or_pos rate with rfl | positive
  · simp [twoDigits_zero.round2, kopecks]
  · have payable : (0 : Rat) < (rate : Rat) / 100 := by positivity
    have paid_first : min ((paidHours : Rat) / 100) ((hours : Rat) / 100) = (paidHours : Rat) / 100 :=
      min_eq_left (by gcongr)
    have left_two : TwoDigits ((hours : Rat) / 100 - (paidHours : Rat) / 100) :=
      ⟨hours - paidHours, by rw [Nat.cast_sub paid_le]; ring⟩
    have left : max 0 (round2 ((hours : Rat) / 100 - (paidHours : Rat) / 100)) =
        ((hours - paidHours : Nat) : Rat) / 100 := by
      rw [left_two.round2, max_eq_right left_two.nonneg, Nat.cast_sub paid_le]
      ring
    simp only [payable, decide_true, if_true, paid_first, left, round2_product, and_self]

/-- Accrued is paid and remaining together exactly when no labor is required or the fractions of a
kopeck fit. -/
theorem labor_amounts_add_up_iff (rated : entry.effectiveHourlyRateRub = (rate : Rat) / 100)
    (worked : entry.hours = (hours : Rat) / 100) (paid : entry.paidHours = (paidHours : Rat) / 100)
    (paid_le : paidHours ≤ hours) (assigneeUserId : Nat) (assigneeHourlyRate : Option Rat)
    (laborNotRequired : Bool) :
    let dto := mapLaborEntryDto assigneeUserId entry assigneeHourlyRate laborNotRequired
    dto.amountAccruedRub = dto.amountPaidRub + dto.amountRemainingRub ↔
      laborNotRequired = true ∨ FractionsFit (paidHours * rate) ((hours - paidHours) * rate) := by
  cases laborNotRequired with
  | true => simp [mapLaborEntryDto, twoDigits_zero.round2]
  | false =>
    obtain ⟨accrued, paid_amount, remaining⟩ :=
      shown_amounts rated worked paid paid_le assigneeUserId assigneeHourlyRate
    have whole : hours * rate = paidHours * rate + (hours - paidHours) * rate := by
      rw [← Nat.add_mul, Nat.add_sub_cancel' paid_le]
    dsimp only at accrued paid_amount remaining ⊢
    rw [accrued, paid_amount, remaining, whole, ← add_div, div_left_inj' (by norm_num),
      ← Nat.cast_add, Nat.cast_inj, kopecks_add_iff]
    simp

def quarterPaid (hours : Rat) : LaborEntry := ⟨⟨hours, 1 / 4, .paidInPart⟩, 10001 / 100, none, none⟩

theorem amounts_of_hour_add_up :
    let dto := mapLaborEntryDto 3 (quarterPaid 1) none false
    dto.amountAccruedRub = dto.amountPaidRub + dto.amountRemainingRub :=
  (@labor_amounts_add_up_iff (quarterPaid 1) 10001 100 25 (by norm_num [quarterPaid])
    (by norm_num [quarterPaid]) (by norm_num [quarterPaid]) (by decide) 3 none false).mpr
    (.inr (by unfold FractionsFit; decide))

/-- Half an hour comes to 50.01, and each quarter of an hour to 25.00. -/
theorem amounts_of_half_hour_differ :
    ¬∀ (entry : LaborEntry) (rate hours paidHours : Nat),
      entry.effectiveHourlyRateRub = (rate : Rat) / 100 → entry.hours = (hours : Rat) / 100 →
      entry.paidHours = (paidHours : Rat) / 100 → paidHours ≤ hours →
      ∀ (assigneeUserId : Nat) (assigneeHourlyRate : Option Rat) (laborNotRequired : Bool),
        let dto := mapLaborEntryDto assigneeUserId entry assigneeHourlyRate laborNotRequired
        dto.amountAccruedRub = dto.amountPaidRub + dto.amountRemainingRub := by
  intro law
  have equal := law (quarterPaid (1 / 2)) 10001 50 25 (by norm_num [quarterPaid])
    (by norm_num [quarterPaid]) (by norm_num [quarterPaid]) (by decide) 3 none false
  exact absurd equal (by decide +kernel)

end Amounts

section Entries

def statusByHours (hours paidHours : Rat) : LaborPaymentStatus :=
  if paidHours = 0 then .unpaid else if paidHours < hours then .paidInPart else .paid

structure LaborEntry.Follows (laborNotRequired : Bool) (assigneeUserId : Nat) (entry : LaborEntry) :
    Prop where
  hours : 0 ≤ entry.paidHours ∧ entry.paidHours ≤ entry.hours
  not_required : entry.paymentStatus = .notRequired ↔ entry.effectiveHourlyRateRub = 0
  status : entry.effectiveHourlyRateRub ≠ 0 →
    entry.paymentStatus = statusByHours entry.hours entry.paidHours
  paid_at : entry.paidAt.isSome = true ↔ entry.paymentStatus = .paid
  cleared : laborNotRequired = true → entry.paymentStatus = .notRequired ∧ entry.hours = 0
  shown : ∀ assigneeHourlyRate, (mapLaborEntryDto assigneeUserId entry assigneeHourlyRate
    laborNotRequired).paymentStatus = entry.paymentStatus

structure LaborEntry.Sound (entry : LaborEntry) : Prop where
  rate : TwoDigits entry.effectiveHourlyRateRub
  hours : TwoDigits entry.hours
  paidHours : TwoDigits entry.paidHours
  paid_le : entry.paidHours ≤ entry.hours
  status : entry.paymentStatus = if entry.effectiveHourlyRateRub = 0 then .notRequired
    else statusByHours entry.hours entry.paidHours
  paid_at : entry.paidAt.isSome = true ↔ entry.paymentStatus = .paid
  worked : entry.effectiveHourlyRateRub ≠ 0 → 0 < entry.hours

theorem statusByHours_ne (hours paidHours : Rat) : statusByHours hours paidHours ≠ .notRequired := by
  unfold statusByHours
  split
  · simp
  · split <;> simp

theorem deriveLaborPaymentStatus_eq {hours paidHours : Rat} (two : TwoDigits hours)
    (paid_two : TwoDigits paidHours) (worked : 0 < hours) (payable : Bool) :
    deriveLaborPaymentStatus payable hours paidHours =
      if payable then statusByHours hours paidHours else .notRequired := by
  rw [deriveLaborPaymentStatus, two.normalize, paid_two.normalize]
  cases payable with
  | false => rfl
  | true =>
    have none_paid : paidHours ≤ 0 ↔ paidHours = 0 :=
      ⟨fun below => le_antisymm below paid_two.nonneg, fun same => le_of_eq same⟩
    simp [statusByHours, not_le.mpr worked, none_paid]

theorem LaborEntry.Sound.follows {entry : LaborEntry} (sound : entry.Sound) {laborNotRequired : Bool}
    (cleared : laborNotRequired = true → entry.paymentStatus = .notRequired ∧ entry.hours = 0)
    (assigneeUserId : Nat) : entry.Follows laborNotRequired assigneeUserId := by
  have not_required : entry.paymentStatus = .notRequired ↔ entry.effectiveHourlyRateRub = 0 := by
    rw [sound.status]
    split
    · next zero => simp [zero]
    · next rated => simp [statusByHours_ne, rated]
  refine ⟨⟨sound.paidHours.nonneg, sound.paid_le⟩, not_required, ?_, sound.paid_at, cleared, ?_⟩
  · intro rated
    rw [sound.status, if_neg rated]
  · intro assigneeHourlyRate
    cases laborNotRequired with
    | true => exact (cleared rfl).1.symm
    | false =>
      have rate : max 0 (round2 entry.effectiveHourlyRateRub) = entry.effectiveHourlyRateRub := by
        rw [sound.rate.round2, max_eq_right sound.rate.nonneg]
      simp only [mapLaborEntryDto, sound.hours.normalize, sound.paidHours.normalize, rate,
        Bool.not_false, Bool.true_and, Bool.false_eq_true, if_false, min_eq_left sound.paid_le]
      by_cases rated : entry.effectiveHourlyRateRub = 0
      · simp [rated, deriveLaborPaymentStatus, not_required.mpr rated]
      · have positive : 0 < entry.effectiveHourlyRateRub :=
          lt_of_le_of_ne sound.rate.nonneg (Ne.symm rated)
        rw [decide_eq_true positive, if_pos rfl,
          deriveLaborPaymentStatus_eq sound.hours sound.paidHours (sound.worked rated), if_pos rfl,
          sound.status, if_neg rated]

end Entries

section Items
variable {settings : LaborSettings} {item : LaborItem} {prev : Option LaborEntry}

theorem resolveEffectiveHourlyRate_twoDigits (payment : DepartmentPayment) (rate : Option Rat) :
    TwoDigits (resolveEffectiveHourlyRate payment rate) := by
  simp only [resolveEffectiveHourlyRate]
  split
  · split
    · exact twoDigits_zero
    · next positive => exact round2_twoDigits (le_of_lt (not_le.mp positive))
  · exact twoDigits_zero

theorem lockedRate_twoDigits (known : ∀ entry ∈ prev, TwoDigits entry.effectiveHourlyRateRub) :
    TwoDigits (item.lockedRate settings prev) := by
  simp only [LaborItem.lockedRate]
  cases prev with
  | none => exact resolveEffectiveHourlyRate_twoDigits _ _
  | some entry =>
    simp only
    split
    · exact resolveEffectiveHourlyRate_twoDigits _ _
    · exact round2_twoDigits (known entry rfl).nonneg

theorem resolveLegacyPaidHours_twoDigits (accruedHours : Rat) (status : Option LaborPaymentStatus)
    (previousPaidHours : Rat) : TwoDigits (resolveLegacyPaidHours accruedHours status
      previousPaidHours) := by
  have accrued := normalizeHourValue_twoDigits accruedHours
  have previous := normalizeHourValue_twoDigits previousPaidHours
  unfold resolveLegacyPaidHours
  split
  · exact accrued
  · exact twoDigits_zero
  · exact twoDigits_zero
  · exact previous.min accrued
  · exact previous.min accrued

theorem requestedPaidHours_twoDigits (accruedHours previousPaidHours : Rat) :
    TwoDigits (item.requestedPaidHours accruedHours previousPaidHours) := by
  unfold LaborItem.requestedPaidHours
  split
  · exact normalizeHourValue_twoDigits _
  · exact resolveLegacyPaidHours_twoDigits _ _ _

theorem LaborItem.entry_sound {figures : LaborFigures}
    (known : ∀ entry ∈ prev, TwoDigits entry.effectiveHourlyRateRub)
    (found : item.figures settings prev = .ok (some figures)) :
    (item.entry settings prev figures).Sound := by
  have rate : TwoDigits (item.lockedRate settings prev) := lockedRate_twoDigits known
  simp only [LaborItem.figures] at found
  have accrued := normalizeHourValue_twoDigits ((item.accruedHours.or item.hours).getD 0)
  generalize normalizeHourValue ((item.accruedHours.or item.hours).getD 0) = hours at found accrued
  have asked : TwoDigits (item.requestedPaidHours hours _) := requestedPaidHours_twoDigits hours
    (normalizeHourValue (prev.elim 0 (·.paidHours)))
  generalize item.requestedPaidHours hours (normalizeHourValue (prev.elim 0 (·.paidHours))) =
    requested at found asked
  by_cases exceeds : hours < requested
  · rw [if_pos exceeds] at found
    cases found
  · rw [if_neg exceeds] at found
    have paid_two : TwoDigits (if decide (0 < item.lockedRate settings prev) = true then requested
        else 0) := by
      split
      · exact asked
      · exact twoDigits_zero
    have paid_le : (if decide (0 < item.lockedRate settings prev) = true then requested else 0) ≤
        hours := by
      split
      · exact not_lt.mp exceeds
      · exact accrued.nonneg
    generalize (if decide (0 < item.lockedRate settings prev) = true then requested else 0) = paid
      at found paid_two paid_le
    by_cases idle : hours ≤ 0 ∧ paid ≤ 0
    · rw [if_pos idle] at found
      cases found
    · rw [if_neg idle] at found
      cases found
      have worked : 0 < hours := by
        by_contra none_worked
        have zero := not_lt.mp none_worked
        exact idle ⟨zero, le_trans paid_le zero⟩
      have status := deriveLaborPaymentStatus_eq accrued paid_two worked
        (decide (0 < item.lockedRate settings prev))
      refine ⟨rate, accrued, paid_two, paid_le, ?_, ?_, fun _ => worked⟩
      · simp only [LaborItem.entry, status]
        by_cases rated : item.lockedRate settings prev = 0
        · simp [rated]
        · have positive := lt_of_le_of_ne rate.nonneg (Ne.symm rated)
          simp [rated, positive]
      · simp only [LaborItem.entry]
        split
        · next paid => simp [paid]
        · next unpaid => simp [unpaid]

end Items

section Books
variable {settings : LaborSettings} {book book' : LaborBook} {a : Nat}

def LaborBook.Sound (book : LaborBook) : Prop :=
  ∀ a entry, book.entries.lookup a = some entry → entry.Sound

theorem LaborBook.Sound.put (sound : book.Sound) {entry : LaborEntry} (fits : entry.Sound) :
    (book.put a entry).Sound := by
  intro b other found
  rw [LaborBook.put] at found
  by_cases same : b = a
  · subst same
    rw [AList.lookup_insert] at found
    rw [← Option.some.inj found]
    exact fits
  · rw [AList.lookup_insert_ne same] at found
    exact sound b other found

theorem LaborBook.Sound.delete (sound : book.Sound) (done : book.delete a = .ok book') :
    book'.Sound := by
  unfold LaborBook.delete at done
  split at done
  · obtain rfl := Except.ok.inj done
    intro b entry found
    by_cases same : b = a
    · subst same
      rw [AList.lookup_erase] at found
      cases found
    · rw [AList.lookup_erase_ne same] at found
      exact sound b entry found
  · cases done

theorem LaborBook.Sound.audit (sound : book.Sound) (changedById : Nat) (prev : Option LaborEntry)
    (new : LaborFigures) : (book.audit a changedById prev new).Sound := by
  rw [LaborBook.Sound, audit_entries]
  exact sound

theorem applyLaborItem_sound {prev : Nat → Option LaborEntry}
    (known : ∀ a entry, prev a = some entry → entry.Sound) (sound : book.Sound) {item : LaborItem}
    (done : applyLaborItem settings prev book item = .ok book') : book'.Sound := by
  obtain ⟨figures, written, found, wrote, rfl⟩ := applyLaborItem_ok done
  refine LaborBook.Sound.audit ?_ _ _ _
  cases figures with
  | none =>
    simp only [LaborItem.write] at wrote
    split at wrote
    · exact sound.delete wrote
    · obtain rfl := Except.ok.inj wrote
      exact sound
  | some figures =>
    obtain rfl := Except.ok.inj wrote
    exact sound.put (LaborItem.entry_sound (fun entry here => (known _ entry here).rate) found)

theorem applyLaborItems_sound {prev : Nat → Option LaborEntry}
    (known : ∀ a entry, prev a = some entry → entry.Sound) (sound : book.Sound)
    {items : List LaborItem} (done : applyLaborItems settings prev book items = .ok book') :
    book'.Sound := by
  induction items generalizing book with
  | nil =>
    obtain rfl := Except.ok.inj done
    exact sound
  | cons item rest ih =>
    obtain ⟨next, first, later⟩ := (except_bind_ok _ _ _).mp done
    exact ih (applyLaborItem_sound known sound first) later

theorem removeUnnamed_sound {items : List LaborItem} {rows : List (Sigma fun _ : Nat => LaborEntry)}
    (sound : book.Sound) (done : removeUnnamed settings items book rows = .ok book') :
    book'.Sound := by
  induction rows generalizing book with
  | nil =>
    obtain rfl := Except.ok.inj done
    exact sound
  | cons row rest ih =>
    rw [removeUnnamed] at done
    split at done
    · exact ih sound done
    · obtain ⟨deleted, gone, later⟩ := (except_bind_ok _ _ _).mp done
      exact ih ((sound.delete gone).audit _ _ _) later

theorem notRequiredEntry_sound : notRequiredEntry.Sound := by
  refine ⟨twoDigits_zero, twoDigits_zero, twoDigits_zero, le_refl _, rfl, ?_, fun rated => ?_⟩
  · simp [notRequiredEntry]
  · exact absurd rfl rated

theorem lookup_clearLabor {prev : Nat → Option LaborEntry} (targets : List Nat) :
    (clearLabor settings prev book targets).entries.lookup a =
      if a ∈ targets then some notRequiredEntry else book.entries.lookup a := by
  induction targets generalizing book with
  | nil => rfl
  | cons b rest ih =>
    rw [clearLabor, ih, audit_entries, LaborBook.put]
    by_cases later : a ∈ rest
    · simp [later]
    · by_cases same : a = b
      · subst same
        simp [later]
      · simp [later, same, AList.lookup_insert_ne same]

def LaborBook.Fits (laborNotRequired : Bool) (book : LaborBook) : Prop :=
  ∀ a entry, book.entries.lookup a = some entry → entry.Sound ∧
    (laborNotRequired = true → entry.paymentStatus = .notRequired ∧ entry.hours = 0)

theorem upsert_fits (sound : book.Sound) {assignees : List Nat} {body : LaborBody}
    (done : book.upsert settings assignees body = .ok book') : book'.Fits body.laborNotRequired := by
  unfold LaborBook.upsert at done
  by_cases cleared : body.laborNotRequired = true
  · simp only [cleared, if_true] at done
    obtain rfl := Except.ok.inj done
    intro a entry found
    rw [lookup_clearLabor] at found
    split at found
    · obtain rfl := Option.some.inj found
      exact ⟨notRequiredEntry_sound, fun _ => ⟨rfl, rfl⟩⟩
    · next untouched =>
      have here : a ∈ book.entries.keys := AList.lookup_isSome.mp (by rw [found]; rfl)
      exact absurd (List.mem_eraseDups.mpr (List.mem_append_right _ here)) untouched
  · simp only [cleared, Bool.false_eq_true, if_false] at done
    obtain ⟨worked, items_done, removed⟩ := (except_bind_ok _ _ _).mp done
    have all_sound := removeUnnamed_sound (applyLaborItems_sound sound sound items_done) removed
    exact fun a entry found => ⟨all_sound a entry found, fun marked => absurd marked cleared⟩

end Books

section Runs
variable {desk : LaborDesk}

def AllFit (desk : LaborDesk) : Prop :=
  ∀ appealId, (desk.books appealId).Fits (desk.laborNotRequired appealId)

/-- Every labor entry follows the rule for its appeal. -/
def AllFollow (desk : LaborDesk) : Prop :=
  ∀ appealId a entry, (desk.books appealId).entries.lookup a = some entry →
    entry.Follows (desk.laborNotRequired appealId) a

theorem AllFit.follow (fit : AllFit desk) : AllFollow desk := by
  intro appealId a entry found
  obtain ⟨sound, cleared⟩ := fit appealId a entry found
  exact sound.follows cleared a

theorem putLabor_fit (fit : AllFit desk) {call : LaborCall} {after : LaborDesk}
    (done : desk.putLabor call = .ok after) : AllFit after := by
  obtain ⟨appeal, _, rest⟩ := (except_bind_ok _ _ _).mp done
  obtain ⟨book, upserted, rest⟩ := (except_bind_ok _ _ _).mp rest
  obtain rfl := Except.ok.inj rest
  intro appealId
  by_cases same : appealId = call.appealId
  · subst same
    simp only [Function.update_self]
    exact upsert_fits (fun a entry found => (fit _ a entry found).1) upserted
  · simp only [Function.update_of_ne same]
    exact fit appealId

theorem LaborEntry.Sound.paid {entry : LaborEntry} (sound : entry.Sound)
    (due : entry.paymentStatus ≠ .notRequired) (now : Int) (userId : Nat) :
    (entry.markedPaid userId now).Sound := by
  have rated : entry.effectiveHourlyRateRub ≠ 0 := by
    intro zero
    exact due (by rw [sound.status, if_pos zero])
  have worked : entry.hours ≠ 0 := ne_of_gt (sound.worked rated)
  refine ⟨sound.rate, sound.hours, sound.hours, le_refl _, ?_, ?_, sound.worked⟩
  · simp [LaborEntry.markedPaid, statusByHours, rated, worked]
  · simp [LaborEntry.markedPaid]

theorem markPaid_fit (fit : AllFit desk) (userId : Nat) (actor : UserMini) (now : Int)
    (appealId assigneeUserId : Nat) :
    AllFit (desk.markPaid userId actor now appealId assigneeUserId) := by
  unfold LaborDesk.markPaid
  split
  · next entry appeal found _ =>
    split
    · next due =>
      simp only [Bool.and_eq_true, bne_iff_ne] at due
      obtain ⟨sound, cleared⟩ := fit appealId assigneeUserId entry found
      intro other a changed here
      by_cases same : other = appealId
      · subst same
        simp only [Function.update_self, LaborBook.put] at here
        by_cases own : a = assigneeUserId
        · subst own
          rw [AList.lookup_insert] at here
          rw [← Option.some.inj here]
          exact ⟨sound.paid due.1.2 now userId, fun marked => absurd (cleared marked).1 due.1.2⟩
        · rw [AList.lookup_insert_ne own] at here
          exact fit other a changed here
      · simp only [Function.update_of_ne same] at here
        exact fit other a changed here
    · exact fit
  · exact fit

theorem markPaidAll_fit (fit : AllFit desk) (userId : Nat) (items : List (Nat × Nat)) (now : Int) :
    AllFit (desk.markPaidAll userId items now) := by
  unfold LaborDesk.markPaidAll
  split
  · exact fit
  · next actor known =>
    clear known
    induction items generalizing desk with
    | nil => exact fit
    | cons item rest ih => exact ih (markPaid_fit fit userId actor now item.1 item.2)

theorem laborStep_fit (fit : AllFit desk) (a : LaborAction) : AllFit (laborStep desk a) := by
  cases a with
  | labor call =>
    rw [laborStep]
    cases done : desk.putLabor call with
    | error refusal => exact fit
    | ok after => exact putLabor_fit fit done
  | markPaid userId items now => exact markPaidAll_fit fit userId items now
  | hourlyRate userId targetId hourlyRateRub =>
    simp only [laborStep, LaborDesk.setHourlyRate]
    split
    · split
      · exact fit
      · exact fit
    · exact fit
  | appeal call => exact fit
  | payment departmentId payment => exact fit

/-- Along every run every labor entry follows the rule. -/
theorem labor_entries_follow (desk : LaborDesk) (start : AllFit desk) (actions : List LaborAction) :
    Always laborStep AllFollow desk actions :=
  always_of_invariant (J := AllFit) (fun _ a fit => laborStep_fit fit a) (fun _ fit => fit.follow)
    start actions

theorem labor_entries_follow_sample : Always laborStep AllFollow laborDesk
    [.labor ⟨1, 2, ⟨false, [⟨3, some 2, some 1, none, none⟩], by decide +kernel⟩, 7⟩,
      .markPaid 2 [(1, 3)] 8, .hourlyRate 2 3 20, .appeal ⟨1, 2, .assign []⟩] := by
  refine labor_entries_follow laborDesk (fun appealId a entry found => ?_) _
  cases found

end Runs

end LeaderProduct
