import LeaderProduct.PreparedItems

/-! What the general discount of an order is worth. -/
namespace LeaderProduct

section Lines
variable (general : Option Rat)

def OrderLine.percentOfBase (line : OrderLine) : Rat :=
  line.basePrice * line.quantityBase * (general.getD 0 / 100)

def cancelledEligible (lines : List OrderLine) : List OrderLine :=
  lines.filter (fun line => line.isCancelled && line.canApplyGeneralDiscount)

theorem own_of_eligible {line : OrderLine} (eligible : line.canApplyGeneralDiscount = true) :
    line.manualPrice = none ∧ line.discountPercent = none := by
  simpa [OrderLine.canApplyGeneralDiscount] using eligible

theorem generalDiscount_eq (line : OrderLine) :
    line.generalDiscount general = line.lineAmount none - line.lineAmount general := by
  unfold OrderLine.generalDiscount OrderLine.lineAmount OrderLine.finalPrice
    OrderLine.appliedDiscountPercent
  by_cases eligible : line.canApplyGeneralDiscount = true
  · obtain ⟨own_price, own_percent⟩ := own_of_eligible eligible
    rw [own_price, own_percent]
    cases general with
    | none => simp
    | some percent =>
      simp only [eligible, Option.isSome_some, Bool.and_self, if_true, Option.none_or,
        Option.getD_none, discounted]
      ring
  · simp [eligible]

theorem generalDiscount_eligible (line : OrderLine) : line.generalDiscount general =
    if line.canApplyGeneralDiscount then line.percentOfBase general else 0 := by
  unfold OrderLine.generalDiscount OrderLine.finalPrice OrderLine.appliedDiscountPercent
    OrderLine.percentOfBase
  by_cases eligible : line.canApplyGeneralDiscount = true
  · obtain ⟨own_price, own_percent⟩ := own_of_eligible eligible
    rw [own_price, own_percent]
    cases general with
    | none => simp
    | some percent =>
      simp only [eligible, Option.isSome_some, Bool.and_self, if_true, Option.none_or,
        Option.getD_none, Option.getD_some, discounted]
      ring
  · simp [eligible]

theorem discounts_eq (lines : List OrderLine) :
    (lines.map (·.generalDiscount general)).sum =
      (openAmounts none lines).sum - (openAmounts general lines).sum +
        ((cancelledEligible lines).map (·.percentOfBase general)).sum := by
  induction lines with
  | nil => simp [openAmounts, cancelledEligible]
  | cons line rest ih =>
    have eligible := generalDiscount_eligible general line
    rw [List.map_cons, List.sum_cons, ih]
    by_cases cancelled : line.isCancelled = true
    · by_cases applies : line.canApplyGeneralDiscount = true
      · rw [eligible]
        simp [openAmounts, cancelledEligible, cancelled, applies]
        ring
      · rw [eligible]
        simp [openAmounts, cancelledEligible, cancelled, applies]
    · rw [generalDiscount_eq]
      simp [openAmounts, cancelledEligible, cancelled]
      ring

end Lines

section Bodies
variable (catalog : OrderCatalog) (contextPriceType : Option MarketReference) (date : Instant)

/-- The same body without a general percent is accepted too, and the general discount is what the
total loses exactly when the cancelled lines that it applies to are worth nothing together. -/
theorem general_discount_iff (newLineGuid : Nat → String) (body : ClientOrderCreateBody)
    (prepared : PreparedOrderPayload)
    (accepted : prepareOrderItems newLineGuid catalog contextPriceType date body = .ok prepared) :
    (∃ plain, prepareOrderItems newLineGuid catalog contextPriceType date
      { body with generalDiscountPercent := none } = .ok plain) ∧
    ∀ newLineGuid' plain, prepareOrderItems newLineGuid' catalog contextPriceType date
        { body with generalDiscountPercent := none } = .ok plain →
      (prepared.generalDiscountAmount = plain.totalAmount - prepared.totalAmount ↔
        ((cancelledEligible (orderLines catalog contextPriceType date body.items)).map
          (·.percentOfBase body.generalDiscountPercent)).sum = 0) := by
  constructor
  · rw [prepareOrderItems, except_bind_ok] at accepted
    obtain ⟨state, looped, _⟩ := accepted
    obtain ⟨twin, other⟩ := prepareLoop_any_general none ⟨[], 0, 0, []⟩ ⟨rfl, rfl⟩ looped
    exact ⟨_, (except_bind_ok _ _ _).mpr ⟨twin, other, rfl⟩⟩
  · intro newLineGuid' plain without
    obtain ⟨total, discount, _⟩ := prepareOrderItems_ok accepted
    obtain ⟨plain_total, _, _⟩ := prepareOrderItems_ok without
    rw [total, discount, plain_total, discounts_eq, add_eq_left]

def appleCatalog : OrderCatalog where
  products := [⟨"p", "apple", "Яблоки", none, true, false, none⟩]
  packages := []
  priceTypes := []
  productPrices := []

def apples (isCancelled : Bool) (manualPrice : Option Rat) : ManagerOrderItem where
  lineGuid := some "line"
  productGuid := "apple"
  packageGuid := none
  priceTypeGuid := none
  quantity := 1
  basePrice := some 100
  manualPrice := manualPrice
  discountPercent := none
  comment := none
  isCancelled := some isCancelled
  cancelReasonGuid := none
  cancelReasonName := none
  cancelReason := none
  cancelledAmount := none

def applesBody (generalDiscountPercent : Option Rat) (items : List ManagerOrderItem) :
    ClientOrderCreateBody where
  organizationGuid := "organization"
  counterpartyGuid := "counterparty"
  agreementGuid := none
  contractGuid := none
  warehouseGuid := none
  deliveryAddressGuid := none
  priceTypeGuid := none
  deliveryDate := none
  paymentForm := none
  deliveryMethod := none
  invoiceRequested := false
  comment := none
  currency := none
  generalDiscountPercent := generalDiscountPercent
  items := items

theorem manual_apples_without_discount : ∃ prepared plain,
    prepareOrderItems (fun _ => "") appleCatalog none 0 (applesBody (some 10) [apples false (some 5)]) =
      .ok prepared ∧
    prepareOrderItems (fun _ => "") appleCatalog none 0 (applesBody none [apples false (some 5)]) =
      .ok plain ∧ prepared.generalDiscountAmount = plain.totalAmount - prepared.totalAmount := by
  refine ⟨_, _, rfl, rfl, ?_⟩
  exact ((general_discount_iff appleCatalog none 0 (fun _ => "")
    (applesBody (some 10) [apples false (some 5)]) _ rfl).2 (fun _ => "") _ rfl).mpr
      (by decide +kernel)

/-- Ten per cent of the cancelled apples. -/
theorem cancelled_apples_discounted : ¬ ∀ (catalog : OrderCatalog)
    (contextPriceType : Option MarketReference) (date : Instant) (newLineGuid : Nat → String)
    (body : ClientOrderCreateBody) (prepared plain : PreparedOrderPayload),
    prepareOrderItems newLineGuid catalog contextPriceType date body = .ok prepared →
    prepareOrderItems newLineGuid catalog contextPriceType date
      { body with generalDiscountPercent := none } = .ok plain →
    prepared.generalDiscountAmount = plain.totalAmount - prepared.totalAmount := by
  intro always
  have equal := always appleCatalog none 0 (fun _ => "") (applesBody (some 10) [apples true none])
    _ _ rfl rfl
  exact absurd equal (by decide +kernel)

end Bodies

end LeaderProduct
