import LeaderProduct.MarketplaceOrder
import LeaderProduct.TopRanked

/-! The price of a product in a context: the most specific special price that applies and, of
those, the latest. -/
namespace LeaderProduct
open RowTable TopRanked

section Scope
variable (db : Marketplace)

structure PriceScope where
  product : MarketProduct
  agreementId : Option Id
  counterpartyId : Option Id
  priceTypeId : Option Id
  date : Instant

/-- The checks of `resolveEffectivePrice` before it reads any price. -/
def priceScope (query : ResolvePriceQuery) : Except MarketplaceError PriceScope := do
  let product ← activeProduct db query.productGuid
  let counterparty ← namedActive MarketReference.isActive
    (lookup MarketReference.guid db.counterparties)
    (fun guid => "Контрагент " ++ guid ++ " не найден")
    (fun guid => "Контрагент " ++ guid ++ " неактивен") query.counterpartyGuid
  let agreement ← namedActive AgreementRef.isActive (lookup AgreementRef.guid db.agreements)
    (fun guid => "Соглашение " ++ guid ++ " не найдено")
    (fun guid => "Соглашение " ++ guid ++ " неактивно") query.agreementGuid
  let priceType ← namedActive MarketReference.isActive (lookup MarketReference.guid db.priceTypes)
    (fun guid => "Тип цен " ++ guid ++ " не найден")
    (fun guid => "Тип цен " ++ guid ++ " неактивен") query.priceTypeGuid
  if mismatches (agreement.bind (·.counterpartyId)) (counterparty.map (·.id)) then
    throw ⟨400, .validationError, "agreementGuid не принадлежит указанному counterpartyGuid"⟩
  if mismatches (agreement.bind (·.priceTypeId)) (priceType.map (·.id)) then
    throw ⟨400, .validationError, "agreementGuid не принадлежит указанному priceTypeGuid"⟩
  return ⟨product, agreement.map (·.id),
    (counterparty.map (·.id)).or (agreement.bind (·.counterpartyId)),
    (priceType.map (·.id)).or (agreement.bind (·.priceTypeId)), query.date⟩

def bestInScope (scope : PriceScope) : Except MarketplaceError ResolvedPrice :=
  bestPrice db scope.product scope.agreementId scope.counterpartyId scope.priceTypeId scope.date

theorem resolveEffectivePrice_eq (query : ResolvePriceQuery) :
    resolveEffectivePrice db query = (priceScope db query).bind (bestInScope db) := by
  unfold resolveEffectivePrice priceScope
  cases activeProduct db query.productGuid with
  | error e => rfl
  | ok product =>
    dsimp only [bind, Except.bind]
    cases namedActive MarketReference.isActive (lookup MarketReference.guid db.counterparties)
      (fun guid => "Контрагент " ++ guid ++ " не найден")
      (fun guid => "Контрагент " ++ guid ++ " неактивен") query.counterpartyGuid with
    | error e => rfl
    | ok counterparty =>
      dsimp only
      cases namedActive AgreementRef.isActive (lookup AgreementRef.guid db.agreements)
        (fun guid => "Соглашение " ++ guid ++ " не найдено")
        (fun guid => "Соглашение " ++ guid ++ " неактивно") query.agreementGuid with
      | error e => rfl
      | ok agreement =>
        dsimp only
        cases namedActive MarketReference.isActive (lookup MarketReference.guid db.priceTypes)
          (fun guid => "Тип цен " ++ guid ++ " не найден")
          (fun guid => "Тип цен " ++ guid ++ " неактивен") query.priceTypeGuid with
        | error e => rfl
        | ok priceType =>
          dsimp only
          split
          · rfl
          · split <;> rfl

def Marketplace.withPrices (special : List SpecialPrice) (plain : List ProductPrice) :
    Marketplace := { db with specialPrices := special, productPrices := plain }

@[simp] theorem withPrices_specialPrices (special : List SpecialPrice) (plain : List ProductPrice) :
    (db.withPrices special plain).specialPrices = special := rfl

@[simp] theorem withPrices_productPrices (special : List SpecialPrice) (plain : List ProductPrice) :
    (db.withPrices special plain).productPrices = plain := rfl

@[simp] theorem withPrices_self : db.withPrices db.specialPrices db.productPrices = db := rfl

theorem priceScope_withPrices (special : List SpecialPrice) (plain : List ProductPrice)
    (query : ResolvePriceQuery) :
    priceScope (db.withPrices special plain) query = priceScope db query := rfl

end Scope

section Ranking
variable {C : Type} {level : C → Nat} {startDate : C → Option Instant}

theorem startsNoLater_total (a b : Option Instant) :
    startsNoLater a b = true ∨ startsNoLater b a = true := by
  cases a with
  | none => exact .inl rfl
  | some a =>
    cases b with
    | none => exact .inr rfl
    | some b => simpa [startsNoLater] using Nat.le_total a b

theorem startsNoLater_trans {a b c : Option Instant} (first : startsNoLater a b = true)
    (second : startsNoLater b c = true) : startsNoLater a c = true := by
  cases a with
  | none => rfl
  | some a =>
    cases b with
    | none => cases first
    | some b =>
      cases c with
      | none => cases second
      | some c =>
        simp only [startsNoLater, decide_eq_true_eq] at first second ⊢
        exact Nat.le_trans first second

theorem ranksBefore_iff {a b : C} : ranksBefore level startDate a b = true ↔
    level b < level a ∨ level b = level a ∧ startsNoLater (startDate b) (startDate a) = true := by
  unfold ranksBefore
  by_cases same : level a = level b
  · simp [same]
  · simp [same, Ne.symm same]

instance ranksBefore_total : Std.Total fun a b : C => ranksBefore level startDate a b = true where
  total a b := by
    rw [ranksBefore_iff, ranksBefore_iff]
    rcases Nat.lt_trichotomy (level a) (level b) with below | same | above
    · exact .inr (.inl below)
    · rcases startsNoLater_total (startDate b) (startDate a) with first | second
      · exact .inl (.inr ⟨same.symm, first⟩)
      · exact .inr (.inr ⟨same, second⟩)
    · exact .inl (.inl above)

instance ranksBefore_trans : IsTrans C fun a b => ranksBefore level startDate a b = true where
  trans a b c first second := by
    rw [ranksBefore_iff] at first second ⊢
    rcases first with above | ⟨same, later⟩ <;> rcases second with above' | ⟨same', later'⟩
    · exact .inl (by omega)
    · exact .inl (by omega)
    · exact .inl (by omega)
    · exact .inr ⟨same'.trans same, startsNoLater_trans later' later⟩

end Ranking

section Applicable
variable (scope : PriceScope)

/-- A scope that a price names is that of the context. -/
def ScopeFits (context named : Option Id) : Prop := isSet named = true → named = context

structure Applies (price : SpecialPrice) : Prop where
  product : price.productId = scope.product.id
  active : price.isActive = true
  date : isWithinRange scope.date price.startDate price.endDate = true
  agreement : ScopeFits scope.agreementId price.agreementId
  counterparty : ScopeFits scope.counterpartyId price.counterpartyId
  priceType : ScopeFits scope.priceTypeId price.priceTypeId

/-- An agreement before a counterparty, a counterparty before a type of prices. -/
def SpecialPrice.specificity (price : SpecialPrice) : Nat :=
  if isSet price.agreementId then 4
  else if isSet price.counterpartyId then 3
  else if isSet price.priceTypeId then 2
  else 1

/-- No price that applies is more specific, and none that is as specific starts later. -/
structure MostSpecific (prices : List SpecialPrice) (best : SpecialPrice) : Prop where
  listed : best ∈ prices
  applies : Applies scope best
  first : ∀ other ∈ prices, Applies scope other →
    other.specificity < best.specificity ∨
      other.specificity = best.specificity ∧
        startsNoLater other.startDate best.startDate = true

structure AppliesPlain (price : ProductPrice) : Prop where
  product : price.productId = scope.product.id
  active : price.isActive = true
  date : isWithinRange scope.date price.startDate price.endDate = true
  priceType : price.priceTypeId = none ∨
    isSet scope.priceTypeId = true ∧ price.priceTypeId = scope.priceTypeId

structure FirstPlain (prices : List ProductPrice) (best : ProductPrice) : Prop where
  listed : best ∈ prices
  applies : AppliesPlain scope best
  first : ∀ other ∈ prices, AppliesPlain scope other →
    productPriceLevel scope.priceTypeId other < productPriceLevel scope.priceTypeId best ∨
      productPriceLevel scope.priceTypeId other = productPriceLevel scope.priceTypeId best ∧
        startsNoLater other.startDate best.startDate = true

end Applicable

variable {prices : List SpecialPrice} {best : SpecialPrice}

section Candidates
variable (scope : PriceScope)

def specialCandidates (prices : List SpecialPrice) : List SpecialPrice :=
  prices.filter (fun candidate =>
    candidate.productId == scope.product.id && candidate.isActive &&
    isWithinRange scope.date candidate.startDate candidate.endDate &&
    fitsExactly scope.agreementId candidate.agreementId &&
    fitsOrOpen scope.counterpartyId candidate.counterpartyId &&
    fitsOrOpen scope.priceTypeId candidate.priceTypeId)

def plainCandidates (prices : List ProductPrice) : List ProductPrice :=
  prices.filter (fun candidate =>
    candidate.productId == scope.product.id && candidate.isActive &&
    (candidate.priceTypeId == none ||
      isSet scope.priceTypeId && candidate.priceTypeId == scope.priceTypeId) &&
    isWithinRange scope.date candidate.startDate candidate.endDate)

def matchLevel : SpecialPrice → Nat :=
  computeMatchLevel scope.agreementId scope.counterpartyId scope.priceTypeId

def specialHead (prices : List SpecialPrice) : Option SpecialPrice :=
  (ranked (matchLevel scope) (·.startDate) (specialCandidates scope prices)).head?

def plainHead (prices : List ProductPrice) : Option ProductPrice :=
  (ranked (productPriceLevel scope.priceTypeId) (·.startDate) (plainCandidates scope prices)).head?

theorem bestInScope_eq (db : Marketplace) : bestInScope db scope =
    match specialHead scope db.specialPrices with
    | some best => .ok ⟨"SPECIAL_PRICE", matchLevel scope best, best.minQty, best.price⟩
    | none =>
      match plainHead scope db.productPrices with
      | some best =>
        .ok ⟨"PRODUCT_PRICE", productPriceLevel scope.priceTypeId best, best.minQty, best.price⟩
      | none => .error ⟨404, .notFound, "Подходящая цена не найдена"⟩ := rfl

theorem bestInScope_price (db : Marketplace) : (bestInScope db scope).map (·.price) =
    ((specialHead scope db.specialPrices).map (·.price)).elim
      (((plainHead scope db.productPrices).map (·.price)).elim
        (.error ⟨404, .notFound, "Подходящая цена не найдена"⟩) .ok) .ok := by
  rw [bestInScope_eq]
  cases specialHead scope db.specialPrices with
  | some best => rfl
  | none => cases plainHead scope db.productPrices <;> rfl

variable {scope}

theorem fitsOrOpen_iff {resolved candidate : Option Id} :
    fitsOrOpen resolved candidate = true ↔ ScopeFits resolved candidate := by
  unfold fitsOrOpen ScopeFits
  cases given : isSet resolved with
  | true => cases isSet candidate <;> simp
  | false =>
    cases named : isSet candidate with
    | false => simp
    | true =>
      have apart : candidate ≠ resolved := by
        rintro rfl
        rw [given] at named
        cases named
      simp [apart]

theorem fitsExactly_iff {resolved candidate : Option Id} :
    fitsExactly resolved candidate = true ↔
      ScopeFits resolved candidate ∧ (isSet resolved = true → candidate = resolved) := by
  rw [← fitsOrOpen_iff]
  unfold fitsExactly fitsOrOpen
  cases isSet resolved with
  | true => simp +contextual
  | false => simp

variable {price : SpecialPrice}

theorem mem_specialCandidates :
    price ∈ specialCandidates scope prices ↔ price ∈ prices ∧ Applies scope price ∧
      (isSet scope.agreementId = true → price.agreementId = scope.agreementId) := by
  simp only [specialCandidates, List.mem_filter, Bool.and_eq_true, beq_iff_eq, fitsOrOpen_iff,
    fitsExactly_iff]
  constructor
  · rintro ⟨listed, ⟨⟨⟨⟨product, active⟩, date⟩, agreement, meant⟩, counterparty⟩, priceType⟩
    exact ⟨listed, ⟨product, active, date, agreement, counterparty, priceType⟩, meant⟩
  · rintro ⟨listed, applies, meant⟩
    exact ⟨listed, ⟨⟨⟨⟨applies.product, applies.active⟩, applies.date⟩, applies.agreement, meant⟩,
      applies.counterparty⟩, applies.priceType⟩

theorem mem_plainCandidates {prices : List ProductPrice} {price : ProductPrice} :
    price ∈ plainCandidates scope prices ↔ price ∈ prices ∧ AppliesPlain scope price := by
  simp only [plainCandidates, List.mem_filter, Bool.and_eq_true, Bool.or_eq_true, beq_iff_eq]
  constructor
  · rintro ⟨listed, ⟨⟨product, active⟩, priceType⟩, date⟩
    exact ⟨listed, product, active, date, priceType⟩
  · rintro ⟨listed, applies⟩
    exact ⟨listed, ⟨⟨applies.product, applies.active⟩, applies.priceType⟩, applies.date⟩

theorem matchLevel_of_applies (applies : Applies scope price) :
    matchLevel scope price = price.specificity := by
  have meets {context named : Option Id} (fits : ScopeFits context named) :
      (isSet context && named == context) = isSet named := by
    cases given : isSet named with
    | true =>
      have same := fits given
      rw [same] at given
      simp [same, given]
    | false =>
      rw [Bool.and_eq_false_iff]
      by_cases same : named = context
      · exact .inl (same ▸ given)
      · exact .inr (by simpa using same)
  rw [matchLevel, computeMatchLevel, meets applies.agreement, meets applies.counterparty,
    meets applies.priceType, SpecialPrice.specificity]

theorem specificity_le (price : SpecialPrice) : price.specificity ≤ 4 := by
  unfold SpecialPrice.specificity
  repeat' split
  all_goals omega

theorem specificity_eq_four :
    price.specificity = 4 ↔ isSet price.agreementId = true := by
  unfold SpecialPrice.specificity
  repeat' split
  all_goals simp_all

def OnlyOpen (scope : PriceScope) (prices : List SpecialPrice) : Prop :=
  isSet scope.agreementId = true ∧ (∃ price ∈ prices, Applies scope price) ∧
    ∀ price ∈ prices, Applies scope price → isSet price.agreementId = false

theorem mostSpecific_of_top
    (top : Top (fun a b => ranksBefore (matchLevel scope) (·.startDate) a b = true)
      (specialCandidates scope prices) best) : MostSpecific scope prices best := by
  obtain ⟨listed, applies, meant⟩ := mem_specialCandidates.mp top.1
  refine ⟨listed, applies, fun other there fits => ?_⟩
  by_cases ranked : isSet scope.agreementId = true → other.agreementId = scope.agreementId
  · have first := ranksBefore_iff.mp (top.2 other (mem_specialCandidates.mpr ⟨there, fits, ranked⟩))
    rwa [matchLevel_of_applies applies, matchLevel_of_applies fits] at first
  · obtain ⟨given, apart⟩ := Classical.not_imp.mp ranked
    have own : isSet best.agreementId = true := by
      rw [meant given]
      exact given
    have open_other : ¬ isSet other.agreementId = true := fun named => apart (fits.agreement named)
    have best_level := specificity_eq_four.mpr own
    have other_level := mt specificity_eq_four.mp open_other
    have bound := specificity_le other
    exact .inl (by omega)

theorem top_of_mostSpecific (priced : ¬ OnlyOpen scope prices)
    (most : MostSpecific scope prices best) :
    Top (fun a b => ranksBefore (matchLevel scope) (·.startDate) a b = true)
      (specialCandidates scope prices) best := by
  have meant : isSet scope.agreementId = true → best.agreementId = scope.agreementId := by
    intro given
    by_contra apart
    have open_best : ¬ isSet best.agreementId = true := fun named =>
      apart (most.applies.agreement named)
    have best_level := mt specificity_eq_four.mp open_best
    apply priced
    refine ⟨given, ⟨best, most.listed, most.applies⟩, fun price there applies => ?_⟩
    rw [Bool.eq_false_iff]
    intro named
    have price_level := specificity_eq_four.mpr named
    have bound := specificity_le best
    rcases most.first price there applies with below | ⟨same, _⟩ <;> omega
  refine ⟨mem_specialCandidates.mpr ⟨most.listed, most.applies, meant⟩, fun other member => ?_⟩
  obtain ⟨there, applies, _⟩ := mem_specialCandidates.mp member
  rw [ranksBefore_iff, matchLevel_of_applies most.applies, matchLevel_of_applies applies]
  exact most.first other there applies

theorem firstPlain_iff {prices : List ProductPrice} {best : ProductPrice} :
    Top (fun a b => ranksBefore (productPriceLevel scope.priceTypeId) (·.startDate) a b = true)
      (plainCandidates scope prices) best ↔ FirstPlain scope prices best := by
  constructor
  · rintro ⟨member, first⟩
    obtain ⟨listed, applies⟩ := mem_plainCandidates.mp member
    refine ⟨listed, applies, fun other there fits => ?_⟩
    exact ranksBefore_iff.mp (first other (mem_plainCandidates.mpr ⟨there, fits⟩))
  · intro best_plain
    refine ⟨mem_plainCandidates.mpr ⟨best_plain.listed, best_plain.applies⟩, fun other member => ?_⟩
    obtain ⟨there, applies⟩ := mem_plainCandidates.mp member
    exact ranksBefore_iff.mpr (best_plain.first other there applies)

end Candidates

section Heads
variable {scope : PriceScope}

theorem specialHead_top (head : specialHead scope prices = some best) :
    MostSpecific scope prices best :=
  mostSpecific_of_top (top_of_head head)

theorem plainHead_top {prices : List ProductPrice} {best : ProductPrice}
    (head : plainHead scope prices = some best) : FirstPlain scope prices best :=
  firstPlain_iff.mp (top_of_head head)

theorem specialHead_isSome (priced : ¬ OnlyOpen scope prices)
    (given : ∃ price ∈ prices, Applies scope price) :
    ∃ best, specialHead scope prices = some best := by
  apply exists_head
  obtain ⟨price, there, applies⟩ := given
  by_cases meant : isSet scope.agreementId = true → price.agreementId = scope.agreementId
  · exact List.ne_nil_of_mem (mem_specialCandidates.mpr ⟨there, applies, meant⟩)
  · obtain ⟨of_agreement, _⟩ := Classical.not_imp.mp meant
    by_contra none_ranked
    apply priced
    refine ⟨of_agreement, ⟨price, there, applies⟩, fun other listed fits => ?_⟩
    rw [Bool.eq_false_iff]
    intro named
    have ranked : other ∈ specialCandidates scope prices :=
      mem_specialCandidates.mpr ⟨listed, fits, fun _ => fits.agreement named⟩
    rw [none_ranked] at ranked
    cases ranked

theorem specialHead_none (nothing : ∀ price ∈ prices, ¬ Applies scope price) :
    specialHead scope prices = none := by
  cases head : specialHead scope prices with
  | none => rfl
  | some best =>
    have top := specialHead_top head
    exact absurd top.applies (nothing best top.listed)

theorem specialHead_order_free_iff (prices : List SpecialPrice) :
    (∀ prices' : List SpecialPrice, prices'.Perm prices →
        (specialHead scope prices').map (·.price) = (specialHead scope prices).map (·.price)) ↔
      ∀ a b, Top (fun a b => ranksBefore (matchLevel scope) (·.startDate) a b = true)
          (specialCandidates scope prices) a →
        Top (fun a b => ranksBefore (matchLevel scope) (·.startDate) a b = true)
          (specialCandidates scope prices) b → a.price = b.price :=
  head_order_free_filter_iff _ _ (fun price : SpecialPrice => price.price) prices

theorem plainHead_order_free_iff (prices : List ProductPrice) :
    (∀ prices' : List ProductPrice, prices'.Perm prices →
        (plainHead scope prices').map (·.price) = (plainHead scope prices).map (·.price)) ↔
      ∀ a b, FirstPlain scope prices a → FirstPlain scope prices b → a.price = b.price := by
  simp only [← firstPlain_iff]
  exact head_order_free_filter_iff _ _ (fun price : ProductPrice => price.price) prices

end Heads

section Law
variable (db : Marketplace) (query : ResolvePriceQuery)

/-- The price of the query is the most specific one that applies, whatever the order of the
prices. -/
structure EffectivePriceLaw : Prop where
  special : ∀ scope, priceScope db query = .ok scope → ∀ special plain,
    special.Perm db.specialPrices → plain.Perm db.productPrices →
    (∃ price ∈ special, Applies scope price) →
      ∃ best, MostSpecific scope special best ∧
        resolveEffectivePrice (db.withPrices special plain) query =
          .ok ⟨"SPECIAL_PRICE", best.specificity, best.minQty, best.price⟩
  plain : ∀ scope, priceScope db query = .ok scope → ∀ resolved,
    resolveEffectivePrice db query = .ok resolved → resolved.source = "PRODUCT_PRICE" →
      ∀ price ∈ db.specialPrices, ¬ Applies scope price
  order_free : ∀ special plain, special.Perm db.specialPrices → plain.Perm db.productPrices →
    (resolveEffectivePrice (db.withPrices special plain) query).map (·.price) =
      (resolveEffectivePrice db query).map (·.price)

/-- A context with an agreement has a special price of that agreement if any applies, and those
that come first cost the same. -/
structure PricedByScope (scope : PriceScope) : Prop where
  agreement : ¬ OnlyOpen scope db.specialPrices
  special : ∀ a b, MostSpecific scope db.specialPrices a → MostSpecific scope db.specialPrices b →
    a.price = b.price
  plain : (∀ price ∈ db.specialPrices, ¬ Applies scope price) → ∀ a b,
    FirstPlain scope db.productPrices a → FirstPlain scope db.productPrices b → a.price = b.price

variable {db query}

theorem OnlyOpen.perm {scope : PriceScope} {prices prices' : List SpecialPrice}
    (only : OnlyOpen scope prices) (perm : prices'.Perm prices) : OnlyOpen scope prices' := by
  obtain ⟨given, ⟨price, there, applies⟩, opens⟩ := only
  exact ⟨given, ⟨price, perm.mem_iff.mpr there, applies⟩,
    fun other member => opens other (perm.mem_iff.mp member)⟩

theorem resolve_in_scope {scope : PriceScope} (found : priceScope db query = .ok scope)
    (special : List SpecialPrice) (plain : List ProductPrice) :
    resolveEffectivePrice (db.withPrices special plain) query =
      bestInScope (db.withPrices special plain) scope := by
  rw [resolveEffectivePrice_eq, priceScope_withPrices, found]
  rfl

theorem effectivePriceLaw_of_priced
    (priced : ∀ scope, priceScope db query = .ok scope → PricedByScope db scope) :
    EffectivePriceLaw db query := by
  refine ⟨fun scope found special plain perm _ given => ?_, fun scope found resolved result source
    => ?_, fun special plain perm perm' => ?_⟩
  · have only : ¬ OnlyOpen scope special := fun open_there =>
      (priced scope found).agreement (open_there.perm perm.symm)
    obtain ⟨best, head⟩ := specialHead_isSome only given
    have top := specialHead_top head
    refine ⟨best, top, ?_⟩
    rw [resolve_in_scope found, bestInScope_eq, withPrices_specialPrices, head,
      ← matchLevel_of_applies top.applies]
  · intro price there applies
    obtain ⟨best, head⟩ := specialHead_isSome (priced scope found).agreement ⟨price, there, applies⟩
    have here := resolve_in_scope found db.specialPrices db.productPrices
    rw [withPrices_self, result, bestInScope_eq, head] at here
    cases here
    exact absurd source (show "SPECIAL_PRICE" ≠ "PRODUCT_PRICE" by decide)
  · cases found : priceScope db query with
    | error e =>
      rw [resolveEffectivePrice_eq, resolveEffectivePrice_eq, priceScope_withPrices, found]
      rfl
    | ok scope =>
      have here := resolve_in_scope found db.specialPrices db.productPrices
      rw [withPrices_self] at here
      have law := priced scope found
      have special_free := (specialHead_order_free_iff db.specialPrices).mpr
        (fun a b top_a top_b => law.special a b (mostSpecific_of_top top_a)
          (mostSpecific_of_top top_b)) special perm
      rw [resolve_in_scope found, here, bestInScope_price, bestInScope_price,
        withPrices_specialPrices, withPrices_productPrices, special_free]
      cases head : specialHead scope db.specialPrices with
      | some best => rfl
      | none =>
        have nothing : ∀ price ∈ db.specialPrices, ¬ Applies scope price := by
          intro price there applies
          obtain ⟨best, other⟩ := specialHead_isSome law.agreement ⟨price, there, applies⟩
          rw [head] at other
          cases other
        rw [(plainHead_order_free_iff db.productPrices).mpr (law.plain nothing) plain perm']

theorem elim_ok_inj {ε α : Type} {e : ε} {o o' : Option α}
    (same : o.elim (.error e) Except.ok = o'.elim (.error e) Except.ok) : o = o' := by
  cases o <;> cases o' <;> simp_all

theorem priced_of_effectivePriceLaw (law : EffectivePriceLaw db query) {scope : PriceScope}
    (found : priceScope db query = .ok scope) : PricedByScope db scope := by
  have only : ¬ OnlyOpen scope db.specialPrices := by
    rintro ⟨given, some_applies, opens⟩
    obtain ⟨best, _, result⟩ := law.special scope found db.specialPrices db.productPrices
      (List.Perm.refl _) (List.Perm.refl _) some_applies
    rw [resolve_in_scope found, withPrices_self, bestInScope_eq] at result
    cases head : specialHead scope db.specialPrices with
    | some first =>
      obtain ⟨there, applies, meant⟩ := mem_specialCandidates.mp (top_of_head head).1
      have named := opens first there applies
      rw [meant given, given] at named
      cases named
    | none =>
      rw [head] at result
      cases plain : plainHead scope db.productPrices with
      | some first =>
        rw [plain] at result
        simp at result
      | none =>
        rw [plain] at result
        cases result
  have prices (special : List SpecialPrice) (plain : List ProductPrice)
      (perm : special.Perm db.specialPrices) (perm' : plain.Perm db.productPrices) :
      (bestInScope (db.withPrices special plain) scope).map (·.price) =
        (bestInScope db scope).map (·.price) := by
    have same := law.order_free special plain perm perm'
    have here := resolve_in_scope found db.specialPrices db.productPrices
    rw [withPrices_self] at here
    rw [resolve_in_scope found, here] at same
    exact same
  refine ⟨only, fun a b most_a most_b => ?_, fun nothing => ?_⟩
  · refine (specialHead_order_free_iff db.specialPrices).mp (fun special perm => ?_) a b
      (top_of_mostSpecific only most_a) (top_of_mostSpecific only most_b)
    have given : ∃ price ∈ db.specialPrices, Applies scope price :=
      ⟨a, most_a.listed, most_a.applies⟩
    have given' : ∃ price ∈ special, Applies scope price :=
      ⟨a, perm.mem_iff.mpr most_a.listed, most_a.applies⟩
    obtain ⟨first, head⟩ := specialHead_isSome only given
    obtain ⟨first', head'⟩ := specialHead_isSome (fun open_there => only (open_there.perm perm.symm))
      given'
    have same := prices special db.productPrices perm (List.Perm.refl _)
    rw [bestInScope_price, bestInScope_price, withPrices_specialPrices, head, head'] at same
    have equal : first'.price = first.price := Except.ok.inj same
    rw [head, head', Option.map_some, Option.map_some, equal]
  · refine (plainHead_order_free_iff db.productPrices).mp fun plain perm => ?_
    have same := prices db.specialPrices plain (List.Perm.refl _) perm
    rw [bestInScope_price, bestInScope_price, withPrices_specialPrices, withPrices_productPrices,
      specialHead_none nothing] at same
    exact elim_ok_inj same

variable (db query) in
/-- The price is the most specific one exactly when a context with an agreement has a special price
of it if any applies, and prices that come first together cost the same. -/
theorem effective_price_iff : EffectivePriceLaw db query ↔
    ∀ scope, priceScope db query = .ok scope → PricedByScope db scope :=
  ⟨fun law _ found => priced_of_effectivePriceLaw law found, effectivePriceLaw_of_priced⟩

def openPriceMarket : Marketplace where
  profiles := []
  counterparties := []
  agreements := [⟨"a1", "agreement", "A", none, true, none, none, none, none⟩]
  contracts := []
  warehouses := []
  priceTypes := []
  addresses := []
  products := [⟨"p1", "product", true, none⟩]
  packages := []
  specialPrices := [⟨⟨⟨80, none, none, none⟩, "p1", none, true⟩, none, none⟩]
  productPrices := [⟨⟨100, none, none, none⟩, "p1", none, true⟩]
  orders := []

def openPriceQuery : ResolvePriceQuery := ⟨"product", none, some "agreement", none, 5⟩

/-- The special price for everyone is passed over for the price of the product. -/
theorem open_price_passed_over : ¬ EffectivePriceLaw openPriceMarket openPriceQuery := by
  intro law
  have found : priceScope openPriceMarket openPriceQuery =
      .ok ⟨⟨"p1", "product", true, none⟩, some "a1", none, none, 5⟩ := rfl
  have applies : Applies ⟨⟨"p1", "product", true, none⟩, some "a1", none, none, 5⟩
      ⟨⟨⟨80, none, none, none⟩, "p1", none, true⟩, none, none⟩ :=
    ⟨rfl, rfl, rfl, nofun, nofun, nofun⟩
  exact law.plain _ found ⟨"PRODUCT_PRICE", 1, none, 100⟩ rfl rfl _ (List.mem_singleton_self _)
    applies

end Law

end LeaderProduct
