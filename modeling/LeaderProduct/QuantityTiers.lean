import LeaderProduct.EffectivePrice

/-! The minimal quantities of prices: the price of a line is chosen without its quantity, which is
checked against the chosen price alone. -/
namespace LeaderProduct
open RowTable TopRanked

section Lines
variable (db : Marketplace) (context : ResolvedOrderContext) (createdAt : Instant)
  (item : OrderItemBody)

def lineChecks : Except MarketplaceError (MarketProduct × Option MarketPackage) := do
  let product ← activeProduct db item.productGuid
  let packageRecord ← findPackage db product item
  if isSet item.unitGuid && packageRecord.isNone &&
      product.baseUnit.all (fun unit => some unit.guid ≠ item.unitGuid) then
    throw ⟨400, .validationError,
      "unitGuid можно указывать только для базовой единицы товара или вместе с packageGuid"⟩
  return (product, packageRecord)

def linePriceQuery (product : MarketProduct) : ResolvePriceQuery where
  productGuid := product.guid
  counterpartyGuid := some context.counterparty.guid
  agreementGuid := context.agreement.map (·.guid)
  priceTypeGuid := context.priceType.map (·.guid)
  date := createdAt

def pricedItem (product : MarketProduct) (packageRecord : Option MarketPackage)
    (resolved : ResolvedPrice) : PreparedItem :=
  let quantityBase := item.quantity * (packageRecord.map (·.multiplier)).getD 1
  { productId := product.id
    packageId := packageRecord.map (·.id)
    unitId := (packageRecord.map (·.unitId)).or (product.baseUnit.map (·.id))
    quantity := item.quantity
    quantityBase := quantityBase
    basePrice := resolved.price
    price := resolved.price
    priceSource := resolved.source ++ ":" ++ matchLevelLabel resolved.level
    lineAmount := quantityBase * resolved.price }

def withinMinimum (product : MarketProduct) (packageRecord : Option MarketPackage)
    (resolved : ResolvedPrice) : Except MarketplaceError PreparedItem :=
  if resolved.minQty.any (fun minQty => decide (item.quantity < minQty)) then
    .error ⟨400, .validationError, "Количество для товара " ++ product.guid ++
      " меньше минимального (" ++ (resolved.minQty.map quantityText).getD "" ++ ")"⟩
  else .ok (pricedItem item product packageRecord resolved)

theorem prepareItem_eq : prepareItem db context createdAt item =
    (lineChecks db item).bind fun found =>
      (resolveEffectivePrice db (linePriceQuery context createdAt found.1)).bind
        (withinMinimum item found.1 found.2) := by
  unfold prepareItem lineChecks
  cases activeProduct db item.productGuid with
  | error e => rfl
  | ok product =>
    dsimp only [bind, Except.bind]
    cases findPackage db product item with
    | error e => rfl
    | ok packageRecord =>
      dsimp only
      split
      · rfl
      · dsimp only [pure, Except.pure]
        have same : resolveEffectivePrice db ⟨product.guid, some context.counterparty.guid,
            context.agreement.map (·.guid), context.priceType.map (·.guid), createdAt⟩ =
            resolveEffectivePrice db (linePriceQuery context createdAt product) := rfl
        rw [same]
        cases resolveEffectivePrice db (linePriceQuery context createdAt product) with
        | error e => rfl
        | ok resolved =>
          dsimp only
          rw [withinMinimum]
          split <;> rfl

end Lines

section Tiers
variable (scope : PriceScope) (quantity : Rat)

def MinMet (minQty : Option Rat) : Prop := ∀ least, minQty = some least → least ≤ quantity

/-- A price of the tables that applies, special or not. -/
def Offered (db : Marketplace) (price : PriceCandidate) : Prop :=
  (∃ special ∈ db.specialPrices, Applies scope special ∧ special.toPriceCandidate = price) ∨
    ∃ plain ∈ db.productPrices, AppliesPlain scope plain ∧ plain.toPriceCandidate = price

/-- A special price that is meant for the agreement of the context, or for none where that has
none. -/
def RankedSpecial (price : SpecialPrice) : Prop :=
  Applies scope price ∧ (isSet scope.agreementId = true → price.agreementId = scope.agreementId)

structure FirstSpecial (prices : List SpecialPrice) (best : SpecialPrice) : Prop where
  listed : best ∈ prices
  ranked : RankedSpecial scope best
  first : ∀ other ∈ prices, RankedSpecial scope other →
    other.specificity < best.specificity ∨
      other.specificity = best.specificity ∧
        startsNoLater other.startDate best.startDate = true

structure TiersMet (db : Marketplace) : Prop where
  special : ∀ best, FirstSpecial scope db.specialPrices best → MinMet quantity best.minQty
  plain : (∀ price ∈ db.specialPrices, ¬ RankedSpecial scope price) →
    (∃ price ∈ db.productPrices, AppliesPlain scope price) ∧
      ∀ best, FirstPlain scope db.productPrices best → MinMet quantity best.minQty

variable {scope quantity}

variable {prices : List SpecialPrice} {best : SpecialPrice}

theorem firstSpecial_iff :
    Top (fun a b => ranksBefore (matchLevel scope) (·.startDate) a b = true)
      (specialCandidates scope prices) best ↔ FirstSpecial scope prices best := by
  constructor
  · rintro ⟨member, first⟩
    obtain ⟨listed, ranked⟩ := mem_specialCandidates.mp member
    refine ⟨listed, ranked, fun other there fits => ?_⟩
    have before := ranksBefore_iff.mp (first other (mem_specialCandidates.mpr ⟨there, fits⟩))
    rwa [matchLevel_of_applies ranked.1, matchLevel_of_applies fits.1] at before
  · intro best_special
    refine ⟨mem_specialCandidates.mpr ⟨best_special.listed, best_special.ranked⟩,
      fun other member => ?_⟩
    obtain ⟨there, fits⟩ := mem_specialCandidates.mp member
    rw [ranksBefore_iff, matchLevel_of_applies best_special.ranked.1, matchLevel_of_applies fits.1]
    exact best_special.first other there fits

theorem specialHead_first (head : specialHead scope prices = some best) :
    FirstSpecial scope prices best :=
  firstSpecial_iff.mp (top_of_head head)

theorem specialHead_none_iff : specialHead scope prices = none ↔
    ∀ price ∈ prices, ¬ RankedSpecial scope price := by
  constructor
  · intro none_first price there ranked
    have given : specialCandidates scope prices ≠ [] :=
      List.ne_nil_of_mem (mem_specialCandidates.mpr ⟨there, ranked⟩)
    obtain ⟨best, head⟩ := exists_head
      (r := fun a b => ranksBefore (matchLevel scope) (·.startDate) a b = true) given
    rw [show specialHead scope prices = some best from head] at none_first
    cases none_first
  · intro nothing
    cases head : specialHead scope prices with
    | none => rfl
    | some best =>
      have first := specialHead_first head
      exact absurd first.ranked (nothing best first.listed)

theorem plainHead_isSome {prices : List ProductPrice}
    (given : ∃ price ∈ prices, AppliesPlain scope price) :
    ∃ best, plainHead scope prices = some best := by
  obtain ⟨price, there, applies⟩ := given
  exact exists_head (List.ne_nil_of_mem (mem_plainCandidates.mpr ⟨there, applies⟩))

theorem exists_order_special (first : FirstSpecial scope prices best) :
    ∃ prices' : List SpecialPrice, prices'.Perm prices ∧ specialHead scope prices' = some best :=
  exists_perm_head_filter _ (firstSpecial_iff.mpr first)

theorem exists_order_plain {prices : List ProductPrice} {best : ProductPrice}
    (first : FirstPlain scope prices best) :
    ∃ prices' : List ProductPrice, prices'.Perm prices ∧ plainHead scope prices' = some best :=
  exists_perm_head_filter _ (firstPlain_iff.mpr first)

theorem minMet_iff {minQty : Option Rat} : MinMet quantity minQty ↔
    minQty.any (fun least => decide (quantity < least)) = false := by
  cases minQty with
  | none => simp [MinMet]
  | some least =>
    simp only [MinMet, Option.some.injEq, forall_eq', Option.any_some, decide_eq_false_iff_not,
      Rat.not_lt]

end Tiers

section Law
variable (db : Marketplace) (context : ResolvedOrderContext) (createdAt : Instant)
  (item : OrderItemBody)

/-- A line that passes the other checks is priced for its quantity if any price that applies has a
minimum that the quantity meets, whatever the order of the prices. -/
def QuantityHonoured : Prop :=
  ∀ product packageRecord, lineChecks db item = .ok (product, packageRecord) → ∀ scope,
    priceScope db (linePriceQuery context createdAt product) = .ok scope →
      (∃ price, Offered scope db price ∧ MinMet item.quantity price.minQty) →
        ∀ special plain, special.Perm db.specialPrices → plain.Perm db.productPrices →
          ∃ prepared,
            prepareItem (db.withPrices special plain) context createdAt item = .ok prepared ∧
              ∃ price, Offered scope db price ∧ prepared.price = price.price ∧
                MinMet item.quantity price.minQty

variable {db context createdAt item} {product : MarketProduct}
  {packageRecord : Option MarketPackage} {scope : PriceScope}

theorem prepareItem_priced (checked : lineChecks db item = .ok (product, packageRecord))
    (found : priceScope db (linePriceQuery context createdAt product) = .ok scope)
    (special : List SpecialPrice) (plain : List ProductPrice) :
    prepareItem (db.withPrices special plain) context createdAt item =
      (bestInScope (db.withPrices special plain) scope).bind
        (withinMinimum item product packageRecord) := by
  have same : lineChecks (db.withPrices special plain) item = lineChecks db item := rfl
  rw [prepareItem_eq, same, checked]
  exact congrArg (fun resolved => Except.bind resolved (withinMinimum item product packageRecord))
    (resolve_in_scope found special plain)

theorem withinMinimum_ok {resolved : ResolvedPrice} {prepared : PreparedItem} :
    withinMinimum item product packageRecord resolved = .ok prepared ↔
      MinMet item.quantity resolved.minQty ∧
        pricedItem item product packageRecord resolved = prepared := by
  rw [withinMinimum, minMet_iff]
  cases resolved.minQty.any (fun least => decide (item.quantity < least)) with
  | true => simp
  | false => simp

theorem quantityHonoured_of_tiers (checked : lineChecks db item = .ok (product, packageRecord))
    (found : priceScope db (linePriceQuery context createdAt product) = .ok scope)
    (met : TiersMet scope item.quantity db) {special : List SpecialPrice}
    {plain : List ProductPrice} (perm : special.Perm db.specialPrices)
    (perm' : plain.Perm db.productPrices) :
    ∃ prepared, prepareItem (db.withPrices special plain) context createdAt item = .ok prepared ∧
      ∃ price, Offered scope db price ∧ prepared.price = price.price ∧
        MinMet item.quantity price.minQty := by
  rw [prepareItem_priced checked found, bestInScope_eq, withPrices_specialPrices,
    withPrices_productPrices]
  cases head : specialHead scope special with
  | some best =>
    have first : FirstSpecial scope db.specialPrices best :=
      firstSpecial_iff.mp ((top_of_head head).perm (perm.symm.filter _))
    have enough := met.special best first
    exact ⟨_, withinMinimum_ok.mpr ⟨enough, rfl⟩, best.toPriceCandidate,
      .inl ⟨best, first.listed, first.ranked.1, rfl⟩, rfl, enough⟩
  | none =>
    have nothing : ∀ price ∈ db.specialPrices, ¬ RankedSpecial scope price := fun price there =>
      specialHead_none_iff.mp head price (perm.mem_iff.mpr there)
    obtain ⟨⟨price, there, applies⟩, least⟩ := met.plain nothing
    obtain ⟨best, head'⟩ := plainHead_isSome ⟨price, perm'.mem_iff.mpr there, applies⟩
    have first : FirstPlain scope db.productPrices best :=
      firstPlain_iff.mp ((top_of_head head').perm (perm'.symm.filter _))
    have enough := least best first
    rw [head']
    exact ⟨_, withinMinimum_ok.mpr ⟨enough, rfl⟩, best.toPriceCandidate,
      .inr ⟨best, first.listed, first.applies, rfl⟩, rfl, enough⟩

theorem tiers_of_quantityHonoured (law : QuantityHonoured db context createdAt item)
    (checked : lineChecks db item = .ok (product, packageRecord))
    (found : priceScope db (linePriceQuery context createdAt product) = .ok scope)
    (given : ∃ price, Offered scope db price ∧ MinMet item.quantity price.minQty) :
    TiersMet scope item.quantity db := by
  have priced (special : List SpecialPrice) (plain : List ProductPrice)
      (perm : special.Perm db.specialPrices) (perm' : plain.Perm db.productPrices) :
      ∃ resolved, bestInScope (db.withPrices special plain) scope = .ok resolved ∧
        MinMet item.quantity resolved.minQty := by
    obtain ⟨prepared, accepted, -⟩ := law product packageRecord checked scope found given special
      plain perm perm'
    rw [prepareItem_priced checked found] at accepted
    cases best : bestInScope (db.withPrices special plain) scope with
    | error e =>
      rw [best] at accepted
      cases accepted
    | ok resolved =>
      rw [best] at accepted
      exact ⟨resolved, rfl, (withinMinimum_ok.mp accepted).1⟩
  constructor
  · intro best first
    obtain ⟨special, perm, head⟩ := exists_order_special first
    obtain ⟨resolved, result, enough⟩ := priced special db.productPrices perm (List.Perm.refl _)
    rw [bestInScope_eq, withPrices_specialPrices, head] at result
    cases result
    exact enough
  · intro nothing
    have none_first := specialHead_none_iff.mpr nothing
    have resolve (plain : List ProductPrice) (perm' : plain.Perm db.productPrices) :
        ∃ best, plainHead scope plain = some best ∧ MinMet item.quantity best.minQty := by
      obtain ⟨resolved, result, enough⟩ := priced db.specialPrices plain (List.Perm.refl _) perm'
      rw [bestInScope_eq, withPrices_specialPrices, withPrices_productPrices, none_first] at result
      cases head : plainHead scope plain with
      | none =>
        rw [head] at result
        cases result
      | some best =>
        rw [head] at result
        cases result
        exact ⟨best, rfl, enough⟩
    constructor
    · obtain ⟨best, head, -⟩ := resolve db.productPrices (List.Perm.refl _)
      have first := plainHead_top head
      exact ⟨best, first.listed, first.applies⟩
    · intro best first
      obtain ⟨plain, perm, head⟩ := exists_order_plain first
      obtain ⟨other, same, enough⟩ := resolve plain perm
      rw [head, Option.some.injEq] at same
      exact same ▸ enough

variable (db context createdAt item) in
/-- A line is priced for its quantity exactly when, if any price that applies allows the quantity,
all those that come first do. -/
theorem quantity_honoured_iff : QuantityHonoured db context createdAt item ↔
    ∀ product packageRecord, lineChecks db item = .ok (product, packageRecord) → ∀ scope,
      priceScope db (linePriceQuery context createdAt product) = .ok scope →
        (∃ price, Offered scope db price ∧ MinMet item.quantity price.minQty) →
          TiersMet scope item.quantity db := by
  constructor
  · intro law product packageRecord checked scope found given
    exact tiers_of_quantityHonoured law checked found given
  · intro met product packageRecord checked scope found given special plain perm perm'
    exact quantityHonoured_of_tiers checked found (met _ _ checked _ found given) perm perm'

def tieredMarket : Marketplace where
  profiles := []
  counterparties := [⟨"c1", "buyer", "Buyer", true⟩]
  agreements := []
  contracts := []
  warehouses := []
  priceTypes := []
  addresses := []
  products := [⟨"p1", "product", true, none⟩]
  packages := []
  specialPrices := [⟨⟨⟨80, none, none, some 10⟩, "p1", none, true⟩, none, none⟩]
  productPrices := [⟨⟨100, none, none, none⟩, "p1", none, true⟩]
  orders := []

def buyerContext : ResolvedOrderContext where
  counterparty := ⟨"c1", "buyer", "Buyer", true⟩
  agreement := none
  contract := none
  warehouse := none
  priceType := none
  deliveryAddress := none

/-- One piece is refused for the special price, though the price of the product would do. -/
theorem small_quantity_refused :
    ¬ QuantityHonoured tieredMarket buyerContext 5 ⟨"product", none, none, 1⟩ := by
  intro law
  have checked : lineChecks tieredMarket ⟨"product", none, none, 1⟩ =
      .ok (⟨"p1", "product", true, none⟩, none) := rfl
  have found : priceScope tieredMarket (linePriceQuery buyerContext 5
      ⟨"p1", "product", true, none⟩) =
        .ok ⟨⟨"p1", "product", true, none⟩, none, some "c1", none, 5⟩ := rfl
  have offered : Offered ⟨⟨"p1", "product", true, none⟩, none, some "c1", none, 5⟩ tieredMarket
      ⟨100, none, none, none⟩ :=
    .inr ⟨_, List.mem_singleton_self _, ⟨rfl, rfl, rfl, .inl rfl⟩, rfl⟩
  obtain ⟨prepared, accepted, -⟩ := law _ _ checked _ found ⟨_, offered, nofun⟩
    tieredMarket.specialPrices tieredMarket.productPrices (List.Perm.refl _) (List.Perm.refl _)
  have chosen : bestInScope (tieredMarket.withPrices tieredMarket.specialPrices
      tieredMarket.productPrices) ⟨⟨"p1", "product", true, none⟩, none, some "c1", none, 5⟩ =
        .ok ⟨"SPECIAL_PRICE", 1, some 10, 80⟩ := rfl
  rw [prepareItem_priced checked found, chosen] at accepted
  have enough := (withinMinimum_ok.mp accepted).1 10 rfl
  exact absurd enough (by decide)

end Law

end LeaderProduct
