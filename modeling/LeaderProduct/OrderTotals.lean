import LeaderProduct.GeneralDiscount
import LeaderProduct.Rounding

/-! The total of an order as it is stored beside its lines. -/
namespace LeaderProduct
open RowTable Rounding

section Stored

def OrderItem.stored (item : OrderItem) : OrderItem :=
  { item with
    quantity := roundTo 3 item.quantity
    quantityBase := item.quantityBase.map (roundTo 3)
    basePrice := item.basePrice.map (roundTo 4)
    price := roundTo 4 item.price
    manualPrice := item.manualPrice.map (roundTo 4)
    cancelledAmount := item.cancelledAmount.map (roundTo 2)
    discountPercent := item.discountPercent.map (roundTo 2)
    appliedDiscountPercent := item.appliedDiscountPercent.map (roundTo 2)
    lineAmount := item.lineAmount.map (roundTo 2) }

def OrderContent.stored (content : OrderContent) : OrderContent where
  header :=
    { content.header with
      totalAmount := content.header.totalAmount.map (roundTo 2)
      generalDiscountPercent := content.header.generalDiscountPercent.map (roundTo 2)
      generalDiscountAmount := content.header.generalDiscountAmount.map (roundTo 2) }
  items := content.items.map OrderItem.stored

/-- The total is the sum of the lines that are not cancelled. -/
def TotalIsSum (content : OrderContent) : Prop :=
  content.header.totalAmount = some (content.items.filterMap openAmount).sum

instance (content : OrderContent) : Decidable (TotalIsSum content) :=
  inferInstanceAs (Decidable (_ = _))

/-- What rounding takes from the lines and adds to them comes to half a kopeck at most. -/
def RoundsTogether (amounts : List Rat) : Prop := WithinHalf 2 amounts.sum (errorSum 2 amounts)

instance (amounts : List Rat) : Decidable (RoundsTogether amounts) :=
  inferInstanceAs (Decidable (WithinHalf _ _ _))

theorem openAmounts_stored (content : OrderContent) :
    content.stored.items.filterMap openAmount =
      (content.items.filterMap openAmount).map (roundTo 2) := by
  unfold OrderContent.stored
  dsimp only
  induction content.items with
  | nil => rfl
  | cons item rest ih =>
    rw [List.map_cons, List.filterMap_cons, List.filterMap_cons, ih]
    unfold openAmount OrderItem.stored
    by_cases cancelled : item.isCancelled
    · simp [cancelled]
    · cases item.lineAmount <;> simp [cancelled]

theorem stored_total_iff {content : OrderContent} {amounts : List Rat}
    (total : content.header.totalAmount = some amounts.sum)
    (lines : content.items.filterMap openAmount = amounts) :
    TotalIsSum content.stored ↔ RoundsTogether amounts := by
  have rounded : content.stored.header.totalAmount = some (roundTo 2 amounts.sum) := by
    simp [OrderContent.stored, total]
  rw [TotalIsSum, rounded, openAmounts_stored, lines, Option.some.injEq, RoundsTogether,
    roundTo_sum_iff]

end Stored

section Manager
variable (refs : OrderReferences) (catalog : OrderCatalog) (newLineGuid : Nat → String)
  (date : Instant)

def contextPriceType (context : ManagerOrderContext) : Option MarketReference :=
  context.priceTypeId.bind (lookup MarketReference.id catalog.priceTypes)

def catalogReferences : OrderReferences :=
  { refs with
    prepareOrderItems := fun body context =>
      prepareOrderItems newLineGuid catalog (contextPriceType catalog context) date body }

def managerAmounts (body : ClientOrderCreateBody) : List Rat :=
  match refs.resolveManagerOrderContext body with
  | .error _ => []
  | .ok context => openAmounts body.generalDiscountPercent
      (orderLines catalog (contextPriceType catalog context) date body.items)

variable {refs catalog newLineGuid date}

theorem manager_content {body : ClientOrderCreateBody} {clock : Clock} {content : OrderContent}
    (accepted : prepareOrder (catalogReferences refs catalog newLineGuid date) body clock =
      .ok content) :
    content.header.totalAmount = some (managerAmounts refs catalog date body).sum ∧
      content.items.filterMap openAmount = managerAmounts refs catalog date body := by
  rw [prepareOrder, except_bind_ok] at accepted
  obtain ⟨context, resolved, accepted⟩ := accepted
  rw [except_bind_ok] at accepted
  obtain ⟨prepared, done, accepted⟩ := accepted
  cases accepted
  obtain ⟨total, _, rows⟩ := prepareOrderItems_ok done
  have found : refs.resolveManagerOrderContext body = .ok context := resolved
  rw [managerAmounts, found]
  exact ⟨congrArg some total, rows⟩

end Manager

section Clients
variable (db : Marketplace) (userId : Nat) (createdAt : Instant)

def marketplaceAmounts (body : OrderCreateBody) : List Rat :=
  match resolveOrderContext db userId body with
  | .error _ => []
  | .ok context => body.items.filterMap (fun item =>
      (prepareItem db context createdAt item).toOption.map (·.lineAmount))

variable {db userId createdAt}

theorem prepared_amounts {context : ResolvedOrderContext} {items : List OrderItemBody}
    {prepared : List PreparedItem}
    (done : items.mapM (prepareItem db context createdAt) = .ok prepared) :
    prepared.map (·.lineAmount) = items.filterMap (fun item =>
      (prepareItem db context createdAt item).toOption.map (·.lineAmount)) := by
  induction items generalizing prepared with
  | nil =>
    cases done
    rfl
  | cons item rest ih =>
    rw [List.mapM_cons, except_bind_ok] at done
    obtain ⟨first, one, done⟩ := done
    rw [except_bind_ok] at done
    obtain ⟨later, others, done⟩ := done
    cases done
    simp [one, ih others, Except.toOption]

theorem created_amounts (items : List PreparedItem) (lineGuid : Nat → String) :
    (items.zipIdx.map (fun entry => createdItem entry.1 (lineGuid entry.2))).filterMap openAmount =
      items.map (·.lineAmount) := by
  have each : openAmount ∘ (fun entry : PreparedItem × Nat =>
      createdItem entry.1 (lineGuid entry.2)) = some ∘ (·.lineAmount) ∘ Prod.fst := rfl
  rw [List.filterMap_map, each, List.filterMap_eq_map, ← List.map_map, List.zipIdx_map_fst]

theorem marketplace_content {body : OrderCreateBody} {new : NewOrder} {order : Order}
    (placed : placeOrder db userId body createdAt new = .ok order) :
    order.content.header.totalAmount = some (marketplaceAmounts db userId createdAt body).sum ∧
      order.content.items.filterMap openAmount = marketplaceAmounts db userId createdAt body := by
  unfold placeOrder at placed
  split at placed
  · cases placed
  · next context resolved =>
    split at placed
    · cases placed
    · next items done =>
      split at placed
      · cases placed
      · cases placed
        rw [marketplaceAmounts, resolved]
        dsimp only
        rw [← prepared_amounts done]
        exact ⟨rfl, created_amounts items new.lineGuid⟩

end Clients

section Law

def plainReferences : OrderReferences where
  loadLiveOrderMaterialization _ := .ok ()
  resolveManagerOrderContext _ := .ok ⟨"o", "c", none, none, none, none, none⟩
  prepareOrderItems _ _ := .ok ⟨[], 0, 0⟩

def halfKopecks : List ManagerOrderItem :=
  [apples false (some (1 / 200)), { apples false (some (1 / 200)) with lineGuid := some "second" }]

end Law

end LeaderProduct
