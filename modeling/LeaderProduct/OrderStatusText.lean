import Mathlib.Data.List.Nodup
import LeaderProduct.LiveRecord

/-! The status text of a live order. One chain of tests decides the status that is shown, another
one the filter that the order is listed under. -/
namespace LeaderProduct
namespace OnecLive

inductive OnecStatus where
  | awaitingApproval | awaitingAdvanceBeforeSupply | readyForSupply
  | awaitingPrepaymentBeforeShipment | awaitingSupply | readyForShipment | shippingInProgress
  | awaitingPaymentAfterShipment | readyToClose
  | cancelled | rejected | notConfirmed | partialState
  | toSupply | toShip | inReserve | toFulfillment
  | completed | closed | confirmed
  deriving DecidableEq, Repr

def OnecStatus.code : OnecStatus → String
  | .awaitingApproval => "AWAITING_APPROVAL"
  | .awaitingAdvanceBeforeSupply => "AWAITING_ADVANCE_BEFORE_SUPPLY"
  | .readyForSupply => "READY_FOR_SUPPLY"
  | .awaitingPrepaymentBeforeShipment => "AWAITING_PREPAYMENT_BEFORE_SHIPMENT"
  | .awaitingSupply => "AWAITING_SUPPLY"
  | .readyForShipment => "READY_FOR_SHIPMENT"
  | .shippingInProgress => "SHIPPING_IN_PROGRESS"
  | .awaitingPaymentAfterShipment => "AWAITING_PAYMENT_AFTER_SHIPMENT"
  | .readyToClose => "READY_TO_CLOSE"
  | .cancelled => "CANCELLED"
  | .rejected => "REJECTED"
  | .notConfirmed => "NOT_CONFIRMED"
  | .partialState => "PARTIAL"
  | .toSupply => "TO_SUPPLY"
  | .toShip => "TO_SHIP"
  | .inReserve => "IN_RESERVE"
  | .toFulfillment => "TO_FULFILLMENT"
  | .completed => "COMPLETED"
  | .closed => "CLOSED"
  | .confirmed => "CONFIRMED"

def OnecStatus.all : List OnecStatus :=
  [.awaitingApproval, .awaitingAdvanceBeforeSupply, .readyForSupply,
    .awaitingPrepaymentBeforeShipment, .awaitingSupply, .readyForShipment, .shippingInProgress,
    .awaitingPaymentAfterShipment, .readyToClose, .cancelled, .rejected, .notConfirmed,
    .partialState, .toSupply, .toShip, .inReserve, .toFulfillment, .completed, .closed, .confirmed]

theorem OnecStatus.mem_all (status : OnecStatus) : status ∈ all := by
  cases status <;> decide

theorem OnecStatus.code_inj {a b : OnecStatus} (same : a.code = b.code) : a = b := by
  have distinct : (all.map code).Nodup := by decide +kernel
  exact List.inj_on_of_nodup_map distinct a.mem_all b.mem_all same

theorem OnecStatus.code_ne (status : OnecStatus) : status.code ≠ "" := by
  cases status <;> decide

variable {status : OnecStatus}

section Chains

abbrev StatusTest := String × OnecStatus

def firstOf (tests : List StatusTest) (normalized : String) : Option OnecStatus :=
  (tests.find? fun test => JsString.includes normalized test.1).map (·.2)

def includesAny (tests : List StatusTest) (normalized : String) : Bool :=
  tests.any fun test => JsString.includes normalized test.1

theorem firstOf_append (l r : List StatusTest) (normalized : String) :
    firstOf (l ++ r) normalized = (firstOf l normalized).or (firstOf r normalized) := by
  rw [firstOf, List.find?_append, Option.map_or, firstOf, firstOf]

theorem firstOf_isSome (tests : List StatusTest) (normalized : String) :
    (firstOf tests normalized).isSome = includesAny tests normalized := by
  rw [firstOf, Option.isSome_map, Bool.eq_iff_iff, List.find?_isSome, includesAny, List.any_eq_true]

theorem mem_of_firstOf {tests : List StatusTest} {normalized : String}
    (first : firstOf tests normalized = some status) : status ∈ tests.map (·.2) := by
  obtain ⟨test, found, rfl⟩ := Option.map_eq_some_iff.mp first
  exact List.mem_map_of_mem (List.mem_of_find?_eq_some found)

end Chains

def stageTests : List StatusTest :=
  [("ожидаетсясоглас", .awaitingApproval),
    ("ожидаетсяавансдообеспеч", .awaitingAdvanceBeforeSupply),
    ("готовкобеспеч", .readyForSupply),
    ("ожидаетсяпредоплатадоотгруз", .awaitingPrepaymentBeforeShipment),
    ("ожидаетсяобеспеч", .awaitingSupply),
    ("готовкотгруз", .readyForShipment),
    ("впроцессеотгруз", .shippingInProgress),
    ("ожидаетсяоплатапослеотгруз", .awaitingPaymentAfterShipment),
    ("готовкзакры", .readyToClose)]

def refusalTests : List StatusTest :=
  [("отмен", .cancelled), ("отклон", .rejected), ("несоглас", .notConfirmed),
    ("неподтверж", .notConfirmed), ("частич", .partialState)]

def shownPlaceTests : List StatusTest :=
  [("кобеспеч", .toSupply), ("котгруз", .toShip), ("резерв", .inReserve),
    ("квыполн", .toFulfillment)]

def filterPlaceTests : List StatusTest :=
  [("котгруз", .toShip), ("кобеспеч", .toSupply), ("резерв", .inReserve),
    ("квыполн", .toFulfillment)]

def endTests : List StatusTest :=
  [("выполн", .completed), ("закры", .closed), ("подтверж", .confirmed)]

def normalizedStatus (value : Option String) : String :=
  JsString.removeSpaces (JsString.toLowerCase (JsString.trim (value.getD "")))

def mapKnownOnecOrderStatus (value : Option String) : Option OnecStatus :=
  let normalized := normalizedStatus value
  if normalized = "" then none
  else firstOf (stageTests ++ (refusalTests ++ (shownPlaceTests ++ endTests))) normalized

def mapOnecOrderStatusForFilter (value : Option String) : Option OnecStatus :=
  let normalized := normalizedStatus value
  if normalized = "" then none
  else firstOf (stageTests ++ (filterPlaceTests ++ (refusalTests ++ endTests))) normalized

section Texts
variable (value : Option String)

def NamesStage : Prop := includesAny stageTests (normalizedStatus value) = true

/-- The text names a refusal and a place in the supply, or both of the first two places. -/
def TwoMeanings : Prop :=
  (includesAny refusalTests (normalizedStatus value) = true ∧
    includesAny filterPlaceTests (normalizedStatus value) = true) ∨
  (JsString.includes (normalizedStatus value) "котгруз" = true ∧
    JsString.includes (normalizedStatus value) "кобеспеч" = true)

instance : Decidable (NamesStage value) := inferInstanceAs (Decidable (_ = true))

instance : Decidable (TwoMeanings value) := inferInstanceAs (Decidable (_ ∨ _))

theorem refusal_not_place {other : OnecStatus} {normalized normalized' : String}
    (refused : firstOf refusalTests normalized = some status)
    (placed : firstOf filterPlaceTests normalized' = some other) : status ≠ other := by
  have at_refusals := mem_of_firstOf refused
  have at_places := mem_of_firstOf placed
  rintro rfl
  revert at_refusals at_places
  cases status <;> decide

theorem places_eq_iff (normalized : String) :
    firstOf shownPlaceTests normalized = firstOf filterPlaceTests normalized ↔
      ¬(JsString.includes normalized "котгруз" = true ∧
        JsString.includes normalized "кобеспеч" = true) := by
  cases ship : JsString.includes normalized "котгруз" <;>
    cases supply : JsString.includes normalized "кобеспеч" <;>
      simp [firstOf, shownPlaceTests, filterPlaceTests, ship, supply]

theorem places_isSome_eq (normalized : String) :
    (firstOf shownPlaceTests normalized).isSome = (firstOf filterPlaceTests normalized).isSome := by
  rw [firstOf_isSome, firstOf_isSome, Bool.eq_iff_iff, includesAny, includesAny, List.any_eq_true,
    List.any_eq_true]
  have same (test : StatusTest) : test ∈ shownPlaceTests ↔ test ∈ filterPlaceTests :=
    (by decide : shownPlaceTests.Perm filterPlaceTests).mem_iff
  simp only [same]

theorem or_cancel {a b c : Option OnecStatus} (same : a.isSome = b.isSome) :
    a.or c = b.or c ↔ a = b := by
  cases a <;> cases b <;> simp at same ⊢

theorem known_eq_filter_iff : mapKnownOnecOrderStatus value = mapOnecOrderStatusForFilter value ↔
    NamesStage value ∨ ¬TwoMeanings value := by
  rw [mapKnownOnecOrderStatus, mapOnecOrderStatusForFilter, NamesStage, TwoMeanings]
  generalize normalizedStatus value = normalized
  by_cases empty : normalized = ""
  · rw [if_pos empty, if_pos empty, empty]
    exact iff_of_true rfl (.inr (by decide))
  simp only [if_neg empty, firstOf_append]
  rw [← firstOf_isSome, ← firstOf_isSome, ← firstOf_isSome]
  cases stage : firstOf stageTests normalized with
  | some status => simp
  | none =>
    cases refusal : firstOf refusalTests normalized with
    | none =>
      simp only [Option.none_or, Option.isSome_none, Bool.false_eq_true, false_and, false_or]
      exact (or_cancel (places_isSome_eq normalized)).trans (places_eq_iff normalized)
    | some status =>
      cases place : firstOf filterPlaceTests normalized with
      | none =>
        refine iff_of_true (by simp) (.inr ?_)
        rintro (⟨_, placed⟩ | ⟨ship, _⟩)
        · cases placed
        · have named : includesAny filterPlaceTests normalized = true := by
            simp [includesAny, filterPlaceTests, ship]
          rw [← firstOf_isSome, place] at named
          cases named
      | some other =>
        simp [refusal_not_place refusal place]

theorem known_none : mapKnownOnecOrderStatus none = none := by decide

theorem known_isSome_eq :
    (mapKnownOnecOrderStatus value).isSome = (mapOnecOrderStatusForFilter value).isSome := by
  rw [mapKnownOnecOrderStatus, mapOnecOrderStatusForFilter]
  generalize normalizedStatus value = normalized
  by_cases empty : normalized = ""
  · rw [if_pos empty, if_pos empty]
  simp only [if_neg empty, firstOf_append, Option.isSome_or, places_isSome_eq]
  cases (firstOf stageTests normalized).isSome <;> cases (firstOf refusalTests normalized).isSome <;>
    simp

end Texts

section LiveOrders

inductive OrderOrigin where
  | onec | merged | ofApp
  deriving DecidableEq, Repr

structure OrderStatusFields where
  status : Option String
  number1c : Option String
  origin : Option OrderOrigin
  status1c : Option String
  currentState1c : Option String

def orText (a b : Option String) : Option String := if isSet a then a else b

def getOrderDisplayStatusForFilter (order : OrderStatusFields) : String :=
  let onecText := orText order.currentState1c order.status1c
  let isOnecBacked := isSet order.number1c || order.origin == some .onec ||
    order.origin == some .merged
  let ofText := (mapOnecOrderStatusForFilter onecText).map OnecStatus.code
  if isOnecBacked && isSet onecText then (orText ofText (orText order.status onecText)).getD ""
  else (orText order.status (orText ofText (some "DRAFT"))).getD ""

def statusFilterMatches (statusFilters : List String) (order : OrderStatusFields) : Bool :=
  statusFilters.isEmpty || statusFilters.contains (getOrderDisplayStatusForFilter order)

def appStatuses : List String :=
  ["DRAFT", "QUEUED", "SENT_TO_1C", "CONFIRMED", "PARTIAL", "REJECTED", "CANCELLED",
    "AWAITING_APPROVAL", "AWAITING_ADVANCE_BEFORE_SUPPLY", "READY_FOR_SUPPLY",
    "AWAITING_PREPAYMENT_BEFORE_SHIPMENT", "AWAITING_SUPPLY", "READY_FOR_SHIPMENT",
    "SHIPPING_IN_PROGRESS", "AWAITING_PAYMENT_AFTER_SHIPMENT", "READY_TO_CLOSE", "NOT_CONFIRMED",
    "TO_SUPPLY", "TO_SHIP", "IN_RESERVE", "TO_FULFILLMENT", "COMPLETED", "CLOSED"]

variable (js : JsConversions) (record : RecordValue)

def state1c : Option String :=
  text js record ["currentState1c", "currentState", "state1c", "stateName", "Состояние"] none

def raw1c : Option String := text js record ["status1c", "Статус"] none

def unrecognisedStatus : String :=
  let raw := text js record ["status", "statusCode"] none
  let candidate := JsString.toUpperCase (JsString.trim (raw.getD ""))
  if appStatuses.contains candidate then candidate
  else ((((mapKnownOnecOrderStatus raw).map OnecStatus.code).or (state1c js record)).or
    (raw1c js record)).getD
      (if bool (some record) ["isPostedIn1c", "isPosted", "posted", "Проведен"] false then
        "CONFIRMED"
      else "SENT_TO_1C")

def mapOrderStatus : String :=
  (((mapKnownOnecOrderStatus (state1c js record)).or
    (mapKnownOnecOrderStatus (raw1c js record))).map OnecStatus.code).getD
      (unrecognisedStatus js record)

/-- `mapClientOrder`, as far as the filter of statuses reads its result. -/
def liveOrder (origin : OrderOrigin) : OrderStatusFields where
  status := some (mapOrderStatus js record)
  number1c := text js record ["number1c", "documentNumber", "number", "Номер"] none
  origin := some origin
  status1c := (state1c js record).or (raw1c js record)
  currentState1c := state1c js record

/-- The text of 1C that the shown status was recognised in. -/
def ShownFrom (value : Option String) : Prop :=
  (mapKnownOnecOrderStatus value).isSome = true ∧
    (state1c js record = value ∨
      mapKnownOnecOrderStatus (state1c js record) = none ∧ raw1c js record = value)

variable {t : String}

theorem givenText_ne (given : (state1c js record).or (raw1c js record) = some t) :
    t ≠ "" := by
  rcases Option.or_eq_some_iff.mp given with state | ⟨_, raw⟩
  · exact text_ne js state
  · exact text_ne js raw

theorem unrecognisedStatus_ne : unrecognisedStatus js record ≠ "" := by
  unfold unrecognisedStatus
  dsimp only
  split
  · next listed =>
    intro empty
    rw [empty] at listed
    exact absurd listed (by decide)
  cases mapKnownOnecOrderStatus (text js record ["status", "statusCode"] none) with
  | some status =>
    rw [Option.map_some, Option.some_or, Option.some_or, Option.getD_some]
    exact status.code_ne
  | none =>
    rw [Option.map_none, Option.none_or]
    cases given : (state1c js record).or (raw1c js record) with
    | some t =>
      rw [Option.getD_some]
      exact givenText_ne js record given
    | none =>
      rw [Option.getD_none]
      split <;> decide

theorem mapOrderStatus_ne : mapOrderStatus js record ≠ "" := by
  unfold mapOrderStatus
  cases (mapKnownOnecOrderStatus (state1c js record)).or
      (mapKnownOnecOrderStatus (raw1c js record)) with
  | some status =>
    rw [Option.map_some, Option.getD_some]
    exact status.code_ne
  | none =>
    rw [Option.map_none, Option.getD_none]
    exact unrecognisedStatus_ne js record

theorem isSet_of_ne (nonempty : t ≠ "") : isSet (some t) = true := by
  simpa [isSet] using nonempty

theorem orText_some (nonempty : t ≠ "") (b : Option String) :
    orText (some t) b = some t := if_pos (isSet_of_ne nonempty)

theorem orText_none (b : Option String) : orText none b = b := rfl

theorem mapOrderStatus_of_known (given : (state1c js record).or (raw1c js record) = some t)
    (known : mapKnownOnecOrderStatus (some t) = some status) :
    mapOrderStatus js record = status.code := by
  cases state : state1c js record with
  | some s =>
    rw [state, Option.some_or, Option.some.injEq] at given
    rw [mapOrderStatus, state, given, known, Option.some_or, Option.map_some, Option.getD_some]
  | none =>
    rw [state, Option.none_or] at given
    rw [mapOrderStatus, state, given, known_none, known, Option.none_or, Option.map_some,
      Option.getD_some]

/-- The filter of a live order is its shown status, unless the chains differ on its text. -/
theorem filter_eq_shown_iff {origin : OrderOrigin} (live : origin ≠ .ofApp) :
    getOrderDisplayStatusForFilter (liveOrder js record origin) = mapOrderStatus js record ↔
      ∀ t, (state1c js record).or (raw1c js record) = some t →
        mapKnownOnecOrderStatus (some t) = mapOnecOrderStatusForFilter (some t) := by
  have backed : (isSet (liveOrder js record origin).number1c ||
      (liveOrder js record origin).origin == some .onec ||
      (liveOrder js record origin).origin == some .merged) = true := by
    cases origin <;> first | exact absurd rfl live | simp [liveOrder]
  have onecText : orText (liveOrder js record origin).currentState1c
      (liveOrder js record origin).status1c = (state1c js record).or (raw1c js record) := by
    unfold liveOrder
    cases state : state1c js record with
    | none => rfl
    | some t => exact orText_some (text_ne js state) _
  have status (other : Option String) : orText (liveOrder js record origin).status other =
      some (mapOrderStatus js record) := orText_some (mapOrderStatus_ne js record) other
  rw [getOrderDisplayStatusForFilter, onecText, backed, Bool.true_and]
  cases given : (state1c js record).or (raw1c js record) with
  | none =>
    refine iff_of_true ?_ fun t absent => nomatch absent
    rw [if_neg (by decide), status, Option.getD_some]
  | some t =>
    rw [if_pos (isSet_of_ne (givenText_ne js record given))]
    have agree : (∀ u, some t = some u →
        mapKnownOnecOrderStatus (some u) = mapOnecOrderStatusForFilter (some u)) ↔
        mapKnownOnecOrderStatus (some t) = mapOnecOrderStatusForFilter (some t) := by simp
    rw [agree]
    have same := known_isSome_eq (some t)
    cases filter : mapOnecOrderStatusForFilter (some t) with
    | none =>
      rw [filter, Option.isSome_none, Option.isSome_eq_false_iff, Option.isNone_iff_eq_none] at same
      rw [same, Option.map_none, orText_none, status, Option.getD_some]
      exact iff_of_true rfl rfl
    | some listed =>
      rw [filter] at same
      obtain ⟨shown, known⟩ := Option.isSome_iff_exists.mp same
      rw [Option.map_some, orText_some listed.code_ne, Option.getD_some,
        mapOrderStatus_of_known js record given known, known, Option.some.injEq]
      exact ⟨fun codes => (OnecStatus.code_inj codes).symm, fun same => congrArg _ same.symm⟩

end LiveOrders

/-- The shown status and the filter have one meaning of a text, for live orders too, exactly when it
names a stage, or has not two meanings. -/
theorem one_meaning_iff (value : Option String) :
    (mapKnownOnecOrderStatus value = mapOnecOrderStatusForFilter value ∧
      ∀ (js : JsConversions) (record : RecordValue) (origin : OrderOrigin), origin ≠ .ofApp →
        ShownFrom js record value →
        statusFilterMatches [mapOrderStatus js record] (liveOrder js record origin) = true) ↔
      NamesStage value ∨ ¬TwoMeanings value := by
  rw [← known_eq_filter_iff]
  refine and_iff_left_of_imp fun agree js record origin live shown => ?_
  have listed : getOrderDisplayStatusForFilter (liveOrder js record origin) =
      mapOrderStatus js record := by
    refine (filter_eq_shown_iff js record live).mpr fun t given => ?_
    obtain ⟨recognised, from_text⟩ := shown
    cases state : state1c js record with
    | none =>
      rw [state, Option.none_or] at given
      rcases from_text with first | ⟨_, second⟩
      · -- No text at all is not recognised.
        rw [← first, state, known_none] at recognised
        cases recognised
      · rw [← given, second]
        exact agree
    | some s =>
      rw [state, Option.some_or] at given
      rcases from_text with first | ⟨unknown, _⟩
      · rw [← given, ← state, first]
        exact agree
      · rw [state, given] at unknown
        have same := known_isSome_eq (some t)
        rw [unknown, Option.isSome_none] at same
        rw [unknown, Option.isNone_iff_eq_none.mp (Option.isSome_eq_false_iff.mp same.symm)]
  simp [statusFilterMatches, listed]

namespace Sample

def partlyReserved : RecordValue := [("currentState1c", .string "Частично зарезервирован")]

end Sample

/-- A partly reserved order is shown as partial, and listed among the reserved ones. -/
theorem partly_reserved_has_two_meanings :
    mapKnownOnecOrderStatus (some "Частично зарезервирован") = some .partialState ∧
      mapOnecOrderStatusForFilter (some "Частично зарезервирован") = some .inReserve ∧
      mapOrderStatus Sample.ofTexts Sample.partlyReserved = "PARTIAL" ∧
      statusFilterMatches ["PARTIAL"] (liveOrder Sample.ofTexts Sample.partlyReserved .onec) =
        false := by
  have normalized : normalizedStatus (some "Частично зарезервирован") = "частичнозарезервирован" := by
    decide +kernel
  have known : mapKnownOnecOrderStatus (some "Частично зарезервирован") = some .partialState := by
    rw [mapKnownOnecOrderStatus, normalized]
    decide +kernel
  have filter : mapOnecOrderStatusForFilter (some "Частично зарезервирован") =
      some .inReserve := by
    rw [mapOnecOrderStatusForFilter, normalized]
    decide +kernel
  have given : (state1c Sample.ofTexts Sample.partlyReserved).or
      (raw1c Sample.ofTexts Sample.partlyReserved) = some "Частично зарезервирован" := by
    decide +kernel
  have shown := mapOrderStatus_of_known Sample.ofTexts Sample.partlyReserved given known
  refine ⟨known, filter, shown, ?_⟩
  have differs : getOrderDisplayStatusForFilter
      (liveOrder Sample.ofTexts Sample.partlyReserved .onec) ≠ "PARTIAL" := fun same => by
    have agree := (filter_eq_shown_iff _ _ (by decide)).mp (same.trans shown.symm) _ given
    rw [known, filter] at agree
    cases agree
  simpa [statusFilterMatches] using differs

end OnecLive
end LeaderProduct
