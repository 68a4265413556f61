import Mathlib.Logic.Basic
import LeaderProduct.ManagerActions
import LeaderProduct.Register

/-! The mutations of a mobile client, delivered in any order and any number of times. The
row that they make is a versioned register: its version is the client's revision, its tag
the payload's digest, its flag the place in the export queue. While the deliveries run,
the reference tables and the default delivery date stay as they are. -/
namespace LeaderProduct
open Transition

structure Mutation where
  body : ClientOrderMutationBody
  payloadHash : String
  hashed : payloadHash ≠ ""

structure MutationDelivery where
  mutation : Mutation
  fresh : FreshIds
  now : Instant

section Deliveries
variable (key : ClientOrderKey) (refs : OrderReferences) (date : Instant)

def putResult (slot : Option Order) (d : MutationDelivery) : Except ClientOrdersError TxOutcome :=
  putClientOrderByClientId key d.mutation.payloadHash d.mutation.body refs d.fresh
    ⟨d.now, date⟩ slot

def deliverMutation (slot : Option Order) (d : MutationDelivery) : Option Order :=
  match slot with
  | none => created (putResult key refs date none d)
  | some order => some (commit order (putResult key refs date (some order) d))

def answeredMutations : Option Order → List MutationDelivery → List Mutation
  | _, [] => []
  | slot, d :: rest =>
    match putResult key refs date slot d with
    | .ok _ => d.mutation ::
        answeredMutations (deliverMutation key refs date slot d) rest
    | .error _ => answeredMutations (deliverMutation key refs date slot d) rest

def mutationContent (m : Mutation) : Except ClientOrdersError OrderContent :=
  prepareOrder refs m.body.toClientOrderCreateBody ⟨0, date⟩

def mutationMessage (m : Mutation) : Register.Message String OrderContent where
  version := m.body.clientRevision
  tag := m.payloadHash
  raises := m.body.intent == .submit
  loads := (refs.loadLiveOrderMaterialization m.body.toClientOrderCreateBody).isOk
  value := (mutationContent refs date m).toOption

def orderCell (order : Order) : Register.Cell String OrderContent where
  version := order.clientRevision.getD 0
  tag := order.clientPayloadHash.getD ""
  value := order.content
  raised := isOrderQueued order

def submittable (content : OrderContent) : Bool := decide (Submittable content)

structure PutOnly (order : Order) : Prop where
  owned : Owned key order
  editable : Editable order
  revised : order.clientRevision.isSome = true
  hashed : isSet order.clientPayloadHash = true
  requested : order.submitRequestedAt.isSome = isOrderQueued order
  queued : (order.status == .queued) = isOrderQueued order
  unsent : order.status ≠ .sentTo1c

variable {key refs date}

variable {m : Mutation} {order : Order} {d : MutationDelivery} {slot : Option Order}
    {M : List Mutation} {ds : List MutationDelivery}

theorem mutationMessage_loads :
    (mutationMessage refs date m).loads = true ↔
      refs.loadLiveOrderMaterialization m.body.toClientOrderCreateBody = .ok () := by
  simp only [mutationMessage]
  cases refs.loadLiveOrderMaterialization m.body.toClientOrderCreateBody with
  | error e => simp [Except.isOk, Except.toBool]
  | ok u => simp [Except.isOk, Except.toBool]

theorem mutationMessage_value {content : OrderContent} (now : Instant) :
    (mutationMessage refs date m).value = some content ↔
      prepareOrder refs m.body.toClientOrderCreateBody ⟨now, date⟩ =
        .ok content := by
  have clockless : prepareOrder refs m.body.toClientOrderCreateBody ⟨now, date⟩ =
      mutationContent refs date m := rfl
  rw [clockless]
  simp only [mutationMessage]
  cases mutationContent refs date m with
  | error e => simp [Except.toOption]
  | ok content => simp [Except.toOption]

theorem shouldQueue_put (put : PutOnly key order) (intent : Intent) :
    shouldQueue intent (some order) = (intent == .submit || (orderCell order).raised) := by
  have unsent : (order.status == .sentTo1c) = false := beq_eq_false_iff_ne.mpr put.unsent
  simp [shouldQueue, orderCell, put.requested, put.queued, unsent]

variable (refs date) in
theorem resolveDelivery_put (put : PutOnly key order) (m : Mutation) :
    resolveDelivery m.payloadHash m.body order =
      let message := mutationMessage refs date m
      if message.version < (orderCell order).version then .ok .answered
      else if message.version = (orderCell order).version then
        if message.tag ≠ (orderCell order).tag then
          .error ⟨409, .conflict, "Одна версия документа содержит разные данные. " ++
            "Обновите документ и повторите действие."⟩
        else if !message.raises || (orderCell order).raised then .ok .answered
        else .ok .submit
      else .ok .content := by
  have mismatch : (isSet order.clientPayloadHash = true ∧
      order.clientPayloadHash ≠ some m.payloadHash) ↔ m.payloadHash ≠ (orderCell order).tag := by
    have set := put.hashed
    cases stored : order.clientPayloadHash with
    | none => simp [stored, isSet] at set
    | some hash =>
      rw [stored] at set
      simp [set, orderCell, stored, eq_comm]
  have idle : (m.body.intent = .save ∨ isOrderQueued order = true ∨
      order.submitRequestedAt.isSome = true) ↔
        (!(m.body.intent == .submit) || (orderCell order).raised) = true := by
    rw [put.requested, or_self, orderCell]
    cases m.body.intent <;> simp
  simp only [resolveDelivery, mismatch, idle]
  rfl

structure Simulates (key : ClientOrderKey) (refs : OrderReferences) (date : Instant)
    (slot : Option Order) (d : MutationDelivery) : Prop where
  put : ∀ order, deliverMutation key refs date slot d = some order →
    PutOnly key order
  cell : (deliverMutation key refs date slot d).map orderCell =
    Register.deliver submittable (slot.map orderCell)
      (mutationMessage refs date d.mutation)
  answered : (∃ out, putResult key refs date slot d = .ok out) ↔
    (Register.offer submittable (slot.map orderCell)
      (mutationMessage refs date d.mutation)).isSome = true
  changed : deliverMutation key refs date slot d = slot ∨
    (deliverMutation key refs date slot d).map orderCell ≠ slot.map orderCell

theorem simulates_unchanged (put : PutOnly key order)
    (result : putResult key refs date (some order) d = .ok .unchanged)
    (offered : Register.offer submittable (some (orderCell order))
      (mutationMessage refs date d.mutation) = some (orderCell order)) :
    Simulates key refs date (some order) d := by
  have same : deliverMutation key refs date (some order) d = some order := by
    simp [deliverMutation, result, commit]
  constructor
  case put =>
    rw [same]
    rintro _ ⟨⟩
    exact put
  case cell => rw [same, Option.map_some, Register.deliver, offered, Option.some_or]
  case answered => simp [result, offered]
  case changed => exact .inl same

theorem simulates_refused (put : ∀ order, slot = some order → PutOnly key order)
    (result : ∀ out, putResult key refs date slot d ≠ .ok out)
    (offered : Register.offer submittable (slot.map orderCell)
      (mutationMessage refs date d.mutation) = none) :
    Simulates key refs date slot d := by
  have same : deliverMutation key refs date slot d = slot := by
    cases failed : putResult key refs date slot d with
    | ok out => exact absurd failed (result out)
    | error e => cases slot <;> simp [deliverMutation, failed, commit, created]
  constructor
  case put => rwa [same]
  case cell => rw [same, Register.deliver, offered, Option.none_or]
  case answered => simp [result, offered]
  case changed => exact .inl same

theorem simulates_write {w : OrderWrite} (put : PutOnly key (w.apply order))
    (result : putResult key refs date (some order) d = .ok (.write w))
    (offered : Register.offer submittable (some (orderCell order))
      (mutationMessage refs date d.mutation) = some (orderCell (w.apply order)))
    (other : orderCell (w.apply order) ≠ orderCell order) :
    Simulates key refs date (some order) d := by
  have after : deliverMutation key refs date (some order) d =
      some (w.apply order) := by
    simp [deliverMutation, result, commit]
  constructor
  case put =>
    rw [after]
    rintro _ ⟨⟩
    exact put
  case cell =>
    rw [after, Option.map_some, Option.map_some, Register.deliver, offered, Option.some_or]
  case answered => simp [result, offered]
  case changed =>
    rw [after]
    exact .inr (by simpa using other)

theorem store_mutation {raised : Bool} {c : Register.Cell String OrderContent} (now : Instant) :
    Register.store submittable raised (mutationMessage refs date m) = some c ↔
      refs.loadLiveOrderMaterialization m.body.toClientOrderCreateBody = .ok () ∧
        ∃ content,
          prepareOrder refs m.body.toClientOrderCreateBody ⟨now, date⟩ =
            .ok content ∧
          (raised = true → Submittable content) ∧
          c = ⟨m.body.clientRevision, m.payloadHash, content, raised⟩ := by
  simp only [Register.store_eq_some, mutationMessage_loads, mutationMessage_value now, submittable,
    decide_eq_true_eq]
  rfl

def mutationOrder (key : ClientOrderKey) (d : MutationDelivery) (content : OrderContent) : Order :=
  putData none d.mutation.payloadHash d.mutation.body content d.now
    (blankOrder d.fresh key.userId (some key.clientOrderId) content)

theorem putOnly_mutationOrder (d : MutationDelivery) (content : OrderContent) :
    PutOnly key (mutationOrder key d content) where
  owned := ⟨rfl, rfl⟩
  editable := ⟨rfl, rfl⟩
  revised := rfl
  hashed := by simp [mutationOrder, putData, isSet, d.mutation.hashed]
  requested := by
    simp only [mutationOrder, putData, isOrderQueued]
    cases shouldQueue d.mutation.body.intent none <;> rfl
  queued := by
    simp only [mutationOrder, putData, isOrderQueued]
    cases shouldQueue d.mutation.body.intent none <;> rfl
  unsent := by
    simp only [mutationOrder, putData]
    split <;> simp

theorem orderCell_mutationOrder (d : MutationDelivery) (content : OrderContent) :
    orderCell (mutationOrder key d content) =
      ⟨d.mutation.body.clientRevision, d.mutation.payloadHash, content,
        d.mutation.body.intent == .submit⟩ := by
  have raised : isOrderQueued (mutationOrder key d content) =
      (d.mutation.body.intent == .submit) := by
    simp only [mutationOrder, putData, isOrderQueued, shouldQueue]
    cases d.mutation.body.intent <;> rfl
  simp only [orderCell, raised]
  rfl

theorem simulates_none (d : MutationDelivery) :
    Simulates key refs date none d := by
  have queue : (d.mutation.body.intent == .submit) = true ↔ d.mutation.body.intent = .submit :=
    beq_iff_eq
  cases offered : Register.offer submittable ((none : Option Order).map orderCell)
      (mutationMessage refs date d.mutation) with
  | none =>
    have refused : ∀ out, putResult key refs date none d ≠ .ok out := by
      intro out result
      obtain ⟨loaded, content, prepared, whole, _⟩ := (putClientOrderByClientId_new rfl).mp result
      have stored := (store_mutation d.now).mpr
        ⟨loaded, content, prepared, fun raised => whole (queue.mp raised), rfl⟩
      cases offered.symm.trans stored
    exact simulates_refused (fun _ h => by cases h) refused offered
  | some c =>
    obtain ⟨loaded, content, prepared, whole, rfl⟩ := (store_mutation d.now).mp offered
    have result : putResult key refs date none d =
        .ok (.create (mutationOrder key d content)) :=
      (putClientOrderByClientId_new rfl).mpr
        ⟨loaded, content, prepared, fun intent => whole (queue.mpr intent), rfl⟩
    have after : deliverMutation key refs date none d =
        some (mutationOrder key d content) := by
      simp [deliverMutation, result, created]
    constructor
    case put =>
      rw [after]
      rintro _ ⟨⟩
      exact putOnly_mutationOrder d content
    case cell =>
      rw [after, Register.deliver, offered, Option.map_some, orderCell_mutationOrder,
        Option.some_or]
      rfl
    case answered =>
      rw [offered]
      simp [result]
    case changed =>
      rw [after]
      exact .inr (by simp)

section
variable (put : PutOnly key order)
include put

theorem putOnly_putSubmittedOrder (now : Instant) :
    PutOnly key ((putSubmittedOrder order now).apply order) where
  owned := put.owned
  editable := put.editable
  revised := put.revised
  hashed := put.hashed
  requested := rfl
  queued := rfl
  unsent := by simp [OrderWrite.apply, putSubmittedOrder]

theorem putOnly_putOrder (m : Mutation) (content : OrderContent) (now : Instant) :
    PutOnly key ((putOrder order m.payloadHash m.body content now).apply order) where
  owned := put.owned
  editable := put.editable
  revised := rfl
  hashed := by simp [OrderWrite.apply, putOrder, putData, isSet, m.hashed]
  requested := by
    simp only [OrderWrite.apply, putOrder, putData, isOrderQueued]
    cases shouldQueue m.body.intent (some order) with
    | true => cases requested : order.submitRequestedAt <;> simp [requested]
    | false => rfl
  queued := by
    simp only [OrderWrite.apply, putOrder, putData, isOrderQueued]
    cases shouldQueue m.body.intent (some order) <;> rfl
  unsent := by
    simp only [OrderWrite.apply, putOrder, putData]
    split <;> simp

theorem orderCell_putOrder (m : Mutation) (content : OrderContent) (now : Instant) :
    orderCell ((putOrder order m.payloadHash m.body content now).apply order) =
      ⟨m.body.clientRevision, m.payloadHash, content,
        m.body.intent == .submit || (orderCell order).raised⟩ := by
  have raised : isOrderQueued ((putOrder order m.payloadHash m.body content now).apply order) =
      (m.body.intent == .submit || (orderCell order).raised) := by
    rw [← shouldQueue_put put]
    simp only [OrderWrite.apply, putOrder, putData, isOrderQueued]
    cases shouldQueue m.body.intent (some order) <;> rfl
  simp only [orderCell, raised]
  rfl

theorem simulates_submit (accepted : ∀ out, putResult key refs date (some order) d = .ok out ↔
      PutAccepted d.mutation.payloadHash d.mutation.body refs ⟨d.now, date⟩
        order out .submit) (older : ¬(mutationMessage refs date d.mutation).version <
      (orderCell order).version)
    (level : (mutationMessage refs date d.mutation).version =
      (orderCell order).version)
    (tag : ¬(mutationMessage refs date d.mutation).tag ≠ (orderCell order).tag)
    (idle : ¬(!(mutationMessage refs date d.mutation).raises ||
      (orderCell order).raised) = true) :
    Simulates key refs date (some order) d := by
  have offered : Register.offer submittable (some (orderCell order))
      (mutationMessage refs date d.mutation) =
        if (mutationMessage refs date d.mutation).loads &&
            submittable (orderCell order).value then
          some { orderCell order with raised := true }
        else none := by
    simp only [Register.offer, if_neg older, if_pos level, if_neg tag, if_neg idle]
  by_cases whole : ((mutationMessage refs date d.mutation).loads &&
      submittable (orderCell order).value) = true
  · rw [if_pos whole] at offered
    obtain ⟨loads, complete⟩ := Bool.and_eq_true_iff.mp whole
    have result := (accepted _).mpr
      ⟨mutationMessage_loads.mp loads, put.editable, of_decide_eq_true complete, rfl⟩
    have other : orderCell ((putSubmittedOrder order d.now).apply order) ≠ orderCell order := by
      intro same
      have raised : true = (orderCell order).raised := congrArg Register.Cell.raised same
      simp [← raised] at idle
    exact simulates_write (putOnly_putSubmittedOrder put d.now) result offered other
  · rw [if_neg whole] at offered
    have refused : ∀ out, putResult key refs date (some order) d ≠ .ok out := by
      intro out result
      obtain ⟨loaded, _, complete, _⟩ := (accepted out).mp result
      exact whole (Bool.and_eq_true_iff.mpr
        ⟨mutationMessage_loads.mpr loaded, decide_eq_true complete⟩)
    exact simulates_refused (by rintro _ ⟨⟩; exact put) refused offered

theorem simulates_content (accepted : ∀ out, putResult key refs date (some order) d = .ok out ↔
      PutAccepted d.mutation.payloadHash d.mutation.body refs ⟨d.now, date⟩
        order out .content)
    (older : ¬(mutationMessage refs date d.mutation).version <
      (orderCell order).version)
    (level : ¬(mutationMessage refs date d.mutation).version =
      (orderCell order).version) :
    Simulates key refs date (some order) d := by
  have offered : Register.offer submittable (some (orderCell order))
      (mutationMessage refs date d.mutation) =
        Register.store submittable ((mutationMessage refs date d.mutation).raises ||
          (orderCell order).raised) (mutationMessage refs date d.mutation) := by
    simp only [Register.offer, if_neg older, if_neg level]
  have queue : shouldQueue d.mutation.body.intent (some order) =
      ((mutationMessage refs date d.mutation).raises || (orderCell order).raised) :=
    shouldQueue_put put d.mutation.body.intent
  cases stored : Register.store submittable
      ((mutationMessage refs date d.mutation).raises || (orderCell order).raised)
      (mutationMessage refs date d.mutation) with
  | none =>
    have refused : ∀ out, putResult key refs date (some order) d ≠ .ok out := by
      intro out result
      obtain ⟨loaded, _, content, prepared, complete, _⟩ := (accepted out).mp result
      rw [queue] at complete
      cases stored.symm.trans
        ((store_mutation d.now).mpr ⟨loaded, content, prepared, complete, rfl⟩)
    exact simulates_refused (by rintro _ ⟨⟩; exact put) refused (offered.trans stored)
  | some c =>
    obtain ⟨loaded, content, prepared, complete, rfl⟩ := (store_mutation d.now).mp stored
    rw [← queue] at complete
    have cell := orderCell_putOrder put d.mutation content d.now
    have result := (accepted _).mpr ⟨loaded, put.editable, content, prepared, complete, rfl⟩
    have made : Register.offer submittable (some (orderCell order))
        (mutationMessage refs date d.mutation) =
          some (orderCell ((putOrder order d.mutation.payloadHash d.mutation.body content
            d.now).apply order)) := by
      rw [offered, stored, cell]
      rfl
    exact simulates_write (putOnly_putOrder put d.mutation content d.now) result made
      (fun same => level (congrArg Register.Cell.version (cell.symm.trans same)))

theorem simulates_some (d : MutationDelivery) :
    Simulates key refs date (some order) d := by
  have accepted : ∀ out, putResult key refs date (some order) d = .ok out ↔
      ∃ delivery, resolveDelivery d.mutation.payloadHash d.mutation.body order = .ok delivery ∧
        PutAccepted d.mutation.payloadHash d.mutation.body refs ⟨d.now, date⟩
          order out delivery := fun out => putClientOrderByClientId_existing put.owned
  rw [resolveDelivery_put refs date put] at accepted
  dsimp only at accepted
  by_cases older : (mutationMessage refs date d.mutation).version <
      (orderCell order).version
  · simp only [if_pos older, Except.ok.injEq, exists_eq_left'] at accepted
    exact simulates_unchanged put ((accepted _).mpr rfl)
      (by simp only [Register.offer, if_pos older])
  by_cases level : (mutationMessage refs date d.mutation).version =
      (orderCell order).version
  · by_cases tag : (mutationMessage refs date d.mutation).tag ≠ (orderCell order).tag
    · simp only [if_neg older, if_pos level, if_pos tag, reduceCtorEq, false_and, exists_false,
        iff_false] at accepted
      refine simulates_refused (by rintro _ ⟨⟩; exact put) accepted ?_
      simp only [Option.map_some, Register.offer, if_neg older, if_pos level, if_pos tag]
    by_cases idle : (!(mutationMessage refs date d.mutation).raises ||
        (orderCell order).raised) = true
    · simp only [if_neg older, if_pos level, if_neg tag, if_pos idle, Except.ok.injEq,
        exists_eq_left'] at accepted
      refine simulates_unchanged put ((accepted _).mpr rfl) ?_
      simp only [Register.offer, if_neg older, if_pos level, if_neg tag, if_pos idle]
    · simp only [if_neg older, if_pos level, if_neg tag, if_neg idle, Except.ok.injEq,
        exists_eq_left'] at accepted
      exact simulates_submit put accepted older level tag idle
  · simp only [if_neg older, if_neg level, Except.ok.injEq, exists_eq_left'] at accepted
    exact simulates_content put accepted older level

end

theorem simulates (put : ∀ order, slot = some order → PutOnly key order) (d : MutationDelivery) :
    Simulates key refs date slot d := by
  cases slot with
  | none => exact simulates_none d
  | some order => exact simulates_some (put order rfl) d

variable (key refs date) in
theorem simulates_run (ds : List MutationDelivery)
    (put : ∀ order, slot = some order → PutOnly key order) :
    (∀ order, run (deliverMutation key refs date) slot ds = some order →
      PutOnly key order) ∧
    (run (deliverMutation key refs date) slot ds).map orderCell =
      run (Register.deliver submittable) (slot.map orderCell)
        (ds.map (fun d => mutationMessage refs date d.mutation)) ∧
    (answeredMutations key refs date slot ds).map
      (mutationMessage refs date) =
      Register.answered submittable (slot.map orderCell)
        (ds.map (fun d => mutationMessage refs date d.mutation)) := by
  induction ds generalizing slot with
  | nil => exact ⟨put, rfl, rfl⟩
  | cons d rest ih =>
    have step : Simulates key refs date slot d := simulates put d
    obtain ⟨kept, cells, answers⟩ := ih step.put
    rw [step.cell] at cells answers
    refine ⟨kept, cells, ?_⟩
    simp only [List.map_cons, Register.answered, answeredMutations]
    cases result : putResult key refs date slot d with
    | ok out => rw [if_pos (step.answered.mp ⟨out, result⟩), List.map_cons, answers]
    | error e =>
      have refused : ¬(Register.offer submittable (slot.map orderCell)
          (mutationMessage refs date d.mutation)).isSome = true := by
        intro taken
        obtain ⟨out, ok⟩ := step.answered.mpr taken
        cases result.symm.trans ok
      rw [if_neg refused, answers]

variable (key refs date)

structure DeliversAll (M : List Mutation) (ds : List MutationDelivery) : Prop where
  only : ∀ d ∈ ds, d.mutation ∈ M
  all : ∀ m ∈ M, ∃ d ∈ ds, d.mutation = m

def queuedAfter (ds : List MutationDelivery) : Bool :=
  (run (deliverMutation key refs date) none ds).any isOrderQueued

/-- What the client's deliveries of a list of mutations leave, whatever their order and
repetitions: the content of the newest answered mutation, nothing for a copy to change,
and one answer to whether the order is queued. -/
structure Converges (M : List Mutation) : Prop where
  content : ∀ ds : List MutationDelivery, (∀ d ∈ ds, d.mutation ∈ M) →
    ∀ m ∈ answeredMutations key refs date none ds,
      (∀ m' ∈ answeredMutations key refs date none ds,
        m'.body.clientRevision ≤ m.body.clientRevision) →
      ∃ order, run (deliverMutation key refs date) none ds = some order ∧
        mutationContent refs date m = .ok order.content
  redelivery : ∀ ds : List MutationDelivery, (∀ d ∈ ds, d.mutation ∈ M) →
    ∀ d ∈ ds, ∀ fresh now,
      deliverMutation key refs date
        (run (deliverMutation key refs date) none ds) ⟨d.mutation, fresh, now⟩ =
      run (deliverMutation key refs date) none ds
  queued : ∀ ds ds' : List MutationDelivery, DeliversAll M ds → DeliversAll M ds' →
    queuedAfter key refs date ds = queuedAfter key refs date ds'

def Storable (m : Mutation) : Prop :=
  refs.loadLiveOrderMaterialization m.body.toClientOrderCreateBody = .ok () ∧
    ∃ content, mutationContent refs date m = .ok content ∧
      (m.body.intent = .submit → Submittable content)

/-- Every SAVE has a SUBMIT of a newer revision, or one of its own revision and digest;
or else nothing is submitted at all. -/
def SavesSubmitted (M : List Mutation) : Prop :=
  (∀ m ∈ M, m.body.intent = .submit → ¬Storable refs date m) ∨
    ∀ m ∈ M, Storable refs date m → m.body.intent = .save →
      ∃ m' ∈ M, Storable refs date m' ∧ m'.body.intent = .submit ∧
        (m.body.clientRevision < m'.body.clientRevision ∨
          (m.body.clientRevision = m'.body.clientRevision ∧ m.payloadHash = m'.payloadHash))

def OnePayloadPerRevision (M : List Mutation) : Prop :=
  ∀ m ∈ M, ∀ m' ∈ M, m.body.clientRevision = m'.body.clientRevision →
    m.body.toClientOrderCreateBody = m'.body.toClientOrderCreateBody

variable {key refs date}

theorem effective_mutationMessage :
    Register.Effective submittable (mutationMessage refs date m) ↔
      Storable refs date m := by
  have raises : (mutationMessage refs date m).raises = true ↔
    m.body.intent = .submit := beq_iff_eq
  simp only [Register.Effective, Storable, mutationMessage_loads, mutationMessage_value 0, raises,
    submittable, decide_eq_true_eq]
  rfl

theorem matched_mutationMessage :
    Register.Matched submittable (M.map (mutationMessage refs date)) ↔
      SavesSubmitted refs date M := by
  have raises : ∀ m : Mutation, (mutationMessage refs date m).raises = true ↔
    m.body.intent = .submit := fun _ => beq_iff_eq
  have saves : ∀ m : Mutation, (mutationMessage refs date m).raises = false ↔
      m.body.intent = .save := by
    intro m
    simp only [mutationMessage]
    cases m.body.intent <;> simp
  simp only [Register.Matched, SavesSubmitted, List.forall_mem_map]
  simp only [List.mem_map, exists_exists_and_eq_and, effective_mutationMessage, raises, saves]
  rfl

variable (refs date) in
theorem agree_mutationMessage (payload : OnePayloadPerRevision M) :
    ∀ a ∈ M.map (mutationMessage refs date),
      ∀ b ∈ M.map (mutationMessage refs date), Register.Agree a b := by
  simp only [List.forall_mem_map]
  intro m member m' member' version
  have same := payload m member m' member' version
  simp only [mutationMessage, mutationContent, same, and_self]

theorem mem_answeredMutations (answered : m ∈ answeredMutations key refs date slot ds) :
    ∃ d ∈ ds, d.mutation = m := by
  induction ds generalizing slot with
  | nil => cases answered
  | cons d rest ih =>
    simp only [answeredMutations] at answered
    split at answered
    · rcases List.mem_cons.mp answered with rfl | later
      · exact ⟨d, List.mem_cons_self, rfl⟩
      · obtain ⟨d', member, same⟩ := ih later
        exact ⟨d', List.mem_cons_of_mem d member, same⟩
    · obtain ⟨d', member, same⟩ := ih answered
      exact ⟨d', List.mem_cons_of_mem d member, same⟩

theorem putOnly_none : ∀ order, (none : Option Order) = some order → PutOnly key order := by
  intro order filled
  cases filled

theorem queuedAfter_flag (ds : List MutationDelivery) :
    queuedAfter key refs date ds =
      Register.flag (run (Register.deliver submittable) none
        (ds.map (fun d => mutationMessage refs date d.mutation))) := by
  have cells := (simulates_run key refs date ds putOnly_none).2.1
  rw [Option.map_none] at cells
  rw [← cells, queuedAfter]
  cases run (deliverMutation key refs date) none ds <;> rfl

theorem newest_content (payload : OnePayloadPerRevision M) (only : ∀ d ∈ ds, d.mutation ∈ M)
    (answered : m ∈ answeredMutations key refs date none ds)
    (newest : ∀ m' ∈ answeredMutations key refs date none ds,
      m'.body.clientRevision ≤ m.body.clientRevision) :
    ∃ order, run (deliverMutation key refs date) none ds = some order ∧
      mutationContent refs date m = .ok order.content := by
  obtain ⟨_, cells, answers⟩ := simulates_run key refs date ds putOnly_none
  rw [Option.map_none] at cells answers
  have held := Register.newest_empty.run submittable
    (ds.map (fun d => mutationMessage refs date d.mutation))
  rw [← answers, ← cells, List.nil_append] at held
  obtain ⟨c, filled, reached⟩ := held.newest _ (List.mem_map_of_mem answered)
  obtain ⟨_, originAnswered, version, value⟩ := held.origin c filled
  obtain ⟨origin, originMember, rfl⟩ := List.mem_map.mp originAnswered
  obtain ⟨order, after, rfl⟩ := Option.map_eq_some_iff.mp filled
  have listed : ∀ a ∈ answeredMutations key refs date none ds, a ∈ M := by
    intro a answered
    obtain ⟨d, delivered, rfl⟩ := mem_answeredMutations answered
    exact only d delivered
  have level : m.body.clientRevision = origin.body.clientRevision :=
    Nat.le_antisymm (Nat.le_trans reached (Nat.le_of_eq version.symm)) (newest origin originMember)
  have same := payload m (listed m answered) origin (listed origin originMember) level
  have stored := (mutationMessage_value 0).mp value
  rw [← same] at stored
  exact ⟨order, after, stored⟩

theorem redelivered (payload : OnePayloadPerRevision M) (only : ∀ d ∈ ds, d.mutation ∈ M)
    (delivered : d ∈ ds) (fresh : FreshIds) (now : Instant) :
    deliverMutation key refs date
        (run (deliverMutation key refs date) none ds) ⟨d.mutation, fresh, now⟩ =
      run (deliverMutation key refs date) none ds := by
  obtain ⟨put, cells, _⟩ := simulates_run key refs date ds putOnly_none
  have spent : Register.Spent submittable (mutationMessage refs date d.mutation)
      ((run (deliverMutation key refs date) none ds).map orderCell) := by
    have listed : ∀ m ∈ ds.map (fun d => mutationMessage refs date d.mutation),
        m ∈ M.map (mutationMessage refs date) := by
      rw [List.forall_mem_map]
      exact fun d here => List.mem_map_of_mem (only d here)
    rw [cells]
    exact Register.spent_of_run (agree_mutationMessage refs date payload) listed
      (List.mem_map_of_mem delivered)
  have step : Simulates key refs date _ ⟨d.mutation, fresh, now⟩ := simulates put _
  have same := step.cell
  rw [spent.deliver] at same
  exact step.changed.resolve_right (fun other => other same)

theorem delivers_mutationMessage (delivers : DeliversAll M ds) :
    Register.Delivers (M.map (mutationMessage refs date))
      (ds.map (fun d => mutationMessage refs date d.mutation)) where
  only := by
    rw [List.forall_mem_map]
    exact fun d here => List.mem_map_of_mem (delivers.only d here)
  all := by
    rw [List.forall_mem_map]
    intro m listed
    obtain ⟨d, delivered, rfl⟩ := delivers.all m listed
    exact List.mem_map.mpr ⟨d, delivered, rfl⟩

def deliveredFirst (m : Mutation) (M : List Mutation) : List MutationDelivery :=
  (m :: M).map (fun mutation => ⟨mutation, ⟨"", ""⟩, 0⟩)

theorem deliversAll_first (listed : m ∈ M) :
    DeliversAll M (deliveredFirst m M) where
  only := by
    simp only [deliveredFirst, List.forall_mem_map, List.forall_mem_cons]
    exact ⟨listed, fun _ here => here⟩
  all m' here := ⟨⟨m', ⟨"", ""⟩, 0⟩,
    List.mem_map.mpr ⟨m', List.mem_cons_of_mem m here, rfl⟩, rfl⟩

variable (key refs date) in
/-- The deliveries of a client converge exactly when its SAVEs are covered by its SUBMITs. -/
theorem mutations_converge_iff (M : List Mutation) (payload : OnePayloadPerRevision M) :
    Converges key refs date M ↔ SavesSubmitted refs date M := by
  have agree := agree_mutationMessage refs date payload
  rw [← matched_mutationMessage]
  constructor
  · intro converges
    apply Register.matched_of_first agree
    simp only [List.forall_mem_map]
    intro m listed m' listed'
    have same := converges.queued _ _ (deliversAll_first listed) (deliversAll_first listed')
    rw [queuedAfter_flag, queuedAfter_flag] at same
    simpa only [deliveredFirst, List.map_map, List.map_cons, Function.comp_def] using same
  · intro matched
    refine ⟨fun ds only m => newest_content payload only, fun ds only d => redelivered payload only,
      fun ds ds' delivers delivers' => ?_⟩
    rw [queuedAfter_flag, queuedAfter_flag]
    exact Register.flag_eq_of_matched agree matched (delivers_mutationMessage delivers)
      (delivers_mutationMessage delivers')

end Deliveries

namespace Sample

def mutation (clientRevision : Nat) (intent : Intent) (quantity : Rat) : Mutation where
  body := ⟨body quantity, clientRevision, intent⟩
  payloadHash := (toString quantity.num).push '#'
  hashed := by simp

def delivery (m : Mutation) (now : Instant) : MutationDelivery :=
  ⟨m, ⟨"order-id", "order-guid"⟩, now⟩

end Sample

theorem submit_of_newer_converges :
    Converges Sample.key Sample.references 100
      [Sample.mutation 1 .save 1, Sample.mutation 2 .submit 2] := by
  have payload :
      OnePayloadPerRevision [Sample.mutation 1 .save 1, Sample.mutation 2 .submit 2] := by
    simp [OnePayloadPerRevision, Sample.mutation]
  refine (mutations_converge_iff Sample.key Sample.references 100 _ payload).mpr (.inr ?_)
  rintro m member _ _
  refine ⟨Sample.mutation 2 .submit 2, by simp,
    ⟨rfl, Sample.content 2, rfl, fun _ => by decide⟩, rfl, .inl ?_⟩
  rcases List.mem_cons.mp member with rfl | later
  · decide
  · cases List.mem_singleton.mp later
    contradiction

/-- Submitted at revision 1 and saved at revision 2: the order is queued when the
mutations arrive in this order, and stays a draft when the save arrives first. -/
theorem save_of_newer_diverges :
    OnePayloadPerRevision [Sample.mutation 1 .submit 1, Sample.mutation 2 .save 2] ∧
      ¬Converges Sample.key Sample.references 100
        [Sample.mutation 1 .submit 1, Sample.mutation 2 .save 2] := by
  refine ⟨by simp [OnePayloadPerRevision, Sample.mutation], fun converges => ?_⟩
  have same := converges.queued
    [Sample.delivery (Sample.mutation 1 .submit 1) 1, Sample.delivery (Sample.mutation 2 .save 2) 2]
    [Sample.delivery (Sample.mutation 2 .save 2) 1, Sample.delivery (Sample.mutation 1 .submit 1) 2]
    ⟨by simp [Sample.delivery], by simp [Sample.delivery]⟩
    ⟨by simp [Sample.delivery], by simp [Sample.delivery]⟩
  revert same
  decide

end LeaderProduct
