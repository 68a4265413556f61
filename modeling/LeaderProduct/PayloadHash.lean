import Mathlib.Data.List.Lex
import Mathlib.Data.Prod.Lex
import Mathlib.Data.String.Basic
import LeaderProduct.CanonicalJson
import LeaderProduct.MutationReplay

/-! The digest by which a mobile mutation is known again. It is taken of the parsed body, less
the client's revision and intent, in canonical form. The order content is what remains of the body
without the reason of the save too, which no field of the row holds. -/
namespace LeaderProduct
open CanonicalJson Transition

def collationKey (text : String) : List Char ×ₗ List Bool :=
  toLex (text.toList.map Char.toLower, text.toList.map Char.isUpper)

def localeCompare (left right : String) : Int :=
  if collationKey left < collationKey right then -1
  else if collationKey right < collationKey left then 1
  else 0

def KeysInOrder (left right : String) : Prop := localeCompare left right ≤ 0

instance : DecidableRel KeysInOrder := fun left right =>
  inferInstanceAs (Decidable (localeCompare left right ≤ 0))

def stableJsonValue (value : Value) : Value := canonical KeysInOrder value

inductive SaveReason where
  | manual | autosave
  deriving DecidableEq, Repr

def SaveReason.text : SaveReason → String
  | .manual => "manual"
  | .autosave => "autosave"

def Intent.text : Intent → String
  | .save => "SAVE"
  | .submit => "SUBMIT"

def revisionText (clientRevision : Nat) : NumberText where
  text := Nat.toDigits 10 clientRevision
  nonempty := Nat.toDigits_ne_nil
  numeric := List.all_eq_true.mpr fun c at_c => by
    simp [isNumeric, Nat.isDigit_of_mem_toDigits (by decide) (by decide) at_c]

structure MutationRequest where
  clientRevision : Nat
  intent : Intent
  saveReason : SaveReason
  content : List (String × Value)
  entries : List (String × Value)
  parts : entries.Perm (("clientRevision", .number (revisionText clientRevision)) ::
    ("intent", .string intent.text) :: ("saveReason", .string saveReason.text) :: content)
  formed : WellFormed (.object entries)

def MutationRequest.payload (request : MutationRequest) : List (String × Value) :=
  request.entries.filter fun entry => entry.1 != "clientRevision" && entry.1 != "intent"

def SameData (a b : MutationRequest) : Prop :=
  CanonicalJson.Reordered (.object a.content) (.object b.content)

def differentData : ClientOrdersError :=
  ⟨409, .conflict, "Одна версия документа содержит разные данные. " ++
    "Обновите документ и повторите действие."⟩

section Requests
variable (sha256 : List Char → String) (readContent : List (String × Value) → ClientOrderCreateBody)

def clientOrderPayloadHash (request : MutationRequest) : String :=
  sha256 (stringify (stableJsonValue (.object request.payload)))

def MutationRequest.body (request : MutationRequest) : ClientOrderMutationBody :=
  { readContent request.content with
    clientRevision := request.clientRevision
    intent := request.intent }

def putRequest (key : ClientOrderKey) (request : MutationRequest) (refs : OrderReferences)
    (fresh : FreshIds) (clock : Clock) (slot : Option Order) : Except ClientOrdersError TxOutcome :=
  putClientOrderByClientId key (clientOrderPayloadHash sha256 request) (request.body readContent)
    refs fresh clock slot

def RefusedAsDifferent (key : ClientOrderKey) (request : MutationRequest) (row : Order) : Prop :=
  ∀ refs fresh clock,
    putRequest sha256 readContent key request refs fresh clock (some row) = .error differentData

/-- A refusal as different data would be the answer of the reference tables. -/
def NotRefusedAsDifferent (key : ClientOrderKey) (request : MutationRequest) (row : Order) : Prop :=
  ∀ refs fresh clock,
    putRequest sha256 readContent key request refs fresh clock (some row) = .error differentData →
      refs.loadLiveOrderMaterialization (request.body readContent).toClientOrderCreateBody =
        .error differentData

end Requests

section Keys

theorem lower_upper_inj {c d : Char} (lower : c.toLower = d.toLower)
    (upper : c.isUpper = d.isUpper) : c = d := by
  have vals := congrArg Char.val lower
  have read (e : Char) : e.isUpper = true ↔ 'A'.val ≤ e.val ∧ e.val ≤ 'Z'.val := decide_eq_true_iff
  have cases_eq : ('A'.val ≤ c.val ∧ c.val ≤ 'Z'.val) ↔ ('A'.val ≤ d.val ∧ d.val ≤ 'Z'.val) := by
    rw [← read, ← read, upper]
  unfold Char.toLower at vals
  split at vals
  · next in_c =>
    rw [dif_pos (cases_eq.mp in_c)] at vals
    exact Char.ext (UInt32.add_left_inj _ |>.mp vals)
  · next not_c =>
    rw [dif_neg (fun in_d => not_c (cases_eq.mpr in_d))] at vals
    exact Char.ext vals

theorem lowers_uppers_inj {l r : List Char} (lower : l.map Char.toLower = r.map Char.toLower)
    (upper : l.map Char.isUpper = r.map Char.isUpper) : l = r := by
  induction l generalizing r with
  | nil => exact (List.map_eq_nil_iff.mp lower.symm).symm
  | cons c l ih =>
    cases r with
    | nil => cases lower
    | cons d r =>
      rw [List.map_cons, List.map_cons, List.cons.injEq] at lower upper
      rw [lower_upper_inj lower.1 upper.1, ih lower.2 upper.2]

theorem collationKey_inj {left right : String} (same : collationKey left = collationKey right) :
    left = right := by
  simp only [collationKey, EmbeddingLike.apply_eq_iff_eq, Prod.mk.injEq] at same
  exact String.toList_inj.mp (lowers_uppers_inj same.1 same.2)

theorem keysInOrder_iff (left right : String) :
    KeysInOrder left right ↔ collationKey left ≤ collationKey right := by
  unfold KeysInOrder localeCompare
  split_ifs with before after
  · simp [before.le]
  · simp [after]
  · simp [not_lt.mp after]

instance : Std.Total KeysInOrder := ⟨fun left right => by
  rw [keysInOrder_iff, keysInOrder_iff]
  exact le_total _ _⟩

instance : IsTrans String KeysInOrder := ⟨fun left middle right => by
  rw [keysInOrder_iff, keysInOrder_iff, keysInOrder_iff]
  exact le_trans⟩

instance : Std.Antisymm KeysInOrder := ⟨fun left right first second => by
  rw [keysInOrder_iff] at first second
  exact collationKey_inj (le_antisymm first second)⟩

end Keys

section Digest
variable (request : MutationRequest)

theorem MutationRequest.parts_formed : WellFormed (.object (
    ("clientRevision", .number (revisionText request.clientRevision)) ::
      ("intent", .string request.intent.text) :: ("saveReason", .string request.saveReason.text) ::
      request.content)) :=
  (CanonicalJson.Reordered.permute request.parts).wellFormed.mp request.formed

theorem MutationRequest.payload_perm :
    request.payload.Perm (("saveReason", .string request.saveReason.text) :: request.content) := by
  obtain ⟨no_revision, _, formed⟩ := wellFormed_cons request.parts_formed
  obtain ⟨no_intent, _, _⟩ := wellFormed_cons formed
  refine (request.parts.filter _).trans (List.Perm.of_eq ?_)
  rw [List.filter_cons_of_neg (by simp), List.filter_cons_of_neg (by simp),
    List.filter_cons_of_pos (by simp)]
  refine congrArg _ (List.filter_eq_self.mpr fun entry at_content => ?_)
  have other {key : String} (free : key ∉ request.content.map Prod.fst) : entry.1 ≠ key := by
    rintro rfl
    exact free (List.mem_map_of_mem at_content)
  rw [List.map_cons, List.map_cons, List.mem_cons, List.mem_cons, not_or, not_or] at no_revision
  rw [List.map_cons, List.mem_cons, not_or] at no_intent
  simp [other no_revision.2.2, other no_intent.2]

theorem SaveReason.text_inj {a b : SaveReason} (same : a.text = b.text) : a = b := by
  cases a <;> cases b <;> first | rfl | exact absurd same (by decide)

/-- The digest knows the reason of the save and the content, whatever the order of their keys. -/
theorem clientOrderPayloadHash_eq_iff {sha256 : List Char → String}
    (injective : Function.Injective sha256) (a b : MutationRequest) :
    clientOrderPayloadHash sha256 a = clientOrderPayloadHash sha256 b ↔
      a.saveReason = b.saveReason ∧ SameData a b := by
  have formed_a := (wellFormed_cons (wellFormed_cons a.parts_formed).2.2).2.2
  have formed_b := (wellFormed_cons (wellFormed_cons b.parts_formed).2.2).2.2
  have payload_a := CanonicalJson.Reordered.permute a.payload_perm
  have payload_b := CanonicalJson.Reordered.permute b.payload_perm
  have ordered : CanonicalJson.Reordered (.object a.payload) (.object b.payload) ↔
      CanonicalJson.Reordered (.object (("saveReason", .string a.saveReason.text) :: a.content))
        (.object (("saveReason", .string b.saveReason.text) :: b.content)) :=
    ⟨fun same => (payload_a.symm.trans same).trans payload_b,
      fun same => (payload_a.trans same).trans payload_b.symm⟩
  rw [clientOrderPayloadHash, clientOrderPayloadHash, injective.eq_iff, stableJsonValue,
    stableJsonValue, stringify_canonical_iff KeysInOrder (payload_a.wellFormed.mpr formed_a), ordered,
    reordered_cons_iff formed_a (wellFormed_cons formed_b).1, reordered_string_iff]
  exact and_congr_left' ⟨SaveReason.text_inj, congrArg SaveReason.text⟩

end Digest

section SavedRevision
variable {sha256 : List Char → String} {readContent : List (String × Value) → ClientOrderCreateBody}
  {key : ClientOrderKey} {payloadHash : String} {body : ClientOrderMutationBody}
  {refs : OrderReferences} {fresh : FreshIds} {clock : Clock} {slot : Option Order}
  {row : Order}

theorem savedRow_trace (save : body.intent = .save) (applied : appliedRow slot
      (putClientOrderByClientId key payloadHash body refs fresh clock slot) = some row) :
    mutationTrace row =
      (some key.userId, some key.clientOrderId, some body.clientRevision, some payloadHash) := by
  cases appliedBy applied with
  | created content => rfl
  | submitted existing owned delivered =>
    -- At its own revision a save is answered, and never stored.
    simp only [resolveDelivery, save, true_or, if_true] at delivered
    split_ifs at delivered <;> cases delivered
  | written existing content owned =>
    obtain ⟨user, name⟩ := owned
    simp [mutationTrace, OrderWrite.apply, putOrder, putData, user, name]

theorem put_refused {e : ClientOrdersError} (owned : Owned key row)
    (refused : resolveDelivery payloadHash body row = .error e) :
    putClientOrderByClientId key payloadHash body refs fresh clock (some row) = .error e := by
  have found := findClientOrder_some.mpr ⟨rfl, owned⟩
  simp [putClientOrderByClientId, found, putPrecheck, refused, Except.map, bind, Except.bind]

theorem resolveDelivery_otherHash {hash : String}
    (level : row.clientRevision = some body.clientRevision)
    (stored : row.clientPayloadHash = some hash) (hashed : hash ≠ "") (other : payloadHash ≠ hash) :
    resolveDelivery payloadHash body row = .error differentData := by
  have differs : isSet row.clientPayloadHash = true ∧ row.clientPayloadHash ≠ some payloadHash := by
    rw [stored]
    exact ⟨by simpa [isSet] using hashed, fun same => other (Option.some.inj same).symm⟩
  simp only [resolveDelivery, level, Option.getD_some, Nat.lt_irrefl, if_false, if_true,
    if_pos differs]
  rfl

theorem ensureEditable_ne_differentData (row : Order) :
    ensureEditable row ≠ .error differentData := by
  unfold ensureEditable
  split_ifs <;> simp [differentData]

theorem assertClientOrderCanBeSubmitted_ne_differentData (header : OrderHeader)
    (items : List OrderItem) :
    assertClientOrderCanBeSubmitted header items ≠ .error differentData := by
  unfold assertClientOrderCanBeSubmitted
  split_ifs <;> simp [differentData]

theorem loader_says_differentData (carries : CarriesMutation key payloadHash body row)
    (refused : putClientOrderByClientId key payloadHash body refs fresh clock (some row) =
      .error differentData) :
    refs.loadLiveOrderMaterialization body.toClientOrderCreateBody = .error differentData := by
  have found := findClientOrder_some.mpr ⟨rfl, carries.owned⟩
  have delivered := resolveDelivery_carries carries
  split_ifs at delivered with answered
  · have check : putPrecheck payloadHash body (findClientOrder key (some row)) = .ok true := by
      rw [found, putPrecheck, delivered]
      rfl
    rw [putClientOrderByClientId, check] at refused
    cases refused
  · have check : putPrecheck payloadHash body (findClientOrder key (some row)) = .ok false := by
      rw [found, putPrecheck, delivered]
      rfl
    rw [putClientOrderByClientId_proceeds check] at refused
    cases loaded : refs.loadLiveOrderMaterialization body.toClientOrderCreateBody with
    | error e =>
      rw [loaded] at refused
      exact congrArg Except.error (Except.error.inj refused)
    | ok _ =>
      simp only [loaded, putTransaction, found, delivered, bind, Except.bind] at refused
      split at refused
      · next editable =>
          exact absurd (Except.error.inj refused ▸ editable) (ensureEditable_ne_differentData row)
      · split at refused
        · next complete =>
          exact absurd (Except.error.inj refused ▸ complete)
            (assertClientOrderCanBeSubmitted_ne_differentData _ _)
        · cases refused

end SavedRevision

/-- At the revision of a stored save, and after any run of later operations, a request is refused as
different data exactly when its content differs, if and only if equal content came with the same
reason of the save. -/
theorem saved_revision_refused_iff {sha256 : List Char → String}
    (injective : Function.Injective sha256) (hex : ∀ text, sha256 text ≠ "")
    {readContent : List (String × Value) → ClientOrderCreateBody} {key : ClientOrderKey}
    {saved later : MutationRequest} {refs : OrderReferences} {fresh : FreshIds} {clock : Clock}
    {slot : Option Order} {row : Order} (save : saved.intent = .save)
    (applied : appliedRow slot
      (putRequest sha256 readContent key saved refs fresh clock slot) = some row)
    (actions : List LaterAction) (level : later.clientRevision = saved.clientRevision) :
    ((SameData saved later →
        NotRefusedAsDifferent sha256 readContent key later (run laterStep row actions)) ∧
      (¬SameData saved later →
        RefusedAsDifferent sha256 readContent key later (run laterStep row actions))) ↔
      (SameData saved later → later.saveReason = saved.saveReason) := by
  have trace : mutationTrace (run laterStep row actions) = (some key.userId, some key.clientOrderId,
      some saved.clientRevision, some (clientOrderPayloadHash sha256 saved)) :=
    run_invariant (fun o a _ held => (laterStep_trace o a).trans held)
      (savedRow_trace save applied)
  generalize run laterStep row actions = row' at trace
  simp only [mutationTrace, Prod.mk.injEq] at trace
  obtain ⟨user, name, revision, hash⟩ := trace
  have owned : Owned key row' := ⟨user, name⟩
  have refused (other : clientOrderPayloadHash sha256 later ≠ clientOrderPayloadHash sha256 saved) :
      RefusedAsDifferent sha256 readContent key later row' := by
    intro refs fresh clock
    exact put_refused owned
      (resolveDelivery_otherHash (revision.trans (congrArg some level.symm)) hash (hex _) other)
  have accepted (same : clientOrderPayloadHash sha256 later = clientOrderPayloadHash sha256 saved) :
      NotRefusedAsDifferent sha256 readContent key later row' := by
    intro refs fresh clock
    refine loader_says_differentData ⟨owned, ?_, ?_⟩
    · rw [revision, MutationRequest.body, level, Option.getD_some]
    · rw [hash, same]
      exact fun other => other.2 rfl
  have hashes := clientOrderPayloadHash_eq_iff injective later saved
  constructor
  · rintro ⟨kept, _⟩ content
    by_contra reason
    -- References that answer every loader let the refusal be seen.
    have loads := kept content ⟨fun _ => .ok (), fun _ => .error differentData,
      fun _ _ => .error differentData⟩ ⟨"", ""⟩ ⟨0, 0⟩
      (refused (fun same => reason (hashes.mp same).1) _ _ _)
    cases loads
  · refine fun reasons => ⟨fun content => accepted (hashes.mpr ⟨reasons content, content.symm⟩),
      fun content => refused fun same => content (hashes.mp same).2.symm⟩

namespace Sample

def orderContent : List (String × Value) :=
  [("organizationGuid", .string "organization"), ("counterpartyGuid", .string "counterparty"),
    ("items", .array [.object [("productGuid", .string "product"),
      ("quantity", .number (revisionText 1))]])]

def request (intent : Intent) (saveReason : SaveReason) : MutationRequest where
  clientRevision := 1
  intent := intent
  saveReason := saveReason
  content := orderContent
  entries := orderContent ++ [("clientRevision", .number (revisionText 1)),
    ("intent", .string intent.text), ("saveReason", .string saveReason.text)]
  parts := List.perm_append_comm
  formed := by
    simp [orderContent, WellFormed, WellFormedEntries, WellFormedItems]

/-- Any injective text stands for the digest. -/
def digest (text : List Char) : String := String.ofList ('x' :: text)

theorem digest_injective : Function.Injective digest := fun _ _ same =>
  (List.cons.inj (String.ofList_injective same)).2

theorem digest_nonempty (text : List Char) : digest text ≠ "" := fun same =>
  List.cons_ne_nil _ _ (String.ofList_injective (same.trans String.ofList_nil.symm))

def savedBy (saveReason : SaveReason) : Except ClientOrdersError TxOutcome :=
  putRequest digest (fun _ => body 1) key (request .save saveReason) references
    ⟨"order-id", "order-guid"⟩ (clock 1) none

def savedRow (saveReason : SaveReason) : Order :=
  { blankOrder ⟨"order-id", "order-guid"⟩ 1 (some "mobile-1") (content 1) with
    clientRevision := some 1
    clientPayloadHash := some (clientOrderPayloadHash digest (request .save saveReason))
    sourceUpdatedAt := some 1 }

theorem savedRow_applied (saveReason : SaveReason) :
    appliedRow none (savedBy saveReason) = some (savedRow saveReason) := rfl

end Sample

theorem submit_of_saved_revision_accepted :
    NotRefusedAsDifferent Sample.digest (fun _ => Sample.body 1) Sample.key
      (Sample.request .submit .manual) (Sample.savedRow .manual) := by
  have applied := Sample.savedRow_applied .manual
  rw [Sample.savedBy] at applied
  have decided := saved_revision_refused_iff Sample.digest_injective Sample.digest_nonempty
    (by rfl) applied [] (show (Sample.request .submit .manual).clientRevision = 1 from rfl)
  exact (decided.mpr fun _ => rfl).1 (.refl _)

/-- The submit of an autosaved revision, with the same content, is refused. -/
theorem submit_of_autosaved_revision_refused :
    appliedRow none (Sample.savedBy .autosave) = some (Sample.savedRow .autosave) ∧
      SameData (Sample.request .save .autosave) (Sample.request .submit .manual) ∧
      RefusedAsDifferent Sample.digest (fun _ => Sample.body 1) Sample.key
        (Sample.request .submit .manual) (Sample.savedRow .autosave) := by
  refine ⟨Sample.savedRow_applied .autosave, .refl _, fun refs fresh clock => ?_⟩
  refine put_refused ⟨rfl, rfl⟩
    (resolveDelivery_otherHash rfl rfl (Sample.digest_nonempty _) fun same => ?_)
  exact absurd ((clientOrderPayloadHash_eq_iff Sample.digest_injective _ _).mp same).1 (by decide)

end LeaderProduct
