import LeaderProduct.MarketplaceOrder

/-! The references of an order and of the context of a client: who owns them, what the agreement
fixes, and whether they are active. -/
namespace LeaderProduct
open RowTable

section Update
variable (db : Marketplace)

structure MeContextUpdateBody where
  counterpartyGuid : NullableGuid
  activeAgreementGuid : NullableGuid
  activeContractGuid : NullableGuid
  activeWarehouseGuid : NullableGuid
  activePriceTypeGuid : NullableGuid
  activeDeliveryAddressGuid : NullableGuid

def chooseCounterparty (own : Option MarketReference) :
    NullableGuid → Except MarketplaceError (Option MarketReference)
  | none => .ok own
  | some none => .ok none
  | some (some guid) =>
    if isGuidProvided guid then
      (ensureActive MarketReference.isActive (lookup MarketReference.guid db.counterparties guid)
        "Контрагент").map some
    else .ok own

def updatedProfile (profile : ClientProfile) (body : MeContextUpdateBody) :
    Except MarketplaceError ClientProfile := do
  let own := (profile.counterpartyId.bind (counterpartyById db)).filter (·.isActive)
  let counterparty ← chooseCounterparty db own body.counterpartyGuid
  let agreement ← chooseRef AgreementRef.isActive
    (profile.activeAgreementId.bind (lookup AgreementRef.id db.agreements))
    (lookup AgreementRef.guid db.agreements) "Соглашение" body.activeAgreementGuid
  let contract ← chooseRef ContractRef.isActive
    (profile.activeContractId.bind (lookup ContractRef.id db.contracts))
    (lookup ContractRef.guid db.contracts) "Договор" body.activeContractGuid
  let warehouse ← chooseRef MarketReference.isActive
    (profile.activeWarehouseId.bind (lookup MarketReference.id db.warehouses))
    (lookup MarketReference.guid db.warehouses) "Склад" body.activeWarehouseGuid
  let priceType ← chooseRef MarketReference.isActive
    (profile.activePriceTypeId.bind (lookup MarketReference.id db.priceTypes))
    (lookup MarketReference.guid db.priceTypes) "Тип цен" body.activePriceTypeGuid
  let deliveryAddress ← chooseRef DeliveryAddressRef.isActive
    (profile.activeDeliveryAddressId.bind (lookup DeliveryAddressRef.id db.addresses))
    (fun guid => lookup DeliveryAddressRef.guid db.addresses (some guid)) "Адрес доставки"
    body.activeDeliveryAddressGuid
  let counterpartyChanged := body.counterpartyGuid.isSome &&
    profile.counterpartyId ≠ counterparty.map (·.id)
  -- what is not given goes with the old counterparty
  let agreement := if counterpartyChanged && body.activeAgreementGuid.isNone then none else agreement
  let contract := if counterpartyChanged && body.activeContractGuid.isNone then none else contract
  let deliveryAddress := if counterpartyChanged && body.activeDeliveryAddressGuid.isNone then none
    else deliveryAddress
  let counterparty ← agreementCounterparty db agreement counterparty
  let counterparty ← contractCounterparty db contract counterparty
  let counterparty ← addressCounterparty db deliveryAddress counterparty
  checkAgreement agreement contract warehouse priceType
  return { profile with
    counterpartyId := counterparty.map (·.id)
    activeAgreementId := agreement.map (·.id)
    activeContractId := contract.map (·.id)
    activeWarehouseId := warehouse.map (·.id)
    activePriceTypeId := priceType.map (·.id)
    activeDeliveryAddressId := deliveryAddress.map (·.id) }

def ClientProfile.withContext (row updated : ClientProfile) : ClientProfile :=
  { row with
    counterpartyId := updated.counterpartyId
    activeAgreementId := updated.activeAgreementId
    activeContractId := updated.activeContractId
    activeWarehouseId := updated.activeWarehouseId
    activePriceTypeId := updated.activePriceTypeId
    activeDeliveryAddressId := updated.activeDeliveryAddressId }

def Marketplace.storeContext (userId : Nat) (updated : ClientProfile) : Marketplace :=
  { db with
    profiles := modify ClientProfile.userId db.profiles userId (·.withContext updated) }

def updateClientContext (userId : Nat) (body : MeContextUpdateBody) :
    Marketplace × Except MarketplaceError ClientProfile :=
  match getClientProfileOrThrow db userId with
  | .error error => (db, .error error)
  | .ok profile =>
    match updatedProfile db profile body with
    | .error error => (db, .error error)
    | .ok updated =>
      (db.storeContext userId updated,
        getClientProfileOrThrow (db.storeContext userId updated) userId)

end Update

section References
variable (db : Marketplace)

structure ReferenceIds where
  counterpartyId : Option Id
  agreementId : Option Id
  contractId : Option Id
  warehouseId : Option Id
  deliveryAddressId : Option Id

def OrderHeader.references (header : OrderHeader) : ReferenceIds where
  counterpartyId := some header.counterpartyId
  agreementId := header.agreementId
  contractId := header.contractId
  warehouseId := header.warehouseId
  deliveryAddressId := header.deliveryAddressId

def ClientProfile.references (profile : ClientProfile) : ReferenceIds where
  counterpartyId := profile.counterpartyId
  agreementId := profile.activeAgreementId
  contractId := profile.activeContractId
  warehouseId := profile.activeWarehouseId
  deliveryAddressId := profile.activeDeliveryAddressId

/-- What the agreement names is what is chosen, where something is. -/
def Agrees (named chosen : Option Id) : Prop :=
  isSet named = true → ∀ id, chosen = some id → named = some id

structure ConsistentRefs (refs : ReferenceIds) : Prop where
  counterparty : ∀ id, refs.counterpartyId = some id →
    ∃ row ∈ db.counterparties, row.id = id ∧ row.isActive = true
  agreement : ∀ id, refs.agreementId = some id →
    ∃ row ∈ db.agreements, row.id = id ∧ row.isActive = true ∧
      (isSet row.counterpartyId = true → refs.counterpartyId = row.counterpartyId) ∧
      Agrees row.contractId refs.contractId ∧ Agrees row.warehouseId refs.warehouseId
  contract : ∀ id, refs.contractId = some id →
    ∃ row ∈ db.contracts, row.id = id ∧ row.isActive = true ∧
      refs.counterpartyId = some row.counterpartyId
  warehouse : ∀ id, refs.warehouseId = some id →
    ∃ row ∈ db.warehouses, row.id = id ∧ row.isActive = true
  deliveryAddress : ∀ id, refs.deliveryAddressId = some id →
    ∃ row ∈ db.addresses, row.id = id ∧ row.isActive = true ∧
      (row.counterpartyId ≠ "" → refs.counterpartyId = some row.counterpartyId)

end References

section Choice
variable {R : Type} {isActive : R → Bool} {ofProfile : Option R} {byGuid : String → Option R}
  {message : String} {given : NullableGuid} {chosen : Option R}

def chosenRef (isActive : R → Bool) (ofProfile : Option R) (byGuid : String → Option R) :
    NullableGuid → Option R
  | none => ofProfile.filter isActive
  | some none => none
  | some (some guid) => if isGuidProvided guid then (byGuid guid).filter isActive else none

theorem chooseRef_ok (accepted : chooseRef isActive ofProfile byGuid message given = .ok chosen) :
    chosen = chosenRef isActive ofProfile byGuid given := by
  rcases given with _ | _ | guid
  · exact (Except.ok.inj accepted).symm
  · exact (Except.ok.inj accepted).symm
  · rw [chooseRef] at accepted
    rw [chosenRef]
    split at accepted
    · next provided =>
      obtain ⟨row, loaded, same⟩ := (except_bind_ok _ _ _).mp accepted
      cases same
      obtain ⟨found, active⟩ := ensureActive_ok.mp loaded
      rw [if_pos provided, found, Option.filter_some, if_pos active]
    · next blank =>
      rw [if_neg blank]
      exact (Except.ok.inj accepted).symm

theorem chosenRef_mem {rows : List R} (known : ∀ row, ofProfile = some row → row ∈ rows)
    (named : ∀ guid row, byGuid guid = some row → row ∈ rows) {row : R}
    (here : chosenRef isActive ofProfile byGuid given = some row) :
    row ∈ rows ∧ isActive row = true := by
  rcases given with _ | _ | guid
  · obtain ⟨found, active⟩ := Option.filter_eq_some_iff.mp here
    exact ⟨known row found, active⟩
  · cases here
  · rw [chosenRef] at here
    split at here
    · obtain ⟨found, active⟩ := Option.filter_eq_some_iff.mp here
      exact ⟨named guid row found, active⟩
    · cases here

end Choice

variable {message : String}

section Settled
variable {db : Marketplace} {agreement : Option AgreementRef} {contract : Option ContractRef}
  {warehouse priceType : Option MarketReference} {address : Option DeliveryAddressRef}
  {start first second third found found' : Option MarketReference}

theorem agrees_iff {named chosen : Option Id} :
    Agrees named chosen ↔ mismatches named chosen = false := by
  unfold Agrees mismatches
  cases isSet named with
  | false => simp
  | true =>
    cases chosen with
    | none => simp
    | some id => simp

theorem Agrees.inherited {named chosen stored : Option Id} (agrees : Agrees named chosen)
    (taken : stored = chosen.or named) : Agrees named stored := by
  intro is_set id here
  cases chosen with
  | none => exact (taken.symm.trans here : named = some id)
  | some given =>
    have same := (taken.symm.trans here : some given = some id)
    exact (agrees is_set given rfl).trans same

theorem checkAgreement_ok (checked : checkAgreement agreement contract warehouse priceType = .ok ()) :
    Agrees (agreement.bind (·.contractId)) (contract.map (·.id)) ∧
      Agrees (agreement.bind (·.warehouseId)) (warehouse.map (·.id)) := by
  rw [agrees_iff, agrees_iff]
  cases one : mismatches (agreement.bind (·.contractId)) (contract.map (·.id)) with
  | true =>
    simp [checkAgreement, one, throw, throwThe, MonadExceptOf.throw, bind, Except.bind] at checked
  | false =>
    cases two : mismatches (agreement.bind (·.warehouseId)) (warehouse.map (·.id)) with
    | true =>
      simp [checkAgreement, one, two, throw, throwThe, MonadExceptOf.throw, bind, Except.bind]
        at checked
    | false => exact ⟨rfl, rfl⟩

structure Settles (db : Marketplace) (before found : Option MarketReference) : Prop where
  active : ∀ c ∈ found, c ∈ db.counterparties ∧ c.isActive = true
  same : ∀ known ∈ before, found.map (·.id) = some known.id

theorem settles_self (active : ∀ c ∈ found, c ∈ db.counterparties ∧ c.isActive = true) :
    Settles db found found := by
  refine ⟨active, fun known here => ?_⟩
  rw [Option.mem_def.mp here]
  rfl

variable {before : Option MarketReference}

theorem Settles.owner (settles : Settles db before found) {counterpartyId : Id}
    (accepted : ownerCounterparty db found counterpartyId message = .ok found') :
    Settles db before found' := by
  obtain ⟨stays, c, here, active, rfl⟩ := ownerCounterparty_ok accepted
  have named : c.id = counterpartyId := key_of_lookup here
  constructor
  · intro other same
    cases same
    exact ⟨mem_of_lookup here, active⟩
  · intro known is_before
    have kept := settles.same known is_before
    cases found with
    | none => cases kept
    | some old =>
      rw [Option.map_some, Option.some.injEq] at kept ⊢
      rw [named, ← stays old rfl, kept]

theorem Settles.after_agreement (settles : Settles db before found)
    (accepted : agreementCounterparty db agreement found = .ok found') :
    Settles db before found' :=
  agreement_keeps (fun _ _ _ _ kept step => kept.owner step) settles accepted

theorem Settles.after_contract (settles : Settles db before found)
    (accepted : contractCounterparty db contract found = .ok found') :
    Settles db before found' :=
  contract_keeps (fun _ _ _ _ kept step => kept.owner step) settles accepted

theorem Settles.after_address (settles : Settles db before found)
    (accepted : addressCounterparty db address found = .ok found') :
    Settles db before found' :=
  address_keeps (fun _ _ _ _ kept step => kept.owner step) settles accepted

theorem unlessBlank_id {counterpartyId : Id} (accepted : (if counterpartyId = "" then pure found
      else ownerCounterparty db found counterpartyId message) = .ok found') :
    found'.map (·.id) = ((some counterpartyId).filter (· ≠ "")).or (found.map (·.id)) := by
  split at accepted
  · next blank =>
    cases accepted
    simp [blank, Option.filter_some]
  · next given =>
    obtain ⟨-, c, here, -, rfl⟩ := ownerCounterparty_ok accepted
    simp [given, Option.filter_some, key_of_lookup here]

theorem agreementCounterparty_id (accepted : agreementCounterparty db agreement found = .ok found') :
    found'.map (·.id) =
      ((agreement.bind (·.counterpartyId)).filter (· ≠ "")).or (found.map (·.id)) := by
  unfold agreementCounterparty at accepted
  cases owner : agreement.bind (·.counterpartyId) with
  | none =>
    rw [owner] at accepted
    cases accepted
    rfl
  | some counterpartyId =>
    rw [owner] at accepted
    exact unlessBlank_id accepted

theorem addressCounterparty_id (accepted : addressCounterparty db address found = .ok found') :
    found'.map (·.id) =
      ((address.map (·.counterpartyId)).filter (· ≠ "")).or (found.map (·.id)) := by
  unfold addressCounterparty at accepted
  cases address with
  | none =>
    cases accepted
    rfl
  | some row => exact unlessBlank_id accepted

theorem agreementCounterparty_owner {row : AgreementRef}
    (accepted : agreementCounterparty db (some row) found = .ok found')
    (owned : isSet row.counterpartyId = true) : found'.map (·.id) = row.counterpartyId := by
  rw [agreementCounterparty_id accepted]
  cases owner : row.counterpartyId with
  | none =>
    rw [owner] at owned
    cases owned
  | some counterpartyId =>
    have given : counterpartyId ≠ "" := by simpa [owner, isSet] using owned
    simp [owner, given, Option.filter_some]

theorem contractCounterparty_owner {row : ContractRef}
    (accepted : contractCounterparty db (some row) found = .ok found') :
    found'.map (·.id) = some row.counterpartyId := by
  obtain ⟨-, c, here, -, rfl⟩ := ownerCounterparty_ok accepted
  exact congrArg some (key_of_lookup here)

theorem addressCounterparty_owner {row : DeliveryAddressRef}
    (accepted : addressCounterparty db (some row) found = .ok found')
    (owned : row.counterpartyId ≠ "") : found'.map (·.id) = some row.counterpartyId := by
  rw [addressCounterparty_id accepted]
  simp [owned, Option.filter_some]

structure SettledRefs (db : Marketplace) (owner : Option MarketReference)
    (agreement : Option AgreementRef) (contract : Option ContractRef)
    (warehouse : Option MarketReference) (address : Option DeliveryAddressRef) : Prop where
  counterparty : ∀ c ∈ owner, c ∈ db.counterparties ∧ c.isActive = true
  agreement : ∀ a ∈ agreement, a ∈ db.agreements ∧ a.isActive = true ∧
    (isSet a.counterpartyId = true → owner.map (·.id) = a.counterpartyId) ∧
    Agrees a.contractId (contract.map (·.id)) ∧ Agrees a.warehouseId (warehouse.map (·.id))
  contract : ∀ c ∈ contract, c ∈ db.contracts ∧ c.isActive = true ∧
    owner.map (·.id) = some c.counterpartyId
  warehouse : ∀ w ∈ warehouse, w ∈ db.warehouses ∧ w.isActive = true
  address : ∀ d ∈ address, d ∈ db.addresses ∧ d.isActive = true ∧
    (d.counterpartyId ≠ "" → owner.map (·.id) = some d.counterpartyId)

theorem settledRefs_of_checks (active : ∀ c ∈ start, c ∈ db.counterparties ∧ c.isActive = true)
    (agreements : ∀ a ∈ agreement, a ∈ db.agreements ∧ a.isActive = true)
    (contracts : ∀ c ∈ contract, c ∈ db.contracts ∧ c.isActive = true)
    (warehouses : ∀ w ∈ warehouse, w ∈ db.warehouses ∧ w.isActive = true)
    (addresses : ∀ d ∈ address, d ∈ db.addresses ∧ d.isActive = true)
    (by_agreement : agreementCounterparty db agreement start = .ok first)
    (by_contract : contractCounterparty db contract first = .ok second)
    (by_address : addressCounterparty db address second = .ok third)
    (checked : checkAgreement agreement contract warehouse priceType = .ok ()) :
    SettledRefs db third agreement contract warehouse address := by
  have after_agreement := (settles_self active).after_agreement by_agreement
  have after_contract := (settles_self after_agreement.active).after_contract by_contract
  have after_address := (settles_self after_contract.active).after_address by_address
  have all_along := after_contract.after_address by_address
  obtain ⟨contract_agrees, warehouse_agrees⟩ := checkAgreement_ok checked
  -- a counterparty that is found stays, so each owner is the last one too
  have kept {c : Option MarketReference} {id : Option Id} (owner : c.map (·.id) = id)
      (given : id.isSome = true) (later : Settles db c third) :
      third.map (·.id) = id := by
    cases c with
    | none =>
      rw [← owner] at given
      cases given
    | some c => exact (later.same c rfl).trans owner
  constructor
  · exact after_address.active
  · rintro a here
    cases Option.mem_def.mp here
    obtain ⟨listed, is_active⟩ := agreements a rfl
    refine ⟨listed, is_active, fun owned => ?_, contract_agrees, warehouse_agrees⟩
    have given : a.counterpartyId.isSome = true := by
      cases owner : a.counterpartyId with
      | none => simp [owner, isSet] at owned
      | some id => rfl
    exact kept (agreementCounterparty_owner by_agreement owned) given all_along
  · rintro c here
    cases Option.mem_def.mp here
    obtain ⟨listed, is_active⟩ := contracts c rfl
    exact ⟨listed, is_active, kept (contractCounterparty_owner by_contract) rfl after_address⟩
  · exact warehouses
  · rintro d here
    cases Option.mem_def.mp here
    obtain ⟨listed, is_active⟩ := addresses d rfl
    exact ⟨listed, is_active, addressCounterparty_owner by_address⟩

theorem consistent_of_settled
    (settled : SettledRefs db third agreement contract warehouse address) :
    ConsistentRefs db ⟨third.map (·.id), agreement.map (·.id), contract.map (·.id),
      warehouse.map (·.id), address.map (·.id)⟩ := by
  constructor
  · intro id here
    obtain ⟨c, found, rfl⟩ := Option.map_eq_some_iff.mp here
    obtain ⟨listed, active⟩ := settled.counterparty c found
    exact ⟨c, listed, rfl, active⟩
  · intro id here
    obtain ⟨a, found, rfl⟩ := Option.map_eq_some_iff.mp here
    obtain ⟨listed, active, agrees⟩ := settled.agreement a found
    exact ⟨a, listed, rfl, active, agrees⟩
  · intro id here
    obtain ⟨c, found, rfl⟩ := Option.map_eq_some_iff.mp here
    obtain ⟨listed, active, owned⟩ := settled.contract c found
    exact ⟨c, listed, rfl, active, owned⟩
  · intro id here
    obtain ⟨w, found, rfl⟩ := Option.map_eq_some_iff.mp here
    obtain ⟨listed, active⟩ := settled.warehouse w found
    exact ⟨w, listed, rfl, active⟩
  · intro id here
    obtain ⟨d, found, rfl⟩ := Option.map_eq_some_iff.mp here
    obtain ⟨listed, active, owned⟩ := settled.address d found
    exact ⟨d, listed, rfl, active, owned⟩

end Settled

section Context
variable {db : Marketplace}

theorem own_active (counterpartyId : Option Id) :
    ∀ c ∈ (counterpartyId.bind (counterpartyById db)).filter (·.isActive),
      c ∈ db.counterparties ∧ c.isActive = true := by
  intro c here
  obtain ⟨found, active⟩ := Option.filter_eq_some_iff.mp here
  obtain ⟨id, -, known⟩ := Option.bind_eq_some_iff.mp found
  exact ⟨mem_of_lookup known, active⟩

theorem chooseCounterparty_active {own chosen : Option MarketReference} {given : NullableGuid}
    (active : ∀ c ∈ own, c ∈ db.counterparties ∧ c.isActive = true)
    (accepted : chooseCounterparty db own given = .ok chosen) :
    ∀ c ∈ chosen, c ∈ db.counterparties ∧ c.isActive = true := by
  rcases given with _ | _ | guid
  · cases accepted
    exact active
  · cases accepted
    exact nofun
  · rw [chooseCounterparty] at accepted
    split at accepted
    · cases loaded : ensureActive MarketReference.isActive
        (lookup MarketReference.guid db.counterparties guid) "Контрагент" with
      | error e =>
        rw [loaded] at accepted
        cases accepted
      | ok row =>
        rw [loaded] at accepted
        cases accepted
        obtain ⟨found, is_active⟩ := ensureActive_ok.mp loaded
        intro c here
        cases here
        exact ⟨mem_of_lookup found, is_active⟩
    · cases accepted
      exact active

theorem chosen_listed {R : Type} {isActive : R → Bool} {id : R → Id} {rows : List R}
    {activeId : Option Id} {byGuid : String → Option R} {given : NullableGuid} {chosen : Option R}
    (named : ∀ guid row, byGuid guid = some row → row ∈ rows)
    (accepted : chooseRef isActive (activeId.bind (lookup id rows)) byGuid message given =
      .ok chosen) : ∀ row ∈ chosen, row ∈ rows ∧ isActive row = true := by
  intro row here
  rw [Option.mem_def, chooseRef_ok accepted] at here
  refine chosenRef_mem (fun row found => ?_) named here
  obtain ⟨id, -, known⟩ := Option.bind_eq_some_iff.mp found
  exact mem_of_lookup known

theorem listed_unless {R : Type} {rows : List R} {isActive : R → Bool} {chosen : Option R}
    (listed : ∀ row ∈ chosen, row ∈ rows ∧ isActive row = true) (dropped : Bool) :
    ∀ row ∈ (if dropped then none else chosen), row ∈ rows ∧ isActive row = true := by
  cases dropped with
  | true => exact nofun
  | false => exact listed

theorem updatedProfile_consistent {profile updated : ClientProfile} {body : MeContextUpdateBody}
    (accepted : updatedProfile db profile body = .ok updated) :
    ConsistentRefs db updated.references ∧ updated.userId = profile.userId := by
  simp only [updatedProfile, except_bind_ok] at accepted
  obtain ⟨counterparty, by_guid, agreement, agreements, contract, contracts, warehouse, warehouses,
    priceType, -, address, addresses, first, by_agreement, second, by_contract, third, by_address,
    checked, agrees, same⟩ := accepted
  cases same
  have settled := settledRefs_of_checks
    (chooseCounterparty_active (own_active profile.counterpartyId) by_guid)
    (listed_unless (chosen_listed (fun _ _ => mem_of_lookup) agreements) _)
    (listed_unless (chosen_listed (fun _ _ => mem_of_lookup) contracts) _)
    (chosen_listed (fun _ _ => mem_of_lookup) warehouses)
    (listed_unless (chosen_listed (fun _ _ => mem_of_lookup) addresses) _)
    by_agreement by_contract by_address agrees
  exact ⟨consistent_of_settled settled, rfl⟩

variable (db) in
structure ContextLaw (userId : Nat) (body : MeContextUpdateBody) : Prop where
  stored : ∀ profile, (updateClientContext db userId body).2 = .ok profile →
    lookup ClientProfile.userId (updateClientContext db userId body).1.profiles userId =
        some profile ∧ ConsistentRefs db profile.references
  refused : ∀ e, (updateClientContext db userId body).2 = .error e →
    (updateClientContext db userId body).1 = db

variable (db) in
theorem updateClientContext_law (userId : Nat) (body : MeContextUpdateBody) :
    ContextLaw db userId body := by
  cases loaded : getClientProfileOrThrow db userId with
  | error e =>
    have refused : updateClientContext db userId body = (db, .error e) := by
      rw [updateClientContext, loaded]
    constructor <;> rw [refused]
    · exact nofun
    · exact fun _ _ => rfl
  | ok profile =>
    cases written : updatedProfile db profile body with
    | error e =>
      have refused : updateClientContext db userId body = (db, .error e) := by
        rw [updateClientContext, loaded]
        dsimp only
        rw [written]
      constructor <;> rw [refused]
      · exact nofun
      · exact fun _ _ => rfl
    | ok updated =>
      obtain ⟨consistent, -⟩ := updatedProfile_consistent written
      have found := getClientProfileOrThrow_ok.mp loaded
      have again : lookup ClientProfile.userId (db.storeContext userId updated).profiles userId =
          some (profile.withContext updated) := by
        have keeps (row : ClientProfile) : (row.withContext updated).userId = row.userId := rfl
        have changed := lookup_modify keeps db.profiles userId userId
        rw [if_pos rfl, found, Option.map_some] at changed
        exact changed
      have accepted : updateClientContext db userId body =
          (db.storeContext userId updated, .ok (profile.withContext updated)) := by
        rw [updateClientContext, loaded]
        dsimp only
        rw [written]
        dsimp only
        rw [getClientProfileOrThrow_ok.mpr again]
      constructor <;> rw [accepted]
      · intro stored same
        cases same
        exact ⟨again, consistent⟩
      · exact nofun

end Context

section Orders
variable (db : Marketplace) (userId : Nat) (body : OrderCreateBody) (profile : ClientProfile)

def chosenAgreement : Option AgreementRef :=
  chosenRef AgreementRef.isActive
    (profile.activeAgreementId.bind (lookup AgreementRef.id db.agreements))
    (lookup AgreementRef.guid db.agreements) body.agreementGuid

def chosenContract : Option ContractRef :=
  chosenRef ContractRef.isActive
    (profile.activeContractId.bind (lookup ContractRef.id db.contracts))
    (lookup ContractRef.guid db.contracts) body.contractGuid

def chosenWarehouse : Option MarketReference :=
  chosenRef MarketReference.isActive
    (profile.activeWarehouseId.bind (lookup MarketReference.id db.warehouses))
    (lookup MarketReference.guid db.warehouses) body.warehouseGuid

def chosenAddress : Option DeliveryAddressRef :=
  chosenRef DeliveryAddressRef.isActive
    (profile.activeDeliveryAddressId.bind (lookup DeliveryAddressRef.id db.addresses))
    (fun guid => lookup DeliveryAddressRef.guid db.addresses (some guid)) body.deliveryAddressGuid

/-- Whose the order is when no contract is chosen: the owner of the agreement or of the address, or
the counterparty of the profile. -/
def ownerWithoutContract : Option Id :=
  (((chosenAgreement db body profile).bind (·.counterpartyId)).filter (· ≠ "")).or
    ((((chosenAddress db body profile).map (·.counterpartyId)).filter (· ≠ "")).or
      (((profile.counterpartyId.bind (counterpartyById db)).filter (·.isActive)).map (·.id)))

structure InheritsSound (agreement : AgreementRef) : Prop where
  contract : chosenContract db body profile = none → ∀ id, agreement.contractId = some id →
    ∃ row ∈ db.contracts, row.id = id ∧ row.isActive = true ∧
      ownerWithoutContract db body profile = some row.counterpartyId
  warehouse : chosenWarehouse db body profile = none → ∀ id, agreement.warehouseId = some id →
    ∃ row ∈ db.warehouses, row.id = id ∧ row.isActive = true

variable {db userId body profile} {context : ResolvedOrderContext}

theorem resolveOrderContext_settled (resolved : resolveOrderContext db userId body = .ok context) :
    ∃ profile, lookup ClientProfile.userId db.profiles userId = some profile ∧
      context.agreement = chosenAgreement db body profile ∧
      context.contract = chosenContract db body profile ∧
      context.warehouse = chosenWarehouse db body profile ∧
      context.deliveryAddress = chosenAddress db body profile ∧
      (chosenContract db body profile = none →
        ownerWithoutContract db body profile = some context.counterparty.id) ∧
      SettledRefs db (some context.counterparty) context.agreement context.contract
        context.warehouse context.deliveryAddress := by
  simp only [resolveOrderContext, except_bind_ok] at resolved
  obtain ⟨profile, loaded, agreement, agreements, contract, contracts, warehouse, warehouses,
    priceType, -, address, addresses, first, by_agreement, second, by_contract, third, by_address,
    last⟩ := resolved
  cases third with
  | none => cases last
  | some counterparty =>
    simp only [except_bind_ok] at last
    obtain ⟨checked, agrees, same⟩ := last
    cases same
    have settled := settledRefs_of_checks (own_active profile.counterpartyId)
      (chosen_listed (fun _ _ => mem_of_lookup) agreements)
      (chosen_listed (fun _ _ => mem_of_lookup) contracts)
      (chosen_listed (fun _ _ => mem_of_lookup) warehouses)
      (chosen_listed (fun _ _ => mem_of_lookup) addresses)
      by_agreement by_contract by_address agrees
    refine ⟨profile, getClientProfileOrThrow_ok.mp loaded, chooseRef_ok agreements,
      chooseRef_ok contracts, chooseRef_ok warehouses, chooseRef_ok addresses, fun absent => ?_,
      settled⟩
    have no_contract : contract = none := (chooseRef_ok contracts).trans absent
    rw [no_contract] at by_contract
    cases by_contract
    have of_agreement := agreementCounterparty_id by_agreement
    have of_address := addressCounterparty_id by_address
    have kept := (settles_self ((settles_self (own_active profile.counterpartyId)).after_agreement
      by_agreement).active).after_address by_address
    rw [ownerWithoutContract, chosenAgreement, chosenAddress, ← chooseRef_ok agreements,
      ← chooseRef_ok addresses]
    cases owner : (agreement.bind (·.counterpartyId)).filter (· ≠ "") with
    | none =>
      rw [owner, Option.none_or] at of_agreement
      rw [of_agreement] at of_address
      rw [Option.none_or, ← of_address]
      rfl
    | some id =>
      rw [owner, Option.some_or] at of_agreement
      obtain ⟨c, found, same⟩ := Option.map_eq_some_iff.mp of_agreement
      have last := kept.same c found
      rw [Option.some_or, ← same, ← last]
      rfl

variable {createdAt : Instant} {new : NewOrder} {order : Order}

theorem placeOrder_context (placed : placeOrder db userId body createdAt new = .ok order) :
    ∃ context items, resolveOrderContext db userId body = .ok context ∧
      order.header = marketplaceHeader context body items := by
  unfold placeOrder at placed
  split at placed
  · cases placed
  · next context resolved =>
    split at placed
    · cases placed
    · next items _ =>
      split at placed
      · cases placed
      · cases placed
        exact ⟨context, items, resolved, rfl⟩

theorem consistent_of_sound {items : List PreparedItem}
    (owner : chosenContract db body profile = none →
      ownerWithoutContract db body profile = some context.counterparty.id)
    (of_contract : context.contract = chosenContract db body profile)
    (of_warehouse : context.warehouse = chosenWarehouse db body profile)
    (settled : SettledRefs db (some context.counterparty) context.agreement context.contract
      context.warehouse context.deliveryAddress)
    (sound : ∀ agreement, context.agreement = some agreement →
      InheritsSound db body profile agreement) :
    ConsistentRefs db (marketplaceHeader context body items).references := by
  have chosen := consistent_of_settled settled
  constructor
  · exact chosen.counterparty
  · intro id stored
    obtain ⟨a, found, rfl⟩ := Option.map_eq_some_iff.mp stored
    obtain ⟨listed, active, owned, contract_agrees, warehouse_agrees⟩ :=
      settled.agreement a found
    refine ⟨a, listed, rfl, active, owned, ?_, ?_⟩
    · apply contract_agrees.inherited
      simp [marketplaceHeader, OrderHeader.references, found]
    · apply warehouse_agrees.inherited
      simp [marketplaceHeader, OrderHeader.references, found]
  · intro id stored
    cases given : context.contract with
    | some c =>
      apply chosen.contract id
      simpa [marketplaceHeader, OrderHeader.references, given] using stored
    | none =>
      have inherited : context.agreement.bind (·.contractId) = some id := by
        simpa [marketplaceHeader, OrderHeader.references, given] using stored
      obtain ⟨a, found, named⟩ := Option.bind_eq_some_iff.mp inherited
      have absent := of_contract.symm.trans given
      obtain ⟨row, listed, same, active, owned⟩ := (sound a found).contract absent id named
      exact ⟨row, listed, same, active, (owner absent).symm.trans owned⟩
  · intro id stored
    cases given : context.warehouse with
    | some w =>
      apply chosen.warehouse id
      simpa [marketplaceHeader, OrderHeader.references, given] using stored
    | none =>
      have inherited : context.agreement.bind (·.warehouseId) = some id := by
        simpa [marketplaceHeader, OrderHeader.references, given] using stored
      obtain ⟨a, found, named⟩ := Option.bind_eq_some_iff.mp inherited
      exact (sound a found).warehouse (of_warehouse.symm.trans given) id named
  · exact chosen.deliveryAddress

variable (db userId body) in
/-- What an order takes over from its agreement is sound. -/
def TakenOverSound : Prop :=
  ∀ profile, lookup ClientProfile.userId db.profiles userId = some profile → ∀ agreement,
    chosenAgreement db body profile = some agreement → InheritsSound db body profile agreement

theorem placed_consistent_iff (placed : placeOrder db userId body createdAt new = .ok order) :
    ConsistentRefs db order.header.references ↔ TakenOverSound db userId body := by
  obtain ⟨context, items, resolved, header⟩ := placeOrder_context placed
  obtain ⟨profile, known, of_agreement, of_contract, of_warehouse, of_address, owner, settled⟩ :=
    resolveOrderContext_settled resolved
  rw [header, TakenOverSound, known]
  simp only [Option.some.injEq, forall_eq', ← of_agreement]
  constructor
  · intro consistent agreement chosen
    constructor
    · intro absent id inherited
      have stored : (marketplaceHeader context body items).references.contractId = some id := by
        simp [marketplaceHeader, OrderHeader.references, of_contract, absent, chosen, inherited]
      obtain ⟨row, listed, same, active, owned⟩ := consistent.contract id stored
      exact ⟨row, listed, same, active, (owner absent).trans owned⟩
    · intro absent id inherited
      have stored : (marketplaceHeader context body items).references.warehouseId = some id := by
        simp [marketplaceHeader, OrderHeader.references, of_warehouse, absent, chosen, inherited]
      exact consistent.warehouse id stored
  · exact consistent_of_sound owner of_contract of_warehouse settled

theorem createOrder_stores (placed : placeOrder db userId body createdAt new = .ok order) :
    (createOrder db userId body createdAt new).1.orders = db.orders ++ [order] := by
  rw [createOrder, placed]
  dsimp only
  split <;> rfl

theorem createOrder_creates
    (created : (createOrder db userId body createdAt new).1.orders = db.orders ++ [order]) :
    placeOrder db userId body createdAt new = .ok order := by
  cases placed : placeOrder db userId body createdAt new with
  | error failure =>
    rw [createOrder, placed] at created
    have longer := congrArg List.length created
    simp at longer
  | ok other =>
    rw [createOrder_stores placed] at created
    have same := List.cons.inj (List.append_cancel_left created)
    rw [same.1]

variable (db userId body) in
/-- An order that is created is consistent exactly when what it takes over from its agreement is
sound; a context that is stored always is. -/
theorem marketplace_consistency_iff (createdAt : Instant) (new : NewOrder) :
    (∀ order, (createOrder db userId body createdAt new).1.orders = db.orders ++ [order] →
      (ConsistentRefs db order.header.references ↔ TakenOverSound db userId body)) ∧
        ∀ context, ContextLaw db userId context :=
  ⟨fun _ created => placed_consistent_iff (createOrder_creates created),
    updateClientContext_law db userId⟩

def contractMarket (contractActive : Bool) : Marketplace :=
  { agreementMarket with
    agreements := [⟨"a", "a-guid", "Соглашение", none, true, some "c", some "k", none, none⟩]
    contracts := [⟨"k", "k-guid", "1", contractActive, "c"⟩] }

theorem contract_market_consistent : ∃ order,
    (createOrder (contractMarket true) 1 agreementBody 0 ⟨⟨"o", "o-guid"⟩, fun _ => "l"⟩).1.orders =
        (contractMarket true).orders ++ [order] ∧ order.header.contractId = some "k" ∧
      ConsistentRefs (contractMarket true) order.header.references := by
  refine ⟨_, rfl, rfl, ((marketplace_consistency_iff (contractMarket true) 1 agreementBody 0
    ⟨⟨"o", "o-guid"⟩, fun _ => "l"⟩).1 _ rfl).mpr ?_⟩
  rintro profile known agreement chosen
  cases known
  cases chosen
  constructor
  · rintro absent id named
    cases named
    exact ⟨_, List.mem_singleton_self _, rfl, rfl, rfl⟩
  · rintro absent id named
    cases named

/-- The contract of the agreement is stored although it is not active. -/
theorem inactive_contract_stored : ¬ ∀ (db : Marketplace) (userId : Nat) (body : OrderCreateBody)
    (createdAt : Instant) (new : NewOrder) (order : Order),
    (createOrder db userId body createdAt new).1.orders = db.orders ++ [order] →
      ConsistentRefs db order.header.references := by
  intro always
  have consistent := always (contractMarket false) 1 agreementBody 0
    ⟨⟨"o", "o-guid"⟩, fun _ => "l"⟩ _ rfl
  obtain ⟨row, listed, -, active, -⟩ := consistent.contract "k" rfl
  cases List.mem_singleton.mp listed
  cases active

end Orders

end LeaderProduct
