import LeaderProduct.RefreshTokens
import LeaderProduct.Transition

/-! The exchange of refresh tokens in any interleaving of requests, logins and logouts. The
conditional claim is where competitors are told apart: who holds a row holds it unrevoked
until its own commit, so a committed exchange finds no earlier one of the same token. -/
namespace LeaderProduct
open Transition

structure Holds (s : AuthState) (request : Nat) (claim : TokenClaim) : Prop where
  locked : s.lockedBy claim.id = some request
  live : ∃ row, s.tokens claim.id = some row ∧ row.revoked = false ∧
    row.userId = claim.userId ∧ row.familyId = claim.familyId

structure PendingSuccessor (s : AuthState) (claim : TokenClaim) (successor : Nat)
    (row : RefreshToken) : Prop where
  numbered : successor < s.nextId
  uncommitted : s.tokens successor = none
  userId : row.userId = claim.userId
  familyId : row.familyId = claim.familyId
  live : row.revoked = false

structure Linked (s : AuthState) (id successor : Nat) : Prop where
  numbered : successor < s.nextId
  rows : ∃ row next, s.tokens id = some row ∧ row.revoked = true ∧
    row.replacedById = some successor ∧ s.tokens successor = some next ∧
    next.userId = row.userId ∧ next.familyId = row.familyId

def PhaseHolds (s : AuthState) (request : Nat) : TokenPhase → Prop
  | .received _ | .refused _ => True
  | .found id userId | .authorised id userId =>
    ∃ row, s.tokens id = some row ∧ row.userId = userId
  | .checked id userId familyId =>
    ∃ row, s.tokens id = some row ∧ row.userId = userId ∧ row.familyId = familyId
  | .claimed claim => Holds s request claim
  | .created claim successor row | .linked claim successor row =>
    Holds s request claim ∧ PendingSuccessor s claim successor row
  | .rotated id successor => Linked s id successor

def TokenPhase.successor : TokenPhase → Option Nat
  | .created _ successor _ | .linked _ successor _ | .rotated _ successor => some successor
  | _ => none

structure TokensInvariant (s : AuthState) : Prop where
  numbered : ∀ id row, s.tokens id = some row → id < s.nextId
  family : ∀ id row, s.tokens id = some row → ∃ f, row.familyId = some f ∧ f < s.draws
  oneLive : ∀ id other row row', s.tokens id = some row → s.tokens other = some row' →
    row.familyId = row'.familyId → row.revoked = false → row'.revoked = false → id = other
  loggedOut : ∀ id, s.loggedOut id = true → ∃ row, s.tokens id = some row ∧ row.revoked = true

structure AuthInvariant (s : AuthState) : Prop where
  tokens : TokensInvariant s
  phases : ∀ request phase, s.requests request = some phase → PhaseHolds s request phase
  distinct : ∀ r r' phase phase' n, s.requests r = some phase → s.requests r' = some phase' →
    phase.successor = some n → phase'.successor = some n → r = r'
  once : ∀ r r' id n n', s.requests r = some (.rotated id n) →
    s.requests r' = some (.rotated id n') → r = r'

structure SparesRequest (s after : AuthState) (request : Nat) : Prop where
  rows : ∀ id row, s.tokens id = some row → ∃ row', after.tokens id = some row' ∧
    row'.userId = row.userId ∧ row'.familyId = row.familyId ∧
    (row.revoked = true → row'.revoked = true ∧ row'.replacedById = row.replacedById)
  held : ∀ id row, s.lockedBy id = some request → s.tokens id = some row →
    after.lockedBy id = some request ∧ after.tokens id = some row
  numbers : s.nextId ≤ after.nextId

variable {claim : TokenClaim} {row : RefreshToken}

section Spares
variable {s after : AuthState} {request : Nat}

theorem Holds.mono (holds : Holds s request claim) (spares : SparesRequest s after request) :
    Holds after request claim := by
  obtain ⟨row, found, live⟩ := holds.live
  obtain ⟨locked, kept⟩ := spares.held claim.id row holds.locked found
  exact ⟨locked, row, kept, live⟩

theorem PendingSuccessor.mono {successor : Nat} (pending : PendingSuccessor s claim successor row)
    (spares : SparesRequest s after request) (uncommitted : after.tokens successor = none) :
    PendingSuccessor after claim successor row :=
  ⟨Nat.lt_of_lt_of_le pending.numbered spares.numbers, uncommitted, pending.userId,
    pending.familyId, pending.live⟩

theorem Linked.mono {id successor : Nat} (linked : Linked s id successor)
    (spares : SparesRequest s after request) : Linked after id successor := by
  obtain ⟨row, next, found, revoked, replaced, foundNext, userId, familyId⟩ := linked.rows
  obtain ⟨row', found', userId', familyId', stays⟩ := spares.rows id row found
  obtain ⟨next', foundNext', nextUser, nextFamily, _⟩ := spares.rows successor next foundNext
  obtain ⟨revoked', replaced'⟩ := stays revoked
  refine ⟨Nat.lt_of_lt_of_le linked.numbered spares.numbers, row', next', found', revoked',
    replaced'.trans replaced, foundNext', ?_, ?_⟩
  · rw [nextUser, userId, userId']
  · rw [nextFamily, familyId, familyId']

theorem PhaseHolds.mono {phase : TokenPhase} (holds : PhaseHolds s request phase)
    (spares : SparesRequest s after request)
    (uncommitted : ∀ n, phase.successor = some n → s.tokens n = none → after.tokens n = none) :
    PhaseHolds after request phase := by
  cases phase with
  | received _ => trivial
  | refused _ => trivial
  | found id userId =>
    obtain ⟨row, found, rfl⟩ := holds
    obtain ⟨row', found', userId', _⟩ := spares.rows id row found
    exact ⟨row', found', userId'⟩
  | authorised id userId =>
    obtain ⟨row, found, rfl⟩ := holds
    obtain ⟨row', found', userId', _⟩ := spares.rows id row found
    exact ⟨row', found', userId'⟩
  | checked id userId familyId =>
    obtain ⟨row, found, rfl, rfl⟩ := holds
    obtain ⟨row', found', userId', familyId', _⟩ := spares.rows id row found
    exact ⟨row', found', userId', familyId'⟩
  | claimed claim => exact Holds.mono holds spares
  | created claim successor row =>
    exact ⟨holds.1.mono spares,
      holds.2.mono spares (uncommitted successor rfl holds.2.uncommitted)⟩
  | linked claim successor row =>
    exact ⟨holds.1.mono spares,
      holds.2.mono spares (uncommitted successor rfl holds.2.uncommitted)⟩
  | rotated id successor => exact Linked.mono holds spares

end Spares

section Requests
variable {s after : AuthState} {request : Nat} {phase : TokenPhase}

theorem AuthInvariant.enters (inv : AuthInvariant s) (tokens : TokensInvariant after)
    (entered : after.requests = Function.update s.requests request (some phase))
    (holds : PhaseHolds after request phase)
    (spares : ∀ r, r ≠ request → SparesRequest s after r)
    (uncommitted : ∀ r p n, r ≠ request → s.requests r = some p → p.successor = some n →
      s.tokens n = none → after.tokens n = none)
    (distinct : ∀ r p n, r ≠ request → s.requests r = some p → p.successor = some n →
      phase.successor ≠ some n)
    (once : ∀ r id n n', r ≠ request → s.requests r = some (.rotated id n) →
      phase ≠ .rotated id n') : AuthInvariant after := by
  have cases_of (r : Nat) (p : TokenPhase) (current : after.requests r = some p) :
      r = request ∧ p = phase ∨ r ≠ request ∧ s.requests r = some p := by
    rw [entered] at current
    by_cases own : r = request
    · subst own
      rw [Function.update_self, Option.some.injEq] at current
      exact .inl ⟨rfl, current.symm⟩
    · rw [Function.update_of_ne own] at current
      exact .inr ⟨own, current⟩
  constructor
  · exact tokens
  · intro r p current
    rcases cases_of r p current with ⟨rfl, rfl⟩ | ⟨other, before⟩
    · exact holds
    · exact (inv.phases r p before).mono (spares r other)
        (fun n => uncommitted r p n other before)
  · intro r r' p p' n current current' successor successor'
    rcases cases_of r p current with ⟨rfl, rfl⟩ | ⟨other, before⟩ <;>
      rcases cases_of r' p' current' with ⟨rfl, rfl⟩ | ⟨other', before'⟩
    · rfl
    · exact absurd successor (distinct r' p' n other' before' successor')
    · exact absurd successor' (distinct r p n other before successor)
    · exact inv.distinct r r' p p' n before before' successor successor'
  · intro r r' id n n' current current'
    rcases cases_of r _ current with ⟨rfl, same⟩ | ⟨other, before⟩ <;>
      rcases cases_of r' _ current' with ⟨rfl, same'⟩ | ⟨other', before'⟩
    · rfl
    · exact absurd same.symm (once r' id n' n other' before')
    · exact absurd same'.symm (once r id n n' other before)
    · exact inv.once r r' id n n' before before'

theorem AuthInvariant.enter (inv : AuthInvariant s) (holds : PhaseHolds s request phase)
    (successor : ∀ n, phase.successor = some n →
      ∃ before, s.requests request = some before ∧ before.successor = some n)
    (unrotated : ∀ id n, phase ≠ .rotated id n) : AuthInvariant (s.enter request phase) := by
  refine @AuthInvariant.enters s (s.enter request phase) _ _ inv ⟨inv.tokens.numbered, inv.tokens.family,
    inv.tokens.oneLive, inv.tokens.loggedOut⟩ rfl ?_ ?_ (fun _ _ _ _ _ _ none => none) ?_ ?_
  · exact holds.mono ⟨fun id row found => ⟨row, found, rfl, rfl, fun h => ⟨h, rfl⟩⟩,
      fun id _ locked found => ⟨locked, found⟩, Nat.le_refl _⟩ (fun _ _ none => none)
  · exact fun _ _ => ⟨fun id row found => ⟨row, found, rfl, rfl, fun h => ⟨h, rfl⟩⟩,
      fun id _ locked found => ⟨locked, found⟩, Nat.le_refl _⟩
  · intro r p n other current taken entered
    obtain ⟨before, own, same⟩ := successor n entered
    exact other (inv.distinct r request p before n current own taken same)
  · exact fun _ id _ n' _ _ => unrotated id n'

end Requests

section Steps
variable {settings : AuthSettings} {s : AuthState} {request : Nat}

theorem sparesRequest_of_rows {after : AuthState} {r : Nat} (rows : after.tokens = s.tokens)
    (locks : ∀ id, s.lockedBy id = some r → after.lockedBy id = some r)
    (numbers : s.nextId ≤ after.nextId) : SparesRequest s after r := by
  have kept (id : Nat) (row : RefreshToken) (found : s.tokens id = some row) :
      after.tokens id = some row := by
    rw [rows]
    exact found
  exact ⟨fun id row found => ⟨row, kept id row found, rfl, rfl, fun revoked => ⟨revoked, rfl⟩⟩,
    fun id row locked found => ⟨locks id locked, kept id row found⟩, numbers⟩

theorem AuthInvariant.refuse (inv : AuthInvariant s) (status : Nat) :
    AuthInvariant (s.enter request (.refused status)) :=
  inv.enter trivial nofun nofun

theorem AuthInvariant.claimToken (inv : AuthInvariant s) {id userId : Nat} {familyId : Option Nat}
    (current : s.requests request = some (.checked id userId familyId)) :
    AuthInvariant (claimToken settings s request id userId familyId) := by
  unfold LeaderProduct.claimToken
  split
  · exact inv
  · rename_i unlocked
    obtain ⟨row, found, userId', familyId'⟩ := inv.phases request _ current
    rw [found]
    dsimp only
    split
    · rename_i live
      have others (r : Nat) (other : r ≠ request) (i : Nat) (locked : s.lockedBy i = some r) :
          Function.update s.lockedBy id (some request) i = some r := by
        rw [Function.update_of_ne, locked]
        rintro rfl
        rw [unlocked] at locked
        cases locked
      refine inv.enters ⟨inv.tokens.numbered, inv.tokens.family, inv.tokens.oneLive,
        inv.tokens.loggedOut⟩ rfl ?_
        (fun r other => sparesRequest_of_rows rfl (others r other) (Nat.le_refl _))
        (fun _ _ _ _ _ _ none => none) (fun _ _ _ _ _ _ => nofun) (fun _ _ _ _ _ _ => nofun)
      exact ⟨Function.update_self .., row, found, live.1, userId', familyId'⟩
    · exact inv.refuse 409

variable {i userId : Nat} {stored r : RefreshToken} {refreshToken : String}

theorem Holds.others {r : Nat} (holds : Holds s request claim) (other : r ≠ request)
    (locked : s.lockedBy i = some r) : i ≠ claim.id := by
  rintro rfl
  rw [holds.locked, Option.some.injEq] at locked
  exact other locked.symm

theorem AuthInvariant.release (inv : AuthInvariant s) (holds : Holds s request claim) :
    AuthInvariant { s.enter request (.refused 500) with
      lockedBy := Function.update s.lockedBy claim.id none } := by
  refine inv.enters ⟨inv.tokens.numbered, inv.tokens.family, inv.tokens.oneLive,
    inv.tokens.loggedOut⟩ rfl trivial
    (fun r other => sparesRequest_of_rows rfl (fun i locked => ?_) (Nat.le_refl _))
    (fun _ _ _ _ _ _ none => none) (fun _ _ _ _ _ _ => nofun) (fun _ _ _ _ _ _ => nofun)
  exact (Function.update_of_ne (holds.others other locked) ..).trans locked

theorem AuthInvariant.failRequest (inv : AuthInvariant s) :
    AuthInvariant (failRequest s request) := by
  unfold LeaderProduct.failRequest
  split
  · exact inv
  · exact inv
  · exact inv
  · rename_i claim current
    exact inv.release (inv.phases request _ current)
  · rename_i claim successor row current
    exact inv.release (inv.phases request _ current).1
  · rename_i claim successor row current
    exact inv.release (inv.phases request _ current).1
  all_goals exact inv.refuse 500

theorem AuthInvariant.successor_lt (inv : AuthInvariant s) {r n : Nat} {phase : TokenPhase}
    (current : s.requests r = some phase) (successor : phase.successor = some n) :
    n < s.nextId := by
  have holds := inv.phases r phase current
  cases phase with
  | created claim m row =>
    cases successor
    exact holds.2.numbered
  | linked claim m row =>
    cases successor
    exact holds.2.numbered
  | rotated id m =>
    cases successor
    exact holds.numbered
  | _ => cases successor

theorem AuthInvariant.createToken (inv : AuthInvariant s) {claim : TokenClaim}
    {rawToken : String} {deviceSessionId : Option Id}
    (current : s.requests request = some (.claimed claim)) :
    AuthInvariant (createToken settings s request rawToken deviceSessionId claim) := by
  have holds : Holds s request claim := inv.phases request _ current
  obtain ⟨row, found, live, userId, familyId⟩ := holds.live
  obtain ⟨f, family, drawn⟩ := inv.tokens.family claim.id row found
  have named : claim.familyId = some f := familyId.symm.trans family
  refine inv.enters ⟨fun i row found => Nat.lt_succ_of_lt (inv.tokens.numbered i row found), ?_,
    inv.tokens.oneLive, inv.tokens.loggedOut⟩ rfl ?_
    (fun r other => sparesRequest_of_rows rfl (fun _ locked => locked) (Nat.le_succ _))
    (fun _ _ _ _ _ _ none => none) ?_ (fun _ _ _ _ _ _ => nofun)
  · simpa [LeaderProduct.createToken, AuthState.enter, named] using inv.tokens.family
  · refine ⟨⟨holds.locked, row, found, live, userId, familyId⟩, Nat.lt_succ_self _, ?_, rfl, ?_, rfl⟩
    · cases taken : s.tokens s.nextId with
      | none => exact taken
      | some row => exact absurd (inv.tokens.numbered _ row taken) (Nat.lt_irrefl _)
    · simp [createdToken, named]
  · intro r p n _ before taken next
    cases next
    exact absurd (inv.successor_lt before taken) (Nat.lt_irrefl _)

section
variable (found : s.tokens claim.id = some stored)
include found

theorem commitRotation_tokens {successor : Nat} (i : Nat) :
    (commitRotation s request claim successor row).tokens i =
      if i = successor then some row
      else if i = claim.id then some (rotatedToken claim successor stored)
      else s.tokens i := by
  simp only [commitRotation, AuthState.enter, Function.update_apply, found, Option.map_some]

theorem commitRotation_origin {successor : Nat}
    (after : (commitRotation s request claim successor row).tokens i = some r) :
    i = successor ∧ r = row ∨ i = claim.id ∧ r = rotatedToken claim successor stored ∨
      i ≠ claim.id ∧ s.tokens i = some r := by
  rw [commitRotation_tokens found] at after
  split at after
  · rename_i here
    exact .inl ⟨here, (Option.some.inj after).symm⟩
  · split at after
    · rename_i here
      exact .inr (.inl ⟨here, (Option.some.inj after).symm⟩)
    · rename_i other
      exact .inr (.inr ⟨other, after⟩)

theorem commitRotation_kept {successor : Nat}
    (uncommitted : s.tokens successor = none) (before : s.tokens i = some r)
    (other : i ≠ claim.id) : (commitRotation s request claim successor row).tokens i = some r := by
  have committed : i ≠ successor := by
    rintro rfl
    rw [uncommitted] at before
    cases before
  rw [commitRotation_tokens found, if_neg committed, if_neg other, before]

theorem commitRotation_claimed {successor : Nat} (uncommitted : s.tokens successor = none) :
    (commitRotation s request claim successor row).tokens claim.id =
      some (rotatedToken claim successor stored) := by
  have new : claim.id ≠ successor := by
    intro same
    rw [same, uncommitted] at found
    cases found
  rw [commitRotation_tokens found, if_neg new, if_pos rfl]

end

theorem AuthInvariant.tokens_commitRotation (inv : AuthInvariant s) {successor : Nat}
    (current : s.requests request = some (.linked claim successor row)) :
    TokensInvariant (LeaderProduct.commitRotation s request claim successor row) := by
  obtain ⟨holds, pending⟩ : Holds s request claim ∧ PendingSuccessor s claim successor row :=
    inv.phases request _ current
  obtain ⟨stored, found, live, userId, familyId⟩ := holds.live
  have only_claimed (i : Nat) (r : RefreshToken) (before : s.tokens i = some r)
      (other : i ≠ claim.id) (unrevoked : r.revoked = false) : r.familyId ≠ row.familyId := by
    intro same
    exact other (inv.tokens.oneLive i claim.id r stored before found
      (same.trans (pending.familyId.trans familyId.symm)) unrevoked live)
  constructor
  · intro i r after
    rcases commitRotation_origin found after with ⟨rfl, _⟩ | ⟨rfl, _⟩ | ⟨_, before⟩
    · exact pending.numbered
    · exact inv.tokens.numbered _ _ found
    · exact inv.tokens.numbered i r before
  · intro i r after
    rcases commitRotation_origin found after with ⟨_, rfl⟩ | ⟨_, rfl⟩ | ⟨_, before⟩
    · rw [pending.familyId, ← familyId]
      exact inv.tokens.family _ _ found
    · exact inv.tokens.family claim.id stored found
    · exact inv.tokens.family i r before
  · intro i j r r' after after' same unrevoked unrevoked'
    rcases commitRotation_origin found after with ⟨rfl, rfl⟩ | ⟨_, rfl⟩ | ⟨other, before⟩
    · rcases commitRotation_origin found after' with ⟨rfl, _⟩ | ⟨_, rfl⟩ | ⟨other', before'⟩
      · rfl
      · cases unrevoked'
      · exact absurd same.symm (only_claimed j r' before' other' unrevoked')
    · cases unrevoked
    · rcases commitRotation_origin found after' with ⟨rfl, rfl⟩ | ⟨_, rfl⟩ | ⟨other', before'⟩
      · exact absurd same (only_claimed i r before other unrevoked)
      · cases unrevoked'
      · exact inv.tokens.oneLive i j r r' before before' same unrevoked unrevoked'
  · intro i ended
    obtain ⟨r, before, revoked⟩ := inv.tokens.loggedOut i ended
    by_cases own : i = claim.id
    · subst own
      exact ⟨_, commitRotation_claimed found pending.uncommitted, rfl⟩
    · exact ⟨r, commitRotation_kept found pending.uncommitted before own, revoked⟩

theorem AuthInvariant.commitRotation (inv : AuthInvariant s) {claim : TokenClaim}
    {successor : Nat} {row : RefreshToken}
    (current : s.requests request = some (.linked claim successor row)) :
    AuthInvariant (commitRotation s request claim successor row) := by
  obtain ⟨holds, pending⟩ : Holds s request claim ∧ PendingSuccessor s claim successor row :=
    inv.phases request _ current
  obtain ⟨stored, found, live, userId, familyId⟩ := holds.live
  have rows := @commitRotation_tokens claim row s request stored found successor
  have claimed : (LeaderProduct.commitRotation s request claim successor row).tokens claim.id =
      some (rotatedToken claim successor stored) :=
    commitRotation_claimed found pending.uncommitted
  refine inv.enters (inv.tokens_commitRotation current) rfl ?_ ?_ ?_ ?_ ?_
  · refine ⟨pending.numbered, _, row, claimed, rfl, rfl, ?_, ?_, ?_⟩
    · rw [rows, if_pos rfl]
    · exact pending.userId.trans userId.symm
    · exact pending.familyId.trans familyId.symm
  · intro r other
    refine ⟨fun i before found' => ?_, fun i before locked found' => ?_, Nat.le_refl _⟩
    · by_cases own : i = claim.id
      · subst own
        rw [found, Option.some.injEq] at found'
        subst found'
        exact ⟨_, claimed, rfl, rfl, fun revoked => by rw [live] at revoked; cases revoked⟩
      · exact ⟨before, commitRotation_kept found pending.uncommitted found' own, rfl, rfl,
          fun revoked => ⟨revoked, rfl⟩⟩
    · have elsewhere := holds.others other locked
      exact ⟨(Function.update_of_ne elsewhere ..).trans locked,
        commitRotation_kept found pending.uncommitted found' elsewhere⟩
  · intro r p n other before taken none_before
    have committed : n ≠ successor := by
      rintro rfl
      exact other (inv.distinct r request p _ n before current taken rfl)
    have elsewhere : n ≠ claim.id := by
      rintro rfl
      rw [found] at none_before
      cases none_before
    rw [rows, if_neg committed, if_neg elsewhere, none_before]
  · intro r p n other before taken next
    cases next
    exact other (inv.distinct r request p _ _ before current taken rfl)
  · intro r id n n' other before rotated
    cases rotated
    obtain ⟨earlier, _, found', revoked, _⟩ := (inv.phases r _ before).rows
    rw [found, Option.some.injEq] at found'
    subst found'
    rw [live] at revoked
    cases revoked

theorem AuthInvariant.keepsRequests (inv : AuthInvariant s) {after : AuthState}
    (tokens : TokensInvariant after) (same : after.requests = s.requests)
    (spares : ∀ r, SparesRequest s after r)
    (uncommitted : ∀ r p n, s.requests r = some p → p.successor = some n →
      s.tokens n = none → after.tokens n = none) : AuthInvariant after := by
  refine ⟨tokens, fun r p current => ?_, ?_, ?_⟩
  · rw [same] at current
    exact (inv.phases r p current).mono (spares r) (fun n => uncommitted r p n current)
  · rw [same]
    exact inv.distinct
  · rw [same]
    exact inv.once

theorem AuthInvariant.tick (inv : AuthInvariant s) (ms : Nat) :
    AuthInvariant { s with clock := s.clock + ms } :=
  inv.keepsRequests ⟨inv.tokens.numbered, inv.tokens.family, inv.tokens.oneLive,
    inv.tokens.loggedOut⟩ rfl
    (fun _ => sparesRequest_of_rows rfl (fun _ locked => locked) (Nat.le_refl _))
    (fun _ _ _ _ _ none => none)

theorem AuthInvariant.loginToken (inv : AuthInvariant s) (userId : Nat) (rawToken : String)
    (deviceSessionId : Option Id) :
    AuthInvariant (loginToken settings s userId rawToken deviceSessionId) := by
  have unissued : s.tokens s.nextId = none := by
    cases taken : s.tokens s.nextId with
    | none => rfl
    | some row => exact absurd (inv.tokens.numbered _ row taken) (Nat.lt_irrefl _)
  have origin (i : Nat) (r : RefreshToken)
      (after : (LeaderProduct.loginToken settings s userId rawToken deviceSessionId).tokens i =
        some r) :
      i = s.nextId ∧ r = createdToken settings rawToken userId deviceSessionId s.draws s.clock ∨
        s.tokens i = some r := by
    simp only [LeaderProduct.loginToken, Function.update_apply] at after
    split at after
    · rename_i new
      exact .inl ⟨new, (Option.some.inj after).symm⟩
    · exact .inr after
  have kept (i : Nat) (r : RefreshToken) (before : s.tokens i = some r) :
      (LeaderProduct.loginToken settings s userId rawToken deviceSessionId).tokens i = some r := by
    refine (Function.update_of_ne ?_ ..).trans before
    exact Nat.ne_of_lt (inv.tokens.numbered i r before)
  have unshared (i : Nat) (r : RefreshToken) (before : s.tokens i = some r) :
      r.familyId ≠ some s.draws := by
    obtain ⟨f, family, drawn⟩ := inv.tokens.family i r before
    rw [family]
    exact fun same => absurd (Option.some.inj same) (Nat.ne_of_lt drawn)
  refine inv.keepsRequests ⟨?_, ?_, ?_, ?_⟩ rfl (fun r => ⟨fun i row found =>
    ⟨row, kept i row found, rfl, rfl, fun revoked => ⟨revoked, rfl⟩⟩,
    fun i row locked found => ⟨locked, kept i row found⟩, Nat.le_succ _⟩) ?_
  · intro i r after
    rcases origin i r after with ⟨rfl, _⟩ | before
    · exact Nat.lt_succ_self _
    · exact Nat.lt_succ_of_lt (inv.tokens.numbered i r before)
  · intro i r after
    rcases origin i r after with ⟨_, rfl⟩ | before
    · exact ⟨s.draws, rfl, Nat.lt_succ_self _⟩
    · obtain ⟨f, family, drawn⟩ := inv.tokens.family i r before
      exact ⟨f, family, Nat.lt_succ_of_lt drawn⟩
  · intro i j r r' after after' same unrevoked unrevoked'
    rcases origin i r after with ⟨rfl, rfl⟩ | before <;>
      rcases origin j r' after' with ⟨rfl, rfl⟩ | before'
    · rfl
    · exact absurd same.symm (unshared j r' before')
    · exact absurd same (unshared i r before)
    · exact inv.tokens.oneLive i j r r' before before' same unrevoked unrevoked'
  · intro i ended
    obtain ⟨r, before, revoked⟩ := inv.tokens.loggedOut i ended
    exact ⟨r, kept i r before, revoked⟩
  · intro r p n current successor none_before
    refine (Function.update_of_ne ?_ ..).trans none_before
    exact Nat.ne_of_lt (inv.successor_lt current successor)

section
variable (proceeds : logoutWaits settings s userId refreshToken = false)
include proceeds

theorem logoutToken_tokens (i : Nat) : (logoutToken settings s userId refreshToken).tokens i =
      (s.tokens i).map (fun row =>
        { row with revoked := row.revoked || logoutHits settings s userId refreshToken i }) := by
  unfold logoutToken
  rw [if_neg (Bool.eq_false_iff.mp proceeds)]
  dsimp only
  cases s.tokens i <;> cases logoutHits settings s userId refreshToken i <;> simp

theorem logoutToken_origin
    (after : (logoutToken settings s userId refreshToken).tokens i = some r) :
    ∃ before, s.tokens i = some before ∧
      { before with
        revoked := before.revoked || logoutHits settings s userId refreshToken i } = r :=
  Option.map_eq_some_iff.mp ((logoutToken_tokens proceeds i).symm.trans after)

theorem logoutToken_row (before : s.tokens i = some r) :
    (logoutToken settings s userId refreshToken).tokens i = some
      { r with revoked := r.revoked || logoutHits settings s userId refreshToken i } := by
  rw [logoutToken_tokens proceeds, before, Option.map_some]

theorem logoutToken_loggedOut (i : Nat) :
    (logoutToken settings s userId refreshToken).loggedOut i =
      (s.loggedOut i || logoutHits settings s userId refreshToken i) := by
  unfold logoutToken
  rw [if_neg (Bool.eq_false_iff.mp proceeds)]

end

theorem logoutToken_clock :
    (logoutToken settings s userId refreshToken).clock = s.clock := by
  unfold logoutToken
  split <;> rfl

theorem logoutToken_waits (waits : logoutWaits settings s userId refreshToken = true) :
    logoutToken settings s userId refreshToken = s := if_pos waits

theorem exists_of_logoutHits (hit : logoutHits settings s userId refreshToken i = true) :
    ∃ row, s.tokens i = some row := by
  unfold logoutHits at hit
  split at hit
  · rename_i row found
    exact ⟨row, found⟩
  · cases hit

theorem AuthInvariant.unlocked_of_hit (inv : AuthInvariant s)
    (proceeds : logoutWaits settings s userId refreshToken = false) {id : Nat}
    (hit : logoutHits settings s userId refreshToken id = true) :
    s.lockedBy id = none := by
  obtain ⟨row, found⟩ := exists_of_logoutHits hit
  have numbered := inv.tokens.numbered id row found
  simp only [logoutWaits, List.any_eq_false, List.mem_range, Bool.and_eq_true, not_and] at proceeds
  exact Option.not_isSome_iff_eq_none.mp (proceeds id numbered hit)

theorem AuthInvariant.logoutToken (inv : AuthInvariant s) (userId : Nat) (refreshToken : String) :
    AuthInvariant (logoutToken settings s userId refreshToken) := by
  cases proceeds : logoutWaits settings s userId refreshToken with
  | true =>
    rw [logoutToken_waits proceeds]
    exact inv
  | false =>
    have frame : (LeaderProduct.logoutToken settings s userId refreshToken).requests =
          s.requests ∧
        (LeaderProduct.logoutToken settings s userId refreshToken).lockedBy = s.lockedBy ∧
        (LeaderProduct.logoutToken settings s userId refreshToken).nextId = s.nextId ∧
        (LeaderProduct.logoutToken settings s userId refreshToken).draws = s.draws := by
      unfold LeaderProduct.logoutToken
      split <;> exact ⟨rfl, rfl, rfl, rfl⟩
    obtain ⟨requests, locks, numbers, draws⟩ := frame
    have live {i : Nat} {before : RefreshToken}
        (unrevoked : (before.revoked || logoutHits settings s userId refreshToken i) = false) :
        before.revoked = false := (Bool.or_eq_false_iff.mp unrevoked).1
    refine inv.keepsRequests ⟨?_, ?_, ?_, ?_⟩ requests (fun r => ⟨?_, ?_, ?_⟩) ?_
    · intro i r after
      obtain ⟨before, found, rfl⟩ := logoutToken_origin proceeds after
      rw [numbers]
      exact inv.tokens.numbered i before found
    · intro i r after
      obtain ⟨before, found, rfl⟩ := logoutToken_origin proceeds after
      rw [draws]
      exact inv.tokens.family i before found
    · intro i j r r' after after' same unrevoked unrevoked'
      obtain ⟨before, found, rfl⟩ := logoutToken_origin proceeds after
      obtain ⟨before', found', rfl⟩ := logoutToken_origin proceeds after'
      exact inv.tokens.oneLive i j before before' found found' same (live unrevoked)
        (live unrevoked')
    · intro i ended
      rw [logoutToken_loggedOut proceeds] at ended
      rcases Bool.or_eq_true_iff.mp ended with earlier | hit
      · obtain ⟨r, before, revoked⟩ := inv.tokens.loggedOut i earlier
        exact ⟨_, logoutToken_row proceeds before, by rw [revoked, Bool.true_or]⟩
      · obtain ⟨r, before⟩ := exists_of_logoutHits hit
        exact ⟨_, logoutToken_row proceeds before, by rw [hit, Bool.or_true]⟩
    · intro i row found
      exact ⟨_, logoutToken_row proceeds found, rfl, rfl,
        fun revoked => ⟨by rw [revoked, Bool.true_or], rfl⟩⟩
    · intro i row locked found
      have missed : logoutHits settings s userId refreshToken i = false := by
        refine Bool.eq_false_iff.mpr (fun hit => ?_)
        rw [inv.unlocked_of_hit proceeds hit] at locked
        cases locked
      refine ⟨by rw [locks]; exact locked, (logoutToken_row proceeds found).trans ?_⟩
      rw [missed, Bool.or_false]
    · exact Nat.le_of_eq numbers.symm
    · intro r p n _ _ none_before
      rw [logoutToken_tokens proceeds, none_before, Option.map_none]

theorem authStep_invariant (settings : AuthSettings) (s : AuthState) (a : AuthAction)
    (inv : AuthInvariant s) : AuthInvariant (authStep settings s a) := by
  cases a with
  | receive request refreshToken =>
    simp only [authStep]
    split
    · exact inv.enter trivial nofun nofun
    · exact inv
  | find request pick =>
    simp only [authStep]
    split
    · rename_i refreshToken current
      unfold findToken
      split
      · exact inv.refuse 403
      · rename_i id row picked
        split
        · split <;> exact inv.refuse _
        · split
          · exact inv.refuse 403
          · refine inv.enter ?_ nofun nofun
            obtain ⟨_, _, mapped⟩ := Option.bind_eq_some_iff.mp picked
            obtain ⟨_, filtered, same⟩ := Option.map_eq_some_iff.mp mapped
            cases same
            exact ⟨_, (Option.filter_eq_some_iff.mp filtered).1, rfl⟩
    · exact inv
  | authorise request payloadUserId userExists =>
    simp only [authStep]
    split
    · rename_i id userId current
      split
      · have holds : PhaseHolds s request (.found id userId) := inv.phases request _ current
        exact @AuthInvariant.enter s request (.authorised id userId) inv holds nofun nofun
      · exact inv.refuse 403
    · exact inv
  | check request =>
    simp only [authStep]
    split
    · rename_i id userId current
      unfold checkToken
      split
      · exact inv.refuse 409
      · rename_i row found
        split
        · exact inv.refuse 409
        · obtain ⟨row', found', userId'⟩ := inv.phases request _ current
          rw [found, Option.some.injEq] at found'
          subst found'
          exact inv.enter ⟨row, found, userId', rfl⟩ nofun nofun
    · exact inv
  | claim request =>
    simp only [authStep]
    split
    · rename_i current
      exact inv.claimToken current
    · exact inv
  | create request rawToken deviceSessionId =>
    simp only [authStep]
    split
    · rename_i current
      exact inv.createToken current
    · exact inv
  | link request =>
    simp only [authStep]
    split
    · rename_i claim successor row current
      have holds : PhaseHolds s request (.created claim successor row) :=
        inv.phases request _ current
      exact @AuthInvariant.enter s request (.linked claim successor row) inv holds
        (fun n next => ⟨_, current, next⟩) nofun
    · exact inv
  | commit request =>
    simp only [authStep]
    split
    · rename_i current
      exact inv.commitRotation current
    · exact inv
  | fail request => exact inv.failRequest
  | login userId rawToken deviceSessionId => exact inv.loginToken userId rawToken deviceSessionId
  | logout userId refreshToken => exact inv.logoutToken userId refreshToken
  | tick ms => exact inv.tick ms

theorem authInvariant_noTokens : AuthInvariant noTokens := by
  refine ⟨⟨?_, ?_, ?_, ?_⟩, ?_, ?_, ?_⟩
  · exact fun _ _ found => by cases found
  · exact fun _ _ found => by cases found
  · exact fun _ _ _ _ found => by cases found
  · exact fun _ ended => by cases ended
  · exact fun _ _ current => by cases current
  · exact fun _ _ _ _ _ current => by cases current
  · exact fun _ _ _ _ _ current => by cases current

end Steps

/-- Every token is exchanged at most once, a committed exchange has linked its token to a
successor of the same user and family that is no other token's, and of every family at
most one token is not revoked. -/
structure LinearRotation (s : AuthState) : Prop where
  once : ∀ r r' id n n', s.requests r = some (.rotated id n) →
    s.requests r' = some (.rotated id n') → r = r'
  linked : ∀ r id n, s.requests r = some (.rotated id n) →
    ∃ row next, s.tokens id = some row ∧ row.revoked = true ∧ row.replacedById = some n ∧
      s.tokens n = some next ∧ next.familyId = row.familyId ∧ next.userId = row.userId
  distinct : ∀ r r' id id' n, s.requests r = some (.rotated id n) →
    s.requests r' = some (.rotated id' n) → id = id'
  oneLive : ∀ id other row row', s.tokens id = some row → s.tokens other = some row' →
    row.familyId = row'.familyId → row.revoked = false → row'.revoked = false → id = other

theorem AuthInvariant.linear {s : AuthState} (inv : AuthInvariant s) : LinearRotation s := by
  refine ⟨inv.once, fun r id n current => ?_, fun r r' id id' n current current' => ?_,
    inv.tokens.oneLive⟩
  · obtain ⟨row, next, found, revoked, replaced, foundNext, userId, familyId⟩ :=
      (inv.phases r _ current).rows
    exact ⟨row, next, found, revoked, replaced, foundNext, familyId, userId⟩
  · have same := inv.distinct r r' _ _ n current current' rfl rfl
    subst same
    rw [current, Option.some.injEq] at current'
    cases current'
    rfl

/-- In every run of requests, logins and logouts, in whatever order their statements come
and wherever they fail, the exchange of refresh tokens is linear. -/
theorem rotation_is_linear (settings : AuthSettings) (actions : List AuthAction) :
    Always (authStep settings) LinearRotation noTokens actions :=
  always_of_invariant (authStep_invariant settings) (fun _ inv => inv.linear)
    authInvariant_noTokens actions

end LeaderProduct
