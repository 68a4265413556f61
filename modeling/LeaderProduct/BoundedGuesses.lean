import LeaderProduct.ChangeOnce

/-! When a code dies after five wrong guesses, and is refused from then on. -/
namespace LeaderProduct
open Transition Interleaving RowTable

section Activation

def CodeStore.wrong (s : CodeStore) (id : Nat) : Nat :=
  s.guesses.countP (fun guess => guess.rowId == id && !guess.right)

def CodeStore.usesOf (s : CodeStore) (id : Nat) : List CodeUse :=
  s.uses.filter (fun use => use.rowId == id)

def CodeStore.Dead (s : CodeStore) (id : Nat) : Prop :=
  ∃ row, s.code id = some row ∧ row.used = true

def GuessesBounded (s : CodeStore) : Prop := ∀ id, s.wrong id ≤ maxVerificationAttempts

def RefusesDead (s t : CodeStore) : Prop := ∀ id, s.Dead id → t.usesOf id = s.usesOf id

/-- A guess meets a row that has counted all wrong ones before it, and the right code is accepted
in a row that is not used. -/
def CountedGuess : CodeWrite → CodeStore → Prop
  | .compare userId _ now, s =>
    ∀ row, s.latestUnused userId = some row → now < row.expiresAt →
      s.wrong row.id ≤ row.attemptsCount
  | .accept id, s => s.Unused id
  | _, _ => True

instance (w : CodeWrite) (s : CodeStore) : Decidable (CountedGuess w s) :=
  match w with
  | .compare userId _ now =>
    decidable_of_iff ((s.latestUnused userId).all (fun row =>
        !decide (now < row.expiresAt) || decide (s.wrong row.id ≤ row.attemptsCount)) = true) (by
      rw [CountedGuess, Option.all_eq_true]
      simp only [Bool.or_eq_true, Bool.not_eq_true', decide_eq_false_iff_not, decide_eq_true_eq,
        ← imp_iff_not_or])
  | .accept id => inferInstanceAs (Decidable (s.Unused id))
  | .create _ | .retire _ | .prolong _ _ | .miss _ _ | .activate _ | .setPassword _ _ _ =>
    isTrue trivial

def UnusedBelowLimit (s : CodeStore) : Prop :=
  ∀ row ∈ s.codes, row.used = false → row.attemptsCount < maxVerificationAttempts

theorem wrong_append (s : CodeStore) (guess : Guess) (id : Nat) :
    CodeStore.wrong { s with guesses := s.guesses ++ [guess] } id =
      s.wrong id + if guess.rowId = id ∧ guess.right = false then 1 else 0 := by
  simp only [CodeStore.wrong, List.countP_append, List.countP_singleton]
  by_cases same : guess.rowId = id
  · cases guess.right <;> simp [same]
  · simp [same]

variable {s : CodeStore}

theorem below_set (below : UnusedBelowLimit s) {id : Nat} {change : CodeRow → CodeRow}
    (keeps : ∀ row, (row.used = false → row.attemptsCount < maxVerificationAttempts) →
      (change row).used = false → (change row).attemptsCount < maxVerificationAttempts) :
    UnusedBelowLimit (s.setCode id change) := by
  intro row known
  obtain ⟨old, there, rfl⟩ := List.mem_map.mp known
  split
  · exact keeps old (below old there)
  · exact below old there

theorem below_step (w : CodeWrite) (s : CodeStore) (below : UnusedBelowLimit s)
    (activation : w.OfActivation) :
    UnusedBelowLimit (applyCodeWrite w s) := by
  cases w with
  | create row =>
    simp only [applyCodeWrite]
    split
    · exact below
    · intro other known
      rcases List.mem_append.mp known with old | new
      · exact below other old
      · rw [List.mem_singleton.mp new, show row.attemptsCount = 0 from activation]
        exact fun _ => Nat.zero_lt_succ 4
  | retire id => exact below_set below (fun _ _ used => by cases used)
  | prolong id now => exact below_set below (fun _ limit => limit)
  | compare userId code now =>
    simp only [applyCodeWrite]
    split
    · exact below
    · split
      · exact below
      · exact below
  | miss id attempts =>
    refine below_set below (fun row _ unused => ?_)
    have few := (Bool.or_eq_false_iff.mp unused).2
    exact Nat.lt_of_not_le (of_decide_eq_false few)
  | accept id => exact below_set (s := s.takeEffect id) below (fun _ _ used => by cases used)
  | activate userId => exact below
  | setPassword userId passwordHash id => exact below

theorem bounded_step (w : CodeWrite) (s : CodeStore)
    (now : UnusedBelowLimit s ∧ GuessesBounded s) (met : CountedGuess w s) :
    GuessesBounded (applyCodeWrite w s) := by
  obtain ⟨below, bounded⟩ := now
  cases w with
  | compare userId code now =>
    simp only [applyCodeWrite]
    split
    · exact bounded
    · next row found =>
      split
      · exact bounded
      · next valid =>
        have unused := List.mem_filter.mp (mem_of_newestBy found)
        rw [Bool.and_eq_true, Bool.not_eq_true'] at unused
        have limit := below row unused.1 unused.2.2
        have counted := met row found (Int.not_le.mp valid)
        intro id
        rw [wrong_append]
        split
        · next here =>
          rw [← here.1]
          exact Nat.lt_of_le_of_lt counted limit
        · exact bounded id
  | create row =>
    simp only [applyCodeWrite]
    split
    · exact bounded
    · exact bounded
  | retire id => exact bounded
  | prolong id now => exact bounded
  | miss id attempts => exact bounded
  | accept id => exact bounded
  | activate userId => exact bounded
  | setPassword userId passwordHash id => exact bounded

def CodesStayDead (s t : CodeStore) : Prop :=
  ∀ id, s.Dead id → t.Dead id ∧ t.usesOf id = s.usesOf id

theorem CodesStayDead.refl (s : CodeStore) : CodesStayDead s s := fun _ dead => ⟨dead, rfl⟩

theorem CodesStayDead.trans {t u : CodeStore} (first : CodesStayDead s t)
    (second : CodesStayDead t u) :
    CodesStayDead s u := by
  intro id dead
  obtain ⟨later, same⟩ := first id dead
  obtain ⟨last, same'⟩ := second id later
  exact ⟨last, same'.trans same⟩

theorem dead_set {id : Nat} {change : CodeRow → CodeRow} (keeps : ∀ row, (change row).id = row.id)
    (marks : ∀ row, row.used = true → (change row).used = true) :
    CodesStayDead s (s.setCode id change) := by
  rintro other ⟨row, found, used⟩
  refine ⟨?_, rfl⟩
  rw [CodeStore.Dead, code_setCode keeps]
  split
  · next same =>
    rw [← same, found]
    exact ⟨change row, rfl, marks row used⟩
  · exact ⟨row, found, used⟩

theorem dead_step (w : CodeWrite) (s : CodeStore) (met : CountedGuess w s)
    (activation : w.OfActivation) : CodesStayDead s (applyCodeWrite w s) := by
  cases w with
  | create row =>
    simp only [applyCodeWrite]
    split
    · exact CodesStayDead.refl s
    · rintro id ⟨old, found, used⟩
      refine ⟨⟨old, ?_, used⟩, rfl⟩
      simp only [CodeStore.code] at found ⊢
      rw [lookup_append, found, Option.some_or]
  | retire id => exact dead_set (fun _ => rfl) (fun _ _ => rfl)
  | prolong id now => exact dead_set (fun _ => rfl) (fun _ used => used)
  | compare userId code now =>
    have same : ∀ guesses, CodesStayDead s { s with guesses := guesses } :=
      fun guesses id dead => ⟨dead, rfl⟩
    simp only [applyCodeWrite]
    split
    · exact CodesStayDead.refl s
    · split
      · exact CodesStayDead.refl s
      · exact same _
  | miss id attempts =>
    refine dead_set (fun _ => rfl) (fun row used => ?_)
    rw [used, Bool.true_or]
  | accept id =>
    intro other dead
    have marked : CodesStayDead s (s.setCode id CodeRow.mark) :=
      dead_set (fun _ => rfl) (fun _ _ => rfl)
    refine ⟨(marked other dead).1, ?_⟩
    have different : id ≠ other := by
      rintro rfl
      obtain ⟨row, found, unused⟩ := met
      obtain ⟨row', found', used⟩ := dead
      rw [found, Option.some.injEq] at found'
      rw [← found', unused] at used
      cases used
    simp only [CodeStore.usesOf, applyCodeWrite, CodeStore.setCode, CodeStore.takeEffect,
      List.filter_append, List.filter_singleton]
    rw [beq_eq_false_iff_ne.mpr different, cond_false, List.append_nil]
  | activate userId => exact fun id dead => ⟨dead, rfl⟩
  | setPassword userId passwordHash id => cases activation

theorem activation_bounded (users : List Account) {actions : List (Action ActivationRequest)}
    (each : EachStep activationStep (Meets CountedGuess) (.start ⟨users, [], [], []⟩) actions) :
    Always activationStep (fun s => GuessesBounded s.shared) (.start ⟨users, [], [], []⟩) actions ∧
      (trace activationStep (.start ⟨users, [], [], []⟩) actions).Pairwise
        (fun s t => RefusesDead s.shared t.shared) := by
  have counted := eachStep_meets_and.mpr
    ⟨each, each_write_within activation_within (start_within _) actions⟩
  constructor
  · have always := always_of_meets (J := fun s => UnusedBelowLimit s ∧ GuessesBounded s)
      (fun w s now met => ⟨below_step w s now.1 met.2, bounded_step w s now met.1⟩)
      (s := .start ⟨users, [], [], []⟩)
      ⟨(fun _ known => by cases known), fun _ => Nat.zero_le _⟩ counted
    exact always.mono fun _ now => now.2
  · have stays := pairwise_of_meets (R := CodesStayDead) (J := fun _ => True) CodesStayDead.refl
      (fun first second => first.trans second) (fun _ _ _ _ => trivial)
      (fun w s _ met => dead_step w s met.1 met.2) trivial counted
    exact stays.imp fun {s t} rel id dead => (rel id dead).2

end Activation

section Change

def ChangeStore.wrong (s : ChangeStore) (id : String) : Nat :=
  s.guesses.countP (fun guess => guess.sessionId == id && !guess.right)

def ChangeStore.usesOf (s : ChangeStore) (id : String) : List ChangeUse :=
  s.uses.filter (fun use => use.sessionId == id)

def ChangeStore.Dead (s : ChangeStore) (id : String) : Prop :=
  ∃ session, s.session id = some session ∧ session.status ≠ .pending

def ChangeGuessesBounded (s : ChangeStore) : Prop := ∀ id, s.wrong id ≤ emailChangeMaxAttempts

def ChangeRefusesDead (s t : ChangeStore) : Prop := ∀ id, s.Dead id → t.usesOf id = s.usesOf id

/-- A guess meets a session that has counted all wrong ones before it, a wrong one is noted in a
pending session, and the right code is accepted by a pending one. -/
def CountedChangeGuess : ChangeWrite → ChangeStore → Prop
  | .compare userId id _ now, s =>
    ∀ session, s.own userId id = some session → session.status = .pending →
      now < session.expiresAt → s.wrong session.id ≤ session.attemptsCount
  | .miss id _, s => ∀ session ∈ s.sessions, session.id = id → session.status = .pending
  | .commit userId requestedEmail id _, s =>
    (updateAccount s.users userId (fun user => { user with email := some requestedEmail })).isSome →
      ∀ session ∈ s.sessions, session.id = id → session.status = .pending
  | _, _ => True

instance (w : ChangeWrite) (s : ChangeStore) : Decidable (CountedChangeGuess w s) :=
  match w with
  | .compare userId id _ now =>
    decidable_of_iff ((s.own userId id).all (fun session =>
        !decide (session.status = .pending) || (!decide (now < session.expiresAt) ||
          decide (s.wrong session.id ≤ session.attemptsCount))) = true) (by
      rw [CountedChangeGuess, Option.all_eq_true]
      simp only [Bool.or_eq_true, Bool.not_eq_true', decide_eq_false_iff_not, decide_eq_true_eq,
        ← imp_iff_not_or])
  | .miss id _ =>
    inferInstanceAs (Decidable (∀ session ∈ s.sessions, session.id = id → session.status = .pending))
  | .commit userId requestedEmail id _ =>
    inferInstanceAs (Decidable ((updateAccount s.users userId
        (fun user => { user with email := some requestedEmail })).isSome →
      ∀ session ∈ s.sessions, session.id = id → session.status = .pending))
  | .cancelPending _ | .create _ | .expire _ | .resend _ _ _ | .conflict _ | .cancel _ _ =>
    isTrue trivial

def PendingBelowLimit (s : ChangeStore) : Prop :=
  ∀ session ∈ s.sessions, session.status = .pending → session.attemptsCount < emailChangeMaxAttempts

def ChangeCounted (s : ChangeStore) : Prop := PendingBelowLimit s ∧ ChangeGuessesBounded s

theorem change_wrong_append (s : ChangeStore) (guess : ChangeGuess) (id : String) :
    ChangeStore.wrong { s with guesses := s.guesses ++ [guess] } id =
      s.wrong id + if guess.sessionId = id ∧ guess.right = false then 1 else 0 := by
  simp only [ChangeStore.wrong, List.countP_append, List.countP_singleton]
  by_cases same : guess.sessionId = id
  · cases guess.right <;> simp [same]
  · simp [same]

variable {s : ChangeStore} {change : EmailChangeSession → EmailChangeSession}

theorem change_below_map {t : ChangeStore} (below : PendingBelowLimit s)
    (sessions : t.sessions = s.sessions.map change) (keeps : ∀ session, (session.status = .pending →
        session.attemptsCount < emailChangeMaxAttempts) →
      (change session).status = .pending →
        (change session).attemptsCount < emailChangeMaxAttempts) : PendingBelowLimit t := by
  intro session known
  rw [sessions] at known
  obtain ⟨old, there, rfl⟩ := List.mem_map.mp known
  exact keeps old (below old there)

theorem change_below_set (below : PendingBelowLimit s) {id : String}
    (keeps : ∀ session, (session.status = .pending →
        session.attemptsCount < emailChangeMaxAttempts) →
      (change session).status = .pending →
        (change session).attemptsCount < emailChangeMaxAttempts) :
    PendingBelowLimit (s.setSession id change) := by
  refine change_below_map below rfl fun session limit => ?_
  split
  · exact keeps session limit
  · exact limit

def ChangeWrite.Fresh : ChangeWrite → Prop
  | .create session => session.attemptsCount = 0
  | _ => True

theorem change_below_step (w : ChangeWrite) (s : ChangeStore) (below : PendingBelowLimit s)
    (fresh : w.Fresh) : PendingBelowLimit (applyChangeWrite w s) := by
  cases w with
  | cancelPending userId =>
    refine change_below_map below rfl fun session limit => ?_
    split
    · exact fun pending => by cases pending
    · exact limit
  | create session =>
    simp only [applyChangeWrite]
    split
    · exact below
    · intro other known
      rcases List.mem_append.mp known with old | new
      · exact below other old
      · rw [List.mem_singleton.mp new, show session.attemptsCount = 0 from fresh]
        exact fun _ => Nat.zero_lt_succ 4
  | expire id => exact change_below_set below (fun _ _ pending => by cases pending)
  | resend id codeHash now => exact change_below_set below (fun _ limit => limit)
  | compare userId id codeHash now =>
    simp only [applyChangeWrite]
    split
    · exact below
    · split
      · exact below
      · split
        · exact below
        · exact below
  | miss id attempts =>
    refine change_below_set below (fun session _ => ?_)
    split
    · exact fun pending => by cases pending
    · next few => exact fun _ => Nat.lt_of_not_le few
  | conflict id => exact change_below_set below (fun _ _ pending => by cases pending)
  | commit userId requestedEmail id codeHash =>
    simp only [applyChangeWrite]
    split
    · refine change_below_map below rfl fun session limit => ?_
      unfold verifiedSession
      split
      · exact fun pending => by cases pending
      · split
        · exact fun pending => by cases pending
        · exact limit
    · exact below
  | cancel id userId =>
    refine change_below_set below (fun session limit => ?_)
    split
    · exact fun pending => by cases pending
    · exact limit

theorem change_bounded_step (w : ChangeWrite) (s : ChangeStore) (now : ChangeCounted s)
    (met : CountedChangeGuess w s) : ChangeGuessesBounded (applyChangeWrite w s) := by
  obtain ⟨below, bounded⟩ := now
  cases w with
  | compare userId id codeHash now =>
    simp only [applyChangeWrite]
    split
    · exact bounded
    · next session found =>
      split
      · exact bounded
      · next pending =>
        split
        · exact bounded
        · next valid =>
          have limit := below session (List.mem_of_find?_eq_some found) (not_not.mp pending)
          have counted := met session found (not_not.mp pending) (Int.not_le.mp valid)
          intro other
          rw [change_wrong_append]
          split
          · next here =>
            rw [← here.1]
            exact Nat.lt_of_le_of_lt counted limit
          · exact bounded other
  | create session =>
    simp only [applyChangeWrite]
    split
    · exact bounded
    · exact bounded
  | commit userId requestedEmail id codeHash =>
    simp only [applyChangeWrite]
    split
    · exact bounded
    · exact bounded
  | cancelPending userId => exact bounded
  | expire id => exact bounded
  | resend id codeHash now => exact bounded
  | miss id attempts => exact bounded
  | conflict id => exact bounded
  | cancel id userId => exact bounded

def ChangeStaysDead (s t : ChangeStore) : Prop :=
  ∀ id, s.Dead id → t.Dead id ∧ t.usesOf id = s.usesOf id

theorem ChangeStaysDead.refl (s : ChangeStore) : ChangeStaysDead s s := fun _ dead => ⟨dead, rfl⟩

theorem ChangeStaysDead.trans {t u : ChangeStore} (first : ChangeStaysDead s t)
    (second : ChangeStaysDead t u) : ChangeStaysDead s u := by
  intro id dead
  obtain ⟨later, same⟩ := first id dead
  obtain ⟨last, same'⟩ := second id later
  exact ⟨last, same'.trans same⟩

theorem change_dead_set {id : String} (keeps : ∀ session, (change session).id = session.id)
    (closes : ∀ session ∈ s.sessions, session.id = id → session.status ≠ .pending →
      (change session).status ≠ .pending) : ChangeStaysDead s (s.setSession id change) := by
  refine fun other dead => ⟨closed_map rfl (fun session => ?_)
    (fun session known closed => ?_) dead, rfl⟩
  · split
    · exact keeps session
    · rfl
  · split
    · next same => exact closes session known same closed
    · exact closed

theorem change_dead_step (w : ChangeWrite) (s : ChangeStore) (met : CountedChangeGuess w s) :
    ChangeStaysDead s (applyChangeWrite w s) := by
  cases w with
  | cancelPending userId =>
    refine fun other dead => ⟨closed_map rfl (fun session => by split <;> rfl)
      (fun session _ closed => ?_) dead, rfl⟩
    rw [if_neg (fun h => closed h.2)]
    exact closed
  | create session =>
    simp only [applyChangeWrite]
    split
    · exact ChangeStaysDead.refl s
    · exact fun id dead => ⟨closed_append rfl dead, rfl⟩
  | expire id => exact change_dead_set (fun _ => rfl) (fun _ _ _ _ h => by cases h)
  | resend id codeHash now => exact change_dead_set (fun _ => rfl) (fun _ _ _ closed => closed)
  | compare userId id codeHash now =>
    have same : ∀ guesses, ChangeStaysDead s { s with guesses := guesses } :=
      fun guesses id dead => ⟨dead, rfl⟩
    simp only [applyChangeWrite]
    split
    · exact ChangeStaysDead.refl s
    · split
      · exact ChangeStaysDead.refl s
      · split
        · exact ChangeStaysDead.refl s
        · exact same _
  | miss id attempts =>
    exact change_dead_set (fun session => by split <;> rfl)
      (fun session known same closed => absurd (met session known same) closed)
  | conflict id => exact change_dead_set (fun _ => rfl) (fun _ _ _ _ h => by cases h)
  | commit userId requestedEmail id codeHash =>
    simp only [applyChangeWrite]
    split
    · next users session written found =>
      intro other dead
      refine ⟨closed_map rfl (fun session => (verifiedSession_keeps userId id session).1)
        (fun session _ => (verifiedSession_keeps userId id session).2.2) dead, ?_⟩
      have pending := met (by rw [written]; rfl) session (mem_of_lookup found)
        (key_of_lookup found)
      have different : id ≠ other := by
        rintro rfl
        obtain ⟨session', found', closed⟩ := dead
        rw [found, Option.some.injEq] at found'
        rw [← found'] at closed
        exact closed pending
      simp only [ChangeStore.usesOf, ChangeStore.commit, List.filter_append, List.filter_singleton]
      rw [beq_eq_false_iff_ne.mpr different, cond_false, List.append_nil]
    · exact ChangeStaysDead.refl s
  | cancel id userId =>
    refine change_dead_set (fun session => by split <;> rfl) (fun session _ _ closed => ?_)
    rw [if_neg (fun h => closed h.2)]
    exact closed

variable (hashCode : String → String)

theorem change_within (q : ChangeRequest) : (q.job hashCode).Within ChangeWrite.Fresh := by
  cases q with
  | start userId requestedEmail id code now =>
    intro s
    dsimp only
    split
    · trivial
    · split
      · trivial
      · intro s
        dsimp only
        split
        · trivial
        · exact ⟨trivial, fun _ => ⟨rfl, fun _ => trivial⟩⟩
  | state userId sessionId now =>
    intro s
    dsimp only
    split
    · trivial
    · split
      · exact ⟨trivial, fun _ => trivial⟩
      · trivial
  | resend userId sessionId code now =>
    intro s
    dsimp only
    split
    · trivial
    · split
      · trivial
      · split
        · exact ⟨trivial, fun _ => trivial⟩
        · split
          · trivial
          · exact ⟨trivial, fun _ => trivial⟩
  | verify userId sessionId codeRaw now =>
    simp only [ChangeRequest.job, verifyEmailChangeSession]
    generalize JsString.trim codeRaw = code
    split
    · exact True.intro
    · refine ⟨True.intro, fun s => ?_⟩
      dsimp only
      split
      · exact True.intro
      · split
        · exact True.intro
        · split
          · exact ⟨True.intro, fun _ => True.intro⟩
          · split
            · exact ⟨True.intro, fun _ => True.intro⟩
            · intro s
              dsimp only
              split
              · exact ⟨True.intro, fun _ => True.intro⟩
              · refine ⟨True.intro, fun s => ?_⟩
                dsimp only
                split
                · exact True.intro
                · exact True.intro
  | cancel userId sessionId => exact ⟨True.intro, fun _ => True.intro⟩

theorem change_bounded (users : List Account) {actions : List (Action ChangeRequest)}
    (each : EachStep (changeStep hashCode) (Meets CountedChangeGuess) (.start ⟨users, [], [], []⟩)
      actions) :
    Always (changeStep hashCode) (fun s => ChangeGuessesBounded s.shared)
        (.start ⟨users, [], [], []⟩) actions ∧
      (trace (changeStep hashCode) (.start ⟨users, [], [], []⟩) actions).Pairwise
        (fun s t => ChangeRefusesDead s.shared t.shared) := by
  have counted := eachStep_meets_and.mpr
    ⟨each, each_write_within (change_within hashCode) (start_within _) actions⟩
  constructor
  · have always := always_of_meets (J := ChangeCounted)
      (fun w s now met => ⟨change_below_step w s now.1 met.2, change_bounded_step w s now met.1⟩)
      (s := .start ⟨users, [], [], []⟩)
      ⟨(fun _ known => by cases known), fun _ => Nat.zero_le _⟩ counted
    exact always.mono fun _ now => now.2
  · have stays := pairwise_of_meets (R := ChangeStaysDead) (J := fun _ => True)
      ChangeStaysDead.refl (fun first second => first.trans second) (fun _ _ _ _ => trivial)
      (fun w s _ met => change_dead_step w s met.1) trivial counted
    exact stays.imp fun {s t} rel id dead => (rel id dead).2

end Change

section Runs
variable (hashCode : String → String)

/-- In all states of a run no row has been compared with more than five wrong codes, and what has
died is not accepted any more. -/
def GuessingIsBounded (users : List Account) (activation : List (Action ActivationRequest))
    (change : List (Action ChangeRequest)) : Prop :=
  (Always activationStep (fun s => GuessesBounded s.shared) (.start ⟨users, [], [], []⟩)
      activation ∧
    (trace activationStep (.start ⟨users, [], [], []⟩) activation).Pairwise
      (fun s t => RefusesDead s.shared t.shared)) ∧
  (Always (changeStep hashCode) (fun s => ChangeGuessesBounded s.shared)
      (.start ⟨users, [], [], []⟩) change ∧
    (trace (changeStep hashCode) (.start ⟨users, [], [], []⟩) change).Pairwise
      (fun s t => ChangeRefusesDead s.shared t.shared))

theorem guessing_is_bounded (users : List Account) (activation : List (Action ActivationRequest))
    (change : List (Action ChangeRequest))
    (activation_counted : EachStep activationStep (Meets CountedGuess) (.start ⟨users, [], [], []⟩)
      activation)
    (change_counted : EachStep (changeStep hashCode) (Meets CountedChangeGuess)
      (.start ⟨users, [], [], []⟩) change) :
    GuessingIsBounded hashCode users activation change :=
  ⟨activation_bounded users activation_counted, change_bounded hashCode users change_counted⟩

/-- Wrong guesses that wait for each other. -/
theorem counted_guesses_are_bounded :
    GuessingIsBounded id [mailUser false]
      [.begin 1 (.resend "a@b.ru" ⟨0, "123456", 0⟩ 0), .step 1, .step 1, .step 1,
        .begin 2 (.verify "a@b.ru" "1" 1), .step 2, .step 2, .step 2, .step 2,
        .begin 3 (.verify "a@b.ru" "2" 1), .step 3, .step 3, .step 3, .step 3]
      [.begin 1 (.start 5 "c@d.ru" "e" "123456" 0), .step 1, .step 1, .step 1, .step 1,
        .begin 2 (.verify 5 "e" "111111" 1), .step 2, .step 2] :=
  guessing_is_bounded id [mailUser false] _ _ (by decide +kernel) (by decide +kernel)

def sixGuesses : List (Action ActivationRequest) :=
  [.begin 0 (.resend "a@b.ru" ⟨0, "123456", 0⟩ 0), .step 0, .step 0, .step 0] ++
    [1, 2, 3, 4, 5, 6].flatMap (fun n =>
      [.begin n (.verify "a@b.ru" "1" 1), .step n, .step n])

theorem six_guesses_are_compared : ¬ ∀ (hashCode : String → String) (users : List Account)
    (activation : List (Action ActivationRequest)) (change : List (Action ChangeRequest)),
    GuessingIsBounded hashCode users activation change := by
  intro always
  have last := (always id [mailUser false] sixGuesses []).1.1.last 0
  exact absurd last (by decide +kernel)

end Runs

end LeaderProduct
