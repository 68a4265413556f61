import LeaderProduct.EmailChange

/-! When a code takes effect once, is the only one that does, and is dead once it is replaced. -/
namespace LeaderProduct
open Transition Interleaving RowTable

variable {s : CodeStore} {id : Nat} {change : CodeRow → CodeRow} {email code : String} {now : Int}
    {row : CodeRow}

section Codes

/-- Every code has taken effect once at most, and none that had been replaced. -/
def OnceAndNewest (s : CodeStore) : Prop :=
  (s.uses.map (·.rowId)).Nodup ∧ ∀ use ∈ s.uses, use.replaced = false

instance (s : CodeStore) : Decidable (OnceAndNewest s) :=
  inferInstanceAs (Decidable (_ ∧ ∀ use ∈ s.uses, use.replaced = false))

def CodeStore.Unused (s : CodeStore) (id : Nat) : Prop :=
  ∃ row, s.code id = some row ∧ row.used = false

instance (s : CodeStore) (id : Nat) : Decidable (s.Unused id) :=
  decidable_of_iff ((s.code id).any (fun row => !row.used) = true) (by
    rw [Option.any_eq_true]
    simp only [CodeStore.Unused, Bool.not_eq_true'])

def InOrder : CodeWrite → CodeStore → Prop
  | .create row, s => ∀ other ∈ s.codes, other.userId = row.userId → other.used = true
  | .accept id, s | .setPassword _ _ id, s => s.Unused id ∧ id ∉ s.uses.map (·.rowId)
  | _, _ => True

instance (w : CodeWrite) (s : CodeStore) : Decidable (InOrder w s) := by
  unfold InOrder
  split <;> infer_instance

def OnlyNewestUnused (s : CodeStore) : Prop :=
  s.codes.Pairwise (fun earlier later => earlier.userId = later.userId → earlier.used = true)

theorem replaced_of_unused (newest : OnlyNewestUnused s) (unused : s.Unused id) :
    s.replaced id = false := by
  obtain ⟨row, found, fresh⟩ := unused
  obtain ⟨later, here, related⟩ := later_of_pairwise newest found
  have since : s.since id = row :: later := by
    rw [← here]
    unfold CodeStore.since
    congr 1
  rw [CodeStore.replaced, since, List.any_eq_false]
  intro other known
  rw [beq_iff_eq]
  intro same
  have used := related other known same.symm
  rw [fresh] at used
  cases used

theorem newest_set (newest : OnlyNewestUnused s) (keeps : ∀ row, (change row).userId = row.userId)
    (marks : ∀ row, row.used = true → (change row).used = true) :
    OnlyNewestUnused (s.setCode id change) := by
  unfold OnlyNewestUnused CodeStore.setCode RowTable.modify
  rw [List.pairwise_map]
  refine newest.imp fun {earlier later} related same => ?_
  have users (row : CodeRow) : (if row.id = id then change row else row).userId = row.userId := by
    split
    · exact keeps row
    · rfl
  rw [users, users] at same
  have used := related same
  split
  · exact marks earlier used
  · exact used

theorem newest_create (newest : OnlyNewestUnused s)
    (alone : ∀ other ∈ s.codes, other.userId = row.userId → other.used = true) :
    OnlyNewestUnused (applyCodeWrite (.create row) s) := by
  simp only [applyCodeWrite]
  split
  · exact newest
  · unfold OnlyNewestUnused
    rw [List.pairwise_append]
    refine ⟨newest, List.pairwise_singleton _ _, fun other known later here => ?_⟩
    rw [List.mem_singleton.mp here]
    exact alone other known

theorem once_takeEffect (now : OnceAndNewest s) (newest : OnlyNewestUnused s) (unused : s.Unused id)
    (fresh : id ∉ s.uses.map (·.rowId)) :
    OnceAndNewest (s.takeEffect id) := by
  unfold OnceAndNewest CodeStore.takeEffect
  rw [List.map_append, List.map_singleton, replaced_of_unused newest unused]
  constructor
  · rw [List.perm_append_comm.nodup_iff, List.singleton_append, List.nodup_cons]
    exact ⟨fresh, now.1⟩
  · intro use known
    rcases List.mem_append.mp known with old | new
    · exact now.2 use old
    · rw [List.mem_singleton.mp new]

theorem once_step (w : CodeWrite) (s : CodeStore) (now : OnceAndNewest s ∧ OnlyNewestUnused s)
    (met : InOrder w s) :
    OnceAndNewest (applyCodeWrite w s) ∧ OnlyNewestUnused (applyCodeWrite w s) := by
  obtain ⟨once, newest⟩ := now
  cases w with
  | create row =>
    refine ⟨?_, newest_create newest met⟩
    simp only [applyCodeWrite]
    split
    · exact once
    · exact once
  | retire id => exact ⟨once, newest_set newest (fun _ => rfl) (fun _ _ => rfl)⟩
  | prolong id now => exact ⟨once, newest_set newest (fun _ => rfl) (fun _ used => used)⟩
  | compare userId code now =>
    simp only [applyCodeWrite]
    split
    · exact ⟨once, newest⟩
    · split
      · exact ⟨once, newest⟩
      · exact ⟨once, newest⟩
  | miss id attempts =>
    refine ⟨once, newest_set newest (fun _ => rfl) (fun row used => ?_)⟩
    rw [used, Bool.true_or]
  | accept id =>
    have taken := once_takeEffect once newest met.1 met.2
    exact ⟨taken, newest_set (s := s.takeEffect id) newest (fun _ => rfl) (fun _ _ => rfl)⟩
  | activate userId => exact ⟨once, newest⟩
  | setPassword userId passwordHash id =>
    exact ⟨once_takeEffect once newest met.1 met.2, newest⟩

theorem code_setCode (keeps : ∀ row, (change row).id = row.id) (s : CodeStore) (id other : Nat) :
    (s.setCode id change).code other =
      if other = id then (s.code id).map change else s.code other :=
  lookup_modify keeps s.codes id other

theorem mark_id (row : CodeRow) : row.mark.id = row.id := rfl

def CodeWrite.OfActivation : CodeWrite → Prop
  | .setPassword _ _ _ => False
  | .create row => row.attemptsCount = 0
  | _ => True

/-- Of the codes for one address at most one would be accepted now. -/
def SoleCode (submit : String → String → Int → CodeJob) (accepted : CodeAnswer) (s : CodeStore) :
    Prop :=
  ∀ email code code' now now',
    ((submit email code now).alone applyCodeWrite s).2 = accepted →
      ((submit email code' now').alone applyCodeWrite s).2 = accepted → code = code'

theorem verify_activated
    (accepted : ((verifyEmail email code now).alone applyCodeWrite s).2 = .activated) :
    ∃ user row, findByEmail s.users email = some user ∧ s.latestUnused user.id = some row ∧
      row.code = code := by
  simp only [verifyEmail, Job.alone] at accepted
  cases known : findByEmail s.users email with
  | none =>
    rw [known] at accepted
    cases accepted
  | some user =>
    simp only [known] at accepted
    split at accepted
    · cases accepted
    · simp only [Job.alone] at accepted
      split at accepted
      · cases accepted
      · next row found =>
        split at accepted
        · cases accepted
        · split at accepted
          · simp only [Job.alone] at accepted
            split at accepted <;> cases accepted
          · next same => exact ⟨user, row, rfl, found, not_not.mp same⟩

theorem soleCode_of {submit : String → String → Int → CodeJob} {accepted : CodeAnswer}
    {find : List Account → String → Option Account}
    (meets : ∀ {email code now}, ((submit email code now).alone applyCodeWrite s).2 = accepted →
      ∃ user row, find s.users email = some user ∧ s.latestUnused user.id = some row ∧
        row.code = code) : SoleCode submit accepted s := by
  intro email code code' now now' first second
  obtain ⟨user, row, known, found, rfl⟩ := meets first
  obtain ⟨user', row', known', found', rfl⟩ := meets second
  rw [known, Option.some.injEq] at known'
  cases known'
  rw [found, Option.some.injEq] at found'
  rw [found']

theorem sole_activation_code (s : CodeStore) : SoleCode verifyEmail .activated s :=
  soleCode_of verify_activated

theorem change_changed {passwordHash : String}
    (accepted : ((changePassword email code passwordHash now).alone applyCodeWrite s).2 = .changed) :
    ∃ user row, s.users.find? (hasEmail email) = some user ∧ s.latestUnused user.id = some row ∧
      row.code = code := by
  simp only [changePassword, checkReset, Job.alone] at accepted
  cases known : s.users.find? (hasEmail email) with
  | none =>
    rw [known] at accepted
    cases accepted
  | some user =>
    simp only [known, Job.alone] at accepted
    split at accepted
    · cases accepted
    · next row found =>
      split at accepted
      · cases accepted
      · split at accepted
        · cases accepted
        · next same => exact ⟨user, row, rfl, found, not_not.mp same⟩

theorem sole_reset_code (passwordHash : String) (s : CodeStore) :
    SoleCode (fun email code now => changePassword email code passwordHash now) .changed s :=
  @soleCode_of s _ _ (fun users email => users.find? (hasEmail email)) change_changed

end Codes

section CodeRuns

abbrev activationStep := Interleaving.step applyCodeWrite ActivationRequest.job

abbrev resetStep := Interleaving.step applyCodeWrite ResetRequest.job

theorem send_within (userId : Nat) (fresh : NewCode) (now : Int) :
    (sendVerificationCodeEmail userId fresh now).Within CodeWrite.OfActivation := by
  have created : (createVerification userId fresh now).Within CodeWrite.OfActivation :=
    ⟨rfl, fun _ => trivial⟩
  intro s
  dsimp only
  split
  · exact created
  · split
    · exact ⟨trivial, fun _ => created⟩
    · split
      · exact ⟨trivial, fun _ => created⟩
      · split
        · trivial
        · exact ⟨trivial, fun _ => trivial⟩

theorem activation_within (q : ActivationRequest) : q.job.Within CodeWrite.OfActivation := by
  cases q with
  | send userId fresh now => exact send_within userId fresh now
  | resend email fresh now =>
    intro s
    dsimp only
    split
    · trivial
    · split
      · trivial
      · exact send_within _ fresh now
  | verify email code now =>
    intro s
    dsimp only
    split
    · trivial
    · split
      · trivial
      · refine ⟨trivial, fun s => ?_⟩
        dsimp only
        split
        · trivial
        · split
          · exact ⟨trivial, fun _ => trivial⟩
          · split
            · exact ⟨trivial, fun _ => trivial⟩
            · exact ⟨trivial, fun _ => ⟨trivial, fun _ => trivial⟩⟩

theorem codes_once {Q : Type} {job : Q → CodeJob} (users : List Account) {actions : List (Action Q)}
    (each : EachStep (Interleaving.step applyCodeWrite job) (Meets InOrder)
      (.start ⟨users, [], [], []⟩) actions) :
    Always (Interleaving.step applyCodeWrite job) (fun s => OnceAndNewest s.shared)
      (.start ⟨users, [], [], []⟩) actions :=
  (always_of_meets once_step (s := .start ⟨users, [], [], []⟩)
    ⟨⟨List.nodup_nil, fun _ taken => by cases taken⟩, List.Pairwise.nil⟩ each).mono
      fun _ now => now.1

end CodeRuns

section Overlap

/-- The user's codes that can still be used were there already. -/
def NoCodeAdded (userId : Nat) (s t : CodeStore) : Prop :=
  ∀ row ∈ t.codes, row.userId = userId → row.used = false → ∃ old ∈ s.codes, old.id = row.id

/-- The codes that a password has been written with and that have not been marked since: a change
stands, or has stopped, between its two writes. -/
def noteSpent : CodeWrite → CodeStore → List Nat → List Nat
  | .setPassword _ _ id, _, spent => id :: spent
  | .retire id, _, spent => spent.filter (· ≠ id)
  | _, _, spent => spent

/-- A code is created while no other of the user has been added since the request has looked for
one. A code that takes effect has not been used since the request has met it unused, and no other
change of a password is about to mark it. -/
def NotForestalled (past : List (Statement CodeStore CodeWrite)) :
    CodeWrite → CodeStore → List Nat → Prop
  | .create row, s, _ => ∀ e ∈ past, NoCodeAdded row.userId e.met s
  | .accept id, s, spent | .setPassword _ _ id, s, spent =>
    (∀ e ∈ past, e.met.Unused id → s.Unused id) ∧ id ∉ spent
  | _, _, _ => True

instance (userId : Nat) (s t : CodeStore) : Decidable (NoCodeAdded userId s t) :=
  inferInstanceAs (Decidable (∀ row ∈ t.codes, row.userId = userId → row.used = false →
    ∃ old ∈ s.codes, old.id = row.id))

instance (past : List (Statement CodeStore CodeWrite)) (w : CodeWrite) (s : CodeStore)
    (spent : List Nat) : Decidable (NotForestalled past w s spent) := by
  unfold NotForestalled
  split <;> infer_instance

structure CodesKeyed (s : CodeStore) : Prop where
  unique : (s.codes.map (·.id)).Nodup
  newest : OnlyNewestUnused s

def ClearedFor (past : List (Statement CodeStore CodeWrite)) (userId : Nat) : Prop :=
  ∃ e ∈ past, e.wrote = none ∧ ∀ old, e.met.latestUnused userId = some old →
    ∃ marking ∈ past, marking.wrote = some (.retire old.id)

def CodeChecked (past : List (Statement CodeStore CodeWrite)) : CodeWrite → Prop
  | .create row => ClearedFor past row.userId
  | .accept id | .setPassword _ _ id => ∃ e ∈ past, e.met.Unused id
  | _ => True

def CodeRow.ComesFrom (old row : CodeRow) : Prop :=
  old.userId = row.userId ∧ (row.used = false → old.used = false)

def CodeStore.Follows (s t : CodeStore) : Prop :=
  Descends (·.id) CodeRow.ComesFrom s.codes t.codes

theorem unused_of_latest (keyed : CodesKeyed s) {userId : Nat}
    (found : s.latestUnused userId = some row) : s.Unused row.id := by
  have known := List.mem_filter.mp (mem_of_newestBy found)
  rw [Bool.and_eq_true, Bool.not_eq_true'] at known
  exact ⟨row, lookup_of_mem keyed.unique known.1, known.2.2⟩

variable {past : List (Statement CodeStore CodeWrite)} {spent : List Nat}

theorem backed_send (userId : Nat) (fresh : NewCode) (now : Int) :
    (sendVerificationCodeEmail userId fresh now).Backed CodesKeyed CodeChecked past := by
  have created {past : List (Statement CodeStore CodeWrite)} (cleared : ClearedFor past userId) :
      (createVerification userId fresh now).Backed CodesKeyed CodeChecked past :=
    ⟨cleared, fun _ _ => trivial⟩
  intro s _
  dsimp only
  split
  · next none_found =>
    refine created ⟨_, List.mem_cons_self, rfl, fun old found => ?_⟩
    rw [none_found] at found
    cases found
  · next row found =>
    have retired : (Job.write (CodeWrite.retire row.id) fun _ =>
        createVerification userId fresh now).Backed CodesKeyed CodeChecked (⟨s, none⟩ :: past) := by
      refine ⟨trivial, fun t _ => created ⟨⟨s, none⟩, ?_, rfl, fun old here => ?_⟩⟩
      · exact List.mem_cons_of_mem _ List.mem_cons_self
      · rw [found, Option.some.injEq] at here
        exact ⟨_, List.mem_cons_self, by rw [here]⟩
    split
    · exact retired
    · split
      · exact retired
      · split
        · trivial
        · exact ⟨trivial, fun _ _ => trivial⟩

theorem activation_backed (q : ActivationRequest) : q.job.Backed CodesKeyed CodeChecked [] := by
  cases q with
  | send userId fresh now => exact backed_send userId fresh now
  | resend email fresh now =>
    intro s _
    dsimp only
    split
    · trivial
    · split
      · trivial
      · exact backed_send _ fresh now
  | verify email code now =>
    intro s _
    dsimp only
    split
    · trivial
    · split
      · trivial
      · refine ⟨trivial, fun s keyed => ?_⟩
        dsimp only
        split
        · trivial
        · next row found =>
          split
          · exact ⟨trivial, fun _ _ => trivial⟩
          · split
            · exact ⟨trivial, fun _ _ => trivial⟩
            · exact ⟨⟨_, List.mem_cons_self, unused_of_latest keyed found⟩, fun _ _ =>
                ⟨trivial, fun _ _ => trivial⟩⟩

theorem backed_check {next : Account → CodeRow → CodeJob}
    (later : ∀ past user row, (∃ e ∈ past, e.met.Unused row.id) →
      (next user row).Backed CodesKeyed CodeChecked past) :
    (checkReset email code now next).Backed CodesKeyed CodeChecked [] := by
  intro s _
  dsimp only
  split
  · trivial
  · intro s keyed
    dsimp only
    split
    · trivial
    · next row found =>
      split
      · exact ⟨trivial, fun _ _ => trivial⟩
      · split
        · trivial
        · exact later _ _ row ⟨_, List.mem_cons_self, unused_of_latest keyed found⟩

theorem reset_backed (q : ResetRequest) : q.job.Backed CodesKeyed CodeChecked [] := by
  cases q with
  | request email fresh now =>
    have created {userId : Nat} {past : List (Statement CodeStore CodeWrite)}
        (cleared : ClearedFor past userId) :
        (createReset userId fresh now).Backed CodesKeyed CodeChecked past :=
      ⟨cleared, fun _ _ => trivial⟩
    intro s _
    dsimp only
    split
    · trivial
    · next user _ =>
      intro t _
      dsimp only
      split
      · next none_found =>
        refine created ⟨_, List.mem_cons_self, rfl, fun old found => ?_⟩
        rw [none_found] at found
        cases found
      · next row found =>
        have retired (u : CodeStore) : ClearedFor
            [⟨u, some (.retire row.id)⟩, ⟨t, none⟩, ⟨s, none⟩] user.id := by
          refine ⟨⟨t, none⟩, by simp, rfl, fun old here => ?_⟩
          rw [found, Option.some.injEq] at here
          exact ⟨_, List.mem_cons_self, by rw [here]⟩
        split
        · exact ⟨trivial, fun u _ => created (retired u)⟩
        · split
          · trivial
          · exact ⟨trivial, fun u _ => created (retired u)⟩
  | verify email code now => exact backed_check fun _ _ _ _ => trivial
  | change email code passwordHash now =>
    exact backed_check fun _ _ _ found => ⟨found, fun _ _ => ⟨trivial, fun _ _ => trivial⟩⟩

theorem CodeRow.ComesFrom.trans (a b c : CodeRow) (first : a.ComesFrom b) (second : b.ComesFrom c) :
    a.ComesFrom c := ⟨first.1.trans second.1, fun unused => first.2 (second.2 unused)⟩

theorem CodeRow.ComesFrom.self (row : CodeRow) : row.ComesFrom row := ⟨rfl, fun unused => unused⟩

theorem fresh_code (fresh : ¬(s.codes.any (fun other => other.id == row.id)) = true) :
    ∀ other ∈ s.codes, other.id ≠ row.id := by
  intro other known same
  exact fresh (List.any_eq_true.mpr ⟨other, known, beq_iff_eq.mpr same⟩)

theorem codes_follow {t : CodeStore} (follows : s.Follows t) (w : CodeWrite) :
    s.Follows (applyCodeWrite w t) := by
  have set {id : Nat} {change : CodeRow → CodeRow} (keeps : ∀ row, (change row).id = row.id)
      (changes : ∀ row, row.ComesFrom (change row)) : s.Follows (t.setCode id change) :=
    Descends.modify CodeRow.ComesFrom.trans CodeRow.ComesFrom.self follows id keeps fun row _ _ =>
      changes row
  cases w with
  | create row =>
    simp only [applyCodeWrite]
    split
    · exact follows
    · next fresh => exact Descends.append follows (fresh_code fresh)
  | retire id => exact set (fun _ => rfl) fun _ => ⟨rfl, nofun⟩
  | prolong id now => exact set (fun _ => rfl) fun _ => ⟨rfl, fun unused => unused⟩
  | compare userId code now =>
    simp only [applyCodeWrite]
    split
    · exact follows
    · split
      · exact follows
      · exact follows
  | miss id attempts =>
    exact set (fun _ => rfl) fun _ => ⟨rfl, fun unused => (Bool.or_eq_false_iff.mp unused).1⟩
  | accept id => exact set (fun _ => rfl) fun _ => ⟨rfl, nofun⟩
  | activate userId => exact follows
  | setPassword userId passwordHash id => exact follows

theorem unique_codes (unique : (s.codes.map (·.id)).Nodup) (w : CodeWrite) :
    ((applyCodeWrite w s).codes.map (·.id)).Nodup := by
  have set {t : CodeStore} (codes : t.codes = s.codes) (id : Nat) {change : CodeRow → CodeRow}
      (keeps : ∀ row, (change row).id = row.id) : ((t.setCode id change).codes.map (·.id)).Nodup := by
    rw [CodeStore.setCode, keys_modify keeps, codes]
    exact unique
  cases w with
  | create row =>
    simp only [applyCodeWrite]
    split
    · exact unique
    · next fresh =>
      rw [List.map_append, List.map_singleton, List.perm_append_comm.nodup_iff,
        List.singleton_append, List.nodup_cons]
      refine ⟨fun known => ?_, unique⟩
      obtain ⟨other, there, same⟩ := List.mem_map.mp known
      exact fresh_code fresh other there same
  | retire id => exact set rfl id fun _ => rfl
  | prolong id now => exact set rfl id fun _ => rfl
  | compare userId code now =>
    simp only [applyCodeWrite]
    split
    · exact unique
    · split
      · exact unique
      · exact unique
  | miss id attempts => exact set rfl id fun _ => rfl
  | accept id => exact set (t := s.takeEffect id) rfl id fun _ => rfl
  | activate userId => exact unique
  | setPassword userId passwordHash id => exact unique

structure CodesNoted (s : CodeStore) (spent : List Nat) : Prop where
  keyed : CodesKeyed s
  marked : ∀ use ∈ s.uses, ∃ row, s.code use.rowId = some row ∧
    (row.used = true ∨ use.rowId ∈ spent)
  spent : ∀ id ∈ spent, id ∈ s.uses.map (·.rowId)

theorem CodesNoted.fresh {s : CodeStore} {spent : List Nat} (noted : CodesNoted s spent) {id : Nat}
    (unused : s.Unused id) (idle : id ∉ spent) : id ∉ s.uses.map (·.rowId) := by
  intro known
  obtain ⟨use, taken, rfl⟩ := List.mem_map.mp known
  obtain ⟨row, found, used | busy⟩ := noted.marked use taken
  · obtain ⟨row', found', fresh⟩ := unused
    rw [found, Option.some.injEq] at found'
    rw [found', fresh] at used
    cases used
  · exact idle busy

theorem marked_setCode {t : CodeStore} {spent' : List Nat} (codes : t.codes = s.codes)
    (uses : t.uses = s.uses) (marked : ∀ use ∈ s.uses, ∃ row, s.code use.rowId = some row ∧
      (row.used = true ∨ use.rowId ∈ spent)) (keeps : ∀ row, (change row).id = row.id)
    (marks : ∀ row, row.used = true → (change row).used = true)
    (left : ∀ other ∈ spent, other ∈ spent' ∨ other = id ∧ ∀ row, (change row).used = true) :
    ∀ use ∈ (t.setCode id change).uses, ∃ row, (t.setCode id change).code use.rowId = some row ∧
      (row.used = true ∨ use.rowId ∈ spent') := by
  intro use taken
  have taken : use ∈ s.uses := uses ▸ taken
  obtain ⟨row, found, used⟩ := marked use taken
  have here : t.code use.rowId = some row := by rw [CodeStore.code, codes]; exact found
  rw [code_setCode keeps]
  by_cases same : use.rowId = id
  · rw [if_pos same]
    rw [same] at here
    refine ⟨change row, by rw [here]; rfl, ?_⟩
    rcases used with used | busy
    · exact .inl (marks row used)
    · rcases left _ busy with still | ⟨_, all⟩
      · exact .inr still
      · exact .inl (all row)
  · rw [if_neg same]
    refine ⟨row, here, used.imp_right fun busy => ?_⟩
    rcases left _ busy with still | ⟨mine, _⟩
    · exact still
    · exact absurd mine same

theorem codesNoted_step {w : CodeWrite} (noted : CodesNoted s spent) (met : InOrder w s) :
    CodesNoted (applyCodeWrite w s) (noteSpent w s spent) := by
  have unique := unique_codes noted.keyed.unique w
  have kept (other : Nat) (busy : other ∈ spent) {id : Nat} {change : CodeRow → CodeRow} :
      other ∈ spent ∨ other = id ∧ ∀ row : CodeRow, (change row).used = true := .inl busy
  cases w with
  | create row =>
    refine ⟨⟨unique, newest_create noted.keyed.newest met⟩, ?_, ?_⟩
    · intro use taken
      have taken : use ∈ s.uses := by
        simp only [applyCodeWrite] at taken
        split at taken <;> exact taken
      obtain ⟨old, found, used⟩ := noted.marked use taken
      refine ⟨old, ?_, used⟩
      simp only [applyCodeWrite]
      split
      · exact found
      · simp only [CodeStore.code] at found ⊢
        rw [lookup_append, found, Option.some_or]
    · intro id busy
      have there := noted.spent id busy
      simp only [applyCodeWrite]
      split <;> exact there
  | retire id =>
    refine ⟨⟨unique, newest_set noted.keyed.newest (fun _ => rfl) (fun _ _ => rfl)⟩, ?_, ?_⟩
    · refine marked_setCode rfl rfl noted.marked (fun _ => rfl) (fun _ _ => rfl) fun other busy => ?_
      by_cases mine : other = id
      · exact .inr ⟨mine, fun _ => rfl⟩
      · exact .inl (List.mem_filter.mpr ⟨busy, decide_eq_true mine⟩)
    · exact fun other busy => noted.spent other (List.mem_of_mem_filter busy)
  | prolong id now =>
    exact ⟨⟨unique, newest_set noted.keyed.newest (fun _ => rfl) (fun _ used => used)⟩,
      marked_setCode rfl rfl noted.marked (fun _ => rfl) (fun _ used => used) (fun o b => kept o b),
      noted.spent⟩
  | compare userId code now =>
    have same (guesses : List Guess) : CodesNoted { s with guesses := guesses } spent :=
      ⟨⟨noted.keyed.unique, noted.keyed.newest⟩, noted.marked, noted.spent⟩
    simp only [applyCodeWrite]
    split
    · exact noted
    · split
      · exact noted
      · exact same _
  | miss id attempts =>
    have marks (row : CodeRow) (used : row.used = true) :
        (row.used || decide (maxVerificationAttempts ≤ attempts)) = true := by
      rw [used, Bool.true_or]
    exact ⟨⟨unique, newest_set noted.keyed.newest (fun _ => rfl) marks⟩,
      marked_setCode rfl rfl noted.marked (fun _ => rfl) marks (fun o b => kept o b), noted.spent⟩
  | accept id =>
    refine ⟨⟨unique, newest_set (s := s.takeEffect id) noted.keyed.newest (fun _ => rfl)
      (fun _ _ => rfl)⟩, fun use taken => ?_, fun other busy => ?_⟩
    · rcases List.mem_append.mp taken with old | new
      · exact marked_setCode rfl rfl noted.marked mark_id (fun _ _ => rfl) (fun o b => kept o b) use
          old
      · obtain ⟨row, found, _⟩ := met.1
        rw [List.mem_singleton.mp new]
        have marks := code_setCode mark_id s id id
        rw [if_pos rfl, found] at marks
        exact ⟨row.mark, marks, .inl rfl⟩
    · have there := noted.spent other busy
      change other ∈ (s.uses ++ [_]).map CodeUse.rowId
      rw [List.map_append]
      exact List.mem_append_left _ there
  | activate userId => exact ⟨⟨unique, noted.keyed.newest⟩, noted.marked, noted.spent⟩
  | setPassword userId passwordHash id =>
    refine ⟨⟨unique, noted.keyed.newest⟩, fun use taken => ?_, fun other busy => ?_⟩
    · rcases List.mem_append.mp taken with old | new
      · obtain ⟨row, found, used⟩ := noted.marked use old
        exact ⟨row, found, used.imp_right (List.mem_cons_of_mem id)⟩
      · obtain ⟨row, found, _⟩ := met.1
        rw [List.mem_singleton.mp new]
        exact ⟨row, found, .inr List.mem_cons_self⟩
    · change other ∈ (s.uses ++ [_]).map CodeUse.rowId
      rw [List.map_append, List.mem_append]
      rcases List.mem_cons.mp busy with rfl | old
      · exact .inr (List.mem_singleton_self _)
      · exact .inl (noted.spent other old)

/-- After a request has marked the code that it has found only one added since can be unused. -/
theorem allUsed_of_cleared {userId : Nat} (cleared : ClearedFor past userId)
    (met : ∀ e ∈ past, CodesKeyed e.met ∧ (e.left applyCodeWrite).Follows s)
    (none_added : ∀ e ∈ past, NoCodeAdded userId e.met s) :
    ∀ other ∈ s.codes, other.userId = userId → other.used = true := by
  intro other known mine
  by_contra fresh
  rw [Bool.not_eq_true] at fresh
  obtain ⟨e, there, silent, looked⟩ := cleared
  have stays : e.left applyCodeWrite = e.met := by rw [Statement.left, silent]; rfl
  have since := (met e there).2
  rw [stays] at since
  obtain ⟨first, first_there, first_same⟩ := none_added e there other known mine fresh
  obtain ⟨row, row_there, row_same, row_user, was_unused⟩ :=
    since.origin other known ⟨first, first_there, first_same⟩
  -- The request has found this code: at that time it was the only one unused.
  have listed : row ∈ e.met.codes.filter (fun row => row.userId == userId && !row.used) := by
    rw [List.mem_filter, was_unused fresh, row_user, mine]
    exact ⟨row_there, by simp⟩
  cases found : e.met.latestUnused userId with
  | none =>
    rw [CodeStore.latestUnused, newestBy_eq_none] at found
    rw [found] at listed
    cases listed
  | some old =>
    have old_known := List.mem_filter.mp (mem_of_newestBy found)
    rw [Bool.and_eq_true, beq_iff_eq, Bool.not_eq_true'] at old_known
    have one : row = old := eq_of_pairwise (met e there).1.newest row_there old_known.1
      (fun related => by
        rw [related (row_user.trans (mine.trans old_known.2.1.symm))] at was_unused
        exact absurd (was_unused fresh) nofun)
      (fun related => by
        rw [related (old_known.2.1.trans (mine.symm.trans row_user.symm))] at old_known
        exact absurd old_known.2.2 nofun)
    obtain ⟨marking, marking_there, wrote⟩ := looked old found
    obtain ⟨second, second_there, second_same⟩ :=
      none_added marking marking_there other known mine fresh
    have left : (marking.left applyCodeWrite).codes =
        RowTable.modify (·.id) marking.met.codes old.id CodeRow.mark := by
      rw [Statement.left, wrote]
      rfl
    have ids := keys_modify mark_id marking.met.codes old.id
    have stood : ∃ row ∈ (marking.left applyCodeWrite).codes, row.id = other.id := by
      have listed : other.id ∈ (marking.left applyCodeWrite).codes.map (·.id) := by
        rw [left, ids, ← second_same]
        exact List.mem_map_of_mem second_there
      exact List.mem_map.mp listed
    obtain ⟨marked, marked_there, marked_same, _, still⟩ :=
      (met marking marking_there).2.origin other known stood
    rw [left] at marked_there
    obtain ⟨before, _, rfl⟩ := List.mem_map.mp marked_there
    by_cases own : before.id = old.id
    · rw [if_pos own] at still
      exact absurd (still fresh) nofun
    · rw [if_neg own] at marked_same
      exact own (marked_same.trans (row_same.symm.trans (congrArg CodeRow.id one)))

theorem notForestalled_iff {w : CodeWrite} (checked : CodeChecked past w)
    (met : ∀ e ∈ past, CodesKeyed e.met ∧ (e.left applyCodeWrite).Follows s)
    (noted : CodesNoted s spent) : NotForestalled past w s spent ↔ InOrder w s := by
  cases w with
  | create row =>
    constructor
    · exact fun none_added => allUsed_of_cleared checked met none_added
    · intro used e _ other known mine fresh
      rw [used other known mine] at fresh
      cases fresh
  | accept id | setPassword _ _ id =>
    obtain ⟨e, there, found⟩ := checked
    constructor
    · rintro ⟨still, idle⟩
      have unused := still e there found
      exact ⟨unused, noted.fresh unused idle⟩
    · rintro ⟨unused, fresh⟩
      exact ⟨fun _ _ _ => unused, fun busy => fresh (noted.spent id busy)⟩
  | retire id => exact Iff.rfl
  | prolong id now => exact Iff.rfl
  | compare userId code now => exact Iff.rfl
  | miss id attempts => exact Iff.rfl
  | activate userId => exact Iff.rfl

theorem code_guards {Q : Type} {job : Q → CodeJob}
    (backed : ∀ q, (job q).Backed CodesKeyed CodeChecked []) :
    Guards applyCodeWrite job noteSpent CodesKeyed CodeChecked CodeStore.Follows CodesNoted
      NotForestalled InOrder where
  backed := backed
  known := fun noted => noted.keyed
  refl := fun s => Descends.refl CodeRow.ComesFrom.self s.codes
  keeps_rel := fun _ _ follows => codes_follow follows _
  keeps := fun _ noted met => codesNoted_step noted met
  exact_write := fun checked met noted => notForestalled_iff checked met noted

theorem codesNoted_start (users : List Account) : CodesNoted ⟨users, [], [], []⟩ [] :=
  ⟨⟨List.nodup_nil, List.Pairwise.nil⟩, (fun _ taken => by cases taken), fun _ busy => by cases busy⟩

end Overlap

end LeaderProduct
