import Mathlib.Data.Finset.Lattice.Fold
import Mathlib.Data.List.Induction
import LeaderProduct.AppealDesk

/-! The watchers of an appeal. A request replaces all of them: the old ones go first and the new
ones come one by one, so that a failure on the way leaves some of the new ones and none of the
old. -/
namespace LeaderProduct

section Code

structure WatcherDesk extends AppealDesk where
  watchers : Nat → Finset Nat

def AppealDesk.canWatch (desk : AppealDesk) (watchers : Finset Nat) (userId : Nat) : Bool :=
  (desk.users userId).isSome && decide (userId ∉ watchers)

def createWatchers (desk : AppealDesk) : Finset Nat → List Nat → Bool × Finset Nat
  | watchers, [] => (true, watchers)
  | watchers, uid :: rest =>
    if desk.canWatch watchers uid then createWatchers desk (insert uid watchers) rest
    else (false, watchers)

/-- `PUT /:id/watchers`: the answer, and the watchers after it. -/
def WatcherDesk.putWatchers (desk : WatcherDesk) (appealId : Nat) (watcherIds : List Nat) :
    Except AppealRefusal (List Nat) × WatcherDesk :=
  match desk.appeals appealId with
  | none => (.error (.notFound "Обращение не найдено"), desk)
  | some _ =>
    let created := createWatchers desk.toAppealDesk ∅ watcherIds
    (if created.1 then .ok watcherIds else .error ⟨500, "Ошибка обновления наблюдателей"⟩,
      { desk with watchers := fun id => if id = appealId then created.2 else desk.watchers id })

end Code

section Loop
variable {desk : AppealDesk}

def Creatable (desk : AppealDesk) (ids : List Nat) : Prop :=
  ids.Nodup ∧ ∀ id ∈ ids, (desk.users id).isSome = true

/-- The loop takes users as long as they are known and new; `before` are those it has taken. -/
theorem createWatchers_append {before good : List Nat} (creatable : Creatable desk (before ++ good))
    (rest : List Nat) : createWatchers desk before.toFinset (good ++ rest) =
      createWatchers desk (before ++ good).toFinset rest := by
  induction good generalizing before with
  | nil => rw [List.append_nil, List.nil_append]
  | cons uid good ih =>
    obtain ⟨distinct, known⟩ := creatable
    have fresh : uid ∉ before.toFinset := by
      rw [List.mem_toFinset]
      exact fun taken => (List.nodup_append.mp distinct).2.2 uid taken uid List.mem_cons_self rfl
    have takes : desk.canWatch before.toFinset uid = true := by
      simp [AppealDesk.canWatch, known uid (by simp), fresh]
    have shifted : before ++ uid :: good = (before ++ [uid]) ++ good := by simp
    have next : insert uid before.toFinset = (before ++ [uid]).toFinset := by
      ext a; simp
    rw [List.cons_append, createWatchers, if_pos takes, next, shifted]
    exact ih (shifted ▸ ⟨distinct, known⟩)

theorem creatable_or (desk : AppealDesk) (ids : List Nat) : Creatable desk ids ∨
    ∃ good bad rest, ids = good ++ bad :: rest ∧ Creatable desk good ∧
      (bad ∈ good ∨ desk.users bad = none) := by
  induction ids using List.reverseRecOn with
  | nil => exact .inl ⟨List.nodup_nil, by simp⟩
  | append_singleton ids uid ih =>
    rcases ih with all | ⟨good, bad, rest, rfl, before, fails⟩
    · by_cases fails : uid ∈ ids ∨ desk.users uid = none
      · exact .inr ⟨ids, uid, [], rfl, all, fails⟩
      · obtain ⟨fresh, known⟩ := not_or.mp fails
        refine .inl ⟨List.nodup_append.mpr ⟨all.1, List.nodup_singleton uid, ?_⟩, ?_⟩
        · rintro a listed b single rfl
          exact fresh (List.mem_singleton.mp single ▸ listed)
        · intro a listed
          rcases List.mem_append.mp listed with old | new
          · exact all.2 a old
          · rw [List.mem_singleton.mp new]
            exact Option.isSome_iff_ne_none.mpr known
    · exact .inr ⟨good, bad, rest ++ [uid], by simp, before, fails⟩

theorem createWatchers_all {ids : List Nat} (creatable : Creatable desk ids) :
    createWatchers desk ∅ ids = (true, ids.toFinset) := by
  have taken : createWatchers desk ([] : List Nat).toFinset (ids ++ []) = _ :=
    createWatchers_append creatable []
  rw [List.append_nil] at taken
  exact taken

theorem createWatchers_part {good : List Nat} {bad : Nat} (creatable : Creatable desk good)
    (fails : bad ∈ good ∨ desk.users bad = none) (rest : List Nat) :
    createWatchers desk ∅ (good ++ bad :: rest) = (false, good.toFinset) := by
  have refuses : ¬desk.canWatch good.toFinset bad = true := by
    rcases fails with repeated | unknown
    · simp [AppealDesk.canWatch, repeated]
    · simp [AppealDesk.canWatch, unknown]
  have taken : createWatchers desk ([] : List Nat).toFinset (good ++ bad :: rest) = _ :=
    createWatchers_append creatable (bad :: rest)
  refine taken.trans ?_
  rw [List.nil_append, createWatchers, if_neg refuses]

theorem Creatable.not_part {good : List Nat} {bad : Nat} {rest : List Nat}
    (creatable : Creatable desk (good ++ bad :: rest))
    (fails : bad ∈ good ∨ desk.users bad = none) : False := by
  rcases fails with repeated | unknown
  · exact (List.nodup_append.mp creatable.1).2.2 bad repeated bad List.mem_cons_self rfl
  · have known := creatable.2 bad (by simp)
    rw [unknown] at known
    cases known

end Loop

section Replacing
variable {desk : WatcherDesk} {appealId : Nat} {watcherIds : List Nat}

/-- The request succeeds and its list are the watchers, or it fails and the watchers stay. -/
def ReplacesAll (desk : WatcherDesk) (appealId : Nat) (watcherIds : List Nat) : Prop :=
  let (answer, after) := desk.putWatchers appealId watcherIds
  (answer.isOk = true ∧ after.watchers appealId = watcherIds.toFinset) ∨
    (answer.isOk = false ∧ after.watchers appealId = desk.watchers appealId)

/-- It does so just when the appeal is unknown, or all its users are known and named once, or the
watchers were those named before the first that is not. -/
theorem watchers_replaced_iff (desk : WatcherDesk) (appealId : Nat) (watcherIds : List Nat) :
    ReplacesAll desk appealId watcherIds ↔
      desk.appeals appealId = none ∨
      (watcherIds.Nodup ∧ ∀ id ∈ watcherIds, (desk.users id).isSome = true) ∨
      ∃ good bad rest, watcherIds = good ++ bad :: rest ∧
        (good.Nodup ∧ ∀ id ∈ good, (desk.users id).isSome = true) ∧
        (bad ∈ good ∨ desk.users bad = none) ∧ desk.watchers appealId = good.toFinset := by
  cases found : desk.appeals appealId with
  | none => simp [ReplacesAll, WatcherDesk.putWatchers, found, Except.isOk, Except.toBool]
  | some appeal =>
    rcases creatable_or desk.toAppealDesk watcherIds with all | ⟨good, bad, rest, rfl, front, fails⟩
    · have created := createWatchers_all all
      refine iff_of_true (.inl ?_) (.inr (.inl all))
      simp [found, created, Except.isOk, Except.toBool]
    · have created := createWatchers_part front fails rest
      have kept : ReplacesAll desk appealId (good ++ bad :: rest) ↔
          desk.watchers appealId = good.toFinset := by
        simp [ReplacesAll, WatcherDesk.putWatchers, found, created, Except.isOk, Except.toBool,
          eq_comm]
      rw [kept]
      constructor
      · exact fun same => .inr (.inr ⟨good, bad, rest, rfl, front, fails, same⟩)
      · rintro (unknown | all | ⟨good', bad', rest', split, front', fails', same⟩)
        · cases unknown
        · exact (Creatable.not_part all fails).elim
        · have created' := createWatchers_part front' fails' rest'
          rw [← split, created] at created'
          rw [same]
          exact (congrArg Prod.snd created').symm

def watchedDesk : WatcherDesk where
  appeals id := if id = 1 then some ⟨5, 1, .inProgress, [3], []⟩ else none
  users id := if id ∈ [1, 2, 3] then some ⟨"user", [], none⟩ else none
  departments _ := true
  watchers id := if id = 1 then {3} else ∅

theorem repeated_watcher_loses_old :
    ¬∀ (desk : WatcherDesk) (appealId : Nat) (watcherIds : List Nat),
      ReplacesAll desk appealId watcherIds := by
  intro law
  have lost := law watchedDesk 1 [1, 2, 1]
  revert lost
  unfold ReplacesAll
  decide

end Replacing
end LeaderProduct
