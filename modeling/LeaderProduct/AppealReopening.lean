import LeaderProduct.AppealHistory

/-! Who moves a closed appeal to another status. Requests run one after the other here: each reads
the appeal, decides and writes before the next one starts. -/
namespace LeaderProduct
open Transition

section Serve

def serve (desk : AppealDesk) (call : AppealCall) : AppealDesk :=
  match desk.appeals call.appealId with
  | none => desk
  | some appeal =>
    match call.plan desk appeal with
    | .ok (some (.status change)) =>
      recordChange (applyAppealWrite desk call.appealId (.status change)) call.appealId change
    | .ok (some write) => applyAppealWrite desk call.appealId write
    | _ => desk

theorem serve_other {desk : AppealDesk} {call : AppealCall} {appealId : Nat}
    (differ : appealId ≠ call.appealId) :
    (serve desk call).appeals appealId = desk.appeals appealId := by
  unfold serve
  split
  · rfl
  · split
    · exact (modify_other differ).trans (applyAppealWrite_other _ differ)
    · exact applyAppealWrite_other _ differ
    · rfl

end Serve

section Rights
variable {desk : AppealDesk} {userId : Nat} {appeal : Appeal}

/-- Closed for good, as the analytics list sees it. -/
def Appeal.isClosed (appeal : Appeal) : Bool :=
  appeal.status == .completed || appeal.status == .declined

def Manages (desk : AppealDesk) (userId departmentId : Nat) : Prop :=
  ∃ actor ∈ desk.users userId,
    isAdminRole actor = true ∨ isDepartmentManager actor departmentId = true

def computeAnalyticsAllowedStatuses (currentStatus : AppealStatus)
    (isAdmin isManager isCreator isAssignee : Bool) : List AppealStatus :=
  let managers : List AppealStatus := if isAdmin || isManager then
    [.opened, .inProgress, .resolved, .completed, .declined] else []
  let creators : List AppealStatus := if isCreator then
    .completed :: (if currentStatus = .resolved then [.inProgress] else []) else []
  let assignees : List AppealStatus := if isAssignee then [.resolved] else []
  (managers ++ creators ++ assignees).eraseDups

def Appeal.offeredTo (appeal : Appeal) (actor : UserMini) (userId : Nat) : List AppealStatus :=
  computeAnalyticsAllowedStatuses appeal.status (isAdminRole actor)
    (isDepartmentManager actor appeal.toDepartmentId) (appeal.createdById == userId)
    (appeal.assignees.contains userId)

theorem offered_of_allowed {actor : UserMini} {status : AppealStatus}
    (allowed : statusAllowed actor userId appeal status = true) :
    status ∈ appeal.offeredTo actor userId := by
  simp only [Appeal.offeredTo, computeAnalyticsAllowedStatuses, List.mem_eraseDups, List.mem_append]
  unfold statusAllowed at allowed
  split at allowed
  · next manager =>
    rw [if_pos manager]
    cases status <;> simp
  · split at allowed
    · next creator =>
      rw [if_pos creator]
      cases status <;> simp_all
    · split at allowed
      · next assignee =>
        rw [if_pos assignee]
        exact Or.inr (by simpa using allowed)
      · cases allowed

def OwnUpdate (appeal : Appeal) (userId : Nat) (status : AppealStatus) : Prop :=
  (appeal.createdById = userId ∧
      (status = .completed ∨ appeal.status = .resolved ∧ status = .inProgress)) ∨
    (appeal.createdById ≠ userId ∧ userId ∈ appeal.assignees ∧ status = .resolved)

theorem own_of_allowed {actor : UserMini} {status : AppealStatus}
    (allowed : statusAllowed actor userId appeal status = true) :
    (isAdminRole actor = true ∨ isDepartmentManager actor appeal.toDepartmentId = true) ∨
      OwnUpdate appeal userId status := by
  unfold statusAllowed at allowed
  split at allowed
  · next manager => exact Or.inl (by simpa using manager)
  · split at allowed
    · next creator => exact Or.inr (Or.inl ⟨by simpa using creator, by simpa using allowed⟩)
    · next other =>
      split at allowed
      · next assignee =>
        exact Or.inr (Or.inr ⟨by simpa using other, by simpa using assignee, by simpa using allowed⟩)
      · cases allowed

theorem manager_of_not_refused {admin manager : Bool} (passed : ¬(!(admin || manager)) = true) :
    admin = true ∨ manager = true := by
  simpa only [Bool.not_eq_true', Bool.not_eq_false, Bool.or_eq_true] using passed

theorem plan_authorized {call : AppealCall} {write : AppealWrite}
    (planned : call.plan desk appeal = .ok (some write)) :
    Manages desk call.userId appeal.toDepartmentId ∨ call.request = .claim ∨
      ∃ change, write = .status change ∧ call.request = .status change.newStatus ∧
        OwnUpdate appeal call.userId change.newStatus := by
  unfold AppealCall.plan at planned
  cases request : call.request with
  | claim => exact Or.inr (Or.inl rfl)
  | assign assigneeIds =>
    simp only [request, planAssign] at planned
    split at planned
    · cases planned
    · next actor known =>
      split at planned
      · cases planned
      · next manager => exact Or.inl ⟨actor, known, manager_of_not_refused manager⟩
  | department departmentId =>
    simp only [request, planDepartment] at planned
    split at planned
    · cases planned
    · next actor known =>
      split at planned
      · cases planned
      · next manager => exact Or.inl ⟨actor, known, manager_of_not_refused manager⟩
  | status status =>
    simp only [request, planStatus] at planned
    split at planned
    · cases planned
    · next actor known =>
      split at planned
      · cases planned
      · split at planned
        · cases planned
        · next allowed =>
          rcases own_of_allowed (by simpa using allowed) with manager | own
          · exact Or.inl ⟨actor, known, manager⟩
          · obtain ⟨change, change_to, rfl⟩ := Option.map_eq_some_iff.mp (Except.ok.inj planned)
            simp only [changeTo] at change_to
            split at change_to
            · cases change_to
              exact Or.inr (Or.inr ⟨_, rfl, rfl, own⟩)
            · cases change_to

end Rights

section Law

/-- A request other than a claim takes an appeal out of COMPLETED or DECLINED only for a manager, or
as the creator's COMPLETED or an assignee's RESOLVED. -/
def ReopensByRight (desk : AppealDesk) (call : AppealCall) : Prop :=
  ∀ appealId appeal after, desk.appeals appealId = some appeal →
    (serve desk call).appeals appealId = some after → appeal.isClosed = true →
      after.status ≠ appeal.status → call.request ≠ .claim →
        Manages desk call.userId appeal.toDepartmentId ∨
          (call.request = .status .completed ∧ appeal.createdById = call.userId) ∨
          (call.request = .status .resolved ∧ appeal.createdById ≠ call.userId ∧
            call.userId ∈ appeal.assignees)

theorem serve_reopens_by_right (desk : AppealDesk) (call : AppealCall) : ReopensByRight desk call := by
  intro appealId appeal after here served closed changed other
  by_cases own : appealId = call.appealId
  · subst own
    have unwritten (same : (serve desk call).appeals call.appealId = some appeal) : False := by
      rw [same] at served
      exact changed (congrArg Appeal.status (Option.some.inj served)).symm
    cases planned : call.plan desk appeal with
    | error refusal => exact (unwritten (by simp [serve, here, planned])).elim
    | ok write =>
      cases write with
      | none => exact (unwritten (by simp [serve, here, planned])).elim
      | some write =>
        rcases plan_authorized planned with manager | claim | ⟨change, _, request, own⟩
        · exact Or.inl manager
        · exact absurd claim other
        · rcases own with ⟨creator, completed | ⟨resolved, _⟩⟩ | ⟨creator, assignee, resolved⟩
          · exact Or.inr (Or.inl ⟨by rw [request, completed], creator⟩)
          · simp [Appeal.isClosed, resolved] at closed
          · exact Or.inr (Or.inr ⟨by rw [request, resolved], creator, assignee⟩)
  · rw [serve_other own, here] at served
    exact absurd (congrArg Appeal.status (Option.some.inj served)).symm changed

theorem closed_appeals_reopened_by_right (desk : AppealDesk) (calls : List AppealCall) :
    EachStep serve ReopensByRight desk calls := by
  induction calls generalizing desk with
  | nil => exact True.intro
  | cons call rest ih => exact ⟨serve_reopens_by_right desk call, ih (serve desk call)⟩

/-- An assignee without the right to reopen takes a completed appeal back to RESOLVED. -/
theorem assignee_reopens : ¬ ∀ (desk : AppealDesk) (calls : List AppealCall),
    EachStep serve (fun desk call => (∀ appealId appeal after,
      desk.appeals appealId = some appeal → (serve desk call).appeals appealId = some after →
        appeal.isClosed = true → after.status ≠ appeal.status →
          Manages desk call.userId appeal.toDepartmentId ∧ call.request ≠ .claim)) desk calls := by
  intro law
  have steps := law sampleDesk
    [⟨1, 3, .claim⟩, ⟨1, 1, .status .completed⟩, ⟨1, 3, .status .resolved⟩]
  obtain ⟨⟨actor, known, manager⟩, _⟩ := steps.2.2.1 1 _ _ rfl rfl (by decide +kernel)
    (by decide +kernel)
  obtain rfl := Option.some.inj known
  exact absurd manager (by decide +kernel)

end Law

end LeaderProduct
