import Mathlib.Logic.Function.Basic
import LeaderProduct.AppealDesk
import LeaderProduct.ChangeLog
import LeaderProduct.Transition

/-! The status history of an appeal under parallel requests. Each request reads the appeal first
and writes later what it has decided; a status update writes the status and its record apart. -/
namespace LeaderProduct
open Transition

section System

inductive AppealPhase where
  | started
  | loaded (appeal : Appeal)
  | planned (write : AppealWrite)
  | recording (change : StatusChange)

structure AppealJob where
  call : AppealCall
  phase : AppealPhase

structure AppealSystem where
  desk : AppealDesk
  jobs : Nat → Option AppealJob

inductive AppealAction where
  | begin (n : Nat) (call : AppealCall)
  | step (n : Nat)
  | stop (n : Nat)

def AppealSystem.set (s : AppealSystem) (n : Nat) (job : Option AppealJob) : AppealSystem :=
  { s with jobs := Function.update s.jobs n job }

/-- A status update goes on to its record; the other writes are complete. -/
def AppealJob.written (job : AppealJob) : AppealWrite → Option AppealJob
  | .status change => some { job with phase := .recording change }
  | _ => none

def AppealSystem.advance (s : AppealSystem) (n : Nat) (job : AppealJob) : AppealSystem :=
  match job.phase with
  | .started => s.set n ((s.desk.appeals job.call.appealId).map (fun appeal =>
      { job with phase := .loaded appeal }))
  | .loaded appeal =>
    match job.call.plan s.desk appeal with
    | .ok (some write) => s.set n (some { job with phase := .planned write })
    | _ => s.set n none
  | .planned write =>
    { s.set n (job.written write) with desk := applyAppealWrite s.desk job.call.appealId write }
  | .recording change =>
    { s.set n none with desk := recordChange s.desk job.call.appealId change }

def appealStep (s : AppealSystem) : AppealAction → AppealSystem
  | .begin n call => if (s.jobs n).isSome then s else s.set n (some ⟨call, .started⟩)
  | .step n => (s.jobs n).elim s (s.advance n)
  | .stop n => s.set n none

def AppealSystem.start (desk : AppealDesk) : AppealSystem := ⟨desk, fun _ => none⟩

end System

variable {desk : AppealDesk}

section Chain

def Appeal.led (appeal : Appeal) : Option AppealStatus :=
  ChangeLog.replay StatusChange.oldStatus StatusChange.newStatus .opened appeal.statusHistory

def AppealJob.recordingFor (job : AppealJob) (appealId : Nat) : Option StatusChange :=
  match job.phase with
  | .recording change => if job.call.appealId = appealId then some change else none
  | _ => none

def AppealSystem.recording (s : AppealSystem) (appealId n : Nat) : Option StatusChange :=
  (s.jobs n).bind (·.recordingFor appealId)

/-- The records form a chain from OPEN; it ends in the stored status, unless an update stands
between its two writes. -/
def Explained (s : AppealSystem) : Prop :=
  ∀ appealId appeal, s.desk.appeals appealId = some appeal → appeal.led.isSome = true ∧
    ((∀ n, s.recording appealId n = none) → appeal.led = some appeal.status)

def AppealWrite.replaces : AppealWrite → Option AppealStatus
  | .assign _ change => change.map (·.oldStatus)
  | .claim _ change => change.map (·.oldStatus)
  | .department _ prevStatus _ => some prevStatus
  | .status change => some change.oldStatus

/-- A write of the status meets the status that its request has read, with no update between its two
writes, and no request stops there. -/
def Undisturbed (s : AppealSystem) : AppealAction → Prop
  | .begin _ _ => True
  | .step n => ∀ job write status, s.jobs n = some job → job.phase = .planned write →
      write.replaces = some status → (∀ m, s.recording job.call.appealId m = none) ∧
        ∀ appeal ∈ s.desk.appeals job.call.appealId, appeal.status = status
  | .stop n => ∀ appealId, s.recording appealId n = none

structure Chained (due : Nat → Option StatusChange) (appeal : Appeal) : Prop where
  settled : (∀ n, due n = none) → appeal.led = some appeal.status
  goes_on : ∀ n change, due n = some change →
    appeal.led = some change.oldStatus ∧ appeal.status = change.newStatus
  alone : ∀ n m, due n ≠ none → due m ≠ none → n = m

variable {s : AppealSystem} {appealId n : Nat} {appeal : Appeal} {due : Nat → Option StatusChange}

theorem Chained.led_isSome (chained : Chained due appeal) : appeal.led.isSome = true := by
  by_cases idle : ∀ n, due n = none
  · rw [chained.settled idle]
    rfl
  · obtain ⟨n, busy⟩ := not_forall.mp idle
    obtain ⟨change, here⟩ := Option.ne_none_iff_exists'.mp busy
    rw [(chained.goes_on n change here).1]
    rfl

structure GoesOn (replaces : Option AppealStatus) (appeal after : Appeal) : Prop where
  keeps : replaces = none → after.status = appeal.status ∧ after.led = appeal.led
  extends_led : ∀ status, replaces = some status → appeal.led = some appeal.status →
    appeal.status = status → after.led = some after.status

theorem GoesOn.refl (replaces : Option AppealStatus) : GoesOn replaces appeal appeal :=
  ⟨fun _ => ⟨rfl, rfl⟩, fun _ _ led _ => led⟩

def AppealWrite.Leaves (appeal after : Appeal) : AppealWrite → Prop
  | .status change => after = { appeal with status := change.newStatus }
  | write => GoesOn write.replaces appeal after

theorem led_record {change : StatusChange} {status : AppealStatus} (led : appeal.led = some status)
    (found : change.oldStatus = status) : (appeal.record change).led = some change.newStatus :=
  ChangeLog.replay_extend led found

theorem move_goesOn (appeal after : Appeal) (same_status : after.status = appeal.status)
    (same_history : after.statusHistory = appeal.statusHistory) (change : Option StatusChange) :
    GoesOn (change.map (·.oldStatus)) appeal (after.move change) := by
  have same_led : after.led = appeal.led := by rw [Appeal.led, Appeal.led, same_history]
  cases change with
  | none => exact ⟨fun _ => ⟨same_status, same_led⟩, fun _ none => by cases none⟩
  | some change =>
    refine ⟨fun some => by (cases some), fun status read led stored => ?_⟩
    obtain rfl := Option.some.inj read
    have moved_led : ({ after with status := change.newStatus } : Appeal).led = appeal.led := same_led
    exact led_record (moved_led.trans led) stored.symm

theorem modify_self {change : Appeal → Appeal} {after : Appeal}
    (found : (desk.modify appealId change).appeals appealId = some after) :
    ∃ appeal, desk.appeals appealId = some appeal ∧ after = change appeal := by
  simp only [AppealDesk.modify, if_true] at found
  obtain ⟨appeal, here, rfl⟩ := Option.map_eq_some_iff.mp found
  exact ⟨appeal, here, rfl⟩

theorem modify_other {change : Appeal → Appeal} {other : Nat} (differ : appealId ≠ other) :
    (desk.modify other change).appeals appealId = desk.appeals appealId := if_neg differ

theorem applyAppealWrite_self {write : AppealWrite} {after : Appeal}
    (found : (applyAppealWrite desk appealId write).appeals appealId = some after) :
    ∃ appeal, desk.appeals appealId = some appeal ∧ write.Leaves appeal after := by
  cases write with
  | assign assigneeIds change =>
    simp only [applyAppealWrite] at found
    split at found
    · obtain ⟨appeal, here, rfl⟩ := modify_self found
      have moved : GoesOn (change.map (·.oldStatus)) appeal
          ({ appeal with assignees := assigneeIds }.move change) :=
        move_goesOn appeal { appeal with assignees := assigneeIds } rfl rfl change
      exact ⟨appeal, here, moved⟩
    · exact ⟨after, found, GoesOn.refl _⟩
  | claim added change =>
    obtain ⟨appeal, here, rfl⟩ := modify_self found
    refine ⟨appeal, here, ?_⟩
    cases added with
    | none => exact move_goesOn appeal appeal rfl rfl change
    | some userId =>
      have moved : GoesOn (change.map (·.oldStatus)) appeal
          ({ appeal with assignees := appeal.assignees ++ [userId] }.move change) :=
        move_goesOn appeal { appeal with assignees := appeal.assignees ++ [userId] } rfl rfl change
      by_cases taken : appeal.assignees.contains userId = true
      · simp only [if_pos taken]
        exact GoesOn.refl _
      · simp only [if_neg taken]
        exact moved
  | department departmentId prevStatus changedById =>
    simp only [applyAppealWrite] at found
    split at found
    · obtain ⟨appeal, here, rfl⟩ := modify_self found
      refine ⟨appeal, here, fun none => by (cases none), fun status read led stored => ?_⟩
      obtain rfl := Option.some.inj read
      have moved_led : Appeal.led { appeal with
          toDepartmentId := departmentId, status := .opened, assignees := [] } =
            some appeal.status := led
      by_cases opened : prevStatus = .opened
      · simp only [opened, ne_eq, not_true_eq_false, if_false]
        rw [moved_led, stored, opened]
      · simp only [ne_eq, opened, not_false_eq_true, if_true]
        exact led_record moved_led stored.symm
    · exact ⟨after, found, GoesOn.refl _⟩
  | status change =>
    obtain ⟨appeal, here, rfl⟩ := modify_self found
    exact ⟨appeal, here, rfl⟩

theorem applyAppealWrite_other (write : AppealWrite) {other : Nat} (differ : appealId ≠ other) :
    (applyAppealWrite desk other write).appeals appealId = desk.appeals appealId := by
  cases write <;> simp only [applyAppealWrite] <;> try split
  all_goals first | exact modify_other differ | rfl

end Chain

section Steps
variable {s : AppealSystem} {appealId n : Nat} {job : AppealJob} {appeal after : Appeal}
  {due : Nat → Option StatusChange} {change : StatusChange}

theorem idle_of_update {next : Option StatusChange} (none_else : ∀ m, m ≠ n → due m = none)
    (none_here : next = none) (m : Nat) : Function.update due n next m = none := by
  by_cases same : m = n
  · rw [same, Function.update_self, none_here]
  · rw [Function.update_of_ne same, none_else m same]

theorem Chained.write_record (chained : Chained due appeal) (here : due n = some change) :
    Chained (Function.update due n none) (appeal.record change) := by
  obtain ⟨led, stored⟩ := chained.goes_on n change here
  have idle (m : Nat) : Function.update due n none m = none :=
    idle_of_update (fun m other => by
      by_contra busy
      exact other (chained.alone m n busy (by rw [here]; simp))) rfl m
  refine ⟨fun _ => ?_, fun m other later => ?_, fun m k busy _ => absurd (idle m) busy⟩
  · rw [led_record led rfl]
    exact congrArg some stored.symm
  · rw [idle m] at later
    cases later

theorem Chained.write_status (chained : Chained due appeal) (idle : ∀ m, due m = none)
    (stored : appeal.status = change.oldStatus) :
    Chained (Function.update due n (some change)) { appeal with status := change.newStatus } := by
  have here : Function.update due n (some change) n = some change := Function.update_self _ _ _
  have only (m : Nat) (busy : Function.update due n (some change) m ≠ none) : m = n := by
    by_contra other
    rw [Function.update_of_ne other] at busy
    exact busy (idle m)
  constructor
  · intro none
    rw [none n] at here
    cases here
  · intro m other found
    obtain rfl := only m (by rw [found]; simp)
    obtain rfl := Option.some.inj (here.symm.trans found)
    have led := chained.settled idle
    rw [stored] at led
    exact ⟨led, rfl⟩
  · intro m k first second
    rw [only m first, only k second]

theorem Chained.transact (chained : Chained due appeal) {replaces : Option AppealStatus}
    (goes_on : GoesOn replaces appeal after)
    (undisturbed : ∀ status, replaces = some status → (∀ m, due m = none) ∧ appeal.status = status) :
    Chained due after := by
  cases replaces with
  | none =>
    obtain ⟨status, led⟩ := goes_on.keeps rfl
    constructor
    · rw [led, status]
      exact chained.settled
    · rw [led, status]
      exact chained.goes_on
    · exact chained.alone
  | some status =>
    obtain ⟨idle, stored⟩ := undisturbed status rfl
    have led := goes_on.extends_led status rfl (chained.settled idle) stored
    refine ⟨fun _ => led, fun m change here => ?_, chained.alone⟩
    rw [idle m] at here
    cases here

def AllChained (s : AppealSystem) : Prop :=
  ∀ appealId appeal, s.desk.appeals appealId = some appeal → Chained (s.recording appealId) appeal

variable {next : Option AppealJob}

theorem recording_of_jobs {s' : AppealSystem} (jobs : s'.jobs = Function.update s.jobs n next)
    (appealId : Nat) : s'.recording appealId =
      Function.update (s.recording appealId) n (next.bind (·.recordingFor appealId)) := by
  funext m
  by_cases same : m = n
  · rw [same, Function.update_self, AppealSystem.recording, jobs, Function.update_self]
  · rw [Function.update_of_ne same, AppealSystem.recording, jobs, Function.update_of_ne same]
    rfl

theorem recording_quiet {s' : AppealSystem} (jobs : s'.jobs = Function.update s.jobs n next)
    (quiet : s.recording appealId n = none) (later : next.bind (·.recordingFor appealId) = none) :
    s'.recording appealId = s.recording appealId := by
  rw [recording_of_jobs jobs, later, ← quiet, Function.update_eq_self]

theorem recording_set (next : Option AppealJob) (desk : AppealDesk) (appealId : Nat) :
    ({ s.set n next with desk := desk } : AppealSystem).recording appealId =
      Function.update (s.recording appealId) n (next.bind (·.recordingFor appealId)) :=
  recording_of_jobs rfl appealId

theorem AllChained.set_quiet (now : AllChained s)
    (quiet : ∀ appealId, s.recording appealId n = none)
    (later : ∀ appealId, next.bind (·.recordingFor appealId) = none) :
    AllChained (s.set n next) := by
  intro appealId appeal here
  have same : (s.set n next).recording appealId = s.recording appealId :=
    recording_quiet rfl (quiet appealId) (later appealId)
  rw [same]
  exact now appealId appeal here

theorem recording_of_phase (running : s.jobs n = some job) {phase : AppealPhase}
    (here : job.phase = phase) (apart : ∀ change, phase ≠ .recording change) (appealId : Nat) :
    s.recording appealId n = none := by
  rw [AppealSystem.recording, running, Option.bind_some, AppealJob.recordingFor, here]
  cases phase with
  | recording change => exact absurd rfl (apart change)
  | started => rfl
  | loaded appeal => rfl
  | planned write => rfl

theorem planned_chained (now : AllChained s) (running : s.jobs n = some job) {write : AppealWrite}
    (phase : job.phase = .planned write)
    (undisturbed : ∀ status, write.replaces = some status →
      (∀ m, s.recording job.call.appealId m = none) ∧
        ∀ appeal ∈ s.desk.appeals job.call.appealId, appeal.status = status) :
    AllChained { s.set n (job.written write) with
      desk := applyAppealWrite s.desk job.call.appealId write } := by
  have quiet := recording_of_phase running phase (fun _ => by simp)
  intro appealId after found
  rw [recording_set]
  by_cases own : appealId = job.call.appealId
  · subst own
    obtain ⟨appeal, here, leaves⟩ := applyAppealWrite_self found
    have chained := now _ appeal here
    have transacted (goes_on : GoesOn write.replaces appeal after)
        (complete : job.written write = none) : Chained (Function.update
          (s.recording job.call.appealId) n ((job.written write).bind
            (·.recordingFor job.call.appealId))) after := by
      rw [complete, Option.bind_none, Function.update_eq_self_iff.mpr (quiet _).symm]
      refine chained.transact goes_on (fun status read => ?_)
      obtain ⟨idle, stored⟩ := undisturbed status read
      exact ⟨idle, stored appeal here⟩
    cases write with
    | status change =>
      obtain ⟨idle, stored⟩ := undisturbed change.oldStatus rfl
      subst leaves
      have due : ((job.written (.status change)).bind (·.recordingFor job.call.appealId)) =
          some change := if_pos rfl
      rw [due]
      exact chained.write_status idle (stored appeal here)
    | assign assigneeIds change => exact transacted leaves rfl
    | claim added change => exact transacted leaves rfl
    | department departmentId prevStatus changedById => exact transacted leaves rfl
  · have elsewhere : (job.written write).bind (·.recordingFor appealId) = none := by
      cases write with
      | status change => exact if_neg (Ne.symm own)
      | assign assigneeIds change => rfl
      | claim added change => rfl
      | department departmentId prevStatus changedById => rfl
    rw [elsewhere, Function.update_eq_self_iff.mpr (quiet _).symm]
    exact now appealId after ((applyAppealWrite_other write own).symm.trans found)

theorem recorded_chained (now : AllChained s) (running : s.jobs n = some job)
    (phase : job.phase = .recording change) :
    AllChained { s.set n none with desk := recordChange s.desk job.call.appealId change } := by
  have due (appealId : Nat) : s.recording appealId n =
      if job.call.appealId = appealId then some change else none := by
    rw [AppealSystem.recording, running, Option.bind_some, AppealJob.recordingFor, phase]
  intro appealId after found
  rw [recording_set, Option.bind_none]
  by_cases own : appealId = job.call.appealId
  · subst own
    obtain ⟨appeal, here, rfl⟩ := modify_self found
    exact (now _ appeal here).write_record ((due _).trans (if_pos rfl))
  · rw [Function.update_eq_self_iff.mpr ((due appealId).trans (if_neg (Ne.symm own))).symm]
    exact now appealId after ((modify_other own).symm.trans found)

theorem appealStep_chained (now : AllChained s) {a : AppealAction} (undisturbed : Undisturbed s a) :
    AllChained (appealStep s a) := by
  cases a with
  | begin n call =>
    simp only [appealStep]
    split
    · exact now
    · next free =>
      refine now.set_quiet (fun appealId => ?_) (fun _ => rfl)
      rw [AppealSystem.recording, Option.not_isSome_iff_eq_none.mp free, Option.bind_none]
  | stop n => exact now.set_quiet undisturbed (fun _ => rfl)
  | step n =>
    simp only [appealStep]
    cases running : s.jobs n with
    | none => exact now
    | some job =>
      simp only [Option.elim_some, AppealSystem.advance]
      cases phase : job.phase with
      | started =>
        refine now.set_quiet (recording_of_phase running phase (fun _ => by simp)) ?_
        intro appealId
        cases s.desk.appeals job.call.appealId <;> rfl
      | loaded appeal =>
        have quiet := recording_of_phase running phase (fun _ => by simp)
        simp only
        split
        · exact now.set_quiet quiet (fun _ => rfl)
        · exact now.set_quiet quiet (fun _ => rfl)
      | planned write =>
        exact planned_chained now running phase
          (fun status => undisturbed job write status running phase)
      | recording change => exact recorded_chained now running phase

theorem AllChained.explained (all : AllChained s) : Explained s :=
  fun appealId appeal here =>
    ⟨(all appealId appeal here).led_isSome, (all appealId appeal here).settled⟩

/-- Along every run whose writes of the status are undisturbed, the history of every appeal explains
its status. -/
theorem history_explains_status
    (start : ∀ appealId appeal, desk.appeals appealId = some appeal → appeal.led = some appeal.status)
    (actions : List AppealAction)
    (undisturbed : EachStep appealStep Undisturbed (.start desk) actions) :
    Always appealStep Explained (.start desk) actions := by
  have chained : AllChained (.start desk) := by
    intro appealId appeal here
    exact ⟨fun _ => start appealId appeal here, fun _ _ due => by (cases due),
      fun _ _ busy => absurd rfl busy⟩
  have always := always_of_eachStep (I := AllChained) (fun _ _ now met => appealStep_chained now met)
    chained actions undisturbed
  exact always.mono (fun _ all => all.explained)

def sampleDesk : AppealDesk where
  appeals id := if id = 1 then some ⟨5, 1, .opened, [], []⟩ else none
  users id := if id = 2 then some ⟨"user", [⟨5, "department_manager"⟩], none⟩
    else if id = 3 then some ⟨"user", [], some 5⟩
    else if id = 1 then some ⟨"user", [], none⟩ else none
  departments id := id == 5

theorem sampleDesk_start (appealId : Nat) (appeal : Appeal)
    (here : sampleDesk.appeals appealId = some appeal) : appeal.led = some appeal.status := by
  simp only [sampleDesk] at here
  split at here
  · cases here
    rfl
  · cases here

theorem history_explains_status_claimed : Always appealStep Explained (.start sampleDesk)
    [.begin 0 ⟨1, 3, .claim⟩, .step 0, .step 0, .step 0] := by
  refine history_explains_status sampleDesk_start _ ⟨True.intro, ?_, ?_, ?_, True.intro⟩
  · intro job write status running phase
    cases running
    cases phase
  · intro job write status running phase
    cases running
    cases phase
  · intro job write status running phase read
    cases running
    cases phase
    cases read
    refine ⟨fun m => ?_, fun appeal here => ?_⟩
    · by_cases same : m = 0
      · subst same
        rfl
      · have free {f : Nat → Option AppealJob} {job : Option AppealJob} (before : f m = none) :
            Function.update f 0 job m = none := (Function.update_of_ne same _ _).trans before
        exact congrArg (fun job : Option AppealJob => job.bind (·.recordingFor 1))
          (free (free (free rfl)))
    · cases here
      rfl

/-- Two requests that have read the same status write two records of leaving it. -/
theorem parallel_requests_break_history : ¬ ∀ (desk : AppealDesk) (actions : List AppealAction),
    (∀ appealId appeal, desk.appeals appealId = some appeal → appeal.led = some appeal.status) →
      Always appealStep Explained (.start desk) actions := by
  intro always
  have explained := (always sampleDesk [.begin 0 ⟨1, 3, .claim⟩, .begin 1 ⟨1, 2, .assign [3]⟩,
    .step 0, .step 1, .step 0, .step 1, .step 0, .step 1] sampleDesk_start).last
  have broken := (explained 1 _ rfl).1
  exact absurd broken (by decide +kernel)

end Steps

end LeaderProduct
