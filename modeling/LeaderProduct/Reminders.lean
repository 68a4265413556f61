import Mathlib.Data.List.Basic
import Mathlib.Data.List.Nodup
import Mathlib.Data.List.Sort
import Mathlib.Logic.Function.Basic
import LeaderProduct.Transition

/-! The scheduled reminders of appeals: one sorted set that every process polls. The due members are
read by one command and removed by another, and anything may happen between the two. -/
namespace LeaderProduct
open Transition

section Jobs

inductive JobType where
  | unreadReminder
  | closureReminder
  deriving DecidableEq, Repr

structure JobMember where
  type : JobType
  appealId : Nat
  deriving DecidableEq, Repr

/-- A member with its score. The stamp tells it from what has been in the set under the same member
before or comes later. -/
structure ScheduledJob where
  member : JobMember
  scheduledFor : Int
  stamp : Nat
  deriving DecidableEq, Repr

/-- A run of `processDueJobs`. A job with a stamp from `nextStamp` on was scheduled after the
read. -/
inductive Poll where
  | started (now : Int)
  | read (now : Int) (nextStamp : Nat) (dueMembers : List ScheduledJob)
  | processing (dueMembers : List ScheduledJob)

/-- A run of `cancelAppealJobs`: the jobs of the appeal when it began, the members that have been
removed, and between `zScan` and `zRem` the members of the page and whether it was the last. -/
structure Cancel where
  appealId : Nat
  asked : List ScheduledJob
  removed : List JobMember
  page : Option (List JobMember × Bool)

/-- The sorted set, what runs on it, and what has come of the jobs: those that a poll has read,
those processed (and by which poll), those that a range removal took away unread, and those that
were cancelled or moved to a later time before they were due. -/
structure JobStore where
  clock : Int
  queue : List ScheduledJob
  nextStamp : Nat
  polls : Nat → Option Poll
  cancels : Nat → Option Cancel
  taken : List ScheduledJob
  processed : List (Nat × ScheduledJob)
  lost : List ScheduledJob
  withdrawn : List ScheduledJob

def JobStore.start (clock : Int) : JobStore :=
  ⟨clock, [], 0, fun _ => none, fun _ => none, [], [], [], []⟩

inductive JobAction where
  | wait (ms : Nat)
  | scheduleJob (member : JobMember) (scheduledFor : Int)
  | startPoll (n : Nat)
  | readDue (n : Nat)
  | removeDue (n : Nat)
  | processJob (n : Nat)
  | stopPoll (n : Nat)
  | startCancel (n : Nat) (appealId : Nat)
  | scanPage (n : Nat) (members : List JobMember) (last : Bool)
  | removePage (n : Nat)
  | stopCancel (n : Nat)

variable (s : JobStore)

def JobStore.setPoll (n : Nat) (poll : Option Poll) : JobStore :=
  { s with polls := Function.update s.polls n poll }

def JobStore.setCancel (n : Nat) (cancel : Option Cancel) : JobStore :=
  { s with cancels := Function.update s.cancels n cancel }

def JobStore.dueAt (now : Int) : List ScheduledJob :=
  (s.queue.filter (fun job => job.scheduledFor ≤ now)).insertionSort
    (fun a b => a.scheduledFor ≤ b.scheduledFor)

/-- The jobs of a member, moved to another time before they were due. -/
def JobStore.postponed (member : JobMember) (scheduledFor : Int) : List ScheduledJob :=
  s.queue.filter fun job =>
    job.member == member && decide (s.clock < job.scheduledFor ∧ job.scheduledFor < scheduledFor)

def JobStore.zAdd (member : JobMember) (scheduledFor : Int) : JobStore :=
  if s.queue.any (fun job => job.member == member && job.scheduledFor == scheduledFor) then s
  else
    { s with
      queue := s.queue.filter (fun job => job.member != member) ++
        [⟨member, scheduledFor, s.nextStamp⟩]
      nextStamp := s.nextStamp + 1
      withdrawn := s.withdrawn ++ s.postponed member scheduledFor }

/-- `zScan` pages the whole set: what has been there from the first page to the last is on one. -/
def Cancel.mayEnd (cancel : Cancel) (queue : List ScheduledJob) (page : List JobMember) : Bool :=
  cancel.asked.all fun job =>
    !queue.contains job || cancel.removed.contains job.member || page.contains job.member

/-- One command of one of the runs. A command that cannot come next changes nothing. -/
def JobStore.step : JobAction → JobStore
  | .wait ms => { s with clock := s.clock + ms }
  | .scheduleJob member scheduledFor => s.zAdd member scheduledFor
  | .startPoll n => if (s.polls n).isSome then s else s.setPoll n (some (.started s.clock))
  | .readDue n =>
    match s.polls n with
    | some (.started now) =>
      let dueMembers := s.dueAt now
      if dueMembers.isEmpty then s.setPoll n none
      else
        { s.setPoll n (some (.read now s.nextStamp dueMembers)) with
          taken := s.taken ++ dueMembers }
    | _ => s
  | .removeDue n =>
    match s.polls n with
    | some (.read now _ dueMembers) =>
      { s.setPoll n (some (.processing dueMembers)) with
        queue := s.queue.filter (fun job => now < job.scheduledFor)
        lost := s.lost ++ (s.dueAt now).filter (fun job => !s.taken.contains job) }
    | _ => s
  | .processJob n =>
    match s.polls n with
    | some (.processing (job :: rest)) =>
      { s.setPoll n (some (.processing rest)) with processed := s.processed ++ [(n, job)] }
    | some (.processing []) => s.setPoll n none
    | _ => s
  | .stopPoll n => s.setPoll n none
  | .startCancel n appealId =>
    if (s.cancels n).isSome then s
    else
      s.setCancel n (some
        ⟨appealId, s.queue.filter (fun job => job.member.appealId == appealId), [], none⟩)
  | .scanPage n members last =>
    match s.cancels n with
    | some ⟨appealId, asked, removed, none⟩ =>
      let toRemove := members.filter fun member =>
        member.appealId == appealId && s.queue.any (fun job => job.member == member)
      if last && !Cancel.mayEnd ⟨appealId, asked, removed, none⟩ s.queue toRemove then s
      else s.setCancel n (some ⟨appealId, asked, removed, some (toRemove, last)⟩)
    | _ => s
  | .removePage n =>
    match s.cancels n with
    | some ⟨appealId, asked, removed, some (toRemove, last)⟩ =>
      let cleared := { s with
        queue := s.queue.filter (fun job => !toRemove.contains job.member) }
      if last then
        { cleared.setCancel n none with
          withdrawn := s.withdrawn ++ asked.filter (fun job => s.clock < job.scheduledFor) }
      else cleared.setCancel n (some ⟨appealId, asked, removed ++ toRemove, none⟩)
    | _ => s
  | .stopCancel n => s.setCancel n none

end Jobs

section Law
variable (s : JobStore)

/-- Every job is processed at most once, none was removed unread, and none that was withdrawn before
it was due is processed. -/
structure FiresOnce : Prop where
  once : (s.processed.map (·.2)).Nodup
  kept : s.lost = []
  withdrawn : ∀ job ∈ s.withdrawn, job ∉ s.processed.map (·.2)

def Poll.jobs : Poll → List ScheduledJob
  | .started _ => []
  | .read _ _ dueMembers => dueMembers
  | .processing dueMembers => dueMembers

def JobStore.held (n : Nat) : List ScheduledJob := (s.polls n).elim [] Poll.jobs

/-- A poll reads nothing that another one has read and not removed yet, and by its removal nothing
has been scheduled for a due time since its read, or another poll has read it. -/
def InTurn (s : JobStore) : JobAction → Prop
  | .readDue n => ∀ now, s.polls n = some (.started now) →
      ∀ job ∈ s.queue, job.scheduledFor ≤ now → ∀ m, job ∉ s.held m
  | .removeDue n => ∀ now nextStamp dueMembers, s.polls n = some (.read now nextStamp dueMembers) →
      ∀ job ∈ s.queue, nextStamp ≤ job.stamp → job.scheduledFor ≤ now → job ∈ s.taken
  | _ => True

end Law

variable {queue : List ScheduledJob}

section Withdrawn
variable {s : JobStore}

structure Cancel.Sound (cancel : Cancel) (queue : List ScheduledJob) (nextStamp : Nat) : Prop where
  stamps : ∀ job ∈ cancel.asked, job.stamp < nextStamp
  removed : ∀ job ∈ cancel.asked, job.member ∈ cancel.removed → job ∉ queue
  last : ∀ page, cancel.page = some (page, true) → ∀ job ∈ cancel.asked, job ∈ queue →
    job.member ∈ cancel.removed ∨ job.member ∈ page

structure InTime (s : JobStore) : Prop where
  queued : ∀ job ∈ s.queue, job.stamp < s.nextStamp
  held : ∀ n, ∀ job ∈ s.held n, job.stamp < s.nextStamp ∧ job.scheduledFor ≤ s.clock
  started : ∀ n now, s.polls n = some (.started now) → now ≤ s.clock
  processed : ∀ job ∈ s.processed.map (·.2), job.stamp < s.nextStamp ∧ job.scheduledFor ≤ s.clock
  cancels : ∀ n cancel, s.cancels n = some cancel → cancel.Sound s.queue s.nextStamp
  withdrawn : ∀ job ∈ s.withdrawn, job.stamp < s.nextStamp ∧ job ∉ s.queue ∧
    (∀ n, job ∉ s.held n) ∧ job ∉ s.processed.map (·.2)

theorem held_setPoll (n : Nat) (poll : Option Poll) (m : Nat) :
    (s.setPoll n poll).held m = if m = n then poll.elim [] Poll.jobs else s.held m := by
  simp only [JobStore.held, JobStore.setPoll, Function.update_apply]
  split <;> rfl

variable {job : ScheduledJob}

theorem mem_dueAt {now : Int} :
    job ∈ s.dueAt now ↔ job ∈ s.queue ∧ job.scheduledFor ≤ now := by
  simp [JobStore.dueAt]

theorem held_of_poll {n : Nat} {poll : Poll} (here : s.polls n = some poll) :
    s.held n = poll.jobs := by
  rw [JobStore.held, here]
  rfl

theorem Cancel.Sound.shrink {cancel : Cancel} {shorter : List ScheduledJob} {nextStamp : Nat}
    (sound : cancel.Sound queue nextStamp) (less : shorter ⊆ queue) :
    cancel.Sound shorter nextStamp where
  stamps := sound.stamps
  removed job asked gone here := sound.removed job asked gone (less here)
  last page final job asked here := sound.last page final job asked (less here)

theorem Cancel.of_mayEnd {cancel : Cancel} {page : List JobMember}
    (ends : cancel.mayEnd queue page = true) :
    ∀ job ∈ cancel.asked, job ∈ queue → job.member ∈ cancel.removed ∨ job.member ∈ page := by
  intro job asked known
  have here := List.all_eq_true.mp ends job asked
  simp only [Bool.or_eq_true, Bool.not_eq_true', List.contains_iff_mem] at here
  rcases here with (absent | removed) | paged
  · simp [known] at absent
  · exact .inl removed
  · exact .inr paged

theorem inTime_start (clock : Int) : InTime (.start clock) := by
  constructor <;> simp [JobStore.start, JobStore.held]

section
variable (inTime : InTime s)
include inTime

theorem InTime.wait (ms : Nat) : InTime (s.step (.wait ms)) where
  queued := inTime.queued
  held n job here := by
    obtain ⟨stamp, due⟩ := inTime.held n job here
    refine ⟨stamp, ?_⟩
    simp only [JobStore.step]
    omega
  started n now here := by
    have before := inTime.started n now here
    simp only [JobStore.step]
    omega
  processed job here := by
    obtain ⟨stamp, due⟩ := inTime.processed job here
    refine ⟨stamp, ?_⟩
    simp only [JobStore.step]
    omega
  cancels := inTime.cancels
  withdrawn := inTime.withdrawn

theorem InTime.setPoll (n : Nat) {poll : Option Poll}
    (jobs : ∀ job ∈ poll.elim [] Poll.jobs, (job.stamp < s.nextStamp ∧
      job.scheduledFor ≤ s.clock) ∧ job ∉ s.withdrawn)
    (started : ∀ now, poll = some (.started now) → now ≤ s.clock) : InTime (s.setPoll n poll) where
  queued := inTime.queued
  held m job here := by
    rw [held_setPoll] at here
    split at here
    · exact (jobs job here).1
    · exact inTime.held m job here
  started m now here := by
    simp only [JobStore.setPoll, Function.update_apply] at here
    split at here
    · exact started now here
    · exact inTime.started m now here
  processed := inTime.processed
  cancels := inTime.cancels
  withdrawn job here := by
    obtain ⟨stamp, queue, held, processed⟩ := inTime.withdrawn job here
    refine ⟨stamp, queue, fun m inside => ?_, processed⟩
    rw [held_setPoll] at inside
    split at inside
    · exact (jobs job inside).2 here
    · exact held m inside

theorem InTime.shrink (less : queue ⊆ s.queue) :
    InTime { s with queue := queue } where
  queued job here := inTime.queued job (less here)
  held := inTime.held
  started := inTime.started
  processed := inTime.processed
  cancels n cancel here := (inTime.cancels n cancel here).shrink less
  withdrawn job here := by
    obtain ⟨stamp, gone, held, processed⟩ := inTime.withdrawn job here
    exact ⟨stamp, fun inside => gone (less inside), held, processed⟩

/-- Jobs that nothing has any more, before they were due: no poll can have read them. -/
theorem InTime.withdraw {jobs : List ScheduledJob}
    (early : ∀ job ∈ jobs, job.stamp < s.nextStamp ∧ job ∉ s.queue ∧ s.clock < job.scheduledFor) :
    InTime { s with withdrawn := s.withdrawn ++ jobs } where
  queued := inTime.queued
  held := inTime.held
  started := inTime.started
  processed := inTime.processed
  cancels := inTime.cancels
  withdrawn job here := by
    rcases List.mem_append.mp here with old | new
    · exact inTime.withdrawn job old
    · obtain ⟨stamp, gone, early⟩ := early job new
      refine ⟨stamp, gone, fun n inside => ?_, fun inside => ?_⟩
      · have due := (inTime.held n job inside).2
        omega
      · have due := (inTime.processed job inside).2
        omega

theorem InTime.zAdd (member : JobMember) (scheduledFor : Int) :
    InTime (s.zAdd member scheduledFor) := by
  unfold JobStore.zAdd
  split
  · exact inTime
  · have added : InTime { s with
        queue := s.queue.filter (fun job => job.member != member) ++
          [⟨member, scheduledFor, s.nextStamp⟩]
        nextStamp := s.nextStamp + 1 } := by
      have fresh {job : ScheduledJob} (stamp : job.stamp < s.nextStamp)
          (here : job ∈ s.queue.filter (fun job => job.member != member) ++
            [⟨member, scheduledFor, s.nextStamp⟩]) : job ∈ s.queue := by
        rcases List.mem_append.mp here with old | new
        · exact (List.mem_filter.mp old).1
        · rw [List.mem_singleton.mp new] at stamp
          exact absurd stamp (Nat.lt_irrefl _)
      refine ⟨?_, ?_, inTime.started, ?_, ?_, ?_⟩
      · intro job here
        rcases List.mem_append.mp here with old | new
        · have stamp := inTime.queued job (List.mem_filter.mp old).1
          exact Nat.lt_succ_of_lt stamp
        · rw [List.mem_singleton.mp new]
          exact Nat.lt_succ_self _
      · intro n job here
        obtain ⟨stamp, due⟩ := inTime.held n job here
        exact ⟨Nat.lt_succ_of_lt stamp, due⟩
      · intro job here
        obtain ⟨stamp, due⟩ := inTime.processed job here
        exact ⟨Nat.lt_succ_of_lt stamp, due⟩
      · intro n cancel here
        obtain ⟨stamps, removed, last⟩ := inTime.cancels n cancel here
        refine ⟨fun job asked => Nat.lt_succ_of_lt (stamps job asked), ?_, ?_⟩
        · exact fun job asked gone here => removed job asked gone (fresh (stamps job asked) here)
        · exact fun page final job asked here =>
            last page final job asked (fresh (stamps job asked) here)
      · intro job here
        obtain ⟨stamp, gone, held, processed⟩ := inTime.withdrawn job here
        exact ⟨Nat.lt_succ_of_lt stamp, fun inside => gone (fresh stamp inside), held, processed⟩
    refine added.withdraw fun job here => ?_
    simp only [JobStore.postponed, List.mem_filter, Bool.and_eq_true, beq_iff_eq,
      decide_eq_true_eq] at here
    obtain ⟨known, same, early, _⟩ := here
    have stamp := inTime.queued job known
    refine ⟨Nat.lt_succ_of_lt stamp, ?_, early⟩
    intro inside
    rcases List.mem_append.mp inside with old | new
    · simp [same] at old
    · rw [List.mem_singleton.mp new] at stamp
      exact absurd stamp (Nat.lt_irrefl _)

theorem InTime.setCancel (n : Nat) {cancel : Option Cancel}
    (sound : ∀ given, cancel = some given → given.Sound s.queue s.nextStamp) :
    InTime (s.setCancel n cancel) where
  queued := inTime.queued
  held := inTime.held
  started := inTime.started
  processed := inTime.processed
  cancels m given here := by
    simp only [JobStore.setCancel, Function.update_apply] at here
    split at here
    · exact sound given here
    · exact inTime.cancels m given here
  withdrawn := inTime.withdrawn

theorem InTime.taken (taken : List ScheduledJob) :
    InTime { s with taken := taken } := ⟨inTime.queued, inTime.held, inTime.started,
  inTime.processed, inTime.cancels, inTime.withdrawn⟩

theorem InTime.lose (lost : List ScheduledJob) :
    InTime { s with lost := lost } := ⟨inTime.queued, inTime.held, inTime.started,
  inTime.processed, inTime.cancels, inTime.withdrawn⟩

theorem InTime.process (n : Nat) (stamp : job.stamp < s.nextStamp)
    (due : job.scheduledFor ≤ s.clock) (kept : job ∉ s.withdrawn) :
    InTime { s with processed := s.processed ++ [(n, job)] } where
  queued := inTime.queued
  held := inTime.held
  started := inTime.started
  processed given here := by
    rw [List.map_append, List.mem_append] at here
    rcases here with old | new
    · exact inTime.processed given old
    · rw [List.map_singleton, List.mem_singleton] at new
      rw [new]
      exact ⟨stamp, due⟩
  cancels := inTime.cancels
  withdrawn given here := by
    obtain ⟨stamp, gone, held, processed⟩ := inTime.withdrawn given here
    refine ⟨stamp, gone, held, fun inside => ?_⟩
    rw [List.map_append, List.mem_append] at inside
    rcases inside with old | new
    · exact processed old
    · have same : given = job := by simpa using new
      exact kept (same ▸ here)

theorem InTime.unheld {n : Nat} (here : job ∈ s.held n) :
    (job.stamp < s.nextStamp ∧ job.scheduledFor ≤ s.clock) ∧ job ∉ s.withdrawn :=
  ⟨inTime.held n job here, fun withdrawn => (inTime.withdrawn job withdrawn).2.2.1 n here⟩

theorem InTime.startPoll (n : Nat) : InTime (s.step (.startPoll n)) := by
  simp only [JobStore.step]
  split
  · exact inTime
  · refine inTime.setPoll n (fun job none => absurd none List.not_mem_nil) ?_
    rintro now same
    cases same
    exact Int.le_refl _

theorem InTime.readDue (n : Nat) : InTime (s.step (.readDue n)) := by
  simp only [JobStore.step]
  split
  · next now here =>
    split
    · exact inTime.setPoll n (fun job none => absurd none List.not_mem_nil) nofun
    · refine InTime.taken ?_ _
      refine inTime.setPoll n (fun job inside => ?_) nofun
      obtain ⟨known, due⟩ := mem_dueAt.mp inside
      have before := inTime.started n now here
      refine ⟨⟨inTime.queued job known, Int.le_trans due before⟩, fun withdrawn => ?_⟩
      exact (inTime.withdrawn job withdrawn).2.1 known
  · exact inTime

theorem InTime.removeDue (n : Nat) : InTime (s.step (.removeDue n)) := by
  simp only [JobStore.step]
  split
  · next now dueMembers here =>
    have set : InTime (s.setPoll n (some (.processing dueMembers))) := by
      refine inTime.setPoll n (fun job inside => ?_) nofun
      apply inTime.unheld (n := n)
      rw [held_of_poll here]
      exact inside
    exact (set.shrink List.filter_sublist.subset).lose _
  · exact inTime

theorem InTime.processJob (n : Nat) : InTime (s.step (.processJob n)) := by
  simp only [JobStore.step]
  split
  · next job rest here =>
    have held := held_of_poll here
    have own : job ∈ s.held n := by
      rw [held]
      exact List.mem_cons_self
    obtain ⟨⟨stamp, due⟩, kept⟩ := inTime.unheld own
    have set : InTime (s.setPoll n (some (.processing rest))) := by
      refine inTime.setPoll n (fun other inside => ?_) nofun
      apply inTime.unheld (n := n)
      rw [held]
      exact List.mem_cons_of_mem _ inside
    exact set.process n stamp due kept
  · exact inTime.setPoll n (fun job none => absurd none List.not_mem_nil) nofun
  · exact inTime

theorem InTime.startCancel (n appealId : Nat) :
    InTime (s.step (.startCancel n appealId)) := by
  simp only [JobStore.step]
  split
  · exact inTime
  · refine inTime.setCancel n ?_
    rintro cancel same
    cases same
    refine ⟨fun job asked => inTime.queued job (List.mem_filter.mp asked).1, ?_, nofun⟩
    exact fun job _ none => absurd none List.not_mem_nil

theorem InTime.scanPage (n : Nat) (members : List JobMember) (last : Bool) :
    InTime (s.step (.scanPage n members last)) := by
  simp only [JobStore.step]
  split
  · next appealId asked removed here =>
    split
    · exact inTime
    · next ends =>
      refine inTime.setCancel n ?_
      rintro cancel same
      cases same
      obtain ⟨stamps, gone, _⟩ := inTime.cancels n _ here
      refine ⟨stamps, gone, ?_⟩
      rintro page final job inside known
      cases final
      rw [Bool.true_and, Bool.not_eq_true', Bool.not_eq_false] at ends
      exact Cancel.of_mayEnd ends job inside known
  · exact inTime

theorem InTime.removePage (n : Nat) : InTime (s.step (.removePage n)) := by
  simp only [JobStore.step]
  split
  · next appealId asked removed toRemove last here =>
    obtain ⟨stamps, gone, ending⟩ := inTime.cancels n _ here
    have cleared : InTime { s with
        queue := s.queue.filter (fun job => !toRemove.contains job.member) } :=
      inTime.shrink List.filter_sublist.subset
    have off {job : ScheduledJob} (inside : job ∈ s.queue.filter
        (fun job => !toRemove.contains job.member)) :
        job ∈ s.queue ∧ job.member ∉ toRemove := by
      simpa [List.contains_iff_mem] using inside
    split
    · next final =>
      subst final
      have ended := cleared.setCancel n (fun given (same : none = some given) => nomatch same)
      refine ended.withdraw fun job inside => ?_
      obtain ⟨asked, early⟩ := List.mem_filter.mp inside
      refine ⟨stamps job asked, fun known => ?_, of_decide_eq_true early⟩
      obtain ⟨known, other⟩ := off known
      rcases ending toRemove rfl job asked known with removed | paged
      · exact gone job asked removed known
      · exact other paged
    · refine cleared.setCancel n ?_
      rintro cancel same
      cases same
      refine ⟨stamps, ?_, nofun⟩
      intro job inside removed known
      obtain ⟨known, other⟩ := off known
      rcases List.mem_append.mp removed with before | now
      · exact gone job inside before known
      · exact other now
  · exact inTime

theorem InTime.step (action : JobAction) : InTime (s.step action) := by
  cases action with
  | wait ms => exact inTime.wait ms
  | scheduleJob member scheduledFor => exact inTime.zAdd member scheduledFor
  | startPoll n => exact inTime.startPoll n
  | readDue n => exact inTime.readDue n
  | removeDue n => exact inTime.removeDue n
  | processJob n => exact inTime.processJob n
  | stopPoll n => exact inTime.setPoll n (fun job none => absurd none List.not_mem_nil) nofun
  | startCancel n appealId => exact inTime.startCancel n appealId
  | scanPage n members last => exact inTime.scanPage n members last
  | removePage n => exact inTime.removePage n
  | stopCancel n => exact inTime.setCancel n nofun

end

/-- A job that was withdrawn before it was due is not processed, in any run. -/
theorem withdrawn_not_processed (clock : Int) (actions : List JobAction) :
    Always JobStore.step (fun s => ∀ job ∈ s.withdrawn, job ∉ s.processed.map (·.2))
      (.start clock) actions :=
  always_of_invariant (fun _ action inTime => inTime.step action)
    (fun _ inTime job here => (inTime.withdrawn job here).2.2.2) (inTime_start clock) actions

end Withdrawn

section Read
variable {s s' : JobStore}

def SawAll (s : JobStore) : Prop :=
  ∀ n now nextStamp dueMembers, s.polls n = some (.read now nextStamp dueMembers) →
    nextStamp ≤ s.nextStamp ∧
      ∀ job ∈ s.queue, job.stamp < nextStamp → job.scheduledFor ≤ now → job ∈ s.taken

theorem sawAll_start (clock : Int) : SawAll (.start clock) := nofun

theorem SawAll.next (sawAll : SawAll s)
    (polls : ∀ n now nextStamp dueMembers, s'.polls n = some (.read now nextStamp dueMembers) →
      s.polls n = some (.read now nextStamp dueMembers))
    (queue : ∀ job ∈ s'.queue, job ∈ s.queue ∨ s.nextStamp ≤ job.stamp)
    (stamps : s.nextStamp ≤ s'.nextStamp) (taken : s.taken ⊆ s'.taken) : SawAll s' := by
  intro n now nextStamp dueMembers here
  obtain ⟨below, read⟩ := sawAll n now nextStamp dueMembers (polls n now nextStamp dueMembers here)
  refine ⟨Nat.le_trans below stamps, fun job inside before due => ?_⟩
  rcases queue job inside with known | new
  · exact taken (read job known before due)
  · omega

theorem SawAll.setPoll (sawAll : SawAll s) (n : Nat) {poll : Option Poll}
    (unread : ∀ now nextStamp dueMembers, poll ≠ some (.read now nextStamp dueMembers)) :
    SawAll (s.setPoll n poll) := by
  refine sawAll.next (fun m now nextStamp dueMembers here => ?_) (fun _ => .inl) (Nat.le_refl _)
    (List.Subset.refl _)
  simp only [JobStore.setPoll, Function.update_apply] at here
  split at here
  · exact absurd here (unread now nextStamp dueMembers)
  · exact here

theorem SawAll.shrink (sawAll : SawAll s) (less : queue ⊆ s.queue) {cancels : Nat → Option Cancel}
    {processed lost withdrawn : List _} :
    SawAll { s with
      queue := queue, cancels := cancels, processed := processed, lost := lost
      withdrawn := withdrawn } :=
  sawAll.next (fun _ _ _ _ => id) (fun _ here => .inl (less here)) (Nat.le_refl _)
    (List.Subset.refl _)

theorem SawAll.readDue (sawAll : SawAll s) (n : Nat) : SawAll (s.step (.readDue n)) := by
  simp only [JobStore.step]
  split
  · next now _ =>
    split
    · exact sawAll.setPoll n nofun
    · intro m time nextStamp dueMembers here
      simp only [JobStore.setPoll, Function.update_apply] at here
      split at here
      · cases here
        exact ⟨Nat.le_refl _, fun job known _ due =>
          List.mem_append_right _ (mem_dueAt.mpr ⟨known, due⟩)⟩
      · obtain ⟨below, read⟩ := sawAll m time nextStamp dueMembers here
        exact ⟨below, fun job known before due =>
          List.mem_append_left _ (read job known before due)⟩
  · exact sawAll

theorem SawAll.step (sawAll : SawAll s) (action : JobAction) : SawAll (s.step action) := by
  cases action with
  | wait ms => exact sawAll
  | scheduleJob member scheduledFor =>
    simp only [JobStore.step, JobStore.zAdd]
    split
    · exact sawAll
    · refine sawAll.next (fun _ _ _ _ => id) (fun job inside => ?_) (Nat.le_succ _)
        (List.Subset.refl _)
      rcases List.mem_append.mp inside with old | new
      · exact .inl (List.mem_filter.mp old).1
      · rw [List.mem_singleton.mp new]
        exact .inr (Nat.le_refl _)
  | startPoll n =>
    simp only [JobStore.step]
    split
    · exact sawAll
    · exact sawAll.setPoll n nofun
  | readDue n => exact sawAll.readDue n
  | removeDue n =>
    simp only [JobStore.step]
    split
    · next dueMembers _ =>
      have processing : SawAll (s.setPoll n (some (.processing dueMembers))) :=
        sawAll.setPoll n nofun
      exact processing.shrink List.filter_sublist.subset
    · exact sawAll
  | processJob n =>
    simp only [JobStore.step]
    split
    · next rest _ =>
      have next : SawAll (s.setPoll n (some (.processing rest))) := sawAll.setPoll n nofun
      exact next.shrink (List.Subset.refl _)
    · exact sawAll.setPoll n nofun
    · exact sawAll
  | stopPoll n => exact sawAll.setPoll n nofun
  | startCancel n appealId =>
    simp only [JobStore.step]
    split
    · exact sawAll
    · exact sawAll.shrink (List.Subset.refl _)
  | scanPage n members last =>
    simp only [JobStore.step]
    repeat' split
    all_goals exact sawAll
  | removePage n =>
    simp only [JobStore.step]
    split
    · split
      · exact sawAll.shrink List.filter_sublist.subset
      · exact sawAll.shrink List.filter_sublist.subset
    · exact sawAll
  | stopCancel n => exact sawAll.shrink (List.Subset.refl _)

end Read

section Single
variable {s : JobStore}

structure Single (s : JobStore) : Prop where
  distinct : s.queue.Nodup
  heldOnce : ∀ n, (s.held n).Nodup
  apart : ∀ n m, n ≠ m → ∀ job ∈ s.held n, job ∉ s.held m
  due : ∀ n now nextStamp dueMembers, s.polls n = some (.read now nextStamp dueMembers) →
    ∀ job ∈ dueMembers, job.scheduledFor ≤ now
  gone : ∀ n dueMembers, s.polls n = some (.processing dueMembers) →
    ∀ job ∈ dueMembers, job ∉ s.queue
  done : ∀ job ∈ s.processed.map (·.2), job ∉ s.queue ∧ ∀ n, job ∉ s.held n
  once : (s.processed.map (·.2)).Nodup
  kept : s.lost = []

theorem single_start (clock : Int) : Single (.start clock) := by
  constructor <;> simp [JobStore.start, JobStore.held]

section
variable (single : Single s)
include single

theorem Single.shrink (less : queue.Sublist s.queue) : Single { s with queue := queue } where
  distinct := less.nodup single.distinct
  heldOnce := single.heldOnce
  apart := single.apart
  due := single.due
  gone n dueMembers here job inside known := single.gone n dueMembers here job inside
    (less.subset known)
  done job here := by
    obtain ⟨gone, held⟩ := single.done job here
    exact ⟨fun known => gone (less.subset known), held⟩
  once := single.once
  kept := single.kept

theorem Single.setPoll (n : Nat) {poll : Option Poll} (once : (poll.elim [] Poll.jobs).Nodup)
    (apart : ∀ job ∈ poll.elim [] Poll.jobs, (∀ m, n ≠ m → job ∉ s.held m) ∧
      job ∉ s.processed.map (·.2))
    (due : ∀ now nextStamp dueMembers, poll = some (.read now nextStamp dueMembers) →
      ∀ job ∈ dueMembers, job.scheduledFor ≤ now)
    (gone : ∀ dueMembers, poll = some (.processing dueMembers) →
      ∀ job ∈ dueMembers, job ∉ s.queue) : Single (s.setPoll n poll) where
  distinct := single.distinct
  heldOnce m := by
    rw [held_setPoll]
    split
    · exact once
    · exact single.heldOnce m
  apart m k different job here inside := by
    rw [held_setPoll] at here inside
    split at here
    · next first =>
      rw [if_neg (fun second => different (first.trans second.symm))] at inside
      exact (apart job here).1 k (first ▸ different) inside
    · split at inside
      · next first second => exact (apart job inside).1 m (Ne.symm first) here
      · exact single.apart m k different job here inside
  due m now nextStamp dueMembers here := by
    simp only [JobStore.setPoll, Function.update_apply] at here
    split at here
    · exact due now nextStamp dueMembers here
    · exact single.due m now nextStamp dueMembers here
  gone m dueMembers here := by
    simp only [JobStore.setPoll, Function.update_apply] at here
    split at here
    · exact gone dueMembers here
    · exact single.gone m dueMembers here
  done job here := by
    obtain ⟨absent, held⟩ := single.done job here
    refine ⟨absent, fun m inside => ?_⟩
    rw [held_setPoll] at inside
    split at inside
    · exact (apart job inside).2 here
    · exact held m inside
  once := single.once
  kept := single.kept

theorem Single.endPoll (n : Nat) : Single (s.setPoll n none) :=
  single.setPoll n List.nodup_nil (fun _ none => absurd none List.not_mem_nil) nofun nofun

theorem Single.frame {clock : Int} {cancels : Nat → Option Cancel}
    {taken withdrawn : List ScheduledJob} : Single { s with
      clock := clock, cancels := cancels, taken := taken, withdrawn := withdrawn } :=
  ⟨single.distinct, single.heldOnce, single.apart, single.due, single.gone, single.done,
    single.once, single.kept⟩

theorem Single.zAdd (inTime : InTime s) (member : JobMember)
    (scheduledFor : Int) : Single (s.zAdd member scheduledFor) := by
  unfold JobStore.zAdd
  split
  · exact single
  · have fresh {job : ScheduledJob} (stamp : job.stamp < s.nextStamp) (absent : job ∉ s.queue) :
        job ∉ s.queue.filter (fun job => job.member != member) ++
          [⟨member, scheduledFor, s.nextStamp⟩] := by
      intro here
      rcases List.mem_append.mp here with old | new
      · exact absent (List.mem_filter.mp old).1
      · rw [List.mem_singleton.mp new] at stamp
        exact absurd stamp (Nat.lt_irrefl _)
    refine ⟨?_, single.heldOnce, single.apart, single.due, ?_, ?_, single.once, single.kept⟩
    · rw [List.nodup_append]
      refine ⟨List.filter_sublist.nodup single.distinct, List.nodup_singleton _, ?_⟩
      intro job old other new
      rw [List.mem_singleton.mp new]
      rintro rfl
      have stamp := inTime.queued _ (List.mem_filter.mp old).1
      exact absurd stamp (Nat.lt_irrefl _)
    · intro n dueMembers here job inside
      have same : s.polls n = some (.processing dueMembers) := here
      have own : job ∈ s.held n := by
        rw [held_of_poll same]
        exact inside
      exact fresh (inTime.held n job own).1 (single.gone n dueMembers here job inside)
    · intro job here
      obtain ⟨absent, held⟩ := single.done job here
      exact ⟨fresh (inTime.processed job here).1 absent, held⟩

theorem Single.readDue (n : Nat) (orderly : InTurn s (.readDue n)) :
    Single (s.step (.readDue n)) := by
  simp only [JobStore.step]
  split
  · next now here =>
    split
    · exact single.endPoll n
    · have read : Single (s.setPoll n (some (.read now s.nextStamp (s.dueAt now)))) := by
        refine single.setPoll n ?_ (fun job inside => ?_) ?_ nofun
        · exact (List.perm_insertionSort _ _).nodup_iff.mpr
            (List.filter_sublist.nodup single.distinct)
        · obtain ⟨known, due⟩ := mem_dueAt.mp inside
          refine ⟨fun m _ => orderly now here job known due m, fun processed => ?_⟩
          exact (single.done job processed).1 known
        · rintro _ _ _ same job inside
          cases same
          exact (mem_dueAt.mp inside).2
      exact read.frame
  · exact single

theorem Single.removeDue (sawAll : SawAll s) (n : Nat)
    (orderly : InTurn s (.removeDue n)) : Single (s.step (.removeDue n)) := by
  simp only [JobStore.step]
  split
  · next now nextStamp dueMembers here =>
    have held := held_of_poll here
    have shorter : Single { s with
        queue := s.queue.filter (fun job => now < job.scheduledFor) } :=
      single.shrink List.filter_sublist
    have processing : Single (JobStore.setPoll { s with
        queue := s.queue.filter (fun job => now < job.scheduledFor) } n
        (some (.processing dueMembers))) := by
      refine shorter.setPoll n ?_ (fun job inside => ?_) nofun ?_
      · have once := single.heldOnce n
        rw [held] at once
        exact once
      · have own : job ∈ s.held n := by
          rw [held]
          exact inside
        refine ⟨fun m other => single.apart n m other job own, fun processed => ?_⟩
        exact (single.done job processed).2 n own
      · rintro _ same job inside known
        cases same
        have due := single.due n now nextStamp dueMembers here job inside
        have later := of_decide_eq_true (List.mem_filter.mp known).2
        omega
    have all_taken : (s.dueAt now).filter (fun job => !s.taken.contains job) = [] := by
      rw [List.filter_eq_nil_iff]
      intro job inside
      obtain ⟨known, due⟩ := mem_dueAt.mp inside
      have taken : job ∈ s.taken := by
        rcases Nat.lt_or_ge job.stamp nextStamp with before | since
        · exact (sawAll n now nextStamp dueMembers here).2 job known before due
        · exact orderly now nextStamp dueMembers here job known since due
      simpa using taken
    rw [all_taken, List.append_nil]
    exact ⟨processing.distinct, processing.heldOnce, processing.apart, processing.due,
      processing.gone, processing.done, processing.once, processing.kept⟩
  · exact single

theorem Single.processJob (n : Nat) : Single (s.step (.processJob n)) := by
  simp only [JobStore.step]
  split
  · next job rest here =>
    have held : s.held n = job :: rest := held_of_poll here
    have once := single.heldOnce n
    rw [held, List.nodup_cons] at once
    have own {other : ScheduledJob} (inside : other ∈ job :: rest) : other ∈ s.held n := by
      rw [held]
      exact inside
    have next : Single (s.setPoll n (some (.processing rest))) := by
      refine single.setPoll n once.2 (fun other inside => ⟨fun m different => ?_, ?_⟩) nofun ?_
      · exact single.apart n m different other (own (List.mem_cons_of_mem _ inside))
      · intro processed
        exact (single.done other processed).2 n (own (List.mem_cons_of_mem _ inside))
      · rintro _ same other inside
        cases same
        exact single.gone n _ here other (List.mem_cons_of_mem _ inside)
    have absent : job ∉ s.processed.map (·.2) := fun processed =>
      (single.done job processed).2 n (own List.mem_cons_self)
    refine ⟨next.distinct, next.heldOnce, next.apart, next.due, next.gone, ?_, ?_, next.kept⟩
    · intro given inside
      rw [List.map_append, List.mem_append] at inside
      rcases inside with old | new
      · exact next.done given old
      · have same : given = job := by simpa using new
        rw [same]
        refine ⟨single.gone n _ here job List.mem_cons_self, fun m taken => ?_⟩
        change job ∈ (s.setPoll n (some (.processing rest))).held m at taken
        rw [held_setPoll] at taken
        split at taken
        · exact once.1 taken
        · next other =>
          exact single.apart n m (Ne.symm other) job (own List.mem_cons_self) taken
    · rw [List.map_append, List.nodup_append]
      refine ⟨single.once, List.nodup_singleton _, ?_⟩
      intro given old other new
      rw [List.map_singleton, List.mem_singleton] at new
      rw [new]
      rintro rfl
      exact absent old
  · exact single.endPoll n
  · exact single

theorem Single.step (inTime : InTime s) (sawAll : SawAll s)
    (action : JobAction) (orderly : InTurn s action) : Single (s.step action) := by
  cases action with
  | wait ms => exact single.frame
  | scheduleJob member scheduledFor => exact single.zAdd inTime member scheduledFor
  | startPoll n =>
    simp only [JobStore.step]
    split
    · exact single
    · exact single.setPoll n List.nodup_nil (fun job none => absurd none List.not_mem_nil)
        nofun nofun
  | readDue n => exact single.readDue n orderly
  | removeDue n => exact single.removeDue sawAll n orderly
  | processJob n => exact single.processJob n
  | stopPoll n => exact single.endPoll n
  | startCancel n appealId =>
    simp only [JobStore.step]
    split
    · exact single
    · exact single.frame
  | scanPage n members last =>
    simp only [JobStore.step]
    repeat' split
    all_goals first | exact single | exact single.frame
  | removePage n =>
    simp only [JobStore.step]
    split
    · split
      · exact (single.shrink List.filter_sublist).frame
      · exact (single.shrink List.filter_sublist).frame
    · exact single
  | stopCancel n => exact single.frame

end

/-- Whatever the runs of the polls, of the cancellations and of the scheduling are: every job fires
once where no poll reads what another is about to remove, and nothing is scheduled for a due time
between a read and its removal unless another poll reads it. -/
theorem reminders_fire_once (clock : Int) (actions : List JobAction)
    (orderly : EachStep JobStore.step InTurn (.start clock) actions) :
    Always JobStore.step FiresOnce (.start clock) actions := by
  have keeps (s : JobStore) (action : JobAction) (sound : InTime s ∧ SawAll s ∧ Single s)
      (met : InTurn s action) :
      InTime (s.step action) ∧ SawAll (s.step action) ∧ Single (s.step action) :=
    ⟨sound.1.step action, sound.2.1.step action, sound.2.2.step sound.1 sound.2.1 action met⟩
  have always := always_of_eachStep keeps ⟨inTime_start clock, sawAll_start clock,
    single_start clock⟩ actions orderly
  refine always.mono fun s sound => ⟨sound.2.2.once, sound.2.2.kept, ?_⟩
  exact fun job here => (sound.1.withdrawn job here).2.2.2

def unread (appealId : Nat) : JobMember := ⟨.unreadReminder, appealId⟩

def turns : List JobAction :=
  [.scheduleJob (unread 1) 5, .wait 10, .startPoll 0, .readDue 0, .removeDue 0,
   .scheduleJob (unread 2) 12, .wait 5, .startPoll 1, .readDue 1, .removeDue 1,
   .processJob 1, .processJob 0]

theorem turns_fire_once : Always JobStore.step FiresOnce (.start 0) turns := by
  refine reminders_fire_once 0 turns ?_
  simp [turns, EachStep, InTurn, JobStore.start, JobStore.step, JobStore.zAdd,
    JobStore.setPoll, JobStore.dueAt, JobStore.held, unread]
  constructor
  · intro m
    simp only [Function.update_apply]
    split <;> simp [Poll.jobs]
  · intro m
    simp only [Function.update_apply]
    repeat' split
    all_goals simp [Poll.jobs]

def overlap : List JobAction :=
  [.scheduleJob (unread 1) 5, .wait 10, .startPoll 0, .startPoll 1, .readDue 0, .readDue 1,
   .removeDue 0, .removeDue 1, .processJob 0, .processJob 1]

/-- The same reminder is sent by both. -/
theorem overlapping_polls_send_twice :
    ¬ ∀ clock actions, Always JobStore.step FiresOnce (.start clock) actions := by
  intro claimed
  have once := (claimed 0 overlap).last.once
  revert once
  decide

end Single

end LeaderProduct
