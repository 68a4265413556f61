import LeaderProduct.AppealLaborAudit

/-! The labor entries of assignees whom a request does not name. -/
namespace LeaderProduct
open Transition

section Log
variable {settings : LaborSettings} {prev : Nat → Option LaborEntry} {book book' : LaborBook}
  {item : LaborItem} {items : List LaborItem} {a : Nat}

theorem audit_log (book : LaborBook) (changedById : Nat) (entry : Option LaborEntry) (new : LaborFigures) :
    book.log <+: (book.audit a changedById entry new).log := by
  unfold LaborBook.audit
  dsimp only
  split
  · exact List.prefix_rfl
  · exact List.prefix_append _ _

theorem audit_recorded (changedById : Nat) {entry : LaborEntry} {new : LaborFigures}
    (changed : entry.toLaborFigures ≠ new) :
    ⟨a, changedById, some entry.toLaborFigures, new⟩ ∈
      (book.audit a changedById (some entry) new).log := by
  have differ : ¬some entry.toLaborFigures = some new := fun same => changed (Option.some.inj same)
  simp [LaborBook.audit, differ]

theorem delete_ok (done : book.delete a = .ok book') :
    book' = { book with entries := book.entries.erase a } := by
  unfold LaborBook.delete at done
  split at done
  · exact (Except.ok.inj done).symm
  · cases done

theorem write_log {figures : Option LaborFigures} {entry : Option LaborEntry}
    (wrote : item.write settings entry book figures = .ok book') : book'.log = book.log := by
  cases figures with
  | none =>
    simp only [LaborItem.write] at wrote
    split at wrote
    · rw [delete_ok wrote]
    · rw [Except.ok.inj wrote]
  | some new => rw [← Except.ok.inj wrote]; rfl

theorem applyLaborItems_log (done : applyLaborItems settings prev book items = .ok book') :
    book.log <+: book'.log := by
  induction items generalizing book with
  | nil =>
    obtain rfl := Except.ok.inj done
    exact List.prefix_rfl
  | cons item rest ih =>
    obtain ⟨next, first, later⟩ := (except_bind_ok _ _ _).mp done
    obtain ⟨figures, written, _, wrote, rfl⟩ := applyLaborItem_ok first
    have here := write_log wrote ▸ audit_log written settings.actingUserId
      (prev item.assigneeUserId) (figures.getD zeroFigures) (a := item.assigneeUserId)
    exact here.trans (ih later)

variable {rows : List (Sigma fun _ : Nat => LaborEntry)}

theorem removeUnnamed_log (done : removeUnnamed settings items book rows = .ok book') :
    book.log <+: book'.log := by
  induction rows generalizing book with
  | nil =>
    obtain rfl := Except.ok.inj done
    exact List.prefix_rfl
  | cons row rest ih =>
    rw [removeUnnamed] at done
    split at done
    · exact ih done
    · obtain ⟨deleted, gone, later⟩ := (except_bind_ok _ _ _).mp done
      have here : book.log <+: (deleted.audit row.1 settings.actingUserId (some row.2)
          zeroFigures).log := by
        rw [show book.log = deleted.log from congrArg (·.log) (delete_ok gone).symm]
        exact audit_log _ _ _ _
      exact here.trans (ih later)

theorem removeUnnamed_absent (absent : book.entries.lookup a = none)
    (done : removeUnnamed settings items book rows = .ok book') :
    book'.entries.lookup a = none := by
  induction rows generalizing book with
  | nil => rwa [← Except.ok.inj done]
  | cons row rest ih =>
    rw [removeUnnamed] at done
    split at done
    · exact ih absent done
    · obtain ⟨deleted, gone, later⟩ := (except_bind_ok _ _ _).mp done
      refine ih ?_ later
      rw [audit_entries, delete_ok gone]
      by_cases own : a = row.1
      · rw [own]
        exact AList.lookup_erase _ _
      · rw [AList.lookup_erase_ne own]
        exact absent

theorem removeUnnamed_deletes {entry : LaborEntry} (stored : ⟨a, entry⟩ ∈ rows)
    (unnamed : ∀ item ∈ items, item.assigneeUserId ≠ a)
    (done : removeUnnamed settings items book rows = .ok book') :
    book'.entries.lookup a = none ∧ (entry.toLaborFigures ≠ zeroFigures →
      ⟨a, settings.actingUserId, some entry.toLaborFigures, zeroFigures⟩ ∈ book'.log) := by
  induction rows generalizing book with
  | nil => cases stored
  | cons row rest ih =>
    rw [removeUnnamed] at done
    rcases List.mem_cons.mp stored with rfl | later_row
    · have none_names : ¬items.any (fun item => item.assigneeUserId == a) = true := by
        simpa using unnamed
      rw [if_neg none_names] at done
      obtain ⟨deleted, gone, later⟩ := (except_bind_ok _ _ _).mp done
      refine ⟨removeUnnamed_absent ?_ later, fun worked => ?_⟩
      · rw [audit_entries, delete_ok gone]
        exact AList.lookup_erase _ _
      · exact (removeUnnamed_log later).subset (audit_recorded settings.actingUserId worked)
    · split at done
      · exact ih later_row done
      · obtain ⟨deleted, _, later⟩ := (except_bind_ok _ _ _).mp done
        exact ih later_row later

end Log

section Requests
variable {desk after : LaborDesk} {call : LaborCall} {a : Nat}

def LaborCall.Names (call : LaborCall) (assigneeUserId : Nat) : Prop :=
  ∃ item ∈ call.body.items, item.assigneeUserId = assigneeUserId

def LaborDesk.entry (desk : LaborDesk) (appealId assigneeUserId : Nat) : Option LaborEntry :=
  (desk.books appealId).entries.lookup assigneeUserId

/-- The request leaves the paid entries of all whom it does not name. -/
def KeepsUnnamedPaid (desk after : LaborDesk) (call : LaborCall) : Prop :=
  ∀ a, ¬call.Names a → ∀ entry ∈ desk.entry call.appealId a, 0 < entry.paidHours →
    after.entry call.appealId a = some entry

theorem admit_named {appeal : Appeal} (admitted : desk.admit call = .ok appeal)
    (named : call.Names a) : a ∈ appeal.assignees := by
  obtain ⟨item, member, rfl⟩ := named
  unfold LaborDesk.admit at admitted
  split at admitted
  · cases admitted
  · cases admitted
  · split at admitted
    · cases admitted
    · split at admitted
      · cases admitted
      · next all_assigned =>
        obtain rfl := Except.ok.inj admitted
        simpa using List.find?_eq_none.mp all_assigned item member

theorem admit_appeal {appeal : Appeal} (admitted : desk.admit call = .ok appeal) :
    desk.appeals call.appealId = some appeal := by
  unfold LaborDesk.admit at admitted
  split at admitted
  · cases admitted
  · cases admitted
  · next found =>
    split at admitted
    · cases admitted
    · split at admitted
      · cases admitted
      · rw [found, Except.ok.inj admitted]

theorem putLabor_ok (accepted : desk.putLabor call = .ok after) :
    ∃ appeal, desk.admit call = .ok appeal ∧
      (desk.books call.appealId).upsert (desk.settings call appeal) appeal.assignees call.body =
        .ok (after.books call.appealId) ∧
      ∀ appealId, appealId ≠ call.appealId → after.books appealId = desk.books appealId := by
  obtain ⟨appeal, admitted, rest⟩ := (except_bind_ok _ _ _).mp accepted
  obtain ⟨book, upserted, rest⟩ := (except_bind_ok _ _ _).mp rest
  obtain rfl := Except.ok.inj rest
  refine ⟨appeal, admitted, ?_, fun appealId other => Function.update_of_ne other ..⟩
  have own : Function.update desk.books call.appealId book call.appealId = book :=
    Function.update_self ..
  exact upserted.trans (congrArg Except.ok own.symm)

theorem upsert_unnamed {settings : LaborSettings} {book book' : LaborBook} {assignees : List Nat}
    {body : LaborBody} {entry : LaborEntry}
    (done : book.upsert settings assignees body = .ok book') (required : body.laborNotRequired = false)
    (unnamed : ∀ item ∈ body.items, item.assigneeUserId ≠ a)
    (stored : book.entries.lookup a = some entry) :
    book'.entries.lookup a = none ∧ (entry.toLaborFigures ≠ zeroFigures →
      ⟨a, settings.actingUserId, some entry.toLaborFigures, zeroFigures⟩ ∈ book'.log) := by
  unfold LaborBook.upsert at done
  rw [required] at done
  obtain ⟨worked, _, removed⟩ := (except_bind_ok _ _ _).mp done
  exact removeUnnamed_deletes (AList.mem_lookup_iff.mp stored) unnamed removed

theorem clearLabor_log {settings : LaborSettings} {prev : Nat → Option LaborEntry}
    {targets : List Nat} {book : LaborBook} :
    book.log <+: (clearLabor settings prev book targets).log := by
  induction targets generalizing book with
  | nil => exact List.prefix_rfl
  | cons target rest ih =>
    exact (audit_log (book.put target notRequiredEntry) _ _ _).trans ih

theorem upsert_log {settings : LaborSettings} {book book' : LaborBook} {assignees : List Nat}
    {body : LaborBody} (done : book.upsert settings assignees body = .ok book') :
    book.log <+: book'.log := by
  unfold LaborBook.upsert at done
  dsimp only at done
  split at done
  · rw [← Except.ok.inj done]
    exact clearLabor_log
  · obtain ⟨worked, items_done, removed⟩ := (except_bind_ok _ _ _).mp done
    exact (applyLaborItems_log items_done).trans (removeUnnamed_log removed)

theorem putLabor_unnamed (accepted : desk.putLabor call = .ok after)
    (required : call.body.laborNotRequired = false) (unnamed : ¬call.Names a) {entry : LaborEntry}
    (stored : desk.entry call.appealId a = some entry) :
    after.entry call.appealId a = none ∧ (0 < entry.paidHours →
      ⟨a, call.userId, some entry.toLaborFigures, zeroFigures⟩ ∈ (after.books call.appealId).log) := by
  obtain ⟨appeal, _, upserted, _⟩ := putLabor_ok accepted
  obtain ⟨gone, recorded⟩ := upsert_unnamed upserted required
    (fun item member same => unnamed ⟨item, member, same⟩) stored
  refine ⟨gone, fun paid => recorded fun zero => ?_⟩
  rw [show entry.paidHours = 0 from congrArg (·.paidHours) zero] at paid
  exact lt_irrefl _ paid

/-- A request of hours takes away the entries of all whom it does not name, the former assignees
among them, and leaves the record of what was paid. -/
theorem unnamed_entries_deleted (desk after : LaborDesk) (call : LaborCall)
    (accepted : desk.putLabor call = .ok after) (required : call.body.laborNotRequired = false) :
    (∀ a, ¬call.Names a → ∀ entry ∈ desk.entry call.appealId a,
      after.entry call.appealId a = none ∧ (0 < entry.paidHours →
        ⟨a, call.userId, some entry.toLaborFigures, zeroFigures⟩ ∈
          (after.books call.appealId).log)) ∧
    (∀ appeal ∈ desk.appeals call.appealId, ∀ a, a ∉ appeal.assignees → ¬call.Names a) ∧
    (KeepsUnnamedPaid desk after call ↔
      ∀ a, ∀ entry ∈ desk.entry call.appealId a, 0 < entry.paidHours → call.Names a) ∧
    (desk.books call.appealId).log <+: (after.books call.appealId).log ∧
    ∀ appealId, appealId ≠ call.appealId → after.books appealId = desk.books appealId := by
  obtain ⟨appeal, admitted, upserted, others⟩ := putLabor_ok accepted
  refine ⟨fun a unnamed entry stored => putLabor_unnamed accepted required unnamed stored,
    fun current found a former named => former ?_, ⟨fun keeps a entry stored paid => ?_, ?_⟩,
    upsert_log upserted, others⟩
  · cases (admit_appeal admitted).symm.trans found
    exact admit_named admitted named
  · by_contra unnamed
    have gone := (putLabor_unnamed accepted required unnamed stored).1
    cases gone.symm.trans (keeps a unnamed entry stored paid)
  · exact fun named a unnamed entry stored paid => absurd (named a entry stored paid) unnamed

def unassignedDesk : LaborDesk :=
  run laborStep laborDesk
    [.labor ⟨1, 2, ⟨false, [⟨3, some 2, some 2, none, none⟩], by decide +kernel⟩, 7⟩,
      .appeal ⟨1, 2, .assign []⟩]

def noHours : LaborCall := ⟨1, 2, ⟨false, [], rfl⟩, 8⟩

theorem noHours_accepted : ∃ after, unassignedDesk.putLabor noHours = .ok after ∧
    after.entry 1 3 = none := by
  have gone : (unassignedDesk.putLabor noHours).toOption.map (·.entry 1 3) = some none := by
    decide +kernel
  cases accepted : unassignedDesk.putLabor noHours with
  | error refusal => rw [accepted] at gone; cases gone
  | ok after =>
    rw [accepted] at gone
    exact ⟨after, rfl, Option.some.inj gone⟩

theorem unassignedDesk_paid :
    unassignedDesk.entry 1 3 = some ⟨⟨2, 2, .paid⟩, 10, some 7, some 2⟩ := by
  decide +kernel

theorem unassigned_payment_recorded : ∃ after, unassignedDesk.putLabor noHours = .ok after ∧
    ⟨3, 2, some ⟨2, 2, .paid⟩, zeroFigures⟩ ∈ (after.books 1).log := by
  obtain ⟨after, accepted, _⟩ := noHours_accepted
  obtain ⟨deleted, _⟩ := unnamed_entries_deleted unassignedDesk after noHours accepted rfl
  have unnamed : ¬noHours.Names 3 := fun ⟨_, member, _⟩ => List.not_mem_nil member
  exact ⟨after, accepted, (deleted 3 unnamed _ unassignedDesk_paid).2 (by decide)⟩

theorem unassigned_payment_deleted :
    ¬∀ (desk after : LaborDesk) (call : LaborCall), desk.putLabor call = .ok after →
      call.body.laborNotRequired = false → KeepsUnnamedPaid desk after call := by
  intro law
  obtain ⟨after, accepted, gone⟩ := noHours_accepted
  have unnamed : ¬noHours.Names 3 := fun ⟨_, member, _⟩ => List.not_mem_nil member
  have kept := law unassignedDesk after noHours accepted rfl 3 unnamed _ unassignedDesk_paid (by decide)
  cases gone.symm.trans kept

end Requests

end LeaderProduct
