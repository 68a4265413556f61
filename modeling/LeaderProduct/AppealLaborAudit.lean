import LeaderProduct.AppealLabor

/-! The audit log of the labor of an appeal, replayed to its entries. -/
namespace LeaderProduct
open Transition

variable {b : Nat} {items : List LaborItem}

section Trail

/-- No entry counts as one of no hours. -/
def LaborAudit.oldFigures (audit : LaborAudit) : LaborFigures := audit.old.getD zeroFigures

def figuresOf (entry : Option LaborEntry) : LaborFigures :=
  entry.elim zeroFigures (·.toLaborFigures)

def LaborBook.stored (book : LaborBook) (assigneeUserId : Nat) : LaborFigures :=
  figuresOf (book.entries.lookup assigneeUserId)

def LaborBook.replayed (book : LaborBook) (assigneeUserId : Nat) : Option LaborFigures :=
  ChangeLog.replay LaborAudit.oldFigures LaborAudit.new zeroFigures
    (book.log.filter (fun audit => audit.assigneeUserId == assigneeUserId))

def LaborBook.Audited (book : LaborBook) : Prop :=
  ∀ assigneeUserId, book.replayed assigneeUserId = some (book.stored assigneeUserId)

structure SameFor (a : Nat) (book book' : LaborBook) : Prop where
  entry : book'.entries.lookup a = book.entries.lookup a
  replayed : book'.replayed a = book.replayed a

variable {book : LaborBook} {a : Nat}

theorem SameFor.stored {book' : LaborBook} (same : SameFor a book book') :
    book'.stored a = book.stored a := congrArg figuresOf same.entry

theorem SameFor.trans {book' book'' : LaborBook} (first : SameFor a book book')
    (second : SameFor a book' book'') : SameFor a book book'' :=
  ⟨second.entry.trans first.entry, second.replayed.trans first.replayed⟩

theorem audit_same (other : a ≠ b) (changedById : Nat) (prev : Option LaborEntry)
    (new : LaborFigures) : SameFor a book (book.audit b changedById prev new) := by
  refine ⟨by rw [audit_entries], ?_⟩
  unfold LaborBook.audit
  simp only
  split
  · rfl
  · simp [LaborBook.replayed, other.symm]

theorem replayed_log (audit : LaborAudit) (own : audit.assigneeUserId = a) :
    ({ book with log := book.log ++ [audit] } : LaborBook).replayed a =
      (book.replayed a).bind (fun figures =>
        if audit.oldFigures = figures then some audit.new else none) := by
  rw [LaborBook.replayed, List.filter_append, List.filter_singleton, own, beq_self_eq_true]
  exact ChangeLog.replay_concat _ _ _

theorem replayed_audit (changedById : Nat) (prev : Option LaborEntry) (new : LaborFigures) :
    (book.audit a changedById prev new).replayed a =
      if prev.map (·.toLaborFigures) = some new then book.replayed a
      else (book.replayed a).bind (fun figures =>
        if figuresOf prev = figures then some new else none) := by
  unfold LaborBook.audit
  simp only
  split
  · rfl
  · rw [replayed_log _ rfl]
    cases prev <;> rfl

theorem replayed_audit_of_led {prev : Option LaborEntry} (changedById : Nat) (new : LaborFigures)
    (led : book.replayed a = some (figuresOf prev)) :
    (book.audit a changedById prev new).replayed a = some new := by
  rw [replayed_audit, led]
  split
  · next same =>
    obtain ⟨entry, rfl, rfl⟩ := Option.map_eq_some_iff.mp same
    rfl
  · rw [Option.bind_some, if_pos rfl]

theorem put_same (other : a ≠ b) (entry : LaborEntry) :
    SameFor a book (book.put b entry) := ⟨AList.lookup_insert_ne other, rfl⟩

theorem put_stored (entry : LaborEntry) : (book.put a entry).stored a = entry.toLaborFigures := by
  rw [LaborBook.stored, LaborBook.put, AList.lookup_insert]
  rfl

theorem delete_same (other : a ≠ b) {book' : LaborBook} (done : book.delete b = .ok book') :
    SameFor a book book' := by
  unfold LaborBook.delete at done
  split at done
  · obtain rfl := Except.ok.inj done
    exact ⟨AList.lookup_erase_ne other, rfl⟩
  · cases done

theorem delete_own {book' : LaborBook} (done : book.delete a = .ok book') :
    book'.stored a = zeroFigures ∧ book'.replayed a = book.replayed a := by
  unfold LaborBook.delete at done
  split at done
  · obtain rfl := Except.ok.inj done
    refine ⟨?_, rfl⟩
    rw [LaborBook.stored, AList.lookup_erase]
    rfl
  · cases done

end Trail

section Items
variable {settings : LaborSettings} {prev : Nat → Option LaborEntry} {book book' : LaborBook}
  {item : LaborItem} {a : Nat}

theorem write_same {figures : Option LaborFigures} {entry : Option LaborEntry}
    (other : a ≠ item.assigneeUserId) (wrote : item.write settings entry book figures = .ok book') :
    SameFor a book book' := by
  cases figures with
  | none =>
    simp only [LaborItem.write] at wrote
    split at wrote
    · exact delete_same other wrote
    · obtain rfl := Except.ok.inj wrote
      exact ⟨rfl, rfl⟩
  | some new =>
    obtain rfl := Except.ok.inj wrote
    exact put_same other _

theorem applyLaborItem_same (other : a ≠ item.assigneeUserId)
    (done : applyLaborItem settings prev book item = .ok book') : SameFor a book book' := by
  obtain ⟨figures, written, _, wrote, rfl⟩ := applyLaborItem_ok done
  exact (write_same other wrote).trans (audit_same other _ _ _)

theorem write_own {figures : Option LaborFigures} {entry : Option LaborEntry}
    (wrote : item.write settings entry book figures = .ok book') :
    book'.replayed item.assigneeUserId = book.replayed item.assigneeUserId ∧
      (book'.stored item.assigneeUserId = figures.getD zeroFigures ∨
        (entry = none ∧ figures = none ∧ book' = book)) := by
  cases figures with
  | none =>
    simp only [LaborItem.write] at wrote
    split at wrote
    · obtain ⟨gone, replayed⟩ := delete_own wrote
      exact ⟨replayed, Or.inl gone⟩
    · next missing =>
      obtain rfl := Except.ok.inj wrote
      exact ⟨rfl, Or.inr ⟨by simpa using missing, rfl, rfl⟩⟩
  | some new =>
    obtain rfl := Except.ok.inj wrote
    exact ⟨rfl, Or.inl (put_stored _)⟩

/-- The item leaves the figures that the assignee had before the request. -/
def LaborItem.Keeps (settings : LaborSettings) (prev : Nat → Option LaborEntry) (item : LaborItem) :
    Prop :=
  ∀ figures, item.figures settings (prev item.assigneeUserId) = .ok figures →
    figures.getD zeroFigures = figuresOf (prev item.assigneeUserId)

instance (settings : LaborSettings) (prev : Nat → Option LaborEntry) (item : LaborItem) :
    Decidable (item.Keeps settings prev) :=
  decidable_of_iff ((item.figures settings (prev item.assigneeUserId)).toOption.all
      (fun figures => figures.getD zeroFigures = figuresOf (prev item.assigneeUserId)) = true) (by
    unfold LaborItem.Keeps
    cases item.figures settings (prev item.assigneeUserId) with
    | error refusal => simp [Except.toOption]
    | ok figures => simp [Except.toOption])

/-- An item that another one for the same assignee follows changes nothing. -/
def RepeatsKeep (settings : LaborSettings) (prev : Nat → Option LaborEntry) (a : Nat) :
    List LaborItem → Prop
  | [] => True
  | item :: rest =>
    (item.assigneeUserId = a → (∃ later ∈ rest, later.assigneeUserId = a) →
      item.Keeps settings prev) ∧ RepeatsKeep settings prev a rest

/-- Where the log and the entry still show what they did before the request, an item leaves both at
its figures. -/
theorem applyLaborItem_own (done : applyLaborItem settings prev book item = .ok book')
    (led : book.replayed item.assigneeUserId = some (figuresOf (prev item.assigneeUserId)))
    (kept : book.stored item.assigneeUserId = figuresOf (prev item.assigneeUserId)) :
    ∃ figures, item.figures settings (prev item.assigneeUserId) = .ok figures ∧
      book'.replayed item.assigneeUserId = some (figures.getD zeroFigures) ∧
      book'.stored item.assigneeUserId = figures.getD zeroFigures := by
  obtain ⟨figures, written, found, wrote, rfl⟩ := applyLaborItem_ok done
  obtain ⟨replayed, stored⟩ := write_own wrote
  refine ⟨figures, found, replayed_audit_of_led _ _ (replayed.trans led), ?_⟩
  rw [LaborBook.stored, audit_entries]
  rcases stored with new | ⟨missing, none_asked, rfl⟩
  · exact new
  · rw [none_asked]
    exact kept.trans (by rw [missing]; rfl)

def Strayed (prev : Nat → Option LaborEntry) (a : Nat) (book : LaborBook) : Prop :=
  book.replayed a = none ∨
    ∃ figures, book.replayed a = some figures ∧ figures ≠ figuresOf (prev a) ∧
      book.stored a = figuresOf (prev a)

theorem Strayed.ne (strayed : Strayed prev a book) : book.replayed a ≠ some (book.stored a) := by
  intro same
  rcases strayed with nowhere | ⟨figures, elsewhere, differ, stored⟩
  · rw [nowhere] at same
    cases same
  · rw [elsewhere, stored] at same
    exact differ (Option.some.inj same)

theorem SameFor.strayed {book'' : LaborBook} (same : SameFor a book book'')
    (strayed : Strayed prev a book) : Strayed prev a book'' := by
  rw [Strayed, same.replayed, same.stored]
  exact strayed

/-- Once the log leads elsewhere than to the figures from before the request, the next item for the
assignee makes it stray. -/
theorem applyLaborItem_strays (done : applyLaborItem settings prev book item = .ok book')
    (elsewhere : book.replayed item.assigneeUserId ≠ some (figuresOf (prev item.assigneeUserId))) :
    Strayed prev item.assigneeUserId book' := by
  obtain ⟨figures, written, found, wrote, rfl⟩ := applyLaborItem_ok done
  obtain ⟨replayed, stored⟩ := write_own wrote
  rw [Strayed, replayed_audit, LaborBook.stored, audit_entries, replayed]
  split
  · next same =>
    obtain ⟨entry, known, equal⟩ := Option.map_eq_some_iff.mp same
    cases led : book.replayed item.assigneeUserId with
    | none => exact Or.inl rfl
    | some reached =>
      refine Or.inr ⟨reached, rfl, fun equal => elsewhere (by rw [led, equal]), ?_⟩
      rcases stored with new | ⟨missing, _⟩
      · rw [known]
        exact new.trans equal.symm
      · rw [missing] at known
        cases known
  · cases led : book.replayed item.assigneeUserId with
    | none => exact Or.inl rfl
    | some reached =>
      refine Or.inl ?_
      rw [Option.bind_some, if_neg]
      intro equal
      exact elsewhere (by rw [led, equal])

theorem Strayed.elsewhere (strayed : Strayed prev a book) :
    book.replayed a ≠ some (figuresOf (prev a)) := by
  rcases strayed with nowhere | ⟨figures, reached, differ, _⟩
  · simp [nowhere]
  · rw [reached]
    exact fun same => differ (Option.some.inj same)

theorem applyLaborItems_same (others : ∀ item ∈ items, item.assigneeUserId ≠ a)
    (done : applyLaborItems settings prev book items = .ok book') : SameFor a book book' := by
  induction items generalizing book with
  | nil =>
    obtain rfl := Except.ok.inj done
    exact ⟨rfl, rfl⟩
  | cons item rest ih =>
    obtain ⟨next, first, later⟩ := (except_bind_ok _ _ _).mp done
    rw [List.forall_mem_cons] at others
    exact (applyLaborItem_same (Ne.symm others.1) first).trans (ih others.2 later)

theorem applyLaborItems_stay_strayed (strayed : Strayed prev a book)
    (done : applyLaborItems settings prev book items = .ok book') : Strayed prev a book' := by
  induction items generalizing book with
  | nil =>
    obtain rfl := Except.ok.inj done
    exact strayed
  | cons item rest ih =>
    obtain ⟨next, first, later⟩ := (except_bind_ok _ _ _).mp done
    refine ih ?_ later
    by_cases own : item.assigneeUserId = a
    · subst own
      exact applyLaborItem_strays first strayed.elsewhere
    · exact (applyLaborItem_same (Ne.symm own) first).strayed strayed

theorem applyLaborItems_strays (elsewhere : book.replayed a ≠ some (figuresOf (prev a)))
    (named : ∃ item ∈ items, item.assigneeUserId = a)
    (done : applyLaborItems settings prev book items = .ok book') : Strayed prev a book' := by
  induction items generalizing book with
  | nil => simp at named
  | cons item rest ih =>
    obtain ⟨next, first, later⟩ := (except_bind_ok _ _ _).mp done
    by_cases own : item.assigneeUserId = a
    · subst own
      exact applyLaborItems_stay_strayed (applyLaborItem_strays first elsewhere) later
    · have same := applyLaborItem_same (Ne.symm own) first
      rw [← same.replayed] at elsewhere
      obtain ⟨other, here, mine⟩ := named
      rcases List.mem_cons.mp here with rfl | here
      · exact absurd mine own
      · exact ih elsewhere ⟨other, here, mine⟩ later

theorem repeatsKeep_of_others (others : ∀ item ∈ items, item.assigneeUserId ≠ a) :
    RepeatsKeep settings prev a items := by
  induction items with
  | nil => exact True.intro
  | cons item rest ih =>
    rw [List.forall_mem_cons] at others
    exact ⟨fun own => absurd own others.1, ih others.2⟩

/-- The items keep the log and the entry of an assignee together exactly when none that another one
follows changes the entry. -/
theorem applyLaborItems_audited_iff (led : book.replayed a = some (figuresOf (prev a)))
    (kept : book.stored a = figuresOf (prev a))
    (done : applyLaborItems settings prev book items = .ok book') :
    book'.replayed a = some (book'.stored a) ↔ RepeatsKeep settings prev a items := by
  induction items generalizing book with
  | nil =>
    obtain rfl := Except.ok.inj done
    exact iff_of_true (led.trans (congrArg some kept.symm)) True.intro
  | cons item rest ih =>
    obtain ⟨next, first, later⟩ := (except_bind_ok _ _ _).mp done
    rw [RepeatsKeep]
    by_cases own : item.assigneeUserId = a
    · subst own
      obtain ⟨figures, found, replayed, stored⟩ := applyLaborItem_own first led kept
      by_cases again : ∃ later ∈ rest, later.assigneeUserId = item.assigneeUserId
      · by_cases keeps : figures.getD zeroFigures = figuresOf (prev item.assigneeUserId)
        · rw [ih (replayed.trans (congrArg some keeps)) (stored.trans keeps) later]
          refine (and_iff_right fun _ _ => ?_).symm
          intro other found'
          obtain rfl := Except.ok.inj (found.symm.trans found')
          exact keeps
        · have elsewhere : next.replayed item.assigneeUserId ≠
              some (figuresOf (prev item.assigneeUserId)) := by
            rw [replayed]
            exact fun same => keeps (Option.some.inj same)
          refine iff_of_false (applyLaborItems_strays elsewhere again later).ne ?_
          exact fun both => keeps (both.1 rfl again figures found)
      · have others : ∀ later ∈ rest, later.assigneeUserId ≠ item.assigneeUserId :=
          fun other here same => again ⟨other, here, same⟩
        have same := applyLaborItems_same others later
        refine iff_of_true ?_ ⟨fun _ more => absurd more again, repeatsKeep_of_others others⟩
        rw [same.replayed, same.stored, replayed, stored]
    · have same := applyLaborItem_same (Ne.symm own) first
      rw [ih (same.replayed.trans led) (same.stored.trans kept) later]
      exact (and_iff_right fun mine => absurd mine own).symm

end Items

section Upsert
variable {settings : LaborSettings} {book book' : LaborBook} {a : Nat}

theorem removeUnnamed_same {rows : List (Sigma fun _ : Nat => LaborEntry)}
    (named : items.any (fun item => item.assigneeUserId == a) = true)
    (done : removeUnnamed settings items book rows = .ok book') : SameFor a book book' := by
  induction rows generalizing book with
  | nil =>
    obtain rfl := Except.ok.inj done
    exact ⟨rfl, rfl⟩
  | cons row rest ih =>
    rw [removeUnnamed] at done
    split at done
    · exact ih done
    · next unnamed =>
      obtain ⟨deleted, gone, later⟩ := (except_bind_ok _ _ _).mp done
      have other : a ≠ row.1 := by
        rintro rfl
        exact unnamed named
      exact ((delete_same other gone).trans (audit_same other _ _ _)).trans (ih later)

theorem removeUnnamed_audited {rows : List (Sigma fun _ : Nat => LaborEntry)}
    (unique : (rows.map (·.1)).Nodup) {figures : LaborFigures}
    (known : ∀ entry, ⟨a, entry⟩ ∈ rows → entry.toLaborFigures = figures)
    (led : book.replayed a = some figures) (kept : book.stored a = figures)
    (done : removeUnnamed settings items book rows = .ok book') :
    book'.replayed a = some (book'.stored a) := by
  induction rows generalizing book figures with
  | nil =>
    obtain rfl := Except.ok.inj done
    exact led.trans (congrArg some kept.symm)
  | cons row rest ih =>
    simp only [List.map_cons, List.nodup_cons] at unique
    rw [removeUnnamed] at done
    split at done
    · exact ih unique.2 (fun entry here => known entry (List.mem_cons_of_mem _ here)) led kept done
    · obtain ⟨deleted, gone, later⟩ := (except_bind_ok _ _ _).mp done
      by_cases own : a = row.1
      · subst own
        obtain ⟨stored, replayed⟩ := delete_own gone
        have entry_figures := known row.2 List.mem_cons_self
        have before : deleted.replayed row.1 = some (figuresOf (some row.2)) := by
          rw [replayed, led, ← entry_figures]
          rfl
        refine ih unique.2 (fun entry here => ?_)
          (replayed_audit_of_led settings.actingUserId zeroFigures before) ?_ later
        · exact absurd (List.mem_map.mpr ⟨_, here, rfl⟩) unique.1
        · rw [LaborBook.stored, audit_entries]
          exact stored
      · have same := (delete_same own gone).trans (audit_same own settings.actingUserId (some row.2)
          zeroFigures)
        exact ih unique.2 (fun entry here => known entry (List.mem_cons_of_mem _ here))
          (same.replayed.trans led) (same.stored.trans kept) later

theorem clearLabor_same {prev : Nat → Option LaborEntry} {targets : List Nat} (absent : a ∉ targets) :
    SameFor a book (clearLabor settings prev book targets) := by
  induction targets generalizing book with
  | nil => exact ⟨rfl, rfl⟩
  | cons b rest ih =>
    simp only [List.mem_cons, not_or] at absent
    exact ((put_same absent.1 _).trans (audit_same absent.1 _ _ _)).trans (ih absent.2)

theorem clearLabor_audited {prev : Nat → Option LaborEntry} {targets : List Nat}
    (unique : targets.Nodup) (led : book.replayed a = some (figuresOf (prev a)))
    (kept : book.stored a = figuresOf (prev a)) :
    (clearLabor settings prev book targets).replayed a =
      some ((clearLabor settings prev book targets).stored a) := by
  induction targets generalizing book with
  | nil => exact led.trans (congrArg some kept.symm)
  | cons b rest ih =>
    rw [List.nodup_cons] at unique
    rw [clearLabor]
    by_cases own : a = b
    · subst own
      let cleared := (book.put a notRequiredEntry).audit a settings.actingUserId (prev a)
        notRequiredEntry.toLaborFigures
      have same : SameFor a cleared (clearLabor settings prev cleared rest) :=
        clearLabor_same unique.1
      rw [same.replayed, same.stored, LaborBook.stored, audit_entries]
      rw [replayed_audit_of_led _ _ (show (book.put a notRequiredEntry).replayed a = _ from led)]
      exact congrArg some (put_stored notRequiredEntry).symm
    · have same : SameFor a book _ := (put_same own notRequiredEntry).trans
        (audit_same own settings.actingUserId (prev b) notRequiredEntry.toLaborFigures)
      exact ih unique.2 (same.replayed.trans led) (same.stored.trans kept)

theorem upsert_audited_iff {assignees : List Nat} {body : LaborBody} (audited : book.Audited)
    (done : book.upsert settings assignees body = .ok book') :
    book'.Audited ↔ (body.laborNotRequired = false →
      ∀ a, RepeatsKeep settings (fun a => book.entries.lookup a) a body.items) := by
  unfold LaborBook.upsert at done
  by_cases cleared : body.laborNotRequired = true
  · simp only [cleared, if_true] at done
    obtain rfl := Except.ok.inj done
    refine iff_of_true (fun a => ?_) (fun required => by simp [cleared] at required)
    exact clearLabor_audited (nodup_eraseDups _) (audited a) rfl
  · simp only [cleared, Bool.false_eq_true, if_false] at done
    obtain ⟨worked, items_done, removed⟩ := (except_bind_ok _ _ _).mp done
    rw [forall_prop_of_true (by simpa using cleared)]
    refine forall_congr' fun a => ?_
    rw [← applyLaborItems_audited_iff (audited a) rfl items_done]
    by_cases named : body.items.any (fun item => item.assigneeUserId == a) = true
    · have same := removeUnnamed_same named removed
      rw [same.replayed, same.stored]
    · have others : ∀ item ∈ body.items, item.assigneeUserId ≠ a := by
        simpa using named
      have same := applyLaborItems_same others items_done
      have before : worked.replayed a = some (worked.stored a) := by
        rw [same.replayed, same.stored, audited a]
      refine iff_of_true ?_ before
      refine removeUnnamed_audited book.entries.nodupKeys (fun entry here => ?_) before rfl removed
      have known : book.entries.lookup a = some entry := AList.mem_lookup_iff.mpr here
      rw [same.stored, LaborBook.stored, known]
      rfl

end Upsert

section Runs
variable {desk : LaborDesk}

/-- The audit log of every appeal replays to its entries. -/
def AllAudited (desk : LaborDesk) : Prop := ∀ appealId, (desk.books appealId).Audited

/-- A labor request that goes through names no assignee again after an item that changes the
entry. -/
def NamesOnce (desk : LaborDesk) : LaborAction → Prop
  | .labor call => ∀ appeal, desk.admit call = .ok appeal → (desk.putLabor call).isOk = true →
      call.body.laborNotRequired = false → ∀ a, RepeatsKeep (desk.settings call appeal)
        (fun a => (desk.books call.appealId).entries.lookup a) a call.body.items
  | _ => True

theorem allAudited_update {book : LaborBook} {appealId : Nat} (all : AllAudited desk) :
    (∀ id, (Function.update desk.books appealId book id).Audited) ↔ book.Audited := by
  constructor
  · intro every
    have here := every appealId
    rwa [Function.update_self] at here
  · intro audited id
    by_cases same : id = appealId
    · rw [same, Function.update_self]
      exact audited
    · rw [Function.update_of_ne same]
      exact all id

theorem put_audit_audited {book : LaborBook} {entry : LaborEntry} (audited : book.Audited)
    (found : book.entries.lookup b = some entry) (changedById : Nat) (new : LaborEntry) :
    ((book.put b new).audit b changedById (some entry) new.toLaborFigures).Audited := by
  intro a
  by_cases own : a = b
  · subst own
    have before : (book.put a new).replayed a = some (figuresOf (some entry)) := by
      rw [← found]
      exact audited a
    rw [LaborBook.stored, audit_entries, replayed_audit_of_led _ _ before]
    exact congrArg some (put_stored new).symm
  · have same : SameFor a book _ := (put_same own new).trans
      (audit_same own changedById (some entry) new.toLaborFigures)
    rw [same.replayed, same.stored]
    exact audited a

theorem markPaid_audited (all : AllAudited desk) (userId : Nat) (actor : UserMini) (now : Int)
    (appealId assigneeUserId : Nat) :
    AllAudited (desk.markPaid userId actor now appealId assigneeUserId) := by
  unfold LaborDesk.markPaid
  split
  · next entry appeal found _ =>
    split
    · next due =>
      simp only [Bool.and_eq_true, bne_iff_ne] at due
      have logged (book : LaborBook) (paid : LaborEntry) (settled : paid.paymentStatus = .paid) :
          { book with log := book.log ++ [⟨assigneeUserId, userId, some entry.toLaborFigures,
              paid.toLaborFigures⟩] } =
            book.audit assigneeUserId userId (some entry) paid.toLaborFigures := by
        refine (if_neg fun same => ?_).symm
        have equal := congrArg LaborFigures.paymentStatus (Option.some.inj same)
        exact due.2 (equal.trans settled)
      refine (allAudited_update all).mpr ?_
      rw [logged _ _ rfl]
      exact put_audit_audited (all appealId) found userId _
    · exact all
  · exact all

theorem markPaidAll_audited (all : AllAudited desk) (userId : Nat) (items : List (Nat × Nat))
    (now : Int) : AllAudited (desk.markPaidAll userId items now) := by
  unfold LaborDesk.markPaidAll
  split
  · exact all
  · next actor known =>
    clear known
    induction items generalizing desk with
    | nil => exact all
    | cons item rest ih => exact ih (markPaid_audited all userId actor now item.1 item.2)

theorem putLabor_audited_iff (all : AllAudited desk) (call : LaborCall) :
    AllAudited (laborStep desk (.labor call)) ↔ NamesOnce desk (.labor call) := by
  cases done : desk.putLabor call with
  | error refusal =>
    have kept : laborStep desk (.labor call) = desk := by rw [laborStep, done]; rfl
    rw [kept]
    exact iff_of_true all (fun _ _ went => by simp [done, Except.isOk, Except.toBool] at went)
  | ok after =>
    have taken : laborStep desk (.labor call) = after := by rw [laborStep, done]; rfl
    rw [taken]
    obtain ⟨appeal, admitted, rest⟩ := (except_bind_ok _ _ _).mp done
    obtain ⟨book, upserted, rest⟩ := (except_bind_ok _ _ _).mp rest
    obtain rfl := Except.ok.inj rest
    refine (allAudited_update all).trans ((upsert_audited_iff (all call.appealId) upserted).trans ?_)
    constructor
    · intro keeps appeal' admitted' _ required
      obtain rfl := Except.ok.inj (admitted.symm.trans admitted')
      exact keeps required
    · exact fun names => names appeal admitted (by rw [done]; rfl)

theorem laborStep_audited_iff (all : AllAudited desk) (a : LaborAction) :
    AllAudited (laborStep desk a) ↔ NamesOnce desk a := by
  cases a with
  | labor call => exact putLabor_audited_iff all call
  | markPaid userId items now => exact iff_of_true (markPaidAll_audited all userId items now) True.intro
  | hourlyRate userId targetId hourlyRateRub =>
    refine iff_of_true ?_ True.intro
    simp only [laborStep, LaborDesk.setHourlyRate]
    split
    · split
      · exact all
      · exact all
    · exact all
  | appeal call => exact iff_of_true all True.intro
  | payment departmentId payment => exact iff_of_true all True.intro

/-- In every run the audit log replays to the stored entries exactly when every labor request that
goes through names no assignee again after it has changed the entry. -/
theorem labor_audit_replays_iff (desk : LaborDesk) (start : AllAudited desk)
    (actions : List LaborAction) :
    Always laborStep AllAudited desk actions ↔ EachStep laborStep NamesOnce desk actions :=
  always_iff_eachStep (I := AllAudited) (fun _ a all => laborStep_audited_iff all a) start actions

theorem laborDesk_audited : AllAudited laborDesk := fun _ _ => rfl

theorem labor_audit_replays_sample : Always laborStep AllAudited laborDesk
    [.labor ⟨1, 2, ⟨false, [⟨3, some 2, none, none, none⟩], by decide +kernel⟩, 7⟩,
      .labor ⟨1, 2, ⟨false, [⟨3, some 2, none, none, none⟩, ⟨3, some 1, none, none, none⟩],
        by decide +kernel⟩, 8⟩,
      .markPaid 2 [(1, 3)] 9] := by
  refine (labor_audit_replays_iff laborDesk laborDesk_audited _).mpr ⟨?_, ?_, True.intro, True.intro⟩
  · intro appeal _ _ _ a
    refine ⟨?_, True.intro⟩
    rintro _ ⟨later, here, _⟩
    cases here
  · intro appeal admitted _ _ a
    have known : some appeal = some ⟨5, 1, .inProgress, [3], []⟩ :=
      (congrArg Except.toOption admitted).symm.trans (by decide +kernel)
    obtain rfl := Option.some.inj known
    refine ⟨fun _ _ => ?_, ?_, True.intro⟩
    -- the first of the two asks for the hours that the entry has
    · decide +kernel
    · rintro _ ⟨later, here, _⟩
      cases here

/-- An assignee named twice leaves two records that start from before the request. -/
theorem named_twice_breaks_audit : ¬ ∀ (desk : LaborDesk) (actions : List LaborAction),
    AllAudited desk → Always laborStep AllAudited desk actions := by
  intro always
  have audited := (always laborDesk [.labor ⟨1, 2, ⟨false,
    [⟨3, some 2, none, none, none⟩, ⟨3, some 1, none, none, none⟩], by decide +kernel⟩, 7⟩]
    laborDesk_audited).last 1 3
  exact absurd audited (by decide +kernel)

end Runs

end LeaderProduct
