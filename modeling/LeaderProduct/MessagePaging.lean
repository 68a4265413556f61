import Mathlib.Algebra.Order.Ring.Rat
import Mathlib.Data.List.TakeWhile
import LeaderProduct.AppealMessages
import LeaderProduct.Order

/-! Reading the messages of an appeal page by page: a first page around the unread messages or at
the end, and then pages before and after it by cursors. -/
namespace LeaderProduct
open RankedWindow (sortedBy)

section Cursors

structure TextReading where
  otherDates : String → Option JsDate
  otherNumbers : String → Option Rat

structure MessageCursor where
  createdAt : JsDate
  id : Rat
  deriving DecidableEq

def encodeMessageCursor (createdAt : JsDate) (id : Nat) : String :=
  toISOString createdAt ++ "|" ++ toString id

variable (reading : TextReading)

def TextReading.number (text : List Char) : Option Rat :=
  if text.all Char.isDigit then some (Nat.ofDigitChars 10 text 0)
  else reading.otherNumbers (String.ofList text)

/-- The first two parts of `raw.split('|')`. -/
def decodeMessageCursor (raw : String) : Option MessageCursor :=
  let iso := raw.toList.takeWhile (fun c => c != '|')
  match raw.toList.dropWhile (fun c => c != '|') with
  | [] => none
  | _ :: rest =>
    let idStr := rest.takeWhile (fun c => c != '|')
    if iso = [] ∨ idStr = [] then none
    else
      match newDate reading.otherDates (String.ofList iso), reading.number idStr with
      | some createdAt, some id => some ⟨createdAt, id⟩
      | _, _ => none

def MessageCursor.before (cursor : MessageCursor) (message : AppealMessage) : Bool :=
  decide (message.createdAt < cursor.createdAt) ||
    (decide (message.createdAt = cursor.createdAt) && decide ((message.id : Rat) < cursor.id))

def MessageCursor.after (cursor : MessageCursor) (message : AppealMessage) : Bool :=
  decide (cursor.createdAt < message.createdAt) ||
    (decide (message.createdAt = cursor.createdAt) && decide (cursor.id < (message.id : Rat)))

end Cursors

section Pages

inductive PageDirection where
  | before | after
  deriving DecidableEq, Repr

inductive MessagesMode where
  | page | bootstrap

inductive MessagesAnchor where
  | firstUnread | lastUnread

structure MessagesQuery where
  limit : Nat
  cursor : Option String
  direction : Option PageDirection
  mode : Option MessagesMode
  anchor : Option MessagesAnchor
  before : Option Nat
  after : Option Nat
  limit_valid : 1 ≤ limit ∧ limit ≤ 100
  before_valid : ∀ n ∈ before, n ≤ 200
  after_valid : ∀ n ∈ after, n ≤ 200

structure MessagesPage where
  data : List AppealMessage
  hasMore : Bool
  nextCursor : Option String
  hasMoreBefore : Bool
  prevCursor : Option String
  hasMoreAfter : Bool
  anchorMessageId : Option Nat
  deriving DecidableEq

structure MessagesRange where
  ordered : List AppealMessage
  hasMoreBefore : Bool
  hasMoreAfter : Bool
  anchorMessageId : Option Nat
  deriving DecidableEq

variable (table : MessageTable) (appealId : Nat)

def ascending (messages : List AppealMessage) : List AppealMessage :=
  sortedBy AppealMessage.place messages

def descending (messages : List AppealMessage) : List AppealMessage :=
  sortedBy (fun message => OrderDual.toDual message.place) messages

def unreadAnchor (userId : Nat) (anchor : MessagesAnchor) : Option AppealMessage :=
  let unread := table.findMany appealId
    (fun message => message.senderId != userId && table.unreadBy userId message)
  match anchor with
  | .lastUnread => (descending unread).head?
  | .firstUnread => (ascending unread).head?

def anchoredRange (beforeTake afterTake : Nat) (anchor : AppealMessage) : MessagesRange :=
  let olderRaw := (descending (table.findMany appealId
    (fun message => decide (message.place < anchor.place)))).take (beforeTake + 1)
  let newerRaw := (ascending (table.findMany appealId
    (fun message => decide (anchor.place ≤ message.place)))).take (afterTake + 2)
  { ordered := (olderRaw.take beforeTake).reverse ++ newerRaw.take (afterTake + 1)
    hasMoreBefore := decide (beforeTake < olderRaw.length)
    hasMoreAfter := decide (afterTake + 1 < newerRaw.length)
    anchorMessageId := some anchor.id }

def latestRange (limit : Nat) : MessagesRange :=
  let raw := (descending (table.findMany appealId (fun _ => true))).take (limit + 1)
  { ordered := (raw.take limit).reverse
    hasMoreBefore := decide (limit < raw.length)
    hasMoreAfter := false
    anchorMessageId := none }

def cursorRange (parsedCursor : Option MessageCursor) (direction : PageDirection) (limit : Nat) :
    MessagesRange :=
  match direction with
  | .before =>
    let raw := (descending (table.findMany appealId
      (fun message => parsedCursor.all (·.before message)))).take (limit + 1)
    ⟨(raw.take limit).reverse, decide (limit < raw.length), parsedCursor.isSome, none⟩
  | .after =>
    let raw := (ascending (table.findMany appealId
      (fun message => parsedCursor.all (·.after message)))).take (limit + 1)
    ⟨raw.take limit, parsedCursor.isSome, decide (limit < raw.length), none⟩

def bootstrapRange (userId limit : Nat) (anchor : Option MessagesAnchor) (before after : Option Nat) :
    MessagesRange :=
  match anchor.bind (unreadAnchor table appealId userId) with
  | some firstUnread => anchoredRange table appealId (before.getD 40) (after.getD 20) firstUnread
  | none => latestRange table appealId limit

def MessagesRange.page (range : MessagesRange) (direction : PageDirection) : MessagesPage :=
  let prevCursor := range.ordered.head?.map (fun m => encodeMessageCursor m.createdAt m.id)
  let nextCursor := range.ordered.getLast?.map (fun m => encodeMessageCursor m.createdAt m.id)
  { data := range.ordered
    hasMore := if direction = .after then range.hasMoreAfter else range.hasMoreBefore
    nextCursor := if direction = .after then nextCursor else prevCursor
    hasMoreBefore := range.hasMoreBefore
    prevCursor
    hasMoreAfter := range.hasMoreAfter
    anchorMessageId := range.anchorMessageId }

end Pages

section Endpoint

variable (reading : TextReading) (chat : AppealChat) (appealId userId : Nat)

/-- `GET /:id/messages`. The database refuses a cursor whose id is no whole number. -/
def getMessages (query : MessagesQuery) : Except AppealRefusal MessagesPage := do
  let direction := query.direction.getD .before
  let parsedCursor := query.cursor.bind (decodeMessageCursor reading)
  if query.cursor.isSome && parsedCursor.isNone then .error ⟨400, "Некорректный cursor"⟩
  let _ ← chat.desk.visibleAppeal appealId userId
  match query.mode.getD .page with
  | .bootstrap =>
    return (bootstrapRange chat.table appealId userId query.limit query.anchor query.before
      query.after).page direction
  | .page =>
    if parsedCursor.any (fun cursor => cursor.id.den != 1) then
      .error ⟨500, "Ошибка получения сообщений обращения"⟩
    else
      return (cursorRange chat.table appealId parsedCursor direction query.limit).page direction

def pageQuery (direction : PageDirection) (limit : Nat) (valid : 1 ≤ limit ∧ limit ≤ 100)
    (cursor : String) : MessagesQuery :=
  ⟨limit, some cursor, some direction, some .page, none, none, none, valid, by simp, by simp⟩

/-- The pages that a client reads with its cursors, a refused one counting as none. -/
def getPage (limit : Nat) (valid : 1 ≤ limit ∧ limit ≤ 100) (direction : PageDirection)
    (cursor : Option String) : Option MessagesPage :=
  cursor.bind (fun cursor =>
    (getMessages reading chat appealId userId (pageQuery direction limit valid cursor)).toOption)

def scrollBefore (limit : Nat) (valid : 1 ≤ limit ∧ limit ≤ 100) (fuel : Nat) (page : MessagesPage) :
    Option (List AppealMessage) :=
  (KeysetPaging.scroll MessagesPage.hasMoreBefore
    (fun page => getPage reading chat appealId userId limit valid .before page.prevCursor)
    fuel page).map (fun pages => pages.reverse.flatMap MessagesPage.data)

def scrollAfter (limit : Nat) (valid : 1 ≤ limit ∧ limit ≤ 100) (fuel : Nat) (page : MessagesPage) :
    Option (List AppealMessage) :=
  (KeysetPaging.scroll MessagesPage.hasMoreAfter
    (fun page => getPage reading chat appealId userId limit valid .after page.nextCursor)
    fuel page).map (fun pages => pages.flatMap MessagesPage.data)

end Endpoint

section CursorText
variable (reading : TextReading)

theorem number_toString (id : Nat) : reading.number (toString id).toList = some (id : Rat) := by
  have text : (toString id).toList = Nat.toDigits 10 id := Nat.toList_repr
  have all_digits : (Nat.toDigits 10 id).all Char.isDigit = true :=
    List.all_eq_true.mpr fun c inside => Nat.isDigit_of_mem_toDigits (by decide) (by decide) inside
  rw [TextReading.number, text, if_pos all_digits, Nat.ofDigitChars_ten_toDigits]

theorem decode_encodeMessageCursor (createdAt : JsDate) (id : Nat) :
    decodeMessageCursor reading (encodeMessageCursor createdAt id) = some ⟨createdAt, id⟩ := by
  have digits : ∀ c ∈ (toString id).toList, c.isDigit = true := by
    intro c inside
    rw [show (toString id).toList = Nat.toDigits 10 id from Nat.toList_repr] at inside
    exact Nat.isDigit_of_mem_toDigits (by decide) (by decide) inside
  have no_bar : ∀ c ∈ (toISOString createdAt).toList, (c != '|') = true := by
    intro c inside
    rw [bne_iff_ne]
    rintro rfl
    rw [toISOString, String.toList_ofList] at inside
    exact bar_not_mem_text _ inside
  have id_no_bar : ∀ c ∈ (toString id).toList, (c != '|') = true := by
    intro c inside
    rw [bne_iff_ne]
    rintro rfl
    cases digits _ inside
  have text : (encodeMessageCursor createdAt id).toList =
      (toISOString createdAt).toList ++ '|' :: (toString id).toList := by
    simp [encodeMessageCursor]
  have iso_nonempty : (toISOString createdAt).toList ≠ [] := by
    simp [toISOString, IsoFields.text]
  have id_nonempty : (toString id).toList ≠ [] := by
    rw [show (toString id).toList = Nat.toDigits 10 id from Nat.toList_repr]
    exact Nat.toDigits_ne_nil
  have front : (encodeMessageCursor createdAt id).toList.takeWhile (fun c => c != '|') =
      (toISOString createdAt).toList := by
    rw [text, List.takeWhile_append_of_pos no_bar, List.takeWhile_cons_of_neg (by decide),
      List.append_nil]
  have back : (encodeMessageCursor createdAt id).toList.dropWhile (fun c => c != '|') =
      '|' :: (toString id).toList := by
    rw [text, List.dropWhile_append_of_pos no_bar, List.dropWhile_cons_of_neg (by decide)]
  have whole : (toString id).toList.takeWhile (fun c => c != '|') = (toString id).toList :=
    List.takeWhile_eq_self_iff.mpr id_no_bar
  simp only [decodeMessageCursor, front, back, whole, iso_nonempty, id_nonempty, or_self, if_false,
    String.ofList_toList, newDate_toISOString, number_toString]

end CursorText

section Ranges
variable {table : MessageTable} {appealId : Nat} {before after : List AppealMessage}
  {message : AppealMessage}

def AppealMessage.cursor (message : AppealMessage) : MessageCursor := ⟨message.createdAt, message.id⟩

theorem cursor_before (message other : AppealMessage) :
    message.cursor.before other = decide (other.place < message.place) := by
  rw [Bool.eq_iff_iff, decide_eq_true_iff, place_lt_iff, MessageCursor.before, Bool.or_eq_true,
    Bool.and_eq_true]
  exact or_congr decide_eq_true_iff
    (and_congr decide_eq_true_iff (decide_eq_true_iff.trans Nat.cast_lt))

theorem cursor_after (message other : AppealMessage) :
    message.cursor.after other = decide (message.place < other.place) := by
  rw [Bool.eq_iff_iff, decide_eq_true_iff, place_lt_iff, MessageCursor.after, Bool.or_eq_true,
    Bool.and_eq_true]
  exact or_congr decide_eq_true_iff
    (and_congr (decide_eq_true_iff.trans eq_comm) (decide_eq_true_iff.trans Nat.cast_lt))

theorem descending_findMany (condition : AppealMessage → Bool) :
    descending (table.findMany appealId condition) =
      ((table.shown appealId).filter condition).reverse := sorted_findMany_desc appealId condition

theorem ascending_findMany (condition : AppealMessage → Bool) :
    ascending (table.findMany appealId condition) = (table.shown appealId).filter condition :=
  sorted_findMany appealId condition

variable (split : table.shown appealId = before ++ message :: after)
include split

theorem shown_before : (table.shown appealId).filter (fun m => decide (m.place < message.place)) =
    before := by
  have strict := @shown_strict table appealId
  rw [split] at strict ⊢
  exact KeysetPaging.filter_lt_split strict

theorem shown_after : (table.shown appealId).filter (fun m => decide (message.place < m.place)) =
    after := by
  have strict := @shown_strict table appealId
  rw [split] at strict ⊢
  exact KeysetPaging.filter_gt_split strict

theorem shown_from : (table.shown appealId).filter (fun m => decide (message.place ≤ m.place)) =
    message :: after := by
  have strict := @shown_strict table appealId
  rw [split] at strict ⊢
  exact KeysetPaging.filter_ge_split strict

theorem cursorRange_before (limit : Nat) : ∃ rest,
    before = rest ++ (cursorRange table appealId (some message.cursor) .before limit).ordered ∧
      ((cursorRange table appealId (some message.cursor) .before limit).hasMoreBefore = true ↔
        rest ≠ []) ∧
      (0 < limit → before ≠ [] →
        (cursorRange table appealId (some message.cursor) .before limit).ordered ≠ []) := by
  simp only [cursorRange, Option.all_some, cursor_before, descending_findMany, shown_before split,
    decide_eq_true_iff]
  obtain ⟨rest, page, more⟩ := KeysetPaging.take_page_reverse limit before
  refine ⟨rest, page, more, fun positive some_left => ?_⟩
  have reversed : before.reverse ≠ [] := by simpa using some_left
  simpa using KeysetPaging.take_page_ne_nil positive reversed

theorem cursorRange_after (limit : Nat) : ∃ rest,
    after = (cursorRange table appealId (some message.cursor) .after limit).ordered ++ rest ∧
      ((cursorRange table appealId (some message.cursor) .after limit).hasMoreAfter = true ↔
        rest ≠ []) ∧
      (0 < limit → after ≠ [] →
        (cursorRange table appealId (some message.cursor) .after limit).ordered ≠ []) := by
  simp only [cursorRange, Option.all_some, cursor_after, ascending_findMany, shown_after split,
    decide_eq_true_iff]
  obtain ⟨rest, page, more⟩ := KeysetPaging.take_page limit after
  exact ⟨rest, page, more, fun positive some_left => KeysetPaging.take_page_ne_nil positive some_left⟩

omit split in
structure MessagesRange.Window (range : MessagesRange) (shown older newer : List AppealMessage) :
    Prop where
  split : shown = older ++ range.ordered ++ newer
  more_before : range.hasMoreBefore = true ↔ older ≠ []
  more_after : range.hasMoreAfter = true ↔ newer ≠ []
  nonempty : range.ordered = [] → older = [] ∧ newer = []

theorem anchoredRange_window (beforeTake afterTake : Nat) : ∃ rest,
    (anchoredRange table appealId beforeTake afterTake message).Window (table.shown appealId) rest
        (after.drop afterTake) ∧
      ((anchoredRange table appealId beforeTake afterTake message).ordered.length =
        min beforeTake before.length + 1 + min afterTake after.length) := by
  obtain ⟨rest, page, more⟩ := KeysetPaging.take_page_reverse beforeTake before
  have ordered : (anchoredRange table appealId beforeTake afterTake message).ordered =
      ((before.reverse.take (beforeTake + 1)).take beforeTake).reverse ++
        message :: after.take afterTake := by
    simp only [anchoredRange, descending_findMany, ascending_findMany, shown_before split,
      shown_from split, List.take_take, Nat.min_eq_left (Nat.le_succ _), List.take_succ_cons]
  refine ⟨rest, ⟨?_, ?_, ?_, ?_⟩, ?_⟩
  · rw [split, ordered, ← List.append_assoc, ← page, List.append_assoc, List.cons_append,
      List.take_append_drop]
  · simp only [anchoredRange, descending_findMany, shown_before split, decide_eq_true_iff]
    exact more
  · simp only [anchoredRange, ascending_findMany, shown_from split, decide_eq_true_iff,
      List.length_take, List.length_cons]
    rw [← List.length_pos_iff, List.length_drop]
    omega
  · rw [ordered]
    intro empty
    simp at empty
  · rw [ordered]
    simp
    omega

omit split in
theorem latestRange_window {limit : Nat} (positive : 0 < limit) : ∃ rest,
    (latestRange table appealId limit).Window (table.shown appealId) rest [] := by
  have all : (table.shown appealId).filter (fun _ => true) = table.shown appealId := by simp
  obtain ⟨rest, page, more⟩ := KeysetPaging.take_page_reverse limit (table.shown appealId)
  refine ⟨rest, ⟨?_, ?_, ?_, ?_⟩⟩
  · simp only [latestRange, descending_findMany, all, List.append_nil]
    exact page
  · simp only [latestRange, descending_findMany, all, decide_eq_true_iff]
    exact more
  · simp [latestRange]
  · intro empty
    simp only [latestRange, descending_findMany, all] at empty
    refine ⟨?_, rfl⟩
    by_contra some_left
    have reversed : (table.shown appealId).reverse ≠ [] := by
      rw [page]
      simp [some_left]
    exact KeysetPaging.take_page_ne_nil positive reversed (List.reverse_eq_nil_iff.mp empty)

end Ranges

section Scrolling
variable {reading : TextReading} {chat : AppealChat} {appealId userId : Nat} {appeal : Appeal}
  {limit : Nat} {valid : 1 ≤ limit ∧ limit ≤ 100}

def AppealMessage.cursorText (message : AppealMessage) : String :=
  encodeMessageCursor message.createdAt message.id

theorem getPage_cursor (visible : chat.desk.visibleAppeal appealId userId = .ok appeal)
    (direction : PageDirection) (message : AppealMessage) :
    getPage reading chat appealId userId limit valid direction (some message.cursorText) =
      some ((cursorRange chat.table appealId (some message.cursor) direction limit).page
        direction) := by
  have decoded : decodeMessageCursor reading message.cursorText = some message.cursor :=
    decode_encodeMessageCursor reading _ _
  have whole : message.cursor.id.den = 1 := rfl
  simp [getPage, getMessages, pageQuery, decoded, visible, whole, bind, Except.bind, pure,
    Except.pure, Except.toOption]

def LeftBefore (shown : List AppealMessage) (page : MessagesPage) (rows : List AppealMessage) : Prop :=
  (page.hasMoreBefore = true ↔ rows ≠ []) ∧
    (rows ≠ [] → ∃ message after, shown = rows.reverse ++ message :: after ∧
      page.prevCursor = some message.cursorText)

def LeftAfter (shown : List AppealMessage) (page : MessagesPage) (rows : List AppealMessage) : Prop :=
  (page.hasMoreAfter = true ↔ rows ≠ []) ∧
    (rows ≠ [] → ∃ before message, shown = before ++ message :: rows ∧
      page.nextCursor = some message.cursorText)

section
variable (visible : chat.desk.visibleAppeal appealId userId = .ok appeal)
include visible

theorem scrolling_before :
    KeysetPaging.Scrolling MessagesPage.hasMoreBefore
      (fun page => getPage reading chat appealId userId limit valid .before page.prevCursor)
      (fun page => page.data.reverse) (LeftBefore (chat.table.shown appealId)) := by
  refine ⟨fun page rows left => left.1, fun page rows left some_left => ?_⟩
  obtain ⟨message, after, split, cursor⟩ := left.2 some_left
  obtain ⟨rest, page_split, more, nonempty⟩ := cursorRange_before split limit
  have some_read := nonempty valid.1 (by simpa using some_left)
  obtain ⟨first, others, ordered⟩ := List.exists_cons_of_ne_nil some_read
  refine ⟨_, rest.reverse, by rw [cursor, getPage_cursor visible], ⟨?_, fun _ => ?_⟩, ?_, ?_⟩
  · simpa [MessagesRange.page] using more
  · refine ⟨first, others ++ message :: after, ?_, ?_⟩
    · rw [split, page_split, ordered, List.reverse_reverse]
      simp
    · simp [MessagesRange.page, ordered, AppealMessage.cursorText]
  · simpa [MessagesRange.page] using some_read
  · have back := congrArg List.reverse page_split
    rwa [List.reverse_reverse, List.reverse_append] at back

theorem scrolling_after :
    KeysetPaging.Scrolling MessagesPage.hasMoreAfter
      (fun page => getPage reading chat appealId userId limit valid .after page.nextCursor)
      MessagesPage.data (LeftAfter (chat.table.shown appealId)) := by
  refine ⟨fun page rows left => left.1, fun page rows left some_left => ?_⟩
  obtain ⟨before, message, split, cursor⟩ := left.2 some_left
  obtain ⟨rest, page_split, more, nonempty⟩ := cursorRange_after split limit
  have some_read := nonempty valid.1 some_left
  obtain ⟨others, last, ordered⟩ := List.eq_nil_or_concat _ |>.resolve_left some_read
  refine ⟨_, rest, by rw [cursor, getPage_cursor visible], ⟨?_, fun _ => ?_⟩, ?_, ?_⟩
  · simpa [MessagesRange.page] using more
  · refine ⟨before ++ message :: others, last, ?_, ?_⟩
    · rw [split, page_split, ordered]
      simp
    · simp [MessagesRange.page, ordered, AppealMessage.cursorText]
  · simpa [MessagesRange.page] using some_read
  · simpa [MessagesRange.page] using page_split

theorem scrollBefore_iff {page : MessagesPage} {older : List AppealMessage}
    (left : LeftBefore (chat.table.shown appealId) page older.reverse) (read : List AppealMessage) :
    (∃ fuel, scrollBefore reading chat appealId userId limit valid fuel page = some read) ↔
      read = older := by
  have scrolling := @scrolling_before reading chat appealId userId appeal limit valid visible
  have scrolled := scrolling.reads_iff left read.reverse
  rw [List.reverse_inj] at scrolled
  rw [← scrolled]
  refine exists_congr fun fuel => ?_
  rw [scrollBefore]
  generalize KeysetPaging.scroll _ _ fuel page = scrolled
  cases scrolled with
  | none => simp
  | some pages =>
    have turned : pages.flatMap (fun page => page.data.reverse) =
        (pages.reverse.flatMap MessagesPage.data).reverse := by
      rw [List.reverse_flatMap, List.reverse_reverse]
      rfl
    rw [Option.map_some, Option.map_some, turned, Option.some.injEq, Option.some.injEq,
      List.reverse_inj]

theorem scrollAfter_iff {page : MessagesPage} {newer : List AppealMessage}
    (left : LeftAfter (chat.table.shown appealId) page newer) (read : List AppealMessage) :
    (∃ fuel, scrollAfter reading chat appealId userId limit valid fuel page = some read) ↔
      read = newer :=
  (scrolling_after visible).reads_iff left read

end

/-- The two scrolls and the first page show every message of the appeal once, in order. -/
def ShowsOnce (reading : TextReading) (chat : AppealChat) (appealId userId limit : Nat)
    (valid : 1 ≤ limit ∧ limit ≤ 100) (first : MessagesPage) : Prop :=
  ∃ older newer, (∃ fuel, scrollBefore reading chat appealId userId limit valid fuel first = some older) ∧
    (∃ fuel, scrollAfter reading chat appealId userId limit valid fuel first = some newer) ∧
    older ++ first.data ++ newer = chat.table.shown appealId

variable {range : MessagesRange} {older newer : List AppealMessage}

theorem window_leftBefore (window : range.Window (chat.table.shown appealId) older newer)
    (direction : PageDirection) :
    LeftBefore (chat.table.shown appealId) (range.page direction) older.reverse := by
  refine ⟨by simpa [MessagesRange.page] using window.more_before, fun some_left => ?_⟩
  have some_read : range.ordered ≠ [] := fun empty => some_left (by simp [(window.nonempty empty).1])
  obtain ⟨first, others, ordered⟩ := List.exists_cons_of_ne_nil some_read
  refine ⟨first, others ++ newer, ?_, ?_⟩
  · rw [window.split, ordered]
    simp
  · simp [MessagesRange.page, ordered, AppealMessage.cursorText]

def MessagesRange.cursorLeads (range : MessagesRange) (direction : PageDirection)
    (newer : List AppealMessage) : List AppealMessage :=
  if direction = .after ∨ newer = [] then newer else range.ordered.tail ++ newer

theorem window_leftAfter (window : range.Window (chat.table.shown appealId) older newer)
    (direction : PageDirection) :
    LeftAfter (chat.table.shown appealId) (range.page direction)
      (range.cursorLeads direction newer) := by
  by_cases ended : newer = []
  · have stops : range.hasMoreAfter ≠ true := fun more => window.more_after.mp more ended
    simp [LeftAfter, MessagesRange.cursorLeads, MessagesRange.page, ended, stops]
  have more := window.more_after.mpr ended
  have some_read : range.ordered ≠ [] := fun empty => ended (window.nonempty empty).2
  cases direction with
  | after =>
    obtain ⟨others, last, ordered⟩ := (List.eq_nil_or_concat range.ordered).resolve_left some_read
    have leads : range.cursorLeads .after newer = newer := if_pos (.inl rfl)
    rw [leads]
    refine ⟨by simpa [MessagesRange.page] using window.more_after, fun _ => ?_⟩
    refine ⟨older ++ others, last, ?_, ?_⟩
    · rw [window.split, ordered]
      simp
    · simp [MessagesRange.page, ordered, AppealMessage.cursorText]
  | before =>
    obtain ⟨first, others, ordered⟩ := List.exists_cons_of_ne_nil some_read
    have leads : range.cursorLeads .before newer = others ++ newer := by
      simp [MessagesRange.cursorLeads, ended, ordered]
    rw [leads]
    refine ⟨by simp [MessagesRange.page, more, ended], fun _ => ⟨older, first, ?_, ?_⟩⟩
    · rw [window.split, ordered]
      simp
    · simp [MessagesRange.page, ordered, AppealMessage.cursorText]

theorem showsOnce_iff (visible : chat.desk.visibleAppeal appealId userId = .ok appeal)
    (window : range.Window (chat.table.shown appealId) older newer) (direction : PageDirection) :
    ShowsOnce reading chat appealId userId limit valid (range.page direction) ↔
      direction = .after ∨ newer = [] ∨ range.ordered.length ≤ 1 := by
  have back (read : List AppealMessage) :
      (∃ fuel, scrollBefore reading chat appealId userId limit valid fuel (range.page direction) =
        some read) ↔ read = older :=
    scrollBefore_iff visible (window_leftBefore window direction) read
  have on (read : List AppealMessage) :
      (∃ fuel, scrollAfter reading chat appealId userId limit valid fuel (range.page direction) =
        some read) ↔ read = range.cursorLeads direction newer :=
    scrollAfter_iff visible (window_leftAfter window direction) read
  have data : (range.page direction).data = range.ordered := rfl
  have leads : ShowsOnce reading chat appealId userId limit valid (range.page direction) ↔
      range.cursorLeads direction newer = newer := by
    constructor
    · rintro ⟨read, read', behind, ahead, whole⟩
      rw [(back read).mp behind, (on read').mp ahead, data, window.split] at whole
      exact List.append_cancel_left whole
    · intro same
      exact ⟨older, _, (back older).mpr rfl, (on _).mpr rfl, by rw [same, data, window.split]⟩
  rw [leads, MessagesRange.cursorLeads]
  by_cases goes_on : direction = .after ∨ newer = []
  · rw [if_pos goes_on]
    exact ⟨fun _ => goes_on.imp_right Or.inl, fun _ => rfl⟩
  · rw [if_neg goes_on, List.append_left_eq_self, ← List.length_eq_zero_iff, List.length_tail]
    obtain ⟨other, some_left⟩ := not_or.mp goes_on
    simp only [other, some_left, false_or]
    omega

end Scrolling

section Bootstrap

/-- Where a first page has a cursor to go on: the request states the direction, or nothing is after
the page, or the page is the one message that the cursor stands at. -/
def MessagesQuery.HasForwardCursor (query : MessagesQuery) (table : MessageTable) (appealId userId : Nat) :
    Prop :=
  query.direction = some .after ∨
    ∀ anchor ∈ query.anchor.bind (unreadAnchor table appealId userId),
      let older := (table.shown appealId).filter (fun m => decide (m.place < anchor.place))
      let newer := (table.shown appealId).filter (fun m => decide (anchor.place < m.place))
      newer.length ≤ query.after.getD 20 ∨
        query.after = some 0 ∧ (query.before = some 0 ∨ older = [])

theorem mem_unreadAnchor {table : MessageTable} {appealId userId : Nat} {anchor : MessagesAnchor}
    {message : AppealMessage} (found : message ∈ unreadAnchor table appealId userId anchor) :
    message ∈ table.shown appealId := by
  have listed : message ∈ table.findMany appealId
      (fun message => message.senderId != userId && table.unreadBy userId message) := by
    unfold unreadAnchor at found
    cases anchor with
    | firstUnread => exact RankedWindow.mem_sortedBy.mp (List.mem_of_mem_head? found)
    | lastUnread => exact RankedWindow.mem_sortedBy.mp (List.mem_of_mem_head? found)
  obtain ⟨stored, own, kept, -⟩ := mem_findMany.mp listed
  exact RankedWindow.mem_sortedBy.mpr (mem_findMany.mpr ⟨stored, own, kept, rfl⟩)

theorem bootstrap_ok {reading : TextReading} {chat : AppealChat} {appealId userId : Nat}
    {query : MessagesQuery} {first : MessagesPage} (bootstrap : query.mode = some .bootstrap)
    (answered : getMessages reading chat appealId userId query = .ok first) :
    (∃ appeal, chat.desk.visibleAppeal appealId userId = .ok appeal) ∧
      first = (bootstrapRange chat.table appealId userId query.limit query.anchor query.before
        query.after).page (query.direction.getD .before) := by
  unfold getMessages at answered
  dsimp only at answered
  split at answered
  · cases answered
  · obtain ⟨appeal, visible, rest⟩ := (except_bind_ok _ _ _).mp answered
    rw [bootstrap] at rest
    exact ⟨⟨appeal, visible⟩, (Except.ok.inj rest).symm⟩

theorem showsOnce_bootstrap_iff {reading : TextReading} {chat : AppealChat} {appealId userId : Nat}
    {query : MessagesQuery} (bootstrap : query.mode = some .bootstrap) {first : MessagesPage}
    (answered : getMessages reading chat appealId userId query = .ok first)
    {limit : Nat} (valid : 1 ≤ limit ∧ limit ≤ 100) :
    ShowsOnce reading chat appealId userId limit valid first ↔
      query.HasForwardCursor chat.table appealId userId := by
  obtain ⟨⟨appeal, visible⟩, rfl⟩ := bootstrap_ok bootstrap answered
  rw [MessagesQuery.HasForwardCursor]
  have asked : query.direction.getD .before = .after ↔ query.direction = some .after := by
    cases query.direction with
    | none => simp
    | some direction => simp
  cases found : query.anchor.bind (unreadAnchor chat.table appealId userId) with
  | none =>
    obtain ⟨rest, window⟩ := @latestRange_window chat.table appealId _ query.limit_valid.1
    simp only [bootstrapRange, found]
    rw [showsOnce_iff visible window, asked]
    simp
  | some anchor =>
    obtain ⟨kind, _, is_anchor⟩ := Option.bind_eq_some_iff.mp found
    obtain ⟨before, after, split⟩ := List.append_of_mem (mem_unreadAnchor is_anchor)
    obtain ⟨rest, window, length⟩ := anchoredRange_window split (query.before.getD 40)
      (query.after.getD 20)
    simp only [bootstrapRange, found]
    rw [showsOnce_iff visible window, asked, length, List.drop_eq_nil_iff]
    simp only [Option.mem_some_iff, forall_eq', shown_before split, shown_after split]
    have zero {asked : Option Nat} {fallback : Nat} (positive : 0 < fallback) :
        asked.getD fallback = 0 ↔ asked = some 0 := by
      cases asked with
      | none => simp; omega
      | some n => simp
    have one : min (query.before.getD 40) before.length + 1 +
        min (query.after.getD 20) after.length ≤ 1 ↔
          (query.before.getD 40 = 0 ∨ before = []) ∧ (query.after.getD 20 = 0 ∨ after = []) := by
      rw [← List.length_eq_zero_iff, ← List.length_eq_zero_iff]
      omega
    rw [one, zero (by decide), zero (by decide)]
    by_cases none_after : after = []
    · simp [none_after]
    · simp [none_after, and_comm]

/-- A client sees every message once just when the first page has the cursor to go on from; the
cursors themselves read as the positions they were made of. -/
theorem messages_shown_once_iff (reading : TextReading) (chat : AppealChat) (appealId userId : Nat)
    (query : MessagesQuery) (bootstrap : query.mode = some .bootstrap) (first : MessagesPage)
    (answered : getMessages reading chat appealId userId query = .ok first)
    (limit : Nat) (valid : 1 ≤ limit ∧ limit ≤ 100) :
    (ShowsOnce reading chat appealId userId limit valid first ∧
      ∀ createdAt id, decodeMessageCursor reading (encodeMessageCursor createdAt id) =
        some ⟨createdAt, id⟩) ↔ query.HasForwardCursor chat.table appealId userId := by
  rw [and_iff_left (decode_encodeMessageCursor reading)]
  exact showsOnce_bootstrap_iff bootstrap answered valid

def noOtherTexts : TextReading := ⟨fun _ => none, fun _ => none⟩

def sampleMessage (id : Nat) : AppealMessage := ⟨id, 1, 1, false, ⟨1000, by decide⟩⟩

def sampleChat : AppealChat :=
  ⟨chatDesk, [sampleMessage 1, sampleMessage 2, sampleMessage 3], [], by decide, by simp⟩

def firstUnreadQuery (direction : Option PageDirection) : MessagesQuery :=
  ⟨30, none, direction, some .bootstrap, some .firstUnread, none, some 1, by decide, by simp, by simp⟩

theorem firstUnreadQuery_answered (direction : Option PageDirection) :
    ∃ first, getMessages noOtherTexts sampleChat 1 3 (firstUnreadQuery direction) = .ok first :=
  ⟨_, rfl⟩

theorem messages_shown_once_after : ∃ first,
    getMessages noOtherTexts sampleChat 1 3 (firstUnreadQuery (some .after)) = .ok first ∧
      ShowsOnce noOtherTexts sampleChat 1 3 2 (by decide) first := by
  obtain ⟨first, answered⟩ := firstUnreadQuery_answered (some .after)
  exact ⟨first, answered, ((messages_shown_once_iff noOtherTexts sampleChat 1 3 _ rfl first answered 2
    (by decide)).mpr (.inl rfl)).1⟩

/-- Without a direction the cursor of the first page leads back into the page. -/
theorem message_shown_twice :
    ¬∀ (reading : TextReading) (chat : AppealChat) (appealId userId : Nat) (query : MessagesQuery)
      (first : MessagesPage) (limit : Nat) (valid : 1 ≤ limit ∧ limit ≤ 100),
      query.mode = some .bootstrap →
      getMessages reading chat appealId userId query = .ok first →
      ShowsOnce reading chat appealId userId limit valid first ∧
        ∀ createdAt id, decodeMessageCursor reading (encodeMessageCursor createdAt id) =
          some ⟨createdAt, id⟩ := by
  intro law
  obtain ⟨first, answered⟩ := firstUnreadQuery_answered none
  have once := (law noOtherTexts sampleChat 1 3 _ first 2 (by decide) rfl answered).1
  have found : unreadAnchor sampleChat.table 1 3 .firstUnread = some (sampleMessage 1) := by
    decide +kernel
  rcases (showsOnce_bootstrap_iff rfl answered (by decide)).mp once with stated | short
  · cases stated
  · have few := short (sampleMessage 1) found
    revert few
    decide +kernel

end Bootstrap
end LeaderProduct
