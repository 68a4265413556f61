import Mathlib.Data.Prod.Lex
import Mathlib.Algebra.Order.Field.Rat
import LeaderProduct.LetterCase
import LeaderProduct.NewestByKey
import LeaderProduct.TaskPool

/-! The queue of invoices as 1C answers it, and the items of it that reach `syncQueueItem`: of
those with the same key the newest, handed to a few workers at a time. Only the cursor that
the next request starts from is left out. -/
namespace LeaderProduct
open RowTable TaskPool Transition

section Dates

def digitsAt (text : List Char) (start count : Nat) : Option Nat :=
  let digits := (text.drop start).take count
  if digits.length = count ∧ digits.all Char.isDigit then
    some (digits.foldl (fun n c => 10 * n + (c.toNat - 48)) 0)
  else none

def fraction : List Char → Option Nat
  | [] => some 0
  | point :: digits =>
    if point = '.' ∧ 1 ≤ digits.length ∧ digits.length ≤ 3 then
      if digits.all Char.isDigit then
        digitsAt (digits ++ List.replicate (3 - digits.length) '0') 0 3
      else none
    else none

def daysBefore (year month : Int) : Int :=
  let year := year + month / 12
  let month := month % 12
  let shifted := if month ≤ 1 then year - 1 else year
  let yearOfEra := shifted % 400
  shifted / 400 * 146097 + yearOfEra * 365 + yearOfEra / 4 - yearOfEra / 100 +
    (153 * ((month + 10) % 12) + 2) / 5 - 719468

def dateUtc (year month day hour minute second millisecond : Int) : Int :=
  let year := if year ≤ 99 then 1900 + year else year
  (daysBefore year month + (day - 1)) * 86400000 + hour * 3600000 + minute * 60000 +
    second * 1000 + millisecond

def hasExplicitOffset (text : List Char) : Bool :=
  match text.reverse with
  | [] => false
  | 'Z' :: _ | 'z' :: _ => true
  | d :: c :: ':' :: b :: a :: sign :: _ =>
    [a, b, c, d].all Char.isDigit && (sign == '+' || sign == '-')
  | d :: c :: b :: a :: sign :: _ => [a, b, c, d].all Char.isDigit && (sign == '+' || sign == '-')
  | _ => false

structure QueueSettings where
  offsetMinutes : Int
  concurrency : Nat
  newDate : String → Option Int

def localTime (settings : QueueSettings) (text : List Char) : Option Int :=
  if text[4]? = some '-' ∧ text[7]? = some '-' ∧ (text[10]? = some 'T' ∨ text[10]? = some ' ') ∧
      text[13]? = some ':' ∧ text[16]? = some ':' then do
    let year ← digitsAt text 0 4
    let month ← digitsAt text 5 2
    let day ← digitsAt text 8 2
    let hour ← digitsAt text 11 2
    let minute ← digitsAt text 14 2
    let second ← digitsAt text 17 2
    let milliseconds ← fraction (text.drop 19)
    return dateUtc year (month - 1) day hour minute second milliseconds -
      settings.offsetMinutes * 60000
  else none

def parseDate (settings : QueueSettings) (value : Option String) : Option Int :=
  match value with
  | none => none
  | some value =>
    if value = "" then none
    else
      let normalized := JsString.trim value
      if hasExplicitOffset normalized.toList then settings.newDate normalized
      else (localTime settings normalized.toList).or (settings.newDate normalized)

example : parseDate ⟨180, 2, fun _ => none⟩ (some " 2024-02-29 23:59:59.9 ") =
    some 1709240399900 := by decide +kernel

end Dates

section Model
variable {D : Type}

structure QueueEntry (D : Type) where
  appOrderGuid : String
  realizationGuid : String
  updatedAt : Option String
  version : Rat
  details : D

structure QueueAnswer (D : Type) where
  items : Option (List (QueueEntry D))
  bodyItems : Option (List (QueueEntry D))
  dataItems : Option (List (QueueEntry D))

def QueueAnswer.queue (answer : QueueAnswer D) : List (QueueEntry D) :=
  (answer.items.or (answer.bodyItems.or answer.dataItems)).getD []

def queueKey (item : QueueEntry D) : String :=
  JsString.toLowerCase (item.appOrderGuid ++ ":" ++ item.realizationGuid)

variable (settings : QueueSettings)

/-- A missing date, and one that cannot be read, is the start of 1970. -/
def itemTime (item : QueueEntry D) : Int := (parseDate settings item.updatedAt).getD 0

def latestItem (previous item : QueueEntry D) : QueueEntry D :=
  let previousTime := itemTime settings previous
  let itemTime := itemTime settings item
  if previousTime < itemTime ∨ (itemTime = previousTime ∧ previous.version ≤ item.version) then item
  else previous

def latestByRealization (items : List (QueueEntry D)) : List (String × QueueEntry D) :=
  gather Prod.fst queueKey (fun item => (queueKey item, item))
    (fun entry item => (entry.1, latestItem settings entry.2 item)) items

def latestItems (answer : QueueAnswer D) : List (QueueEntry D) :=
  (latestByRealization settings answer.queue).map Prod.snd

def workerConcurrency : Nat := min 8 settings.concurrency

def queueWorkers (answer : QueueAnswer D) : Nat :=
  min (max 1 (min 4 (workerConcurrency settings))) (latestItems settings answer).length

/-- The turns say how the workers interleave and which items fail. -/
def syncOnecQueue (answer : QueueAnswer D)
    (turns : List (Fin (queueWorkers settings answer) × Except String Unit)) :
    Pool (QueueEntry D) String (queueWorkers settings answer) :=
  run (turn (latestItems settings answer)) opened turns

end Model

section Purpose
variable {D : Type}

def SameRealization (a b : QueueEntry D) : Prop :=
  JsString.toLowerCase a.appOrderGuid = JsString.toLowerCase b.appOrderGuid ∧
    JsString.toLowerCase a.realizationGuid = JsString.toLowerCase b.realizationGuid

instance (a b : QueueEntry D) : Decidable (SameRealization a b) :=
  inferInstanceAs (Decidable (_ ∧ _))

def itemRank (settings : QueueSettings) (item : QueueEntry D) : Lex (Int × Rat) :=
  toLex (itemTime settings item, item.version)

/-- One item for each order and realization of the list, and that the greatest. -/
structure NewestOfEach (settings : QueueSettings) (items handed : List (QueueEntry D)) : Prop where
  one : handed.Pairwise (fun a b => ¬SameRealization a b)
  newest : ∀ item ∈ handed, item ∈ items ∧
    ∀ other ∈ items, SameRealization other item → itemRank settings other ≤ itemRank settings item
  each : ∀ item ∈ items, ∃ newest ∈ handed, SameRealization newest item

/-- The joined texts tell the orders and realizations of the list apart. -/
def TellsApart (items : List (QueueEntry D)) : Prop :=
  ∀ a ∈ items, ∀ b ∈ items, queueKey a = queueKey b → SameRealization a b

end Purpose

section Keys
variable {D : Type}

theorem toList_queueKey (item : QueueEntry D) :
    (queueKey item).toList = (JsString.toLowerCase item.appOrderGuid).toList ++
      ':' :: (JsString.toLowerCase item.realizationGuid).toList := by
  simp [queueKey, JsString.toLowerCase, String.toList_append]
  decide

theorem SameRealization.queueKey_eq {a b : QueueEntry D} (same : SameRealization a b) :
    queueKey a = queueKey b := by
  apply String.toList_inj.mp
  rw [toList_queueKey, toList_queueKey, same.1, same.2]

theorem append_colon_inj {before before' after after' : List Char} (absent : ':' ∉ after)
    (absent' : ':' ∉ after') (same : before ++ ':' :: after = before' ++ ':' :: after') :
    before = before' ∧ after = after' := by
  rcases List.append_eq_append_iff.mp same with ⟨gap, left, right⟩ | ⟨gap, left, right⟩
  · cases gap with
    | nil => simp_all
    | cons c rest =>
      rw [List.cons_append, List.cons.injEq] at right
      exact absurd (right.2 ▸ by simp) absent
  · cases gap with
    | nil => simp_all
    | cons c rest =>
      rw [List.cons_append, List.cons.injEq] at right
      exact absurd (right.2 ▸ by simp) absent'

theorem tellsApart_of_no_colon {items : List (QueueEntry D)}
    (plain : ∀ item ∈ items, ':' ∉ item.realizationGuid.toList) : TellsApart items := by
  intro a first b second same
  have absent : ∀ item ∈ items, ':' ∉ (JsString.toLowerCase item.realizationGuid).toList := by
    intro item member listed
    rw [JsString.toLowerCase, String.toList_ofList] at listed
    obtain ⟨c, here, lowered⟩ := List.mem_map.mp listed
    exact plain item member (JsString.lowerChar_colon lowered ▸ here)
  have joined := congrArg String.toList same
  rw [toList_queueKey, toList_queueKey] at joined
  obtain ⟨orders, realizations⟩ := append_colon_inj (absent a first) (absent b second) joined
  exact ⟨String.toList_inj.mp orders, String.toList_inj.mp realizations⟩

end Keys

section Newest
variable {D : Type} (settings : QueueSettings)

theorem latestItem_eq_newer (previous item : QueueEntry D) :
    latestItem settings previous item = newer (itemRank settings) previous item := by
  unfold latestItem newer itemRank
  apply if_congr _ rfl rfl
  rw [Prod.Lex.toLex_le_toLex, eq_comm]

theorem latestItems_eq_newestRows (answer : QueueAnswer D) :
    latestItems settings answer = newestRows queueKey (itemRank settings) answer.queue := by
  simp only [latestItems, latestByRealization, latestItem_eq_newer, newestRows, newestByKey]

theorem handed_latestItems {answer : QueueAnswer D}
    {turns : List (Fin (queueWorkers settings answer) × Except String Unit)}
    (ended : AllEnded (syncOnecQueue settings answer turns)) :
    (syncOnecQueue settings answer turns).handed =
      newestRows queueKey (itemRank settings) answer.queue := by
  rw [← latestItems_eq_newestRows]
  apply handed_of_allEnded _ ended
  intro given
  have some_left := List.length_pos_of_ne_nil given
  simp only [queueWorkers]
  omega

variable {settings} {items : List (QueueEntry D)}

theorem pairwise_newest (items : List (QueueEntry D)) :
    (newestRows queueKey (itemRank settings) items).Pairwise
      (fun a b => ¬SameRealization a b) := by
  have keys : ((newestRows queueKey (itemRank settings) items).map queueKey).Nodup :=
    nodup_newestRows items
  rw [List.Nodup, List.pairwise_map] at keys
  exact keys.imp fun different same => different same.queueKey_eq

theorem newestOfEach_iff (items : List (QueueEntry D)) :
    NewestOfEach settings items (newestRows queueKey (itemRank settings) items) ↔
      TellsApart items := by
  constructor
  · intro law a first b second same
    obtain ⟨newestA, memberA, sameA⟩ := law.each a first
    obtain ⟨newestB, memberB, sameB⟩ := law.each b second
    have keys : queueKey newestA = queueKey newestB :=
      sameA.queueKey_eq.trans (same.trans sameB.queueKey_eq.symm)
    have equal := newestRows_unique memberA memberB keys
    rw [equal] at sameA
    exact ⟨sameA.1.symm.trans sameB.1, sameA.2.symm.trans sameB.2⟩
  · intro apart
    refine ⟨pairwise_newest items, fun item member => ?_, fun item listed => ?_⟩
    · obtain ⟨listed, above⟩ := newest_of_mem member
      exact ⟨listed, fun other here same => above other here same.queueKey_eq⟩
    · obtain ⟨newest, member, same⟩ :
          ∃ newest ∈ newestRows queueKey (itemRank settings) items,
            queueKey newest = queueKey item := exists_newest listed
      exact ⟨newest, member, apart _ (newest_of_mem member).1 _ listed same⟩

end Newest

/-- What two answers with the same items in any order lead to: for each key an item of the same
rank, and the same items when no two different ones of a key are equal in date and version. -/
def SameUpToTies {D : Type} (settings : QueueSettings) (items handed handed' : List (QueueEntry D)) :
    Prop :=
  (∀ item ∈ handed, ∃ item' ∈ handed', queueKey item' = queueKey item ∧
    itemRank settings item' = itemRank settings item) ∧
  ((∀ a ∈ items, ∀ b ∈ items, queueKey a = queueKey b →
    itemRank settings a = itemRank settings b → a = b) → handed.Perm handed')

theorem sameUpToTies_of_perm {D : Type} {settings : QueueSettings} {items items' : List (QueueEntry D)}
    (perm : items.Perm items') :
    SameUpToTies settings items (newestRows queueKey (itemRank settings) items)
      (newestRows queueKey (itemRank settings) items') := by
  refine ⟨fun item member => ?_, fun tied => newestRows_perm perm tied⟩
  obtain ⟨item', member', same⟩ :
      ∃ newest ∈ newestRows queueKey (itemRank settings) items', queueKey newest = queueKey item :=
    exists_newest (perm.mem_iff.mp (newest_of_mem member).1)
  exact ⟨item', member', same, rank_of_perm perm.symm member' member same⟩

namespace Sample

def queueSettings : QueueSettings := ⟨180, 2, fun _ => none⟩

def queueEntry (order realization : String) (updatedAt : Option String) (version : Rat) :
    QueueEntry Unit := ⟨order, realization, updatedAt, version, ()⟩

def letterCases : List (QueueEntry Unit) :=
  [queueEntry "order-a" "realization-a" none 7,
    queueEntry "ORDER-A" "realization-A" (some "2026-08-01T10:00:00") 1,
    queueEntry "order-b" "realization-b" (some "soon") 1]

def queueAnswer (items : List (QueueEntry Unit)) : QueueAnswer Unit := ⟨none, some items, none⟩

end Sample

namespace Sample

def collision : List (QueueEntry Unit) :=
  [queueEntry "a:b" "c" none 1, queueEntry "a" "b:c" none 1]

/-- One realization with the empty date of 1C, and in an earlier version without a date. -/
def emptyDate : List (QueueEntry Unit) :=
  [queueEntry "a" "c" (some "0001-01-01T00:00:00") 2, queueEntry "a" "c" none 1]

def oneWorker :
    List (Fin (queueWorkers queueSettings (queueAnswer collision)) × Except String Unit) :=
  [((0 : Fin 1), .ok ()), ((0 : Fin 1), .ok ())]

def emptyDateTurns :
    List (Fin (queueWorkers queueSettings (queueAnswer emptyDate)) × Except String Unit) :=
  [((0 : Fin 1), .ok ()), ((0 : Fin 1), .ok ())]

end Sample

end LeaderProduct
