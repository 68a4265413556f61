import LeaderProduct.ContactCodes
import LeaderProduct.Order
import LeaderProduct.RowTable
import LeaderProduct.Transition

/-! The rows of the QR codes and the requests that write them. -/
namespace LeaderProduct
open CanonicalJson Transition

section Rows

inductive QRStatus where
  | active | paused | deleted
  deriving DecidableEq, Repr

structure QrRow where
  id : String
  createdById : Nat
  qrData : List Char
  qrType : QrType
  description : Option String
  status : QRStatus

structure QrDesk where
  rows : List QrRow

structure QrViewer where
  userId : Nat
  isAdmin : Bool

def QrViewer.mayUse (viewer : QrViewer) (row : QrRow) : Bool :=
  viewer.isAdmin || row.createdById == viewer.userId

structure QrError where
  status : Nat
  message : String

structure QrCodeUpdate where
  status : Option String
  description : Option String
  qrData : Option Value
  qrType : Option String

inductive QrCodeRequest where
  | create (viewer : QrViewer) (generatedId : String) (qrData : Option Value)
      (description qrType : Option String)
  | update (viewer : QrViewer) (id : String) (body : QrCodeUpdate)
  | delete (viewer : QrViewer) (id : String)
  | restore (viewer : QrViewer) (id : String)
  | scan (id : String)

end Rows

section Requests
variable (reader : JsonReader) (validator : Validators)

def qrTypeNamed : String → Option QrType
  | "PHONE" => some .phone
  | "LINK" => some .link
  | "EMAIL" => some .email
  | "TEXT" => some .text
  | "WHATSAPP" => some .whatsapp
  | "TELEGRAM" => some .telegram
  | "CONTACT" => some .contact
  | _ => none

def qrStatusNamed : String → Option QRStatus
  | "ACTIVE" => some .active
  | "PAUSED" => some .paused
  | "DELETED" => some .deleted
  | _ => none

def assertQrType (type : Option String) : Except QrError QrType :=
  match type.bind qrTypeNamed with
  | some type => .ok type
  | none => .error ⟨400, "Неверный тип qrType"⟩

def normalizedData (type : QrType) (qrData : Option Value) : Except QrError (List Char) :=
  match normalizeAndValidate reader validator type qrData with
  | .ok data => .ok data
  | .error message => .error ⟨400, message⟩

/-- The type of an update: an empty text is none. -/
def QrCodeUpdate.newType (body : QrCodeUpdate) : Except QrError (Option QrType) :=
  match body.qrType.filter (· ≠ "") with
  | none => .ok none
  | some type => (assertQrType (some type)).map some

def newData (type : QrType) (qrData : Option Value) : Except QrError (Option (List Char)) :=
  match qrData with
  | none => .ok none
  | some raw => (normalizedData reader validator type (some raw)).map some

namespace QrDesk
variable (s : QrDesk)

def findUnique (id : String) : Option QrRow := RowTable.lookup QrRow.id s.rows id

def ownRow (viewer : QrViewer) (id forbidden : String) : Except QrError QrRow :=
  match s.findUnique id with
  | none => .error ⟨404, "QR код не найден"⟩
  | some row => if viewer.mayUse row then .ok row else .error ⟨403, forbidden⟩

def write (id : String) (qrData : List Char) (qrType : QrType) (description : Option String)
    (status : QRStatus) : QrDesk :=
  { s with
    rows := RowTable.modify QrRow.id s.rows id fun row =>
      { row with qrData := qrData, qrType := qrType, description := description, status := status } }

def create (viewer : QrViewer) (generatedId : String) (qrData : Option Value)
    (description qrType : Option String) : Except QrError QrDesk := do
  match qrData with
  | none | some .null => .error ⟨400, "Поле qrData обязательно"⟩
  | some raw =>
    let type ← assertQrType qrType
    let data ← normalizedData reader validator type (some raw)
    match s.findUnique generatedId with
    | some _ => .error ⟨500, "Ошибка создания QR кода"⟩
    | none => .ok { s with
        rows := s.rows ++ [⟨generatedId, viewer.userId, data, type, description, .active⟩] }

def update (viewer : QrViewer) (id : String) (body : QrCodeUpdate) : Except QrError QrDesk := do
  let row ← s.ownRow viewer id "Нет прав для редактирования"
  let type ← QrCodeUpdate.newType body
  let data ← newData reader validator (type.getD row.qrType) body.qrData
  match body.status with
  | none => .ok (s.write id (data.getD row.qrData) (type.getD row.qrType)
      (body.description.or row.description) row.status)
  | some name =>
    match qrStatusNamed name with
    | none => .error ⟨500, "Ошибка обновления QR кода"⟩
    | some status => .ok (s.write id (data.getD row.qrData) (type.getD row.qrType)
        (body.description.or row.description) status)

def delete (viewer : QrViewer) (id : String) : Except QrError QrDesk := do
  let row ← s.ownRow viewer id "Нет прав для удаления"
  .ok (s.write id row.qrData row.qrType row.description .deleted)

def restore (viewer : QrViewer) (id : String) : Except QrError QrDesk := do
  let row ← s.ownRow viewer id "Нет прав для восстановления"
  if row.status ≠ .deleted then .error ⟨400, "QR код не был удален"⟩
  else .ok (s.write id row.qrData row.qrType row.description .active)

/-- The row of `QRAnalytic` that a scan leaves is left out. -/
def scan (id : String) : Except QrError QrDesk :=
  match (s.findUnique id).filter (fun row => row.status = .active) with
  | none => .error ⟨404, "QR код не найден или неактивен"⟩
  | some _ => .ok s

def handle : QrCodeRequest → Except QrError QrDesk
  | .create viewer generatedId qrData description qrType =>
    s.create reader validator viewer generatedId qrData description qrType
  | .update viewer id body => s.update reader validator viewer id body
  | .delete viewer id => s.delete viewer id
  | .restore viewer id => s.restore viewer id
  | .scan id => s.scan id

def step (request : QrCodeRequest) : QrDesk :=
  match s.handle reader validator request with
  | .ok after => after
  | .error _ => s

end QrDesk
end Requests

section Normalized
variable {reader : JsonReader} {validator : Validators}

def Resubmits (reader : JsonReader) (validator : Validators) (type : QrType) (data : List Char) :
    Prop :=
  normalizeAndValidate reader validator type (some (.string (String.ofList data))) = .ok data

theorem toStringData_ofList (data : List Char) :
    toStringData (some (.string (String.ofList data))) = data :=
  String.toList_ofList

variable {data : List Char}

theorem cleanedPhone_of_valid {type : QrType} (phone : type = .phone ∨ type = .whatsapp)
    (valid : validateQRData reader validator type data = none) : cleanedPhone data = data := by
  have shape : ∃ digits, data = '+' :: digits ∧ isDigits 5 11 digits = true := by
    rcases phone with rfl | rfl
    all_goals
      simp only [validateQRData] at valid
      split at valid
      · next digits =>
        split at valid
        · next digits_only => exact ⟨digits, rfl, digits_only⟩
        · cases valid
      · cases valid
  obtain ⟨digits, rfl, bounds⟩ := shape
  simp only [isDigits, Bool.and_eq_true, decide_eq_true_eq, List.all_eq_true] at bounds
  have kept : ('+' :: digits).filter (fun c => c.isDigit || c == '+') = '+' :: digits := by
    rw [List.filter_eq_self]
    intro c here
    rcases List.mem_cons.mp here with rfl | digit
    · decide
    · simp [bounds.2 c digit]
  have plus : ['+'].isPrefixOf ('+' :: digits) = true := by simp
  rw [cleanedPhone, kept, plus, if_pos rfl]
  apply List.take_of_length_le
  simp only [List.length_cons]
  omega

theorem withAt_withAt (data : List Char) : withAt (withAt data) = withAt data := by
  have at_first : ['@'].isPrefixOf (withAt data) = true := by
    unfold withAt
    split
    · assumption
    · simp
  rw [withAt, if_pos at_first]

theorem contactData_again {raw : List Char} (done : contactData reader raw = .ok data) :
    contactData reader data = .ok data := by
  have card : "BEGIN:VCARD".toList.isPrefixOf data = true := by
    unfold contactData at done
    split at done
    · next given =>
      cases done
      exact given
    · split at done
      · next written made =>
        cases done
        obtain ⟨contact, -, generated⟩ := Option.bind_eq_some_iff.mp made
        unfold generateVCard at generated
        split at generated
        · cases generated
        · obtain ⟨lines, -, rfl⟩ := Option.map_eq_some_iff.mp generated
          rfl
      · cases done
  rw [contactData, if_pos card]

theorem normalizeAndValidate_again {type : QrType} {raw : Option Value}
    (done : normalizeAndValidate reader validator type raw = .ok data) :
    Resubmits reader validator type data := by
  unfold Resubmits
  cases type with
  | contact =>
    rw [normalizeAndValidate, toStringData_ofList]
    exact contactData_again done
  | phone | whatsapp =>
    simp only [normalizeAndValidate] at done
    split at done
    · cases done
    · next valid =>
      cases done
      have same := cleanedPhone_of_valid (by simp) valid
      simp [normalizeAndValidate, toStringData_ofList, same, valid]
  | telegram =>
    simp only [normalizeAndValidate] at done
    split at done
    · cases done
    · next valid =>
      cases done
      simp [normalizeAndValidate, toStringData_ofList, withAt_withAt, valid]
  | link | email | text =>
    simp only [normalizeAndValidate] at done
    split at done
    · cases done
    · next valid =>
      cases done
      simp [normalizeAndValidate, toStringData_ofList, valid]

end Normalized

namespace QrDesk
variable {reader : JsonReader} {validator : Validators} {s after : QrDesk}

/-- Every stored row may be sent again as it is. -/
def AllResubmit (reader : JsonReader) (validator : Validators) (s : QrDesk) : Prop :=
  ∀ id row, s.findUnique id = some row → Resubmits reader validator row.qrType row.qrData

structure TypeAlone (s : QrDesk) (viewer : QrViewer) (id : String) (body : QrCodeUpdate) (row : QrRow)
    (type : QrType) : Prop where
  found : s.findUnique id = some row
  mine : viewer.mayUse row = true
  named : body.qrType.bind qrTypeNamed = some type
  noData : body.qrData.isNone = true
  status : ∀ name, body.status = some name → (qrStatusNamed name).isSome = true

/-- The data of a row is that of the new type too, where the type is changed alone. -/
def FitsNewType (reader : JsonReader) (validator : Validators) (s : QrDesk) : QrCodeRequest → Prop
  | .update viewer id body => ∀ row type, TypeAlone s viewer id body row type →
      Resubmits reader validator type row.qrData
  | _ => True

theorem findUnique_write (id other : String) (data : List Char) (type : QrType)
    (description : Option String) (status : QRStatus) :
    (s.write id data type description status).findUnique other =
      if other = id then (s.findUnique id).map fun row =>
        { row with qrData := data, qrType := type, description := description, status := status }
      else s.findUnique other := by
  refine RowTable.lookup_modify ?_ s.rows id other
  exact fun _ => rfl

variable {id : String} {row : QrRow} {viewer : QrViewer}

theorem allResubmit_write_iff (all : AllResubmit reader validator s)
    (found : s.findUnique id = some row) (data : List Char) (type : QrType)
    (description : Option String) (status : QRStatus) :
    AllResubmit reader validator (s.write id data type description status) ↔
      Resubmits reader validator type data := by
  constructor
  · intro after
    have written := findUnique_write (s := s) id id data type description status
    rw [if_pos rfl, found] at written
    exact after id _ written
  · intro fits other changed here
    rw [findUnique_write] at here
    split at here
    · rw [found] at here
      cases here
      exact fits
    · exact all other changed here

theorem ownRow_eq_ok {forbidden : String} :
    s.ownRow viewer id forbidden = .ok row ↔
      s.findUnique id = some row ∧ viewer.mayUse row = true := by
  unfold ownRow
  cases s.findUnique id with
  | none => simp
  | some known =>
    by_cases mine : viewer.mayUse known = true
    · simp [mine]
      rintro rfl
      exact mine
    · simp [mine]
      rintro rfl
      simpa using mine

theorem create_eq_ok {generatedId : String} {qrData : Option Value}
    {description qrType : Option String}
    (done : s.create reader validator viewer generatedId qrData description qrType = .ok after) :
    ∃ type data, Resubmits reader validator type data ∧ after = { s with
      rows := s.rows ++ [⟨generatedId, viewer.userId, data, type, description, .active⟩] } := by
  unfold create at done
  split at done
  · cases done
  · cases done
  · simp only [except_bind_ok] at done
    obtain ⟨type, -, data, normal, made⟩ := done
    unfold normalizedData at normal
    split at normal
    · next accepted =>
      cases normal
      split at made
      · cases made
      · cases made
        exact ⟨type, data, normalizeAndValidate_again accepted, rfl⟩
    · cases normal

theorem update_eq_ok {body : QrCodeUpdate}
    (done : s.update reader validator viewer id body = .ok after) :
    ∃ row data type description status, s.findUnique id = some row ∧
      after = s.write id data type description status ∧
      (Resubmits reader validator type data ∨ data = row.qrData ∧ type = row.qrType ∨
        data = row.qrData ∧ TypeAlone s viewer id body row type) := by
  simp only [update, except_bind_ok] at done
  obtain ⟨row, own, given, typed, sent, normal, done⟩ := done
  obtain ⟨found, mine⟩ := ownRow_eq_ok.mp own
  have written : ∃ description status, (∀ name, body.status = some name →
      (qrStatusNamed name).isSome = true) ∧ after =
        s.write id (sent.getD row.qrData) (given.getD row.qrType) description status := by
    split at done
    · next absent =>
      cases done
      exact ⟨_, _, by simp [absent], rfl⟩
    · next name named =>
      split at done
      · cases done
      · next status known =>
        cases done
        exact ⟨_, _, by simp [named, known], rfl⟩
  obtain ⟨description, status, accepted, rfl⟩ := written
  refine ⟨row, _, _, description, status, found, rfl, ?_⟩
  cases qr_data : body.qrData with
  | some raw =>
    left
    rw [qr_data] at normal
    simp only [newData, normalizedData] at normal
    split at normal
    · next same =>
      cases normal
      exact normalizeAndValidate_again same
    · cases normal
  | none =>
    rw [qr_data] at normal
    cases normal
    right
    unfold QrCodeUpdate.newType at typed
    split at typed
    · cases typed
      exact .inl ⟨rfl, rfl⟩
    · next type named =>
      unfold assertQrType at typed
      split at typed
      · next new known =>
        cases typed
        have here := (Option.filter_eq_some_iff.mp named).1
        exact .inr ⟨rfl, found, mine, by rw [here]; exact known, by rw [qr_data]; rfl, accepted⟩
      · cases typed

theorem update_typeAlone {body : QrCodeUpdate} {type : QrType}
    (alone : TypeAlone s viewer id body row type) :
    ∃ description status, s.update reader validator viewer id body =
      .ok (s.write id row.qrData type description status) := by
  have own : s.ownRow viewer id "Нет прав для редактирования" = .ok row :=
    ownRow_eq_ok.mpr ⟨alone.found, alone.mine⟩
  have typed : QrCodeUpdate.newType body = .ok (some type) := by
    obtain ⟨name, given, named⟩ := Option.bind_eq_some_iff.mp alone.named
    have filled : name ≠ "" := by
      rintro rfl
      cases named
    have kept : (some name).filter (fun type => decide (type ≠ "")) = some name := by
      simp [Option.filter, filled]
    rw [QrCodeUpdate.newType, given, kept]
    simp [assertQrType, named, Except.map]
  have unsent : newData reader validator type body.qrData = .ok none := by
    rw [Option.isNone_iff_eq_none.mp alone.noData]
    rfl
  cases given : body.status with
  | none =>
    refine ⟨body.description.or row.description, row.status, ?_⟩
    simp [update, own, typed, unsent, given, bind, Except.bind]
  | some name =>
    obtain ⟨status, named⟩ := Option.isSome_iff_exists.mp (alone.status name given)
    refine ⟨body.description.or row.description, status, ?_⟩
    simp [update, own, typed, unsent, given, named, bind, Except.bind]

theorem step_induction {I : QrDesk → Prop} (start : I s) {request : QrCodeRequest}
    (accepted : ∀ after, s.handle reader validator request = .ok after → I after) :
    I (s.step reader validator request) := by
  unfold step
  cases done : s.handle reader validator request with
  | error _ => exact start
  | ok after => exact accepted after done

theorem allResubmit_update_iff (all : AllResubmit reader validator s) (viewer : QrViewer)
    (id : String) (body : QrCodeUpdate) :
    AllResubmit reader validator (s.step reader validator (.update viewer id body)) ↔
      FitsNewType reader validator s (.update viewer id body) := by
  constructor
  · intro kept row type alone
    obtain ⟨description, status, done⟩ := update_typeAlone alone
    rw [step, handle, done] at kept
    exact (allResubmit_write_iff all alone.found _ _ _ _).mp kept
  · intro fits
    refine step_induction all ?_
    intro after done
    obtain ⟨row, data, type, description, status, found, rfl, how⟩ := update_eq_ok done
    rw [allResubmit_write_iff all found]
    rcases how with normal | ⟨rfl, rfl⟩ | ⟨rfl, alone⟩
    · exact normal
    · exact all id row found
    · exact fits row type alone

theorem allResubmit_keep (all : AllResubmit reader validator s) {forbidden : String}
    (own : s.ownRow viewer id forbidden = .ok row) (description : Option String)
    (status : QRStatus) :
    AllResubmit reader validator (s.write id row.qrData row.qrType description status) := by
  have found := (ownRow_eq_ok.mp own).1
  exact (allResubmit_write_iff all found _ _ _ _).mpr (all id row found)

theorem allResubmit_step_iff (all : AllResubmit reader validator s) (request : QrCodeRequest) :
    AllResubmit reader validator (s.step reader validator request) ↔
      FitsNewType reader validator s request := by
  cases request with
  | update viewer id body => exact allResubmit_update_iff all viewer id body
  | create viewer generatedId qrData description qrType =>
    refine iff_of_true (step_induction all ?_) trivial
    intro after done
    obtain ⟨type, data, normal, rfl⟩ := create_eq_ok done
    intro id row found
    rw [findUnique, RowTable.lookup_append] at found
    rcases Option.or_eq_some_iff.mp found with known | ⟨-, new⟩
    · exact all id row known
    · split at new
      · cases new
        exact normal
      · cases new
  | delete viewer id =>
    refine iff_of_true (step_induction all ?_) trivial
    intro after done
    simp only [handle, delete, except_bind_ok] at done
    obtain ⟨row, own, done⟩ := done
    cases done
    exact allResubmit_keep all own _ _
  | restore viewer id =>
    refine iff_of_true (step_induction all ?_) trivial
    intro after done
    simp only [handle, restore, except_bind_ok] at done
    obtain ⟨row, own, done⟩ := done
    split at done
    · cases done
    · cases done
      exact allResubmit_keep all own _ _
  | scan id =>
    refine iff_of_true (step_induction all ?_) trivial
    intro after done
    simp only [handle, scan] at done
    split at done
    · cases done
    · cases done
      exact all

/-- However codes are created, changed, deleted and restored: the data of every stored code may be
sent again as it is, and comes out unchanged, as long as no update gives a row another type alone
that its data is not normal for; and no longer. -/
theorem stored_data_resubmits_iff (reader : JsonReader) (validator : Validators)
    (requests : List QrCodeRequest) :
    Always (fun s request => s.step reader validator request) (AllResubmit reader validator)
        ⟨[]⟩ requests ↔
      EachStep (fun s request => s.step reader validator request)
        (FitsNewType reader validator) ⟨[]⟩ requests :=
  always_iff_eachStep (fun _ request all => allResubmit_step_iff all request)
    (fun id row found => by cases found) requests

end QrDesk

end LeaderProduct
