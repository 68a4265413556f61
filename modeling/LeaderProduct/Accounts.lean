import LeaderProduct.JsString
import LeaderProduct.RowTable

/-! The table of the users as far as the ways to log in need it. -/
namespace LeaderProduct
open RowTable

inductive MessengerProvider where
  | telegram | max
  deriving DecidableEq, Repr

inductive MessengerState where
  | ready | needPhone | needLink

inductive AuthProvider where
  | localLogin | telegram | max | hybrid
  deriving DecidableEq, Repr

inductive ProfileStatus where
  | pending | active | blocked
  deriving DecidableEq, Repr

structure Account where
  id : Nat
  email : Option String
  passwordHash : Option String
  isActive : Bool
  phone : Option Nat
  telegramId : Option Int
  maxId : Option Int
  authProvider : AuthProvider
  profileStatus : ProfileStatus

section Phone

def joinDigits (digits : List Nat) : Nat := digits.foldl (fun n digit => 10 * n + digit) 0

def normalizePhoneToDigits11 (input : String) : Option (List Nat) :=
  let digits := (input.toList.filter Char.isDigit).map (fun c => c.toNat - '0'.toNat)
  let longer := if digits.length = 10 then 7 :: digits else digits
  let normalized :=
    match longer with
    | 8 :: rest => if rest.length = 10 then 7 :: rest else longer
    | _ => longer
  if normalized.length = 11 ∧ normalized.head? = some 7 then some normalized else none

def normalizePhoneToBigInt (input : String) : Option Nat :=
  (normalizePhoneToDigits11 input).map joinDigits

def toApiPhoneString (phone : Nat) : Option (List Nat) := normalizePhoneToDigits11 (toString phone)

end Phone

section Provider

def givenString (value : Option String) : Bool := value.any (· ≠ "")

def givenId (value : Option Int) : Bool := value.any (· ≠ 0)

def givenPhone (value : Option Nat) : Bool := value.any (· ≠ 0)

def hasCredentials (user : Account) : Bool := givenString user.email && givenString user.passwordHash

def resolveAuthProvider (hasLocalCredentials hasTelegram hasMax : Bool) : AuthProvider :=
  if hasLocalCredentials then (if hasTelegram || hasMax then .hybrid else .localLogin)
  else if hasTelegram && hasMax then .hybrid
  else if hasTelegram then .telegram
  else if hasMax then .max
  else .localLogin

def resolveAuthProviderAfterMessengerAttach : AuthProvider → AuthProvider
  | .localLogin | .telegram | .max | .hybrid => .hybrid

end Provider

section Table

def Account.messengerId (user : Account) : MessengerProvider → Option Int
  | .telegram => user.telegramId
  | .max => user.maxId

def Account.setMessengerId (user : Account) (provider : MessengerProvider) (id : Option Int) :
    Account :=
  match provider with
  | .telegram => { user with telegramId := id }
  | .max => { user with maxId := id }

def sameValue {α : Type} [DecidableEq α] (a b : Option α) : Bool := a.any (fun value => b == some value)

def Account.clashes (a b : Account) : Bool :=
  a.id != b.id && (sameValue a.email b.email || sameValue a.phone b.phone ||
    sameValue a.telegramId b.telegramId || sameValue a.maxId b.maxId)

def findAccount (users : List Account) (id : Nat) : Option Account := lookup (·.id) users id

def hasEmail (email : String) (user : Account) : Bool :=
  user.email.any (fun own => JsString.toLowerCase own == JsString.toLowerCase email)

/-- `none` where the update throws: there is no such row, or a unique index is violated. -/
def updateAccount (users : List Account) (id : Nat) (change : Account → Account) :
    Option (List Account) :=
  match findAccount users id with
  | none => none
  | some user =>
    if users.any (fun other => other.clashes (change user)) then none
    else some (modify (·.id) users id change)

def createAccount (users : List Account) (user : Account) : Option (List Account) :=
  if users.any (fun other => other.id == user.id || other.clashes user) then none
  else some (users ++ [user])

end Table

end LeaderProduct
