import Mathlib.Data.List.Sort
import LeaderProduct.CounterpartyCard

/-! The sign-in of a MAX mini application: the parameters of its `initData`, the check of their
signature and of their age. -/
namespace LeaderProduct

section Utf8

structure Utf8Rest where
  point : Nat
  needed : Nat
  lower : Nat
  upper : Nat

inductive Utf8Read where
  | char (c : Char)
  | more (rest : Utf8Rest)
  | bad

def utf8Lead (byte : Nat) : Utf8Read :=
  if byte < 0x80 then .char (Char.ofNat byte)
  else if byte < 0xc2 then .bad
  else if byte < 0xe0 then .more ⟨byte - 0xc0, 1, 0x80, 0xbf⟩
  else if byte < 0xf0 then
    .more ⟨byte - 0xe0, 2, if byte = 0xe0 then 0xa0 else 0x80, if byte = 0xed then 0x9f else 0xbf⟩
  else if byte < 0xf5 then
    .more ⟨byte - 0xf0, 3, if byte = 0xf0 then 0x90 else 0x80, if byte = 0xf4 then 0x8f else 0xbf⟩
  else .bad

def utf8Next (rest : Utf8Rest) (byte : Nat) : Utf8Read :=
  if byte < rest.lower || rest.upper < byte then .bad
  else
    let point := rest.point * 64 + (byte - 0x80)
    if rest.needed = 1 then .char (Char.ofNat point)
    else .more ⟨point, rest.needed - 1, 0x80, 0xbf⟩

def replacementChar : Char := Char.ofNat 0xfffd

/-- The bytes as text, with a replacement for each piece that is none. -/
def utf8Decode : Option Utf8Rest → List Nat → List Char
  | none, [] => []
  | some _, [] => [replacementChar]
  | none, byte :: bytes =>
    match utf8Lead byte with
    | .char c => c :: utf8Decode none bytes
    | .more rest => utf8Decode (some rest) bytes
    | .bad => replacementChar :: utf8Decode none bytes
  | some rest, byte :: bytes =>
    match utf8Next rest byte with
    | .char c => c :: utf8Decode none bytes
    | .more rest => utf8Decode (some rest) bytes
    | .bad =>
      -- the byte is read again as the first of a character
      match utf8Lead byte with
      | .char c => replacementChar :: c :: utf8Decode none bytes
      | .more rest => replacementChar :: utf8Decode (some rest) bytes
      | .bad => replacementChar :: replacementChar :: utf8Decode none bytes

def utf8Encode (c : Char) : List Nat :=
  let n := c.toNat
  if n < 0x80 then [n]
  else if n < 0x800 then [0xc0 + n / 64, 0x80 + n % 64]
  else if n < 0x10000 then [0xe0 + n / 4096, 0x80 + n / 64 % 64, 0x80 + n % 64]
  else [0xf0 + n / 262144, 0x80 + n / 4096 % 64, 0x80 + n / 64 % 64, 0x80 + n % 64]

def hexDigit (c : Char) : Option Nat :=
  let n := c.toNat
  if 0x30 ≤ n && n ≤ 0x39 then some (n - 0x30)
  else if 0x41 ≤ n && n ≤ 0x46 then some (n - 0x37)
  else if 0x61 ≤ n && n ≤ 0x66 then some (n - 0x57)
  else none

def hexByte (high low : Char) : Option Nat := do
  return (← hexDigit high) * 16 + (← hexDigit low)

def decodeEscapes : Option Utf8Rest → List Char → Option (List Char)
  | none, [] => some []
  | some _, [] => none
  | pending, '%' :: high :: low :: text => do
    let byte ← hexByte high low
    match pending.elim (utf8Lead byte) (utf8Next · byte) with
    | .char c => return c :: (← decodeEscapes none text)
    | .more rest => decodeEscapes (some rest) text
    | .bad => none
  | none, c :: text => if c = '%' then none else return c :: (← decodeEscapes none text)
  | some _, _ :: _ => none

def decodeURIComponent (text : String) : Option String :=
  (decodeEscapes none text.toList).map String.ofList

def percentDecode : List Char → List Nat
  | [] => []
  | '%' :: high :: low :: text =>
    match hexByte high low with
    | some byte => byte :: percentDecode text
    | none => utf8Encode '%' ++ percentDecode (high :: low :: text)
  | c :: text => utf8Encode c ++ percentDecode text

def decodeFormText (text : List Char) : String :=
  String.ofList (utf8Decode none (percentDecode (text.map (fun c => if c = '+' then ' ' else c))))

abbrev SearchParams := List (String × String)

def parseSearchParams (text : String) : SearchParams :=
  let chars := match text.toList with
    | '?' :: rest => rest
    | chars => chars
  ((chars.splitOn '&').filter (fun part => !part.isEmpty)).map (fun part =>
    (decodeFormText (part.takeWhile (· != '=')),
      decodeFormText ((part.dropWhile (· != '=')).drop 1)))

def SearchParams.get (params : SearchParams) (key : String) : Option String :=
  (params.find? (fun entry => entry.1 == key)).map (·.2)

def SearchParams.has (params : SearchParams) (key : String) : Bool :=
  params.any (fun entry => entry.1 == key)

def SearchParams.delete (params : SearchParams) (key : String) : SearchParams :=
  params.filter (fun entry => entry.1 != key)

/-- `String(params.get(key) || '').trim()`. -/
def SearchParams.text (params : SearchParams) (key : String) : String :=
  JsString.trim ((params.get key).getD "")

end Utf8

section Verify

structure MaxUserInfo where
  id : String
  username : Option String
  firstName : Option String
  lastName : Option String
  deriving DecidableEq, Repr

inductive HmacKey where
  | text (key : String)
  | bytes (key : List UInt8)
  deriving DecidableEq, Repr

structure MaxEnvironment where
  js : JsConversions
  localeCompare : String → String → Int
  hmacSha256 : HmacKey → String → List UInt8
  maxBotToken : String

def maxInitDataMaxAgeSec : Int := 24 * 60 * 60

def normalizeInitDataRaw (initDataRaw : String) : Except String SearchParams :=
  let raw := JsString.trim initDataRaw
  if raw = "" then .error "MAX initData is missing"
  else
    let candidates := raw :: (decodeURIComponent raw).toList
    let usable (parsed : SearchParams) : Bool := parsed.length > 1 ||
      (parsed.has "signature" || parsed.has "hash" || parsed.has "user")
    match (candidates.map parseSearchParams).find? usable with
    | some parsed => .ok parsed
    | none => .error "MAX initData is invalid"

/-- An empty signature counts as none, like an empty text everywhere in `a || b`. -/
def extractSignature (params : SearchParams) : Except String String :=
  let own := ((params.get "signature").filter (· ≠ "")).or (params.get "hash")
  let signature := JsString.trim (own.getD "")
  if signature = "" then .error "MAX initData signature is missing" else .ok signature

def memberOf (user : Json) (key : String) : Option Json :=
  match user with
  | .object entries => (entries.find? (fun entry => entry.1 == key)).map (·.2)
  | _ => none

def notNull : Option Json → Option Json
  | some .null => none
  | found => found

def safeString (found : Option Json) : Option String :=
  match found with
  | some (.string text) =>
    let trimmed := JsString.trim text
    if trimmed = "" then none else some trimmed
  | _ => none

def decodeUserId (js : JsConversions) (user : Json) : Except String String :=
  match (notNull (memberOf user "user_id")).or (notNull (memberOf user "id")) with
  | none => .error "MAX user id is missing"
  | some userId => .ok (js.stringOf userId)

/-- The user of the parameters, from the text of their `user`. -/
def readMaxUser (js : JsConversions) (userRaw : String) : Except String MaxUserInfo :=
  if userRaw = "" then .error "MAX user is missing in initData"
  else
    match js.parse userRaw with
    | none => .error "MAX user payload is invalid"
    | some user => do
      let id ← decodeUserId js user
      return {
        id := id
        username := safeString (memberOf user "username")
        firstName := (safeString (memberOf user "first_name")).or (safeString (memberOf user "name"))
        lastName := safeString (memberOf user "last_name") }

variable (env : MaxEnvironment)

/-- The date that the parameters state, when it is a positive number. -/
def statedAuthDate (js : JsConversions) (params : SearchParams) : Option Rat :=
  (js.numberOf (params.text "auth_date")).filter (fun authDateSec =>
    params.text "auth_date" ≠ "" && decide (0 < authDateSec))

def dataCheckString (params : SearchParams) : String :=
  let signed := (params.delete "signature").delete "hash"
  "\n".intercalate ((signed.insertionSort (fun a b => env.localeCompare a.1 b.1 ≤ 0)).map
    (fun entry => entry.1 ++ "=" ++ entry.2))

def hexOf (bytes : List UInt8) : String :=
  let digit (n : Nat) : Char := Char.ofNat (if n < 10 then 0x30 + n else 0x57 + n)
  String.ofList (bytes.flatMap (fun byte => [digit (byte.toNat / 16), digit (byte.toNat % 16)]))

def base64UrlDigit (n : Nat) : Char :=
  if n < 26 then Char.ofNat (0x41 + n)
  else if n < 52 then Char.ofNat (0x61 + (n - 26))
  else if n < 62 then Char.ofNat (0x30 + (n - 52))
  else if n = 62 then '-' else '_'

def base64UrlOf : List UInt8 → List Char
  | [] => []
  | [a] => [base64UrlDigit (a.toNat / 4), base64UrlDigit (a.toNat % 4 * 16)]
  | [a, b] => [base64UrlDigit (a.toNat / 4), base64UrlDigit (a.toNat % 4 * 16 + b.toNat / 16),
      base64UrlDigit (b.toNat % 16 * 4)]
  | a :: b :: c :: rest =>
    [base64UrlDigit (a.toNat / 4), base64UrlDigit (a.toNat % 4 * 16 + b.toNat / 16),
      base64UrlDigit (b.toNat % 16 * 4 + c.toNat / 64), base64UrlDigit (c.toNat % 64)] ++
      base64UrlOf rest

def signatureMatches (botToken signature dataCheckString : String) : Bool :=
  let secretKey := env.hmacSha256 (.text "WebAppData") botToken
  let signatureDigest := env.hmacSha256 (.bytes secretKey) dataCheckString
  let actualSignature := JsString.trim signature
  JsString.toLowerCase actualSignature == hexOf signatureDigest ||
    actualSignature == String.ofList (base64UrlOf signatureDigest)

/-- `now` is the clock in milliseconds. -/
def verifyMaxInitData (initDataRaw : String) (now : Int) : Except String MaxUserInfo := do
  let botToken := JsString.trim env.maxBotToken
  if botToken = "" then throw "MAX bot token is not configured"
  let params ← normalizeInitDataRaw initDataRaw
  let signature ← extractSignature params
  if let some authDateSec := statedAuthDate env.js params then
    if (maxInitDataMaxAgeSec : Rat) < (now / 1000 : Int) - authDateSec then
      throw "MAX initData is expired"
  if !signatureMatches env botToken signature (dataCheckString env params) then
    throw "MAX initData signature mismatch"
  readMaxUser env.js (((params.delete "signature").delete "hash").text "user")

end Verify

end LeaderProduct
