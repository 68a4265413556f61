/-! The string functions of the source language that the model needs. Letter case is
mapped for the Latin and the Cyrillic alphabet, the two that the application's texts
are written in; every other character is its own upper and lower case here. -/
namespace JsString

def isSpace (c : Char) : Bool :=
  let n := c.toNat
  (9 ≤ n && n ≤ 13) || n == 0x20 || n == 0xa0 || n == 0x1680 || (0x2000 ≤ n && n ≤ 0x200a) ||
    n == 0x2028 || n == 0x2029 || n == 0x202f || n == 0x205f || n == 0x3000 || n == 0xfeff

def lowerChar (c : Char) : Char :=
  let n := c.toNat
  if (0x41 ≤ n && n ≤ 0x5a) || (0x410 ≤ n && n ≤ 0x42f) then Char.ofNat (n + 0x20)
  else if 0x400 ≤ n && n ≤ 0x40f then Char.ofNat (n + 0x50)
  else c

def upperChar (c : Char) : Char :=
  let n := c.toNat
  if (0x61 ≤ n && n ≤ 0x7a) || (0x430 ≤ n && n ≤ 0x44f) then Char.ofNat (n - 0x20)
  else if 0x450 ≤ n && n ≤ 0x45f then Char.ofNat (n - 0x50)
  else c

def trim (s : String) : String :=
  String.ofList (((s.toList.dropWhile isSpace).reverse.dropWhile isSpace).reverse)

def toLowerCase (s : String) : String := String.ofList (s.toList.map lowerChar)

def toUpperCase (s : String) : String := String.ofList (s.toList.map upperChar)

/-- The length of a text in the source language. -/
def codeUnits (text : List Char) : Nat := text.length + text.countP fun c => 0x10000 ≤ c.toNat

def includesChars (text : List Char) : List Char → Bool
  | [] => text.isEmpty
  | c :: rest => text.isPrefixOf (c :: rest) || includesChars text rest

def includes (s text : String) : Bool := includesChars text.toList s.toList

def removeSpaces (s : String) : String := String.ofList (s.toList.filter (fun c => !isSpace c))

def readDigits (text : List Char) : Option Int :=
  let digits := text.takeWhile Char.isDigit
  if digits.isEmpty then none
  else some (digits.foldl (fun n c => 10 * n + (c.toNat - 48 : Nat)) 0)

def parseInt (text : String) : Option Int :=
  match text.toList.dropWhile isSpace with
  | '-' :: digits => (readDigits digits).map (- ·)
  | '+' :: digits => readDigits digits
  | digits => readDigits digits

def isFinite (n : Int) : Bool :=
  decide (n.natAbs < Nat.pow (Nat.pow 2 97) 10 * (Nat.pow 2 54 - 1))

end JsString
