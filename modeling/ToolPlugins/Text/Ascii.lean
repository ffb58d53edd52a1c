/-!
ASCII text: word characters, small letters, hexadecimal digits, and the UTF-8 length of a text. The
classes of core's `Char` (`isDigit`, `isUpper`, `isAlphanum`) know ASCII only, which is what is meant
wherever this library uses them.
-/

namespace ToolPlugins.Text

/-- A letter, digit or underscore. -/
def isWord (c : Char) : Bool := c.isAlphanum || c == '_'

/-- The text in small letters; characters outside ASCII are kept. -/
def lowered (s : String) : String := String.ofList (s.toList.map Char.toLower)

/-- The value of a decimal digit. -/
def digitValue (c : Char) : Nat := c.toNat - '0'.toNat

/-- The number that a list of decimal digits writes. -/
def decimalValue (digits : List Char) : Nat :=
  digits.foldl (fun n c => n * 10 + digitValue c) 0

/-- The value of a hexadecimal digit of either case. -/
def hexValue? (c : Char) : Option Nat :=
  if c.isDigit then some (digitValue c)
  else if 'a' ≤ c && c ≤ 'f' then some (c.toNat - 'a'.toNat + 10)
  else if 'A' ≤ c && c ≤ 'F' then some (c.toNat - 'A'.toNat + 10)
  else none

/-- A number below 256 as two hexadecimal digits, in small letters. -/
def hexByte (n : Nat) : List Char := [Nat.digitChar (n / 16), Nat.digitChar (n % 16)]

/-- The number of bytes of a text in UTF-8. -/
def utf8Length : List Char → Nat
  | [] => 0
  | c :: rest => c.utf8Size + utf8Length rest

/-- The bytes of a string in UTF-8. -/
def utf8Bytes (s : String) : List UInt8 := s.toUTF8.data.toList

/-- The bytes that pairs of hexadecimal digits stand for. -/
def bytesOfHex? : List Char → Option (List UInt8)
  | [] => some []
  | [_] => none
  | a :: b :: rest => do
    let hi ← hexValue? a
    let lo ← hexValue? b
    let more ← bytesOfHex? rest
    return UInt8.ofNat (hi * 16 + lo) :: more

end ToolPlugins.Text
