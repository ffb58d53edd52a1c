import ToolPlugins.Json.Basic
import ToolPlugins.Json.Fault

/-!
Readers of the parts of a JSON text that hold no other values: blanks, the three words, strings and
numbers. Each consumes the longest text it can and stops at the first fault.
-/

namespace ToolPlugins.Json

/-- The blanks of JSON: space, tab, line feed and carriage return. -/
def isSpace (c : Char) : Bool := c == ' ' || c == '\t' || c == '\n' || c == '\x0d'

/-- The text after its leading blanks. -/
def skipSpace (s : List Char) : List Char := s.dropWhile isSpace

/-- The text after the letters of a word, each of which has to be there. -/
def readWord : List Char → List Char → Except Fault (List Char)
  | [], rest => .ok rest
  | _ :: _, [] => .error (.here .endInValue [])
  | letter :: letters, c :: rest =>
    if c = letter then readWord letters rest else .error (.next .expectedIdent (c :: rest))

/-! ### Strings -/

/-- The character that a one-letter escape stands for. -/
def escaped? : Char → Option Char
  | '"' => some '"'
  | '\\' => some '\\'
  | '/' => some '/'
  | 'b' => some '\x08'
  | 'f' => some '\x0c'
  | 'n' => some '\n'
  | 'r' => some '\x0d'
  | 't' => some '\t'
  | _ => none

/-- What a string reader is in the middle of: nothing, an escape after its backslash, an escape with
    `left` hexadecimal digits to come, or the second half of a surrogate pair before its backslash and
    before its `u`. `lead` is the first half of a pair. -/
inductive StringState where
  | plain
  | escape
  | digits (left value : Nat) (lead : Option Nat)
  | pair (lead : Nat)
  | pairEscape (lead : Nat)
  deriving DecidableEq, Repr

/-- The character of a code unit, which follows the first half of a surrogate pair if `lead` is given;
    without one, a first half leads on to the next escape. -/
def unitStep (unit : Nat) (lead : Option Nat) : Except Problem (StringState × Option Char) :=
  match lead with
  | none =>
    if 0xDC00 ≤ unit && unit ≤ 0xDFFF then .error .loneSurrogate
    else if 0xD800 ≤ unit && unit ≤ 0xDBFF then .ok (.pair unit, none)
    else .ok (.plain, some (Char.ofNat unit))
  | some high =>
    if 0xDC00 ≤ unit && unit ≤ 0xDFFF then
      .ok (.plain, some (Char.ofNat ((high - 0xD800) * 1024 + (unit - 0xDC00) + 0x10000)))
    else .error .loneSurrogate

/-- The fault of a four-digit escape that stops before `rest` with `left` digits missing: the text is
    too short for them, or holds something else in their place. -/
def digitsFault (left : Nat) (rest : List Char) : Fault :=
  if Text.utf8Length rest < left then .here .endInString [] else ⟨.invalidEscape, rest, left⟩

/-- The characters of a string up to its closing quote. -/
def readChars : StringState → Reader (List Char)
  | _, [] => .error (.here .endInString [])
  | .plain, c :: rest =>
    if c = '"' then .ok ([], rest)
    else if c = '\\' then readChars .escape rest
    else if c.toNat < 0x20 then .error (.here .controlCharacter rest)
    else (readChars .plain rest).map fun (chars, rest) => (c :: chars, rest)
  | .escape, c :: rest =>
    if c = 'u' then readChars (.digits 4 0 none) rest
    else match escaped? c with
      | some e => (readChars .plain rest).map fun (chars, rest) => (e :: chars, rest)
      | none => .error (.next .invalidEscape (c :: rest))
  | .digits left value lead, c :: rest =>
    match Text.hexValue? c with
    | none => .error (digitsFault left (c :: rest))
    | some digit =>
      if 1 < left then readChars (.digits (left - 1) (value * 16 + digit) lead) rest
      else match unitStep (value * 16 + digit) lead with
        | .error problem => .error (.here problem rest)
        | .ok (state, none) => readChars state rest
        | .ok (state, some e) => (readChars state rest).map fun (chars, rest) => (e :: chars, rest)
  | .pair lead, c :: rest =>
    if c = '\\' then readChars (.pairEscape lead) rest
    else .error (.next .endInHexEscape (c :: rest))
  | .pairEscape lead, c :: rest =>
    if c = 'u' then readChars (.digits 4 0 (some lead)) rest
    else .error (.next .endInHexEscape (c :: rest))

/-- A string after its opening quote. -/
def readString : Reader String := fun s =>
  (readChars .plain s).map fun (chars, rest) => (String.ofList chars, rest)

/-! ### Numbers -/

/-- The greatest integer that a number keeps exactly. -/
def maxInteger : Nat := Nat.pow 2 64 - 1

/-- Takes digits into a significand as long as it stays within `maxInteger`; gives it with the number
    of digits taken. -/
def absorb (significand : Nat) : List Char → Nat × Nat
  | [] => (significand, 0)
  | c :: rest =>
    let next := significand * 10 + Text.digitValue c
    if next ≤ maxInteger then
      let (value, count) := absorb next rest
      (value, count + 1)
    else (significand, 0)

/-- The double nearest to a power of ten. -/
def powerOfTen (n : Nat) : Float := Float.ofScientific 1 false n

/-- `x / 10 ^ n`, in steps of at most 308. -/
def divideByPower (x : Float) (n : Nat) : Float :=
  if n ≤ 308 then x / powerOfTen n
  else if x == 0 then x
  else divideByPower (x / powerOfTen 308) (n - 308)
termination_by n

/-- The double read from a significand and a decimal exponent: the significand is rounded first, then
    multiplied or divided by a power of ten. Nothing when the number is out of range. -/
def scale? (significand : Nat) (exponent : Int) : Option Float :=
  let x := (UInt64.ofNat significand).toFloat
  if exponent < 0 then some (divideByPower x (-exponent).toNat)
  else if exponent ≤ 308 then
    let y := x * powerOfTen exponent.toNat
    if y.isInf then none else some y
  else if x == 0 then some x
  else none

/-- A double with its sign. -/
def signed (negative : Bool) (x : Float) : Number := .real (if negative then -x else x)

/-- The number of a significand and an exponent, at the end of its text. -/
def finishReal (negative : Bool) (significand : Nat) (exponent : Int) : Reader Number := fun rest =>
  match scale? significand exponent with
  | some x => .ok (signed negative x, rest)
  | none => .error (.here .numberOutOfRange rest)

/-- The greatest exponent that is counted. -/
def maxExponent : Nat := Nat.pow 2 31 - 1

/-- The exponent of a number after its `e`. One above `maxExponent` makes zero of a zero or of a
    negative exponent, and is out of range otherwise. -/
def readExponent (negative : Bool) (significand : Nat) (start : Int) : Reader Number := fun s =>
  let (down, s) : Bool × List Char := match s with
    | '+' :: rest => (false, rest)
    | '-' :: rest => (true, rest)
    | rest => (false, rest)
  match s with
  | [] => .error (.here .endInValue [])
  | c :: _ =>
    if c.isDigit then
      let digits := s.takeWhile Char.isDigit
      let rest := s.dropWhile Char.isDigit
      let exponent := Text.decimalValue digits
      if exponent ≤ maxExponent then
        finishReal negative significand (if down then start - exponent else start + exponent) rest
      else if significand ≠ 0 && !down then
        let counted := (List.range digits.length).find? fun n =>
          maxExponent < Text.decimalValue (digits.take (n + 1))
        .error (.here .numberOutOfRange (s.drop ((counted.getD 0) + 1)))
      else .ok (signed negative 0, rest)
    else .error (.next .invalidNumber s)

/-- The fraction of a number after its point. -/
def readFraction (negative : Bool) (significand : Nat) (exponent : Int) : Reader Number := fun s =>
  match s with
  | [] => .error (.here .endInValue [])
  | c :: _ =>
    if c.isDigit then
      let digits := s.takeWhile Char.isDigit
      let rest := s.dropWhile Char.isDigit
      let (value, count) := absorb significand digits
      match rest with
      | 'e' :: more => readExponent negative value (exponent - count) more
      | 'E' :: more => readExponent negative value (exponent - count) more
      | _ => finishReal negative value (exponent - count) rest
    else .error (.next .invalidNumber s)

/-- What follows the whole digits of a number: a fraction, an exponent, or the number's end. -/
def readTail (negative : Bool) (digits : List Char) : Reader Number := fun s =>
  let (value, count) := absorb 0 digits
  let dropped := digits.length - count
  match s with
  | '.' :: rest => readFraction negative value dropped rest
  | 'e' :: rest => readExponent negative value dropped rest
  | 'E' :: rest => readExponent negative value dropped rest
  | _ =>
    if dropped ≠ 0 then finishReal negative value dropped s
    else if !negative then .ok (.integer value, s)
    else if value = 0 || Nat.pow 2 63 < value then .ok (signed true (UInt64.ofNat value).toFloat, s)
    else .ok (.integer (-value), s)

/-- A number after its sign. A zero has no digit after it. -/
def readNumber (negative : Bool) : Reader Number := fun s =>
  match s with
  | [] => .error (.here .endInValue [])
  | c :: rest =>
    if c = '0' then
      match rest with
      | d :: _ =>
        if d.isDigit then .error (.next .invalidNumber rest) else readTail negative ['0'] rest
      | [] => readTail negative ['0'] []
    else if c.isDigit then
      readTail negative (s.takeWhile Char.isDigit) (s.dropWhile Char.isDigit)
    else .error (.next .invalidNumber s)

end ToolPlugins.Json
