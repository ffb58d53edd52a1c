import ToolPlugins.Json.Scan

/-!
Passing over a JSON value whose content does not matter. Only the form of the value is checked: values
may stand in each other as deep as they like, numbers have no range, and the units of a string need
not pair up.
-/

namespace ToolPlugins.Json

/-- A skipper consumes a front part of the text and hands back the rest. -/
abbrev Skipper := List Char → Except Fault (List Char)

/-- What a skipper of strings is in the middle of: nothing, an escape after its backslash, or an escape
    with `left` hexadecimal digits to come. -/
inductive SkipState where
  | plain
  | escape
  | digits (left : Nat)
  deriving DecidableEq, Repr

/-- The text after a string whose opening quote was passed. -/
def skipChars : SkipState → Skipper
  | _, [] => .error (.here .endInString [])
  | .plain, c :: rest =>
    if c = '"' then .ok rest
    else if c = '\\' then skipChars .escape rest
    else if c.toNat < 0x20 then .error (.here .controlCharacter (c :: rest))
    else skipChars .plain rest
  | .escape, c :: rest =>
    if c = 'u' then skipChars (.digits 4) rest
    else if (escaped? c).isSome then skipChars .plain rest
    else .error (.next .invalidEscape (c :: rest))
  | .digits left, c :: rest =>
    if (Text.hexValue? c).isNone then .error (digitsFault left (c :: rest))
    else if 1 < left then skipChars (.digits (left - 1)) rest
    else skipChars .plain rest

/-- The text after one digit and all that follow it. -/
def skipDigits : Skipper := fun s =>
  match s with
  | [] => .error (.next .invalidNumber [])
  | c :: rest =>
    if c.isDigit then .ok (rest.dropWhile Char.isDigit) else .error (.next .invalidNumber s)

/-- The text after an exponent whose letter was passed. -/
def skipExponent : Skipper := fun s =>
  match s with
  | '+' :: rest => skipDigits rest
  | '-' :: rest => skipDigits rest
  | _ => skipDigits s

/-- The text after an exponent, if one stands here. -/
def skipExponent? : Skipper := fun s =>
  match s with
  | 'e' :: rest => skipExponent rest
  | 'E' :: rest => skipExponent rest
  | _ => .ok s

/-- The text after a number whose sign was passed. A zero has no digit after it. -/
def skipNumber : Skipper := fun s => do
  let rest ← skipDigits s
  if s.head? == some '0' && (s.drop 1).head?.any Char.isDigit then
    .error (.next .invalidNumber (s.drop 1))
  else match rest with
    | '.' :: rest => do
      let rest ← skipDigits rest
      skipExponent? rest
    | _ => skipExponent? rest

/-- The text after the items of a list from the first one on. `steps` bounds the number of items. -/
def skipItems (item : Skipper) : Nat → Skipper
  | 0 => fun s => .error (.here .endInList s)
  | steps + 1 => fun s => do
    let rest ← item s
    match skipSpace rest with
    | [] => .error (.here .endInList [])
    | c :: rest =>
      if c = ']' then .ok rest
      else if c = ',' then skipItems item steps rest
      else .error (.next .expectedListEnd (c :: rest))

/-- The text after a list whose opening bracket was passed. -/
def skipList (item : Skipper) : Skipper := fun s =>
  match skipSpace s with
  | [] => .error (.here .endInList [])
  | c :: rest => if c = ']' then .ok rest else skipItems item (c :: rest).length (c :: rest)

/-- The text after a key and its colon. -/
def skipKey : Skipper := fun s =>
  match skipSpace s with
  | [] => .error (.here .endInObject [])
  | c :: rest =>
    if c = '"' then do
      let rest ← skipChars .plain rest
      match skipSpace rest with
      | [] => .error (.here .endInObject [])
      | d :: rest => if d = ':' then .ok rest else .error (.next .expectedColon (d :: rest))
    else .error (.next .keyNotString (c :: rest))

/-- The text after the fields of an object from the first one on. `steps` bounds the number of
    fields. -/
def skipFields (item : Skipper) : Nat → Skipper
  | 0 => fun s => .error (.here .endInObject s)
  | steps + 1 => fun s => do
    let rest ← skipKey s
    let rest ← item rest
    match skipSpace rest with
    | [] => .error (.here .endInObject [])
    | c :: rest =>
      if c = '\x7d' then .ok rest
      else if c = ',' then skipFields item steps rest
      else .error (.next .expectedObjectEnd (c :: rest))

/-- The text after an object whose opening brace was passed. -/
def skipObject (item : Skipper) : Skipper := fun s =>
  match skipSpace s with
  | [] => .error (.here .endInObject [])
  | c :: rest => if c = '\x7d' then .ok rest else skipFields item (c :: rest).length (c :: rest)

/-- The text after a value that is neither array nor object. -/
def skipScalar : Skipper := fun s =>
  match s with
  | [] => .error (.here .endInValue [])
  | c :: rest =>
    if c = 'n' then readWord ['u', 'l', 'l'] rest
    else if c = 't' then readWord ['r', 'u', 'e'] rest
    else if c = 'f' then readWord ['a', 'l', 's', 'e'] rest
    else if c = '-' then skipNumber rest
    else if c.isDigit then skipNumber s
    else if c = '"' then skipChars .plain rest
    else .error (.next .expectedValue s)

/-- The text after a value in which arrays and objects stand at most `depth` deep, after blanks. -/
def skipNested : Nat → Skipper
  | 0 => fun s => skipScalar (skipSpace s)
  | depth + 1 => fun s =>
    match skipSpace s with
    | '[' :: rest => skipList (skipNested depth) rest
    | '\x7b' :: rest => skipObject (skipNested depth) rest
    | rest => skipScalar rest

/-- The text after a value. No value is deeper than its text is long. -/
def skipValue : Skipper := fun s => skipNested s.length s

end ToolPlugins.Json
