import ToolPlugins.Decimal.Shortest
import ToolPlugins.Json.Basic
import ToolPlugins.Text.Ascii

/-!
The compact text of a JSON value: no blanks, only the escapes that JSON asks for, and doubles by their
shortest digits.
-/

namespace ToolPlugins.Json

/-- A character inside a string literal. Quotes, backslashes and control characters are escaped. -/
def escapeChar (c : Char) : List Char :=
  if c = '"' then ['\\', '"']
  else if c = '\\' then ['\\', '\\']
  else if c = '\x08' then ['\\', 'b']
  else if c = '\x0c' then ['\\', 'f']
  else if c = '\n' then ['\\', 'n']
  else if c = '\x0d' then ['\\', 'r']
  else if c = '\t' then ['\\', 't']
  else if c.toNat < 0x20 then '\\' :: 'u' :: '0' :: '0' :: Text.hexByte c.toNat
  else [c]

def renderString (s : List Char) : List Char :=
  '"' :: s.flatMap escapeChar ++ ['"']

/-- The decimal digits of a natural number. -/
def renderNat (n : Nat) : List Char := Nat.toDigits 10 n

def renderInt (n : Int) : List Char :=
  if n < 0 then '-' :: renderNat n.natAbs else renderNat n.natAbs

/-- A positive decimal, with at least one digit after the point when its leading digit stands between
    `10 ^ -5` and `10 ^ 15`, and with an exponent otherwise. -/
def renderScientific (s : Decimal.Scientific) : List Char :=
  let digits := renderNat s.digits
  let point : Int := digits.length + s.exponent
  if -5 < point && point ≤ 16 then
    if 0 ≤ s.exponent then
      digits ++ List.replicate s.exponent.toNat '0' ++ ['.', '0']
    else if 0 < point then
      digits.take point.toNat ++ '.' :: digits.drop point.toNat
    else
      '0' :: '.' :: List.replicate (-point).toNat '0' ++ digits
  else
    let mantissa := match digits with
      | [] => []
      | [d] => [d]
      | d :: rest => d :: '.' :: rest
    let exponent := point - 1
    mantissa ++ 'e' :: (if exponent < 0 then '-' else '+') :: renderNat exponent.natAbs

def renderFloat (x : Float) : List Char :=
  let m := Decimal.Magnitude.ofFloat x
  let body := if m.mantissa = 0 then ['0', '.', '0'] else renderScientific (Decimal.shortest m)
  if Decimal.isNegative x then '-' :: body else body

def Number.render : Number → List Char
  | .integer n => renderInt n
  | .real x => renderFloat x

mutual

/-- The compact text of a value. -/
def render : Json → List Char
  | .null => ['n', 'u', 'l', 'l']
  | .bool true => ['t', 'r', 'u', 'e']
  | .bool false => ['f', 'a', 'l', 's', 'e']
  | .number n => n.render
  | .string s => renderString s.toList
  | .array items => '[' :: renderItems items ++ [']']
  | .object fields => '\x7b' :: renderFields fields ++ ['\x7d']

/-- Items, with commas between them. -/
def renderItems : List Json → List Char
  | [] => []
  | [item] => render item
  | item :: rest => render item ++ ',' :: renderItems rest

/-- Fields, with commas between them. -/
def renderFields : List (String × Json) → List Char
  | [] => []
  | [(key, value)] => renderString key.toList ++ ':' :: render value
  | (key, value) :: rest => renderString key.toList ++ ':' :: render value ++ ',' :: renderFields rest

end

/-- The compact text of a value, as a string. -/
def text (value : Json) : String := String.ofList value.render

end ToolPlugins.Json
