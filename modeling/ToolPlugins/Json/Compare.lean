import ToolPlugins.Decimal.Shortest
import ToolPlugins.Json.Basic

/-!
Numbers compared by what they are worth, and values compared up to the spelling of their numbers.
-/

namespace ToolPlugins.Json

/-- The double nearest to an integer of at most 64 bits. -/
def floatOfInt (n : Int) : Float :=
  let x := (UInt64.ofNat n.natAbs).toFloat
  if n < 0 then -x else x

/-- The double nearest to a number. -/
def Number.toFloat : Number → Float
  | .integer n => floatOfInt n
  | .real x => x

/-- A number as a sign, a numerator and a denominator. -/
def Number.fraction : Number → Int × Nat
  | .integer n => (n, 1)
  | .real x =>
    let m := Decimal.Magnitude.ofFloat x
    let r := Decimal.Ratio.scaled m.mantissa 2 m.exponent
    (if Decimal.isNegative x then -(r.num : Int) else r.num, r.den)

/-- Whether a number is less than another. -/
def Number.lt (a b : Number) : Bool :=
  let (n, d) := a.fraction
  let (m, e) := b.fraction
  decide (n * e < m * d)

/-- Whether a number has no fraction. -/
def Number.isWhole (a : Number) : Bool :=
  let (n, d) := a.fraction
  n % d == 0

/-- Whether two numbers are worth the same. -/
def Number.same (a b : Number) : Bool :=
  let (n, d) := a.fraction
  let (m, e) := b.fraction
  decide (n * e = m * d)

mutual

/-- Whether two values are the same up to the spelling of their numbers. -/
def same : Json → Json → Bool
  | .null, .null => true
  | .bool a, .bool b => a == b
  | .number a, .number b => a.same b
  | .string a, .string b => a == b
  | .array as, .array bs => sameItems as bs
  | .object as, .object bs => sameFields as bs
  | _, _ => false

/-- `same`, item by item. -/
def sameItems : List Json → List Json → Bool
  | [], [] => true
  | a :: as, b :: bs => same a b && sameItems as bs
  | _, _ => false

/-- `same`, field by field; fields stand in the order of their keys. -/
def sameFields : List (String × Json) → List (String × Json) → Bool
  | [], [] => true
  | (k, a) :: as, (l, b) :: bs => k == l && same a b && sameFields as bs
  | _, _ => false

end

/-- Whether no two items of a list are the same. -/
def allDistinct : List Json → Bool
  | [] => true
  | item :: rest => !rest.any (same item) && allDistinct rest

/-- Whether a value is the same as an expected one, numbers being taken as equal when their nearest
    doubles differ by less than `2 ^ -52`. -/
def equals (expected value : Json) : Bool :=
  match expected, value with
  | .number a, .number b => (a.toFloat - b.toFloat).abs < Float.ofScientific 22204460492503131 true 32
  | _, _ => same expected value

end ToolPlugins.Json
