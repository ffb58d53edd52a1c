/-!
The shortest decimal that reads back as a given double. A finite double is `mantissa * 2 ^ exponent`;
the reals that round to it form an interval around it, with its ends when the mantissa is even. The
decimals of 1, 2, … 17 digits are tried in turn, in exact arithmetic: on each grid only the two
neighbours of the value can lie in the interval, and the first grid with a hit wins.
-/

namespace ToolPlugins.Decimal

/-- The magnitude `mantissa * 2 ^ exponent` of a finite double. -/
structure Magnitude where
  mantissa : Nat
  exponent : Int
  deriving DecidableEq, Repr

/-- The magnitude of a finite double, from its bits. -/
def Magnitude.ofFloat (x : Float) : Magnitude :=
  let bits := x.toBits.toNat
  let biased : Nat := bits / Nat.pow 2 52 % Nat.pow 2 11
  let fraction : Nat := bits % Nat.pow 2 52
  if biased = 0 then ⟨fraction, -1074⟩ else ⟨fraction + Nat.pow 2 52, (biased : Int) - 1075⟩

/-- Whether the sign bit of a double is set. -/
def isNegative (x : Float) : Bool := x.toBits.toNat / Nat.pow 2 63 == 1

/-- `digits * 10 ^ exponent`. -/
structure Scientific where
  digits : Nat
  exponent : Int
  deriving DecidableEq, Repr

/-- A number as a fraction of naturals; the denominator is positive wherever one is built here. -/
structure Ratio where
  num : Nat
  den : Nat

/-- `n * base ^ exponent` as a fraction. -/
def Ratio.scaled (n base : Nat) (exponent : Int) : Ratio :=
  if 0 ≤ exponent then ⟨n * Nat.pow base exponent.toNat, 1⟩ else ⟨n, Nat.pow base (-exponent).toNat⟩

def Ratio.le (a b : Ratio) : Bool := a.num * b.den ≤ b.num * a.den

def Ratio.lt (a b : Ratio) : Bool := a.num * b.den < b.num * a.den

def Ratio.distance (a b : Ratio) : Ratio :=
  let x := a.num * b.den
  let y := b.num * a.den
  ⟨if x ≤ y then y - x else x - y, a.den * b.den⟩

/-- The greatest `p ≤ limit` with `10 ^ p ≤ num / den`, for a fraction of at least one. -/
def wholeExponent (num den : Nat) : Nat → Nat
  | 0 => 0
  | limit + 1 =>
    if Nat.pow 10 (limit + 1) * den ≤ num then limit + 1 else wholeExponent num den limit

/-- The least `j ≥ start` with `1 ≤ num / den * 10 ^ j`, tried `steps` times. -/
def fractionExponent (num den start : Nat) : Nat → Nat
  | 0 => start
  | steps + 1 =>
    if den ≤ num * Nat.pow 10 start then start else fractionExponent num den (start + 1) steps

/-- The exponent of the leading decimal digit of a positive fraction within the range of doubles. -/
def leadingExponent (r : Ratio) : Int :=
  if r.den ≤ r.num then wholeExponent r.num r.den 309 else -(fractionExponent r.num r.den 1 330 : Int)

/-- The reals that round to a magnitude: their least and greatest, and whether these belong. -/
structure Interval where
  low : Ratio
  high : Ratio
  closed : Bool

/-- The interval of a magnitude. Below a power of two the doubles lie twice as dense. -/
def Magnitude.interval (m : Magnitude) : Interval :=
  let below := if m.mantissa = Nat.pow 2 52 && decide (-1074 < m.exponent) then 1 else 2
  { low := .scaled (4 * m.mantissa - below) 2 (m.exponent - 2)
    high := .scaled (4 * m.mantissa + 2) 2 (m.exponent - 2)
    closed := m.mantissa % 2 == 0 }

/-- Whether a fraction rounds to the magnitude of the interval. -/
def Interval.holds (i : Interval) (r : Ratio) : Bool :=
  if i.closed then i.low.le r && r.le i.high else i.low.lt r && r.lt i.high

/-- The point of the grid `10 ^ exponent` that lies in the interval and is nearest to `value`; of two
    at one distance the even one. -/
def gridPoint? (value : Ratio) (i : Interval) (exponent : Int) : Option Nat :=
  let unit := Ratio.scaled 1 10 exponent
  let lower := value.num * unit.den / (value.den * unit.num)
  let point (n : Nat) : Ratio := .scaled n 10 exponent
  match i.holds (point lower), i.holds (point (lower + 1)) with
  | true, false => some lower
  | false, true => some (lower + 1)
  | false, false => none
  | true, true =>
    let down := value.distance (point lower)
    let up := value.distance (point (lower + 1))
    if down.lt up then some lower
    else if up.lt down then some (lower + 1)
    else some (if lower % 2 = 0 then lower else lower + 1)

/-- The first hit on the grids of `count`, `count + 1`, … digits, `steps` grids in all. -/
def firstHit (value : Ratio) (i : Interval) (lead : Int) (count : Nat) : Nat → Scientific
  | 0 => ⟨0, 0⟩
  | steps + 1 =>
    let exponent := lead - count + 1
    match gridPoint? value i exponent with
    | some n => ⟨n, exponent⟩
    | none => firstHit value i lead (count + 1) steps

/-- A hit on a grid one digit coarser than its digits show ends in a zero, which is dropped. -/
def Scientific.stripped (s : Scientific) : Scientific :=
  if s.digits % 10 = 0 then ⟨s.digits / 10, s.exponent + 1⟩ else s

/-- The shortest decimal that reads back as a positive magnitude. -/
def shortest (m : Magnitude) : Scientific :=
  let value := Ratio.scaled m.mantissa 2 m.exponent
  (firstHit value m.interval (leadingExponent value) 1 17).stripped

end ToolPlugins.Decimal
