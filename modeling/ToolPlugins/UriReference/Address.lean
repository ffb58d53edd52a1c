import ToolPlugins.Text.Ascii

/-!
Addresses of eight groups of hexadecimal digits with colons between them. Two colons stand for the
groups of zero that are left out, and the last two groups may be written as four decimal numbers.
-/

namespace ToolPlugins

/-- An address: its groups, each below `2 ^ 16`. -/
structure Ip6 where
  groups : List Nat
  deriving DecidableEq, Repr

namespace Ip6

/-- The number of groups. -/
def size : Nat := 8

/-- What can stand at the next place of an address, and whether a colon comes before it: a group, the
    start of four decimal numbers, two colons, or a colon that nothing follows. -/
inductive Piece where
  | group (colon : Bool) (value : Nat)
  | dotted (colon : Bool)
  | gap
  | loose
  deriving DecidableEq, Repr

/-- At most `count` hexadecimal digits, and the value they write after `value`. -/
def readDigits (value : Nat) : Nat → List Char → Nat × List Char
  | 0, s => (value, s)
  | _ + 1, [] => (value, [])
  | count + 1, c :: rest =>
    match Text.hexValue? c with
    | some digit => readDigits (value * 16 + digit) count rest
    | none => (value, c :: rest)

/-- Whether less than `count` digits are left before a point. -/
def pointFollows (count : Nat) (digits rest : List Char) : Bool :=
  digits.length - rest.length < count && rest.head? == some '.'

/-- The next piece and what follows it; decimal numbers are left to be read. Nothing if no piece
    starts here. -/
def readPiece (s : List Char) : Option (Piece × List Char) :=
  let (colon, digits) : Bool × List Char := match s with
    | ':' :: rest => (true, rest)
    | _ => (false, s)
  match digits with
  | [] => if colon then some (.loose, []) else none
  | first :: others =>
    if (Text.hexValue? first).isSome then
      let (value, rest) := readDigits 0 4 digits
      if pointFollows 4 digits rest then some (.dotted colon, digits)
      else some (.group colon value, rest)
    else if !colon then none
    else if first = ':' then some (.gap, others)
    else some (.loose, digits)

/-- A decimal number below 256 without leading zeros. -/
def readOctet (s : List Char) : Option (Nat × List Char) :=
  match s with
  | '0' :: rest => some (0, rest)
  | _ =>
    let digits := (s.take 3).takeWhile Char.isDigit
    let value := Text.decimalValue digits
    if digits.isEmpty || 255 < value then none else some (value, s.drop digits.length)

/-- Decimal numbers with points between them, `count` of them after the first one. -/
def readOctets : Nat → List Char → Option (List Nat × List Char)
  | 0, s => (readOctet s).map fun (value, rest) => ([value], rest)
  | count + 1, s => do
    let (value, rest) ← readOctet s
    match rest with
    | '.' :: rest =>
      let (values, rest) ← readOctets count rest
      return (value :: values, rest)
    | _ => none

/-- The groups of an address from here on, with the number of groups before the two colons, and what
    follows. `steps` bounds the number of pieces. -/
def readGroups (steps : Nat) (groups : List Nat) (gap : Option Nat) (s : List Char) :
    Option (List Nat × Option Nat × List Char) :=
  match steps with
  | 0 => some (groups, gap, s)
  | steps + 1 =>
    if groups.length = size then some (groups, gap, s)
    else match readPiece s with
      | none => some (groups, gap, s)
      | some (.loose, _) => none
      | some (.gap, rest) =>
        if gap.isSome then none else readGroups steps groups (some groups.length) rest
      | some (.group colon value, rest) =>
        if colon == (groups.isEmpty || gap == some groups.length) then none
        else readGroups steps (groups ++ [value]) gap rest
      | some (.dotted colon, rest) =>
        if size < groups.length + 2 || colon == (gap == some groups.length) then none
        else match readOctets 3 rest with
          | some ([a, b, c, d], rest) => some (groups ++ [a * 256 + b, c * 256 + d], gap, rest)
          | _ => none

/-- An address and what follows it. -/
def read (s : List Char) : Option (Ip6 × List Char) := do
  let (groups, gap, rest) ← readGroups (size + 1) [] none s
  match gap with
  | none => if groups.length = size then return (⟨groups⟩, rest) else none
  | some before =>
    if groups.length = size then none
    else
      let zeros := List.replicate (size - groups.length) 0
      return (⟨groups.take before ++ zeros ++ groups.drop before⟩, rest)

/-- Whether an address, right or wrong, starts here. -/
def starts (s : List Char) : Bool :=
  match readPiece s with
  | none => false
  | some (.dotted false, _) => false
  | _ => true

/-- The lengths of the runs of zero that start at each group. -/
def zeroRuns (groups : List Nat) : List Nat :=
  groups.foldr (fun g runs => (if g = 0 then runs.headD 0 + 1 else 0) :: runs) []

/-- Groups in hexadecimal digits. -/
def written (groups : List Nat) : List Char :=
  [':'].intercalate (groups.map fun g => Nat.toDigits 16 g)

/-- The canonical text of an address: two colons stand for the first of the longest runs of two or more
    zeros, and an address that stands for an older one ends in four decimal numbers. -/
def text (a : Ip6) : List Char :=
  match a.groups with
  | [0, 0, 0, 0, 0, 0xffff, high, low] =>
    let octets := [high / 256, high % 256, low / 256, low % 256].map fun n => Nat.toDigits 10 n
    [':', ':', 'f', 'f', 'f', 'f', ':'] ++ ['.'].intercalate octets
  | groups =>
    let runs := zeroRuns groups
    let longest := runs.foldl max 0
    if longest < 2 then written groups
    else
      let start := runs.idxOf longest
      written (groups.take start) ++ [':', ':'] ++ written (groups.drop (start + longest))

end Ip6

end ToolPlugins
