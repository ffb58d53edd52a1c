import ToolPlugins.Schema.Regex
import ToolPlugins.Text.Ascii

/-!
Regular expressions read from a text: literals, escapes, classes, groups, alternatives and repetition.
An expression may be repeated once, and an anchor may not. A letter or digit after a backslash has a
meaning of its own or none at all, and what has none is refused.
-/

namespace ToolPlugins

namespace Regex

/-! ### Characters -/

def digitSet : CharSet := .range '0' '9'

def wordSet : CharSet := .ofRanges [('0', '9'), ('A', 'Z'), ('_', '_'), ('a', 'z')]

/-- The blanks. -/
def blankSet : CharSet :=
  .ofRanges
    [('\t', '\x0d'), (' ', ' '), ('\u00a0', '\u00a0'), ('\u1680', '\u1680'), ('\u2000', '\u200a'),
      ('\u2028', '\u2029'), ('\u202f', '\u202f'), ('\u205f', '\u205f'), ('\u3000', '\u3000'),
      ('\ufeff', '\ufeff')]

/-- Any character but a line feed. -/
def anySet : CharSet := .complement (.single '\n')

/-- What stands for one character: the character itself, or one of a set. -/
inductive Symbol where
  | char (c : Char)
  | oneOf (set : CharSet)
  deriving DecidableEq, Repr

/-- The characters that a symbol stands for. -/
def Symbol.toSet : Symbol → CharSet
  | char c => .single c
  | oneOf set => set

/-- The symbol of a letter or mark after a backslash. -/
def escaped? (c : Char) : Option Symbol :=
  match c with
  | 'd' => some (.oneOf digitSet)
  | 'D' => some (.oneOf (.complement digitSet))
  | 'w' => some (.oneOf wordSet)
  | 'W' => some (.oneOf (.complement wordSet))
  | 's' => some (.oneOf blankSet)
  | 'S' => some (.oneOf (.complement blankSet))
  | 'a' => some (.char '\x07')
  | 'f' => some (.char '\x0c')
  | 'n' => some (.char '\n')
  | 'r' => some (.char '\x0d')
  | 't' => some (.char '\t')
  | 'v' => some (.char '\x0b')
  | c => if c.toNat < 128 && !c.isAlphanum && c != '<' && c != '>' then some (.char c) else none

/-- The character with the number that hexadecimal digits write. -/
def hexChar? (digits : List Char) : Option Symbol := do
  let values ← digits.mapM Text.hexValue?
  let code := values.foldl (fun n v => n * 16 + v) 0
  if h : code.isValidChar then some (.char (Char.ofNatAux code h)) else none

/-- A symbol after a backslash, with the rest of the text. -/
def readEscape : List Char → Option (Symbol × List Char)
  | 'c' :: letter :: rest =>
    if letter.isAlpha then some (.char (Char.ofNat (letter.toNat % 32)), rest) else none
  | 'x' :: a :: b :: rest => (hexChar? [a, b]).map fun symbol => (symbol, rest)
  | 'u' :: a :: b :: c :: d :: rest => (hexChar? [a, b, c, d]).map fun symbol => (symbol, rest)
  | c :: rest => (escaped? c).map fun symbol => (symbol, rest)
  | [] => none

/-- A symbol in a class, with the rest of the text. -/
def readSymbol : List Char → Option (Symbol × List Char)
  | '\\' :: rest => readEscape rest
  | '[' :: _ => none
  | c :: rest => some (.char c, rest)
  | [] => none

def rangeOf? : Symbol → Symbol → Option CharSet
  | .char low, .char high => if low ≤ high then some (.range low high) else none
  | _, _ => none

/-- A symbol or range of a class, with the rest of the text. A hyphen before the closing bracket stands
    for itself. -/
def readMember (s : List Char) : Option (CharSet × List Char) := do
  let (low, rest) ← readSymbol s
  match rest with
  | '-' :: ']' :: _ => return (low.toSet, rest)
  | '-' :: next => do
    let (high, rest) ← readSymbol next
    return (← rangeOf? low high, rest)
  | _ => return (low.toSet, rest)

/-- The symbols and ranges of a class up to its closing bracket, with the rest of the text. -/
def readMembers : Nat → List Char → Option (CharSet × List Char)
  | 0, _ => none
  | _ + 1, ']' :: rest => some (.empty, rest)
  | steps + 1, s => do
    let (member, rest) ← readMember s
    let (members, rest) ← readMembers steps rest
    return (.union member members, rest)

/-- The symbols of a class, with the rest of the text. Hyphens at its start stand for themselves, and so
    does a closing bracket there. -/
def readPlainClass (s : List Char) : Option (CharSet × List Char) :=
  let hyphens := s.takeWhile (· == '-')
  match hyphens, s.dropWhile (· == '-') with
  | [], ']' :: rest =>
    (readMembers (rest.length + 1) rest).map fun (set, rest) => (.union (.single ']') set, rest)
  | [], rest => readMembers (rest.length + 1) rest
  | _, rest =>
    (readMembers (rest.length + 1) rest).map fun (set, rest) => (.union (.single '-') set, rest)

/-- A class after its opening bracket, with the rest of the text. -/
def readClass : List Char → Option (CharSet × List Char)
  | '^' :: rest => (readPlainClass rest).map fun (set, rest) => (.complement set, rest)
  | s => readPlainClass s

/-! ### Repetition -/

/-- The largest count of repetitions. -/
def maxCount : Nat := 300000

/-- An expression repeated a number of times. -/
def times (r : Regex) : Nat → Regex
  | 0 => empty
  | n + 1 => mkSeq r (times r n)

/-- At most a number of repetitions. -/
def atMost (r : Regex) : Nat → Regex
  | 0 => empty
  | n + 1 => alt empty (mkSeq r (atMost r n))

/-- An expression repeated a number of times between bounds. -/
def between (r : Regex) (low : Nat) : Option Nat → Regex
  | none => mkSeq (times r low) (star r)
  | some high => mkSeq (times r low) (atMost r (high - low))

/-- A count, with the rest of the text. -/
def readCount (s : List Char) : Option (Nat × List Char) :=
  let digits := s.takeWhile Char.isDigit
  let n := Text.decimalValue digits
  if digits.isEmpty || maxCount < n then none else some (n, s.dropWhile Char.isDigit)

/-- The bounds of a repetition after its opening brace, with the rest of the text; no upper bound is
    `none`. -/
def readBounds (s : List Char) : Option (Nat × Option Nat × List Char) := do
  let (low, rest) ← readCount s
  match rest with
  | '\x7d' :: rest => return (low, some low, rest)
  | ',' :: '\x7d' :: rest => return (low, none, rest)
  | ',' :: rest =>
    match ← readCount rest with
    | (high, '\x7d' :: rest) => if low ≤ high then return (low, some high, rest) else none
    | _ => none
  | _ => none

/-- The bounds of the repetition that a text starts with, with the rest of the text, if it starts with
    one. -/
def readQuantifier : List Char → Option (Option (Nat × Option Nat × List Char))
  | '*' :: rest => some (some (0, none, rest))
  | '+' :: rest => some (some (1, none, rest))
  | '?' :: rest => some (some (0, some 1, rest))
  | '\x7b' :: rest => (readBounds rest).map some
  | _ => some none

/-- The text after the marks that say how eager a repetition is. This decides nothing. -/
def dropEagerness (s : List Char) : List Char :=
  let s := if s.head? == some '?' then s.tail else s
  if s.head? == some '+' then s.tail else s

/-- An expression with the repetition that follows it, and the rest of the text. -/
def readRepeated (r : Regex) (s : List Char) : Option (Regex × List Char) := do
  match ← readQuantifier s with
  | none => return (r, s)
  | some (low, high, rest) =>
    if r = atStart ∨ r = atEnd then none else return (r.between low high, dropEagerness rest)

/-! ### Expressions -/

/-- The text after the mark that a group does not count, or after its name. -/
def readGroupStart : List Char → Option (List Char)
  | '?' :: ':' :: rest => some rest
  | '?' :: '<' :: rest => readGroupName rest
  | '?' :: 'P' :: '<' :: rest => readGroupName rest
  | '?' :: _ => none
  | s => some s
where
  /-- The text after the name of a group. -/
  readGroupName (s : List Char) : Option (List Char) :=
    let name := s.takeWhile Text.isWord
    match s.dropWhile Text.isWord with
    | '>' :: rest =>
      if name.isEmpty || (name.head?.any Char.isDigit) then none else some rest
    | _ => none

mutual

/-- Alternatives, up to a closing parenthesis or the end. -/
def readAlternatives : Nat → List Char → Option (Regex × List Char)
  | 0, _ => none
  | steps + 1, s => do
    let (first, rest) ← readSequence steps s
    match rest with
    | '|' :: rest => do
      let (second, rest) ← readAlternatives steps rest
      return (alt first second, rest)
    | _ => return (first, rest)

/-- Expressions one after the other. -/
def readSequence : Nat → List Char → Option (Regex × List Char)
  | 0, _ => none
  | steps + 1, s =>
    match s with
    | [] => some (empty, [])
    | c :: rest =>
      if c = '|' || c = ')' then some (empty, s)
      else do
        let (atom, rest) ← readAtom steps c rest
        let (first, rest) ← readRepeated atom rest
        let (second, rest) ← readSequence steps rest
        return (mkSeq first second, rest)

/-- One expression that starts with a given character. -/
def readAtom : Nat → Char → List Char → Option (Regex × List Char)
  | 0, _, _ => none
  | steps + 1, c, rest =>
    if c = '^' then some (atStart, rest)
    else if c = '$' then some (atEnd, rest)
    else if c = '.' then some (chars anySet, rest)
    else if c = '[' then (readClass rest).map fun (set, rest) => (chars set, rest)
    else if c = '(' then do
      let (r, rest) ← readAlternatives steps (← readGroupStart rest)
      match rest with
      | ')' :: rest => some (r, rest)
      | _ => none
    else if c = '\\' then (readEscape rest).map fun (symbol, rest) => (chars symbol.toSet, rest)
    else if c = '*' || c = '+' || c = '?' || c = '\x7b' then none
    else some (chars (.single c), rest)

end

/-- The expression that a text writes. -/
def parse? (s : String) : Option Regex :=
  match readAlternatives (3 * s.toList.length + 3) s.toList with
  | some (r, []) => some r
  | _ => none

end Regex

end ToolPlugins
