/-!
Regular expressions: characters out of sets, sequences, alternatives, repetition, and the anchors at the
very start and the very end of the text. Matching takes derivatives, one character at a time; whether an
anchor holds is decided at the place where it stands.
-/

namespace ToolPlugins

/-- A set of characters. -/
inductive CharSet where
  | empty
  | range (low high : Char)
  | union (first second : CharSet)
  | complement (set : CharSet)
  deriving DecidableEq, Repr

namespace CharSet

/-- Whether a character belongs to a set. -/
def holds : CharSet → Char → Bool
  | empty, _ => false
  | range low high, c => low ≤ c && c ≤ high
  | union a b, c => a.holds c || b.holds c
  | complement set, c => !set.holds c

def single (c : Char) : CharSet := range c c

/-- The union of ranges with their ends. -/
def ofRanges (ranges : List (Char × Char)) : CharSet :=
  ranges.foldr (fun (low, high) set => union (range low high) set) empty

end CharSet

/-- A regular expression. `nothing` matches no text. -/
inductive Regex where
  | nothing
  | empty
  | atStart
  | atEnd
  | chars (set : CharSet)
  | seq (first second : Regex)
  | alt (first second : Regex)
  | star (body : Regex)
  deriving DecidableEq, Repr

namespace Regex

/-- Whether an expression matches the empty text at a place that may be the start or the end. -/
def nullable (start done : Bool) : Regex → Bool
  | nothing => false
  | empty => true
  | atStart => start
  | atEnd => done
  | chars _ => false
  | seq a b => nullable start done a && nullable start done b
  | alt a b => nullable start done a || nullable start done b
  | star _ => true

/-- One expression after the other, without the parts that decide nothing. -/
def mkSeq : Regex → Regex → Regex
  | nothing, _ => nothing
  | _, nothing => nothing
  | empty, b => b
  | a, empty => a
  | a, b => seq a b

/-- One of two expressions, without the parts that decide nothing. -/
def mkAlt (a b : Regex) : Regex :=
  if a = nothing then b else if b = nothing then a else if a = b then a else alt a b

/-- What is left to match after a character; `start` says whether the character is the first. -/
def derive (start : Bool) (c : Char) : Regex → Regex
  | nothing => nothing
  | empty => nothing
  | atStart => nothing
  | atEnd => nothing
  | chars set => if set.holds c then empty else nothing
  | seq a b =>
    let first := mkSeq (derive start c a) b
    if nullable start false a then mkAlt first (derive start c b) else first
  | alt a b => mkAlt (derive start c a) (derive start c b)
  | star a => mkSeq (derive start c a) (star a)

/-- Whether an expression matches a front part of a text. -/
def matchesFront (start : Bool) (r : Regex) : List Char → Bool
  | [] => r.nullable start true
  | c :: rest => r.nullable start false || matchesFront false (r.derive start c) rest

/-- Whether an expression matches somewhere in the rest of a text. -/
def searchFrom (start : Bool) (r : Regex) : List Char → Bool
  | [] => r.matchesFront start []
  | c :: rest => r.matchesFront start (c :: rest) || searchFrom false r rest

/-- Whether an expression matches somewhere in a text. -/
def search (r : Regex) (s : List Char) : Bool := r.searchFrom true s

end Regex

end ToolPlugins
