import ToolPlugins.Text.Ascii

/-!
What can be wrong with a JSON text, and where. A reader that fails hands back the text it had not
consumed; a fault found by looking at the next byte lies one byte further. The place is counted in
lines and in bytes of the last line.
-/

namespace ToolPlugins.Json

/-- What a reader of JSON text can find wrong. -/
inductive Problem where
  | endInValue
  | endInObject
  | endInList
  | endInString
  | expectedColon
  | expectedListEnd
  | expectedObjectEnd
  | expectedIdent
  | expectedValue
  | keyNotString
  | trailingComma
  | trailingCharacters
  | invalidNumber
  | numberOutOfRange
  | invalidEscape
  | endInHexEscape
  | loneSurrogate
  | controlCharacter
  | tooDeep
  deriving DecidableEq, Repr

def Problem.message : Problem → String
  | .endInValue => "EOF while parsing a value"
  | .endInObject => "EOF while parsing an object"
  | .endInList => "EOF while parsing a list"
  | .endInString => "EOF while parsing a string"
  | .expectedColon => "expected `:`"
  | .expectedListEnd => "expected `,` or `]`"
  | .expectedObjectEnd => "expected `,` or `\x7d`"
  | .expectedIdent => "expected ident"
  | .expectedValue => "expected value"
  | .keyNotString => "key must be a string"
  | .trailingComma => "trailing comma"
  | .trailingCharacters => "trailing characters"
  | .invalidNumber => "invalid number"
  | .numberOutOfRange => "number out of range"
  | .invalidEscape => "invalid escape"
  | .endInHexEscape => "unexpected end of hex escape"
  | .loneSurrogate => "lone leading surrogate in hex escape"
  | .controlCharacter => "control character (\\u0000-\\u001F) found while parsing a string"
  | .tooDeep => "recursion limit exceeded"

/-- A place in a text: `ahead` bytes into the part `rest` that was not consumed. -/
structure Place where
  rest : List Char
  ahead : Nat
  deriving DecidableEq, Repr

/-- The place before `rest`. -/
def Place.at (rest : List Char) : Place := ⟨rest, 0⟩

/-- The place after the first byte of `rest`, or at the end of the text. -/
def Place.after (rest : List Char) : Place := ⟨rest, 1⟩

/-- A place as a line number and a number of bytes in that line. -/
structure Position where
  line : Nat
  column : Nat
  deriving DecidableEq, Repr

/-- The position after the first `count` bytes of a text, counted on from `p`. A character that is
    passed only in part counts with the bytes passed. -/
def Position.advance (p : Position) : List Char → Nat → Position
  | [], _ => p
  | _ :: _, 0 => p
  | c :: rest, count + 1 =>
    if c = '\n' then Position.advance ⟨p.line + 1, 0⟩ rest count
    else if count + 1 ≤ c.utf8Size then ⟨p.line, p.column + (count + 1)⟩
    else Position.advance ⟨p.line, p.column + c.utf8Size⟩ rest (count + 1 - c.utf8Size)

/-- The position of a place in the text it was read from. -/
def Place.position (place : Place) (text : List Char) : Position :=
  let count := Text.utf8Length text - Text.utf8Length place.rest + place.ahead
  Position.advance ⟨1, 0⟩ text count

def Position.message (p : Position) : String :=
  " at line " ++ toString p.line ++ " column " ++ toString p.column

/-- A problem and its place. -/
structure Fault where
  problem : Problem
  place : Place
  deriving DecidableEq, Repr

/-- A fault found before `rest`. -/
def Fault.here (problem : Problem) (rest : List Char) : Fault := ⟨problem, .at rest⟩

/-- A fault found in the first byte of `rest`. -/
def Fault.next (problem : Problem) (rest : List Char) : Fault := ⟨problem, .after rest⟩

/-- The wording of a fault in a text. -/
def Fault.message (fault : Fault) (text : List Char) : String :=
  fault.problem.message ++ (fault.place.position text).message

/-- A reader consumes a front part of the text and hands back the rest. -/
abbrev Reader (α : Type) := List Char → Except Fault (α × List Char)

end ToolPlugins.Json
