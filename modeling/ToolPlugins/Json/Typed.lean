import ToolPlugins.Json.Decode
import ToolPlugins.Json.Reader
import ToolPlugins.Json.Skip

/-!
Reading values of a known type straight out of a JSON text. The first thing that does not fit ends the
reading, whether the text is no JSON there or holds a value of another type, so every error has a
place. Scalars of another type are read first; a list or object of another type is not entered.

A record may be written as an object, whose unknown fields are passed over, or as an array of its
fields in their declared order. Fields that are not written keep the value they had.
-/

namespace ToolPlugins.Json

/-- What a typed reader can find wrong. -/
inductive Mismatch where
  | malformed (problem : Problem)
  | unfit (error : DecodeError)
  | duplicate (field : String)
  deriving Repr

def Mismatch.message : Mismatch → String
  | malformed problem => problem.message
  | unfit error => error.message
  | duplicate field => "duplicate field `" ++ field ++ "`"

/-- A mismatch and its place. -/
structure TypedFault where
  mismatch : Mismatch
  place : Place
  deriving Repr

/-- A fault in the form of the text. -/
def TypedFault.ofFault (fault : Fault) : TypedFault := ⟨.malformed fault.problem, fault.place⟩

/-- The wording of a fault in a text. -/
def TypedFault.message (fault : TypedFault) (text : List Char) : String :=
  fault.mismatch.message ++ (fault.place.position text).message

/-- A typed reader consumes a front part of the text and hands back the rest. -/
abbrev TypedReader (α : Type) := List Char → Except TypedFault (α × List Char)

/-- What a reader answers, as the answer of a typed reader. -/
def typed {α : Type} (answer : Except Fault α) : Except TypedFault α :=
  answer.mapError .ofFault

/-- A fault found in the first byte of `rest`. -/
def failNext {α : Type} (problem : Problem) (rest : List Char) : Except TypedFault α :=
  .error (.ofFault (.next problem rest))

/-- The fault of a text that does not start with a value of the expected type. -/
def readOther {α : Type} (expected : String) (s : List Char) : Except TypedFault α :=
  let unfit (found : Json) (rest : List Char) : Except TypedFault α :=
    .error ⟨.unfit (.type found expected), .at rest⟩
  match s with
  | '[' :: _ => unfit (.array []) s
  | '\x7b' :: _ => unfit (.object []) s
  | _ => do
    let (found, rest) ← typed (readScalar s)
    unfit found rest

namespace TypedReader

/-- A text, named as `expected` where it is missing. -/
def textNamed (expected : String) : TypedReader String := fun s =>
  match skipSpace s with
  | '"' :: rest => typed (readString rest)
  | other => readOther expected other

def text : TypedReader String := textNamed "a string"

def boolean : TypedReader Bool := fun s =>
  match skipSpace s with
  | 't' :: rest => (typed (readWord ['r', 'u', 'e'] rest)).map fun rest => (true, rest)
  | 'f' :: rest => (typed (readWord ['a', 'l', 's', 'e'] rest)).map fun rest => (false, rest)
  | other => readOther "a boolean" other

/-- Nothing, written as null. -/
def unit : TypedReader Unit := fun s =>
  match skipSpace s with
  | 'n' :: rest => (typed (readWord ['u', 'l', 'l'] rest)).map fun rest => ((), rest)
  | other => readOther "unit" other

/-- A value or null. -/
def optional {α : Type} (item : TypedReader α) : TypedReader (Option α) := fun s =>
  match skipSpace s with
  | 'n' :: rest => (typed (readWord ['u', 'l', 'l'] rest)).map fun rest => (none, rest)
  | other => (item other).map fun (value, rest) => (some value, rest)

/-- The items of a list from the first one on. `steps` bounds the number of items. -/
def listItems {α : Type} (item : TypedReader α) : Nat → TypedReader (List α)
  | 0 => fun s => failNext .endInList s
  | steps + 1 => fun s => do
    let (value, rest) ← item s
    match skipSpace rest with
    | [] => failNext .endInList []
    | ']' :: rest => .ok ([value], rest)
    | ',' :: rest =>
      match skipSpace rest with
      | [] => failNext .endInValue []
      | ']' :: more => failNext .trailingComma (']' :: more)
      | more => do
        let (values, rest) ← listItems item steps more
        .ok (value :: values, rest)
    | other => failNext .expectedListEnd other

def list {α : Type} (item : TypedReader α) : TypedReader (List α) := fun s =>
  match skipSpace s with
  | '[' :: rest =>
    match skipSpace rest with
    | [] => failNext .endInList []
    | ']' :: rest => .ok ([], rest)
    | items => listItems item items.length items
  | other => readOther "a sequence" other

/-- One of the names of a list of choices. -/
def choice {α : Type} (choices : List (String × α)) (expected : String) : TypedReader α := fun s => do
  let (name, rest) ← textNamed expected s
  match choices.find? fun choice => choice.1 == name with
  | some choice => .ok (choice.2, rest)
  | none => .error ⟨.unfit (.variant name (choices.map (·.1))), .at rest⟩

/-- One of a list of choices: its name, or an object with the name as its only key and null as its
    value. -/
def variant {α : Type} (choices : List (String × α)) : TypedReader α := fun s =>
  match skipSpace s with
  | [] => failNext .endInValue []
  | '"' :: rest => choice choices "variant identifier" ('"' :: rest)
  | '\x7b' :: rest =>
    match skipSpace rest with
    | [] => failNext .endInObject []
    | '"' :: rest => do
      let (value, rest) ← choice choices "variant identifier" ('"' :: rest)
      let rest ← typed (readColon rest)
      let ((), rest) ← unit rest
      match skipSpace rest with
      | [] => failNext .endInObject []
      | '\x7d' :: rest => .ok (value, rest)
      | other => .error (.ofFault (.here .expectedValue other))
    | '\x7d' :: rest => failNext .expectedValue ('\x7d' :: rest)
    | other => failNext .keyNotString other
  | other => failNext .expectedValue other

end TypedReader

/-! ### Records -/

/-- A field of a record: its key, and how its value is read into the record. -/
structure RecordField (σ : Type) where
  key : String
  read : σ → TypedReader σ

/-- The field that a reader reads and a function puts into the record. -/
def RecordField.of {σ α : Type} (key : String) (reader : TypedReader α) (put : σ → α → σ) :
    RecordField σ :=
  ⟨key, fun record s => (reader s).map fun (value, rest) => (put record value, rest)⟩

namespace TypedReader

variable {σ : Type}

/-- The fields of a record that is written as an array, whose opening bracket was passed. `first` tells
    that no field was read yet. -/
def positional : List (RecordField σ) → Bool → σ → TypedReader σ
  | [], _, record => fun s =>
    match skipSpace s with
    | [] => failNext .endInList []
    | ']' :: rest => .ok (record, rest)
    | ',' :: rest =>
      match skipSpace rest with
      | ']' :: more => failNext .trailingComma (']' :: more)
      | other => failNext .trailingCharacters other
    | other => failNext .trailingCharacters other
  | field :: fields, first, record => fun s => do
    let value (s : List Char) : Except TypedFault (σ × List Char) := do
      let (record, rest) ← field.read record s
      positional fields false record rest
    match skipSpace s with
    | [] => failNext .endInList []
    | ']' :: rest => .ok (record, rest)
    | other =>
      if first then value other
      else match other with
        | ',' :: rest =>
          match skipSpace rest with
          | [] => failNext .endInValue []
          | ']' :: more => failNext .trailingComma (']' :: more)
          | more => value more
        | _ => failNext .expectedListEnd other

/-- The place of a field that is written twice: after its key and the blanks that follow, and after the
    brace that might close the object there. -/
def duplicatePlace (rest : List Char) : Place :=
  match skipSpace rest with
  | '\x7d' :: rest => .at rest
  | rest => .at rest

/-- The fields of a record that is written as an object, from the first one on. `seen` are the fields
    that were read, `steps` bounds the number of fields. -/
def named (fields : List (RecordField σ)) : Nat → List String → σ → TypedReader σ
  | 0, _, _ => fun s => failNext .endInObject s
  | steps + 1, seen, record => fun s => do
    let (key, rest) ← typed (readKey s)
    let (seen, record, rest) : List String × σ × List Char ←
      match fields.find? fun field => field.key == key with
      | some field =>
        if seen.contains key then .error ⟨.duplicate key, duplicatePlace rest⟩
        else do
          let rest ← typed (readColon rest)
          let (record, rest) ← field.read record rest
          .ok (key :: seen, record, rest)
      | none => do
        let rest ← typed (readColon rest)
        let rest ← typed (skipValue rest)
        .ok (seen, record, rest)
    match skipSpace rest with
    | [] => failNext .endInObject []
    | '\x7d' :: rest => .ok (record, rest)
    | ',' :: rest => named fields steps seen record (skipSpace rest)
    | other => failNext .expectedObjectEnd other

def record (name : String) (fields : List (RecordField σ)) (start : σ) : TypedReader σ := fun s =>
  match skipSpace s with
  | '[' :: rest => positional fields true start rest
  | '\x7b' :: rest =>
    match skipSpace rest with
    | [] => failNext .endInObject []
    | '\x7d' :: rest => .ok (start, rest)
    | '"' :: more => named fields ('"' :: more).length [] start ('"' :: more)
    | other => failNext .keyNotString other
  | other => readOther ("struct " ++ name) other

/-- The value of a whole text, or what is wrong with it and where. -/
def ofText {α : Type} (reader : TypedReader α) (text : String) : Except String α :=
  let answer : Except TypedFault α := do
    let (value, rest) ← reader text.toList
    typed (readEnd rest)
    return value
  answer.mapError fun fault => fault.message text.toList

end TypedReader

end ToolPlugins.Json
