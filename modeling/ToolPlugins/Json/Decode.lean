import ToolPlugins.Json.Printer
import ToolPlugins.Text.Quoted

/-!
Reading records out of JSON values. A record is an object, whose unknown fields are ignored, or an
array of its fields in their declared order. Fields are looked at in the order in which they stand in
the value; missing ones are reported after that, in their declared order.
-/

namespace ToolPlugins.Json

/-- Why a value is not what was asked for. -/
inductive DecodeError where
  | type (found : Json) (expected : String)
  | value (found : Json) (expected : String)
  | missing (field : String)
  | length (found : Nat) (expected : String)
  | variant (name : String) (expected : List String)
  deriving Repr

/-- A value as it is named in errors. -/
def described : Json → String
  | .null => "null"
  | .bool b => "boolean `" ++ (if b then "true" else "false") ++ "`"
  | .number (.integer n) => "integer `" ++ String.ofList (renderInt n) ++ "`"
  | .number (.real x) => "floating point `" ++ String.ofList (renderFloat x) ++ "`"
  | .string s => "string " ++ Text.quoted s
  | .array _ => "sequence"
  | .object _ => "map"

def DecodeError.message : DecodeError → String
  | type found expected => "invalid type: " ++ found.described ++ ", expected " ++ expected
  | value found expected => "invalid value: " ++ found.described ++ ", expected " ++ expected
  | missing field => "missing field `" ++ field ++ "`"
  | length found expected => "invalid length " ++ toString found ++ ", expected " ++ expected
  | variant name expected =>
    "unknown variant `" ++ name ++ "`, expected " ++
      " or ".intercalate (expected.map fun e => "`" ++ e ++ "`")

/-- A reader of values. -/
abbrev Decoder (α : Type) := Json → Except DecodeError α

namespace Decoder

def text : Decoder String
  | .string s => .ok s
  | other => .error (.type other "a string")

def boolean : Decoder Bool
  | .bool b => .ok b
  | other => .error (.type other "a boolean")

/-- A value or null. -/
def optional {α : Type} (decode : Decoder α) : Decoder (Option α)
  | .null => .ok none
  | other => (decode other).map some

def list {α : Type} (decode : Decoder α) : Decoder (List α)
  | .array items => items.mapM decode
  | other => .error (.type other "a sequence")

/-- One of a list of names: a text, or an object with the name as its only key and null as value. -/
def name (names : List String) : Decoder String := fun value => do
  let known (n : String) : Except DecodeError String :=
    if names.contains n then .ok n else .error (.variant n names)
  match value with
  | .string n => known n
  | .object [(n, inner)] => do
    let n ← known n
    match inner with
    | .null => .ok n
    | other => .error (.type other "unit")
  | .object fields => .error (.value (.object fields) "map with a single key")
  | other => .error (.type other "string or map")

end Decoder

/-- A field of a record. A field that is not `needed` may be missing from an object; one that is
    `defaulted` may also be missing at the end of an array. -/
structure FieldRule where
  key : String
  check : Decoder Unit
  needed : Bool := true
  defaulted : Bool := false

/-- The rule for a field that a decoder reads. -/
def FieldRule.of {α : Type} (key : String) (decode : Decoder α) : FieldRule :=
  { key, check := fun value => (decode value).map fun _ => () }

/-- The rule for a field that may be missing from an object. -/
def FieldRule.optional {α : Type} (key : String) (decode : Decoder α) : FieldRule :=
  { FieldRule.of key (Decoder.optional decode) with needed := false }

/-- Checks the fields of an object in their order. -/
def checkFields (rules : List FieldRule) : List (String × Json) → Except DecodeError Unit
  | [] => .ok ()
  | (key, value) :: rest => do
    match rules.find? fun rule => rule.key == key with
    | some rule => rule.check value
    | none => .ok ()
    checkFields rules rest

/-- Checks that no field is missing from an object. -/
def checkMissing (rules : List FieldRule) (fields : Fields) : Except DecodeError Unit :=
  match rules.find? fun rule => rule.needed && (fields.get? rule.key).isNone with
  | some rule => .error (.missing rule.key)
  | none => .ok ()

/-- The fields of a record that is written as an array, from a position on. -/
def arrayFields (expected : String) (index : Nat) :
    List FieldRule → List Json → Except DecodeError (List Json)
  | [], _ => .ok []
  | rule :: rules, [] =>
    if rule.defaulted then (arrayFields expected (index + 1) rules []).map (Json.null :: ·)
    else .error (.length index expected)
  | rule :: rules, item :: items => do
    rule.check item
    let others ← arrayFields expected (index + 1) rules items
    return item :: others

/-- The values of the fields of a record in their declared order, null where one is missing. -/
def recordFields (name : String) (rules : List FieldRule) : Decoder (List Json)
  | .object fields => do
    checkFields rules fields
    checkMissing rules fields
    return rules.map fun rule => ofOption (Fields.get? fields rule.key)
  | .array items => do
    let expected := "struct " ++ name ++ " with " ++ toString rules.length ++ " elements"
    let values ← arrayFields expected 0 rules items
    if items.length ≤ rules.length then .ok values
    else .error (.length items.length "fewer elements in array")
  | other => .error (.type other ("struct " ++ name))

end ToolPlugins.Json
