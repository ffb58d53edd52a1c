import ToolPlugins.Json.Printer

/-!
What a schema can find wrong with a value, and the wording. A complaint is about one value; the path
that leads to it is kept beside it.
-/

namespace ToolPlugins

/-- The types that a schema can ask for. -/
inductive JsonType where
  | array
  | boolean
  | integer
  | null
  | number
  | object
  | string
  deriving DecidableEq, Repr

namespace JsonType

/-- The types in the order of their names. -/
def all : List JsonType := [array, boolean, integer, null, number, object, string]

def name : JsonType → String
  | array => "array"
  | boolean => "boolean"
  | integer => "integer"
  | null => "null"
  | number => "number"
  | object => "object"
  | string => "string"

def ofName? (name : String) : Option JsonType := all.find? fun t => t.name == name

end JsonType

/-- What is wrong with a value. -/
inductive Complaint where
  | required (key : String)
  | notType (type : JsonType)
  | notTypes (types : List JsonType)
  | notChoice (values : List Json)
  | notConstant (value : Json)
  | tooShort (limit : Nat)
  | tooLong (limit : Nat)
  | noMatch (pattern : String)
  | undecided (reason : String)
  | fewItems (limit : Nat)
  | manyItems (limit : Nat)
  | fewProperties (limit : Nat)
  | manyProperties (limit : Nat)
  | below (limit : Json.Number)
  | notAbove (limit : Json.Number)
  | above (limit : Json.Number)
  | notBelow (limit : Json.Number)
  | unexpected (keys : List String)
  | refused
  | noAlternative
  | repeated
  | notFormat (format : String)
  deriving Repr

namespace Complaint

/-- A number of things, in the plural unless it is one. -/
def counted (n : Nat) (one many : String) : String :=
  toString n ++ " " ++ (if n = 1 then one else many)

/-- A string as a JSON literal. -/
def quoted (s : String) : String := Json.text (.string s)

/-- The wording of a complaint about a value. -/
def message (c : Complaint) (value : Json) : String :=
  let v := value.text
  match c with
  | required key => quoted key ++ " is a required property"
  | notType type => v ++ " is not of type " ++ quoted type.name
  | notTypes types =>
    let names := (JsonType.all.filter types.contains).map fun t => quoted t.name
    v ++ " is not of types " ++ ", ".intercalate names
  | notChoice values => v ++ " is not one of " ++ Json.text (.array values)
  | notConstant expected => expected.text ++ " was expected"
  | tooShort n => v ++ " is shorter than " ++ counted n "character" "characters"
  | tooLong n => v ++ " is longer than " ++ counted n "character" "characters"
  | noMatch pattern => v ++ " does not match \"" ++ pattern ++ "\""
  | undecided reason => reason
  | fewItems n => v ++ " has less than " ++ counted n "item" "items"
  | manyItems n => v ++ " has more than " ++ counted n "item" "items"
  | fewProperties n => v ++ " has less than " ++ counted n "property" "properties"
  | manyProperties n => v ++ " has more than " ++ counted n "property" "properties"
  | below limit => v ++ " is less than the minimum of " ++ Json.text (.number limit)
  | notAbove limit => v ++ " is less than or equal to the minimum of " ++ Json.text (.number limit)
  | above limit => v ++ " is greater than the maximum of " ++ Json.text (.number limit)
  | notBelow limit => v ++ " is greater than or equal to the maximum of " ++ Json.text (.number limit)
  | unexpected keys =>
    "Additional properties are not allowed (" ++
      ", ".intercalate (keys.map fun key => "'" ++ key ++ "'") ++
      (if keys.length = 1 then " was unexpected)" else " were unexpected)")
  | refused => "False schema does not allow " ++ v
  | noAlternative => v ++ " is not valid under any of the schemas listed in the 'anyOf' keyword"
  | repeated => v ++ " has non-unique elements"
  | notFormat format => v ++ " is not a \"" ++ format ++ "\""

end Complaint

end ToolPlugins
