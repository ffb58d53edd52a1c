import ToolPlugins.Schema.Check
import ToolPlugins.Schema.Dialect
import ToolPlugins.UriReference.Reader

/-!
The forms of the keywords. Each dialect has its own keywords, and each keyword asks for a value of one
form; a keyword that a dialect does not have may hold anything. Some forms hold schemas in turn.
-/

namespace ToolPlugins.Schema

/-- A value that is not of the form that its keyword asks for. -/
abbrev Offence := Json × Complaint

/-- What a keyword asks of its value. -/
inductive Form where
  | text
  | matching (pattern : String)
  | expression
  | uri
  | uriReference
  | switch
  | switches
  | number
  | positive
  | count
  | values
  | names
  | nameLists
  | typeNames
  | schema
  | schemas
  | schemaOrSchemas
  | schemaMap
  | expressionMap
  | schemaOrNamesMap
  deriving DecidableEq, Repr

/-- How a value holds schemas: it is one, it lists them, or it maps keys to them. -/
inductive Holding where
  | one
  | list
  | oneOrList
  | map
  deriving DecidableEq, Repr

namespace Dialect

def anchor : Form := .matching "^[A-Za-z_][-A-Za-z0-9._]*$"

/-- The keywords of a dialect with their forms, by groups that are looked at one after the other. -/
def keywords : Dialect → List (List (String × Form))
  | draft07 =>
    [[("$comment", .text), ("$id", .uriReference), ("$ref", .uriReference), ("$schema", .uri),
      ("additionalItems", .schema), ("additionalProperties", .schema), ("allOf", .schemas),
      ("anyOf", .schemas), ("contains", .schema), ("contentEncoding", .text),
      ("contentMediaType", .text), ("definitions", .schemaMap), ("dependencies", .schemaOrNamesMap),
      ("description", .text), ("else", .schema), ("enum", .values), ("examples", .values),
      ("exclusiveMaximum", .number), ("exclusiveMinimum", .number), ("format", .text), ("if", .schema),
      ("items", .schemaOrSchemas), ("maxItems", .count), ("maxLength", .count),
      ("maxProperties", .count), ("maximum", .number), ("minItems", .count), ("minLength", .count),
      ("minProperties", .count), ("minimum", .number), ("multipleOf", .positive), ("not", .schema),
      ("oneOf", .schemas), ("pattern", .expression), ("patternProperties", .expressionMap),
      ("properties", .schemaMap), ("propertyNames", .schema), ("readOnly", .switch),
      ("required", .names), ("then", .schema), ("title", .text), ("type", .typeNames),
      ("uniqueItems", .switch), ("writeOnly", .switch)]]
  | draft2020 =>
    [[("$anchor", anchor), ("$comment", .text), ("$defs", .schemaMap), ("$dynamicAnchor", anchor),
      ("$dynamicRef", .text), ("$id", .matching "^[^#]*#?$"), ("$ref", .text), ("$schema", .text),
      ("$vocabulary", .switches)],
    [("additionalProperties", .schema), ("allOf", .schemas), ("anyOf", .schemas), ("contains", .schema),
      ("dependentSchemas", .schemaMap), ("else", .schema), ("if", .schema), ("items", .schema),
      ("not", .schema), ("oneOf", .schemas), ("patternProperties", .schemaMap), ("prefixItems", .schemas),
      ("properties", .schemaMap), ("propertyNames", .schema), ("then", .schema)],
    [("unevaluatedItems", .schema), ("unevaluatedProperties", .schema)],
    [("dependentRequired", .nameLists), ("enum", .values), ("exclusiveMaximum", .number),
      ("exclusiveMinimum", .number), ("maxContains", .count), ("maxItems", .count),
      ("maxLength", .count), ("maxProperties", .count), ("maximum", .number), ("minContains", .count),
      ("minItems", .count), ("minLength", .count), ("minProperties", .count), ("minimum", .number),
      ("multipleOf", .positive), ("pattern", .text), ("required", .names), ("type", .typeNames),
      ("uniqueItems", .switch)],
    [("deprecated", .switch), ("description", .text), ("examples", .values), ("readOnly", .switch),
      ("title", .text), ("writeOnly", .switch)],
    [("format", .text)],
    [("contentEncoding", .text), ("contentMediaType", .text), ("contentSchema", .schema)],
    [("$recursiveAnchor", anchor), ("$recursiveRef", .text), ("definitions", .schemaMap),
      ("dependencies", .schemaOrNamesMap)]]

/-- The form of a keyword, if the dialect has it. -/
def form? (dialect : Dialect) (key : String) : Option Form := dialect.keywords.flatten.lookup key

/-- How the value of a keyword holds schemas, if it does. In 2020-12 the schemas of `dependencies` are
    not looked at for themselves. -/
def holds? (dialect : Dialect) (key : String) : Option Holding :=
  match dialect.form? key with
  | some .schema => some .one
  | some .schemas => some .list
  | some .schemaOrSchemas => some .oneOrList
  | some .schemaMap => some .map
  | some .expressionMap => some .map
  | some .schemaOrNamesMap => if dialect == draft07 then some .map else none
  | _ => none

end Dialect

/-- An offence unless the value is of a type. -/
def offenceOfType? (t : JsonType) (value : Json) : Option Offence :=
  if t.holds value then none else some (value, .notType t)

/-- An offence unless the value is a text for which a condition holds. -/
def offenceOfText? (complaint : Complaint) (ok : String → Bool) (value : Json) : Option Offence :=
  match value with
  | .string s => if ok s then none else some (value, complaint)
  | _ => some (value, .notType .string)

/-- An offence unless the value is a number above zero. -/
def offenceOfPositive? (value : Json) : Option Offence :=
  match value with
  | .number n => if Json.Number.lt (.integer 0) n then none else some (value, .notAbove (.integer 0))
  | _ => some (value, .notType .number)

/-- An offence unless the value is a whole number that is not negative. -/
def offenceOfCount? (value : Json) : Option Offence :=
  match value with
  | .number n =>
    if n.lt (.integer 0) then some (value, .below (.integer 0)) else offenceOfType? .integer value
  | _ => offenceOfType? .integer value

/-- An offence unless the value is a list of strings without repetition. -/
def offenceOfNames? (value : Json) : Option Offence :=
  match value with
  | .array items =>
    match items.findSome? (offenceOfType? .string) with
    | some offence => some offence
    | none => if Json.allDistinct items then none else some (value, .repeated)
  | _ => some (value, .notType .array)

/-- An offence unless the value is an object, and its values have none. -/
def offenceOfEach? (find : Json → Option Offence) (value : Json) : Option Offence :=
  match value with
  | .object fields => fields.findSome? fun field => find field.2
  | _ => some (value, .notType .object)

/-- An offence unless the value names a type, or lists different types. -/
def offenceOfTypes? (value : Json) : Option Offence :=
  let isType (v : Json) : Bool := (v.string?.bind JsonType.ofName?).isSome
  let ok := match value with
    | .array items => !items.isEmpty && items.all isType && Json.allDistinct items
    | _ => isType value
  if ok then none else some (value, .noAlternative)

/-- Whether a text matches one of the expressions that the forms are made of. -/
def isMatch (pattern text : String) : Bool :=
  match Regex.parse? pattern with
  | some r => r.search text.toList
  | none => false

/-- Whether a text is a reference to a resource. -/
def isUriReference (text : String) : Bool := (UriReference.ofText text).isOk

/-- Whether a text names a resource with its scheme. -/
def isUri (text : String) : Bool :=
  match UriReference.ofText text with
  | .ok r => r.scheme.isSome
  | .error _ => false

/-- The offence of a value against a form, where the value has no schemas in it: a schema is an object
    or a boolean. -/
def Form.offence? (patterns : PatternReader) (form : Form) (value : Json) : Option Offence :=
  match form with
  | text => offenceOfType? .string value
  | matching pattern => offenceOfText? (.noMatch pattern) (isMatch pattern) value
  | expression => offenceOfText? (.notFormat "regex") (fun source => (patterns source).isSome) value
  | uri => offenceOfText? (.notFormat "uri") isUri value
  | uriReference => offenceOfText? (.notFormat "uri-reference") isUriReference value
  | switch => offenceOfType? .boolean value
  | switches => offenceOfEach? (offenceOfType? .boolean) value
  | number => offenceOfType? .number value
  | positive => offenceOfPositive? value
  | count => offenceOfCount? value
  | values => offenceOfType? .array value
  | names => offenceOfNames? value
  | nameLists => offenceOfEach? offenceOfNames? value
  | typeNames => offenceOfTypes? value
  | schema => some (value, .notTypes [.boolean, .object])
  | schemas => some (value, .notType .array)
  | schemaOrSchemas => some (value, .noAlternative)
  | schemaMap => some (value, .notType .object)
  | expressionMap => some (value, .notType .object)
  | schemaOrNamesMap => some (value, .notType .object)

end ToolPlugins.Schema
