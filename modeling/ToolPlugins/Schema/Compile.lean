import ToolPlugins.Schema.Check
import ToolPlugins.Schema.Dialect

/-!
The checks of a schema document. Keywords are taken in the order of their keys; those that are not
known ask for nothing. Where further properties are forbidden, the properties are checked together
with the ban, and otherwise at their own keyword. A ban without properties refuses the first field.
A draft-07 document knows no keyword of a schema in it that is of the later dialect.

The keywords that are known are the ones that ask for a type, a value, a length, a size, a bound or a
pattern, for keys, and for what a schema says of fields and items. The dialects have others, which are of
their form in a schema document and ask for nothing here: `multipleOf`, `uniqueItems`, `contains` and its
counts, `format`, `propertyNames`, `patternProperties`, `additionalProperties` and `additionalItems` with
a schema, `prefixItems`, the `dependent` and `unevaluated` keywords, the combinations of schemas (`allOf`,
`anyOf`, `oneOf`, `not`, `if`), and references to other schemas.
-/

namespace ToolPlugins.Schema

/-- The largest limit; what is beyond it counts as this. -/
def maxLimit : Nat := 18446744073709551615

/-- The number that a limit writes: a whole number that is not negative. -/
def limit? : Json → Option Nat
  | .number n =>
    if n.isWhole then
      let (num, den) := n.fraction
      if 0 ≤ num then some (min (num.toNat / den) maxLimit) else none
    else none
  | _ => none

/-- The check of a limit, if the keyword gives one. -/
def limited (make : Nat → Check) (value : Json) : List Check :=
  match limit? value with
  | some n => [make n]
  | none => []

/-- The checks of the keyword `type`. -/
def typeChecks : Json → List Check
  | .string name => (JsonType.ofName? name).toList.map .type
  | .array [.string name] => (JsonType.ofName? name).toList.map .type
  | .array names => [.types (names.filterMap fun name => name.string?.bind JsonType.ofName?)]
  | _ => []

/-- The checks of a keyword that has no schemas in it; none, where the keyword is not known. -/
def keywordChecks (patterns : PatternReader) (key : String) (value : Json) : List Check :=
  if key = "const" then [.constant value]
  else if key = "enum" then (value.array?.toList).map .choice
  else if key = "maxItems" then limited .maxItems value
  else if key = "maxLength" then limited .maxLength value
  else if key = "maxProperties" then limited .maxProperties value
  else if key = "minItems" then limited .minItems value
  else if key = "minLength" then limited .minLength value
  else if key = "minProperties" then limited .minProperties value
  else if key = "required" then
    ((value.array?.getD []).filterMap Json.string?).map .required
  else if key = "type" then typeChecks value
  else match key, value with
    | "exclusiveMaximum", .number n => [.exclusiveMaximum n]
    | "exclusiveMinimum", .number n => [.exclusiveMinimum n]
    | "maximum", .number n => [.maximum n]
    | "minimum", .number n => [.minimum n]
    | "pattern", .string source => [.pattern source (patterns source)]
    | _, _ => []

/-- Whether a schema forbids further properties. -/
def isClosed (fields : Json.Fields) : Bool :=
  match fields.get? "additionalProperties" with
  | some (.bool false) => true
  | _ => false

/-- The ban on further properties: none at all, or none but those that are listed. -/
def banChecks (fields : Json.Fields) : List Check :=
  match fields.get? "properties" with
  | some (.object properties) => [.closed (properties.map (·.1))]
  | _ => [.bare]

/-- The checks of keywords in their order; those of the properties of a closed schema stand before the
    ban. -/
def arrange (fields : Json.Fields) (parts : List (String × List Check)) : List Check :=
  if isClosed fields then
    let properties := (parts.filter fun part => part.1 = "properties").flatMap (·.2)
    (parts.filter fun part => part.1 ≠ "properties").flatMap fun part =>
      if part.1 = "additionalProperties" then properties ++ banChecks fields else part.2
  else parts.flatMap (·.2)

/-- What decides beside the keywords of a schema what it asks for: the dialect of the document, its own one, and how
    patterns are read. -/
structure Scope where
  document : Dialect
  here : Dialect
  patterns : PatternReader

def Scope.ofDocument (dialect : Dialect) (patterns : PatternReader := .regular) : Scope := ⟨dialect, dialect, patterns⟩

/-- The scope of a schema in a scope. -/
def Scope.enter (scope : Scope) (fields : Json.Fields) : Scope :=
  { scope with here := scope.here.ofSchema fields }

/-- Whether no keyword of a schema is known. -/
def Scope.isSilent (scope : Scope) : Bool :=
  scope.document == Dialect.draft07 && scope.here == Dialect.draft2020

mutual

/-- The checks of a schema: none of `true`, a refusal of `false`, those of its keywords of an object. -/
def checksOf (scope : Scope) : Json → List Check
  | .bool false => [.refuse]
  | .object fields =>
    let inner := scope.enter fields
    if inner.isSilent then [] else arrange fields (partsOf inner fields)
  | _ => []

def partsOf (scope : Scope) : List (String × Json) → List (String × List Check)
  | [] => []
  | (key, value) :: rest =>
    (key,
      match value with
      | .object inner =>
        if key = "properties" then propertiesOf scope inner
        else if key = "items" then [.items (checksOf scope (.object inner))]
        else keywordChecks scope.patterns key (.object inner)
      | .array values =>
        if key = "items" then itemsOf scope 0 values else keywordChecks scope.patterns key (.array values)
      | .bool b =>
        if key = "items" then [.items (checksOf scope (.bool b))] else keywordChecks scope.patterns key (.bool b)
      | other => keywordChecks scope.patterns key other) :: partsOf scope rest

def propertiesOf (scope : Scope) : List (String × Json) → List Check
  | [] => []
  | (key, value) :: rest => .property key (checksOf scope value) :: propertiesOf scope rest

/-- The checks of each item from an index on. -/
def itemsOf (scope : Scope) (index : Nat) : List Json → List Check
  | [] => []
  | value :: rest => .itemAt index (checksOf scope value) :: itemsOf scope (index + 1) rest

end

end ToolPlugins.Schema
