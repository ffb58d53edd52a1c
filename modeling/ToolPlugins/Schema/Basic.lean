import ToolPlugins.Descriptor
import ToolPlugins.Schema.Compile
import ToolPlugins.Schema.Resources
import ToolPlugins.Schema.WellFormed
import ToolPlugins.Text.Quoted
import ToolPlugins.Validation

/-!
Schemas: the structural rules for descriptors, read from a document that is itself kept for look-ups.
Validation gives every error, in the order of the checks.
-/

namespace ToolPlugins

/-- A schema document with the checks read from it. -/
structure Schema where
  fields : Json.Fields
  checks : List Check

namespace Schema

/-- Why an object is no schema of a dialect: a bad identifier or dialect in it, an offence against the
    forms of the keywords, or a pattern that cannot be read. -/
def complaint? (patterns : PatternReader) (dialect : Dialect) (fields : Json.Fields) (checks : List Check) : Option String :=
  (resourceFault? dialect fields).or <|
    ((offence? patterns dialect (.object fields)).map fun (value, complaint) => complaint.message value).or <|
      (Check.firstUnreadable? checks).map fun source =>
        (Complaint.notFormat "regex").message (.string source)

/-- The dialect of a document, which is 2020-12 where none is named, or why there is none. -/
def dialect? (fields : Json.Fields) : Except String Dialect :=
  match Dialect.named? fields with
  | none => .ok .draft2020
  | some name =>
    match Dialect.ofIdentifier? name with
    | some dialect => .ok dialect
    | none => .error ("Unknown specification: " ++ name)

/-- The schema of an object, or why the object is none. -/
def ofFields (patterns : PatternReader) (fields : Json.Fields) : Except String Schema := do
  let dialect ← dialect? fields
  let checks := checksOf (.ofDocument dialect patterns) (.object fields)
  match complaint? patterns dialect fields checks with
  | some message => .error message
  | none => .ok ⟨fields, checks⟩

/-- The schema of a document by a reader of patterns, or why the document is none. -/
def ofJsonBy? (patterns : PatternReader) : Json → Except String Schema
  | .object fields => (ofFields patterns fields).mapError ("invalid schema: " ++ ·)
  | other => .error ("schema must be a JSON object, got " ++ other.kind)

/-- The schema of a document with regular expressions for patterns, or why the document is none. -/
def ofJson? (document : Json) : Except String Schema := ofJsonBy? .regular document

def document (s : Schema) : Json := .object s.fields

/-- The value of a top-level keyword. -/
def get? (s : Schema) (key : String) : Option Json := s.fields.get? key

/-- The value at a dotted path, step by step from the document. -/
def lookup? (s : Schema) (path : String) : Option Json :=
  (Json.dotted path).foldlM Json.step? s.document

/-- The texts that a property may be, if the schema lists them. -/
def enumerated (s : Schema) (property : String) : List String :=
  let listed := do
    let properties ← s.get? "properties"
    let rules ← properties.get? property
    let values ← rules.get? "enum"
    values.array?
  (listed.getD []).filterMap Json.string?

/-- A keyword as it is shown in the summary of a schema. -/
def shown : Option Json → String
  | none => "None"
  | some (.string s) => "Some(String(" ++ Text.quoted s ++ "))"
  | some other => "Some(" ++ other.text ++ ")"

/-- A summary of a schema: its identifier and its title. -/
def summary (s : Schema) : String :=
  "Schema \x7b id: " ++ shown (s.get? "$id") ++ ", title: " ++ shown (s.get? "title") ++ ", .. \x7d"

/-- Everything that is wrong with a document. -/
def validateJson (s : Schema) (document : Json) : List ValidationError :=
  (Check.runAll s.checks document).map .ofFinding

/-- Everything that is wrong with a descriptor. -/
def validate (s : Schema) (d : Descriptor) : List ValidationError := s.validateJson d.document

end Schema

end ToolPlugins
