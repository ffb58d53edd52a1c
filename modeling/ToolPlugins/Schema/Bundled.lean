import ToolPlugins.Schema.Basic

/-!
The schema for tool descriptors that is used where no other is given.
-/

namespace ToolPlugins.Schema.Bundled

/-- A keyword with a text. -/
def text (key value : String) : String × Json := (key, .string value)

/-- The keyword that asks for a type. -/
def typed (name : String) : String × Json := text "type" name

def rules (fields : List (String × Json)) : Json := Json.ofFields fields

def texts (values : List String) : Json := .array (values.map .string)

/-- Rules for a text. -/
def anyText : Json := rules [typed "string"]

/-- Rules for a text that is not empty. -/
def someText : Json := rules [typed "string", ("minLength", .int 1)]

/-- Rules for a text that is not empty, with a remark on what it is. -/
def remarkedText (remark : String) : Json :=
  rules [typed "string", ("minLength", .int 1), text "description" remark]

/-- Rules for one of a list of texts. -/
def oneOf (values : List String) : Json := rules [typed "string", ("enum", texts values)]

/-- Rules for a boolean. -/
def switch : Json := rules [typed "boolean"]

/-- Rules for the identifier of an input or output file. -/
def identifier : Json :=
  rules [typed "string", text "pattern" "^[0-9A-Za-z_]+$", ("maxLength", .int 64)]

/-- Rules for an array whose items are objects with the given properties. -/
def listOf (required : List String) (properties : List (String × Json)) : Json :=
  rules [typed "array",
    ("items", rules [typed "object", ("required", texts required), ("properties", rules properties)])]

def container : Json :=
  rules [typed "object", ("required", texts ["image"]),
    ("properties", rules [("type", oneOf ["docker", "singularity"]), ("image", someText)])]

def inputs : Json :=
  listOf ["id", "name", "type"]
    [("id", identifier), ("name", someText), ("type", oneOf ["String", "File", "Flag", "Number"]),
      ("description", anyText), ("value-key", anyText), ("command-line-flag", anyText),
      ("optional", switch), ("list", switch), ("default-value", rules []),
      ("value-choices", rules [typed "array", ("minItems", .int 1)])]

def outputs : Json :=
  listOf ["id", "name", "path-template"]
    [("id", identifier), ("name", someText), ("description", anyText), ("path-template", someText),
      ("optional", switch)]

def document : Json :=
  rules [text "$schema" "http://json-schema.org/draft-07/schema#",
    text "$id" "https://taskforge.dev/schemas/descriptor-0.5.json",
    text "title" "Tool descriptor",
    text "description" ("Declarative description of a command-line tool: identity, container image, " ++
      "inputs and output files."),
    typed "object",
    ("required", texts ["name", "tool-version", "command-line"]),
    ("properties", rules
      [("name", remarkedText "Tool name."),
        ("tool-version", remarkedText "Version of the tool being described."),
        ("schema-version", rules [typed "string", ("enum", texts ["0.5"]),
          text "description" "Descriptor dialect version."]),
        ("description", anyText),
        ("command-line", remarkedText
          "Command template; value keys such as [INFILE] are substituted at launch."),
        ("docker-image", someText),
        ("container-image", container),
        ("inputs", inputs),
        ("output-files", outputs)])]

end Bundled

def bundled : Schema :=
  match Bundled.document with
  | .object fields => ⟨fields, checksOf (.ofDocument .draft07) (.object fields)⟩
  | _ => ⟨[], []⟩

end ToolPlugins.Schema
