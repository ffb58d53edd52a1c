import ToolPlugins.Json.Lookup
import ToolPlugins.Json.Printer

/-!
Tool descriptors. A descriptor is a JSON object that says how one command-line tool is called; fields
that are missing or of another type count as absent.
-/

namespace ToolPlugins

/-- A document that describes a tool. -/
structure Descriptor where
  fields : Json.Fields
  deriving Repr

namespace Descriptor

/-- The descriptor of a document, or why the document is none. -/
def ofJson? : Json → Except String Descriptor
  | .object fields => .ok ⟨fields⟩
  | other => .error ("descriptor must be a JSON object, got " ++ other.kind)

def document (d : Descriptor) : Json := .object d.fields

/-- The value of a top-level field. -/
def get? (d : Descriptor) (key : String) : Option Json := d.fields.get? key

/-- The value at a dotted path: a top-level field, and from there on key by key and index by index. -/
def lookup? (d : Descriptor) (path : String) : Option Json :=
  match Json.dotted path with
  | [] => none
  | first :: rest => (d.get? first).bind fun value => value.follow? rest

/-- The text of a top-level field. -/
def text? (d : Descriptor) (key : String) : Option String := (d.get? key).bind Json.string?

def name? (d : Descriptor) : Option String := d.text? "name"

def version? (d : Descriptor) : Option String := d.text? "tool-version"

/-- What the tool does. -/
def description? (d : Descriptor) : Option String := d.text? "description"

/-- The command with the value keys of its inputs. -/
def commandLine? (d : Descriptor) : Option String := d.text? "command-line"

/-- The container image: the field of its own, or else the image of the container description. -/
def image? (d : Descriptor) : Option String :=
  match d.text? "docker-image" with
  | some image => some image
  | none => ((d.get? "container-image").bind (Json.get? "image")).bind Json.string?

/-- The items of a top-level array. -/
def list (d : Descriptor) (key : String) : List Json := ((d.get? key).bind Json.array?).getD []

def inputs (d : Descriptor) : List Json := d.list "inputs"

/-- The output files of the tool. -/
def outputs (d : Descriptor) : List Json := d.list "output-files"

/-- The name of the tool, or nothing in writing. -/
def name (d : Descriptor) : String := d.name?.getD ""

/-- The version of the tool, or nothing in writing. -/
def version (d : Descriptor) : String := d.version?.getD ""

end Descriptor

end ToolPlugins
