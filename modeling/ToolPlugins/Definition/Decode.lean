import ToolPlugins.Definition.Basic
import ToolPlugins.Json.Decode

/-!
Task definitions as JSON records, and back.
-/

namespace ToolPlugins

open Json

namespace DefinitionContext

/-- The side that a value names. -/
def decode : Decoder DefinitionContext := fun value => do
  let name ← Decoder.name [client.name, worker.name] value
  return if name = client.name then client else worker

end DefinitionContext

namespace InputSpec

def rules : List FieldRule :=
  [.of "id" Decoder.text, .of "kind" Decoder.text, .of "optional" Decoder.boolean,
    .optional "value_key" Decoder.text]

def decode : Decoder InputSpec := fun value => do
  match ← recordFields "InputSpec" rules value with
  | [id, kind, optional, valueKey] =>
    return {
      id := ← Decoder.text id
      kind := ← Decoder.text kind
      optional := ← Decoder.boolean optional
      valueKey := ← Decoder.optional Decoder.text valueKey }
  | others => .error (.length others.length "4")

def toJson (i : InputSpec) : Json :=
  ofFields [("id", .string i.id), ("kind", .string i.kind), ("optional", .bool i.optional),
    ("value_key", ofString? i.valueKey)]

end InputSpec

namespace OutputSpec

/-- The fields of an output file. -/
def rules : List FieldRule :=
  [.of "id" Decoder.text, .of "path_template" Decoder.text, .of "optional" Decoder.boolean]

/-- The output file of a record. -/
def decode : Decoder OutputSpec := fun value => do
  match ← recordFields "OutputSpec" rules value with
  | [id, pathTemplate, optional] =>
    return {
      id := ← Decoder.text id
      pathTemplate := ← Decoder.text pathTemplate
      optional := ← Decoder.boolean optional }
  | others => .error (.length others.length "3")

/-- The record of an output file. -/
def toJson (o : OutputSpec) : Json :=
  ofFields [("id", .string o.id), ("path_template", .string o.pathTemplate),
    ("optional", .bool o.optional)]

end OutputSpec

namespace TaskDefinition

def rules : List FieldRule :=
  [.of "identifier" Decoder.text, .of "context" DefinitionContext.decode, .of "tool" Decoder.text,
    .of "version" Decoder.text, .optional "description" Decoder.text, .optional "image" Decoder.text,
    .optional "command" Decoder.text, .of "inputs" (Decoder.list InputSpec.decode),
    .of "outputs" (Decoder.list OutputSpec.decode)]

def decode : Decoder TaskDefinition := fun value => do
  match ← recordFields "TaskDefinition" rules value with
  | [identifier, context, tool, version, description, image, command, inputs, outputs] =>
    return {
      identifier := ← Decoder.text identifier
      context := ← DefinitionContext.decode context
      tool := ← Decoder.text tool
      version := ← Decoder.text version
      description := ← Decoder.optional Decoder.text description
      image := ← Decoder.optional Decoder.text image
      command := ← Decoder.optional Decoder.text command
      inputs := ← Decoder.list InputSpec.decode inputs
      outputs := ← Decoder.list OutputSpec.decode outputs }
  | others => .error (.length others.length "9")

def toJson (d : TaskDefinition) : Json :=
  ofFields [("identifier", .string d.identifier), ("context", .string d.context.name),
    ("tool", .string d.tool), ("version", .string d.version),
    ("description", ofString? d.description), ("image", ofString? d.image),
    ("command", ofString? d.command), ("inputs", .array (d.inputs.map InputSpec.toJson)),
    ("outputs", .array (d.outputs.map OutputSpec.toJson))]

end TaskDefinition

end ToolPlugins
