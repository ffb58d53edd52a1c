import ToolPlugins.Artifact.Digest
import ToolPlugins.Document
import ToolPlugins.Failure
import ToolPlugins.Schema.Bundled
import ToolPlugins.Warning

/-!
Generated plugins: a descriptor with the artifacts made from it. In strict mode a descriptor with
validation errors is refused; in permissive mode the errors are kept with the plugin.
-/

namespace ToolPlugins

/-- The schema of a source; the bundled one where there is none. -/
def Schema.load (files : FileView) : Option DocumentSource → Result Schema
  | none => .ok .bundled
  | some source => ((source.load files).bind Schema.ofJson?).mapError .schemaLoad

def Descriptor.load (files : FileView) (source : DocumentSource) : Result Descriptor :=
  ((source.load files).bind Descriptor.ofJson?).mapError .descriptorLoad

/-- Nothing for a descriptor without errors, and otherwise all of them as a failure. -/
def Schema.validateStrict (s : Schema) (d : Descriptor) : Result Unit :=
  match s.validate d with
  | [] => .ok ()
  | errors => .error (.invalid errors)

/-- Whether validation errors stop generation. -/
inductive GenerationMode where
  | strict
  | permissive
  deriving DecidableEq, Repr

/-- A descriptor with its artifacts. -/
structure GeneratedPlugin where
  identifier : String
  descriptor : Descriptor
  errors : List ValidationError
  artifacts : Artifacts
  deriving Repr

namespace GeneratedPlugin

def version (p : GeneratedPlugin) : String := p.descriptor.version

/-- Whether the descriptor had no validation errors. -/
def isValid (p : GeneratedPlugin) : Bool := p.errors.isEmpty

end GeneratedPlugin

/-- The warning about a descriptor that is used in spite of its errors. -/
def generationWarnings (d : Descriptor) (errors : List ValidationError) (mode : GenerationMode) :
    List Warning :=
  if mode = .permissive && !errors.isEmpty then
    [.generatingDespiteErrors (d.name?.getD "<unnamed>") errors.length]
  else []

/-- The plugin of a descriptor, with the warnings on the way. -/
def generate (schema : Schema) (d : Descriptor) (mode : GenerationMode) :
    Result GeneratedPlugin × List Warning :=
  let errors := schema.validate d
  if mode = .strict && !errors.isEmpty then (.error (.invalid errors), [])
  else
    let plugin := (render schema d).map fun artifacts =>
      { identifier := Identifier.classify d.name, descriptor := d, errors, artifacts }
    (plugin.mapError .generation, generationWarnings d errors mode)

end ToolPlugins
