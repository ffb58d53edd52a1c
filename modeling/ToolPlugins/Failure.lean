import ToolPlugins.Artifact.Template
import ToolPlugins.Definition.Problem
import ToolPlugins.FileTree.Basic
import ToolPlugins.Validation

/-!
Failures: why an operation has no result, with the wording of each cause.
-/

namespace ToolPlugins

/-- Why an operation has no result. -/
inductive Failure where
  | schemaLoad (message : String)
  | descriptorLoad (message : String)
  | invalid (errors : List ValidationError)
  | generation (problem : GenerationProblem)
  | load (problem : DefinitionProblem)
  | helpPublish (path : Path) (cause : FileError)
  | exportFile (path : Path) (cause : FileError)
  | noKnownVersions (identifier : String)
  | alreadyBound (identifier : String)
  | store (message : String)
  | settings (message : String)
  | json (message : String)
  deriving Repr

namespace Failure

def message : Failure → String
  | schemaLoad m => "Schema load error: " ++ m
  | descriptorLoad m => "Descriptor load error: " ++ m
  | invalid errors =>
    "Descriptor failed validation with " ++ toString errors.length ++ " error(s): " ++
      "; ".intercalate (errors.map ValidationError.display)
  | generation p =>
    "Generation error in template '" ++ p.kind.name ++ "': " ++ p.problem.message
  | load p => "Load error: " ++ p.message
  | helpPublish path cause => "Failed to publish help file " ++ path ++ ": " ++ cause.message
  | exportFile path cause => "Failed to export artifact to " ++ path ++ ": " ++ cause.message
  | noKnownVersions identifier => "No versions registered for '" ++ identifier ++ "'"
  | alreadyBound identifier => "Task '" ++ identifier ++ "' is already bound to a version"
  | store m => "Store error: " ++ m
  | settings m => "Configuration error: " ++ m
  | json m => "JSON error: " ++ m

/-- What a failure was itself caused by, if it names a cause of its own. -/
def cause? : Failure → Option String
  | helpPublish _ cause => some cause.message
  | exportFile _ cause => some cause.message
  | _ => none

end Failure

/-- The result of an operation. -/
abbrev Result (α : Type) := Except Failure α

end ToolPlugins
