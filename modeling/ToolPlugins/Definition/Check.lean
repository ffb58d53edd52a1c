import ToolPlugins.Definition.Problem
import ToolPlugins.Identifier

/-!
The rules for definitions: a canonical identifier, a version that is not blank, a command on the
worker side, and identifiers of inputs and output files that are word characters, at most 64, and do
not repeat.
-/

namespace ToolPlugins.TaskDefinition

/-- How long the identifier of an input or output file may be. -/
def maxIdLength : Nat := 64

/-- Whether a text can be the identifier of an input or output file. -/
def isId (id : String) : Bool :=
  let s := id.toList
  !s.isEmpty && decide (s.length ≤ maxIdLength) && s.all Text.isWord

/-- The first identifier of a list that cannot be one or that stands in `seen`. -/
def idProblem? (role : Role) (identifier : String) (seen : List String) :
    List String → Option DefinitionProblem
  | [] => none
  | id :: rest =>
    if !isId id then some (.invalidId role id identifier)
    else if seen.contains id then some (.repeatedId role id identifier)
    else idProblem? role identifier (id :: seen) rest

/-- Whether a command is there and is not blank. -/
def hasCommand (d : TaskDefinition) : Bool :=
  match d.command with
  | some command => !Text.isBlankText command.toList
  | none => false

/-- The first rule that a definition breaks. -/
def problem? (d : TaskDefinition) : Option DefinitionProblem :=
  if !Identifier.isCanonical d.identifier then some (.notCanonical d.identifier)
  else if Text.isBlankText d.version.toList then some (.blankVersion d.identifier)
  else if d.context = .worker && !d.hasCommand then some (.noCommand d.identifier)
  else (idProblem? .input d.identifier [] (d.inputs.map (·.id))).or
    (idProblem? .output d.identifier [] (d.outputs.map (·.id)))

end ToolPlugins.TaskDefinition
