import ToolPlugins.Text.Ascii
import ToolPlugins.Text.Blank

/-!
Task definitions: what a generated definition declares about a task. A definition is made for the side
that submits the task (client) or for the side that executes it (worker).
-/

namespace ToolPlugins

/-- The side that a definition is made for. -/
inductive DefinitionContext where
  | client
  | worker
  deriving DecidableEq, Repr

namespace DefinitionContext

def name : DefinitionContext → String
  | client => "client"
  | worker => "worker"

/-- The side that a text names, in letters of either case and between blanks. -/
def ofText? (text : String) : Option DefinitionContext :=
  let key := Text.lowered (Text.trimmed text)
  if key = "client" then some client else if key = "worker" then some worker else none

/-- The wording of a text that names no side. -/
def unknown (text : String) : String :=
  "Unknown execution context '" ++ Text.lowered (Text.trimmed text) ++
    "': expected 'client' or 'worker'"

end DefinitionContext

/-- A parameter of a task. `valueKey` is what stands for it in the command. -/
structure InputSpec where
  id : String
  kind : String
  optional : Bool
  valueKey : Option String
  deriving DecidableEq, Repr

/-- An output file of a task. -/
structure OutputSpec where
  id : String
  pathTemplate : String
  optional : Bool
  deriving DecidableEq, Repr

/-- A task as its definition declares it. -/
structure TaskDefinition where
  identifier : String
  context : DefinitionContext
  tool : String
  version : String
  description : Option String
  image : Option String
  command : Option String
  inputs : List InputSpec
  outputs : List OutputSpec
  deriving DecidableEq, Repr

namespace TaskDefinition

/-- The first input with an identifier. -/
def input? (d : TaskDefinition) (id : String) : Option InputSpec := d.inputs.find? fun i => i.id == id

/-- The identifiers of the inputs that have to be given. -/
def requiredInputs (d : TaskDefinition) : List String :=
  (d.inputs.filter fun i => !i.optional).map (·.id)

end TaskDefinition

end ToolPlugins
