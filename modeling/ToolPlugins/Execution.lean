import ToolPlugins.Definition.Basic

/-!
Where tasks are handled: on the side that submits them, or on a host that executes them.
-/

namespace ToolPlugins

/-- The side that integrates tasks. Only the executing side has a host. -/
inductive ExecutionContext where
  | client
  | worker (host : String)
  deriving DecidableEq, Repr

namespace ExecutionContext

/-- The side whose definitions are loaded. -/
def definitionContext : ExecutionContext → DefinitionContext
  | client => .client
  | worker _ => .worker

/-- The host, on the executing side. -/
def host? : ExecutionContext → Option String
  | client => none
  | worker host => some host

end ExecutionContext

end ToolPlugins
