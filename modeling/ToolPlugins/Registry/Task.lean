import ToolPlugins.Plugin

/-!
Loaded tasks: a plugin whose definition was read for one side, as a type under a name.
-/

namespace ToolPlugins

/-- A loaded task. No two loaded tasks have the same `serial`, even if they are equal in all else. -/
structure LoadedTask where
  serial : Nat
  definition : TaskDefinition
  typeName : String
  plugin : GeneratedPlugin
  helpPath : Path
  deriving Repr

/-- The name of an identifier among all types. -/
def qualifiedName (identifier : String) : String := "Task::" ++ identifier

namespace LoadedTask

def identifier (t : LoadedTask) : String := t.definition.identifier

def version (t : LoadedTask) : String := t.definition.version

/-- The name of the task among all types, which its record is kept under. -/
def qualifiedName (t : LoadedTask) : String := ToolPlugins.qualifiedName t.identifier

/-- The directory of public files. Generated plugins have none. -/
def publicPath? (_ : LoadedTask) : Option Path := none

def body (t : LoadedTask) (view : ViewKind) : String := t.plugin.artifacts.body view.artifact

/-- Whether a name is one of the names of the type. -/
def isA (t : LoadedTask) (name : String) : Bool :=
  name == t.typeName || name == t.identifier || name == t.qualifiedName

end LoadedTask

end ToolPlugins
