import ToolPlugins.Execution
import ToolPlugins.Plugin

/-!
Settings: where help pages, exports and descriptors lie, on which side tasks are handled, and which
tools are permitted. Directories may start at the home directory.
-/

namespace ToolPlugins

/-- All settings. -/
structure Settings where
  helpRoot : Path := "~/.taskforge/public/help"
  exportRoot : Path := "./plugins"
  descriptorDirs : List Path := ["~/.taskforge/descriptors"]
  context : DefinitionContext := .client
  host : Option String := none
  strict : Bool := true
  createVersionRecords : Bool := false
  allowedTools : List String := []
  blockedTools : List String := []
  deriving DecidableEq, Repr

/-- Whether a tool is permitted: it is not blocked, and allowed if any tool is. -/
def toolPermitted (allowed blocked : List String) (tool : String) : Bool :=
  !blocked.contains tool && (allowed.isEmpty || allowed.contains tool)

namespace Settings

/-- The file that settings are read from. -/
def file (home : Path) : Path := Path.join (Path.join home ".taskforge") "config.json"

/-- Where tasks are handled. The executing side needs a host that is not blank. -/
def executionContext (s : Settings) : Result ExecutionContext :=
  match s.context with
  | .client => .ok .client
  | .worker =>
    match (s.host.map Text.trimmed).filter (· ≠ "") with
    | some host => .ok (.worker host)
    | none => .error (.settings "worker context requires a host")

def generationMode (s : Settings) : GenerationMode := if s.strict then .strict else .permissive

/-- Whether a tool is permitted. -/
def permits (s : Settings) (tool : String) : Bool := toolPermitted s.allowedTools s.blockedTools tool

/-- The directory of help pages. -/
def helpRootPath (home : Path) (s : Settings) : Path := Path.expandHome home s.helpRoot

/-- The directory that exports go to. -/
def exportRootPath (home : Path) (s : Settings) : Path := Path.expandHome home s.exportRoot

/-- The directories of descriptors. -/
def descriptorDirPaths (home : Path) (s : Settings) : List Path :=
  s.descriptorDirs.map (Path.expandHome home)

end Settings

end ToolPlugins
