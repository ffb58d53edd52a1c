import ToolPlugins.Settings.Reader

/-!
Variables of the environment that stand in for settings. A variable that is blank counts as absent.
-/

namespace ToolPlugins

/-- Variables of the environment with their values. -/
abbrev Environment := Table String String

namespace Environment

/-- The value of a variable between its blanks, if it is not blank. -/
def value? (env : Environment) (name : String) : Option String :=
  ((Table.get? env name).map Text.trimmed).filter (· ≠ "")

end Environment

namespace Settings

/-- The truth value that a word stands for. -/
def boolean? (word : String) : Option Bool :=
  let word := Text.lowered word
  if ["1", "true", "yes", "on"].contains word then some true
  else if ["0", "false", "no", "off"].contains word then some false
  else none

/-- The parts of a list of directories, which colons divide. -/
def directories (text : String) : List Path :=
  ((text.toList.splitOn ':').map fun part => Text.trimmed (String.ofList part)).filter (· ≠ "")

/-- A variable that stands in for a setting. -/
inductive Variable where
  | helpRoot
  | exportRoot
  | descriptorDirs
  | context
  | host
  | strict
  deriving DecidableEq, Repr

/-- The variables in the order in which they are looked at. -/
def Variable.all : List Variable := [helpRoot, exportRoot, descriptorDirs, context, host, strict]

def Variable.name : Variable → String
  | helpRoot => "TASKFORGE_HELP_ROOT"
  | exportRoot => "TASKFORGE_EXPORT_ROOT"
  | descriptorDirs => "TASKFORGE_DESCRIPTOR_DIRS"
  | context => "TASKFORGE_CONTEXT"
  | host => "TASKFORGE_HOST"
  | strict => "TASKFORGE_STRICT"

/-- The settings with a variable's value in place. -/
def assign (s : Settings) (v : Variable) (value : String) : Result Settings :=
  match v with
  | .helpRoot => .ok { s with helpRoot := value }
  | .exportRoot => .ok { s with exportRoot := value }
  | .descriptorDirs => .ok { s with descriptorDirs := directories value }
  | .context =>
    match DefinitionContext.ofText? value with
    | some context => .ok { s with context }
    | none => .error (.settings (DefinitionContext.unknown value))
  | .host => .ok { s with host := some value }
  | .strict =>
    match boolean? value with
    | some strict => .ok { s with strict }
    | none =>
      .error (.settings (v.name ++ " must be a boolean, got '" ++ Text.lowered value ++ "'"))

/-- The settings with a variable of the environment in place, if it is there. -/
def overrideOne (env : Environment) (s : Settings) (v : Variable) : Result Settings :=
  match env.value? v.name with
  | some value => s.assign v value
  | none => .ok s

/-- Puts variables of the environment in place, up to the first whose text cannot be its value. The settings are given as
    they are then. -/
def overrideEach (env : Environment) : List Variable → Settings → Result Unit × Settings
  | [], s => (.ok (), s)
  | v :: rest, s =>
    match overrideOne env s v with
    | .ok t => overrideEach env rest t
    | .error failure => (.error failure, s)

/-- Puts the environment in place. If that fails, the variables before the one at fault are in place. -/
def overrideInPlace (s : Settings) (env : Environment) : Result Unit × Settings := overrideEach env Variable.all s

/-- The settings with every variable of the environment in place. -/
def override (s : Settings) (env : Environment) : Result Settings :=
  let (result, t) := s.overrideInPlace env
  result.map fun () => t

/-- The settings of a file and the environment. -/
def load (tree : FileTree) (path : Path) (env : Environment) : Result Settings := do
  (← ofFile tree path).override env

end Settings

end ToolPlugins
