import ToolPlugins.Bootstrap
import ToolPlugins.CommandLine.Arguments
import ToolPlugins.CommandLine.Report
import ToolPlugins.CommandLine.VariableFile

/-!
The commands of the program. A command takes the files and the environment and answers with what it
prints, how it ends and the files after it.
-/

namespace ToolPlugins.CommandLine

/-- What a command comes to: lines on standard output, lines of notes on standard error, the report if
    it fails, and the files after it. -/
structure Answer where
  lines : List String := []
  notes : List String := []
  failure : Option Report := none
  files : FileTree

/-- Where a command runs: the files, the variables of the environment and the home directory. -/
structure Surroundings where
  files : FileTree
  environment : Environment
  home : Path

namespace Surroundings

/-- The answer of a command that changes no file. -/
def answer (s : Surroundings) (result : Except Report (List String)) : Answer :=
  match result with
  | .ok lines => { lines, files := s.files }
  | .error report => { failure := some report, files := s.files }

/-- The schema that an argument names, or the bundled one. -/
def schema (s : Surroundings) (argument : Option String) : Except Report Schema :=
  (Schema.load s.files (argument.map .auto)).mapError (.within "Failed to load schema")

/-- The descriptor that an argument names. -/
def descriptor (s : Surroundings) (argument : String) : Except Report Descriptor :=
  (Descriptor.load s.files (.auto argument)).mapError (.within "Failed to load descriptor")

def settings (s : Surroundings) : Except Report Settings :=
  (Settings.load s.files (Settings.file s.home) s.environment).mapError
    (.within "Failed to load configuration")

end Surroundings

/-! ### Validating -/

/-- The validation errors of a descriptor. -/
def validate (s : Surroundings) (argument : String) (schemaArgument : Option String) : Answer :=
  let errors : Except Report (List ValidationError) := do
    let schema ← s.schema schemaArgument
    let descriptor ← s.descriptor argument
    return schema.validate descriptor
  match errors with
  | .error report => { failure := some report, files := s.files }
  | .ok [] => { lines := ["Descriptor is valid"], files := s.files }
  | .ok errors =>
    { lines := errors.map ValidationError.display
      failure := some ⟨"Descriptor has " ++ toString errors.length ++ " validation error(s)", []⟩
      files := s.files }

/-! ### Generating -/

/-- The plugin of a descriptor with the directory to export it to. -/
def preparePlugin (s : Surroundings) (argument : String) (schemaArgument : Option String)
    (out : Option Path) (permissive : Bool) : Except Report (GeneratedPlugin × Path) := do
  let settings ← s.settings
  let schema ← s.schema schemaArgument
  let descriptor ← s.descriptor argument
  let mode := if permissive then .permissive else settings.generationMode
  let plugin ← (generate schema descriptor mode).1.mapError .ofFailure
  return (plugin, out.getD (settings.exportRootPath s.home))

/-- The lines about an exported plugin. -/
def exportLines (plugin : GeneratedPlugin) (root : Path) : List String :=
  ["Identifier: " ++ plugin.identifier, "Version:    " ++ plugin.version, "Exported:   " ++ root,
    "Digest:     " ++ plugin.artifacts.digest]

/-- The export of the plugin of a descriptor. -/
def generateAndExport (s : Surroundings) (argument : String) (schemaArgument : Option String)
    (out : Option Path) (permissive : Bool) : Answer :=
  match preparePlugin s argument schemaArgument out permissive with
  | .error report => { failure := some report, files := s.files }
  | .ok (plugin, base) =>
    let notes := plugin.errors.map fun e => "warning: " ++ e.display
    match plugin.exportTo base s.files with
    | (.error e, files) =>
      { notes, files, failure := some (.within ("Failed to export plugin to " ++ base) e) }
    | (.ok root, files) => { lines := exportLines plugin root, notes, files }

/-! ### Bootstrapping -/

/-- A text that is followed by blanks up to a width. -/
def padded (width : Nat) (text : String) : String := text.pushn ' ' (width - text.length)

/-- The line about an integrated descriptor. -/
def integratedLine (tool : IntegratedTool) : String :=
  "  " ++ padded 24 tool.identifier ++ " " ++ padded 12 tool.version ++ " " ++ tool.typeName ++
    " (" ++ tool.path ++ ")"

def skippedLines (skipped : List SkippedDescriptor) : List String :=
  if skipped.isEmpty then []
  else ("Skipped " ++ toString skipped.length ++ " descriptor(s):") ::
    skipped.map fun s => "  " ++ s.path ++ ": " ++ s.reason

/-- The line about what is registered and recorded. -/
def registryLine (w : Installation) : String :=
  "Registry: " ++ toString w.registry.size ++ " identifier(s), " ++
    toString w.records.tools.length ++ " tool record(s), " ++
    toString w.records.versions.length ++ " version record(s)"

def bootstrapLines (run : BootstrapRun) : List String :=
  ("Integrated " ++ toString run.report.integrated.length ++ " descriptor(s):") ::
    run.report.integrated.map integratedLine ++ skippedLines run.report.skipped ++
    [registryLine run.after]

/-- The bootstrap of a fresh installation. -/
def bootstrap (s : Surroundings) (dirs : List Path) (schemaArgument : Option String)
    (multiVersion : Bool) : Answer :=
  let prepared : Except Report (Settings × ExecutionContext × Schema) := do
    let settings ← s.settings
    let context ← settings.executionContext.mapError .ofFailure
    let schema ← s.schema schemaArgument
    return (settings, context, schema)
  match prepared with
  | .error report => { failure := some report, files := s.files }
  | .ok (settings, context, schema) =>
    let dirs := if dirs.isEmpty then settings.descriptorDirPaths s.home else dirs
    let run := Installation.bootstrap { files := s.files } schema
      { context, helpRoot := settings.helpRootPath s.home } dirs
      { mode := settings.generationMode
        forceMultiVersion := multiVersion
        createVersionRecords := settings.createVersionRecords }
      settings.permits
    { lines := bootstrapLines run, files := run.after.files }

/-! ### The program -/

/-- The name and the version of the program. -/
def versionLine : String := "taskforge 0.1.0"

/-- The commands and options of the program. -/
def helpLines : List String :=
  ["Compile tool descriptors into runnable task plugins",
    "",
    "Usage: taskforge [OPTIONS] <COMMAND>",
    "",
    "Commands:",
    "  validate   Validate a descriptor and print every error found",
    "  generate   Generate a plugin from a descriptor and export it to disk",
    "  classify   Print the canonical identifier for a tool name",
    "  bootstrap  Integrate every descriptor in the given (or configured) directories",
    "  help       Print this message or the help of the given subcommand(s)",
    "",
    "Options:",
    "      --log-format <LOG_FORMAT>  Log output format [default: text] " ++
      "[possible values: text, json]",
    "  -h, --help                     Print help",
    "  -V, --version                  Print version"]

def Request.answer (s : Surroundings) : Request → Answer
  | .validate descriptor schema => CommandLine.validate s descriptor schema
  | .generate descriptor schema out permissive =>
    generateAndExport s descriptor schema out permissive
  | .classify name => { lines := [Identifier.classify name], files := s.files }
  | .bootstrap dirs schema multiVersion => CommandLine.bootstrap s dirs schema multiVersion
  | .help => { lines := helpLines, files := s.files }
  | .version => { lines := [versionLine], files := s.files }

/-- How the program ends: its exit code, what it printed and the files after it. -/
structure Ending where
  exitCode : Nat
  output : String
  errors : String
  files : FileTree

def textOfLines (lines : List String) : String := String.join (lines.map (· ++ "\n"))

/-- How the program ends after an answer. -/
def Answer.ending (a : Answer) : Ending :=
  { exitCode := if a.failure.isSome then 1 else 0
    output := textOfLines a.lines
    errors := textOfLines a.notes ++ (a.failure.map Report.text).getD ""
    files := a.files }

/-- How the program ends when its arguments ask for nothing. -/
def UsageProblem.ending (p : UsageProblem) (files : FileTree) : Ending :=
  { exitCode := 2, output := "", errors := "error: " ++ p.message ++ "\n", files }

/-- The file with variables that stand beside those of the environment. -/
def variableFile : Path := ".env"

/-- The program. -/
def run (s : Surroundings) (arguments : List String) : Ending :=
  let s := { s with environment := VariableFile.load s.files variableFile s.environment }
  match Request.ofArguments arguments with
  | .error problem => problem.ending s.files
  | .ok request => (request.answer s).ending

end ToolPlugins.CommandLine
