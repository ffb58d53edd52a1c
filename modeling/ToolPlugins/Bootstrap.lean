import ToolPlugins.Discovery
import ToolPlugins.Installation

/-!
Bootstrapping an installation: every permitted descriptor that is found is generated and integrated. An
identifier that occurs with more than one version is integrated through a switcher. A descriptor that
fails is reported as skipped, and the others go on.
-/

namespace ToolPlugins

/-- What a bootstrap does with every descriptor. -/
structure BootstrapOptions where
  mode : GenerationMode := .strict
  forceMultiVersion : Bool := false
  createVersionRecords : Bool := false
  deriving DecidableEq, Repr

/-- A descriptor that was integrated, with what it was integrated as. -/
structure IntegratedTool where
  identifier : String
  version : String
  typeName : String
  path : Path
  deriving DecidableEq, Repr

/-- A descriptor that was not integrated, with the reason. -/
structure SkippedDescriptor where
  path : Path
  reason : String
  deriving DecidableEq, Repr

/-- What became of each descriptor. -/
structure BootstrapReport where
  integrated : List IntegratedTool := []
  skipped : List SkippedDescriptor := []
  deriving DecidableEq, Repr

/-- A bootstrap on its way: the report so far, the warnings so far and the installation. -/
structure BootstrapRun (σ : Type := RecordStore) where
  report : BootstrapReport
  warnings : List Warning
  after : Installation σ

namespace FoundDescriptor

def name (f : FoundDescriptor) : String := f.descriptor.name

def version (f : FoundDescriptor) : String := f.descriptor.version

def identifier (f : FoundDescriptor) : String := Identifier.classify f.name

/-- The report on a descriptor whose tool is not permitted. -/
def notPermitted (f : FoundDescriptor) : SkippedDescriptor :=
  ⟨f.path, "tool '" ++ f.name ++ "' is not permitted"⟩

end FoundDescriptor

variable {σ : Type} [ToolStore σ]

namespace Bootstrap

/-- The versions that an identifier occurs with, each once. -/
def versionsOf (candidates : List FoundDescriptor) (identifier : String) : List String :=
  ((candidates.filter fun f => f.identifier == identifier).map (·.version)).eraseDups

/-- Whether an identifier is integrated through a switcher. -/
def isMultiVersion (options : BootstrapOptions) (candidates : List FoundDescriptor)
    (identifier : String) : Bool :=
  options.forceMultiVersion || decide (1 < (versionsOf candidates identifier).length)

def integrateOne (schema : Schema) (i : Integrator) (options : BootstrapOptions)
    (candidates : List FoundDescriptor) (w : Installation σ) (f : FoundDescriptor) :
    Outcome LoadedTask σ :=
  match generate schema f.descriptor options.mode with
  | (.error e, warnings) => ⟨.error e, warnings, w⟩
  | (.ok plugin, warnings) =>
    let outcome := w.integrate i plugin
      { createVersionRecord := options.createVersionRecords
        multiVersion := isMultiVersion options candidates f.identifier }
    { outcome with warnings := warnings ++ outcome.warnings }

/-- The run after one more descriptor. -/
def step (schema : Schema) (i : Integrator) (options : BootstrapOptions)
    (candidates : List FoundDescriptor) (run : BootstrapRun σ) (f : FoundDescriptor) : BootstrapRun σ :=
  let outcome := integrateOne schema i options candidates run.after f
  match outcome.result with
  | .ok task =>
    { report :=
        { run.report with
          integrated := run.report.integrated ++
            [⟨task.identifier, task.version, task.typeName, f.path⟩] }
      warnings := run.warnings ++ outcome.warnings
      after := outcome.after }
  | .error e =>
    { report := { run.report with skipped := run.report.skipped ++ [⟨f.path, e.message⟩] }
      warnings := run.warnings ++ outcome.warnings ++ [.skippedDescriptor f.path e.message]
      after := outcome.after }

end Bootstrap

/-- The installation with every permitted one of some descriptors integrated, after the warnings so far. -/
def Installation.integrateAll (w : Installation σ) (schema : Schema) (i : Integrator) (options : BootstrapOptions)
    (permitted : String → Bool) (found : List FoundDescriptor) (warnings : List Warning) : BootstrapRun σ :=
  let candidates := found.filter fun f => permitted f.name
  let refused := found.filter fun f => !permitted f.name
  let start : BootstrapRun σ :=
    { report := { skipped := refused.map FoundDescriptor.notPermitted }, warnings, after := w }
  candidates.foldl (Bootstrap.step schema i options candidates) start

/-- The installation with every permitted descriptor of some directories of its own files integrated. -/
def Installation.bootstrap (w : Installation σ) (schema : Schema) (i : Integrator) (dirs : List Path)
    (options : BootstrapOptions) (permitted : String → Bool) : BootstrapRun σ :=
  let (found, warnings) := Discovery.discover w.files dirs
  w.integrateAll schema i options permitted found warnings

/-- A bootstrap that finds its descriptors by the answers of a system. Where a directory cannot be listed, nothing is
    integrated. -/
def Installation.bootstrapBy (files : FileView) (w : Installation σ) (schema : Schema) (i : Integrator)
    (dirs : List Path) (options : BootstrapOptions) (permitted : String → Bool) : Outcome BootstrapReport σ :=
  match Discovery.scan files dirs with
  | (.error e, warnings) => ⟨.error e, warnings, w⟩
  | (.ok found, warnings) =>
    let run := w.integrateAll schema i options permitted found warnings
    ⟨.ok run.report, run.warnings, run.after⟩

end ToolPlugins
