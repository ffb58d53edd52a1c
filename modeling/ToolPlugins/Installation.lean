import ToolPlugins.Artifact.Export
import ToolPlugins.Definition.Reader
import ToolPlugins.Execution
import ToolPlugins.Records
import ToolPlugins.Registry.Instance

/-!
Integration of a generated plugin into an installation. Its definition is loaded first, and nothing
changes if that fails. Then the task is registered, then its help page is published, then its records
are made; a failure on the way keeps what was done before.
-/

namespace ToolPlugins

/-- What integration changes: what is registered, what the store of the records holds, and the files.
    `loaded` counts the tasks that were loaded. -/
structure Installation (σ : Type := RecordStore) where
  registry : Registry := {}
  records : σ := by exact {}
  files : FileTree := {}
  loaded : Nat := 0
  deriving Repr

/-- The result of an operation with the warnings on the way and the installation after it. -/
structure Outcome (α : Type) (σ : Type := RecordStore) where
  result : Result α
  warnings : List Warning
  after : Installation σ

/-- Where tasks are integrated, and where their help pages go. -/
structure Integrator where
  context : ExecutionContext
  helpRoot : Path
  deriving DecidableEq, Repr

/-- What one integration does beside registering the task as the only one of its identifier. -/
structure IntegrationOptions where
  register : Bool := true
  createVersionRecord : Bool := false
  multiVersion : Bool := false
  deriving DecidableEq, Repr

/-- The mode of a published help page. -/
def helpFileMode : Nat := 0o664

namespace Integrator

/-- The help page of an identifier, which all its versions share. -/
def helpPath (i : Integrator) (identifier : String) : Path :=
  Path.join i.helpRoot (identifier ++ "_help.html")

/-- The artifact with the definition of the integrator's side. -/
def definitionKind (i : Integrator) : ArtifactKind :=
  match i.context.definitionContext with
  | .client => .clientDefinition
  | .worker => .workerDefinition

/-- The task of a plugin, loaded for the integrator's side. -/
def loadTask (i : Integrator) (serial : Nat) (plugin : GeneratedPlugin) (multiVersion : Bool) :
    Result LoadedTask :=
  let source := plugin.artifacts.body i.definitionKind
  match Definition.load source plugin.identifier i.context.definitionContext with
  | .error problem => .error (.load problem)
  | .ok definition =>
    .ok
      { serial, definition, plugin
        typeName :=
          if multiVersion then Identifier.versionTypeName plugin.identifier definition.version
          else plugin.identifier
        helpPath := i.helpPath plugin.identifier }

end Integrator

variable {σ : Type}

/-- What a store answers and holds when it is asked for the records of a task. A version is recorded on
    the executing side only. -/
def ToolStore.recordTask [ToolStore σ] (records : σ) (context : ExecutionContext) (task : LoadedTask)
    (createVersionRecord : Bool) : Result Unit × σ :=
  let fields := ToolFields.ofDescriptor task.plugin.descriptor
  match upsertTool records task.qualifiedName fields with
  | (.error e, records) => (.error e, records)
  | (.ok tool, records) =>
    match createVersionRecord, context with
    | true, .worker host =>
      let (version, records) := upsertVersion records tool.record host task.version fields
      (version.map fun _ => (), records)
    | _, _ => (.ok (), records)

namespace Installation

/-- The installation with a loaded task registered, and the warnings about what it replaces. -/
def registerTask (w : Installation σ) (task : LoadedTask) (multiVersion : Bool) :
    List Warning × Installation σ :=
  let (warnings, registry) : List Warning × Registry :=
    if multiVersion then (w.registry.registerVersion task).2 else (w.registry.register task).2
  (warnings, { w with registry, loaded := w.loaded + 1 })

/-- The installation with the help page of a task published. -/
def publishHelp (w : Installation σ) (task : LoadedTask) : Result Unit × Installation σ :=
  let path := task.helpPath
  match w.files.publish path (.text (task.body .help)) with
  | (.error (_, e), files) => (.error (.helpPublish path e), { w with files })
  | (.ok (), files) =>
    match files.setMode path helpFileMode with
    | .error e => (.error (.helpPublish path e), { w with files })
    | .ok files => (.ok (), { w with files })

/-- The installation with the records of a task. -/
def recordTask [ToolStore σ] (w : Installation σ) (context : ExecutionContext) (task : LoadedTask)
    (createVersionRecord : Bool) : Result Unit × Installation σ :=
  let (result, records) := ToolStore.recordTask w.records context task createVersionRecord
  (result, { w with records })

/-- The installation with the task of a plugin loaded, registered, published and recorded. -/
def integrate [ToolStore σ] (w : Installation σ) (i : Integrator) (plugin : GeneratedPlugin)
    (options : IntegrationOptions) : Outcome LoadedTask σ :=
  match i.loadTask w.loaded plugin options.multiVersion with
  | .error e => ⟨.error e, [], w⟩
  | .ok task =>
    let (warnings, w) := w.registerTask task options.multiVersion
    match w.publishHelp task with
    | (.error e, w) => ⟨.error e, warnings, w⟩
    | (.ok (), w) =>
      if options.register then
        let (result, w) := w.recordTask i.context task options.createVersionRecord
        ⟨result.map fun () => task, warnings, w⟩
      else ⟨.ok task, warnings, w⟩

end Installation

end ToolPlugins
