import Mathlib
import ToolPlugins.Proofs.Definition.Check
import ToolPlugins.Proofs.Installation.Integrate
import ToolPlugins.Proofs.Registry.Entry

/-!
The parts of an integration. A task is registered, its page is published and its records are made; each part
looks at its own part of the installation only, so what one leaves does not depend on what the others find.
-/

namespace ToolPlugins

/-- The files with the page of a task published. -/
def FileTree.publishPage (t : FileTree) (task : LoadedTask) : Result Unit × FileTree :=
  let published := ({ files := t } : Installation).publishHelp task
  (published.1, published.2.files)

/-- A plugin is loaded when its definition is, and the task is of the plugin and of the definition. -/
theorem Integrator.loadTask_eq_ok_iff {i : Integrator} {serial : Nat} {plugin : GeneratedPlugin} {multiVersion : Bool}
    {task : LoadedTask} :
    i.loadTask serial plugin multiVersion = .ok task ↔
      ∃ definition, Definition.load (plugin.artifacts.body i.definitionKind) plugin.identifier
          i.context.definitionContext = .ok definition ∧
        task =
          { serial, definition, plugin
            typeName :=
              if multiVersion then Identifier.versionTypeName plugin.identifier definition.version
              else plugin.identifier
            helpPath := i.helpPath plugin.identifier } := by
  rw [loadTask]
  split
  · next problem hload =>
    constructor
    · intro h
      cases h
    · rintro ⟨definition, hload', -⟩
      cases hload.symm.trans hload'
  · next definition hload =>
    constructor
    · intro h
      cases h
      exact ⟨definition, hload, rfl⟩
    · rintro ⟨definition', hload', rfl⟩
      cases hload.symm.trans hload'
      rfl

theorem Integrator.identifier_of_loadTask {i : Integrator} {serial : Nat} {plugin : GeneratedPlugin}
    {multiVersion : Bool} {task : LoadedTask} (h : i.loadTask serial plugin multiVersion = .ok task) :
    task.identifier = plugin.identifier := by
  obtain ⟨definition, hload, rfl⟩ := loadTask_eq_ok_iff.mp h
  exact (Definition.load_eq_ok_iff.mp hload).2.1

theorem Integrator.isCanonical_of_loadTask {i : Integrator} {serial : Nat} {plugin : GeneratedPlugin}
    {multiVersion : Bool} {task : LoadedTask} (h : i.loadTask serial plugin multiVersion = .ok task) :
    Identifier.isCanonical plugin.identifier = true := by
  obtain ⟨definition, hload, -⟩ := loadTask_eq_ok_iff.mp h
  obtain ⟨-, hid, -, hproblem⟩ := Definition.load_eq_ok_iff.mp hload
  rw [← hid]
  exact (TaskDefinition.problem?_eq_none_iff.mp hproblem).1

theorem Integrator.loadTask_error {i : Integrator} {serial : Nat} {plugin : GeneratedPlugin} {multiVersion : Bool}
    {e : Failure} (h : i.loadTask serial plugin multiVersion = .error e) : ∃ problem, e = .load problem := by
  rw [loadTask] at h
  split at h
  · cases h
    exact ⟨_, rfl⟩
  · cases h

namespace Installation

section
variable {σ : Type}

theorem publishHelp_eq_publishPage (w : Installation σ) (task : LoadedTask) :
    w.publishHelp task = ((w.files.publishPage task).1, { w with files := (w.files.publishPage task).2 }) := by
  rw [FileTree.publishPage, publishHelp, publishHelp]
  dsimp only
  split
  · rfl
  · split
    · rfl
    · rfl

theorem page_result (t : FileTree) (task : LoadedTask) :
    (t.publishPage task).1 = .ok () ∨ ∃ cause, (t.publishPage task).1 = .error (.helpPublish task.helpPath cause) := by
  rw [FileTree.publishPage, publishHelp]
  dsimp only
  split
  · exact .inr ⟨_, rfl⟩
  · split
    · exact .inr ⟨_, rfl⟩
    · exact .inl rfl

theorem registerTask_eq (w : Installation σ) (task : LoadedTask) (multiVersion : Bool) :
    w.registerTask task multiVersion = ((w.registerTask task multiVersion).1,
      { w with registry := w.registry.changed (.ofTask task multiVersion), loaded := w.loaded + 1 }) := by
  cases multiVersion with
  | false => rfl
  | true => rfl

variable [ToolStore σ] {w : Installation σ} {i : Integrator} {plugin : GeneratedPlugin} {options : IntegrationOptions}
  {task : LoadedTask}

theorem integrate_of_page_error {e : Failure} (h : i.loadTask w.loaded plugin options.multiVersion = .ok task)
    (hpage : (w.files.publishPage task).1 = .error e) :
    w.integrate i plugin options = ⟨.error e, (w.registerTask task options.multiVersion).1,
      { w with
        registry := w.registry.changed (.ofTask task options.multiVersion)
        files := (w.files.publishPage task).2
        loaded := w.loaded + 1 }⟩ := by
  rw [integrate, h]
  dsimp only
  rw [registerTask_eq]
  dsimp only
  rw [publishHelp_eq_publishPage, hpage]

theorem integrate_of_unrecorded (h : i.loadTask w.loaded plugin options.multiVersion = .ok task)
    (hpage : (w.files.publishPage task).1 = .ok ()) (hregister : options.register = false) :
    w.integrate i plugin options = ⟨.ok task, (w.registerTask task options.multiVersion).1,
      { w with
        registry := w.registry.changed (.ofTask task options.multiVersion)
        files := (w.files.publishPage task).2
        loaded := w.loaded + 1 }⟩ := by
  rw [integrate, h]
  dsimp only
  rw [registerTask_eq]
  dsimp only
  rw [publishHelp_eq_publishPage, hpage, hregister]
  rfl

theorem integrate_of_recorded (h : i.loadTask w.loaded plugin options.multiVersion = .ok task)
    (hpage : (w.files.publishPage task).1 = .ok ()) (hregister : options.register = true) :
    w.integrate i plugin options =
      ⟨(ToolStore.recordTask w.records i.context task options.createVersionRecord).1.map fun () => task,
        (w.registerTask task options.multiVersion).1,
        { registry := w.registry.changed (.ofTask task options.multiVersion)
          records := (ToolStore.recordTask w.records i.context task options.createVersionRecord).2
          files := (w.files.publishPage task).2
          loaded := w.loaded + 1 }⟩ := by
  rw [integrate, h]
  dsimp only
  rw [registerTask_eq]
  dsimp only
  rw [publishHelp_eq_publishPage, hpage, hregister]
  rfl

/-- Once a task is loaded, the registry and the files do not depend on how far the integration goes. -/
theorem after_integrate (h : i.loadTask w.loaded plugin options.multiVersion = .ok task) :
    (w.integrate i plugin options).after.registry = w.registry.changed (.ofTask task options.multiVersion) ∧
      (w.integrate i plugin options).after.files = (w.files.publishPage task).2 := by
  obtain hpage | ⟨cause, hpage⟩ := page_result w.files task
  · cases hregister : options.register with
    | false =>
      rw [integrate_of_unrecorded h hpage hregister]
      exact ⟨rfl, rfl⟩
    | true =>
      rw [integrate_of_recorded h hpage hregister]
      exact ⟨rfl, rfl⟩
  · rw [integrate_of_page_error h hpage]
    exact ⟨rfl, rfl⟩

end

end Installation

end ToolPlugins
