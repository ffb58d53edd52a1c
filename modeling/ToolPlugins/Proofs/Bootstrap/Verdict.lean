import Mathlib
import ToolPlugins.Bootstrap
import ToolPlugins.Proofs.Definition.Strict
import ToolPlugins.Proofs.Installation.Parts

/-!
What becomes of a descriptor in a bootstrap. Whether it comes to be registered is settled by the descriptor alone:
its plugin has to be generated and the definition of that plugin loaded. The task then has the identifier and the
version that were counted before anything was generated.
-/

namespace ToolPlugins

/-- The task of a generated plugin. -/
def Integrator.taskOf (i : Integrator) (serial : Nat) (plugin : GeneratedPlugin) (multiVersion : Bool) : LoadedTask where
  serial := serial
  definition := TaskDefinition.ofDescriptor plugin.descriptor i.context.definitionContext
  typeName :=
    if multiVersion then Identifier.versionTypeName plugin.identifier plugin.descriptor.version else plugin.identifier
  plugin := plugin
  helpPath := i.helpPath plugin.identifier

/-- The name of the type that a descriptor is integrated as. -/
def FoundDescriptor.typeName (f : FoundDescriptor) (multiVersion : Bool) : String :=
  if multiVersion then Identifier.versionTypeName f.identifier f.version else f.identifier

section
variable {schema : Schema} {d : Descriptor} {mode : GenerationMode} {plugin : GeneratedPlugin} {i : Integrator}

theorem generate_eq_ok (h : (generate schema d mode).1 = .ok plugin) :
    plugin.identifier = Identifier.classify d.name ∧ plugin.descriptor = d ∧ render schema d = .ok plugin.artifacts := by
  rw [generate] at h
  dsimp only at h
  split_ifs at h
  cases hrender : render schema d with
  | error problem =>
    rw [hrender] at h
    cases h
  | ok artifacts =>
    rw [hrender] at h
    cases h
    exact ⟨rfl, rfl, rfl⟩

/-- The definition of a generated plugin that is loaded declares what its descriptor says. -/
theorem loadTask_of_generate (h : (generate schema d mode).1 = .ok plugin) {serial : Nat} {multiVersion : Bool}
    {task : LoadedTask} :
    i.loadTask serial plugin multiVersion = .ok task ↔
      d.Loadable i.context.definitionContext ∧ task = i.taskOf serial plugin multiVersion := by
  obtain ⟨hid, hd, hrender⟩ := generate_eq_ok h
  obtain ⟨text, hfill, hbody⟩ := Definition.fill_of_render hrender i.context.definitionContext.artifact
  rw [Integrator.loadTask_eq_ok_iff, Definition.definitionKind_eq, hbody, hid]
  constructor
  · rintro ⟨definition, hload, rfl⟩
    obtain ⟨hloadable, rfl⟩ := (Definition.load_eq_ok_iff_loadable hfill).mp hload
    refine ⟨hloadable, ?_⟩
    rw [Integrator.taskOf, hd, hid]
    rfl
  · rintro ⟨hloadable, rfl⟩
    refine ⟨_, (Definition.load_eq_ok_iff_loadable hfill).mpr ⟨hloadable, rfl⟩, ?_⟩
    rw [Integrator.taskOf, hd, hid]
    rfl

end

namespace Bootstrap

/-- The plugin of a descriptor, if it is generated and its definition is loaded. -/
def verdict (schema : Schema) (i : Integrator) (mode : GenerationMode) (d : Descriptor) : Result GeneratedPlugin :=
  match (generate schema d mode).1 with
  | .error e => .error e
  | .ok plugin => (i.loadTask 0 plugin false).map fun _ => plugin

section
variable {schema : Schema} {i : Integrator} {mode : GenerationMode} {d : Descriptor} {plugin : GeneratedPlugin}

theorem generate_of_verdict (h : verdict schema i mode d = .ok plugin) : (generate schema d mode).1 = .ok plugin := by
  rw [verdict] at h
  split at h
  · cases h
  · next other hgenerate =>
    obtain ⟨_, -, rfl⟩ := map_eq_ok_iff.mp h
    exact hgenerate

theorem identifier_of_verdict (h : verdict schema i mode d = .ok plugin) :
    plugin.identifier = Identifier.classify d.name ∧ plugin.descriptor = d := by
  obtain ⟨hid, hd, -⟩ := generate_eq_ok (generate_of_verdict h)
  exact ⟨hid, hd⟩

/-- Neither its number nor how it is registered matters to whether a task is loaded. -/
theorem loadTask_of_verdict (h : verdict schema i mode d = .ok plugin) (serial : Nat) (multiVersion : Bool) :
    i.loadTask serial plugin multiVersion = .ok (i.taskOf serial plugin multiVersion) := by
  have hgenerate := generate_of_verdict h
  rw [verdict, hgenerate] at h
  obtain ⟨task, hload, -⟩ := map_eq_ok_iff.mp h
  exact (loadTask_of_generate hgenerate).mpr ⟨((loadTask_of_generate hgenerate).mp hload).1, rfl⟩

theorem taskOf_of_verdict {f : FoundDescriptor} (h : verdict schema i mode f.descriptor = .ok plugin) (serial : Nat)
    (multiVersion : Bool) :
    (i.taskOf serial plugin multiVersion).identifier = f.identifier ∧
      (i.taskOf serial plugin multiVersion).version = f.version ∧
      (i.taskOf serial plugin multiVersion).typeName = f.typeName multiVersion := by
  obtain ⟨hid, hd⟩ := identifier_of_verdict h
  refine ⟨?_, ?_, ?_⟩
  · rw [Integrator.taskOf, hd]
    rfl
  · rw [Integrator.taskOf, hd]
    rfl
  · rw [Integrator.taskOf, hid, hd]
    rfl

theorem verdict_error {e : Failure} (h : verdict schema i mode d = .error e) :
    (generate schema d mode).1 = .error e ∨
      ∃ plugin, (generate schema d mode).1 = .ok plugin ∧
        ∀ serial multiVersion, i.loadTask serial plugin multiVersion = .error e := by
  rw [verdict] at h
  split at h
  · next hgenerate =>
    cases h
    exact .inl hgenerate
  · next plugin hgenerate =>
    refine .inr ⟨plugin, hgenerate, fun serial multiVersion => ?_⟩
    rw [Integrator.loadTask] at h ⊢
    split at h
    · cases h
      rfl
    · cases h

end

/-! ### One descriptor -/

section
variable {σ : Type} {schema : Schema} {i : Integrator} {options : BootstrapOptions} {candidates : List FoundDescriptor}
  {w : Installation σ} {f : FoundDescriptor}

/-- How a descriptor is integrated. -/
def integrationOptions (options : BootstrapOptions) (candidates : List FoundDescriptor) (f : FoundDescriptor) :
    IntegrationOptions where
  createVersionRecord := options.createVersionRecords
  multiVersion := isMultiVersion options candidates f.identifier

/-- The task that a descriptor becomes. -/
def taskFor (i : Integrator) (options : BootstrapOptions) (candidates : List FoundDescriptor) (w : Installation σ)
    (f : FoundDescriptor) (plugin : GeneratedPlugin) : LoadedTask :=
  i.taskOf w.loaded plugin (isMultiVersion options candidates f.identifier)

variable [ToolStore σ]

theorem integrateOne_of_error {e : Failure} (h : verdict schema i options.mode f.descriptor = .error e) :
    (integrateOne schema i options candidates w f).result = .error e ∧
      (integrateOne schema i options candidates w f).after = w := by
  rw [integrateOne]
  obtain hgenerate | ⟨plugin, hgenerate, hload⟩ := verdict_error h
  · split
    · next heq =>
      rw [heq] at hgenerate
      cases hgenerate
      exact ⟨rfl, rfl⟩
    · next heq =>
      rw [heq] at hgenerate
      cases hgenerate
  · split
    · next heq =>
      rw [heq] at hgenerate
      cases hgenerate
    · next heq =>
      rw [heq] at hgenerate
      cases hgenerate
      dsimp only
      rw [Installation.integrate_of_error (hload _ _)]
      exact ⟨rfl, rfl⟩

theorem integrateOne_of_ok {plugin : GeneratedPlugin} (h : verdict schema i options.mode f.descriptor = .ok plugin) :
    (integrateOne schema i options candidates w f).result =
        (w.integrate i plugin (integrationOptions options candidates f)).result ∧
      (integrateOne schema i options candidates w f).after =
        (w.integrate i plugin (integrationOptions options candidates f)).after := by
  have hgenerate := generate_of_verdict h
  rw [integrateOne]
  split
  · next heq =>
    rw [heq] at hgenerate
    cases hgenerate
  · next heq =>
    rw [heq] at hgenerate
    cases hgenerate
    exact ⟨rfl, rfl⟩

omit [ToolStore σ] in
theorem loadTask_taskFor {plugin : GeneratedPlugin} (h : verdict schema i options.mode f.descriptor = .ok plugin) :
    i.loadTask w.loaded plugin (integrationOptions options candidates f).multiVersion =
      .ok (taskFor i options candidates w f plugin) :=
  loadTask_of_verdict h _ _

/-- The descriptor is registered whether or not its page and its records are made. -/
theorem registry_integrateOne {plugin : GeneratedPlugin} (h : verdict schema i options.mode f.descriptor = .ok plugin) :
    (integrateOne schema i options candidates w f).after.registry =
      w.registry.changed
        (.ofTask (taskFor i options candidates w f plugin) (isMultiVersion options candidates f.identifier)) := by
  rw [(integrateOne_of_ok h).2]
  exact (Installation.after_integrate (loadTask_taskFor h)).1

theorem result_integrateOne {plugin : GeneratedPlugin} (h : verdict schema i options.mode f.descriptor = .ok plugin)
    {task : LoadedTask} (hresult : (integrateOne schema i options candidates w f).result = .ok task) :
    task = taskFor i options candidates w f plugin := by
  rw [(integrateOne_of_ok h).1] at hresult
  have hload : i.loadTask w.loaded plugin (integrationOptions options candidates f).multiVersion =
      .ok (taskFor i options candidates w f plugin) := loadTask_taskFor h
  obtain ⟨_, _, -, -, h' | ⟨_, _, h'⟩ | ⟨_, -, h'⟩⟩ := Installation.integrate_of_ok hload <;> cases hresult.symm.trans h'
  rfl

end

end Bootstrap

end ToolPlugins
