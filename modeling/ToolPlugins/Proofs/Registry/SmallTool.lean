import Mathlib
import ToolPlugins.Proofs.Definition.Strict
import ToolPlugins.Proofs.Registry.Named

/-!
Tools with no more than a name, a version and a command. They are generated and loaded whatever their names are, and any
list of them is integrated by changes of the registry that register one task each.
-/

namespace ToolPlugins

/-- A tool with no more than a name, a version and a command, and whether it is registered as one of several versions. -/
structure SmallTool where
  name : String
  version : String
  multiVersion : Bool

namespace SmallTool

def descriptor (t : SmallTool) : Descriptor where
  fields := [("command-line", .string "x"), ("name", .string t.name), ("tool-version", .string t.version)]

/-- The integration of the plugin that is generated for the tool, on the submitting side. -/
def ops (t : SmallTool) : List RegistryOp :=
  (generate ⟨[], []⟩ t.descriptor .strict).1.toOption.toList.map fun plugin =>
    .integrate ⟨.client, "help"⟩ plugin { multiVersion := t.multiVersion }

/-- A change registers the task of the tool. -/
def Registers (t : SmallTool) (change : RegistryChange) : Prop :=
  ∃ task : LoadedTask, change = .ofTask task t.multiVersion ∧ task.identifier = Identifier.classify t.name ∧
    task.version = t.version

section
variable {t : SmallTool}

theorem loadable_descriptor (hv : HasInk t.version) (side : DefinitionContext) : t.descriptor.Loadable side where
  name := ⟨t.name, rfl⟩
  version := ⟨t.version, rfl, hv⟩
  description := .inl rfl
  valueKeys := by rintro entry ⟨⟩
  inputIds := by rintro entry ⟨⟩
  outputIds := by rintro entry ⟨⟩
  inputsDiffer := List.nodup_nil
  outputsDiffer := List.nodup_nil
  command := fun _ => ⟨"x", rfl, by decide⟩

theorem exists_ops_eq (hv : HasInk t.version) :
    ∃ op, t.ops = [op] ∧ op.Integrates ∧ ∀ w : Installation, t.Registers (w.change op) := by
  obtain ⟨a, ha⟩ : ∃ a, render ⟨[], []⟩ t.descriptor = .ok a :=
    exists_render_of_fill fun kind => by cases kind <;> exact ⟨_, rfl⟩
  obtain ⟨text, hfill, hbody⟩ := Definition.fill_of_render ha .clientDefinition
  have hload := (@Definition.load_eq_ok_iff_loadable _ _ .client _ hfill _).mpr ⟨loadable_descriptor hv .client, rfl⟩
  rw [← hbody] at hload
  obtain ⟨plugin, hplugin⟩ : ∃ plugin : GeneratedPlugin, plugin =
    { identifier := Identifier.classify t.name, descriptor := t.descriptor, errors := [], artifacts := a } := ⟨_, rfl⟩
  have hgenerate : (generate ⟨[], []⟩ t.descriptor .strict).1 = .ok plugin :=
    Definition.generate_strict_eq_ok_iff.mpr ⟨rfl, a, ha, hplugin⟩
  refine ⟨.integrate ⟨.client, "help"⟩ plugin { multiVersion := t.multiVersion }, ?_, trivial, fun w => ?_⟩
  · rw [ops, hgenerate]
    rfl
  · have htask : Integrator.loadTask ⟨.client, "help"⟩ w.loaded plugin t.multiVersion = .ok _ :=
      Integrator.loadTask_eq_ok_iff.mpr ⟨_, by rw [hplugin]; exact hload, rfl⟩
    rw [Installation.change]
    dsimp only
    rw [htask]
    exact ⟨_, rfl, rfl, rfl⟩

/-- Tools with a version are all registered, one after the other. -/
theorem registers_changes (tools : List SmallTool) (hv : ∀ t ∈ tools, HasInk t.version) (w : Installation) :
    (∀ op ∈ tools.flatMap ops, op.Integrates) ∧ List.Forall₂ Registers tools (w.changes (tools.flatMap ops)) := by
  induction tools generalizing w with
  | nil => exact ⟨fun _ hop => absurd hop List.not_mem_nil, .nil⟩
  | cons t tools ih =>
    obtain ⟨ht, hrest⟩ := List.forall_mem_cons.mp hv
    obtain ⟨op, hop, hintegrates, hregisters⟩ := exists_ops_eq ht
    obtain ⟨hops, hchanges⟩ := ih hrest (w.apply op)
    rw [List.flatMap_cons, hop]
    exact ⟨List.forall_mem_cons.mpr ⟨hintegrates, hops⟩, .cons (hregisters w) hchanges⟩

end

end SmallTool

theorem Session.run_registry (s : Session) (ops : List RegistryOp) :
    s.run (ops.map .registry) = { s with installation := s.installation.run ops } := by
  induction ops generalizing s with
  | nil => rfl
  | cons op ops ih => exact ih (s.step (.registry op))

end ToolPlugins
