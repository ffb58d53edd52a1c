import Mathlib
import ToolPlugins.Proofs.Installation.Integrate
import ToolPlugins.Proofs.Registry.Sound

/-!
Runs of operations on the registry of an installation. Whatever an operation does beside it, it changes the
registry in one of four ways.
-/

namespace ToolPlugins

/-- An operation on the registry of an installation. Between the operations the records and the files may
    change by other hands. -/
inductive RegistryOp (σ : Type := RecordStore) where
  | register (task : LoadedTask)
  | registerVersion (task : LoadedTask)
  | integrate (i : Integrator) (plugin : GeneratedPlugin) (options : IntegrationOptions)
  | clear
  | outside (records : σ) (files : FileTree)

/-- What can happen to a registry. -/
inductive RegistryChange where
  | keep
  | register (task : LoadedTask)
  | registerVersion (task : LoadedTask)
  | clear

/-- The registry after a change. -/
def Registry.changed (r : Registry) : RegistryChange → Registry
  | .keep => r
  | .register task => (r.register task).2.2
  | .registerVersion task => (r.registerVersion task).2.2
  | .clear => r.clear

theorem Registry.Sound.changed {r : Registry} (h : r.Sound) (change : RegistryChange) : (r.changed change).Sound := by
  cases change with
  | keep => exact h
  | register task => exact h.register task
  | registerVersion task => exact h.registerVersion task
  | clear => exact h.clear

namespace Installation

variable {σ : Type} [ToolStore σ]

/-- The installation after an operation. -/
def apply (w : Installation σ) : RegistryOp σ → Installation σ
  | .register task => { w with registry := (w.registry.register task).2.2 }
  | .registerVersion task => { w with registry := (w.registry.registerVersion task).2.2 }
  | .integrate i plugin options => (w.integrate i plugin options).after
  | .clear => { w with registry := w.registry.clear }
  | .outside records files => { w with records, files }

/-- What an operation changes in the registry. An integration changes nothing if the task is not loaded. -/
def change (w : Installation σ) : RegistryOp σ → RegistryChange
  | .register task => .register task
  | .registerVersion task => .registerVersion task
  | .integrate i plugin options =>
    match i.loadTask w.loaded plugin options.multiVersion with
    | .error _ => .keep
    | .ok task => if options.multiVersion then .registerVersion task else .register task
  | .clear => .clear
  | .outside _ _ => .keep

omit [ToolStore σ] in
theorem registry_registerTask (w : Installation σ) (task : LoadedTask) (multiVersion : Bool) :
    (w.registerTask task multiVersion).2.registry =
      w.registry.changed (if multiVersion then .registerVersion task else .register task) := by
  cases multiVersion with
  | false => rfl
  | true => rfl

theorem registry_apply (w : Installation σ) (op : RegistryOp σ) :
    (w.apply op).registry = w.registry.changed (w.change op) := by
  cases op with
  | register task => rfl
  | registerVersion task => rfl
  | clear => rfl
  | outside records files => rfl
  | integrate i plugin options =>
    rw [apply, change]
    cases htask : i.loadTask w.loaded plugin options.multiVersion with
    | error e =>
      rw [integrate_of_error htask]
      rfl
    | ok task =>
      obtain ⟨records, files, hafter, -⟩ := integrate_of_ok htask
      rw [hafter]
      exact registry_registerTask w task options.multiVersion

/-- The installation after operations, one after the other. -/
def run (w : Installation σ) (ops : List (RegistryOp σ)) : Installation σ := ops.foldl apply w

/-- What the operations of a run change in the registry. -/
def changes (w : Installation σ) : List (RegistryOp σ) → List RegistryChange
  | [] => []
  | op :: ops => w.change op :: (w.apply op).changes ops

theorem registry_run (w : Installation σ) (ops : List (RegistryOp σ)) :
    (w.run ops).registry = (w.changes ops).foldl Registry.changed w.registry := by
  induction ops generalizing w with
  | nil => rfl
  | cons op ops ih =>
    rw [run, List.foldl_cons, changes, List.foldl_cons, ← registry_apply]
    exact ih (w.apply op)

end Installation

theorem Registry.Sound.foldl_changed {r : Registry} (h : r.Sound) (changes : List RegistryChange) :
    (changes.foldl Registry.changed r).Sound := by
  induction changes generalizing r with
  | nil => exact h
  | cons change changes ih => exact ih (h.changed change)

end ToolPlugins
