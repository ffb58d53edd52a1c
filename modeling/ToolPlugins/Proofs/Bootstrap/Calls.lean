import Mathlib
import ToolPlugins.Proofs.Bootstrap.Report

/-!
Runs of calls on an installation, which are operations on its registry and bootstraps. A bootstrap does what its
integrations do one after the other, so a run of calls is a run of operations.
-/

namespace ToolPlugins

/-- A call on an installation. -/
inductive InstallationCall (σ : Type := RecordStore) where
  | operation (op : RegistryOp σ)
  | bootstrap (schema : Schema) (i : Integrator) (dirs : List Path) (options : BootstrapOptions)
      (permitted : String → Bool)

variable {σ : Type}

namespace Bootstrap

/-- The integrations of descriptors. There is none for a descriptor whose plugin is not generated. -/
def integrations (schema : Schema) (i : Integrator) (options : BootstrapOptions) (all l : List FoundDescriptor) :
    List (RegistryOp σ) :=
  l.filterMap fun f =>
    (generate schema f.descriptor options.mode).1.toOption.map fun plugin =>
      .integrate i plugin (integrationOptions options all f)

variable [ToolStore σ]

theorem afterAll_eq_run (schema : Schema) (i : Integrator) (options : BootstrapOptions) (all : List FoundDescriptor)
    (w : Installation σ) (l : List FoundDescriptor) :
    afterAll schema i options all w l = w.run (integrations schema i options all l) := by
  induction l generalizing w with
  | nil => rfl
  | cons f rest ih =>
    have hcons : afterAll schema i options all w (f :: rest) =
        afterAll schema i options all (integrateOne schema i options all w f).after rest := rfl
    rw [hcons, ih, integrations, integrations, List.filterMap_cons, integrateOne]
    cases generate schema f.descriptor options.mode with
    | mk result warnings =>
      cases result with
      | error e => rfl
      | ok plugin => rfl

end Bootstrap

namespace Installation

variable [ToolStore σ]

/-- The installation after a call. -/
def call (w : Installation σ) : InstallationCall σ → Installation σ
  | .operation op => w.apply op
  | .bootstrap schema i dirs options permitted => (w.bootstrap schema i dirs options permitted).after

/-- The operations that a call consists of. -/
def operations (w : Installation σ) : InstallationCall σ → List (RegistryOp σ)
  | .operation op => [op]
  | .bootstrap schema i dirs options permitted =>
    Bootstrap.integrations schema i options (Bootstrap.candidates w dirs permitted)
      (Bootstrap.candidates w dirs permitted)

theorem call_eq_run (w : Installation σ) (c : InstallationCall σ) : w.call c = w.run (w.operations c) := by
  cases c with
  | operation op => rfl
  | bootstrap schema i dirs options permitted =>
    rw [call, (Bootstrap.bootstrap_spec w schema i dirs options permitted).2.2, Bootstrap.afterAll_eq_run]
    rfl

/-- The installation after calls, one after the other. -/
def callAll (w : Installation σ) (calls : List (InstallationCall σ)) : Installation σ := calls.foldl call w

/-- The operations that calls consist of, in the order in which they are carried out. -/
def allOperations (w : Installation σ) : List (InstallationCall σ) → List (RegistryOp σ)
  | [] => []
  | c :: calls => w.operations c ++ (w.call c).allOperations calls

theorem run_append (w : Installation σ) (ops ops' : List (RegistryOp σ)) : w.run (ops ++ ops') = (w.run ops).run ops' :=
  List.foldl_append

theorem callAll_append (w : Installation σ) (calls calls' : List (InstallationCall σ)) :
    w.callAll (calls ++ calls') = (w.callAll calls).callAll calls' := List.foldl_append

theorem callAll_eq_run (w : Installation σ) (calls : List (InstallationCall σ)) :
    w.callAll calls = w.run (w.allOperations calls) := by
  induction calls generalizing w with
  | nil => rfl
  | cons c calls ih =>
    have hcons : w.callAll (c :: calls) = (w.call c).callAll calls := rfl
    rw [hcons, ih, allOperations, run_append, ← call_eq_run]

end Installation

end ToolPlugins
