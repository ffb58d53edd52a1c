import Mathlib
import ToolPlugins.Proofs.Identifier.TypeName
import ToolPlugins.Proofs.Installation.Parts
import ToolPlugins.Proofs.Registry.Binding

/-!
The type names of tasks in registries that only integrations add to. A task that is alone under its identifier has the
identifier as its type name, a task of a switcher the type name of its version, also in a switcher that no identifier
leads to any more. Instances are bound to tasks of the second kind.
-/

namespace ToolPlugins

/-! ### Tasks -/

/-- A task under a canonical identifier has the type name that goes with how it was registered. -/
structure LoadedTask.Named (task : LoadedTask) (multiVersion : Bool) : Prop where
  canonical : Identifier.isCanonical task.identifier = true
  typeName : task.typeName =
    if multiVersion then Identifier.versionTypeName task.identifier task.version else task.identifier

theorem Integrator.named_of_loadTask {i : Integrator} {serial : Nat} {plugin : GeneratedPlugin} {multiVersion : Bool}
    {task : LoadedTask} (h : i.loadTask serial plugin multiVersion = .ok task) : task.Named multiVersion := by
  have hid := identifier_of_loadTask h
  have hcanonical := isCanonical_of_loadTask h
  obtain ⟨definition, -, rfl⟩ := loadTask_eq_ok_iff.mp h
  rw [← hid] at hcanonical
  exact ⟨hcanonical, by rw [hid]; rfl⟩

/-! ### Registries -/

theorem Registry.generic_of_lookup {r : Registry} {identifier : String} {task : LoadedTask}
    (h : r.lookup identifier = some (.generic task)) : r.generic.get? identifier = some task := by
  rw [lookup] at h
  split at h
  · cases h
  · obtain ⟨_, hget, heq⟩ := Option.map_eq_some_iff.mp h
    cases heq
    exact hget

theorem VersionSwitcher.exists_get?_of_resolve {s : VersionSwitcher} {version : Option String} {task : LoadedTask}
    (h : (s.resolve version).1 = .ok task) : ∃ v, s.get? v = some task := by
  rw [resolve] at h
  split at h
  · next other hget =>
    cases h
    obtain ⟨v, -, hget⟩ := Option.bind_eq_some_iff.mp hget
    exact ⟨v, hget⟩
  · split at h
    · cases h
    · next first other rest htasks =>
      cases h
      exact ⟨first, by rw [get?, htasks, Table.get?, if_pos rfl]⟩

/-- A change that registers no other tasks than those with the type name that goes with it. -/
def RegistryChange.Named : RegistryChange → Prop
  | .register task => task.Named false
  | .registerVersion task => task.Named true
  | _ => True

namespace Registry

/-- The tasks of a registry have the type names that go with where they are. -/
structure Named (r : Registry) : Prop where
  generic : ∀ k task, r.generic.get? k = some task → task.Named false
  switchers : ∀ s ∈ r.switchers, ∀ version task, s.get? version = some task → task.Named true

theorem named_empty : ({} : Registry).Named where
  generic := fun _ _ h => by cases h
  switchers := fun _ h => absurd h List.not_mem_nil

section
variable {r : Registry} {task : LoadedTask}

theorem Named.register (h : r.Named) (htask : task.Named false) : (r.register task).2.2.Named where
  generic := by
    intro k other hk
    change (r.generic.insert task.identifier task).get? k = some other at hk
    rw [Table.get?_insert] at hk
    split_ifs at hk
    · cases hk
      exact htask
    · exact h.generic k other hk
  switchers := h.switchers

theorem Named.registerVersion (h : r.Named) (hr : r.Sound) (htask : task.Named true) :
    (r.registerVersion task).2.2.Named := by
  have hgeneric : ∀ k other, (r.generic.erase task.identifier).get? k = some other → other.Named false := by
    intro k other hk
    rw [Table.get?_erase] at hk
    split_ifs at hk
    exact h.generic k other hk
  cases hid : r.versioned.get? task.identifier with
  | some id =>
    obtain ⟨s, hs, -⟩ := hr.versioned _ _ hid
    rw [registerVersion_eq_of_some hid hs]
    refine ⟨hgeneric, fun s' hs' version other hget => ?_⟩
    rcases List.mem_or_eq_of_mem_set hs' with hs' | rfl
    · exact h.switchers s' hs' version other hget
    · rw [VersionSwitcher.get?_add] at hget
      split_ifs at hget
      · cases hget
        exact htask
      · exact h.switchers s (List.mem_of_getElem? hs) version other hget
  | none =>
    rw [registerVersion_eq_of_none hid]
    refine ⟨hgeneric, fun s' hs' version other hget => ?_⟩
    rcases List.mem_append.mp hs' with hs' | hs'
    · exact h.switchers s' hs' version other hget
    · rw [List.mem_singleton.mp hs', VersionSwitcher.one, VersionSwitcher.get?, Table.get?] at hget
      split_ifs at hget
      · cases hget
        exact htask
      · cases hget

theorem Named.clear (h : r.Named) : r.clear.Named where
  generic := fun _ _ hk => by cases hk
  switchers := h.switchers

theorem Named.changed (h : r.Named) (hr : r.Sound) {change : RegistryChange} (hchange : change.Named) :
    (r.changed change).Named := by
  cases change with
  | keep => exact h
  | register task => exact h.register hchange
  | registerVersion task => exact h.registerVersion hr hchange
  | clear => exact h.clear

end

end Registry

/-! ### Runs -/

/-- An operation that registers no task but the one it loads. -/
def RegistryOp.Integrates {σ : Type} : RegistryOp σ → Prop
  | .register _ => False
  | .registerVersion _ => False
  | _ => True

namespace Installation

variable {σ : Type} [ToolStore σ]

omit [ToolStore σ] in
theorem named_change (w : Installation σ) {op : RegistryOp σ} (h : op.Integrates) : (w.change op).Named := by
  cases op with
  | register task => exact h.elim
  | registerVersion task => exact h.elim
  | clear => trivial
  | outside records files => trivial
  | integrate i plugin options =>
    rw [change]
    cases htask : i.loadTask w.loaded plugin options.multiVersion with
    | error e => trivial
    | ok task =>
      have hnamed := Integrator.named_of_loadTask htask
      dsimp only
      split_ifs with hmulti
      · rw [hmulti] at hnamed
        exact hnamed
      · rw [Bool.eq_false_of_not_eq_true hmulti] at hnamed
        exact hnamed

theorem named_run {w : Installation σ} (hr : w.registry.Sound) (h : w.registry.Named) {ops : List (RegistryOp σ)}
    (hops : ∀ op ∈ ops, op.Integrates) : (w.run ops).registry.Named := by
  induction ops generalizing w with
  | nil => exact h
  | cons op ops ih =>
    obtain ⟨hop, hops⟩ := List.forall_mem_cons.mp hops
    have hregistry := w.registry_apply op
    refine ih ?_ ?_ hops
    · exact hregistry ▸ hr.changed _
    · exact hregistry ▸ h.changed hr (w.named_change hop)

end Installation

/-! ### Instances -/

/-- An instance answers as a task with the type name that goes with the kind of the instance. An instance made through
    a switcher is still served by it, and bound to a task of its identifier. -/
def TaskInstance.Named (r : Registry) : TaskInstance → Prop
  | .plain task => task.Named false
  | .switched t => r.Serves t ∧ ∀ task, t.bound = some task → task.Named true ∧ task.identifier = t.identifier

theorem TaskInstance.Named.changed {r : Registry} {i : TaskInstance} (h : i.Named r) (hr : r.Sound)
    (change : RegistryChange) : i.Named (r.changed change) := by
  cases i with
  | plain task => exact h
  | switched t => exact ⟨h.1.changed hr change, h.2⟩

theorem Registry.Named.instantiate {r : Registry} (h : r.Named) (hr : r.Sound) {identifier : String} {i : TaskInstance}
    (hi : r.instantiate? identifier = some i) : i.Named r := by
  cases hentry : r.lookup identifier with
  | none =>
    simp only [instantiate?, hentry] at hi
    cases hi
  | some entry =>
    cases entry with
    | generic task =>
      rw [instantiate?_of_generic hentry] at hi
      cases hi
      exact h.generic _ _ (generic_of_lookup hentry)
    | versioned id =>
      obtain ⟨hi', hserves⟩ := hr.instantiate?_of_versioned hentry
      cases hi'.symm.trans hi
      refine ⟨hserves, fun task hbound => ?_⟩
      cases hbound

/-- A step that registers no task but the one it loads. -/
def SessionStep.Integrates {σ : Type} : SessionStep σ → Prop
  | .registry op => op.Integrates
  | _ => True

namespace Session

variable {σ : Type}

/-- The registry of a session is named, and so are the instances made from it. -/
structure Named (s : Session σ) : Prop where
  sound : s.registry.Sound
  registry : s.registry.Named
  instances : ∀ i ∈ s.instances, i.Named s.registry

section
variable {s : Session σ}

/-- The first version binds an instance to a task that its switcher has. -/
theorem Named.bind (h : s.Named) (n : Nat) (version : String) : (s.bind n version).2.Named := by
  cases hn : s.instances[n]? with
  | none =>
    simp only [Session.bind, hn]
    exact h
  | some i =>
    have hi := h.instances i (List.mem_of_getElem? hn)
    cases i with
    | plain task =>
      rw [bind_of_plain hn]
      exact h
    | switched t =>
      cases ht : t.bound with
      | some task =>
        rw [bind_of_bound hn ht]
        exact h
      | none =>
        obtain ⟨⟨switcher, hs, hid⟩, -⟩ := hi
        obtain ⟨task, htask, hsame⟩ := (h.sound.switchers switcher (List.mem_of_getElem? hs)).exists_resolve (some version)
        obtain ⟨v, hget⟩ := VersionSwitcher.exists_get?_of_resolve htask
        simp only [Session.bind, hn, SwitchedTask.bind_of_unbound ht hs htask]
        refine ⟨h.sound, h.registry, fun j hj => ?_⟩
        rcases List.mem_or_eq_of_mem_set hj with hj | rfl
        · exact h.instances j hj
        · refine ⟨⟨switcher, hs, hid⟩, fun other hbound => ?_⟩
          cases hbound
          exact ⟨h.registry.switchers switcher (List.mem_of_getElem? hs) v task hget, hsame.trans hid⟩

variable [ToolStore σ]

theorem Named.step (h : s.Named) {st : SessionStep σ} (hst : st.Integrates) : (s.step st).Named := by
  cases st with
  | registry op =>
    have hregistry : (s.step (.registry op)).registry = s.registry.changed (s.installation.change op) :=
      s.installation.registry_apply op
    refine ⟨?_, ?_, fun i hi => ?_⟩
    · exact hregistry ▸ h.sound.changed _
    · exact hregistry ▸ h.registry.changed h.sound (s.installation.named_change hst)
    · exact hregistry ▸ (h.instances i hi).changed h.sound _
  | instantiate identifier =>
    refine ⟨h.sound, h.registry, fun i hi => ?_⟩
    rcases List.mem_append.mp hi with hi | hi
    · exact h.instances i hi
    · exact h.registry.instantiate h.sound (Option.mem_toList.mp hi)
  | bind n version => exact h.bind n version

theorem Named.run (h : s.Named) {steps : List (SessionStep σ)} (hsteps : ∀ st ∈ steps, st.Integrates) :
    (s.run steps).Named := by
  induction steps generalizing s with
  | nil => exact h
  | cons st steps ih =>
    obtain ⟨hst, hsteps⟩ := List.forall_mem_cons.mp hsteps
    exact ih (h.step hst) hsteps

omit [ToolStore σ] in
theorem named_start (records : σ) (files : FileTree) (loaded : Nat) :
    Named { installation := { records, files, loaded } } where
  sound := Registry.sound_empty
  registry := Registry.named_empty
  instances := fun _ h => absurd h List.not_mem_nil

end

end Session

end ToolPlugins
