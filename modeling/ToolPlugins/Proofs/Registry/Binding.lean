import Mathlib
import ToolPlugins.Proofs.Registry.Run

/-!
Instances over whole runs. An instance made through a switcher is bound by the first version that it is
given, and after that no step changes it: neither what is registered, replaced or cleared, nor what other
instances are given, nor another version.
-/

namespace ToolPlugins

/-! ### Switchers in every registry after -/

namespace Registry

/-- The registry still has the switcher of an instance, under the identifier of the instance. -/
def Serves (r : Registry) (t : SwitchedTask) : Prop :=
  ∃ s, r.switcher? t.switcher = some s ∧ s.identifier = t.identifier

section
variable {r : Registry} {t : SwitchedTask}

/-- No change takes a switcher away, also not one that takes its identifier away. -/
theorem Serves.changed (h : r.Serves t) (hr : r.Sound) (change : RegistryChange) : (r.changed change).Serves t := by
  obtain ⟨s, hs, hid⟩ := h
  cases change with
  | keep => exact ⟨s, hs, hid⟩
  | register task => exact ⟨s, hs, hid⟩
  | clear => exact ⟨s, hs, hid⟩
  | registerVersion task =>
    obtain ⟨s', hs', heq⟩ := exists_switcher_registerVersion hr task hs
    exact ⟨s', hs', heq.trans hid⟩

/-- The switcher of an instance has a task for every version that the instance can be given. -/
theorem Serves.exists_resolve (h : r.Serves t) (hr : r.Sound) (version : String) :
    ∃ s task, r.switcher? t.switcher = some s ∧ (s.resolve (some version)).1 = .ok task := by
  obtain ⟨s, hs, -⟩ := h
  obtain ⟨task, htask, -⟩ := (hr.switchers s (List.mem_of_getElem? hs)).exists_resolve (some version)
  exact ⟨s, task, hs, htask⟩

theorem instantiate?_of_generic {identifier : String} {task : LoadedTask}
    (h : r.lookup identifier = some (.generic task)) : r.instantiate? identifier = some (.plain task) := by
  simp only [instantiate?, h]

theorem Sound.instantiate?_of_versioned (hr : r.Sound) {identifier : String} {id : SwitcherId}
    (h : r.lookup identifier = some (.versioned id)) :
    r.instantiate? identifier = some (.switched { switcher := id, identifier }) ∧
      r.Serves { switcher := id, identifier } := by
  have hversioned : r.versioned.get? identifier = some id := by
    rw [lookup] at h
    split at h
    · next id' hid =>
      cases h
      exact hid
    · obtain ⟨_, _, heq⟩ := Option.map_eq_some_iff.mp h
      cases heq
  obtain ⟨s, hs, rfl⟩ := hr.versioned _ _ hversioned
  refine ⟨?_, s, hs, rfl⟩
  simp only [instantiate?, h, instantiateSwitcher?, hs, Option.map_some]

end

end Registry

/-! ### What binding does to one instance -/

namespace SwitchedTask

/-- The instance with a version that bound it to a task. -/
def boundTo (t : SwitchedTask) (version : String) (task : LoadedTask) : SwitchedTask :=
  { t with version := some version, bound := some task }

variable {t : SwitchedTask} {r : Registry}

theorem bind_of_bound {task : LoadedTask} (h : t.bound = some task) (version : String) :
    t.bind r version = (.error (.alreadyBound t.identifier), [], t) := by
  rw [bind, h]
  rfl

theorem bind_of_unbound (h : t.bound = none) {version : String} {s : VersionSwitcher} {task : LoadedTask}
    (hs : r.switcher? t.switcher = some s) (htask : (s.resolve (some version)).1 = .ok task) :
    t.bind r version = (.ok task, (s.resolve (some version)).2, t.boundTo version task) := by
  have hpair : s.resolve (some version) = (.ok task, (s.resolve (some version)).2) := by rw [← htask]
  rw [bind, h, hs]
  dsimp only
  rw [hpair]
  rfl

end SwitchedTask

/-- Every view of an instance is the one of a task. -/
structure TaskInstance.AnswersAs (i : TaskInstance) (task : LoadedTask) : Prop where
  typeName : i.typeName = task.typeName
  body : ∀ view, i.body view = task.body view
  helpPath : i.helpPath? = some task.helpPath
  publicPath : i.publicPath? = task.publicPath?
  definition : i.definition? = some task.definition
  isA : ∀ name, i.isA name = task.isA name

theorem TaskInstance.answersAs_of_task {i : TaskInstance} {task : LoadedTask} (h : i.task? = some task) :
    i.AnswersAs task where
  typeName := by rw [typeName, h]
  body := fun view => by rw [body, h]
  helpPath := by rw [helpPath?, h, Option.map_some]
  publicPath := by rw [publicPath?, h, Option.bind_some]
  definition := by rw [definition?, h, Option.map_some]
  isA := fun name => by rw [isA, h]

/-! ### Sessions -/

/-- A step of a session: an operation on the registry, a new instance of what is under an identifier, or a
    version for the instance with a number. -/
inductive SessionStep (σ : Type := RecordStore) where
  | registry (op : RegistryOp σ)
  | instantiate (identifier : String)
  | bind (n : Nat) (version : String)

/-- An installation, and the instances made from its registry in the order in which they were made. -/
structure Session (σ : Type := RecordStore) where
  installation : Installation σ
  instances : List TaskInstance := []

namespace Session

variable {σ : Type}

/-- The registry of a session. -/
def registry (s : Session σ) : Registry := s.installation.registry

/-- The session with a version given to an instance, and the result if the instance takes versions. -/
def bind (s : Session σ) (n : Nat) (version : String) : Option (Result LoadedTask) × Session σ :=
  match s.instances[n]? with
  | some (.switched t) =>
    let (result, _, t) := t.bind s.registry version
    (some result, { s with instances := s.instances.set n (.switched t) })
  | _ => (none, s)

variable [ToolStore σ]

/-- The session after a step. -/
def step (s : Session σ) : SessionStep σ → Session σ
  | .registry op => { s with installation := s.installation.apply op }
  | .instantiate identifier => { s with instances := s.instances ++ (s.registry.instantiate? identifier).toList }
  | .bind n version => (s.bind n version).2

/-- The session after steps, one after the other. -/
def run (s : Session σ) (steps : List (SessionStep σ)) : Session σ := steps.foldl step s

section
variable {s : Session σ} {n : Nat}

/-! ### One step -/

omit [ToolStore σ] in
theorem registry_bind (s : Session σ) (n : Nat) (version : String) : (s.bind n version).2.registry = s.registry := by
  rw [bind]
  split
  · rfl
  · rfl

theorem exists_registry_step (s : Session σ) (st : SessionStep σ) :
    ∃ change, (s.step st).registry = s.registry.changed change := by
  cases st with
  | registry op => exact ⟨_, s.installation.registry_apply op⟩
  | instantiate identifier => exact ⟨.keep, rfl⟩
  | bind n version => exact ⟨.keep, s.registry_bind n version⟩

omit [ToolStore σ] in
theorem bind_of_plain {task : LoadedTask} (h : s.instances[n]? = some (.plain task)) (version : String) :
    s.bind n version = (none, s) := by
  simp only [bind, h]

omit [ToolStore σ] in
theorem bind_of_bound {t : SwitchedTask} {task : LoadedTask} (h : s.instances[n]? = some (.switched t))
    (ht : t.bound = some task) (version : String) :
    s.bind n version = (some (.error (.alreadyBound t.identifier)), s) := by
  have hset : s.instances.set n (.switched t) = s.instances := by
    obtain ⟨hlt, hget⟩ := List.getElem?_eq_some_iff.mp h
    rw [← hget, List.set_getElem_self]
  simp only [bind, h, SwitchedTask.bind_of_bound ht, hset]

omit [ToolStore σ] in
/-- The first version binds an instance to what its own switcher chooses at that moment. -/
theorem exists_bind_of_unbound {t : SwitchedTask} (h : s.instances[n]? = some (.switched t)) (ht : t.bound = none)
    (hr : s.registry.Sound) (hserves : s.registry.Serves t) (version : String) :
    ∃ switcher task, s.registry.switcher? t.switcher = some switcher ∧
      (switcher.resolve (some version)).1 = .ok task ∧
      (s.bind n version).1 = some (.ok task) ∧
      (s.bind n version).2.instances[n]? = some (.switched (t.boundTo version task)) := by
  obtain ⟨switcher, task, hs, htask⟩ := hserves.exists_resolve hr version
  have hlt : n < s.instances.length := (List.getElem?_eq_some_iff.mp h).1
  refine ⟨switcher, task, hs, htask, ?_, ?_⟩
  · simp only [bind, h, SwitchedTask.bind_of_unbound ht hs htask]
  · simp only [bind, h, SwitchedTask.bind_of_unbound ht hs htask]
    exact List.getElem?_set_self hlt

/-- A step that gives an instance no version leaves it as it is. -/
theorem instances_step {i : TaskInstance} (h : s.instances[n]? = some i) {st : SessionStep σ}
    (hst : ∀ version, st ≠ .bind n version) : (s.step st).instances[n]? = some i := by
  cases st with
  | registry op => exact h
  | instantiate identifier => exact (List.getElem?_append_left (List.getElem?_eq_some_iff.mp h).1).trans h
  | bind m version =>
    have hne : m ≠ n := by
      rintro rfl
      exact hst version rfl
    rw [step, bind]
    split
    · exact (List.getElem?_set_ne hne).trans h
    · exact h

/-- No step changes an instance that answers as a task. -/
theorem instances_step_of_task {i : TaskInstance} {task : LoadedTask} (h : s.instances[n]? = some i)
    (hi : i.task? = some task) (st : SessionStep σ) : (s.step st).instances[n]? = some i := by
  by_cases hst : ∃ version, st = .bind n version
  · obtain ⟨version, rfl⟩ := hst
    cases i with
    | plain task' =>
      rw [step, bind_of_plain h]
      exact h
    | switched t =>
      rw [step, bind_of_bound h hi]
      exact h
  · exact instances_step h fun version heq => hst ⟨version, heq⟩

/-! ### Whole runs -/

theorem run_append (s : Session σ) (first second : List (SessionStep σ)) :
    s.run (first ++ second) = (s.run first).run second := List.foldl_append

theorem sound_run (hr : s.registry.Sound) (steps : List (SessionStep σ)) : (s.run steps).registry.Sound := by
  induction steps generalizing s with
  | nil => exact hr
  | cons st steps ih =>
    obtain ⟨change, hchange⟩ := s.exists_registry_step st
    exact ih (hchange ▸ hr.changed change)

theorem serves_run (hr : s.registry.Sound) {t : SwitchedTask} (h : s.registry.Serves t) (steps : List (SessionStep σ)) :
    (s.run steps).registry.Serves t := by
  induction steps generalizing s with
  | nil => exact h
  | cons st steps ih =>
    obtain ⟨change, hchange⟩ := s.exists_registry_step st
    exact ih (hchange ▸ hr.changed change) (hchange ▸ h.changed hr change)

theorem instances_run {i : TaskInstance} (h : s.instances[n]? = some i) {steps : List (SessionStep σ)}
    (hsteps : ∀ version, .bind n version ∉ steps) : (s.run steps).instances[n]? = some i := by
  induction steps generalizing s with
  | nil => exact h
  | cons st steps ih =>
    have hst : ∀ version, st ≠ .bind n version := by
      rintro version rfl
      exact hsteps version List.mem_cons_self
    exact ih (instances_step h hst) fun version hmem => hsteps version (List.mem_cons_of_mem _ hmem)

theorem instances_run_of_task {i : TaskInstance} {task : LoadedTask} (h : s.instances[n]? = some i)
    (hi : i.task? = some task) (steps : List (SessionStep σ)) : (s.run steps).instances[n]? = some i := by
  induction steps generalizing s with
  | nil => exact h
  | cons st steps ih => exact ih (instances_step_of_task h hi st)

end

/-- An instance answers as one task in every run from here, and takes no version. -/
def KeepsPlain (s : Session σ) (n : Nat) (task : LoadedTask) : Prop :=
  ∀ steps, ∃ i, (s.run steps).instances[n]? = some i ∧ i.AnswersAs task ∧
    ∀ version, (s.run steps).bind n version = (none, s.run steps)

/-- An instance is unbound in every run from here that gives it no version. The first version binds it to the
    task that its own switcher has for the version in that moment, and whatever comes later leaves it bound
    so, answers as that task, and refuses other versions. -/
structure BindsOnce (s : Session σ) (n : Nat) (t : SwitchedTask) : Prop where
  unbound : t.bound = none ∧ t.version = none
  waits : ∀ steps, (∀ version, .bind n version ∉ steps) → (s.run steps).instances[n]? = some (.switched t)
  binds : ∀ before version, (∀ other, .bind n other ∉ before) →
    ∃ switcher task, (s.run before).registry.switcher? t.switcher = some switcher ∧
      switcher.identifier = t.identifier ∧
      (switcher.resolve (some version)).1 = .ok task ∧
      ((s.run before).bind n version).1 = some (.ok task) ∧
      (TaskInstance.switched (t.boundTo version task)).AnswersAs task ∧
      ∀ after, (s.run (before ++ .bind n version :: after)).instances[n]? = some (.switched (t.boundTo version task)) ∧
        ∀ other, (s.run (before ++ .bind n version :: after)).bind n other =
          (some (.error (.alreadyBound t.identifier)), s.run (before ++ .bind n version :: after))

section
variable {s : Session σ} {n : Nat}

theorem keepsPlain {task : LoadedTask} (h : s.instances[n]? = some (.plain task)) : s.KeepsPlain n task := by
  intro steps
  have hrun := instances_run_of_task h rfl steps
  exact ⟨_, hrun, TaskInstance.answersAs_of_task rfl, bind_of_plain hrun⟩

theorem bindsOnce {t : SwitchedTask} (h : s.instances[n]? = some (.switched t)) (hr : s.registry.Sound)
    (hserves : s.registry.Serves t) (ht : t.bound = none ∧ t.version = none) : s.BindsOnce n t where
  unbound := ht
  waits := fun steps hsteps => instances_run h hsteps
  binds := by
    intro before version hbefore
    obtain ⟨switcher, task, hs, htask, hresult, hbound⟩ := exists_bind_of_unbound (instances_run h hbefore) ht.1
      (sound_run hr before) (serves_run hr hserves before) version
    obtain ⟨s', hs', hid⟩ := serves_run hr hserves before
    cases hs.symm.trans hs'
    refine ⟨switcher, task, hs, hid, htask, hresult, TaskInstance.answersAs_of_task rfl, fun after => ?_⟩
    have hafter : (s.run (before ++ .bind n version :: after)).instances[n]? =
        some (.switched (t.boundTo version task)) := by
      rw [run_append]
      exact instances_run_of_task (s := (s.run before).step (.bind n version)) hbound rfl after
    exact ⟨hafter, bind_of_bound (t := t.boundTo version task) hafter rfl⟩

end

/-- Whatever steps were taken from an empty registry, a new instance of what is under an identifier keeps
    answering as the task that is alone there, or is bound once through the switcher that is there. -/
theorem bindsOnce_of_run (records : σ) (files : FileTree) (loaded : Nat) (steps : List (SessionStep σ))
    (identifier : String) :
    let s : Session σ := run { installation := { records, files, loaded } } steps
    match s.registry.lookup identifier with
    | none => s.step (.instantiate identifier) = s
    | some (.generic task) => (s.step (.instantiate identifier)).KeepsPlain s.instances.length task
    | some (.versioned id) =>
      (s.step (.instantiate identifier)).BindsOnce s.instances.length { switcher := id, identifier } := by
  intro s
  have hr : s.registry.Sound :=
    sound_run (s := { installation := { records, files, loaded } }) Registry.sound_empty steps
  have hmade : ∀ i, s.registry.instantiate? identifier = some i →
      (s.step (.instantiate identifier)).instances[s.instances.length]? = some i := by
    intro i hi
    rw [step, hi]
    exact List.getElem?_concat_length
  cases hentry : s.registry.lookup identifier with
  | none =>
    have hnone : s.registry.instantiate? identifier = none := by simp only [Registry.instantiate?, hentry]
    dsimp only
    rw [step, hnone, Option.toList_none, List.append_nil]
  | some entry =>
    cases entry with
    | generic task => exact keepsPlain (hmade _ (Registry.instantiate?_of_generic hentry))
    | versioned id =>
      obtain ⟨hi, hserves⟩ := hr.instantiate?_of_versioned hentry
      exact bindsOnce (hmade _ hi) hr hserves ⟨rfl, rfl⟩

end Session

end ToolPlugins
