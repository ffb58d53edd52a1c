import Mathlib
import ToolPlugins.Proofs.Table
import ToolPlugins.Registry.Switcher

/-!
The versions of a switcher by the tasks that were added to it: a version stands where it was added first, and has the
task that was added last. The version that was added first of all therefore stands in for the others for good, whatever
is replaced later.
-/

namespace ToolPlugins.VersionSwitcher

/-- The switcher of an identifier after tasks were added to it, one after the other. -/
def ofTasks (identifier : String) (tasks : List LoadedTask) : VersionSwitcher :=
  tasks.foldl (fun s task => (s.addVersion task).2.2) { identifier }

/-- The last of some tasks that has a version. -/
def latest? (tasks : List LoadedTask) (version : String) : Option LoadedTask :=
  (tasks.filter fun task => task.version = version).getLast?

/-- What a switcher tells about the tasks that were added to it. -/
structure Tells (identifier : String) (tasks : List LoadedTask) : Prop where
  versions : (ofTasks identifier tasks).versions = (tasks.map LoadedTask.version).eraseDups
  get : ∀ version, (ofTasks identifier tasks).get? version = latest? tasks version
  absent : ∀ version, (ofTasks identifier tasks).get? version = none ↔ version ∉ tasks.map LoadedTask.version
  /-- Adding a task gives the one that it replaces, and warns if there is one. -/
  replaced : ∀ before task after, tasks = before ++ task :: after →
    ((ofTasks identifier before).addVersion task).1 = latest? before task.version ∧
      ((ofTasks identifier before).addVersion task).2.1 =
        if (latest? before task.version).isSome then [.replacedVersion identifier task.version] else []
  known : ∀ version task, latest? tasks version = some task →
    (ofTasks identifier tasks).resolve (some version) = (.ok task, [])
  /-- The version that was added first stands in for one that is unknown or not given, by its current task. -/
  fallback : ∀ first rest version, tasks = first :: rest → (∀ v, version = some v → v ∉ tasks.map LoadedTask.version) →
    ∃ task, latest? tasks first.version = some task ∧ (ofTasks identifier tasks).resolve version =
      (.ok task, [.fallbackVersion identifier (version.getD "<unconfigured>") first.version])
  refused : ∀ version, (∃ e, ((ofTasks identifier tasks).resolve version).1 = .error e) ↔ tasks = []
  empty : ∀ version, tasks = [] →
    (ofTasks identifier tasks).resolve version = (.error (.noKnownVersions identifier), [])

section
variable (identifier : String) (tasks : List LoadedTask)

theorem ofTasks_eq_insertAll :
    ofTasks identifier tasks =
      { identifier, tasks := Table.insertAll [] (tasks.map fun task => (task.version, task)) } := by
  induction tasks using List.reverseRecOn with
  | nil => rfl
  | append_singleton before task ih =>
    have hstep : ofTasks identifier (before ++ [task]) = (ofTasks identifier before).add task := List.foldl_append
    rw [hstep, ih, List.map_append, List.map_singleton, Table.insertAll_append_singleton]
    rfl

theorem versions_ofTasks : (ofTasks identifier tasks).versions = (tasks.map LoadedTask.version).eraseDups := by
  rw [ofTasks_eq_insertAll, versions, Table.keys_insertAll_nil, List.map_map]
  rfl

theorem get?_ofTasks (version : String) : (ofTasks identifier tasks).get? version = latest? tasks version := by
  rw [ofTasks_eq_insertAll, get?, Table.get?_insertAll, Table.get?_nil, Option.or_none, List.filter_map, List.getLast?_map,
    Option.map_map, latest?]
  simp [Function.comp_def]

theorem latest?_eq_none_iff {tasks : List LoadedTask} {version : String} :
    latest? tasks version = none ↔ version ∉ tasks.map LoadedTask.version := by
  rw [latest?, List.getLast?_eq_none_iff, List.filter_eq_nil_iff]
  simp

theorem resolve_of_unknown {s : VersionSwitcher} {version : Option String} (h : version.bind s.get? = none)
    {first : String} {task : LoadedTask} (hfirst : s.versions.head? = some first) (hget : s.get? first = some task) :
    s.resolve version = (.ok task, [.fallbackVersion s.identifier (version.getD "<unconfigured>") first]) := by
  rw [resolve, h]
  cases htasks : s.tasks with
  | nil =>
    rw [versions, htasks] at hfirst
    cases hfirst
  | cons entry rest =>
    obtain ⟨key, value⟩ := entry
    rw [versions, htasks] at hfirst
    cases hfirst
    rw [get?, htasks, Table.get?, if_pos rfl] at hget
    cases hget
    rfl

/-- The first task that was added decides which version stands in for the others. -/
theorem resolve_ofTasks_of_unknown {first : LoadedTask} {rest : List LoadedTask} {version : Option String}
    (h : ∀ v, version = some v → v ∉ (first :: rest).map LoadedTask.version) :
    ∃ task, latest? (first :: rest) first.version = some task ∧ (ofTasks identifier (first :: rest)).resolve version =
      (.ok task, [.fallbackVersion identifier (version.getD "<unconfigured>") first.version]) := by
  have hunknown : version.bind (ofTasks identifier (first :: rest)).get? = none := by
    rw [Option.bind_eq_none_iff]
    intro v hv
    rw [get?_ofTasks, latest?_eq_none_iff]
    exact h v hv
  have hhead : (ofTasks identifier (first :: rest)).versions.head? = some first.version := by
    rw [versions_ofTasks, Table.head?_eraseDups]
    rfl
  obtain ⟨task, htask⟩ : ∃ task, latest? (first :: rest) first.version = some task := by
    rw [← Option.ne_none_iff_exists', ne_eq, latest?_eq_none_iff, not_not]
    exact List.mem_cons_self
  refine ⟨task, htask, ?_⟩
  have hresolve := resolve_of_unknown hunknown hhead ((get?_ofTasks identifier _ _).trans htask)
  rwa [ofTasks_eq_insertAll] at hresolve ⊢

theorem resolve_ofTasks_nil (version : Option String) :
    (ofTasks identifier []).resolve version = (.error (.noKnownVersions identifier), []) := by
  cases version with
  | none => rfl
  | some v => rfl

theorem exists_resolve_of_ne_nil {tasks : List LoadedTask} (h : tasks ≠ []) (version : Option String) :
    ∃ task, ((ofTasks identifier tasks).resolve version).1 = .ok task := by
  obtain ⟨first, rest, rfl⟩ := List.exists_cons_of_ne_nil h
  cases hknown : version.bind (ofTasks identifier (first :: rest)).get? with
  | some task =>
    rw [resolve, hknown]
    exact ⟨task, rfl⟩
  | none =>
    rw [Option.bind_eq_none_iff] at hknown
    have habsent : ∀ v, version = some v → v ∉ (first :: rest).map LoadedTask.version := fun v hv =>
      latest?_eq_none_iff.mp ((get?_ofTasks identifier _ v).symm.trans (hknown v hv))
    obtain ⟨task, -, htask⟩ := resolve_ofTasks_of_unknown identifier habsent
    rw [htask]
    exact ⟨task, rfl⟩

end

/-- Whatever tasks are added to a new switcher, one after the other, the order of its versions is the order in which they
    came first, and the task of each is the one that came last. -/
theorem tells_ofTasks (identifier : String) (tasks : List LoadedTask) : Tells identifier tasks where
  versions := versions_ofTasks identifier tasks
  get := get?_ofTasks identifier tasks
  absent := fun version => by rw [get?_ofTasks, latest?_eq_none_iff]
  replaced := by
    rintro before task after -
    rw [addVersion, addWarnings, get?_ofTasks, ofTasks_eq_insertAll]
    exact ⟨rfl, rfl⟩
  known := fun version task h => resolve_of_get? ((get?_ofTasks identifier tasks version).trans h)
  fallback := by
    rintro first rest version rfl h
    exact resolve_ofTasks_of_unknown identifier h
  refused := by
    intro version
    constructor
    · rintro ⟨e, he⟩
      by_contra hne
      obtain ⟨task, htask⟩ := exists_resolve_of_ne_nil identifier hne version
      cases he.symm.trans htask
    · rintro rfl
      rw [resolve_ofTasks_nil]
      exact ⟨_, rfl⟩
  empty := by
    rintro version rfl
    exact resolve_ofTasks_nil identifier version

end ToolPlugins.VersionSwitcher
