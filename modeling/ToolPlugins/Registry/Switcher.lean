import ToolPlugins.Registry.Task

/-!
Version switchers: the loaded versions of one identifier. The version that was added first stands in
for every version that is not there, and a version that is replaced keeps its place.
-/

namespace ToolPlugins

/-- The versions of one identifier, in order of first insertion. -/
structure VersionSwitcher where
  identifier : String
  tasks : Table String LoadedTask := []
  deriving Repr

namespace VersionSwitcher

/-- The known versions. -/
def versions (s : VersionSwitcher) : List String := s.tasks.keys

def get? (s : VersionSwitcher) (version : String) : Option LoadedTask := Table.get? s.tasks version

def size (s : VersionSwitcher) : Nat := s.tasks.length

def isEmpty (s : VersionSwitcher) : Bool := s.tasks.isEmpty

/-- The switcher with a task under its version. -/
def add (s : VersionSwitcher) (task : LoadedTask) : VersionSwitcher :=
  { s with tasks := Table.insert s.tasks task.version task }

/-- The warning about a version that adding a task replaces. -/
def addWarnings (s : VersionSwitcher) (task : LoadedTask) : List Warning :=
  if (s.get? task.version).isSome then [.replacedVersion s.identifier task.version] else []

/-- The switcher with a task under its version, the task that this replaces, and the warning about it. -/
def addVersion (s : VersionSwitcher) (task : LoadedTask) :
    Option LoadedTask × List Warning × VersionSwitcher :=
  (s.get? task.version, s.addWarnings task, s.add task)

/-- The task for a version, or the first one if the version is not known or not given. -/
def resolve (s : VersionSwitcher) (version : Option String) : Result LoadedTask × List Warning :=
  match version.bind s.get? with
  | some task => (.ok task, [])
  | none =>
    match s.tasks with
    | [] => (.error (.noKnownVersions s.identifier), [])
    | (first, task) :: _ =>
      (.ok task, [.fallbackVersion s.identifier (version.getD "<unconfigured>") first])

/-! ### What the operations do to the versions -/

theorem get?_add (s : VersionSwitcher) (task : LoadedTask) (version : String) :
    (s.add task).get? version = if version = task.version then some task else s.get? version :=
  Table.get?_insert s.tasks task.version version task

theorem resolve_of_get? {s : VersionSwitcher} {version : String} {task : LoadedTask}
    (h : s.get? version = some task) : s.resolve (some version) = (.ok task, []) := by
  simp [resolve, h]

end VersionSwitcher

end ToolPlugins
