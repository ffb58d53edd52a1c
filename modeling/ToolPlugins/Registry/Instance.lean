import ToolPlugins.Registry.Basic

/-!
Task instances. An instance of a task that is alone under its identifier answers as that task. An
instance made through a switcher is unbound at first; it is bound once, to the task that its switcher
chooses for a version at that moment, and answers as that task from then on.
-/

namespace ToolPlugins

/-- An instance made through a switcher, with the version it was bound by. -/
structure SwitchedTask where
  switcher : SwitcherId
  identifier : String
  version : Option String := none
  bound : Option LoadedTask := none
  deriving Repr

/-- An instance of a registered task. -/
inductive TaskInstance where
  | plain (task : LoadedTask)
  | switched (task : SwitchedTask)
  deriving Repr

/-- What an unbound instance shows for every view. -/
def unboundBody : String := "<p class=\"task-unbound\">No version specified</p>\n"

namespace SwitchedTask

/-- The instance bound by a version through its switcher. An instance that is bound stays as it is. -/
def bind (t : SwitchedTask) (r : Registry) (version : String) :
    Result LoadedTask × List Warning × SwitchedTask :=
  if t.bound.isSome then (.error (.alreadyBound t.identifier), [], t)
  else
    match r.switcher? t.switcher with
    | none => (.error (.noKnownVersions t.identifier), [], t)
    | some switcher =>
      match switcher.resolve (some version) with
      | (.ok task, warnings) =>
        (.ok task, warnings, { t with version := some version, bound := some task })
      | (.error e, warnings) => (.error e, warnings, t)

end SwitchedTask

namespace TaskInstance

/-- The task that an instance answers as, unless it is unbound. -/
def task? : TaskInstance → Option LoadedTask
  | plain task => some task
  | switched task => task.bound

def identifier : TaskInstance → String
  | plain task => task.identifier
  | switched task => task.identifier

/-- The name of the type; the identifier while unbound. -/
def typeName (i : TaskInstance) : String :=
  match i.task? with
  | some task => task.typeName
  | none => i.identifier

def publicPath? (i : TaskInstance) : Option Path := i.task?.bind LoadedTask.publicPath?

def body (i : TaskInstance) (view : ViewKind) : String :=
  match i.task? with
  | some task => task.body view
  | none => unboundBody

def helpPath? (i : TaskInstance) : Option Path := i.task?.map (·.helpPath)

def definition? (i : TaskInstance) : Option TaskDefinition := i.task?.map (·.definition)

/-- Whether a name is one of the names of the type; only the identifier is while unbound. -/
def isA (i : TaskInstance) (name : String) : Bool :=
  match i.task? with
  | some task => task.isA name
  | none => name == i.identifier

end TaskInstance

namespace Registry

/-- A new instance through a switcher. -/
def instantiateSwitcher? (r : Registry) (id : SwitcherId) : Option TaskInstance :=
  (r.switcher? id).map fun s => .switched { switcher := id, identifier := s.identifier }

/-- A new instance of what is registered under an identifier. -/
def instantiate? (r : Registry) (identifier : String) : Option TaskInstance :=
  match r.lookup identifier with
  | none => none
  | some (.generic task) => some (.plain task)
  | some (.versioned id) => r.instantiateSwitcher? id

end Registry

end ToolPlugins
