import ToolPlugins.Registry.Switcher

/-!
The registry: what is loaded under each identifier, either one task or a switcher between several
versions. A switcher is kept under a number even when no identifier leads to it any more, because
instances go on using it.
-/

namespace ToolPlugins

/-- The number of a switcher. -/
abbrev SwitcherId := Nat

/-- What is registered under an identifier. -/
inductive RegistryEntry where
  | generic (task : LoadedTask)
  | versioned (switcher : SwitcherId)
  deriving Repr

/-- All registrations. An identifier is in at most one of `generic` and `versioned`; `switchers` are
    all switchers ever made, by number. -/
structure Registry where
  generic : Table String LoadedTask := []
  versioned : Table String SwitcherId := []
  switchers : List VersionSwitcher := []
  deriving Repr

namespace Registry

def switcher? (r : Registry) (id : SwitcherId) : Option VersionSwitcher := r.switchers[id]?

/-- What is registered under an identifier. -/
def lookup (r : Registry) (identifier : String) : Option RegistryEntry :=
  match r.versioned.get? identifier with
  | some switcher => some (.versioned switcher)
  | none => (r.generic.get? identifier).map .generic

/-- The registry with a new switcher without versions, under the next number. -/
def addSwitcher (r : Registry) (identifier : String) : SwitcherId × Registry :=
  (r.switchers.length, { r with switchers := r.switchers ++ [{ identifier }] })

/-! ### One task under an identifier -/

/-- The warning about an entry that a task replaces. -/
def registerWarnings (identifier : String) : Option RegistryEntry → List Warning
  | none => []
  | some (.generic _) => [.replacedEntry identifier .generic]
  | some (.versioned _) => [.replacedEntry identifier .versioned]

/-- The registry with a task as the only one of its identifier, and the entry it replaces. -/
def register (r : Registry) (task : LoadedTask) : Option RegistryEntry × List Warning × Registry :=
  let displaced := r.lookup task.identifier
  (displaced, registerWarnings task.identifier displaced,
    { r with
      generic := r.generic.insert task.identifier task
      versioned := r.versioned.erase task.identifier })

/-! ### A version under an identifier -/

/-- The registry with a switcher under an identifier, which replaces a task that was alone there. -/
def openSwitcher (r : Registry) (identifier : String) : SwitcherId × Registry :=
  let r := { r with generic := r.generic.erase identifier }
  match r.versioned.get? identifier with
  | some id => (id, r)
  | none =>
    let (id, r) := r.addSwitcher identifier
    (id, { r with versioned := r.versioned.insert identifier id })

/-- The warning about a task that was alone under an identifier. -/
def openWarnings (r : Registry) (identifier : String) : List Warning :=
  if (r.generic.get? identifier).isSome then [.replacedBySwitcher identifier] else []

/-- The registry with a task as one version of its identifier, and the switcher it went to. -/
def registerVersion (r : Registry) (task : LoadedTask) : SwitcherId × List Warning × Registry :=
  let warnings := r.openWarnings task.identifier
  let (id, r) := r.openSwitcher task.identifier
  match r.switcher? id with
  | none => (id, warnings, r)
  | some switcher =>
    let (_, added, switcher) := switcher.addVersion task
    (id, warnings ++ added, { r with switchers := r.switchers.set id switcher })

/-! ### The whole registry -/

/-- The registered identifiers in order. -/
def identifiers (r : Registry) : List String :=
  (r.generic.keys ++ r.versioned.keys).mergeSort fun a b => decide (a ≤ b)

def size (r : Registry) : Nat := r.generic.length + r.versioned.length

def isEmpty (r : Registry) : Bool := r.generic.isEmpty && r.versioned.isEmpty

def clear (r : Registry) : Registry := { r with generic := [], versioned := [] }

/-! ### What the operations do to `lookup` -/

theorem lookup_register (r : Registry) (task : LoadedTask) (identifier : String) :
    (r.register task).2.2.lookup identifier =
      if identifier = task.identifier then some (.generic task) else r.lookup identifier := by
  by_cases h : identifier = task.identifier
  · simp [register, lookup, Table.get?_erase, Table.get?_insert, h]
  · simp [register, lookup, Table.get?_erase, Table.get?_insert, h]

theorem lookup_openSwitcher (r : Registry) (identifier other : String) :
    (r.openSwitcher identifier).2.lookup other =
      if other = identifier then some (.versioned (r.openSwitcher identifier).1)
      else r.lookup other := by
  by_cases h : other = identifier
  · subst h
    simp only [openSwitcher]
    split
    · next id hid => simp [lookup, hid]
    · simp [lookup, addSwitcher, Table.get?_insert]
  · simp only [openSwitcher]
    split
    · simp [lookup, Table.get?_erase, h]
    · simp [lookup, addSwitcher, Table.get?_erase, Table.get?_insert, h]

theorem lookup_clear (r : Registry) (identifier : String) : r.clear.lookup identifier = none := rfl

end Registry

end ToolPlugins
