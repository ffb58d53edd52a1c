import Mathlib
import ToolPlugins.Proofs.Registry.Run

/-!
What one identifier leads to, and what registering a task does to it: the task is under its own identifier
afterwards, and every other identifier leads where it led before.
-/

namespace ToolPlugins

/-- How a task is registered. -/
def RegistryChange.ofTask (task : LoadedTask) (multiVersion : Bool) : RegistryChange :=
  if multiVersion then .registerVersion task else .register task

namespace Registry

/-- The registry has a task under an identifier as one of several versions. -/
def HasVersion (r : Registry) (identifier version : String) (task : LoadedTask) : Prop :=
  ∃ id s, r.lookup identifier = some (.versioned id) ∧ r.switcher? id = some s ∧ s.get? version = some task

/-- The registry leads to a task: as the only one of its identifier, or as one of several versions. -/
def LeadsTo (r : Registry) (task : LoadedTask) (multiVersion : Bool) : Prop :=
  if multiVersion then r.HasVersion task.identifier task.version task
  else r.lookup task.identifier = some (.generic task)

/-- Two registries have the same entry under an identifier, and the same versions if it is a switcher. -/
structure SameUnder (r r' : Registry) (identifier : String) : Prop where
  lookup : r'.lookup identifier = r.lookup identifier
  versions : ∀ id, r.lookup identifier = some (.versioned id) → r'.switcher? id = r.switcher? id

theorem SameUnder.refl (r : Registry) (identifier : String) : r.SameUnder r identifier := ⟨rfl, fun _ _ => rfl⟩

theorem SameUnder.hasVersion {r r' : Registry} {identifier version : String} {task : LoadedTask}
    (h : r.SameUnder r' identifier) (hv : r.HasVersion identifier version task) :
    r'.HasVersion identifier version task := by
  obtain ⟨id, s, hid, hs, hget⟩ := hv
  exact ⟨id, s, h.lookup.trans hid, (h.versions id hid).trans hs, hget⟩

section
variable {r : Registry} {task : LoadedTask} {identifier : String}

/-- A sound registry has a switcher with its identifier wherever it leads to one. -/
theorem Sound.exists_switcher (hr : r.Sound) {id : SwitcherId} (h : r.lookup identifier = some (.versioned id)) :
    ∃ s, r.switcher? id = some s ∧ s.identifier = identifier ∧ r.versioned.get? identifier = some id := by
  rw [lookup] at h
  split at h
  · next id' hid =>
    cases h
    obtain ⟨s, hs, hsid⟩ := hr.versioned _ _ hid
    exact ⟨s, hs, hsid, hid⟩
  · obtain ⟨_, _, heq⟩ := Option.map_eq_some_iff.mp h
    cases heq

theorem switcher?_registerVersion_self (hr : r.Sound) (task : LoadedTask) :
    ∃ s, (r.registerVersion task).2.2.switcher? (r.registerVersion task).1 = some (s.add task) ∧
      ((∃ id, r.lookup task.identifier = some (.versioned id) ∧ r.switcher? id = some s) ∨
        (∀ id, r.lookup task.identifier ≠ some (.versioned id)) ∧ s = { identifier := task.identifier }) := by
  cases hid : r.versioned.get? task.identifier with
  | some id =>
    obtain ⟨s, hs, -⟩ := hr.versioned _ _ hid
    have hlookup : r.lookup task.identifier = some (.versioned id) := by simp only [lookup, hid]
    refine ⟨s, ?_, .inl ⟨id, hlookup, hs⟩⟩
    rw [registerVersion_eq_of_some hid hs]
    exact List.getElem?_set_self (List.getElem?_eq_some_iff.mp hs).1
  | none =>
    refine ⟨{ identifier := task.identifier }, ?_, .inr ⟨?_, rfl⟩⟩
    · rw [registerVersion_eq_of_none hid]
      exact List.getElem?_concat_length
    · intro id hlookup
      obtain ⟨-, -, -, hid'⟩ := hr.exists_switcher hlookup
      cases hid.symm.trans hid'

theorem leadsTo_changed (hr : r.Sound) (task : LoadedTask) (multiVersion : Bool) :
    (r.changed (.ofTask task multiVersion)).LeadsTo task multiVersion := by
  cases multiVersion with
  | false => exact (lookup_register r task task.identifier).trans (if_pos rfl)
  | true =>
    obtain ⟨s, hs, -⟩ := switcher?_registerVersion_self hr task
    have hlookup := (lookup_registerVersion hr task task.identifier).trans (if_pos rfl)
    have hget := (s.get?_add task task.version).trans (if_pos rfl)
    exact ⟨_, _, hlookup, hs, hget⟩

theorem sameUnder_changed (hr : r.Sound) (task : LoadedTask) (multiVersion : Bool) (hne : identifier ≠ task.identifier) :
    r.SameUnder (r.changed (.ofTask task multiVersion)) identifier := by
  cases multiVersion with
  | false => exact ⟨(lookup_register r task identifier).trans (if_neg hne), fun _ _ => rfl⟩
  | true =>
    refine ⟨(lookup_registerVersion hr task identifier).trans (if_neg hne), fun id hid => ?_⟩
    obtain ⟨s, hs, hsid, -⟩ := hr.exists_switcher hid
    have hnot : r.versioned.get? task.identifier ≠ some id := by
      intro hid'
      obtain ⟨s', hs', hsid'⟩ := hr.versioned _ _ hid'
      cases hs.symm.trans hs'
      exact hne (hsid.symm.trans hsid')
    exact (switcher?_registerVersion hr task hs).trans ((congrArg some (if_neg hnot)).trans hs.symm)

/-- A version is still there after another one of its identifier was added. -/
theorem HasVersion.changed (hr : r.Sound) {version : String} {other : LoadedTask} (h : r.HasVersion identifier version other)
    (hid : task.identifier = identifier) (hne : version ≠ task.version) :
    (r.changed (.ofTask task true)).HasVersion identifier version other := by
  subst hid
  obtain ⟨id, s, hlookup, hs, hget⟩ := h
  obtain ⟨s', hs', hold⟩ := switcher?_registerVersion_self hr task
  obtain ⟨id', hid', hs''⟩ | ⟨hnone, -⟩ := hold
  · cases hlookup.symm.trans hid'
    cases hs.symm.trans hs''
    have hlookup' := (lookup_registerVersion hr task task.identifier).trans (if_pos rfl)
    exact ⟨_, _, hlookup', hs', (s.get?_add task version).trans ((if_neg hne).trans hget)⟩
  · exact absurd hlookup (hnone id)

end

end Registry

end ToolPlugins
