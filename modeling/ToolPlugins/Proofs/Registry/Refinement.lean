import Mathlib
import ToolPlugins.Proofs.Registry.Run

/-!
The registry as one map from identifiers to entries. The two namespaces and the list of switchers show this
map after every run.
-/

namespace ToolPlugins

/-- What the map has under an identifier: one task, or a switcher with its versions. -/
inductive CatalogueEntry where
  | generic (task : LoadedTask)
  | versioned (id : SwitcherId) (versions : Table String LoadedTask)

/-- The entry of the registry that stands for an entry of the map. -/
def CatalogueEntry.entry : CatalogueEntry → RegistryEntry
  | generic task => .generic task
  | versioned id _ => .versioned id

/-- One map from identifiers to entries, and the number of switchers made so far. -/
structure Catalogue where
  entries : Finmap fun _ : String => CatalogueEntry := ∅
  made : Nat := 0

/-- The map after a change. A version goes to the switcher that is there, or to a new one of its own. -/
def Catalogue.changed (m : Catalogue) : RegistryChange → Catalogue
  | .keep => m
  | .register task => { m with entries := m.entries.insert task.identifier (.generic task) }
  | .registerVersion task =>
    match m.entries.lookup task.identifier with
    | some (.versioned id versions) =>
      { m with entries := m.entries.insert task.identifier (.versioned id (versions.insert task.version task)) }
    | _ =>
      { entries := m.entries.insert task.identifier (.versioned m.made [(task.version, task)]), made := m.made + 1 }
  | .clear => { m with entries := ∅ }

namespace Catalogue

variable {m : Catalogue} {task : LoadedTask}

theorem registerVersion_of_versioned {id : SwitcherId} {versions : Table String LoadedTask}
    (h : m.entries.lookup task.identifier = some (.versioned id versions)) :
    m.changed (.registerVersion task) =
      { m with entries := m.entries.insert task.identifier (.versioned id (versions.insert task.version task)) } := by
  simp only [changed, h]

theorem registerVersion_of_not_versioned
    (h : ∀ id versions, m.entries.lookup task.identifier ≠ some (.versioned id versions)) :
    m.changed (.registerVersion task) =
      { entries := m.entries.insert task.identifier (.versioned m.made [(task.version, task)])
        made := m.made + 1 } := by
  rw [changed]
  split
  · next id versions hlookup => exact absurd hlookup (h id versions)
  · rfl

end Catalogue

namespace Registry

/-- The registry has the entries of the map, and its switchers the versions. -/
structure Shows (r : Registry) (m : Catalogue) : Prop where
  made : r.switchers.length = m.made
  entry : ∀ k, r.lookup k = (m.entries.lookup k).map CatalogueEntry.entry
  versions : ∀ k id versions, m.entries.lookup k = some (.versioned id versions) → r.switcher? id = some ⟨k, versions⟩

theorem shows_empty : ({} : Registry).Shows {} where
  made := rfl
  entry := fun _ => rfl
  versions := fun k id versions h => by cases h

section
variable {r : Registry} {m : Catalogue}

/-- An identifier that is versioned in the registry is versioned in the map, with the same switcher. -/
theorem Shows.lookup_of_versioned (h : r.Shows m) {k : String} {id : SwitcherId}
    (hk : r.versioned.get? k = some id) : ∃ versions, m.entries.lookup k = some (.versioned id versions) := by
  have hentry := h.entry k
  simp only [lookup, hk] at hentry
  obtain ⟨e, he, heq⟩ := Option.map_eq_some_iff.mp hentry.symm
  cases e with
  | generic task => cases heq
  | versioned id' versions =>
    cases heq
    exact ⟨versions, he⟩

theorem Shows.lookup_of_not_versioned (h : r.Shows m) {k : String} (hk : r.versioned.get? k = none) :
    ∀ id versions, m.entries.lookup k ≠ some (.versioned id versions) := by
  intro id versions hlookup
  have hentry := h.entry k
  simp only [lookup, hk, hlookup, Option.map_some] at hentry
  cases hgeneric : r.generic.get? k with
  | none => simp [hgeneric] at hentry
  | some task => simp [hgeneric, CatalogueEntry.entry] at hentry

theorem Shows.register (h : r.Shows m) (task : LoadedTask) :
    (r.register task).2.2.Shows (m.changed (.register task)) where
  made := h.made
  entry := by
    intro k
    rw [lookup_register, Catalogue.changed]
    split_ifs with hk
    · rw [hk, Finmap.lookup_insert]
      rfl
    · rw [Finmap.lookup_insert_of_ne _ hk]
      exact h.entry k
  versions := by
    intro k id versions hk
    rw [Catalogue.changed] at hk
    by_cases heq : k = task.identifier
    · rw [heq, Finmap.lookup_insert] at hk
      cases hk
    · rw [Finmap.lookup_insert_of_ne _ heq] at hk
      exact h.versions k id versions hk

theorem Shows.registerVersion (h : r.Shows m) (hr : r.Sound) (task : LoadedTask) :
    (r.registerVersion task).2.2.Shows (m.changed (.registerVersion task)) := by
  have hentry := lookup_registerVersion hr task
  have hkeep : ∀ k id versions, k ≠ task.identifier → m.entries.lookup k = some (.versioned id versions) →
      (r.registerVersion task).2.2.switcher? id = some ⟨k, versions⟩ := by
    intro k id versions hne hk
    have hs := h.versions _ _ _ hk
    rw [switcher?_registerVersion hr task hs, if_neg]
    -- two identifiers share no switcher, because a switcher knows its own
    intro hid
    obtain ⟨s, hs', hsid⟩ := hr.versioned _ _ hid
    cases hs.symm.trans hs'
    exact hne hsid
  cases hid : r.versioned.get? task.identifier with
  | some id =>
    obtain ⟨versions, hlookup⟩ := h.lookup_of_versioned hid
    have hs := h.versions _ _ _ hlookup
    rw [registerVersion_eq_of_some hid hs] at hentry hkeep ⊢
    rw [Catalogue.registerVersion_of_versioned hlookup]
    refine ⟨(List.length_set ..).trans h.made, fun k => ?_, fun k id' versions' hk => ?_⟩
    · rw [hentry]
      split_ifs with heq
      · rw [heq, Finmap.lookup_insert]
        rfl
      · rw [Finmap.lookup_insert_of_ne _ heq]
        exact h.entry k
    · by_cases heq : k = task.identifier
      · subst heq
        rw [Finmap.lookup_insert] at hk
        cases hk
        exact List.getElem?_set_self (List.getElem?_eq_some_iff.mp hs).1
      · rw [Finmap.lookup_insert_of_ne _ heq] at hk
        exact hkeep k id' versions' heq hk
  | none =>
    rw [registerVersion_eq_of_none hid] at hentry hkeep ⊢
    rw [Catalogue.registerVersion_of_not_versioned (h.lookup_of_not_versioned hid)]
    refine ⟨?_, fun k => ?_, fun k id' versions' hk => ?_⟩
    · simp [h.made]
    · rw [hentry]
      split_ifs with heq
      · rw [heq, Finmap.lookup_insert, ← h.made]
        rfl
      · rw [Finmap.lookup_insert_of_ne _ heq]
        exact h.entry k
    · by_cases heq : k = task.identifier
      · subst heq
        rw [Finmap.lookup_insert] at hk
        cases hk
        rw [← h.made]
        exact List.getElem?_concat_length
      · rw [Finmap.lookup_insert_of_ne _ heq] at hk
        exact hkeep k id' versions' heq hk

theorem Shows.clear (h : r.Shows m) : r.clear.Shows (m.changed .clear) where
  made := h.made
  entry := fun _ => rfl
  versions := fun k id versions hk => by cases hk

theorem Shows.changed (h : r.Shows m) (hr : r.Sound) (change : RegistryChange) :
    (r.changed change).Shows (m.changed change) := by
  cases change with
  | keep => exact h
  | register task => exact h.register task
  | registerVersion task => exact h.registerVersion hr task
  | clear => exact h.clear

theorem Shows.foldl_changed (h : r.Shows m) (hr : r.Sound) (changes : List RegistryChange) :
    (changes.foldl Registry.changed r).Shows (changes.foldl Catalogue.changed m) := by
  induction changes generalizing r m with
  | nil => exact h
  | cons change changes ih => exact ih (h.changed hr change) (hr.changed change)

end

/-! ### What the map says about the registry -/

/-- The registry answers as the map does, and keeps the two namespaces apart. -/
structure Refines (r : Registry) (m : Catalogue) : Prop where
  apart : ∀ k task id, r.generic.get? k = some task → r.versioned.get? k ≠ some id
  generic : ∀ k task, r.lookup k = some (.generic task) → task.identifier = k
  versioned : ∀ k id, r.lookup k = some (.versioned id) →
    ∃ s, r.switcher? id = some s ∧ s.identifier = k ∧ s.tasks ≠ [] ∧ s.versions.Nodup ∧
      ∀ version ∈ s.versions, ∃ task, s.get? version = some task ∧ task.identifier = k ∧ task.version = version
  lookup : ∀ k, r.lookup k = (m.entries.lookup k).map CatalogueEntry.entry
  versions : ∀ k id versions, m.entries.lookup k = some (.versioned id versions) → r.switcher? id = some ⟨k, versions⟩
  fresh : r.switcher? m.made = none
  increasing : r.identifiers.Pairwise (· < ·)
  identifiers : ∀ k, k ∈ r.identifiers ↔ k ∈ m.entries
  size : r.size = m.entries.keys.card
  isEmpty : r.isEmpty = true ↔ m.entries = ∅
  displaced : ∀ task, (r.register task).1 = (m.entries.lookup task.identifier).map CatalogueEntry.entry
  opened : ∀ task, ∃ versions, (m.changed (.registerVersion task)).entries.lookup task.identifier =
    some (.versioned (r.registerVersion task).1 versions)

section
variable {r : Registry} {m : Catalogue}

theorem Shows.mem_identifiers_iff (h : r.Shows m) {k : String} : k ∈ r.identifiers ↔ k ∈ m.entries := by
  rw [Registry.mem_identifiers_iff, h.entry, ← Finmap.lookup_isSome, ← Option.isSome_iff_exists, Option.isSome_map]

theorem Shows.size_eq (h : r.Shows m) (hr : r.Sound) : r.size = m.entries.keys.card := by
  have hkeys : m.entries.keys = r.identifiers.toFinset := by
    ext k
    rw [Finmap.mem_keys, List.mem_toFinset, h.mem_identifiers_iff]
  rw [hkeys, List.toFinset_card_of_nodup hr.nodup_identifiers, length_identifiers]

theorem Shows.isEmpty_iff (h : r.Shows m) : r.isEmpty = true ↔ m.entries = ∅ := by
  rw [isEmpty_iff_size_eq_zero, ← length_identifiers, List.length_eq_zero_iff, List.eq_nil_iff_forall_not_mem]
  constructor
  · intro hnone
    refine Finmap.ext_lookup fun k => ?_
    rw [Finmap.lookup_empty, Finmap.lookup_eq_none, ← h.mem_identifiers_iff]
    exact hnone k
  · intro hempty k hk
    rw [h.mem_identifiers_iff, hempty] at hk
    exact Finmap.notMem_empty hk

theorem Shows.refines (h : r.Shows m) (hr : r.Sound) : r.Refines m where
  apart := by
    intro k task id hgeneric hversioned
    exact hr.apart k (Table.mem_keys_iff.mpr ⟨task, hgeneric⟩) (Table.mem_keys_iff.mpr ⟨id, hversioned⟩)
  generic := by
    intro k task hk
    rw [Registry.lookup] at hk
    split at hk
    · cases hk
    · obtain ⟨task', htask, heq⟩ := Option.map_eq_some_iff.mp hk
      cases heq
      exact hr.generic k task htask
  versioned := by
    intro k id hk
    rw [Registry.lookup] at hk
    split at hk
    · next id' hid =>
      cases hk
      obtain ⟨s, hs, hsid⟩ := hr.versioned k id hid
      have hsound := hr.switchers s (List.mem_of_getElem? hs)
      refine ⟨s, hs, hsid, hsound.nonempty, hsound.nodup, fun version hversion => ?_⟩
      obtain ⟨task, htask⟩ := Table.mem_keys_iff.mp hversion
      obtain ⟨hversion, hid⟩ := hsound.task version task htask
      exact ⟨task, htask, hid.trans hsid, hversion⟩
    · obtain ⟨_, _, heq⟩ := Option.map_eq_some_iff.mp hk
      cases heq
  lookup := h.entry
  versions := h.versions
  fresh := List.getElem?_eq_none_iff.mpr h.made.le
  increasing := hr.pairwise_identifiers
  identifiers := fun k => h.mem_identifiers_iff
  size := h.size_eq hr
  isEmpty := h.isEmpty_iff
  displaced := fun task => h.entry task.identifier
  opened := by
    intro task
    have hentry := (h.registerVersion hr task).entry task.identifier
    rw [lookup_registerVersion hr, if_pos rfl] at hentry
    obtain ⟨e, he, heq⟩ := Option.map_eq_some_iff.mp hentry.symm
    cases e with
    | generic other => cases heq
    | versioned id versions =>
      cases heq
      exact ⟨versions, he⟩

end

end Registry

/-- After every run of operations from an empty registry, whatever the files and the records are, the
    registry refines the map that the changes of the run make. -/
theorem Installation.refines_of_run {σ : Type} [ToolStore σ] (records : σ) (files : FileTree) (loaded : Nat)
    (ops : List (RegistryOp σ)) :
    (({ records, files, loaded } : Installation σ).run ops).registry.Refines
      ((({ records, files, loaded } : Installation σ).changes ops).foldl Catalogue.changed {}) := by
  rw [registry_run]
  have hshows := Registry.shows_empty.foldl_changed Registry.sound_empty
    (({ records, files, loaded } : Installation σ).changes ops)
  exact hshows.refines (Registry.sound_empty.foldl_changed _)

end ToolPlugins
