import Mathlib
import ToolPlugins.Proofs.Table
import ToolPlugins.Registry.Basic

/-!
The invariant of registries, and the registries that the operations leave: no identifier is in both
namespaces, every entry is under its own identifier, and every switcher ever made has a version, also when
no identifier leads to it any more.
-/

namespace ToolPlugins

/-- A switcher with at least one version, each once, and under each version a task of that version and of
    the identifier of the switcher. -/
structure VersionSwitcher.Sound (s : VersionSwitcher) : Prop where
  nonempty : s.tasks ≠ []
  nodup : s.versions.Nodup
  task : ∀ version task, s.get? version = some task → task.version = version ∧ task.identifier = s.identifier

/-- A registry in which no identifier is in both namespaces and every entry is under its own identifier. -/
structure Registry.Sound (r : Registry) : Prop where
  genericNodup : r.generic.keys.Nodup
  versionedNodup : r.versioned.keys.Nodup
  apart : ∀ k ∈ r.generic.keys, k ∉ r.versioned.keys
  generic : ∀ k task, r.generic.get? k = some task → task.identifier = k
  versioned : ∀ k id, r.versioned.get? k = some id → ∃ s, r.switcher? id = some s ∧ s.identifier = k
  switchers : ∀ s ∈ r.switchers, s.Sound

namespace VersionSwitcher

/-- Adding a task of its identifier makes a switcher sound that is not sound only if it has no version. -/
theorem sound_add {s : VersionSwitcher} {task : LoadedTask} (hn : s.versions.Nodup)
    (ht : ∀ version task, s.get? version = some task → task.version = version ∧ task.identifier = s.identifier)
    (hid : task.identifier = s.identifier) : (s.add task).Sound where
  nonempty := Table.insert_ne_nil _ _ _
  nodup := Table.nodup_keys_insert hn
  task := by
    intro version other h
    rw [get?_add] at h
    split_ifs at h with hv
    · cases h
      exact ⟨hv.symm, hid⟩
    · exact ht version other h

theorem Sound.add {s : VersionSwitcher} {task : LoadedTask} (hs : s.Sound) (hid : task.identifier = s.identifier) :
    (s.add task).Sound := sound_add hs.nodup hs.task hid

/-- The switcher with one version. -/
def one (task : LoadedTask) : VersionSwitcher where
  identifier := task.identifier
  tasks := [(task.version, task)]

theorem sound_one (task : LoadedTask) : (one task).Sound := by
  refine @sound_add { identifier := task.identifier } task List.nodup_nil ?_ rfl
  intro version other h
  cases h

/-- A sound switcher has a task for every version, if not the one that is asked for. -/
theorem Sound.exists_resolve {s : VersionSwitcher} (hs : s.Sound) (version : Option String) :
    ∃ task, (s.resolve version).1 = .ok task ∧ task.identifier = s.identifier := by
  rw [resolve]
  cases hv : version.bind s.get? with
  | some task =>
    obtain ⟨v, -, hget⟩ := Option.bind_eq_some_iff.mp hv
    exact ⟨task, rfl, (hs.task v task hget).2⟩
  | none =>
    obtain ⟨⟨first, task⟩, rest, htasks⟩ := List.exists_cons_of_ne_nil hs.nonempty
    have hget : s.get? first = some task := by
      rw [get?, htasks, Table.get?, if_pos rfl]
    simp only [htasks]
    exact ⟨task, rfl, (hs.task first task hget).2⟩

end VersionSwitcher

namespace Registry

/-! ### The registries after a version was registered -/

section
variable {r : Registry} {task : LoadedTask}

theorem registerVersion_eq_of_some {id : SwitcherId} {s : VersionSwitcher}
    (hid : r.versioned.get? task.identifier = some id) (hs : r.switcher? id = some s) :
    r.registerVersion task = (id, r.openWarnings task.identifier ++ s.addWarnings task,
      { r with
        generic := r.generic.erase task.identifier
        switchers := r.switchers.set id (s.add task) }) := by
  have hopen : r.openSwitcher task.identifier = (id, { r with generic := r.generic.erase task.identifier }) := by
    rw [openSwitcher]
    simp only [hid]
  have hs' : switcher? { r with generic := r.generic.erase task.identifier } id = some s := hs
  simp only [registerVersion, hopen, hs', VersionSwitcher.addVersion]

theorem registerVersion_eq_of_none (hid : r.versioned.get? task.identifier = none) :
    r.registerVersion task = (r.switchers.length, r.openWarnings task.identifier,
      { r with
        generic := r.generic.erase task.identifier
        versioned := r.versioned.insert task.identifier r.switchers.length
        switchers := r.switchers ++ [.one task] }) := by
  have hopen : r.openSwitcher task.identifier = (r.switchers.length,
      { r with
        generic := r.generic.erase task.identifier
        versioned := r.versioned.insert task.identifier r.switchers.length
        switchers := r.switchers ++ [{ identifier := task.identifier }] }) := by
    rw [openSwitcher]
    simp only [hid]
    rfl
  have hs : switcher?
      { r with
        generic := r.generic.erase task.identifier
        versioned := r.versioned.insert task.identifier r.switchers.length
        switchers := r.switchers ++ [{ identifier := task.identifier }] } r.switchers.length =
      some { identifier := task.identifier } := List.getElem?_concat_length
  have hset : (r.switchers ++ [({ identifier := task.identifier } : VersionSwitcher)]).set r.switchers.length
      (VersionSwitcher.add { identifier := task.identifier } task) = r.switchers ++ [.one task] := by
    rw [List.set_append_right _ _ le_rfl, Nat.sub_self]
    rfl
  simp only [registerVersion, hopen, hs, VersionSwitcher.addVersion, hset]
  rw [show VersionSwitcher.addWarnings { identifier := task.identifier } task = [] from rfl, List.append_nil]

theorem lookup_registerVersion (h : r.Sound) (task : LoadedTask) (k : String) :
    (r.registerVersion task).2.2.lookup k =
      if k = task.identifier then some (.versioned (r.registerVersion task).1) else r.lookup k := by
  cases hid : r.versioned.get? task.identifier with
  | some id =>
    obtain ⟨s, hs, -⟩ := h.versioned _ _ hid
    rw [registerVersion_eq_of_some hid hs]
    split_ifs with hk
    · simp [lookup, hk, hid]
    · simp [lookup, Table.get?_erase, hk]
  | none =>
    rw [registerVersion_eq_of_none hid]
    split_ifs with hk
    · simp [lookup, Table.get?_insert, hk]
    · simp [lookup, Table.get?_insert, Table.get?_erase, hk]

/-- Of the switchers that were made before, a version goes to the one of its identifier. -/
theorem switcher?_registerVersion (h : r.Sound) (task : LoadedTask) {id : SwitcherId} {s : VersionSwitcher}
    (hs : r.switcher? id = some s) :
    (r.registerVersion task).2.2.switcher? id =
      some (if r.versioned.get? task.identifier = some id then s.add task else s) := by
  have hlt : id < r.switchers.length := (List.getElem?_eq_some_iff.mp hs).1
  cases hid : r.versioned.get? task.identifier with
  | some other =>
    obtain ⟨s', hs', -⟩ := h.versioned _ _ hid
    rw [registerVersion_eq_of_some hid hs']
    split_ifs with heq
    · cases heq
      cases hs.symm.trans hs'
      exact List.getElem?_set_self hlt
    · exact (List.getElem?_set_ne fun h => heq (congrArg some h)).trans hs
  | none =>
    rw [registerVersion_eq_of_none hid, if_neg (by simp)]
    exact (List.getElem?_append_left hlt).trans hs

/-- A version takes no switcher away and leaves it its identifier. -/
theorem exists_switcher_registerVersion (h : r.Sound) (task : LoadedTask) {id : SwitcherId} {s : VersionSwitcher}
    (hs : r.switcher? id = some s) :
    ∃ s', (r.registerVersion task).2.2.switcher? id = some s' ∧ s'.identifier = s.identifier := by
  refine ⟨_, switcher?_registerVersion h task hs, ?_⟩
  split_ifs
  · rfl
  · rfl

end

/-! ### The operations keep registries sound -/

theorem sound_empty : ({} : Registry).Sound where
  genericNodup := List.nodup_nil
  versionedNodup := List.nodup_nil
  apart := fun _ h => absurd h List.not_mem_nil
  generic := fun _ _ h => by cases h
  versioned := fun _ _ h => by cases h
  switchers := fun _ h => absurd h List.not_mem_nil

variable {r : Registry}

theorem Sound.register (h : r.Sound) (task : LoadedTask) : (r.register task).2.2.Sound where
  genericNodup := Table.nodup_keys_insert h.genericNodup
  versionedNodup := Table.nodup_keys_erase h.versionedNodup
  apart := by
    intro k hk hk'
    obtain ⟨hne, hmem⟩ := Table.mem_keys_erase.mp hk'
    rcases Table.mem_keys_insert.mp hk with hk | hk
    · exact hne hk
    · exact h.apart k hk hmem
  generic := by
    intro k other hk
    change (r.generic.insert task.identifier task).get? k = some other at hk
    rw [Table.get?_insert] at hk
    split_ifs at hk with heq
    · cases hk
      exact heq.symm
    · exact h.generic k other hk
  versioned := by
    intro k id hk
    change (r.versioned.erase task.identifier).get? k = some id at hk
    rw [Table.get?_erase] at hk
    split_ifs at hk
    exact h.versioned k id hk
  switchers := h.switchers

theorem Sound.clear (h : r.Sound) : r.clear.Sound where
  genericNodup := List.nodup_nil
  versionedNodup := List.nodup_nil
  apart := fun _ h => absurd h List.not_mem_nil
  generic := fun _ _ h => by cases h
  versioned := fun _ _ h => by cases h
  switchers := h.switchers

theorem Sound.registerVersion (h : r.Sound) (task : LoadedTask) : (r.registerVersion task).2.2.Sound := by
  have hgeneric : ∀ k other, (r.generic.erase task.identifier).get? k = some other → other.identifier = k := by
    intro k other hk
    rw [Table.get?_erase] at hk
    split_ifs at hk
    exact h.generic k other hk
  have hversioned : ∀ k id, r.versioned.get? k = some id →
      ∃ s, (r.registerVersion task).2.2.switcher? id = some s ∧ s.identifier = k := by
    intro k id hk
    obtain ⟨s, hs, rfl⟩ := h.versioned k id hk
    exact exists_switcher_registerVersion h task hs
  cases hid : r.versioned.get? task.identifier with
  | some id =>
    obtain ⟨s, hs, hsid⟩ := h.versioned _ _ hid
    have hadd : (s.add task).Sound := (h.switchers s (List.mem_of_getElem? hs)).add hsid.symm
    rw [registerVersion_eq_of_some hid hs] at hversioned ⊢
    exact {
      genericNodup := Table.nodup_keys_erase h.genericNodup
      versionedNodup := h.versionedNodup
      apart := fun k hk => h.apart k (Table.mem_keys_erase.mp hk).2
      generic := hgeneric
      versioned := hversioned
      switchers := by
        intro s' hs'
        rcases List.mem_or_eq_of_mem_set hs' with hs' | rfl
        · exact h.switchers s' hs'
        · exact hadd }
  | none =>
    rw [registerVersion_eq_of_none hid] at hversioned ⊢
    exact {
      genericNodup := Table.nodup_keys_erase h.genericNodup
      versionedNodup := Table.nodup_keys_insert h.versionedNodup
      apart := by
        intro k hk hk'
        obtain ⟨hne, hmem⟩ := Table.mem_keys_erase.mp hk
        rcases Table.mem_keys_insert.mp hk' with hk' | hk'
        · exact hne hk'
        · exact h.apart k hmem hk'
      generic := hgeneric
      versioned := by
        intro k other hk
        change (r.versioned.insert task.identifier r.switchers.length).get? k = some other at hk
        rw [Table.get?_insert] at hk
        split_ifs at hk with heq
        · cases hk
          exact ⟨.one task, List.getElem?_concat_length, heq.symm⟩
        · exact hversioned k other hk
      switchers := by
        intro s' hs'
        rcases List.mem_append.mp hs' with hs' | hs'
        · exact h.switchers s' hs'
        · rw [List.mem_singleton.mp hs']
          exact VersionSwitcher.sound_one task }

/-! ### Registered identifiers -/

theorem mem_identifiers_iff {k : String} : k ∈ r.identifiers ↔ ∃ e, r.lookup k = some e := by
  rw [identifiers, List.mem_mergeSort, List.mem_append, Table.mem_keys_iff, Table.mem_keys_iff, lookup]
  cases r.versioned.get? k with
  | some id => simp
  | none => simp

theorem Sound.nodup_identifiers (h : r.Sound) : r.identifiers.Nodup := by
  refine (List.mergeSort_perm _ _).nodup_iff.mpr (List.nodup_append.mpr ⟨h.genericNodup, h.versionedNodup, ?_⟩)
  rintro a ha b hb rfl
  exact h.apart a ha hb

theorem Sound.pairwise_identifiers (h : r.Sound) : r.identifiers.Pairwise (· < ·) := by
  have hle : r.identifiers.Pairwise fun a b => decide (a ≤ b) = true := by
    refine List.pairwise_mergeSort (fun a b c hab hbc => ?_) (fun a b => ?_) _
    · exact decide_eq_true (le_trans (of_decide_eq_true hab) (of_decide_eq_true hbc))
    · simpa using le_total a b
  exact hle.imp₂ (fun a b hab hne => lt_of_le_of_ne (of_decide_eq_true hab) hne) h.nodup_identifiers

theorem length_identifiers (r : Registry) : r.identifiers.length = r.size := by
  simp [identifiers, size, Table.keys]

theorem isEmpty_iff_size_eq_zero : r.isEmpty = true ↔ r.size = 0 := by
  simp [isEmpty, size]

end Registry

end ToolPlugins
