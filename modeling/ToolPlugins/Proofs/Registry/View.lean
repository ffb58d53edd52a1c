import Mathlib
import ToolPlugins.Proofs.Registry.Entry
import ToolPlugins.Proofs.Table

/-!
What a registry shows under an identifier: one task or the versions of a switcher, with or without the numbers that
tell equal tasks apart. It is what the tasks of this identifier leave there, and without the numbers it does not change
when the same tasks are registered once more.
-/

namespace ToolPlugins

/-- The task with another number. -/
def LoadedTask.unnumbered (task : LoadedTask) : LoadedTask := { task with serial := 0 }

/-- What an identifier leads to. -/
inductive EntryView where
  | generic (task : LoadedTask)
  | versioned (versions : Table String LoadedTask)

namespace EntryView

/-- The versions that a task is added to. -/
def versions : Option EntryView → Table String LoadedTask
  | some (.versioned versions) => versions
  | _ => []

/-- What an identifier leads to after one of its tasks is registered. -/
def add (old : Option EntryView) (multiVersion : Bool) (task : LoadedTask) : EntryView :=
  if multiVersion then .versioned (Table.insert (versions old) task.version task) else .generic task

/-- What an identifier leads to after some of its tasks are registered. -/
def addAll (old : Option EntryView) (multiVersion : Bool) (tasks : List LoadedTask) : Option EntryView :=
  tasks.foldl (fun old task => some (add old multiVersion task)) old

/-- What an identifier leads to, without the numbers of the tasks. -/
def unnumbered : EntryView → EntryView
  | .generic task => .generic task.unnumbered
  | .versioned versions => .versioned (versions.map (Prod.map id LoadedTask.unnumbered))

/-- What an identifier leads to after one of its tasks is registered, without its number. -/
def put (old : Option EntryView) (multiVersion : Bool) (task : LoadedTask) : EntryView :=
  if multiVersion then .versioned (Table.insert (versions old) task.version task.unnumbered)
  else .generic task.unnumbered

/-- What an identifier leads to after some of its tasks are registered, without their numbers. -/
def putAll (old : Option EntryView) (multiVersion : Bool) (tasks : List LoadedTask) : Option EntryView :=
  tasks.foldl (fun old task => some (put old multiVersion task)) old

section
variable {tasks : List LoadedTask}

theorem addAll_generic (old : Option EntryView) (tasks : List LoadedTask) (task : LoadedTask) :
    addAll old false (tasks ++ [task]) = some (.generic task) := by
  rw [addAll, List.foldl_append]
  rfl

theorem addAll_none_eq_none_iff {multiVersion : Bool} : addAll none multiVersion tasks = none ↔ tasks = [] := by
  rcases List.eq_nil_or_concat' tasks with rfl | ⟨before, last, rfl⟩
  · exact iff_of_true rfl rfl
  · rw [addAll, List.foldl_append]
    simp

theorem addAll_versioned (old : Option EntryView) (h : tasks ≠ []) :
    addAll old true tasks =
      some (.versioned ((versions old).insertAll (tasks.map fun task => (task.version, task)))) := by
  induction tasks generalizing old with
  | nil => exact absurd rfl h
  | cons task rest ih =>
    cases rest with
    | nil => rfl
    | cons other more => exact ih _ (List.cons_ne_nil _ _)

theorem putAll_eq_addAll (old : Option EntryView) (multiVersion : Bool) (tasks : List LoadedTask) :
    putAll old multiVersion tasks = addAll old multiVersion (tasks.map LoadedTask.unnumbered) := by
  rw [addAll, List.foldl_map]
  rfl

/-- The numbers do not matter to what is seen. -/
theorem putAll_map_unnumbered (old : Option EntryView) (multiVersion : Bool) (tasks : List LoadedTask) :
    putAll old multiVersion (tasks.map LoadedTask.unnumbered) = putAll old multiVersion tasks := by
  rw [putAll, List.foldl_map]
  rfl

theorem unnumbered_add (old : Option EntryView) (multiVersion : Bool) (task : LoadedTask) :
    (add old multiVersion task).unnumbered = put (old.map unnumbered) multiVersion task := by
  cases multiVersion with
  | false => rfl
  | true =>
    have hversions : versions (old.map unnumbered) = (versions old).map (Prod.map id LoadedTask.unnumbered) := by
      cases old with
      | none => rfl
      | some entry =>
        cases entry with
        | generic other => rfl
        | versioned others => rfl
    rw [put, if_pos rfl, hversions, ← Table.map_insert]
    rfl

theorem map_unnumbered_addAll (old : Option EntryView) (multiVersion : Bool) (tasks : List LoadedTask) :
    (addAll old multiVersion tasks).map unnumbered = putAll (old.map unnumbered) multiVersion tasks := by
  induction tasks generalizing old with
  | nil => rfl
  | cons task rest ih =>
    refine (ih _).trans ?_
    rw [Option.map_some, unnumbered_add]
    rfl

/-! ### Tasks that are registered again -/

theorem putAll_generic (old : Option EntryView) (tasks : List LoadedTask) (task : LoadedTask) :
    putAll old false (tasks ++ [task]) = some (.generic task.unnumbered) := by
  rw [putAll_eq_addAll, List.map_append, List.map_singleton, addAll_generic]

theorem putAll_versioned (old : Option EntryView) (h : tasks ≠ []) :
    putAll old true tasks =
      some (.versioned ((versions old).insertAll (tasks.map fun task => (task.version, task.unnumbered)))) := by
  rw [putAll_eq_addAll, addAll_versioned old (by simpa using h), List.map_map]
  rfl

theorem putAll_one_version {before : List LoadedTask} {last : LoadedTask}
    (h : ∀ task ∈ before, task.version = last.version) :
    putAll none true (before ++ [last]) = some (.versioned [(last.version, last.unnumbered)]) := by
  rw [putAll_versioned none (by simp), List.map_append, List.map_singleton]
  cases before with
  | nil => rfl
  | cons first rest =>
    have hfirst := h first List.mem_cons_self
    have hrest : ∀ e ∈ rest.map (fun task => (task.version, task.unnumbered)), e.1 = last.version := by
      intro e he
      obtain ⟨task, htask, rfl⟩ := List.mem_map.mp he
      exact h task (List.mem_cons_of_mem first htask)
    have hone := Table.insertAll_one_key hrest last.unnumbered first.unnumbered
    rw [← hfirst] at hone ⊢
    exact congrArg (fun t => some (versioned t)) hone

theorem putAll_again (old : Option EntryView) (multiVersion : Bool) (tasks : List LoadedTask) :
    putAll (putAll old multiVersion tasks) multiVersion tasks = putAll old multiVersion tasks := by
  rcases List.eq_nil_or_concat' tasks with rfl | ⟨before, last, rfl⟩
  · rfl
  · cases multiVersion with
    | false => rw [putAll_generic, putAll_generic]
    | true =>
      have hne : before ++ [last] ≠ [] := by simp
      rw [putAll_versioned _ hne, putAll_versioned old hne]
      exact congrArg (fun t => some (versioned t)) (Table.insertAll_again _ _)

end

end EntryView

namespace Registry

/-- What a registry shows under an identifier, with the numbers of the tasks. -/
def shown (r : Registry) (identifier : String) : Option EntryView :=
  match r.lookup identifier with
  | none => none
  | some (.generic task) => some (.generic task)
  | some (.versioned switcher) => some (.versioned (((r.switcher? switcher).map VersionSwitcher.tasks).getD []))

/-- What a registry shows under an identifier. -/
def view (r : Registry) (identifier : String) : Option EntryView :=
  match r.lookup identifier with
  | none => none
  | some (.generic task) => some (.generic task.unnumbered)
  | some (.versioned switcher) =>
    let tasks := ((r.switcher? switcher).map VersionSwitcher.tasks).getD []
    some (.versioned (tasks.map (Prod.map id LoadedTask.unnumbered)))

section
variable {r r' : Registry} {task : LoadedTask} {identifier : String}

theorem view_eq_map_shown (r : Registry) (identifier : String) :
    r.view identifier = (r.shown identifier).map EntryView.unnumbered := by
  rw [view, shown]
  cases r.lookup identifier with
  | none => rfl
  | some entry =>
    cases entry with
    | generic task => rfl
    | versioned switcher => rfl

theorem shown_of_versioned {switcher : SwitcherId} {s : VersionSwitcher}
    (h : r.lookup identifier = some (.versioned switcher)) (hs : r.switcher? switcher = some s) :
    r.shown identifier = some (.versioned s.tasks) := by
  rw [shown, h]
  dsimp only
  rw [hs]
  rfl

theorem shown_eq_generic_iff :
    r.shown identifier = some (.generic task) ↔ r.lookup identifier = some (.generic task) := by
  rw [shown]
  cases r.lookup identifier with
  | none => simp
  | some entry =>
    cases entry with
    | generic other => simp
    | versioned switcher => simp

theorem shown_eq_none_iff : r.shown identifier = none ↔ r.lookup identifier = none := by
  rw [shown]
  cases r.lookup identifier with
  | none => simp
  | some entry =>
    cases entry with
    | generic task => simp
    | versioned switcher => simp

/-- Versions are shown as those of a switcher of the identifier. -/
theorem Sound.exists_of_shown (hr : r.Sound) {versions : Table String LoadedTask}
    (h : r.shown identifier = some (.versioned versions)) :
    ∃ switcher s, r.lookup identifier = some (.versioned switcher) ∧ r.switcher? switcher = some s ∧
      s.identifier = identifier ∧ s.tasks = versions := by
  rw [shown] at h
  split at h
  · cases h
  · cases h
  · next switcher hlookup =>
    obtain ⟨s, hs, hsid, -⟩ := hr.exists_switcher hlookup
    rw [hs] at h
    cases h
    exact ⟨switcher, s, hlookup, hs, hsid, rfl⟩

theorem view_eq_none_iff : r.view identifier = none ↔ r.lookup identifier = none := by
  rw [view_eq_map_shown, Option.map_eq_none_iff, shown_eq_none_iff]

theorem SameUnder.shown (h : r.SameUnder r' identifier) : r'.shown identifier = r.shown identifier := by
  rw [Registry.shown, Registry.shown, h.lookup]
  cases hentry : r.lookup identifier with
  | none => rfl
  | some entry =>
    cases entry with
    | generic task => rfl
    | versioned switcher =>
      dsimp only
      rw [h.versions switcher hentry]

/-- A task is shown under its identifier, and under no other. -/
theorem shown_changed (hr : r.Sound) (task : LoadedTask) (multiVersion : Bool) (identifier : String) :
    (r.changed (.ofTask task multiVersion)).shown identifier =
      if identifier = task.identifier then some (EntryView.add (r.shown identifier) multiVersion task)
      else r.shown identifier := by
  split_ifs with hid
  · subst hid
    cases multiVersion with
    | false => exact shown_eq_generic_iff.mpr ((lookup_register r task task.identifier).trans (if_pos rfl))
    | true =>
      obtain ⟨s, hs, hold⟩ := switcher?_registerVersion_self hr task
      have hlookup := (lookup_registerVersion hr task task.identifier).trans (if_pos rfl)
      have hversions : EntryView.versions (r.shown task.identifier) = s.tasks := by
        obtain ⟨switcher, hid, hs'⟩ | ⟨hnone, rfl⟩ := hold
        · rw [shown_of_versioned hid hs']
          rfl
        · rw [shown]
          cases hentry : r.lookup task.identifier with
          | none => rfl
          | some entry =>
            cases entry with
            | generic other => rfl
            | versioned switcher => exact absurd hentry (hnone switcher)
      rw [RegistryChange.ofTask, if_pos rfl, changed, shown_of_versioned hlookup hs, EntryView.add, if_pos rfl, hversions]
      rfl
  · exact (sameUnder_changed hr task multiVersion hid).shown

/-- The registry with tasks registered one after the other. The identifier says whether as versions of a switcher. -/
def registerAll (r : Registry) (multiVersion : String → Bool) (tasks : List LoadedTask) : Registry :=
  tasks.foldl (fun r task => r.changed (.ofTask task (multiVersion task.identifier))) r

theorem Sound.registerAll (hr : r.Sound) (multiVersion : String → Bool) (tasks : List LoadedTask) :
    (r.registerAll multiVersion tasks).Sound := by
  induction tasks generalizing r with
  | nil => exact hr
  | cons task rest ih => exact ih (hr.changed _)

theorem shown_registerAll (hr : r.Sound) (multiVersion : String → Bool) (tasks : List LoadedTask) (identifier : String) :
    (r.registerAll multiVersion tasks).shown identifier =
      EntryView.addAll (r.shown identifier) (multiVersion identifier)
        (tasks.filter fun task => task.identifier == identifier) := by
  induction tasks generalizing r with
  | nil => rfl
  | cons task rest ih =>
    refine (ih (hr.changed _)).trans ?_
    rw [shown_changed hr]
    by_cases hsame : task.identifier = identifier
    · subst hsame
      rw [if_pos rfl, List.filter_cons_of_pos (by simp)]
      rfl
    · rw [if_neg (Ne.symm hsame), List.filter_cons_of_neg (by simpa using hsame)]

theorem view_registerAll (hr : r.Sound) (multiVersion : String → Bool) (tasks : List LoadedTask) (identifier : String) :
    (r.registerAll multiVersion tasks).view identifier =
      EntryView.putAll (r.view identifier) (multiVersion identifier)
        (tasks.filter fun task => task.identifier == identifier) := by
  rw [view_eq_map_shown, shown_registerAll hr, EntryView.map_unnumbered_addAll, view_eq_map_shown]

/-! ### Tasks in a fresh registry -/

section
variable {multiVersion : String → Bool} {tasks : List LoadedTask}

theorem mem_identifiers_registerAll :
    identifier ∈ (registerAll {} multiVersion tasks).identifiers ↔ ∃ task ∈ tasks, task.identifier = identifier := by
  rw [mem_identifiers_iff, ← Option.ne_none_iff_exists', ne_eq, ← shown_eq_none_iff, shown_registerAll sound_empty]
  change ¬EntryView.addAll none _ _ = none ↔ _
  rw [EntryView.addAll_none_eq_none_iff, List.filter_eq_nil_iff]
  simp

/-- The last task of an identifier stays, where it is registered as the only one. -/
theorem lookup_registerAll_generic (hmulti : multiVersion identifier = false)
    (hlast : (tasks.filter fun task => task.identifier == identifier).getLast? = some task) :
    (registerAll {} multiVersion tasks).lookup identifier = some (.generic task) := by
  obtain ⟨before, hbefore⟩ := List.getLast?_eq_some_iff.mp hlast
  rw [← shown_eq_generic_iff, shown_registerAll sound_empty, hmulti, hbefore, EntryView.addAll_generic]

/-- The versions of an identifier stand in the order in which they come first, and the last task of each stays. -/
theorem exists_switcher_registerAll (hmulti : multiVersion identifier = true)
    (hany : ∃ task ∈ tasks, task.identifier = identifier) :
    ∃ switcher s, (registerAll {} multiVersion tasks).lookup identifier = some (.versioned switcher) ∧
      (registerAll {} multiVersion tasks).switcher? switcher = some s ∧ s.identifier = identifier ∧
      s.versions = ((tasks.filter fun task => task.identifier == identifier).map LoadedTask.version).eraseDups ∧
      ∀ version, s.get? version =
        (tasks.filter fun task => task.identifier == identifier && task.version == version).getLast? := by
  have hne : (tasks.filter fun task => task.identifier == identifier) ≠ [] := by
    obtain ⟨task, htask, hid⟩ := hany
    exact List.ne_nil_of_mem (List.mem_filter.mpr ⟨htask, beq_iff_eq.mpr hid⟩)
  have hshown := shown_registerAll sound_empty multiVersion tasks identifier
  rw [hmulti, EntryView.addAll_versioned _ hne] at hshown
  obtain ⟨switcher, s, hlookup, hs, hsid, hversions⟩ := (sound_empty.registerAll multiVersion tasks).exists_of_shown hshown
  refine ⟨switcher, s, hlookup, hs, hsid, ?_, fun version => ?_⟩
  · rw [VersionSwitcher.versions, hversions]
    refine (Table.keys_insertAll_nil _).trans ?_
    rw [List.map_map]
    rfl
  · rw [VersionSwitcher.get?, hversions, Table.get?_insertAll, List.filter_map, List.filter_filter, List.getLast?_map,
      Option.map_map]
    have hfilter : ∀ task ∈ tasks, (decide (task.version = version) && task.identifier == identifier) =
        (task.identifier == identifier && task.version == version) := fun _ _ => Bool.and_comm _ _
    exact Option.or_none.trans ((congrFun Option.map_id _).trans (congrArg List.getLast? (List.filter_congr hfilter)))

end

/-- Two sound registries with the same identifiers list them alike. -/
theorem Sound.identifiers_eq_of_mem (hr : r.Sound) (hr' : r'.Sound)
    (h : ∀ k, k ∈ r'.identifiers ↔ k ∈ r.identifiers) : r'.identifiers = r.identifiers :=
  List.Perm.eq_of_pairwise (fun a _ _ _ hab hba => absurd (lt_trans hab hba) (lt_irrefl a))
    hr'.pairwise_identifiers hr.pairwise_identifiers
    ((List.perm_ext_iff_of_nodup hr'.nodup_identifiers hr.nodup_identifiers).mpr h)

/-- Two sound registries that show something under the same identifiers list the same ones. -/
theorem Sound.identifiers_eq (hr : r.Sound) (hr' : r'.Sound) (h : ∀ k, r'.view k = none ↔ r.view k = none) :
    r'.identifiers = r.identifiers := by
  refine hr.identifiers_eq_of_mem hr' fun k => ?_
  have hk := h k
  rw [view_eq_none_iff, view_eq_none_iff] at hk
  rw [mem_identifiers_iff, mem_identifiers_iff, ← Option.ne_none_iff_exists', ← Option.ne_none_iff_exists', ne_eq,
    ne_eq, hk]

end

end Registry

end ToolPlugins
