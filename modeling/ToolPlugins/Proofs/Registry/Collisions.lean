import Mathlib
import ToolPlugins.Proofs.Installation.Ladder
import ToolPlugins.Proofs.Registry.SmallTool

/-!
What registering a task displaces, and the warning about it. A task that could be reached and cannot be reached any more
was under the same identifier as the one that is registered, and the call names this identifier in its one warning.
-/

namespace ToolPlugins

/-- The identifier under which something is replaced, if a warning is about that. -/
def Warning.collision? : Warning → Option String
  | replacedEntry identifier _ => some identifier
  | replacedBySwitcher identifier => some identifier
  | replacedVersion identifier _ => some identifier
  | _ => none

namespace Registry

/-- A task can be reached under some identifier, by itself or as one of several versions. -/
def Reachable (r : Registry) (task : LoadedTask) : Prop :=
  ∃ identifier, r.lookup identifier = some (.generic task) ∨ ∃ version, r.HasVersion identifier version task

/-- A task takes the place of something: as the only one of its identifier of whatever is there, as one of several
    versions of a task that was alone there or of the same version. -/
def Displaces (r : Registry) (task : LoadedTask) (multiVersion : Bool) : Prop :=
  if multiVersion then
    (∃ old, r.lookup task.identifier = some (.generic old)) ∨ ∃ old, r.HasVersion task.identifier task.version old
  else ∃ entry, r.lookup task.identifier = some entry

/-- The warnings about a change. -/
def warnings (r : Registry) : RegistryChange → List Warning
  | .register task => (r.register task).2.1
  | .registerVersion task => (r.registerVersion task).2.1
  | _ => []

/-- The identifiers under which a change replaces something, as its warnings have them. -/
def collisions (r : Registry) (change : RegistryChange) : List String :=
  (r.warnings change).filterMap Warning.collision?

section
variable {r : Registry} {task : LoadedTask} {identifier version : String} {multiVersion : Bool}

/-! ### The warnings about a version -/

theorem versioned_eq_none_of_lookup (h : ∀ id, r.lookup identifier ≠ some (.versioned id)) :
    r.versioned.get? identifier = none := by
  cases hid : r.versioned.get? identifier with
  | none => rfl
  | some id => exact absurd (by simp only [lookup, hid]) (h id)

theorem warnings_of_lookup_none (h : r.lookup task.identifier = none) : r.warnings (.registerVersion task) = [] := by
  have hid : r.versioned.get? task.identifier = none := versioned_eq_none_of_lookup (by simp [h])
  have hgeneric : r.generic.get? task.identifier = none := by simpa [lookup, hid] using h
  rw [warnings, registerVersion_eq_of_none hid, openWarnings, hgeneric]
  rfl

theorem warnings_of_lookup_generic {old : LoadedTask} (h : r.lookup task.identifier = some (.generic old)) :
    r.warnings (.registerVersion task) = [.replacedBySwitcher task.identifier] := by
  have hid : r.versioned.get? task.identifier = none := versioned_eq_none_of_lookup (by simp [h])
  rw [warnings, registerVersion_eq_of_none hid, openWarnings, generic_of_lookup h]
  rfl

/-- Beside a switcher there is no task alone, so that there is no warning about one. -/
theorem Sound.warnings_of_lookup_versioned (hr : r.Sound) {id : SwitcherId} {s : VersionSwitcher}
    (h : r.lookup task.identifier = some (.versioned id)) (hs : r.switcher? id = some s) :
    r.warnings (.registerVersion task) =
      if (s.get? task.version).isSome then [.replacedVersion task.identifier task.version] else [] := by
  obtain ⟨s', hs', hsid, hid⟩ := hr.exists_switcher h
  cases hs.symm.trans hs'
  have hgeneric : r.generic.get? task.identifier = none := by
    by_contra hne
    obtain ⟨old, hold⟩ := Option.ne_none_iff_exists'.mp hne
    exact hr.apart _ (Table.mem_keys_iff.mpr ⟨old, hold⟩) (Table.mem_keys_iff.mpr ⟨id, hid⟩)
  rw [warnings, registerVersion_eq_of_some hid hs, openWarnings, hgeneric, VersionSwitcher.addWarnings, hsid]
  rfl

/-! ### One warning for what is displaced -/

theorem collisions_register (r : Registry) (task : LoadedTask) :
    (r.Displaces task false ∧ r.collisions (.register task) = [task.identifier]) ∨
      (¬r.Displaces task false ∧ r.collisions (.register task) = []) := by
  have hwarnings : r.warnings (.register task) = registerWarnings task.identifier (r.lookup task.identifier) := rfl
  simp only [Displaces, collisions, Bool.false_eq_true, if_false, hwarnings]
  cases r.lookup task.identifier with
  | none => exact .inr ⟨by simp, rfl⟩
  | some entry =>
    refine .inl ⟨⟨entry, rfl⟩, ?_⟩
    cases entry with
    | generic old => rfl
    | versioned id => rfl

theorem Sound.collisions_registerVersion (hr : r.Sound) (task : LoadedTask) :
    (r.Displaces task true ∧ r.collisions (.registerVersion task) = [task.identifier]) ∨
      (¬r.Displaces task true ∧ r.collisions (.registerVersion task) = []) := by
  simp only [Displaces, collisions, if_true]
  cases hentry : r.lookup task.identifier with
  | none =>
    rw [warnings_of_lookup_none hentry]
    refine .inr ⟨?_, rfl⟩
    rintro (⟨_, ⟨⟩⟩ | ⟨_, _, _, hlookup, -⟩)
    cases hentry.symm.trans hlookup
  | some entry =>
    cases entry with
    | generic old =>
      rw [warnings_of_lookup_generic hentry]
      exact .inl ⟨.inl ⟨old, rfl⟩, rfl⟩
    | versioned id =>
      obtain ⟨s, hs, -⟩ := hr.exists_switcher hentry
      rw [hr.warnings_of_lookup_versioned hentry hs]
      cases hget : s.get? task.version with
      | some old => exact .inl ⟨.inr ⟨old, id, s, hentry, hs, hget⟩, rfl⟩
      | none =>
        refine .inr ⟨?_, rfl⟩
        rintro (⟨_, ⟨⟩⟩ | ⟨_, _, _, hlookup, hs', hget'⟩)
        cases hentry.symm.trans hlookup
        cases hs.symm.trans hs'
        cases hget.symm.trans hget'

theorem Sound.collisions_cases (hr : r.Sound) (task : LoadedTask) (multiVersion : Bool) :
    (r.Displaces task multiVersion ∧ r.collisions (.ofTask task multiVersion) = [task.identifier]) ∨
      (¬r.Displaces task multiVersion ∧ r.collisions (.ofTask task multiVersion) = []) := by
  cases multiVersion with
  | false => exact collisions_register r task
  | true => exact hr.collisions_registerVersion task

/-! ### Who can be reached no longer -/

theorem Sound.identifier_of_hasVersion (hr : r.Sound) (h : r.HasVersion identifier version task) :
    task.identifier = identifier := by
  obtain ⟨id, s, hlookup, hs, hget⟩ := h
  obtain ⟨s', hs', hsid, -⟩ := hr.exists_switcher hlookup
  cases hs.symm.trans hs'
  exact ((hr.switchers s (List.mem_of_getElem? hs)).task _ _ hget).2.trans hsid

theorem SameUnder.reachable {r' : Registry} (h : r.SameUnder r' identifier)
    (hreach : r.lookup identifier = some (.generic task) ∨ ∃ version, r.HasVersion identifier version task) :
    r'.Reachable task := by
  obtain hlookup | ⟨version, hv⟩ := hreach
  · exact ⟨identifier, .inl (h.lookup.trans hlookup)⟩
  · exact ⟨identifier, .inr ⟨version, h.hasVersion hv⟩⟩

/-- A task that cannot be reached any more is displaced by one of its own identifier. -/
theorem Sound.displaces_of_lost (hr : r.Sound) {old : LoadedTask} (hold : r.Reachable old)
    (hlost : ¬(r.changed (.ofTask task multiVersion)).Reachable old) :
    r.Displaces task multiVersion ∧ old.identifier = task.identifier := by
  obtain ⟨identifier, hreach⟩ := hold
  obtain rfl : identifier = task.identifier := by
    by_contra hne
    exact hlost ((sameUnder_changed hr task multiVersion hne).reachable hreach)
  obtain hlookup | ⟨version, hv⟩ := hreach
  · refine ⟨?_, hr.generic _ _ (generic_of_lookup hlookup)⟩
    cases multiVersion with
    | false => exact ⟨_, hlookup⟩
    | true => exact .inl ⟨old, hlookup⟩
  · refine ⟨?_, hr.identifier_of_hasVersion hv⟩
    cases multiVersion with
    | false =>
      obtain ⟨id, -, hlookup, -⟩ := hv
      exact ⟨_, hlookup⟩
    | true =>
      obtain rfl : version = task.version := by
        by_contra hne
        exact hlost ⟨_, .inr ⟨version, hv.changed hr rfl hne⟩⟩
      exact .inr ⟨old, hv⟩

theorem Sound.length_collisions_le (hr : r.Sound) (change : RegistryChange) : (r.collisions change).length ≤ 1 := by
  have hone (task : LoadedTask) (multiVersion : Bool) : (r.collisions (.ofTask task multiVersion)).length ≤ 1 := by
    obtain ⟨-, h⟩ | ⟨-, h⟩ := hr.collisions_cases task multiVersion <;> simp [h]
  cases change with
  | keep => exact Nat.zero_le 1
  | register task => exact hone task false
  | registerVersion task => exact hone task true
  | clear => exact Nat.zero_le 1

end

end Registry

namespace Installation

variable {σ : Type} [ToolStore σ]

/-- The warnings that an operation gives. -/
def warnings (w : Installation σ) : RegistryOp σ → List Warning
  | .register task => (w.registry.register task).2.1
  | .registerVersion task => (w.registry.registerVersion task).2.1
  | .integrate i plugin options => (w.integrate i plugin options).warnings
  | _ => []

/-- The identifiers under which an operation replaces something, as its warnings have them. -/
def collisions (w : Installation σ) (op : RegistryOp σ) : List String := (w.warnings op).filterMap Warning.collision?

/-- An integration has the warnings of the change it makes in the registry. -/
theorem warnings_eq (w : Installation σ) (op : RegistryOp σ) : w.warnings op = w.registry.warnings (w.change op) := by
  cases op with
  | register task => rfl
  | registerVersion task => rfl
  | clear => rfl
  | outside records files => rfl
  | integrate i plugin options =>
    rw [warnings, change]
    cases htask : i.loadTask w.loaded plugin options.multiVersion with
    | error e =>
      rw [integrate_of_error htask]
      rfl
    | ok task =>
      obtain ⟨_, _, -, hwarnings, -⟩ := integrate_of_ok htask
      rw [hwarnings, registerTask]
      cases options.multiVersion with
      | false => rfl
      | true => rfl

/-- Whatever operations came before, one that registers a task gives one warning about a collision if the task displaces
    something, which names the identifier, and none otherwise. Every task that it takes out of reach is accounted for by
    this warning, and no operation gives two. -/
theorem collisions_of_run (records : σ) (files : FileTree) (loaded : Nat) (ops : List (RegistryOp σ))
    {op : RegistryOp σ} {task : LoadedTask} {multiVersion : Bool}
    (h : (({ records, files, loaded } : Installation σ).run ops).change op = .ofTask task multiVersion) :
    let w := ({ records, files, loaded } : Installation σ).run ops
    (w.registry.Displaces task multiVersion → w.collisions op = [task.identifier]) ∧
      (¬w.registry.Displaces task multiVersion → w.collisions op = []) ∧
      (∀ old, w.registry.Reachable old → ¬(w.apply op).registry.Reachable old → w.collisions op = [old.identifier]) ∧
      ∀ other, (w.collisions other).length ≤ 1 := by
  intro w
  have hr : w.registry.Sound := sound_of_run records files loaded ops
  have hcollisions (other : RegistryOp σ) : w.collisions other = w.registry.collisions (w.change other) := by
    rw [collisions, warnings_eq, Registry.collisions]
  have hdisplaced (hd : w.registry.Displaces task multiVersion) : w.collisions op = [task.identifier] := by
    rw [hcollisions, h]
    obtain ⟨-, heq⟩ | ⟨hnot, -⟩ := hr.collisions_cases task multiVersion
    · exact heq
    · exact absurd hd hnot
  refine ⟨hdisplaced, fun hd => ?_, fun old hold hlost => ?_, fun other => ?_⟩
  · rw [hcollisions, h]
    obtain ⟨hd', -⟩ | ⟨-, heq⟩ := hr.collisions_cases task multiVersion
    · exact absurd hd' hd
    · exact heq
  · rw [registry_apply, h] at hlost
    obtain ⟨hd, hid⟩ := hr.displaces_of_lost hold hlost
    rw [hid]
    exact hdisplaced hd
  · rw [hcollisions]
    exact hr.length_collisions_le _

/-- A tool alone under its identifier, and then another version of it that is to be one of several. -/
theorem collision_of_later_version :
    ∃ (op later : RegistryOp) (task : LoadedTask),
      (⟨"a", "1", false⟩ : SmallTool).ops = [op] ∧ (⟨"a", "2", true⟩ : SmallTool).ops = [later] ∧
        (({} : Installation).run [op]).change later = .ofTask task true ∧
        (({} : Installation).run [op]).registry.Displaces task true ∧
        (({} : Installation).run [op]).collisions later = ["A"] := by
  obtain ⟨op, hop, -, hregisters⟩ := @SmallTool.exists_ops_eq ⟨"a", "1", false⟩ ⟨'1', by decide, by decide⟩
  obtain ⟨later, hlater, -, hregisters'⟩ := @SmallTool.exists_ops_eq ⟨"a", "2", true⟩ ⟨'2', by decide, by decide⟩
  obtain ⟨old, hold, hid, -⟩ := hregisters {}
  obtain ⟨task, htask, hid', -⟩ := hregisters' (({} : Installation).run [op])
  have hlookup : (({} : Installation).run [op]).registry.lookup old.identifier = some (.generic old) := by
    rw [run, List.foldl_cons, List.foldl_nil, registry_apply, hold]
    exact Registry.leadsTo_changed Registry.sound_empty old false
  have hdisplaces : (({} : Installation).run [op]).registry.Displaces task true :=
    .inl ⟨old, (hid'.trans hid.symm) ▸ hlookup⟩
  refine ⟨op, later, task, hop, hlater, htask, hdisplaces, ?_⟩
  rw [(collisions_of_run {} {} 0 [op] htask).1 hdisplaces, hid']
  decide

end Installation

end ToolPlugins
