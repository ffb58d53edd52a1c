import Mathlib
import ToolPlugins.Proofs.Bootstrap.Calls

/-!
Switchers that no identifier leads to any more. A switcher is displaced by a task that is registered alone under its
identifier, or by a clearing. It then stays as it is, and a new one is made when its identifier gets versions again;
until it is displaced, all versions of its identifier go to it.
-/

namespace ToolPlugins

namespace Registry

/-- A switcher that no identifier leads to, as it is kept. -/
structure Retired (r : Registry) (id : SwitcherId) (s : VersionSwitcher) : Prop where
  kept : r.switcher? id = some s
  unreachable : ∀ identifier, r.lookup identifier ≠ some (.versioned id)

/-- A switcher is under the identifier of a task, and has the task as one of its versions. -/
def HoldsVersion (r : Registry) (id : SwitcherId) (task : LoadedTask) : Prop :=
  r.lookup task.identifier = some (.versioned id) ∧
    ∃ s, r.switcher? id = some s ∧ s.get? task.version = some task

section
variable {r : Registry} {id : SwitcherId} {s : VersionSwitcher} {identifier : String} {change : RegistryChange}

/-- A version goes to the switcher of its identifier, or to a new one. -/
theorem Sound.registerVersion_fst (hr : r.Sound) (task : LoadedTask) :
    r.lookup task.identifier = some (.versioned (r.registerVersion task).1) ∨
      (∀ other, r.lookup task.identifier ≠ some (.versioned other)) ∧
        (r.registerVersion task).1 = r.switchers.length := by
  cases hid : r.versioned.get? task.identifier with
  | some other =>
    obtain ⟨s, hs, -⟩ := hr.versioned _ _ hid
    rw [registerVersion_eq_of_some hid hs]
    exact .inl (by simp only [lookup, hid])
  | none =>
    rw [registerVersion_eq_of_none hid]
    refine .inr ⟨fun other hlookup => ?_, rfl⟩
    obtain ⟨-, -, -, hother⟩ := hr.exists_switcher hlookup
    cases hid.symm.trans hother

theorem Sound.registerVersion_fst_of_lookup (hr : r.Sound) {task : LoadedTask}
    (h : r.lookup task.identifier = some (.versioned id)) : (r.registerVersion task).1 = id := by
  obtain hsame | ⟨hnone, -⟩ := hr.registerVersion_fst task
  · cases hsame.symm.trans h
    rfl
  · exact absurd h (hnone id)

theorem Sound.holdsVersion_registerVersion (hr : r.Sound) (task : LoadedTask) :
    (r.changed (.registerVersion task)).HoldsVersion (r.registerVersion task).1 task := by
  obtain ⟨s, hs, -⟩ := switcher?_registerVersion_self hr task
  exact ⟨(lookup_registerVersion hr task task.identifier).trans (if_pos rfl), _, hs,
    (s.get?_add task task.version).trans (if_pos rfl)⟩

/-! ### Retired switchers -/

/-- No change reaches a retired switcher, and none brings it back: a version never goes to it, because it is neither
    under the identifier of the version nor new. -/
theorem Retired.changed (hr : r.Sound) (h : r.Retired id s) (change : RegistryChange) :
    (r.changed change).Retired id s := by
  cases change with
  | keep => exact h
  | clear => exact ⟨h.kept, fun _ hlookup => by cases hlookup⟩
  | register task =>
    refine ⟨h.kept, fun identifier => ?_⟩
    rw [Registry.changed, lookup_register]
    split_ifs
    · simp
    · exact h.unreachable identifier
  | registerVersion task =>
    have hne : (r.registerVersion task).1 ≠ id := by
      obtain hsame | ⟨-, hnew⟩ := hr.registerVersion_fst task
      · rintro rfl
        exact h.unreachable _ hsame
      · rintro rfl
        have hlt := (List.getElem?_eq_some_iff.mp h.kept).1
        exact absurd hnew hlt.ne
    constructor
    · rw [Registry.changed, switcher?_registerVersion hr task h.kept, if_neg]
      exact fun hid => h.unreachable task.identifier (by simp only [lookup, hid])
    · intro identifier
      rw [Registry.changed, lookup_registerVersion hr]
      split_ifs
      · simpa using hne
      · exact h.unreachable identifier

theorem Retired.foldl_changed (hr : r.Sound) (h : r.Retired id s) (changes : List RegistryChange) :
    (changes.foldl Registry.changed r).Retired id s := by
  induction changes generalizing r with
  | nil => exact h
  | cons change changes ih => exact ih (hr.changed change) (h.changed hr change)

/-- What displaces a switcher is a task alone under its identifier or a clearing, and it retires the switcher. -/
theorem Sound.retired_of_displaced (hr : r.Sound) (hlookup : r.lookup identifier = some (.versioned id))
    (hdisplaced : (r.changed change).lookup identifier ≠ some (.versioned id)) :
    (change = .clear ∨ ∃ task, change = .register task ∧ task.identifier = identifier) ∧
      ∃ s, r.switcher? id = some s ∧ s.identifier = identifier ∧ (r.changed change).Retired id s := by
  obtain ⟨s, hs, hsid, -⟩ := hr.exists_switcher hlookup
  cases change with
  | keep => exact absurd hlookup hdisplaced
  | clear => exact ⟨.inl rfl, s, hs, hsid, hs, fun _ h => by cases h⟩
  | register task =>
    have hentry := fun k => lookup_register r task k
    have hid : task.identifier = identifier := by
      by_contra hne
      exact hdisplaced ((hentry identifier).trans ((if_neg (Ne.symm hne)).trans hlookup))
    refine ⟨.inr ⟨task, rfl, hid⟩, s, hs, hsid, hs, fun k hk => ?_⟩
    rw [Registry.changed, hentry] at hk
    split_ifs at hk with hk'
    · cases hk
    · -- a switcher knows its own identifier, so that no other one leads to it
      obtain ⟨s', hs', hsid', -⟩ := hr.exists_switcher hk
      cases hs.symm.trans hs'
      exact hk' (hsid'.symm.trans (hsid.trans hid.symm))
  | registerVersion task =>
    refine absurd ?_ hdisplaced
    rw [Registry.changed, lookup_registerVersion hr]
    split_ifs with hid
    · subst hid
      rw [hr.registerVersion_fst_of_lookup hlookup]
    · exact hlookup

/-- Where an identifier led to a switcher and does not lead to it any more, the switcher is retired. -/
theorem Sound.retired_of_lookup_ne (hr : r.Sound) {changes : List RegistryChange}
    (hlookup : r.lookup identifier = some (.versioned id))
    (hgone : (changes.foldl Registry.changed r).lookup identifier ≠ some (.versioned id)) :
    ∃ s, (changes.foldl Registry.changed r).Retired id s := by
  induction changes generalizing r with
  | nil => exact absurd hlookup hgone
  | cons change changes ih =>
    by_cases hkept : (r.changed change).lookup identifier = some (.versioned id)
    · exact ih (hr.changed change) hkept hgone
    · obtain ⟨-, s, -, -, h⟩ := hr.retired_of_displaced hlookup hkept
      exact ⟨s, h.foldl_changed (hr.changed change) changes⟩

end

end Registry

namespace Installation

variable {σ : Type} [ToolStore σ]

/-- An operation takes a switcher away from its identifier. -/
def DisplacesSwitcher (w : Installation σ) (op : RegistryOp σ) (identifier : String) (id : SwitcherId) : Prop :=
  w.registry.lookup identifier = some (.versioned id) ∧
    (w.apply op).registry.lookup identifier ≠ some (.versioned id)

/-- What becomes of switchers in a run of calls. A bootstrap among them counts as its integrations, so that what is said
    of operations is also said of what happens within it. -/
structure RetiresSwitchers (w : Installation σ) (calls : List (InstallationCall σ)) : Prop where
  operations : w.callAll calls = w.run (w.allOperations calls)
  /-- What displaces a switcher is a task alone under its identifier or a clearing. From then on the switcher stays as it
      was, and no identifier leads to it. -/
  retired : ∀ before op after later identifier id, w.allOperations calls = before ++ op :: (later ++ after) →
    (w.run before).DisplacesSwitcher op identifier id →
      ((w.run before).change op = .clear ∨
        ∃ task, (w.run before).change op = .register task ∧ task.identifier = identifier) ∧
      ∃ s, (w.run before).registry.switcher? id = some s ∧ s.identifier = identifier ∧
        (w.run (before ++ op :: later)).registry.Retired id s
  /-- Two versions of an identifier go to the same switcher unless its switcher is displaced between them. -/
  shared : ∀ before op between op' after task task',
    w.allOperations calls = before ++ op :: (between ++ op' :: after) →
    (w.run before).change op = .registerVersion task →
    (w.run (before ++ op :: between)).change op' = .registerVersion task' →
    task.identifier = task'.identifier →
    (∀ front other back id, between = front ++ other :: back →
      ¬(w.run (before ++ op :: front)).DisplacesSwitcher other task.identifier id) →
      ∃ id, ((w.run before).apply op).registry.HoldsVersion id task ∧
        ((w.run (before ++ op :: between)).apply op').registry.HoldsVersion id task'
  /-- A switcher that calls have taken away from its identifier is the same after all later calls. -/
  frozen : ∀ before between after identifier id, calls = before ++ between ++ after →
    (w.callAll before).registry.lookup identifier = some (.versioned id) →
    (w.callAll (before ++ between)).registry.lookup identifier ≠ some (.versioned id) →
      ∃ s, (w.callAll (before ++ between)).registry.Retired id s ∧ (w.callAll calls).registry.Retired id s

section
variable {w : Installation σ} {op : RegistryOp σ} {identifier : String} {id : SwitcherId} {s : VersionSwitcher}

theorem sound_registry_run (hw : w.registry.Sound) (ops : List (RegistryOp σ)) : (w.run ops).registry.Sound := by
  rw [registry_run]
  exact hw.foldl_changed _

theorem run_cons (w : Installation σ) (op : RegistryOp σ) (ops : List (RegistryOp σ)) :
    w.run (op :: ops) = (w.apply op).run ops := rfl

theorem run_append_cons (w : Installation σ) (before : List (RegistryOp σ)) (op : RegistryOp σ) (after : List (RegistryOp σ)) :
    w.run (before ++ op :: after) = ((w.run before).apply op).run after := by
  rw [run_append, run_cons]

theorem retired_run (hw : w.registry.Sound) (h : w.registry.Retired id s) (ops : List (RegistryOp σ)) :
    (w.run ops).registry.Retired id s := by
  rw [registry_run]
  exact h.foldl_changed hw _

/-- A switcher that nothing displaces stays under its identifier. -/
theorem lookup_run_of_not_displaced {ops : List (RegistryOp σ)} (hlookup : w.registry.lookup identifier = some (.versioned id))
    (h : ∀ front op back id, ops = front ++ op :: back → ¬(w.run front).DisplacesSwitcher op identifier id) :
    (w.run ops).registry.lookup identifier = some (.versioned id) := by
  induction ops generalizing w with
  | nil => exact hlookup
  | cons op ops ih =>
    have hkept : (w.apply op).registry.lookup identifier = some (.versioned id) := by
      by_contra hdisplaced
      exact h [] op ops id rfl ⟨hlookup, hdisplaced⟩
    refine ih hkept fun front other back id' heq => ?_
    exact h (op :: front) other back id' (congrArg (op :: ·) heq)

theorem retiresSwitchers_of_sound (hw : w.registry.Sound) (calls : List (InstallationCall σ)) : w.RetiresSwitchers calls where
  operations := w.callAll_eq_run calls
  retired := by
    rintro before op after later identifier id - ⟨hlookup, hdisplaced⟩
    have hbefore := sound_registry_run hw before
    rw [registry_apply] at hdisplaced
    obtain ⟨hcause, s, hs, hsid, hretired⟩ := hbefore.retired_of_displaced hlookup hdisplaced
    refine ⟨hcause, s, hs, hsid, ?_⟩
    rw [run_append_cons]
    rw [← registry_apply] at hretired
    exact retired_run (sound_registry_run hbefore [op]) hretired later
  shared := by
    intro before op between op' after task task' _ hop hop' hid hnot
    have hbefore := sound_registry_run hw before
    have hbetween := sound_registry_run hw (before ++ op :: between)
    have hholds := hbefore.holdsVersion_registerVersion task
    rw [← hop, ← registry_apply] at hholds
    refine ⟨_, hholds, ?_⟩
    have hnone : ∀ front other back id, between = front ++ other :: back →
        ¬(((w.run before).apply op).run front).DisplacesSwitcher other task.identifier id := by
      intro front other back id heq
      rw [← run_append_cons]
      exact hnot front other back id heq
    have hkept := lookup_run_of_not_displaced hholds.1 hnone
    rw [← run_append_cons, hid] at hkept
    rw [registry_apply, hop', ← hbetween.registerVersion_fst_of_lookup hkept]
    exact hbetween.holdsVersion_registerVersion task'
  frozen := by
    rintro before between after identifier id rfl hlookup hgone
    have hbefore : (w.callAll before).registry.Sound := by
      rw [callAll_eq_run]
      exact sound_registry_run hw _
    rw [callAll_append w (before ++ between), callAll_append, callAll_eq_run _ between] at *
    rw [registry_run] at hgone
    obtain ⟨s, h⟩ := hbefore.retired_of_lookup_ne hlookup hgone
    rw [← registry_run] at h
    refine ⟨s, h, ?_⟩
    rw [callAll_eq_run]
    exact retired_run (sound_registry_run hbefore _) h _

end

/-- Whatever calls are made on an installation that has nothing registered at first, a displaced switcher is left as it
    is and never comes back, and between two displacements an identifier has one switcher for all its versions. -/
theorem retiresSwitchers_of_run (records : σ) (files : FileTree) (loaded : Nat)
    (calls : List (InstallationCall σ)) : ({ records, files, loaded } : Installation σ).RetiresSwitchers calls :=
  retiresSwitchers_of_sound Registry.sound_empty calls

end Installation

end ToolPlugins
