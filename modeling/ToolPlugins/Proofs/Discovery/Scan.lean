import Mathlib
import ToolPlugins.Discovery
import ToolPlugins.Proofs.Result

/-!
A scan of directories. Where each of them is listed, it gives what they hold, one after the other. The first one that is
not listed ends it, with the warnings so far.
-/

namespace ToolPlugins

/-- A directory is not listed, or an entry of it is withheld. -/
inductive FileView.Refuses (files : FileView) (dir : Path) : Failure → Prop
  | directory {cause : FileError} : files.kind? dir = some .directory → files.list dir = .error cause →
      Refuses files dir (.descriptorLoad ("Failed to read descriptor directory " ++ dir ++ ": " ++ cause.message))
  | entry {names : List String} {cause : FileError} {rest : List (Except FileError String)} :
      files.kind? dir = some .directory → files.list dir = .ok (names.map .ok ++ .error cause :: rest) →
      Refuses files dir (.descriptorLoad ("Failed to read directory entry: " ++ cause.message))

namespace Discovery

section
variable {ε ε' α : Type} {f : ε → ε'} {l : List (Except ε α)}

theorem mapM_mapError_eq_ok_iff {as : List α} :
    (l.mapM fun x => x.mapError f) = .ok as ↔ l = as.map .ok := by
  induction l generalizing as with
  | nil => cases as <;> simp [pure, Except.pure]
  | cons x rest ih =>
    rw [List.mapM_cons, bind_eq_ok_iff]
    simp only [mapError_eq_ok_iff, bind_eq_ok_iff, pure_eq_ok_iff, ih]
    constructor
    · rintro ⟨a, rfl, as, rfl, rfl⟩
      rfl
    · intro h
      cases as with
      | nil => cases h
      | cons a as =>
        cases h
        exact ⟨a, rfl, as, rfl, rfl⟩

/-- The first error is the one that is given. -/
theorem mapM_mapError_eq_error_iff {e' : ε'} :
    (l.mapM fun x => x.mapError f) = .error e' ↔ ∃ as e rest, l = List.map .ok as ++ .error e :: rest ∧ f e = e' := by
  induction l with
  | nil => simp [pure, Except.pure]
  | cons x rest ih =>
    have hpure : ∀ {a : α} {as : List α}, (pure (a :: as) : Except ε' (List α)) ≠ .error e' := fun h => by cases h
    rw [List.mapM_cons, bind_eq_error_iff]
    simp only [mapError_eq_error_iff, mapError_eq_ok_iff, bind_eq_error_iff, hpure, and_false, exists_false, or_false, ih]
    constructor
    · rintro (⟨e, rfl, rfl⟩ | ⟨a, rfl, as, e, rest, rfl, rfl⟩)
      · exact ⟨[], e, rest, rfl, rfl⟩
      · exact ⟨a :: as, e, rest, rfl, rfl⟩
    · rintro ⟨as, e, rest', h, rfl⟩
      cases as with
      | nil =>
        cases h
        exact .inl ⟨e, rfl, rfl⟩
      | cons a as =>
        cases h
        exact .inr ⟨a, rfl, as, e, rest', rfl, rfl⟩

end

section
variable {files : FileView} {dir : Path} {dirs : List Path} {e : Failure}

/-! ### One directory -/

theorem namesIn_eq_ok_iff {names : List String} : namesIn files dir = .ok names ↔ files.list dir = .ok (names.map .ok) := by
  rw [namesIn, bind_eq_ok_iff]
  simp only [mapError_eq_ok_iff, mapM_mapError_eq_ok_iff]
  exact ⟨fun ⟨_, h, heq⟩ => heq ▸ h, fun h => ⟨_, h, rfl⟩⟩

theorem inDirectory_of_directory (hkind : files.kind? dir = some .directory) :
    inDirectory files dir = (namesIn files dir).map fun names => (descriptorFiles files dir names).map (load files) := by
  rw [inDirectory, hkind]

theorem namesIn_eq_error_iff : namesIn files dir = .error e ↔
    (∃ cause, files.list dir = .error cause ∧
      .descriptorLoad ("Failed to read descriptor directory " ++ dir ++ ": " ++ cause.message) = e) ∨
    ∃ (names : List String) (cause : FileError) (rest : _), files.list dir = .ok (names.map .ok ++ .error cause :: rest) ∧
      .descriptorLoad ("Failed to read directory entry: " ++ cause.message) = e := by
  rw [namesIn, bind_eq_error_iff]
  simp only [mapError_eq_error_iff, mapError_eq_ok_iff, mapM_mapError_eq_error_iff]
  refine or_congr_right ⟨?_, ?_⟩
  · rintro ⟨_, hlist, names, cause, rest, rfl, he⟩
    exact ⟨names, cause, rest, hlist, he⟩
  · rintro ⟨names, cause, rest, hlist, he⟩
    exact ⟨_, hlist, names, cause, rest, rfl, he⟩

/-- A directory fails where it is refused. -/
theorem inDirectory_eq_error_iff : inDirectory files dir = .error e ↔ files.Refuses dir e := by
  constructor
  · intro h
    rw [inDirectory] at h
    split at h
    · cases h
    · next hkind =>
      obtain ⟨cause, hlist, rfl⟩ | ⟨names, cause, rest, hlist, rfl⟩ := namesIn_eq_error_iff.mp (map_eq_error_iff.mp h)
      · exact .directory hkind hlist
      · exact .entry hkind hlist
    · cases h
  · intro h
    cases h with
    | directory hkind hlist =>
      rw [inDirectory_of_directory hkind, map_eq_error_iff]
      exact namesIn_eq_error_iff.mpr (.inl ⟨_, hlist, rfl⟩)
    | entry hkind hlist =>
      rw [inDirectory_of_directory hkind, map_eq_error_iff]
      exact namesIn_eq_error_iff.mpr (.inr ⟨_, _, _, hlist, rfl⟩)

/-- What a directory that is listed gives. -/
def items (files : FileView) (dir : Path) : List (Except Warning FoundDescriptor) :=
  (inDirectory files dir).toOption.getD []

/-- The descriptors in a directory that is listed. -/
def foundIn (files : FileView) (dir : Path) : List FoundDescriptor := (items files dir).filterMap Except.toOption

/-- The warnings about a directory that is listed. -/
def warningsIn (files : FileView) (dir : Path) : List Warning := (items files dir).filterMap warning?

theorem items_of_names {names : List String} (hkind : files.kind? dir = some .directory)
    (hlist : files.list dir = .ok (names.map .ok)) : items files dir = (descriptorFiles files dir names).map (load files) := by
  rw [items, inDirectory_of_directory hkind, namesIn_eq_ok_iff.mpr hlist]
  rfl

theorem inDirectory_eq_items (h : ∀ e, ¬files.Refuses dir e) : inDirectory files dir = .ok (items files dir) := by
  rw [items]
  cases hdir : inDirectory files dir with
  | error e => exact absurd (inDirectory_eq_error_iff.mp hdir) (h e)
  | ok items => rfl

/-! ### All directories -/

theorem scan_cons_of_listed (h : ∀ e, ¬files.Refuses dir e) (rest : List Path) :
    scan files (dir :: rest) = ((scan files rest).1.map (foundIn files dir ++ ·), warningsIn files dir ++ (scan files rest).2) := by
  rw [scan, inDirectory_eq_items h]
  rfl

/-- Where no directory is refused, a scan gives what they hold, one after the other. -/
theorem scan_of_listed (h : ∀ dir ∈ dirs, ∀ e, ¬files.Refuses dir e) :
    scan files dirs = (.ok (dirs.flatMap (foundIn files)), dirs.flatMap (warningsIn files)) := by
  induction dirs with
  | nil => rfl
  | cons dir rest ih =>
    obtain ⟨hdir, hrest⟩ := List.forall_mem_cons.mp h
    rw [scan_cons_of_listed hdir, ih hrest]
    rfl

/-- The first directory that is refused ends a scan. -/
theorem scan_of_refused {before rest : List Path} (h : ∀ d ∈ before, ∀ e, ¬files.Refuses d e) (hdir : files.Refuses dir e) :
    scan files (before ++ dir :: rest) = (.error e, before.flatMap (warningsIn files)) := by
  induction before with
  | nil =>
    rw [List.nil_append, scan, inDirectory_eq_error_iff.mpr hdir]
    rfl
  | cons d before ih =>
    obtain ⟨hd, hbefore⟩ := List.forall_mem_cons.mp h
    rw [List.cons_append, scan_cons_of_listed hd, ih hbefore]
    rfl

end

/-! ### Trees -/

section
variable {t : FileTree} {dir p : Path} {place : Location}

theorem kind?_view_eq_directory_iff :
    t.view.kind? dir = some .directory ↔ ∃ place, t.resolve dir = .ok place ∧ t.get? place = some .directory := by
  rw [FileTree.view, Option.map_eq_some_iff, FileTree.find?]
  cases t.resolve dir with
  | error e => simp
  | ok place =>
    dsimp only
    cases hget : t.get? place with
    | none => simp [hget]
    | some entry => cases entry <;> simp [Entry.kind, hget]

theorem kind?_view_eq_file_iff : t.view.kind? p = some .file ↔ t.isFile p = true := by
  rw [FileTree.view, Option.map_eq_some_iff, FileTree.isFile]
  cases t.find? p with
  | none => simp
  | some entry => cases entry <;> simp [Entry.kind]

theorem list_view (hresolve : t.resolve dir = .ok place) (hget : t.get? place = some .directory) :
    t.view.list dir = .ok (((t.children place).map (·.1)).map .ok) := by
  have hcheck : t.checkDirectory place = .ok () := by rw [FileTree.checkDirectory, hget]
  rw [FileTree.view]
  simp only [hresolve, hcheck, bind, Except.bind, pure, Except.pure, List.map_map]
  rfl

theorem not_refuses_view (t : FileTree) (dir : Path) (e : Failure) : ¬t.view.Refuses dir e := by
  intro h
  cases h with
  | directory hkind hlist =>
    obtain ⟨place, hresolve, hget⟩ := kind?_view_eq_directory_iff.mp hkind
    cases hlist.symm.trans (list_view hresolve hget)
  | @entry _ cause _ hkind hlist =>
    obtain ⟨place, hresolve, hget⟩ := kind?_view_eq_directory_iff.mp hkind
    have hentries := Except.ok.inj (hlist.symm.trans (list_view hresolve hget))
    obtain ⟨name, -, hname⟩ := List.mem_map.mp (hentries ▸ List.mem_append_right _ List.mem_cons_self)
    cases hname

theorem scan_view (t : FileTree) (dirs : List Path) :
    scan t dirs = (.ok (discover t dirs).1, (discover t dirs).2) := by
  rw [discover, scan_of_listed fun dir _ => not_refuses_view t dir]
  rfl

/-- Discovery gives what the directories hold, one after the other. -/
theorem discover_eq (t : FileTree) (dirs : List Path) :
    discover t dirs = (dirs.flatMap (foundIn t), dirs.flatMap (warningsIn t)) := by
  rw [discover, scan_of_listed fun dir _ => not_refuses_view t dir]
  rfl

end

end Discovery

end ToolPlugins
