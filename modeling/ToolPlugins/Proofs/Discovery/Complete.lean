import Mathlib
import ToolPlugins.Proofs.Discovery
import ToolPlugins.Proofs.FileTree.WellFormed

/-!
All that discovery does with a list of paths. Below a directory it takes every descriptor file whose path can be followed,
in the order of the names; each is found, or a warning stands for it. The order in which a tree lists its files does not
matter.
-/

namespace ToolPlugins

namespace FileTree

variable {t : FileTree} {dir : Path} {place : Location} {name : String} {d : Descriptor}

/-- The file at a place holds the text of an object, of which this is the descriptor. -/
def HoldsDescriptor (t : FileTree) (place : Location) (d : Descriptor) : Prop :=
  ∃ value mode, t.get? place = some (.file (.text value) mode) ∧ Json.parse value = .ok (.object d.fields)

theorem descriptorAt?_eq_some_iff : t.descriptorAt? place = some d ↔ t.HoldsDescriptor place d := by
  have hobject : ∀ {document : Json}, Descriptor.ofJson? document = .ok d ↔ document = .object d.fields := by
    intro document
    obtain ⟨fields⟩ := d
    cases document <;> simp [Descriptor.ofJson?]
  rw [descriptorAt?]
  constructor
  · intro h
    split at h
    · next value mode hget =>
      obtain ⟨document, hparse, hd⟩ := Option.bind_eq_some_iff.mp h
      obtain rfl := hobject.mp (toOption_eq_some_iff.mp hd)
      exact ⟨value, mode, hget, toOption_eq_some_iff.mp hparse⟩
    · cases h
  · rintro ⟨value, mode, hget, hparse⟩
    rw [hget]
    exact Option.bind_eq_some_iff.mpr ⟨_, toOption_eq_some_iff.mpr hparse, toOption_eq_some_iff.mpr (hobject.mpr rfl)⟩

theorem ne_nil_of_resolve (hdir : t.resolve dir = .ok place) : place ≠ [] := by
  have henter : ∀ (place : Location) (name : String), place ≠ [] → enter place name ≠ [] := by
    intro place name hplace
    rw [enter, above]
    split_ifs with hidle hup hroot
    · exact hplace
    · exact List.cons_ne_nil _ _
    · intro hnil
      have hlength := congrArg List.length hnil
      rw [List.length_dropLast, List.length_nil] at hlength
      omega
    · exact List.concat_ne_nil _ _
  have hfold : ∀ (names : List String) (place : Location), place ≠ [] → names.foldl enter place ≠ [] := by
    intro names
    induction names with
    | nil => exact fun _ hplace => hplace
    | cons name rest ih => exact fun place hplace => ih _ (henter place name hplace)
  have hstart : (start dir).1 ≠ [] := by
    rw [start]
    split_ifs <;> exact List.cons_ne_nil _ _
  rw [eq_placeOf_of_locate (resolve_eq_ok_iff.mp hdir).1]
  exact hfold _ _ hstart

/-- A name right below a directory can be followed unless its path is too long. -/
theorem resolve_join_of_size (hdir : t.resolve dir = .ok place) (hget : t.get? place = some .directory)
    (hname : Path.IsEntryName name) (hsize : (Path.join dir name).utf8ByteSize ≤ maxPathSize) :
    t.resolve (Path.join dir name) = .ok (place ++ [name]) := by
  have hl := (resolve_eq_ok_iff.mp hdir).1
  have hends : (Path.join dir name).EndsInName := ⟨Path.baseSegments dir, name, Path.segments_join hname.slash, hname.moves⟩
  have hfits : (Path.join dir name).Fits := by
    refine Path.fits_iff.mpr ⟨hsize, fun s hs => ?_⟩
    rw [Path.segments_join hname.slash] at hs
    rcases List.mem_append.mp hs with hs | hs
    · exact (Path.fits_iff.mp (fits_of_locate hl)).2 s (Path.mem_of_mem_baseSegments hs)
    · rw [List.mem_singleton.mp hs]
      exact ⟨hname.nul, hname.size⟩
  have hdirs : ∀ r ∈ through (Path.join dir name), t.get? r = some .directory := fun r hr =>
    directory_of_isDirectory (isDirectory_iff.mpr ⟨place, hl, hget⟩) r ((mem_through_join hname.slash).mp hr)
  refine resolve_eq_ok_iff.mpr ⟨?_, fun hslash => ?_⟩
  · rw [locate_of_directories hends hfits hdirs, placeOf_join_of_isName hname.toIsName, eq_placeOf_of_locate hl]
  · rw [hends.endsInSlash] at hslash
    cases hslash

end FileTree

namespace Path

/-- Paths in one directory stand in the order of the names. -/
theorem join_lt_join {a b : String} (ha : '/' ∉ a.toList) (hb : '/' ∉ b.toList) (h : a < b) (dir : Path) :
    join dir a < join dir b := by
  have hjoin : ∃ front : List Char, ∀ name : String, '/' ∉ name.toList → (join dir name).toList = front ++ name.toList := by
    by_cases hend : dir = "" ∨ endsInSlash dir = true
    · refine ⟨dir.toList, fun name hname => ?_⟩
      rw [join, isAbsolute_eq_false hname, if_neg Bool.false_ne_true, if_pos (by simpa using hend), String.toList_append]
    · refine ⟨dir.toList ++ "/".toList, fun name hname => ?_⟩
      rw [join, isAbsolute_eq_false hname, if_neg Bool.false_ne_true, if_neg (by simpa using hend), String.toList_append,
        String.toList_append]
  obtain ⟨front, hfront⟩ := hjoin
  rw [String.lt_iff_toList_lt, hfront a ha, hfront b hb]
  exact List.append_left_lt (String.lt_iff_toList_lt.mp h)

end Path

namespace FileTree

section
variable {t t' : FileTree} {dir : Path} {place : Location} {name : String}

theorem get?_child (hplace : place ≠ []) (name : String) :
    t.get? (place ++ [name]) = t.entries.get? (place ++ [name]) := by
  have hlength := List.length_pos_iff.mpr hplace
  exact if_neg (by rw [List.length_append, List.length_singleton]; omega)

theorem mem_children_iff (hplace : place ≠ []) :
    name ∈ (t.children place).map (·.1) ↔ ∃ entry, t.get? (place ++ [name]) = some entry := by
  rw [get?_child hplace, ← Table.mem_keys_iff, children, List.map_filterMap, List.mem_filterMap, Table.keys, List.mem_map]
  refine exists_congr fun e => and_congr_right fun _ => ?_
  rw [Option.map_map, Option.map_eq_some_iff]
  constructor
  · rintro ⟨child, hchild, rfl⟩
    exact Discovery.childName?_eq_some_iff.mp hchild
  · exact fun he => ⟨name, Discovery.childName?_eq_some_iff.mpr he, rfl⟩

theorem nodup_children (h : t.WellFormed) (place : Location) : ((t.children place).map (·.1)).Nodup := by
  have hplaces : t.entries.Pairwise fun e e' => e.1 ≠ e'.1 := List.pairwise_map.mp h.nodup
  rw [children, List.map_filterMap, List.nodup_iff_pairwise_ne, List.pairwise_filterMap]
  refine hplaces.imp fun {e e'} hne name hname name' hname' => ?_
  rintro rfl
  rw [Option.map_map] at hname hname'
  obtain ⟨child, hchild, rfl⟩ := Option.map_eq_some_iff.mp hname
  obtain ⟨child', hchild', heq⟩ := Option.map_eq_some_iff.mp hname'
  obtain rfl : child' = child := heq
  exact hne ((Discovery.childName?_eq_some_iff.mp hchild).trans (Discovery.childName?_eq_some_iff.mp hchild').symm)

theorem isEntryName_of_child (h : t.WellFormed) (hplace : place ≠ []) {entry : Entry}
    (hget : t.get? (place ++ [name]) = some entry) : Path.IsEntryName name := by
  rw [get?_child hplace] at hget
  refine h.names _ (Table.mem_keys_iff.mpr ⟨_, hget⟩) name ?_
  rw [List.tail_append_of_ne_nil hplace]
  exact List.mem_append_right _ (List.mem_singleton_self name)

end

end FileTree

namespace FileView

/-- What a system tells of a tree is so. It need not tell everything. -/
structure Sees (files : FileView) (t : FileTree) : Prop where
  kind : ∀ p kind, files.kind? p = some kind → (t.find? p).map Entry.kind = some kind
  list : ∀ dir (names : List String), files.list dir = .ok (names.map .ok) →
    ∃ place, t.resolve dir = .ok place ∧ names.Perm ((t.children place).map (·.1))
  read : ∀ p text, files.read p = .ok text → t.readText p = .ok text

/-- Two systems tell the same, but for the order in which they list the entries of a directory. -/
structure Alike (files files' : FileView) : Prop where
  kind : files'.kind? = files.kind?
  list : ∀ dir, (∃ e, files.list dir = .error e ∧ files'.list dir = .error e) ∨
    ∃ entries entries', files.list dir = .ok entries ∧ files'.list dir = .ok entries' ∧ entries'.Perm entries
  read : files'.read = files.read

end FileView

namespace Discovery

/-- A file right below a directory is one that discovery reads. -/
structure IsCandidate (t : FileTree) (files : FileView) (dir : Path) (place : Location) (name : String) : Prop where
  file : ∃ content mode, t.get? (place ++ [name]) = some (.file content mode)
  extension : Path.extension? name = some "json"
  told : files.kind? (Path.join dir name) = some .file

/-- A file holds the text of an object, and the text can be had. -/
def Gives (t : FileTree) (files : FileView) (dir : Path) (place : Location) (name : String) (d : Descriptor) : Prop :=
  t.HoldsDescriptor (place ++ [name]) d ∧ ∃ text, files.read (Path.join dir name) = .ok text

/-- What is found for one listed path, and what is warned of. Nothing is, where nothing is there or the system does not tell;
    what is no directory is warned of; and below a directory every descriptor file that the system tells of is found once,
    in the order of the paths, or warned of once if it gives no object. -/
structure Covers (t : FileTree) (files : FileView) (dir : Path) (found : List FoundDescriptor) (warnings : List Warning) :
    Prop where
  absent : files.kind? dir = none → found = [] ∧ warnings = []
  other : ∀ kind, files.kind? dir = some kind → kind ≠ .directory → found = [] ∧ warnings = [.notDirectory dir]
  sorted : (found.map (·.path)).Pairwise (· < ·)
  found : ∀ place, files.kind? dir = some .directory → t.resolve dir = .ok place → ∀ f, f ∈ found ↔
    ∃ name, IsCandidate t files dir place name ∧ f.path = Path.join dir name ∧ Gives t files dir place name f.descriptor
  warned : ∀ place, files.kind? dir = some .directory → t.resolve dir = .ok place → ∃ names : List String,
    names.Pairwise (· < ·) ∧
    (∀ name, name ∈ names ↔ IsCandidate t files dir place name ∧ ∀ d, ¬Gives t files dir place name d) ∧
    List.Forall₂ (fun name warning => ∃ e, Descriptor.load files (.path (Path.join dir name)) = .error e ∧
      warning = .unreadableDescriptor (Path.join dir name) e.message) names warnings

/-- A scan covers the listed paths one after the other, up to the first directory that is refused; the order in which
    entries are listed decides no more than which of the withheld ones is named. -/
structure Scans (t : FileTree) (files : FileView) : Prop where
  covers : ∃ (found : Path → List FoundDescriptor) (warnings : Path → List Warning),
    (∀ dir, (∀ e, ¬files.Refuses dir e) → Covers t files dir (found dir) (warnings dir)) ∧
    (∀ dirs, (∀ dir ∈ dirs, ∀ e, ¬files.Refuses dir e) →
      scan files dirs = (.ok (dirs.flatMap found), dirs.flatMap warnings)) ∧
    ∀ before dir rest e, (∀ d ∈ before, ∀ e, ¬files.Refuses d e) → files.Refuses dir e →
      scan files (before ++ dir :: rest) = (.error e, before.flatMap warnings)
  unordered : ∀ files', files.Alike files' → ∀ dirs, (scan files' dirs).2 = (scan files dirs).2 ∧
    ((scan files' dirs).1 = (scan files dirs).1 ∨
      ∃ dir ∈ dirs, ∃ e e', files.Refuses dir e ∧ files'.Refuses dir e' ∧
        (scan files dirs).1 = .error e ∧ (scan files' dirs).1 = .error e')

section
variable {t t' : FileTree} {files files' : FileView} {dir : Path} {dirs : List Path} {place : Location} {name : String}
  {names : List String}

/-! ### The files that are read -/

/-- The names of a directory that discovery reads, in order. -/
def namesRead (files : FileView) (dir : Path) (names : List String) : List String :=
  ((names.filter isDescriptorName).mergeSort fun a b => decide (a ≤ b)).filter fun name =>
    files.kind? (Path.join dir name) == some .file

theorem items_of_directory (hkind : files.kind? dir = some .directory) (hlist : files.list dir = .ok (names.map .ok)) :
    items files dir = (namesRead files dir names).map fun name => load files (Path.join dir name) := by
  rw [items_of_names hkind hlist, descriptorFiles_eq, List.map_map]
  rfl

/-- The names that are listed are those right below the place. -/
theorem perm_of_list (hv : files.Sees t) (hlist : files.list dir = .ok (names.map .ok)) (hdir : t.resolve dir = .ok place) :
    names.Perm ((t.children place).map (·.1)) := by
  obtain ⟨place', hdir', hperm⟩ := hv.list dir names hlist
  cases hdir.symm.trans hdir'
  exact hperm

/-- A candidate is a name that leads to its file. -/
theorem IsCandidate.resolve (h : t.WellFormed) (hv : files.Sees t) (hdir : t.resolve dir = .ok place)
    (hc : IsCandidate t files dir place name) :
    Path.IsEntryName name ∧ t.resolve (Path.join dir name) = .ok (place ++ [name]) := by
  obtain ⟨content, mode, hget⟩ := hc.file
  have hname := FileTree.isEntryName_of_child h (FileTree.ne_nil_of_resolve hdir) hget
  have htold : t.view.kind? (Path.join dir name) = some .file := hv.kind _ _ hc.told
  rw [kind?_view_eq_file_iff, FileTree.isFile, FileTree.find?] at htold
  cases hresolve : t.resolve (Path.join dir name) with
  | error e =>
    rw [hresolve] at htold
    cases htold
  | ok q => exact ⟨hname, congrArg _ (resolve_join hdir hname.toIsName hresolve)⟩

theorem mem_namesRead_iff (h : t.WellFormed) (hv : files.Sees t) (hdir : t.resolve dir = .ok place)
    (hlist : files.list dir = .ok (names.map .ok)) :
    name ∈ namesRead files dir names ↔ IsCandidate t files dir place name := by
  have hplace := FileTree.ne_nil_of_resolve hdir
  have hmem : name ∈ names ↔ ∃ entry, t.get? (place ++ [name]) = some entry :=
    (perm_of_list hv hlist hdir).mem_iff.trans (FileTree.mem_children_iff hplace)
  rw [namesRead, List.mem_filter, List.mem_mergeSort, List.mem_filter, hmem, beq_iff_eq, isDescriptorName, beq_iff_eq]
  constructor
  · rintro ⟨⟨⟨entry, hget⟩, hextension⟩, htold⟩
    refine ⟨?_, hextension, htold⟩
    have hname := FileTree.isEntryName_of_child h hplace hget
    have hfile : t.view.kind? (Path.join dir name) = some .file := hv.kind _ _ htold
    rw [kind?_view_eq_file_iff, FileTree.isFile, FileTree.find?] at hfile
    cases hresolve : t.resolve (Path.join dir name) with
    | error e =>
      rw [hresolve] at hfile
      cases hfile
    | ok q =>
      rw [hresolve, resolve_join hdir hname.toIsName hresolve] at hfile
      dsimp only at hfile
      rw [hget] at hfile
      cases entry with
      | directory => cases hfile
      | file content mode => exact ⟨content, mode, hget⟩
  · rintro ⟨⟨content, mode, hget⟩, hextension, htold⟩
    exact ⟨⟨⟨_, hget⟩, hextension⟩, htold⟩

theorem pairwise_namesRead (h : t.WellFormed) (hv : files.Sees t) (hdir : t.resolve dir = .ok place)
    (hlist : files.list dir = .ok (names.map .ok)) : (namesRead files dir names).Pairwise (· < ·) := by
  have hnodup : ((names.filter isDescriptorName).mergeSort fun a b => decide (a ≤ b)).Nodup :=
    (List.mergeSort_perm _ _).nodup_iff.mpr
      (((perm_of_list hv hlist hdir).nodup_iff.mpr (FileTree.nodup_children h place)).filter _)
  exact ((pairwise_sorted _).imp₂ (fun _ _ hle hne => lt_of_le_of_ne hle hne) hnodup).filter _

/-- A file is found where it gives an object, and warned of elsewhere. -/
theorem load_eq_ok_iff_gives (hv : files.Sees t) (hresolve : t.resolve (Path.join dir name) = .ok (place ++ [name]))
    {d : Descriptor} : Descriptor.load files (.path (Path.join dir name)) = .ok d ↔ Gives t files dir place name d := by
  -- what is read is the text in the tree
  have hload : ∀ text, files.read (Path.join dir name) = .ok text →
      Descriptor.load files (.path (Path.join dir name)) = Descriptor.load t (.path (Path.join dir name)) := by
    intro text hread
    have hread' : t.view.read (Path.join dir name) = .ok text := hv.read _ _ hread
    rw [Descriptor.load, Descriptor.load, DocumentSource.load, DocumentSource.load, DocumentSource.readFile,
      DocumentSource.readFile, hread, hread']
  have hgives : Descriptor.load t (.path (Path.join dir name)) = .ok d ↔ t.HoldsDescriptor (place ++ [name]) d := by
    rw [load_eq_ok_iff, ← FileTree.descriptorAt?_eq_some_iff]
    constructor
    · rintro ⟨q, hq, hd⟩
      cases hresolve.symm.trans hq
      exact hd
    · exact fun hd => ⟨_, hresolve, hd⟩
  rw [Gives, ← hgives]
  constructor
  · intro h
    cases hread : files.read (Path.join dir name) with
    | error e =>
      rw [Descriptor.load, DocumentSource.load, DocumentSource.readFile, hread] at h
      cases h
    | ok text => exact ⟨hload text hread ▸ h, text, rfl⟩
  · rintro ⟨h, text, hread⟩
    rw [hload text hread]
    exact h

/-! ### One listed path -/

theorem mem_foundIn_iff (hkind : files.kind? dir = some .directory) (hlist : files.list dir = .ok (names.map .ok))
    {f : FoundDescriptor} : f ∈ foundIn files dir ↔
      ∃ name ∈ namesRead files dir names, f.path = Path.join dir name ∧
        Descriptor.load files (.path (Path.join dir name)) = .ok f.descriptor := by
  rw [foundIn, items_of_directory hkind hlist, List.filterMap_map, List.mem_filterMap]
  refine exists_congr fun name => and_congr_right fun _ => ?_
  rw [Function.comp_apply, toOption_eq_some_iff, load]
  cases Descriptor.load files (.path (Path.join dir name)) with
  | error e => simp
  | ok d =>
    obtain ⟨path, descriptor⟩ := f
    simp [eq_comm]

theorem forall₂_warningsIn (hkind : files.kind? dir = some .directory) (hlist : files.list dir = .ok (names.map .ok)) :
    List.Forall₂ (fun name warning => ∃ e, Descriptor.load files (.path (Path.join dir name)) = .error e ∧
        warning = .unreadableDescriptor (Path.join dir name) e.message)
      ((namesRead files dir names).filter fun name =>
        (Descriptor.load files (.path (Path.join dir name))).toOption.isNone) (warningsIn files dir) := by
  rw [warningsIn, items_of_directory hkind hlist]
  induction namesRead files dir names with
  | nil => exact .nil
  | cons name rest ih =>
    rw [List.map_cons]
    cases hload : Descriptor.load files (.path (Path.join dir name)) with
    | error e =>
      rw [List.filter_cons_of_pos (by rw [hload]; rfl), load, hload]
      exact .cons ⟨e, hload, rfl⟩ ih
    | ok d =>
      rw [List.filter_cons_of_neg (by rw [hload]; exact Bool.false_ne_true), load, hload]
      exact ih

theorem sorted_foundIn (h : t.WellFormed) (hv : files.Sees t) (hkind : files.kind? dir = some .directory)
    (hdir : t.resolve dir = .ok place) (hlist : files.list dir = .ok (names.map .ok)) :
    ((foundIn files dir).map (·.path)).Pairwise (· < ·) := by
  have hslash : ∀ name ∈ namesRead files dir names, '/' ∉ name.toList := fun name hname =>
    (((mem_namesRead_iff h hv hdir hlist).mp hname).resolve h hv hdir).1.slash
  have hpaths := (pairwise_namesRead h hv hdir hlist).imp_of_mem fun {a b} ha hb hlt =>
    Path.join_lt_join (hslash a ha) (hslash b hb) hlt dir
  have hpath : ∀ {name : String} {f : FoundDescriptor}, (load files (Path.join dir name)).toOption = some f →
      f.path = Path.join dir name := by
    intro name f hf
    rw [toOption_eq_some_iff, load] at hf
    split at hf
    · cases hf
      rfl
    · cases hf
  rw [foundIn, items_of_directory hkind hlist, List.filterMap_map, List.pairwise_map, List.pairwise_filterMap]
  refine hpaths.imp fun {a b} hlt f hf f' hf' => ?_
  rw [hpath hf, hpath hf']
  exact hlt

theorem covers_of_directory (h : t.WellFormed) (hv : files.Sees t) (hkind : files.kind? dir = some .directory)
    (hlist : files.list dir = .ok (names.map .ok)) : Covers t files dir (foundIn files dir) (warningsIn files dir) := by
  obtain ⟨place, hdir, -⟩ := hv.list dir names hlist
  have hgives : ∀ {name : String} {d : Descriptor}, IsCandidate t files dir place name →
      (Descriptor.load files (.path (Path.join dir name)) = .ok d ↔ Gives t files dir place name d) :=
    fun hc => load_eq_ok_iff_gives hv (hc.resolve h hv hdir).2
  refine ⟨fun hnone => ?_, fun kind hother hne => ?_, sorted_foundIn h hv hkind hdir hlist,
    fun place' _ hdir' f => ?_, fun place' _ hdir' => ?_⟩
  · rw [hkind] at hnone
    cases hnone
  · exact absurd (Option.some.inj (hother.symm.trans hkind)) hne
  · cases hdir.symm.trans hdir'
    rw [mem_foundIn_iff hkind hlist]
    refine exists_congr fun name => ?_
    rw [mem_namesRead_iff h hv hdir hlist]
    exact and_congr_right fun hc => and_congr_right fun _ => hgives hc
  · cases hdir.symm.trans hdir'
    refine ⟨_, (pairwise_namesRead h hv hdir hlist).filter _, fun name => ?_, forall₂_warningsIn hkind hlist⟩
    rw [List.mem_filter, mem_namesRead_iff h hv hdir hlist, Option.isNone_iff_eq_none, Option.eq_none_iff_forall_ne_some]
    exact and_congr_right fun hc => forall_congr' fun d => not_congr (toOption_eq_some_iff.trans (hgives hc))

theorem covers_of_not_directory (t : FileTree) (hnot : files.kind? dir ≠ some .directory) :
    Covers t files dir (foundIn files dir) (warningsIn files dir) := by
  have hnone : files.kind? dir = none → items files dir = [] := by
    intro hkind
    rw [items, inDirectory, hkind]
    rfl
  have hother : ∀ kind, files.kind? dir = some kind → items files dir = [.error (.notDirectory dir)] := by
    intro kind hkind
    rw [items, inDirectory, hkind]
    cases kind with
    | directory => exact absurd hkind hnot
    | file => rfl
    | other => rfl
  have hfound : foundIn files dir = [] := by
    rw [foundIn]
    cases hkind : files.kind? dir with
    | none => rw [hnone hkind, List.filterMap_nil]
    | some kind =>
      rw [hother kind hkind]
      rfl
  refine ⟨fun hkind => ⟨hfound, ?_⟩, fun kind hkind _ => ⟨hfound, ?_⟩, ?_, fun _ hkind => absurd hkind hnot,
    fun _ hkind => absurd hkind hnot⟩
  · rw [warningsIn, hnone hkind, List.filterMap_nil]
  · rw [warningsIn, hother kind hkind]
    rfl
  · rw [hfound]
    exact .nil

theorem covers_of_not_refuses (h : t.WellFormed) (hv : files.Sees t) (hlisted : ∀ e, ¬files.Refuses dir e) :
    Covers t files dir (foundIn files dir) (warningsIn files dir) := by
  by_cases hkind : files.kind? dir = some .directory
  · have hitems := inDirectory_eq_items hlisted
    rw [inDirectory_of_directory hkind, map_eq_ok_iff] at hitems
    obtain ⟨names, hnames, -⟩ := hitems
    exact covers_of_directory h hv hkind (namesIn_eq_ok_iff.mp hnames)
  · exact covers_of_not_directory t hkind

/-! ### The order of the entries -/

theorem alike_symm (h : files.Alike files') : files'.Alike files where
  kind := h.kind.symm
  list := fun dir => (h.list dir).imp (fun ⟨e, hl, hr⟩ => ⟨e, hr, hl⟩) fun ⟨l, r, hl, hr, hperm⟩ => ⟨r, l, hr, hl, hperm.symm⟩
  read := h.read.symm

/-- Entries are names, or one of them is withheld. -/
theorem exists_names_or_error (entries : List (Except FileError String)) :
    (∃ names : List String, entries = names.map .ok) ∨
      ∃ (names : List String) (cause : FileError) (rest : _), entries = names.map .ok ++ .error cause :: rest := by
  induction entries with
  | nil => exact .inl ⟨[], rfl⟩
  | cons entry entries ih =>
    cases entry with
    | error cause => exact .inr ⟨[], cause, entries, rfl⟩
    | ok name =>
      rcases ih with ⟨names, rfl⟩ | ⟨names, cause, rest, rfl⟩
      · exact .inl ⟨name :: names, rfl⟩
      · exact .inr ⟨name :: names, cause, rest, rfl⟩

/-- A directory that one system refuses, the other refuses too. -/
theorem exists_refuses_of_alike (h : files.Alike files') {e : Failure} (hdir : files.Refuses dir e) :
    ∃ e', files'.Refuses dir e' := by
  cases hdir with
  | directory hkind hlist =>
    obtain ⟨cause, -, hlist'⟩ | ⟨entries, -, hentries, -⟩ := h.list dir
    · exact ⟨_, .directory (h.kind ▸ hkind) hlist'⟩
    · cases hlist.symm.trans hentries
  | @entry names cause rest hkind hlist =>
    obtain ⟨_, hl, -⟩ | ⟨entries, entries', hl, hr, hperm⟩ := h.list dir
    · cases hlist.symm.trans hl
    · cases hlist.symm.trans hl
      have hmem : Except.error cause ∈ entries' := hperm.mem_iff.mpr (List.mem_append_right _ List.mem_cons_self)
      obtain ⟨names', rfl⟩ | ⟨names', cause', rest', rfl⟩ := exists_names_or_error entries'
      · obtain ⟨name, -, hname⟩ := List.mem_map.mp hmem
        cases hname
      · exact ⟨_, .entry (h.kind ▸ hkind) hr⟩

theorem load_of_alike (h : files.Alike files') : load files' = load files := by
  funext p
  rw [load, load, Descriptor.load, Descriptor.load, DocumentSource.load, DocumentSource.load, DocumentSource.readFile,
    DocumentSource.readFile, h.read]

/-- The order of the entries is lost where they are sorted. -/
theorem items_of_alike (h : files.Alike files') (hdir : ∀ e, ¬files.Refuses dir e) : items files' dir = items files dir := by
  by_cases hkind : files.kind? dir = some .directory
  · obtain ⟨cause, hl, -⟩ | ⟨entries, entries', hl, hr, hperm⟩ := h.list dir
    · exact absurd (.directory hkind hl) (hdir _)
    · obtain ⟨names, rfl⟩ | ⟨names, cause, rest, rfl⟩ := exists_names_or_error entries
      · obtain ⟨names', rfl⟩ | ⟨names', cause', rest', rfl⟩ := exists_names_or_error entries'
        · have hnames : names'.Perm names := (List.map_perm_map_iff fun _ _ heq => Except.ok.inj heq).mp hperm
          have hsorted : (names'.filter isDescriptorName).mergeSort (fun a b => decide (a ≤ b)) =
              (names.filter isDescriptorName).mergeSort fun a b => decide (a ≤ b) :=
            List.Perm.eq_of_pairwise (fun _ _ _ _ hab hba => le_antisymm hab hba) (pairwise_sorted _) (pairwise_sorted _)
              ((List.mergeSort_perm _ _).trans ((hnames.filter _).trans (List.mergeSort_perm _ _).symm))
          rw [items_of_directory hkind hl, items_of_directory (h.kind ▸ hkind) hr, namesRead, namesRead, hsorted, h.kind,
            load_of_alike h]
        · obtain ⟨name, -, hname⟩ := List.mem_map.mp (hperm.mem_iff.mp (List.mem_append_right _ List.mem_cons_self))
          cases hname
      · exact absurd (.entry hkind hl) (hdir _)
  · rw [items, items, inDirectory, inDirectory, h.kind]
    split
    · rfl
    · next hsame => exact absurd hsame hkind
    · rfl

theorem scan_of_alike (h : files.Alike files') (dirs : List Path) : (scan files' dirs).2 = (scan files dirs).2 ∧
    ((scan files' dirs).1 = (scan files dirs).1 ∨
      ∃ dir ∈ dirs, ∃ e e', files.Refuses dir e ∧ files'.Refuses dir e' ∧
        (scan files dirs).1 = .error e ∧ (scan files' dirs).1 = .error e') := by
  induction dirs with
  | nil => exact ⟨rfl, .inl rfl⟩
  | cons dir rest ih =>
    by_cases hrefused : ∃ e, files.Refuses dir e
    · obtain ⟨e, hdir⟩ := hrefused
      obtain ⟨e', hdir'⟩ := exists_refuses_of_alike h hdir
      have hscan := @scan_of_refused files dir e [] rest nofun hdir
      have hscan' := @scan_of_refused files' dir e' [] rest nofun hdir'
      rw [List.nil_append] at hscan hscan'
      rw [hscan, hscan']
      exact ⟨rfl, .inr ⟨dir, List.mem_cons_self, e, e', hdir, hdir', rfl, rfl⟩⟩
    · have hlisted : ∀ e, ¬files.Refuses dir e := not_exists.mp hrefused
      have hlisted' : ∀ e, ¬files'.Refuses dir e := fun e hdir' => hrefused (exists_refuses_of_alike (alike_symm h) hdir')
      rw [scan_cons_of_listed hlisted, scan_cons_of_listed hlisted', foundIn, foundIn, warningsIn, warningsIn,
        items_of_alike h hlisted]
      obtain ⟨hwarnings, hfound⟩ := ih
      refine ⟨by rw [hwarnings], hfound.imp (fun hsame => by rw [hsame]) ?_⟩
      rintro ⟨dir', hmem, e, e', hdir, hdir', hscan, hscan'⟩
      exact ⟨dir', List.mem_cons_of_mem _ hmem, e, e', hdir, hdir', by rw [hscan]; rfl, by rw [hscan']; rfl⟩

/-! ### All listed paths -/

theorem scans_of_sees (h : t.WellFormed) (hv : files.Sees t) : Scans t files where
  covers := ⟨_, _, fun _ => covers_of_not_refuses h hv, fun _ => scan_of_listed, fun _ _ _ _ => scan_of_refused⟩
  unordered := fun _ => scan_of_alike

theorem sees_view (t : FileTree) : t.view.Sees t where
  kind := fun _ _ h => h
  list := by
    intro dir names hlist
    rw [FileTree.view] at hlist
    obtain ⟨place, hdir, hlist⟩ := bind_eq_ok_iff.mp hlist
    obtain ⟨-, -, hlist⟩ := bind_eq_ok_iff.mp hlist
    have hnames : ((t.children place).map (·.1)).map (Except.ok : String → Except FileError String) = names.map .ok := by
      rw [List.map_map]
      exact pure_eq_ok_iff.mp hlist
    have hinjective : Function.Injective (Except.ok : String → Except FileError String) := fun _ _ => Except.ok.inj
    exact ⟨place, hdir, List.Perm.of_eq (List.map_injective_iff.mpr hinjective hnames).symm⟩
  read := fun _ _ h => h

/-- The order in which a tree lists its places is one in which a system may list the entries of its directories. -/
theorem alike_of_perm (h : t.WellFormed) (hperm : t'.entries.Perm t.entries) : t.view.Alike t'.view where
  kind := funext fun p => congrArg (Option.map Entry.kind) (FileTree.find?_congr (h.get?_perm hperm) p)
  list := by
    intro dir
    rw [FileTree.view, FileTree.view]
    dsimp only
    rw [FileTree.resolve_congr (h.get?_perm hperm)]
    cases t.resolve dir with
    | error e => exact .inl ⟨e, rfl, rfl⟩
    | ok place =>
      have hcheck : t'.checkDirectory place = t.checkDirectory place := by
        rw [FileTree.checkDirectory, FileTree.checkDirectory, h.get?_perm hperm]
      simp only [bind, Except.bind, hcheck]
      cases t.checkDirectory place with
      | error e => exact .inl ⟨e, rfl, rfl⟩
      | ok _ => exact .inr ⟨_, _, rfl, rfl, (hperm.filterMap _).map _⟩
  read := funext (FileTree.readText_congr (h.get?_perm hperm))

theorem discover_entries_perm (h : t.WellFormed) (hperm : t'.entries.Perm t.entries) (dirs : List Path) :
    discover t' dirs = discover t dirs := by
  obtain ⟨hwarnings, hfound | ⟨dir, -, e, -, hdir, -⟩⟩ := scan_of_alike (alike_of_perm h hperm) dirs
  · rw [discover, discover, Prod.ext hfound hwarnings]
  · exact absurd hdir (not_refuses_view t dir e)

/-- A tree tells of every file whose path is not too long. -/
theorem kind?_view_join_iff (h : t.WellFormed) (hdir : t.resolve dir = .ok place) (hget : t.get? place = some .directory)
    (hfile : ∃ content mode, t.get? (place ++ [name]) = some (.file content mode)) :
    t.view.kind? (Path.join dir name) = some .file ↔ (Path.join dir name).utf8ByteSize ≤ FileTree.maxPathSize := by
  obtain ⟨content, mode, hfile⟩ := hfile
  have hname := FileTree.isEntryName_of_child h (FileTree.ne_nil_of_resolve hdir) hfile
  rw [kind?_view_eq_file_iff, FileTree.isFile, FileTree.find?]
  constructor
  · intro htold
    cases hresolve : t.resolve (Path.join dir name) with
    | error e =>
      rw [hresolve] at htold
      cases htold
    | ok q => exact (FileTree.fits_of_locate (FileTree.resolve_eq_ok_iff.mp hresolve).1).size
  · intro hsize
    rw [FileTree.resolve_join_of_size hdir hget hname hsize]
    dsimp only
    rw [hfile]

/-- Whatever a system tells of a tree and refuses, a scan covers what it tells. And a tree that is asked itself refuses
    nothing, and tells of every file but those with a path that is too long. -/
theorem scans_of_wellFormed (h : t.WellFormed) :
    (∀ files : FileView, files.Sees t → Scans t files) ∧ t.view.Sees t ∧
      (∀ dirs, scan t dirs = (.ok (discover t dirs).1, (discover t dirs).2)) ∧
      ∀ dir place name, t.resolve dir = .ok place → t.get? place = some .directory →
        (∃ content mode, t.get? (place ++ [name]) = some (.file content mode)) →
        (t.view.kind? (Path.join dir name) = some .file ↔ (Path.join dir name).utf8ByteSize ≤ FileTree.maxPathSize) :=
  ⟨fun _ => scans_of_sees h, sees_view t, scan_view t, fun _ _ _ => kind?_view_join_iff h⟩

end

/-! ### A path that is too long -/

/-- A directory with one descriptor file. -/
def oneTool : FileTree := FileTree.put {} "d/tool.json" (.text "\x7b\"name\": \"tool\"\x7d")

/-- The directory of the file, by a path with so many idle steps that a name cannot be added to it. -/
def longWay (steps : Nat) : Path := String.ofList ((List.replicate steps ['.', '/']).flatten ++ ['d'])

/-- The directory as one sees it who may not read it. -/
def unreadable : FileView := { oneTool.view with list := fun _ => .error (.system "Permission denied (os error 13)") }

theorem wellFormed_oneTool : oneTool.WellFormed := FileTree.wellFormed_empty.put _ _

theorem sees_unreadable : unreadable.Sees oneTool where
  kind := (sees_view oneTool).kind
  list := fun _ _ h => by cases h
  read := (sees_view oneTool).read

theorem refuses_unreadable : unreadable.Refuses "d"
    (.descriptorLoad "Failed to read descriptor directory d: Permission denied (os error 13)") := by
  have hkind : unreadable.kind? "d" = some .directory := by decide +kernel
  have hmessage : "Failed to read descriptor directory " ++ "d" ++ ": " ++ "Permission denied (os error 13)" =
      "Failed to read descriptor directory d: Permission denied (os error 13)" := by decide +kernel
  rw [← hmessage]
  exact .directory hkind rfl

theorem scans_of_wellFormed_oneTool :
    (∃ found warnings, Covers oneTool oneTool "d" found warnings ∧
      discover oneTool ["d", "d"] = (found ++ found, warnings ++ warnings)) ∧
    Scans oneTool unreadable ∧ scan unreadable ["d"] =
      (.error (.descriptorLoad "Failed to read descriptor directory d: Permission denied (os error 13)"), []) := by
  obtain ⟨hscans, hsees, -, -⟩ := scans_of_wellFormed wellFormed_oneTool
  obtain ⟨found, warnings, hcovers, hlisted, -⟩ := (hscans oneTool hsees).covers
  obtain ⟨_, _, -, -, hrefused⟩ := (hscans unreadable sees_unreadable).covers
  refine ⟨⟨found "d", warnings "d", hcovers "d" (not_refuses_view oneTool "d"), ?_⟩,
    hscans unreadable sees_unreadable, ?_⟩
  · rw [discover, hlisted ["d", "d"] fun dir _ => not_refuses_view oneTool dir]
    simp [Except.toOption]
  · have hnone : ∀ dir ∈ ([] : List Path), ∀ e, ¬unreadable.Refuses dir e := fun _ hdir => (List.not_mem_nil hdir).elim
    rw [← List.nil_append ["d"], hrefused [] "d" [] _ hnone refuses_unreadable]
    rfl

theorem utf8ByteSize_longWay (steps : Nat) : (longWay steps).utf8ByteSize = steps * 2 + 1 := by
  rw [longWay, String.utf8ByteSize_ofList]
  induction steps with
  | zero => rfl
  | succ steps ih =>
    have hstep : String.utf8Len ['.', '/'] = 2 := rfl
    rw [List.replicate_succ, List.flatten_cons, List.append_assoc, String.utf8Len_append, ih, hstep]
    omega

theorem longWay_ne_empty (steps : Nat) : longWay steps ≠ "" := by
  intro hempty
  have hbytes := utf8ByteSize_longWay steps
  rw [hempty, String.utf8ByteSize_empty] at hbytes
  omega

theorem segments_longWay (steps : Nat) : Path.segments (longWay steps) = List.replicate steps "." ++ ["d"] := by
  have hsplit : ((List.replicate steps ['.', '/']).flatten ++ ['d']).splitOn '/' = List.replicate steps ['.'] ++ [['d']] := by
    induction steps with
    | zero => rfl
    | succ steps ih =>
      have hstep := List.splitOn_append_cons_self (a := '/') ['.'] ((List.replicate steps ['.', '/']).flatten ++ ['d'])
      rw [ih] at hstep
      rw [List.replicate_succ, List.replicate_succ]
      exact hstep
  rw [Path.segments, longWay, String.toList_ofList, hsplit, List.map_append, List.map_replicate]
  rfl

theorem walk_idle (steps : Nat) : oneTool.walk ["."] (List.replicate steps "." ++ ["d"]) = .ok [".", "d"] := by
  have hcwd : oneTool.get? ["."] = some .directory := rfl
  induction steps with
  | zero => exact FileTree.walk_cons_eq_ok_iff.mpr ⟨fun _ => ⟨hcwd, by decide⟩, rfl⟩
  | succ steps ih => exact FileTree.walk_cons_eq_ok_iff.mpr ⟨fun _ => ⟨hcwd, by decide⟩, ih⟩

theorem resolve_longWay {steps : Nat} (hsize : steps * 2 < FileTree.maxPathSize) :
    oneTool.resolve (longWay steps) = .ok [".", "d"] := by
  have hlist : (longWay steps).toList = (List.replicate steps ['.', '/']).flatten ++ ['d'] := String.toList_ofList
  have hchars : ∀ c ∈ (longWay steps).toList, c = '.' ∨ c = '/' ∨ c = 'd' := by
    intro c hc
    rw [hlist, List.mem_append, List.mem_flatten] at hc
    rcases hc with ⟨part, hpart, hc⟩ | hc
    · rw [List.eq_of_mem_replicate hpart] at hc
      simp only [List.mem_cons, List.not_mem_nil, or_false] at hc
      exact hc.imp_right .inl
    · exact .inr (.inr (List.mem_singleton.mp hc))
  have hstart : (FileTree.start (longWay steps)).1 = ["."] := by
    rw [FileTree.start, Path.isAbsolute, hlist]
    cases steps <;> rfl
  refine FileTree.resolve_eq_ok_iff.mpr ⟨FileTree.locate_eq_ok_iff.mpr ⟨?_, ?_, ?_, ?_⟩, fun _ => by decide +kernel⟩
  · intro hnul
    exact absurd (hchars _ hnul) (by decide)
  · exact longWay_ne_empty steps
  · rw [utf8ByteSize_longWay]
    exact hsize
  · rw [hstart, segments_longWay, walk_idle]

theorem join_longWay (steps : Nat) : (Path.join (longWay steps) "tool.json").utf8ByteSize = steps * 2 + 11 := by
  have hends : Path.endsInSlash (longWay steps) = false := by
    rw [Path.endsInSlash, longWay, String.toList_ofList, List.getLast?_concat]
    rfl
  have hplain : ¬((decide (longWay steps = "") || Path.endsInSlash (longWay steps)) = true) := by
    simp [hends, longWay_ne_empty]
  have hname : "/".utf8ByteSize + "tool.json".utf8ByteSize = 10 := rfl
  rw [Path.join, if_neg (by decide), if_neg hplain, String.utf8ByteSize_append, String.utf8ByteSize_append,
    utf8ByteSize_longWay]
  omega

theorem items_longWay {steps : Nat} (hsize : steps * 2 < FileTree.maxPathSize)
    (hlong : FileTree.maxPathSize < steps * 2 + 11) : items oneTool (longWay steps) = [] := by
  have hdir := resolve_longWay hsize
  have hget : oneTool.get? [".", "d"] = some .directory := by decide +kernel
  have hnames : (oneTool.children [".", "d"]).map (·.1) = ["tool.json"] := by decide +kernel
  have hfile : ∃ content mode, oneTool.get? ([".", "d"] ++ ["tool.json"]) = some (.file content mode) :=
    ⟨.text "\x7b\"name\": \"tool\"\x7d", FileTree.newFileMode, by decide +kernel⟩
  have htold : oneTool.view.kind? (Path.join (longWay steps) "tool.json") ≠ some .file := by
    rw [Ne, kind?_view_join_iff wellFormed_oneTool hdir hget hfile, join_longWay]
    omega
  rw [items_of_directory (kind?_view_eq_directory_iff.mpr ⟨_, hdir, hget⟩) (list_view hdir hget), hnames]
  refine List.map_eq_nil_iff.mpr (List.filter_eq_nil_iff.mpr fun name hname => ?_)
  obtain rfl := List.mem_singleton.mp (List.mem_filter.mp (List.mem_mergeSort.mp hname)).1
  rwa [beq_iff_eq]

/-- A descriptor is neither found nor warned of if its file is listed by a path that is too long. -/
theorem discover_longWay :
    oneTool.WellFormed ∧ oneTool.resolve (longWay 2044) = .ok [".", "d"] ∧ oneTool.get? [".", "d"] = some .directory ∧
      Path.extension? "tool.json" = some "json" ∧ (∃ d, oneTool.HoldsDescriptor [".", "d", "tool.json"] d) ∧
      discover oneTool [longWay 2044] = ([], []) := by
  have hholds : (oneTool.descriptorAt? [".", "d", "tool.json"]).isSome = true := by decide +kernel
  obtain ⟨d, hd⟩ := Option.isSome_iff_exists.mp hholds
  refine ⟨wellFormed_oneTool, resolve_longWay (by decide), by decide +kernel, by decide +kernel,
    ⟨d, FileTree.descriptorAt?_eq_some_iff.mp hd⟩, ?_⟩
  rw [discover_eq, List.flatMap_singleton, List.flatMap_singleton, foundIn, warningsIn,
    items_longWay (by decide) (by decide)]
  rfl

end Discovery

end ToolPlugins
