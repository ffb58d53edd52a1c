import Mathlib
import ToolPlugins.Proofs.Discovery.Scan
import ToolPlugins.Proofs.FileTree.Pages

/-!
What discovery finds, as a list of files that are read one by one. Published pages hide no descriptor and change
none; and without some of the files, the other descriptors are found as before.
-/

namespace ToolPlugins

namespace FileTree

/-- The descriptor in the file at a place. -/
def descriptorAt? (t : FileTree) (place : Location) : Option Descriptor :=
  match t.get? place with
  | some (.file (.text value) _) => (Json.parse value).toOption.bind fun document => (Descriptor.ofJson? document).toOption
  | _ => none

/-- Whether one of some paths leads to a place. -/
def leadTo (t : FileTree) (paths : List Path) (place : Location) : Bool :=
  paths.any fun p => (t.resolve p).toOption == some place

/-- The tree without the files that some paths lead to. -/
def without (t : FileTree) (paths : List Path) : FileTree :=
  ⟨t.entries.filter fun e => t.get? e.1 == some .directory || !t.leadTo paths e.1⟩

section
variable {t : FileTree} {paths : List Path} {place : Location}

theorem leadTo_iff : t.leadTo paths place = true ↔ ∃ p ∈ paths, t.resolve p = .ok place := by
  rw [leadTo, List.any_eq_true]
  refine exists_congr fun p => and_congr_right fun _ => ?_
  rw [beq_iff_eq]
  cases t.resolve p with
  | error e => simp [Except.toOption]
  | ok other => simp [Except.toOption]

theorem get?_without (t : FileTree) (paths : List Path) (place : Location) :
    (t.without paths).get? place =
      if t.get? place = some .directory then some .directory
      else if t.leadTo paths place = true then none else t.get? place := by
  by_cases hlength : place.length ≤ 1
  · have hroot : ∀ u : FileTree, u.get? place = some .directory := fun u => if_pos hlength
    rw [hroot, hroot, if_pos rfl]
  · have hget : (t.without paths).get? place = (t.without paths).entries.get? place := if_neg hlength
    have hget' : t.get? place = t.entries.get? place := if_neg hlength
    rw [hget, without, Table.get?_filter fun place => t.get? place == some .directory || !t.leadTo paths place, ← hget']
    by_cases hdirectory : t.get? place = some .directory
    · simp [hdirectory]
    · by_cases hlead : t.leadTo paths place = true
      · simp [hdirectory, hlead]
      · simp [hdirectory, hlead]

theorem fewer_without (t : FileTree) (paths : List Path) : t.Fewer (t.without paths) := by
  intro place
  rw [get?_without]
  split_ifs with hdirectory hlead
  · exact .inl hdirectory.symm
  · cases hget : t.get? place with
    | none => exact .inl rfl
    | some entry =>
      cases entry with
      | file content mode => exact .inr ⟨content, mode, rfl, rfl⟩
      | directory => exact absurd hget hdirectory
  · exact .inl rfl

end

end FileTree

namespace Discovery

open FileTree (Published)

/-- The descriptor that a file is read as. -/
def read? (t : FileTree) (path : Path) : Option FoundDescriptor := (load t path).toOption

/-- The names right below a place that a descriptor file may have, in no particular order. -/
def names (t : FileTree) (place : Location) : List String :=
  ((t.children place).map (·.1)).filter isDescriptorName

/-- The descriptor files in a directory, whether their paths can be followed or not. -/
def filesIn (t : FileTree) (dir : Path) : List Path :=
  match t.resolve dir with
  | .error _ => []
  | .ok place =>
    if t.get? place = some .directory then
      ((names t place).mergeSort fun a b => decide (a ≤ b)).map (Path.join dir)
    else []

section
variable {t t' : FileTree} {dir p : Path} {dirs : List Path} {place : Location} {f : FoundDescriptor}

theorem pairwise_sorted (l : List String) : (l.mergeSort fun a b => decide (a ≤ b)).Pairwise (· ≤ ·) := by
  have hle := @List.pairwise_mergeSort String (fun a b => decide (a ≤ b))
    (fun a b c hab hbc => by simpa using le_trans (of_decide_eq_true hab) (of_decide_eq_true hbc))
    (fun a b => by simpa using le_total a b) l
  exact hle.imp of_decide_eq_true

theorem mergeSort_filter (p : String → Bool) (l : List String) :
    (l.filter p).mergeSort (fun a b => decide (a ≤ b)) = (l.mergeSort fun a b => decide (a ≤ b)).filter p :=
  List.Perm.eq_of_pairwise (fun _ _ _ _ hab hba => le_antisymm hab hba) (pairwise_sorted _) ((pairwise_sorted l).filter p)
    ((List.mergeSort_perm _ _).trans ((List.mergeSort_perm l _).filter p).symm)

/-- What is added to a list is found anywhere in the sorted one. -/
theorem mergeSort_sublist {l l' : List String} (h : l.Sublist l') :
    (l.mergeSort fun a b => decide (a ≤ b)).Sublist (l'.mergeSort fun a b => decide (a ≤ b)) :=
  List.sublist_of_subperm_of_pairwise
    ((List.mergeSort_perm l _).subperm.trans (h.subperm.trans (List.mergeSort_perm l' _).symm.subperm))
    (pairwise_sorted l) (pairwise_sorted l')

/-! ### Files of descriptors -/

theorem readText_eq_ok_iff {text : String} :
    t.readText p = .ok text ↔ ∃ place, t.resolve p = .ok place ∧ ∃ mode, t.get? place = some (.file (.text text) mode) := by
  rw [FileTree.readText, bind_eq_ok_iff]
  refine exists_congr fun place => and_congr_right fun _ => ?_
  cases t.get? place with
  | none => simp
  | some entry =>
    cases entry with
    | directory => simp
    | file content mode =>
      cases content with
      | text value => simp
      | binary bytes => simp

theorem load_eq_ok_iff {d : Descriptor} :
    Descriptor.load t (.path p) = .ok d ↔ ∃ place, t.resolve p = .ok place ∧ t.descriptorAt? place = some d := by
  have hread : ∀ {document : Json}, DocumentSource.load t (.path p) = .ok document ↔
      ∃ text, t.readText p = .ok text ∧ Json.parse text = .ok document := by
    intro document
    rw [DocumentSource.load, DocumentSource.readFile, FileTree.view]
    dsimp only
    cases t.readText p with
    | error e => simp
    | ok text => simp [mapError_eq_ok_iff]
  rw [Descriptor.load, mapError_eq_ok_iff]
  change (DocumentSource.load t (.path p) >>= Descriptor.ofJson?) = .ok d ↔ _
  rw [bind_eq_ok_iff]
  constructor
  · rintro ⟨document, hdocument, hd⟩
    obtain ⟨text, htext, hparse⟩ := hread.mp hdocument
    obtain ⟨place, hplace, mode, hget⟩ := readText_eq_ok_iff.mp htext
    refine ⟨place, hplace, ?_⟩
    rw [FileTree.descriptorAt?, hget]
    exact Option.bind_eq_some_iff.mpr ⟨document, toOption_eq_some_iff.mpr hparse, toOption_eq_some_iff.mpr hd⟩
  · rintro ⟨place, hplace, hd⟩
    rw [FileTree.descriptorAt?] at hd
    split at hd
    · next text mode hget =>
      obtain ⟨document, hparse, hd⟩ := Option.bind_eq_some_iff.mp hd
      exact ⟨document, hread.mpr ⟨text, readText_eq_ok_iff.mpr ⟨place, hplace, mode, hget⟩, toOption_eq_some_iff.mp hparse⟩,
        toOption_eq_some_iff.mp hd⟩
    · cases hd

/-- A file is read as the descriptor at the place of its path. -/
theorem read?_eq_some_iff :
    read? t p = some f ↔ f.path = p ∧ ∃ place, t.resolve p = .ok place ∧ t.descriptorAt? place = some f.descriptor := by
  rw [← load_eq_ok_iff, read?, load]
  cases Descriptor.load t (.path p) with
  | error e => simp [Except.toOption]
  | ok d =>
    constructor
    · rintro ⟨⟩
      exact ⟨rfl, rfl⟩
    · rintro ⟨rfl, ⟨⟩⟩
      rfl

/-- What is passed over could not be read. -/
theorem isFile_of_read? (h : read? t p = some f) : t.isFile p = true := by
  obtain ⟨-, place, hresolve, hd⟩ := read?_eq_some_iff.mp h
  rw [FileTree.descriptorAt?] at hd
  split at hd
  · next text mode hget =>
    rw [FileTree.isFile, FileTree.find?, hresolve]
    dsimp only
    rw [hget]
  · cases hd

theorem descriptorFiles_eq (files : FileView) (dir : Path) (names : List String) :
    descriptorFiles files dir names =
      (((names.filter isDescriptorName).mergeSort fun a b => decide (a ≤ b)).filter fun name =>
        files.kind? (Path.join dir name) == some .file).map (Path.join dir) := by
  rw [← mergeSort_filter, List.filter_filter]
  rfl

theorem names_eq (t : FileTree) (place : Location) :
    names t place = t.entries.keys.filterMap fun other => (FileTree.childName? place other).filter isDescriptorName := by
  rw [names, FileTree.children, List.map_filterMap, List.filter_filterMap, Table.keys, List.filterMap_map]
  refine List.filterMap_congr ?_
  rintro ⟨other, entry⟩ -
  rw [Function.comp_apply, Option.map_map]
  exact congrArg (Option.filter isDescriptorName) Option.map_id'

theorem foundIn_eq (t : FileTree) (dir : Path) : foundIn t dir = (filesIn t dir).filterMap (read? t) := by
  rw [foundIn]
  by_cases hdirectory : ∃ place, t.resolve dir = .ok place ∧ t.get? place = some .directory
  · obtain ⟨place, hresolve, hget⟩ := hdirectory
    rw [items_of_names (kind?_view_eq_directory_iff.mpr ⟨place, hresolve, hget⟩) (list_view hresolve hget),
      descriptorFiles_eq, filesIn, hresolve]
    dsimp only
    rw [if_pos hget, ← names, List.map_map, List.filterMap_map, List.filterMap_filter, List.filterMap_map]
    refine List.filterMap_congr fun name _ => ?_
    rw [Function.comp_apply, Function.comp_apply, Function.comp_apply]
    cases hread : read? t (Path.join dir name) with
    | none => rw [← read?, hread, ite_self]
    | some f =>
      rw [if_pos (beq_iff_eq.mpr (kind?_view_eq_file_iff.mpr (isFile_of_read? hread)))]
      exact hread
  · have hnone : (items t dir).filterMap Except.toOption = [] := by
      rw [items, inDirectory]
      split
      · rfl
      · next hkind => exact absurd (kind?_view_eq_directory_iff.mp hkind) hdirectory
      · rfl
    rw [hnone, filesIn]
    split
    · rfl
    · next place hresolve =>
      rw [if_neg fun hget => hdirectory ⟨place, hresolve, hget⟩]
      rfl

/-- The descriptors that are found are those that can be read from the files of the directories. -/
theorem discover_fst (t : FileTree) (dirs : List Path) :
    (discover t dirs).1 = (dirs.flatMap (filesIn t)).filterMap (read? t) := by
  rw [discover_eq, List.filterMap_flatMap]
  exact congrArg (List.flatMap · dirs) (funext (foundIn_eq t))

theorem suffix_of_isDescriptorName {name : String} (h : isDescriptorName name = true) :
    ".json".toList <:+ name.toList := by
  rw [isDescriptorName, beq_iff_eq, Path.extension?] at h
  split at h
  · next c other rest hdrop =>
    have hhead := List.head?_dropWhile_not (· != '.') name.toList.reverse
    rw [hdrop] at hhead
    obtain rfl : c = '.' := by simpa using hhead
    have hletters : (name.toList.reverse.takeWhile (· != '.')).reverse = "json".toList := by
      rw [← Option.some.inj h, String.toList_ofList]
    refine ⟨(other :: rest).reverse, ?_⟩
    rw [← List.reverse_reverse name.toList, ← @List.takeWhile_append_dropWhile _ (· != '.') name.toList.reverse, hdrop,
      List.reverse_append, hletters]
    simp
  · cases h

theorem not_isPage_of_suffix {above : Location} {name : String} (h : ".json".toList <:+ name.toList) :
    ¬FileTree.IsPage (above ++ [name]) := by
  rintro ⟨other, name', heq, hpage⟩
  obtain ⟨-, heq⟩ := List.append_inj' heq rfl
  cases heq
  rcases List.suffix_or_suffix_of_suffix h hpage with h | h
  · exact absurd h (by decide)
  · exact absurd h (by decide)

theorem place_of_suffix (hending : ".json".toList <:+ p.toList) (hl : t.locate p = .ok place) :
    ∃ above name, place = above ++ [name] ∧ '/' ∉ name.toList ∧ ".json".toList <:+ name.toList := by
  obtain ⟨front, last, hsegments, hlast⟩ := Path.exists_last_segment hending (by decide)
  have hslash : '/' ∉ last.toList := Path.slash_not_mem_segments last (by rw [hsegments]; simp)
  obtain ⟨above, rfl⟩ := FileTree.getLast?_of_locate hsegments (Path.isName_of_suffix hlast (by decide) hslash) hl
  exact ⟨above, last, rfl, hslash, hlast⟩

theorem childName?_eq_some_iff {other : Location} {name : String} :
    FileTree.childName? place other = some name ↔ other = place ++ [name] := by
  rw [FileTree.childName?]
  constructor
  · intro h
    split_ifs at h with hstart
    obtain ⟨rest, rfl⟩ := List.isPrefixOf_iff_prefix.mp hstart
    rw [List.drop_left] at h
    split at h
    · cases h
      rfl
    · cases h
  · rintro rfl
    rw [if_pos (List.isPrefixOf_iff_prefix.mpr (List.prefix_append _ _)), List.drop_left]

theorem suffix_of_mem_names {name : String} (h : name ∈ names t place) : ".json".toList <:+ name.toList :=
  suffix_of_isDescriptorName (List.mem_filter.mp h).2

theorem filesIn_of_directory (hresolve : t.resolve dir = .ok place) (hget : t.get? place = some .directory) :
    filesIn t dir = ((names t place).mergeSort fun a b => decide (a ≤ b)).map (Path.join dir) := by
  rw [filesIn, hresolve]
  exact if_pos hget

theorem filesIn_of_no_directory (h : ∀ place, t.resolve dir = .ok place → t.get? place ≠ some .directory) :
    filesIn t dir = [] := by
  rw [filesIn]
  split
  · rfl
  · next place hresolve => exact if_neg (h place hresolve)

theorem suffix_of_mem_filesIn (h : p ∈ filesIn t dir) : ".json".toList <:+ p.toList := by
  by_cases hdirectory : ∃ place, t.resolve dir = .ok place ∧ t.get? place = some .directory
  · obtain ⟨place, hresolve, hget⟩ := hdirectory
    rw [filesIn_of_directory hresolve hget] at h
    obtain ⟨name, hname, rfl⟩ := List.mem_map.mp h
    exact (suffix_of_mem_names (List.mem_mergeSort.mp hname)).trans (Path.toList_suffix_join dir name)
  · rw [filesIn_of_no_directory fun place hresolve hget => hdirectory ⟨place, hresolve, hget⟩] at h
    cases h

/-- What is found is read from a descriptor file. -/
theorem read?_of_mem_discover (h : f ∈ (discover t dirs).1) :
    read? t f.path = some f ∧ ".json".toList <:+ f.path.toList := by
  rw [discover_fst] at h
  obtain ⟨p, hp, hread⟩ := List.mem_filterMap.mp h
  obtain ⟨dir, -, hp⟩ := List.mem_flatMap.mp hp
  obtain ⟨rfl, -⟩ := read?_eq_some_iff.mp hread
  exact ⟨hread, suffix_of_mem_filesIn hp⟩

/-! ### Discovery after pages were published -/

theorem names_published (h : t.Published t') (place : Location) : (names t place).Sublist (names t' place) := by
  rw [names_eq, names_eq]
  exact h.keys.filterMap _

/-- A directory that was there holds the same descriptor files, and perhaps new directories. -/
theorem filesIn_published (h : t.Published t') (dir : Path) : (filesIn t dir).Sublist (filesIn t' dir) := by
  by_cases hdirectory : ∃ place, t.resolve dir = .ok place ∧ t.get? place = some .directory
  · obtain ⟨place, hresolve, hget⟩ := hdirectory
    rw [filesIn_of_directory hresolve hget,
      filesIn_of_directory (h.keepsDirectories.resolve hresolve) (h.keepsDirectories place hget)]
    exact (mergeSort_sublist (names_published h place)).map _
  · rw [filesIn_of_no_directory fun place hresolve hget => hdirectory ⟨place, hresolve, hget⟩]
    exact List.nil_sublist _

theorem descriptorAt?_published (h : t.Published t') {d : Descriptor} (hd : t.descriptorAt? place = some d)
    (hnot : ¬FileTree.IsPage place) : t'.descriptorAt? place = some d := by
  rw [FileTree.descriptorAt?] at hd ⊢
  split at hd
  · next hget =>
    rw [h.get?_file hget hnot]
    exact hd
  · cases hd

theorem read?_published (h : t.Published t') (hending : ".json".toList <:+ p.toList) (hread : read? t p = some f) :
    read? t' p = some f := by
  obtain ⟨hpath, place, hresolve, hd⟩ := read?_eq_some_iff.mp hread
  obtain ⟨above, name, rfl, -, hname⟩ := place_of_suffix hending (FileTree.resolve_eq_ok_iff.mp hresolve).1
  exact read?_eq_some_iff.mpr ⟨hpath, _, h.keepsDirectories.resolve hresolve,
    descriptorAt?_published h hd (not_isPage_of_suffix hname)⟩

theorem filterMap_sublist {α β : Type} {l : List α} {f g : α → Option β} (h : ∀ x ∈ l, ∀ y, f x = some y → g x = some y) :
    (l.filterMap f).Sublist (l.filterMap g) := by
  induction l with
  | nil => exact .refl _
  | cons x rest ih =>
    have hrest := ih fun z hz => h z (List.mem_cons_of_mem x hz)
    cases hf : f x with
    | none =>
      rw [List.filterMap_cons_none hf]
      cases hg : g x with
      | none => rwa [List.filterMap_cons_none hg]
      | some y =>
        rw [List.filterMap_cons_some hg]
        exact hrest.cons y
    | some y =>
      rw [List.filterMap_cons_some hf, List.filterMap_cons_some (h x List.mem_cons_self y hf)]
      exact hrest.cons_cons y

/-- Every descriptor is found again, and what is found besides comes from directories that were not there. -/
theorem discover_published (h : t.Published t') (dirs : List Path) :
    (discover t dirs).1.Sublist (discover t' dirs).1 := by
  rw [discover_fst, discover_fst]
  have hfiles : (dirs.flatMap (filesIn t)).Sublist (dirs.flatMap (filesIn t')) := by
    induction dirs with
    | nil => exact .refl _
    | cons dir rest ih =>
      rw [List.flatMap_cons, List.flatMap_cons]
      exact (filesIn_published h dir).append ih
  have hread := filterMap_sublist (l := dirs.flatMap (filesIn t)) (f := read? t) (g := read? t') fun p hp f hf => by
    obtain ⟨dir, -, hp⟩ := List.mem_flatMap.mp hp
    exact read?_published h (suffix_of_mem_filesIn hp) hf
  exact hread.trans (hfiles.filterMap _)

/-- Where the same paths are found, the same descriptors are. -/
theorem discover_eq_of_paths (h : t.Published t')
    (hpaths : (discover t' dirs).1.map (·.path) = (discover t dirs).1.map (·.path)) :
    (discover t' dirs).1 = (discover t dirs).1 := by
  have hlength := congrArg List.length hpaths
  rw [List.length_map, List.length_map] at hlength
  exact ((discover_published h dirs).eq_of_length hlength.symm).symm

/-! ### The order of discovery -/

/-- Paths stand in the order of their directories, and those below one directory in the order of their names. -/
def InOrder (dirs paths : List Path) : Prop :=
  ∃ names : Path → List String, (∀ dir, (names dir).Pairwise (· ≤ ·)) ∧
    paths.Sublist (dirs.flatMap fun dir => (names dir).map (Path.join dir))

theorem exists_names_filesIn (t : FileTree) (dir : Path) :
    ∃ names : List String, names.Pairwise (· ≤ ·) ∧ filesIn t dir = names.map (Path.join dir) := by
  by_cases hdirectory : ∃ place, t.resolve dir = .ok place ∧ t.get? place = some .directory
  · obtain ⟨place, hresolve, hget⟩ := hdirectory
    exact ⟨_, pairwise_sorted _, filesIn_of_directory hresolve hget⟩
  · exact ⟨[], .nil, filesIn_of_no_directory fun place hresolve hget => hdirectory ⟨place, hresolve, hget⟩⟩

/-- Descriptors are found directory by directory, in the order of the names of their files. -/
theorem inOrder_discover (t : FileTree) (dirs : List Path) : InOrder dirs ((discover t dirs).1.map (·.path)) := by
  choose names hsorted hfiles using exists_names_filesIn t
  refine ⟨names, hsorted, ?_⟩
  have hpaths := filterMap_sublist (l := dirs.flatMap (filesIn t)) (f := fun p => (read? t p).map (·.path)) (g := some)
    fun p _ q hq => by
      obtain ⟨f, hf, rfl⟩ := Option.map_eq_some_iff.mp hq
      rw [(read?_eq_some_iff.mp hf).1]
  rw [List.filterMap_some, ← List.map_filterMap, ← discover_fst, funext hfiles] at hpaths
  exact hpaths

theorem InOrder.sublist {dirs paths fewer : List Path} (h : InOrder dirs paths) (hfewer : fewer.Sublist paths) :
    InOrder dirs fewer := by
  obtain ⟨names, hsorted, hsublist⟩ := h
  exact ⟨names, hsorted, hfewer.trans hsublist⟩

/-- The order of the directories decides the order of discovery only. -/
theorem discover_perm {dirs dirs' : List Path} (h : dirs.Perm dirs') (t : FileTree) :
    (discover t dirs).1.Perm (discover t dirs').1 := by
  rw [discover_fst, discover_fst]
  exact (h.flatMap_right _).filterMap _

/-! ### Discovery after files were deleted -/

/-- A name right below a directory leads to the place right below the place of the directory. -/
theorem resolve_join {name : String} {q : Location} (hdir : t.resolve dir = .ok place) (hname : Path.IsName name)
    (h : t.resolve (Path.join dir name) = .ok q) : q = place ++ [name] := by
  obtain ⟨-, hempty, -, hw⟩ := FileTree.locate_eq_ok_iff.mp (FileTree.resolve_eq_ok_iff.mp hdir).1
  obtain ⟨-, -, -, hw'⟩ := FileTree.locate_eq_ok_iff.mp (FileTree.resolve_eq_ok_iff.mp h).1
  have hstart : (FileTree.start (Path.join dir name)).1 = (FileTree.start dir).1 := by
    rw [FileTree.start, FileTree.start, Path.isAbsolute_join (Path.isAbsolute_eq_false hname.slash)]
  rw [hstart, Path.segments_join hname.slash] at hw'
  obtain ⟨c, hc, hw'⟩ := FileTree.walk_append_eq_ok_iff.mp hw'
  obtain ⟨-, hw'⟩ := FileTree.walk_cons_eq_ok_iff.mp hw'
  rw [FileTree.enter, if_neg (by simp [hname.moves]), if_neg hname.down] at hw'
  cases hw'
  rw [Path.baseSegments, if_neg hempty] at hc
  split_ifs at hc with hslash
  · obtain ⟨l, -, hsegments⟩ := Path.segments_of_endsInSlash hslash
    rw [hsegments, List.dropLast_concat] at hc
    rw [hsegments] at hw
    obtain ⟨c', hc', hw⟩ := FileTree.walk_append_eq_ok_iff.mp hw
    cases hc.symm.trans hc'
    obtain ⟨-, hw⟩ := FileTree.walk_cons_eq_ok_iff.mp hw
    cases hw
    rfl
  · cases hc.symm.trans hw
    rfl

section
variable {paths : List Path}

theorem names_without (t : FileTree) (paths : List Path) (place : Location) :
    names (t.without paths) place = (names t place).filter fun name =>
      t.get? (place ++ [name]) == some .directory || !t.leadTo paths (place ++ [name]) := by
  have hkeys : (t.without paths).entries.keys = t.entries.keys.filter fun other =>
      t.get? other == some .directory || !t.leadTo paths other := by
    rw [Table.keys, Table.keys, List.filter_map]
    rfl
  rw [names_eq, hkeys, List.filterMap_filter, names_eq, List.filter_filterMap]
  refine List.filterMap_congr fun other _ => ?_
  cases hchild : FileTree.childName? place other with
  | none => simp
  | some name =>
    rw [childName?_eq_some_iff.mp hchild]
    by_cases hname : isDescriptorName name = true
    · rw [Option.filter_some, if_pos hname, Option.filter_some]
    · rw [Option.filter_some, if_neg hname, ite_self, Option.filter_none]

/-- What is read from a file that is not deleted. -/
theorem read?_without (hread : read? t p = some f) {q : Location} (hresolve : t.resolve p = .ok q) :
    read? (t.without paths) p = if t.leadTo paths q = true then none else some f := by
  obtain ⟨hpath, place, hplace, hd⟩ := read?_eq_some_iff.mp hread
  cases hresolve.symm.trans hplace
  have hresolve' := (t.fewer_without paths).sameDirectories.keeps.resolve hresolve
  have hnot : t.get? q ≠ some .directory := by
    intro hget
    rw [FileTree.descriptorAt?, hget] at hd
    cases hd
  split_ifs with hlead
  · rw [Option.eq_none_iff_forall_ne_some]
    intro f' hread'
    obtain ⟨-, place, hplace', hd'⟩ := read?_eq_some_iff.mp hread'
    cases hresolve'.symm.trans hplace'
    rw [FileTree.descriptorAt?, FileTree.get?_without, if_neg hnot, if_pos hlead] at hd'
    cases hd'
  · refine read?_eq_some_iff.mpr ⟨hpath, q, hresolve', ?_⟩
    rw [FileTree.descriptorAt?, FileTree.get?_without, if_neg hnot, if_neg hlead]
    exact hd

theorem read?_without_of_none (hread : read? t p = none) : read? (t.without paths) p = none := by
  rw [Option.eq_none_iff_forall_ne_some] at hread ⊢
  intro f hread'
  obtain ⟨hpath, place, hresolve', hd'⟩ := read?_eq_some_iff.mp hread'
  refine hread f (read?_eq_some_iff.mpr ⟨hpath, place, ?_, ?_⟩)
  · exact (t.fewer_without paths).sameDirectories.resolve_iff.mp hresolve'
  · rw [FileTree.descriptorAt?] at hd' ⊢
    rcases t.fewer_without paths place with heq | ⟨content, mode, -, hnone⟩
    · rw [heq] at hd'
      exact hd'
    · rw [hnone] at hd'
      cases hd'

/-- Files that are deleted do not keep the others in their directory from being found. -/
theorem filesIn_without {keep : FoundDescriptor → Bool} (hpaths : ∀ p ∈ paths, ".json".toList <:+ p.toList)
    (hkeep : ∀ f ∈ (filesIn t dir).filterMap (read? t), ∀ place, t.resolve f.path = .ok place →
      (keep f = false ↔ t.leadTo paths place = true)) :
    (filesIn (t.without paths) dir).filterMap (read? (t.without paths)) =
      ((filesIn t dir).filterMap (read? t)).filter keep := by
  have hsame := (t.fewer_without paths).sameDirectories
  by_cases hdirectory : ∃ place, t.resolve dir = .ok place ∧ t.get? place = some .directory
  · obtain ⟨place, hresolve, hget⟩ := hdirectory
    rw [filesIn_of_directory hresolve hget] at hkeep ⊢
    rw [filesIn_of_directory (hsame.resolve_iff.mpr hresolve) ((hsame place).mpr hget), names_without, mergeSort_filter,
      List.filterMap_map, List.filterMap_map, List.filterMap_filter, List.filter_filterMap]
    refine List.filterMap_congr fun name hname => ?_
    rw [Function.comp_apply, Function.comp_apply]
    cases hread : read? t (Path.join dir name) with
    | none => rw [read?_without_of_none hread, ite_self, Option.filter_none]
    | some f =>
      obtain ⟨hpath, q, hq, -⟩ := read?_eq_some_iff.mp hread
      have hiff := hkeep f (List.mem_filterMap.mpr ⟨_, List.mem_map_of_mem hname, hread⟩) q (by rw [hpath, hq])
      rw [read?_without hread hq, Option.filter_some]
      by_cases hlead : t.leadTo paths q = true
      · rw [if_pos hlead, hiff.mpr hlead, ite_self, if_neg Bool.false_ne_true]
      · have hkeep' : keep f = true := by
          by_contra hnot
          exact hlead (hiff.mp (Bool.eq_false_iff.mpr hnot))
        -- the entry of the file is not deleted either, because the path of the file leads nowhere else
        refine (if_pos ?_).trans ((if_neg hlead).trans (if_pos hkeep').symm)
        rw [Bool.or_eq_true, Bool.not_eq_true']
        refine .inr (Bool.eq_false_iff.mpr fun hentry => hlead ?_)
        obtain ⟨p, hp, hresolve'⟩ := FileTree.leadTo_iff.mp hentry
        obtain ⟨above, last, heq, hslash, hending⟩ :=
          place_of_suffix (hpaths p hp) (FileTree.resolve_eq_ok_iff.mp hresolve').1
        obtain ⟨-, heq⟩ := List.append_inj' heq rfl
        cases heq
        rw [resolve_join hresolve (Path.isName_of_suffix hending (by decide) hslash) hq]
        exact hentry
  · have hnone : ∀ place, t.resolve dir = .ok place → t.get? place ≠ some .directory :=
      fun place hresolve hget => hdirectory ⟨place, hresolve, hget⟩
    rw [filesIn_of_no_directory hnone, filesIn_of_no_directory fun place hresolve hget =>
      hnone place (hsame.resolve_iff.mp hresolve) ((hsame place).mp hget)]
    rfl

theorem discover_without {keep : FoundDescriptor → Bool} (hpaths : ∀ p ∈ paths, ".json".toList <:+ p.toList)
    (hkeep : ∀ f ∈ (discover t dirs).1, ∀ place, t.resolve f.path = .ok place →
      (keep f = false ↔ t.leadTo paths place = true)) :
    (discover (t.without paths) dirs).1 = (discover t dirs).1.filter keep := by
  rw [discover_fst] at hkeep
  rw [discover_fst, discover_fst, List.filterMap_flatMap, List.filterMap_flatMap, List.filter_flatMap]
  refine List.flatMap_congr fun dir hdir => filesIn_without hpaths fun f hf => hkeep f ?_
  rw [List.filterMap_flatMap]
  exact List.mem_flatMap.mpr ⟨dir, hdir, hf⟩

end

end

end Discovery

end ToolPlugins
