import Mathlib
import ToolPlugins.Artifact.Export
import ToolPlugins.Proofs.FileTree.Walk
import ToolPlugins.Proofs.Table

/-!
What creating directories and writing files change, place by place. The place that a path leads to is known from the
path alone; what can change is whether it leads there.
-/

namespace ToolPlugins

namespace FileTree

/-- The place that a path leads to, if it leads anywhere. -/
def placeOf (p : Path) : Location := p.segments.foldl enter (start p).1

/-- The mode of the file at a place, be it there or created. -/
def modeAt (t : FileTree) (place : Location) : Nat :=
  match t.get? place with
  | some (.file _ mode) => mode
  | _ => newFileMode

/-- The content of the file at a place, if there is one. -/
def contentAt (t : FileTree) (place : Location) : Option Content :=
  match t.get? place with
  | some (.file content _) => some content
  | _ => none

/-- Nothing but directories is added, and only in some places. -/
def AddsDirectories (t t' : FileTree) (places : List Location) : Prop :=
  ∀ q, t'.get? q = t.get? q ∨ q ∈ places ∧ t.get? q = none ∧ t'.get? q = some .directory

/-- The second tree has directories and files in the places that are given for them, and is the first one in all other
    places. No file becomes a directory, and no directory a file. -/
structure Gains (t t' : FileTree) (dirs : List Location) (files : List (Location × Content)) : Prop where
  file : ∀ q content, (q, content) ∈ files →
    t.get? q ≠ some .directory ∧ t'.get? q = some (.file content (t.modeAt q))
  directory : ∀ q ∈ dirs, (t.get? q = none ∨ t.get? q = some .directory) ∧ t'.get? q = some .directory
  other : ∀ q, q ∉ dirs → q ∉ files.map Prod.fst → t'.get? q = t.get? q

section
variable {t t' t'' : FileTree} {p above base : Path} {place q : Location} {names : List String} {name : String}

/-! ### Where paths lead -/

theorem eq_foldl_of_walk (h : t.walk place names = .ok q) : q = names.foldl enter place := by
  induction names generalizing place with
  | nil =>
    cases h
    rfl
  | cons name rest ih => exact ih (walk_cons_eq_ok_iff.mp h).2

theorem eq_placeOf_of_locate (h : t.locate p = .ok place) : place = placeOf p :=
  eq_foldl_of_walk (locate_eq_ok_iff.mp h).2.2.2

theorem foldl_enter_baseSegments (base : Path) (place : Location) :
    (Path.baseSegments base).foldl enter place = base.segments.foldl enter place := by
  rw [Path.baseSegments]
  split_ifs with hempty hslash
  · subst hempty
    rfl
  · obtain ⟨l, -, hsegments⟩ := Path.segments_of_endsInSlash hslash
    rw [hsegments, List.dropLast_concat, List.foldl_append]
    rfl
  · rfl

theorem start_join (h : '/' ∉ name.toList) : (start (Path.join base name)).1 = (start base).1 := by
  rw [start, start, Path.isAbsolute_join (Path.isAbsolute_eq_false h)]

theorem placeOf_join (h : '/' ∉ name.toList) : placeOf (Path.join base name) = enter (placeOf base) name := by
  rw [placeOf, Path.segments_join h, List.foldl_append, foldl_enter_baseSegments, start_join h]
  rfl

theorem placeOf_join_of_isName (h : Path.IsName name) : placeOf (Path.join base name) = placeOf base ++ [name] := by
  rw [placeOf_join h.slash, enter, if_neg (by simp [h.moves]), if_neg h.down]

theorem placeOf_foldl_join (h : ∀ name ∈ names, Path.IsName name) :
    placeOf (names.foldl Path.join base) = placeOf base ++ names := by
  induction names generalizing base with
  | nil => rw [List.foldl_nil, List.append_nil]
  | cons name rest ih =>
    obtain ⟨hname, hrest⟩ := List.forall_mem_cons.mp h
    rw [List.foldl_cons, ih hrest, placeOf_join_of_isName hname, List.append_assoc, List.singleton_append]

/-! ### Directories -/

theorem AddsDirectories.refl (t : FileTree) (places : List Location) : t.AddsDirectories t places := fun _ => .inl rfl

theorem AddsDirectories.trans {places : List Location} (h : t.AddsDirectories t' places)
    (h' : t'.AddsDirectories t'' places) : t.AddsDirectories t'' places := by
  intro q
  rcases h' q with heq | ⟨hmem, hnone, hdir⟩
  · rw [heq]
    exact h q
  · rcases h q with heq | ⟨-, -, hdir'⟩
    · rw [heq] at hnone
      exact .inr ⟨hmem, hnone, hdir⟩
    · rw [hnone] at hdir'
      cases hdir'

theorem AddsDirectories.contentAt {places : List Location} (h : t.AddsDirectories t' places) (q : Location) :
    t'.contentAt q = t.contentAt q := by
  rw [FileTree.contentAt, FileTree.contentAt]
  rcases h q with heq | ⟨-, hnone, hdir⟩
  · rw [heq]
  · rw [hnone, hdir]

theorem AddsDirectories.keepsDirectories {places : List Location} (h : t.AddsDirectories t' places) :
    t.KeepsDirectories t' := by
  intro q hq
  rcases h q with heq | ⟨-, hnone, -⟩
  · rw [heq, hq]
  · cases hq.symm.trans hnone

theorem AddsDirectories.get?_eq {places : List Location} (h : t.AddsDirectories t' places) (hq : q ∉ places) :
    t'.get? q = t.get? q :=
  (h q).resolve_right fun h => hq h.1

theorem addsDirectories_set (hnone : t.get? place = none) {places : List Location} (hmem : place ∈ places) :
    t.AddsDirectories (t.set place .directory) places := by
  intro q
  rw [get?_set]
  split_ifs with hlength heq
  · rw [get?, if_pos hlength]
    exact .inl rfl
  · subst heq
    exact .inr ⟨hmem, hnone, rfl⟩
  · exact .inl rfl

theorem AddsDirectories.mono {places more : List Location} (h : t.AddsDirectories t' places) (hmore : places ⊆ more) :
    t.AddsDirectories t' more := by
  intro q
  rcases h q with heq | ⟨hmem, hrest⟩
  · exact .inl heq
  · exact .inr ⟨hmore hmem, hrest⟩

theorem addsDirectories_makeAlong (t : FileTree) (paths : List Path) :
    t.AddsDirectories (t.makeAlong paths).2 (paths.map placeOf) := by
  induction paths generalizing t with
  | nil => exact .refl t _
  | cons p above ih =>
    have hrest : t.AddsDirectories (t.makeAlong above).2 ((p :: above).map placeOf) :=
      (ih t).mono (List.subset_cons_self _ _)
    obtain ⟨-, e, u, habove, hout⟩ | ⟨u, hu, hends⟩ := makeAlong_cons t p above
    · rw [hout]
      rwa [habove] at hrest
    · have hfirst : t.AddsDirectories u ((p :: above).map placeOf) := by
        obtain ⟨rfl, -⟩ | ⟨-, habove⟩ := hu
        · exact .refl u _
        · rwa [habove] at hrest
      obtain ⟨u', hmade, hout⟩ | ⟨-, hout⟩ | ⟨_, -, -, hout⟩ := hends
      · obtain ⟨place, hl, hnone, rfl⟩ := makeDirectory_eq_ok_iff.mp hmade
        rw [hout]
        refine hfirst.trans (addsDirectories_set hnone ?_)
        rw [eq_placeOf_of_locate hl]
        exact List.mem_cons_self
      · rw [hout]
        exact hfirst
      · rw [hout]
        exact hfirst

theorem addsDirectories_makeDirectories {made : Except FileError Unit} (h : t.makeDirectories p = (made, t')) :
    t.AddsDirectories t' (p.upward.map placeOf) := by
  have hadds := addsDirectories_makeAlong t p.upward
  rwa [← makeDirectories, h] at hadds

/-- Where a path leads to a directory, so do the paths that it stands in. -/
theorem isDirectory_of_climbs {paths : List Path} (hc : Climbs (p :: paths)) (h : t.isDirectory p = true) :
    ∀ q ∈ p :: paths, t.isDirectory q = true := by
  induction paths generalizing p with
  | nil => simpa using h
  | cons above paths ih =>
    obtain ⟨⟨hparent, hne⟩, hrest⟩ := List.isChain_cons_cons.mp hc
    obtain ⟨place, hl, -⟩ := isDirectory_iff.mp h
    exact List.forall_mem_cons.mpr ⟨h, ih hrest (isDirectory_of_parent? hparent hne hl)⟩

theorem gains_makeDirectories (h : t.makeDirectories p = (.ok (), t')) : t.Gains t' (p.upward.map placeOf) [] := by
  have hadds := addsDirectories_makeDirectories h
  have hall : ∀ q ∈ p.upward, t'.isDirectory q = true := by
    have hc := climbs_upwardFrom p p.segments.length
    rw [← Path.upward] at hc
    rw [makeDirectories] at h
    cases hpaths : p.upward with
    | nil => exact List.forall_mem_nil _
    | cons first above =>
      rw [hpaths] at h hc
      exact isDirectory_of_climbs hc (isDirectory_of_makeAlong h)
  constructor
  · intro q content hmem
    cases hmem
  · intro q hq
    obtain ⟨path, hpath, rfl⟩ := List.mem_map.mp hq
    obtain ⟨place, hl, hdir⟩ := isDirectory_iff.mp (hall path hpath)
    rw [← eq_placeOf_of_locate hl]
    refine ⟨?_, hdir⟩
    rcases hadds place with heq | ⟨-, hnone, -⟩
    · exact .inr (heq ▸ hdir)
    · exact .inl hnone
  · intro q hq _
    exact (hadds q).resolve_right fun h => hq h.1

/-! ### Files -/

theorem write_eq_ok_iff {content : Content} :
    t.write p content = .ok t' ↔ p.endsInSlash = false ∧ ∃ place, t.locate p = .ok place ∧
      t.get? place ≠ some .directory ∧ t' = t.set place (.file content (t.modeAt place)) := by
  rw [write]
  constructor
  · intro h
    split at h
    · cases h
    · next place hresolve =>
      obtain ⟨hl, hslash⟩ := resolve_eq_ok_iff.mp hresolve
      have hget : t.get? place ≠ some .directory ∧ t' = t.set place (.file content (t.modeAt place)) := by
        split at h
        · cases h
        · next hget =>
          cases h
          rw [modeAt, hget]
          simp
        · next hget =>
          cases h
          rw [modeAt, hget]
          simp
      refine ⟨Bool.eq_false_iff.mpr fun hs => hget.1 (hslash hs), place, hl, hget⟩
  · rintro ⟨hslash, place, hl, hget, rfl⟩
    have hresolve : t.resolve p = .ok place := resolve_eq_ok_iff.mpr ⟨hl, fun hs => by rw [hslash] at hs; cases hs⟩
    rw [hresolve]
    dsimp only
    cases hentry : t.get? place with
    | none => rw [modeAt, hentry]
    | some entry =>
      cases entry with
      | file old mode => rw [modeAt, hentry]
      | directory => exact absurd hentry hget

theorem get?_set_of_not_directory (hget : t.get? place ≠ some .directory) (entry : Entry) (q : Location) :
    (t.set place entry).get? q = if q = place then some entry else t.get? q := by
  have hplace : ¬place.length ≤ 1 := fun hle => hget (if_pos hle)
  rw [get?_set]
  split_ifs with hlength heq heq
  · exact absurd (heq ▸ hlength) hplace
  · rw [get?, if_pos hlength]
  · rfl
  · rfl

theorem contentAt_set (hget : t.get? place ≠ some .directory) (content : Content) (mode : Nat) (q : Location) :
    (t.set place (.file content mode)).contentAt q = if q = place then some content else t.contentAt q := by
  rw [contentAt, get?_set_of_not_directory hget]
  split_ifs
  · rfl
  · rfl

theorem readText_of_get? {s : String} {mode : Nat} (h : t.resolve p = .ok place)
    (hget : t.get? place = some (.file (.text s) mode)) : t.readText p = .ok s := by
  rw [readText, h]
  simp only [bind, Except.bind, hget]

theorem gains_set (hget : t.get? place ≠ some .directory) (content : Content) :
    t.Gains (t.set place (.file content (t.modeAt place))) [] [(place, content)] := by
  constructor
  · intro q content' hmem
    cases List.mem_singleton.mp hmem
    rw [get?_set_of_not_directory hget, if_pos rfl]
    exact ⟨hget, rfl⟩
  · exact List.forall_mem_nil _
  · intro q _ hq
    rw [get?_set_of_not_directory hget, if_neg fun heq => hq (List.mem_singleton.mpr heq)]

/-! ### One change after another -/

theorem Gains.refl (t : FileTree) : t.Gains t [] [] := by
  constructor
  · intro q content hmem
    cases hmem
  · exact List.forall_mem_nil _
  · intro q _ _
    rfl

theorem Gains.keepsDirectories {dirs : List Location} {files : List (Location × Content)} (h : t.Gains t' dirs files) :
    t.KeepsDirectories t' := by
  intro q hq
  by_cases hdir : q ∈ dirs
  · exact (h.directory q hdir).2
  · by_cases hfile : q ∈ files.map Prod.fst
    · obtain ⟨⟨_, content⟩, hmem, rfl⟩ := List.mem_map.mp hfile
      exact absurd hq (h.file _ content hmem).1
    · rw [h.other q hdir hfile, hq]

theorem modeAt_congr (h : t'.get? q = t.get? q) : t'.modeAt q = t.modeAt q := by
  rw [modeAt, modeAt, h]

/-- Two changes that write no file twice are one. -/
theorem Gains.trans {dirs dirs' : List Location} {files files' : List (Location × Content)}
    (h : t.Gains t' dirs files) (h' : t'.Gains t'' dirs' files')
    (hfiles : ∀ q ∈ files.map Prod.fst, q ∉ files'.map Prod.fst) : t.Gains t'' (dirs ++ dirs') (files ++ files') := by
  -- where there is a file after the first change, the second one cannot create a directory
  have hkept : ∀ q content, (q, content) ∈ files → q ∉ dirs' := by
    intro q content hmem hdir
    have hfile := (h.file q content hmem).2
    rcases (h'.directory q hdir).1 with hget | hget
    · rw [hfile] at hget
      cases hget
    · rw [hfile] at hget
      cases hget
  constructor
  · intro q content hmem
    rcases List.mem_append.mp hmem with hmem | hmem
    · obtain ⟨hget, hfile⟩ := h.file q content hmem
      refine ⟨hget, ?_⟩
      rw [h'.other q (hkept q content hmem) (hfiles q (List.mem_map_of_mem hmem)), hfile]
    · obtain ⟨hget, hfile⟩ := h'.file q content hmem
      have hdir : q ∉ dirs := fun hq => hget (h.directory q hq).2
      have hnew : q ∉ files.map Prod.fst := fun hq => hfiles q hq (List.mem_map_of_mem hmem)
      have hsame := h.other q hdir hnew
      rw [hsame] at hget
      exact ⟨hget, by rw [hfile, modeAt_congr hsame]⟩
  · intro q hq
    by_cases hdir : q ∈ dirs
    · exact ⟨(h.directory q hdir).1, h'.keepsDirectories q (h.directory q hdir).2⟩
    · have hdir' := (List.mem_append.mp hq).resolve_left hdir
      have hnew : q ∉ files.map Prod.fst := by
        intro hmem
        obtain ⟨⟨_, content⟩, hx, rfl⟩ := List.mem_map.mp hmem
        exact hkept _ content hx hdir'
      rw [← h.other q hdir hnew]
      exact h'.directory q hdir'
  · intro q hdir hfile
    rw [List.mem_append, not_or] at hdir
    rw [List.map_append, List.mem_append, not_or] at hfile
    rw [h'.other q hdir.2 hfile.2, h.other q hdir.1 hfile.1]

/-- A change is known from the places and the files, in whatever order they are. -/
theorem Gains.get?_eq {dirs dirs' : List Location} {files files' : List (Location × Content)}
    (h : t.Gains t' dirs files) (h' : t.Gains t'' dirs' files') (hdirs : ∀ q, q ∈ dirs ↔ q ∈ dirs')
    (hfiles : ∀ x, x ∈ files ↔ x ∈ files') (q : Location) : t'.get? q = t''.get? q := by
  by_cases hdir : q ∈ dirs
  · rw [(h.directory q hdir).2, (h'.directory q ((hdirs q).mp hdir)).2]
  · by_cases hfile : q ∈ files.map Prod.fst
    · obtain ⟨⟨_, content⟩, hmem, rfl⟩ := List.mem_map.mp hfile
      rw [(h.file _ content hmem).2, (h'.file _ content ((hfiles _).mp hmem)).2]
    · have hfile' : q ∉ files'.map Prod.fst := by
        intro hmem
        obtain ⟨x, hx, rfl⟩ := List.mem_map.mp hmem
        exact hfile (List.mem_map_of_mem ((hfiles x).mpr hx))
      rw [h.other q hdir hfile, h'.other q (fun hq => hdir ((hdirs q).mpr hq)) hfile']

/-! ### A file with its directories -/

/-- The places of the directories that a file needs. -/
def parentPlaces (p : Path) : List Location :=
  match p.parent? with
  | some parent => parent.upward.map placeOf
  | none => []

/-- A file stands at a path, so that writing it again changes nothing. -/
structure Holds (t : FileTree) (p : Path) (content : Content) : Prop where
  slash : p.endsInSlash = false
  locate : t.locate p = .ok (placeOf p)
  file : ∃ mode, t.get? (placeOf p) = some (.file content mode)
  parent : ∀ parent, p.parent? = some parent → t.makeDirectories parent = (.ok (), t)

theorem publish_of_parent? {content : Content} (hparent : p.parent? = some above) :
    t.publish p content = match t.makeDirectories above with
      | (.error e, u) => (.error (above, e), u)
      | (.ok (), u) => match u.write p content with
        | .error e => (.error (p, e), u)
        | .ok v => (.ok (), v) := by
  rw [publish, hparent]
  dsimp only
  generalize t.makeDirectories above = out
  obtain ⟨made, u⟩ := out
  cases made with
  | error e => rfl
  | ok _ => rfl

/-- A file is published in two steps: the directories first, and then the file itself. -/
theorem publish_eq_ok_iff {content : Content} (hparent : p.parent? = some above) :
    t.publish p content = (.ok (), t') ↔ ∃ u, t.makeDirectories above = (.ok (), u) ∧ u.write p content = .ok t' := by
  rw [publish_of_parent? hparent]
  generalize t.makeDirectories above = out
  obtain ⟨e | _, u⟩ := out
  · simp
  · dsimp only
    cases hwrite : u.write p content with
    | error e => simp [hwrite]
    | ok v => simp [hwrite]

/-- What a file that could be published changes, and that it is there then. -/
theorem gains_publish {content : Content} (h : t.publish p content = (.ok (), t')) :
    t.Gains t' (parentPlaces p) [(placeOf p, content)] ∧ t'.Holds p content := by
  have hwritten : ∃ u, t.Gains u (parentPlaces p) [] ∧ u.write p content = .ok t' ∧
      ∀ parent, p.parent? = some parent → t.makeDirectories parent = (.ok (), u) := by
    rw [parentPlaces]
    cases hparent : p.parent? with
    | none =>
      rw [publish, hparent] at h
      dsimp only at h
      split at h
      · cases h
      · next u hwrite =>
        cases h
        exact ⟨t, .refl t, hwrite, by rintro _ ⟨⟩⟩
    | some parent =>
      obtain ⟨u, hmade, hwrite⟩ := (publish_eq_ok_iff hparent).mp h
      refine ⟨u, gains_makeDirectories hmade, hwrite, ?_⟩
      rintro _ ⟨⟩
      exact hmade
  obtain ⟨u, hdirs, hwrite, hparents⟩ := hwritten
  obtain ⟨hslash, place, hl, hget, rfl⟩ := write_eq_ok_iff.mp hwrite
  obtain rfl := eq_placeOf_of_locate hl
  have hset := gains_set hget content
  have hgains := hdirs.trans hset (List.forall_mem_nil _)
  rw [List.append_nil, List.nil_append] at hgains
  refine ⟨hgains, hslash, hset.keepsDirectories.locate hl, ?_, ?_⟩
  · exact ⟨_, (hset.file _ content (List.mem_singleton_self _)).2⟩
  · intro parent hparent
    exact makeAlong_again_of_ok (hparents parent hparent) hset.keepsDirectories

theorem Holds.readText {s : String} (h : t.Holds p (.text s)) : t.readText p = .ok s := by
  obtain ⟨mode, hfile⟩ := h.file
  have hresolve : t.resolve p = .ok (placeOf p) :=
    resolve_eq_ok_iff.mpr ⟨h.locate, fun hs => by rw [h.slash] at hs; cases hs⟩
  exact readText_of_get? hresolve hfile

/-- Publishing a file that is there already changes nothing. -/
theorem Holds.publish {content : Content} (h : t.Holds p content) : t.publish p content = (.ok (), t) := by
  obtain ⟨mode, hfile⟩ := h.file
  have hlength : ¬(placeOf p).length ≤ 1 := by
    intro hle
    rw [get?, if_pos hle] at hfile
    cases hfile
  have hsame : t.set (placeOf p) (.file content (t.modeAt (placeOf p))) = t := by
    rw [modeAt, hfile]
    rw [get?, if_neg hlength] at hfile
    exact congrArg FileTree.mk (Table.insert_of_get? hfile)
  have hwrite : t.write p content = .ok t :=
    write_eq_ok_iff.mpr ⟨h.slash, _, h.locate, by rw [hfile]; simp, hsame.symm⟩
  rw [FileTree.publish]
  cases hparent : p.parent? with
  | none => simp only [hwrite]
  | some parent => simp only [h.parent parent hparent, Except.mapError, hwrite]

/-- A file is there still after a change that does not write it. -/
theorem Gains.holds {dirs : List Location} {files : List (Location × Content)} (h : t.Gains t' dirs files)
    {content : Content} (hp : t.Holds p content) (hnew : placeOf p ∉ files.map Prod.fst) : t'.Holds p content := by
  obtain ⟨mode, hfile⟩ := hp.file
  have hdir : placeOf p ∉ dirs := by
    intro hq
    rcases (h.directory _ hq).1 with hget | hget
    · rw [hfile] at hget
      cases hget
    · rw [hfile] at hget
      cases hget
  refine ⟨hp.slash, h.keepsDirectories.locate hp.locate, ⟨mode, (h.other _ hdir hnew).trans hfile⟩, ?_⟩
  intro parent hparent
  exact makeAlong_again_of_ok (hp.parent parent hparent) h.keepsDirectories

/-! ### Files one after the other -/

theorem publishAll_cons_eq_ok {file : Path × Content} {files : List (Path × Content)}
    (h : t.publishAll (file :: files) = (.ok (), t')) :
    ∃ u, t.publish file.1 file.2 = (.ok (), u) ∧ u.publishAll files = (.ok (), t') := by
  rw [publishAll] at h
  split at h
  · cases h
  · next u hpublish => exact ⟨u, hpublish, h⟩

/-- Files in places of their own that could be published are all there then. -/
theorem gains_publishAll {files : List (Path × Content)} (hplaces : (files.map fun file => placeOf file.1).Nodup)
    (h : t.publishAll files = (.ok (), t')) :
    t.Gains t' (files.flatMap fun file => parentPlaces file.1) (files.map fun file => (placeOf file.1, file.2)) ∧
      ∀ file ∈ files, t'.Holds file.1 file.2 := by
  induction files generalizing t with
  | nil =>
    cases h
    exact ⟨.refl _, List.forall_mem_nil _⟩
  | cons file files ih =>
    rw [List.map_cons, List.nodup_cons] at hplaces
    obtain ⟨u, hpublish, hmore⟩ := publishAll_cons_eq_ok h
    obtain ⟨hfirst, hholds⟩ := gains_publish hpublish
    obtain ⟨hrest, hall⟩ := ih hplaces.2 hmore
    have hapart : placeOf file.1 ∉ (files.map fun file => (placeOf file.1, file.2)).map Prod.fst := by
      rw [List.map_map]
      exact hplaces.1
    refine ⟨hfirst.trans hrest (List.forall_mem_singleton.mpr hapart), List.forall_mem_cons.mpr ⟨?_, hall⟩⟩
    exact hrest.holds hholds hapart

/-- Publishing files that are there already changes nothing. -/
theorem publishAll_of_holds {files : List (Path × Content)} (h : ∀ file ∈ files, t.Holds file.1 file.2) :
    t.publishAll files = (.ok (), t) := by
  induction files with
  | nil => rfl
  | cons file files ih =>
    obtain ⟨hfile, hfiles⟩ := List.forall_mem_cons.mp h
    rw [publishAll, hfile.publish]
    exact ih hfiles

end

end FileTree

end ToolPlugins
