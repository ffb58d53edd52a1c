import Mathlib
import ToolPlugins.Proofs.Artifact.Exports
import ToolPlugins.Proofs.FileTree.Publishing

/-!
Exports that fail. The artifacts before the one that failed are in their files, the files of the later ones and all others
are as they were, and the failure names the path that stood in the way. What was exported before is never the reason: under
a canonical identifier, no artifact is on the way of another. Only under other identifiers can two artifacts be in one file,
and these two are the definitions of the two sides. Nothing is said of the file of the artifact that failed.
-/

namespace ToolPlugins

/-- The kinds of the artifacts that are exported before one of the given kind. -/
def ArtifactKind.before (kind : ArtifactKind) : List ArtifactKind := all.takeWhile (· != kind)

/-- What the name of the file of an artifact ends in, whatever the identifier is. -/
def ArtifactKind.ending : ArtifactKind → String
  | clientDefinition => ".task"
  | workerDefinition => ".task"
  | paramsTemplate => "_task_params.html"
  | showTemplate => "_show_params.html"
  | helpTemplate => "edit_params_help.html"

/-- The artifacts of some kinds with the paths that they are written to. -/
def Artifacts.filesOf (a : Artifacts) (identifier : String) (base : Path) (kinds : List ArtifactKind) :
    List (Path × Content) :=
  kinds.map fun kind => (exportFile identifier base kind, .text (a.body kind))

/-- Both definitions of a plugin are in one file. -/
def Artifacts.SharesFile (identifier : String) (base : Path) : Prop :=
  FileTree.placeOf (exportFile identifier base .clientDefinition) =
    FileTree.placeOf (exportFile identifier base .workerDefinition)

/-- What an export leaves that failed at an artifact: it turned the first tree into the second. -/
structure Artifacts.FailsAt (a : Artifacts) (identifier : String) (base : Path) (t : FileTree) (kind : ArtifactKind)
    (failure : Failure) (t' : FileTree) : Prop where
  /-- The artifacts before it can be read back, but for a client definition that is in one file with the worker definition. -/
  written : ∀ earlier ∈ kind.before, t'.readText (exportFile identifier base earlier) = .ok (a.body earlier) ∨
    earlier = .clientDefinition ∧ SharesFile identifier base
  /-- In other places than its own and those of the artifacts before it, nothing is changed but that directories are added. -/
  kept : ∀ q, (∀ earlier ∈ kind.before, q ≠ FileTree.placeOf (exportFile identifier base earlier)) →
    q ≠ FileTree.placeOf (exportFile identifier base kind) →
    t'.get? q = t.get? q ∨ t.get? q = none ∧ t'.get? q = some .directory
  /-- The files of later artifacts are in such other places. -/
  later : ∀ later, later ≠ kind → later ∉ kind.before →
    (∀ earlier ∈ kind.before,
      FileTree.placeOf (exportFile identifier base later) ≠ FileTree.placeOf (exportFile identifier base earlier)) ∧
    (FileTree.placeOf (exportFile identifier base later) ≠ FileTree.placeOf (exportFile identifier base kind) ∨
      SharesFile identifier base)
  /-- After the artifacts before it, its directory could not be created, or its file not written. -/
  cause : ∃ u v parent e, t.publishAll (a.filesOf identifier base kind.before) = (.ok (), u) ∧
    (exportFile identifier base kind).parent? = some parent ∧
      (u.makeDirectories parent = (.error e, v) ∧ failure = .exportFile parent e ∨
        u.makeDirectories parent = (.ok (), v) ∧
          v.write (exportFile identifier base kind) (.text (a.body kind)) = .error e ∧
            failure = .exportFile (exportFile identifier base kind) e)
  separate : Identifier.isCanonical identifier = true → ¬SharesFile identifier base
  /-- Where the base can be created and there is nothing in the directory of the plugin, it could not have been exported
      without the artifacts before it either. -/
  alone : Identifier.isCanonical identifier = true → ∀ v, t.makeDirectories base = (.ok (), v) →
    (∀ names, v.get? (FileTree.placeOf (exportRoot identifier base) ++ names) = none) →
      ∀ w, t.publish (exportFile identifier base kind) (.text (a.body kind)) ≠ (.ok (), w)

namespace ArtifactKind

theorem eq_before_of_append {done rest : List ArtifactKind} {kind : ArtifactKind} (h : all = done ++ kind :: rest) :
    done = kind.before := by
  have hnodup : (done ++ kind :: rest).Nodup := h ▸ (by decide : all.Nodup)
  have hnew : ∀ earlier ∈ done, (earlier != kind) = true := by
    rintro earlier hearlier
    rw [bne_iff_ne]
    rintro rfl
    exact List.disjoint_of_nodup_append hnodup hearlier List.mem_cons_self
  rw [before, h, List.takeWhile_append_of_pos hnew, List.takeWhile_cons_of_neg (by simp), List.append_nil]

theorem not_mem_before (kind : ArtifactKind) : kind ∉ kind.before := by
  cases kind <;> decide

/-- The client definition comes before the worker definition. -/
theorem pairwise_before (kind : ArtifactKind) :
    kind.before.Pairwise fun first second => ¬(first = workerDefinition ∧ second = clientDefinition) := by
  cases kind <;> decide

theorem names_ne_nil (kind : ArtifactKind) (fileName : String) : kind.names fileName ≠ [] := by
  cases kind <;> simp [names]

/-- The directories of one artifact do not lead to the file of another. -/
theorem not_names_prefix (kind kind' : ArtifactKind) (fileName : String) :
    ¬kind.names fileName <+: (kind'.names fileName).dropLast := by
  cases kind <;> cases kind' <;> simp [names]

/-- The ending tells the kind of an artifact, but not the side of a definition. -/
theorem eq_or_definitions {kind kind' : ArtifactKind} {name : List Char} (h : kind.ending.toList <:+ name)
    (h' : kind'.ending.toList <:+ name) :
    kind = kind' ∨ kind = clientDefinition ∧ kind' = workerDefinition ∨
      kind = workerDefinition ∧ kind' = clientDefinition := by
  have hends := List.suffix_or_suffix_of_suffix h h'
  clear h h'
  revert hends
  cases kind <;> cases kind' <;> decide

end ArtifactKind

namespace Artifacts
open FileTree

section
variable {a : Artifacts} {identifier : String} {base : Path} {kind kind' : ArtifactKind} {t t' u : FileTree} {q : Location}

/-! ### Files and their endings -/

theorem ending_suffix_exportFile (identifier : String) (base : Path) (kind : ArtifactKind) :
    kind.ending.toList <:+ (exportFile identifier base kind).toList := by
  have hpath : kind.ending.toList <:+ (kind.exportPath (Identifier.snakeCase identifier)).toList := by
    have htask : ".task".toList <:+ (Identifier.snakeCase identifier ++ ".task").toList := by
      rw [String.toList_append]
      exact List.suffix_append _ _
    cases kind with
    | clientDefinition => exact htask.trans (Path.toList_suffix_join "client" _)
    | workerDefinition => exact htask.trans (Path.toList_suffix_join "worker" _)
    | paramsTemplate => exact Path.toList_suffix_join "views" _
    | showTemplate => exact Path.toList_suffix_join "views" _
    | helpTemplate => exact Path.toList_suffix_join _ _
  exact hpath.trans (Path.toList_suffix_join _ _)

theorem exists_last_segment_exportFile (identifier : String) (base : Path) (kind : ArtifactKind) :
    ∃ front name, (exportFile identifier base kind).segments = front ++ [name] ∧ Path.IsName name ∧
      kind.ending.toList <:+ name.toList := by
  obtain ⟨front, name, hsegments, hending⟩ :=
    Path.exists_last_segment (ending_suffix_exportFile identifier base kind) (by cases kind <;> decide)
  have hslash := Path.slash_not_mem_segments name (hsegments ▸ List.mem_append_right _ (List.mem_singleton_self name))
  exact ⟨front, name, hsegments, Path.isName_of_suffix hending (by cases kind <;> decide) hslash, hending⟩

theorem endsInName_exportFile (identifier : String) (base : Path) (kind : ArtifactKind) :
    (exportFile identifier base kind).EndsInName := by
  obtain ⟨front, name, hsegments, hname, -⟩ := exists_last_segment_exportFile identifier base kind
  exact ⟨front, name, hsegments, hname.moves⟩

theorem exists_placeOf_exportFile (identifier : String) (base : Path) (kind : ArtifactKind) :
    ∃ above name, placeOf (exportFile identifier base kind) = above ++ [name] ∧ kind.ending.toList <:+ name.toList := by
  obtain ⟨front, name, hsegments, hname, hending⟩ := exists_last_segment_exportFile identifier base kind
  refine ⟨front.foldl enter (start (exportFile identifier base kind)).1, name, ?_, hending⟩
  rw [placeOf, hsegments, List.foldl_concat, enter, if_neg (by simp [hname.moves]), if_neg hname.down]

/-- Whatever the identifier is, only the two definitions can be in one file. -/
theorem eq_or_definitions_of_placeOf
    (h : placeOf (exportFile identifier base kind) = placeOf (exportFile identifier base kind')) :
    kind = kind' ∨ kind = .clientDefinition ∧ kind' = .workerDefinition ∨
      kind = .workerDefinition ∧ kind' = .clientDefinition := by
  obtain ⟨above, name, hplace, hending⟩ := exists_placeOf_exportFile identifier base kind
  obtain ⟨above', name', hplace', hending'⟩ := exists_placeOf_exportFile identifier base kind'
  rw [hplace, hplace'] at h
  rw [← List.singleton_inj.mp (List.append_inj' h rfl).2] at hending'
  exact ArtifactKind.eq_or_definitions hending hending'

/-! ### Where an export fails -/

theorem mem_filesOf {kinds : List ArtifactKind} {file : Path × Content} :
    file ∈ a.filesOf identifier base kinds ↔
      ∃ kind ∈ kinds, file = (exportFile identifier base kind, .text (a.body kind)) := by
  rw [filesOf, List.mem_map]
  exact exists_congr fun kind => and_congr_right fun _ => eq_comm

theorem exportFiles_eq_filesOf : a.exportFiles identifier base = a.filesOf identifier base ArtifactKind.all :=
  List.map_map

theorem exportTo_eq_error {failure : Failure} (h : a.exportTo identifier base t = (.error failure, t')) :
    ∃ r e, t.publishAll (a.exportFiles identifier base) = (.error (r, e), t') ∧ failure = .exportFile r e := by
  rw [exportTo] at h
  dsimp only at h
  generalize t.publishAll (a.exportFiles identifier base) = out at h
  obtain ⟨⟨r, e⟩ | _, u⟩ := out
  · cases h
    exact ⟨r, e, rfl, rfl⟩
  · cases h

/-- The artifacts before the one that an export fails at are published. -/
theorem exists_kind_of_exportTo {failure : Failure} (h : a.exportTo identifier base t = (.error failure, t')) :
    ∃ kind u r e, t.publishAll (a.filesOf identifier base kind.before) = (.ok (), u) ∧
      u.publish (exportFile identifier base kind) (.text (a.body kind)) = (.error (r, e), t') ∧
        failure = .exportFile r e := by
  obtain ⟨r, e, hall, rfl⟩ := exportTo_eq_error h
  obtain ⟨done, file, rest, u, hfiles, hdone, hfailed⟩ := publishAll_eq_error hall
  rw [exportFiles_eq_filesOf, filesOf] at hfiles
  obtain ⟨before, others, hkinds, rfl, hothers⟩ := List.map_eq_append_iff.mp hfiles
  obtain ⟨kind, after, rfl, rfl, -⟩ := List.map_eq_cons_iff.mp hothers
  obtain rfl := ArtifactKind.eq_before_of_append hkinds
  exact ⟨kind, u, r, e, hdone, hfailed, rfl⟩

/-! ### What is there then -/

theorem get?_of_publishAll (hdone : t.publishAll (a.filesOf identifier base kind.before) = (.ok (), u))
    (hq : ∀ earlier ∈ kind.before, q ≠ placeOf (exportFile identifier base earlier)) :
    u.get? q = t.get? q ∨
      (∃ earlier ∈ kind.before, q ∈ through (exportFile identifier base earlier)) ∧ t.get? q = none ∧
        u.get? q = some .directory := by
  have hfiles : ∀ file ∈ a.filesOf identifier base kind.before, q ≠ placeOf file.1 := by
    intro file hfile
    obtain ⟨earlier, hearlier, rfl⟩ := mem_filesOf.mp hfile
    exact hq earlier hearlier
  refine (get?_publishAll hdone hfiles).imp_right (And.imp_left ?_)
  rintro ⟨file, hfile, hdir⟩
  obtain ⟨earlier, hearlier, rfl⟩ := mem_filesOf.mp hfile
  exact ⟨earlier, hearlier, parentPlaces_subset_through (endsInName_exportFile identifier base earlier) hdir⟩

theorem written_of_publishAll (hdone : t.publishAll (a.filesOf identifier base kind.before) = (.ok (), u))
    {earlier : ArtifactKind} (hearlier : earlier ∈ kind.before) :
    u.Holds (exportFile identifier base earlier) (.text (a.body earlier)) ∨
      earlier = .clientDefinition ∧ SharesFile identifier base ∧
        u.Holds (exportFile identifier base earlier) (.text (a.body .workerDefinition)) := by
  obtain ⟨front, back, hsplit⟩ := List.append_of_mem hearlier
  have hsorted := kind.pairwise_before
  rw [hsplit, filesOf, List.map_append] at hdone
  rw [hsplit] at hsorted
  obtain ⟨v, -, hback⟩ := publishAll_append_eq_ok hdone
  obtain ⟨writer, hwriter, hplace, hholds⟩ := exists_holds_of_publishAll hback
  obtain ⟨last, hlast, rfl⟩ := (@mem_filesOf a identifier base (earlier :: back) writer).mp hwriter
  dsimp only at hplace hholds
  rcases eq_or_definitions_of_placeOf hplace with rfl | ⟨rfl, rfl⟩ | ⟨rfl, rfl⟩
  · exact .inl hholds
  · -- the client definition was not written again
    have hback := (List.pairwise_append.mp hsorted).2.1
    rcases List.mem_cons.mp hlast with h | h
    · cases h
    · exact absurd ⟨rfl, rfl⟩ ((List.pairwise_cons.mp hback).1 _ h)
  · exact .inr ⟨rfl, Eq.symm hplace, hholds⟩

/-- Directories that are added after the artifacts are all that is added in other places. -/
theorem get?_of_addsDirectories (hdone : t.publishAll (a.filesOf identifier base kind.before) = (.ok (), u))
    {places : List Location} (hadds : u.AddsDirectories t' places)
    (hq : ∀ earlier ∈ kind.before, q ≠ placeOf (exportFile identifier base earlier)) :
    t'.get? q = t.get? q ∨ t.get? q = none ∧ t'.get? q = some .directory := by
  have hbefore := (get?_of_publishAll hdone hq).imp_right And.right
  rcases hadds q with heq | ⟨-, hnone, hdir⟩
  · rw [heq]
    exact hbefore
  · refine .inr ⟨?_, hdir⟩
    rcases hbefore with heq | ⟨hnone', -⟩
    · exact heq ▸ hnone
    · exact hnone'

/-! ### Artifacts on the way of others -/

/-- An artifact is reached through the places of the base and the directories of the plugin. -/
theorem mem_through_exportFile (h : Identifier.isCanonical identifier = true) :
    q ∈ through (exportFile identifier base kind) ↔ q ∈ way base ∨
      ∃ front, front <+: Identifier.snakeCase identifier :: (kind.names (Identifier.snakeCase identifier)).dropLast ∧
        q = placeOf base ++ front := by
  rw [exportFile_eq_foldl h, mem_through_foldl_join (isName_names h kind) (List.cons_ne_nil _ _),
    List.dropLast_cons_of_ne_nil (kind.names_ne_nil _)]

/-- The place of an artifact is on the way of another only if it is on the way of the base. -/
theorem mem_way_of_mem_through (h : Identifier.isCanonical identifier = true)
    (hmem : exportPlace identifier base kind ∈ through (exportFile identifier base kind')) :
    exportPlace identifier base kind ∈ way base := by
  rcases (mem_through_exportFile h).mp hmem with hway | ⟨front, hfront, heq⟩
  · exact hway
  · rw [← List.append_cancel_left heq] at hfront
    exact absurd (List.cons_prefix_cons.mp hfront).2 (kind.not_names_prefix kind' _)

theorem way_subset_through (h : Identifier.isCanonical identifier = true) (kind : ArtifactKind) :
    way base ⊆ through (exportFile identifier base kind) :=
  fun _ hq => (mem_through_exportFile h).mpr (.inl hq)

/-- No artifact keeps another from being exported. -/
theorem admits_of_admits (h : Identifier.isCanonical identifier = true)
    (hdone : t.publishAll (a.filesOf identifier base kind.before) = (.ok (), u))
    (hadmits : t.Admits (exportFile identifier base kind)) : u.Admits (exportFile identifier base kind) := by
  have hplace : ∀ other, placeOf (exportFile identifier base other) = exportPlace identifier base other :=
    fun other => placeOf_exportFile h
  -- what was written earlier is on the way of neither the base nor this artifact
  have happart : ∀ earlier ∈ kind.before, exportPlace identifier base earlier ∉ way base := by
    intro earlier hearlier hmem
    obtain ⟨content, hholds⟩ : ∃ content, u.Holds (exportFile identifier base earlier) content := by
      rcases written_of_publishAll hdone hearlier with hholds | ⟨-, -, hholds⟩
      · exact ⟨_, hholds⟩
      · exact ⟨_, hholds⟩
    refine hholds.apart (endsInName_exportFile identifier base earlier) ?_
    rw [hplace]
    exact way_subset_through h earlier hmem
  have hkept : ∀ q, (∀ earlier ∈ kind.before, q ≠ exportPlace identifier base earlier) →
      u.get? q = t.get? q ∨
        (∃ earlier ∈ kind.before, q ∈ through (exportFile identifier base earlier)) ∧ t.get? q = none ∧
          u.get? q = some .directory :=
    fun q hq => get?_of_publishAll hdone fun earlier hearlier => hplace earlier ▸ hq earlier hearlier
  constructor
  case fits => exact hadmits.fits
  case apart => exact hadmits.apart
  case clear =>
    intro q hq
    have hother : ∀ earlier ∈ kind.before, q ≠ exportPlace identifier base earlier := by
      rintro earlier hearlier rfl
      exact happart earlier hearlier (mem_way_of_mem_through h hq)
    have hclear := hadmits.clear q hq
    rw [contentAt] at hclear ⊢
    rcases hkept q hother with heq | ⟨-, -, hdir⟩
    · rw [heq]
      exact hclear
    · rw [hdir]
  case free =>
    have hend := hadmits.apart
    have hfree := hadmits.free
    rw [hplace] at hend hfree ⊢
    have hother : ∀ earlier ∈ kind.before, exportPlace identifier base kind ≠ exportPlace identifier base earlier := by
      intro earlier hearlier heq
      exact kind.not_mem_before (exportPlace_inj heq ▸ hearlier)
    rcases hkept _ hother with heq | ⟨⟨earlier, -, hthrough⟩, -, -⟩
    · rw [heq]
      exact hfree
    · -- a directory that an earlier artifact needed would be on the way of the base, and so on that of the artifact itself
      exact absurd (way_subset_through h kind (mem_way_of_mem_through h hthrough)) hend

theorem placeOf_ne_of_later {later earlier : ArtifactKind} (hne : later ≠ kind) (hlater : later ∉ kind.before)
    (hearlier : earlier ∈ kind.before) :
    placeOf (exportFile identifier base later) ≠ placeOf (exportFile identifier base earlier) := by
  intro heq
  rcases eq_or_definitions_of_placeOf heq with rfl | ⟨rfl, rfl⟩ | ⟨rfl, rfl⟩
  · exact hlater hearlier
  · revert hlater hearlier
    cases kind <;> decide
  · revert hne hlater hearlier
    cases kind <;> decide

/-- Two artifacts are in different files, unless they are the definitions and share one. -/
theorem placeOf_ne_or_sharesFile (hne : kind' ≠ kind) :
    placeOf (exportFile identifier base kind') ≠ placeOf (exportFile identifier base kind) ∨ SharesFile identifier base := by
  by_cases heq : placeOf (exportFile identifier base kind') = placeOf (exportFile identifier base kind)
  · rcases eq_or_definitions_of_placeOf heq with rfl | ⟨rfl, rfl⟩ | ⟨rfl, rfl⟩
    · exact absurd rfl hne
    · exact .inr heq
    · exact .inr heq.symm
  · exact .inl heq

theorem not_sharesFile (h : Identifier.isCanonical identifier = true) : ¬SharesFile identifier base := by
  rw [SharesFile, placeOf_exportFile h, placeOf_exportFile h]
  intro heq
  cases exportPlace_inj heq

theorem failsAt_of_exportTo {failure : Failure} (h : a.exportTo identifier base t = (.error failure, t')) :
    ∃ kind, a.FailsAt identifier base t kind failure t' := by
  obtain ⟨kind, u, r, e, hdone, hfailed, rfl⟩ := exists_kind_of_exportTo h
  have hname := endsInName_exportFile identifier base kind
  obtain ⟨parent, hparent, -⟩ := Path.exists_parent? hname
  have hcases := publish_eq_error hparent hfailed
  have hadds : ∃ places, u.AddsDirectories t' places := by
    rcases hcases with ⟨hmade, -⟩ | ⟨hmade, -⟩
    · exact ⟨_, addsDirectories_makeDirectories hmade⟩
    · exact ⟨_, addsDirectories_makeDirectories hmade⟩
  obtain ⟨places, hadds⟩ := hadds
  -- had the first tree admitted the artifact, so would the one that it failed in
  have halone : Identifier.isCanonical identifier = true → ¬t.Admits (exportFile identifier base kind) := by
    intro hid hadmits
    obtain ⟨v, hv⟩ := (exists_publish_iff hname).mpr (admits_of_admits hid hdone hadmits)
    cases hfailed.symm.trans hv
  refine ⟨kind, ?_⟩
  constructor
  case written =>
    intro earlier hearlier
    rcases written_of_publishAll hdone hearlier with hholds | ⟨hclient, hshares, -⟩
    · exact .inl (hadds.holds hholds).readText
    · exact .inr ⟨hclient, hshares⟩
  case kept => exact fun q hq _ => get?_of_addsDirectories hdone hadds hq
  case later =>
    exact fun later hne hlater =>
      ⟨fun earlier hearlier => placeOf_ne_of_later hne hlater hearlier, placeOf_ne_or_sharesFile hne⟩
  case cause =>
    refine ⟨u, t', parent, e, hdone, hparent, ?_⟩
    rcases hcases with ⟨hmade, rfl⟩ | ⟨hmade, hwrite, rfl⟩
    · exact .inl ⟨hmade, rfl⟩
    · exact .inr ⟨hmade, hwrite, rfl⟩
  case separate => exact not_sharesFile
  case alone => exact fun hid _ _ _ w hw => halone hid ((exists_publish_iff hname).mp ⟨w, hw⟩)

end

/-- Artifacts that only name their kinds. -/
def named : Artifacts where
  client := ArtifactKind.clientDefinition.name
  worker := ArtifactKind.workerDefinition.name
  params := ArtifactKind.paramsTemplate.name
  summary := ArtifactKind.showTemplate.name
  help := ArtifactKind.helpTemplate.name

/-- The path that an export failed at, if something was there already. -/
def blockedPath? : Result Path → Option Path
  | .error (.exportFile path .exists) => some path
  | _ => none

theorem eq_of_blockedPath? {out : Result Path} {path : Path} (h : blockedPath? out = some path) :
    out = .error (.exportFile path .exists) := by
  rw [blockedPath?.eq_def] at h
  split at h
  · cases h
    rfl
  · cases h

theorem failsAt_named : ∃ t' kind,
    named.exportTo "A" "out" (FileTree.put {} "out/a/worker" (.text "in the way")) =
      (.error (.exportFile "out/a/worker" .exists), t') ∧
    named.FailsAt "A" "out" (FileTree.put {} "out/a/worker" (.text "in the way")) kind
      (.exportFile "out/a/worker" .exists) t' := by
  have hblocked : blockedPath? (named.exportTo "A" "out" (FileTree.put {} "out/a/worker" (.text "in the way"))).1 =
      some "out/a/worker" := by
    decide +kernel
  generalize hout : named.exportTo "A" "out" (FileTree.put {} "out/a/worker" (.text "in the way")) = out at hblocked ⊢
  obtain ⟨result, t'⟩ := out
  cases eq_of_blockedPath? hblocked
  obtain ⟨kind, hfails⟩ := failsAt_of_exportTo hout
  exact ⟨t', kind, rfl, hfails⟩

/-- Under an identifier that leads out of the directories of the plugin, the client definition does not last. -/
theorem overwritten_definition : ∃ u t',
    (FileTree.put {} "x/views" (.text "in the way")).publishAll
      (named.filesOf "../x" "out" ArtifactKind.paramsTemplate.before) = (.ok (), u) ∧
    named.exportTo "../x" "out" (FileTree.put {} "x/views" (.text "in the way")) =
      (.error (.exportFile "out/../x/views" .exists), t') ∧
    ArtifactKind.clientDefinition ∈ ArtifactKind.paramsTemplate.before ∧
    t'.readText (exportFile "../x" "out" .clientDefinition) = .ok (named.body .workerDefinition) ∧
    named.body .workerDefinition ≠ named.body .clientDefinition := by
  have hdone : ((FileTree.put {} "x/views" (.text "in the way")).publishAll
      (named.filesOf "../x" "out" ArtifactKind.paramsTemplate.before)).1.toOption = some () := by
    decide +kernel
  have hblocked : blockedPath? (named.exportTo "../x" "out" (FileTree.put {} "x/views" (.text "in the way"))).1 =
      some "out/../x/views" := by
    decide +kernel
  have hread : ((named.exportTo "../x" "out" (FileTree.put {} "x/views" (.text "in the way"))).2.readText
      (exportFile "../x" "out" .clientDefinition)).toOption = some (named.body .workerDefinition) := by
    decide +kernel
  generalize (FileTree.put {} "x/views" (.text "in the way")).publishAll
    (named.filesOf "../x" "out" ArtifactKind.paramsTemplate.before) = done at hdone ⊢
  generalize named.exportTo "../x" "out" (FileTree.put {} "x/views" (.text "in the way")) = out at hblocked hread ⊢
  obtain ⟨made, u⟩ := done
  obtain ⟨result, t'⟩ := out
  cases toOption_eq_some_iff.mp hdone
  cases eq_of_blockedPath? hblocked
  exact ⟨u, t', rfl, rfl, by decide, toOption_eq_some_iff.mp hread, by decide⟩

end Artifacts

end ToolPlugins
