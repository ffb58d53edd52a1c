import Mathlib
import ToolPlugins.Proofs.FileTree.Ways

/-!
Publishing files with their directories. What stands on the way of a file decides whether it can be published: no file may
be there, the path may not go through its own end, and the end may not be a directory. Of several files the first that
cannot be published ends the work, and those before it are there then.
-/

namespace ToolPlugins.FileTree

/-- What a tree must be like for a file to be published in it. -/
structure Admits (t : FileTree) (p : Path) : Prop where
  fits : p.Fits
  apart : placeOf p ∉ through p
  clear : ∀ q ∈ through p, t.contentAt q = none
  free : t.get? (placeOf p) ≠ some .directory

section
variable {t t' : FileTree} {p above : Path} {q : Location} {content : Content} {file : Path × Content}
  {files done rest : List (Path × Content)}

/-! ### One file -/

/-- A file cannot be published where its directories cannot be created or where it cannot be written, and the failure
    names the path that this was about. -/
theorem publish_eq_error (hparent : p.parent? = some above) {r : Path} {e : FileError}
    (h : t.publish p content = (.error (r, e), t')) :
    (t.makeDirectories above = (.error e, t') ∧ r = above) ∨
      t.makeDirectories above = (.ok (), t') ∧ t'.write p content = .error e ∧ r = p := by
  rw [publish_of_parent? hparent] at h
  generalize t.makeDirectories above = out at h ⊢
  obtain ⟨e' | _, u⟩ := out
  · cases h
    exact .inl ⟨rfl, rfl⟩
  · dsimp only at h
    cases hwrite : u.write p content with
    | error e' =>
      rw [hwrite] at h
      cases h
      exact .inr ⟨rfl, hwrite, rfl⟩
    | ok v =>
      rw [hwrite] at h
      cases h

theorem parentPlaces_subset_through (hp : p.EndsInName) : parentPlaces p ⊆ through p := by
  intro q hq
  obtain ⟨above, hparent, habove⟩ := Path.exists_parent? hp
  rw [parentPlaces, hparent] at hq
  obtain ⟨r, hr, rfl⟩ := List.mem_map.mp hq
  exact (mem_way_of_parent? hp hparent).mp (placeOf_mem_way_of_mem_upwardFrom (habove.imp_right And.left) hr)

/-- What decides whether a file can be published stands on its way. -/
theorem exists_publish_iff (hp : p.EndsInName) : (∃ t', t.publish p content = (.ok (), t')) ↔ t.Admits p := by
  obtain ⟨above, hparent, habove⟩ := Path.exists_parent? hp
  simp only [publish_eq_ok_iff hparent, write_eq_ok_iff]
  constructor
  · rintro ⟨t', u, hmade, -, place, hl, hget, -⟩
    obtain rfl := eq_placeOf_of_locate hl
    have hadds := addsDirectories_makeDirectories hmade
    have hdirs := directory_of_locate hp hl
    refine ⟨fits_of_locate hl, fun hmem => hget (hdirs _ hmem), fun q hq => ?_,
      fun hdir => hget (hadds.keepsDirectories _ hdir)⟩
    rw [← hadds.contentAt, contentAt, hdirs q hq]
  · intro h
    obtain ⟨u, hmade, hdirs⟩ := @exists_makeAlong_upwardFrom t above above.segments.length
      (habove.imp_right fun h => ⟨h.1, le_rfl⟩) (h.fits.parent hp hparent) fun r hr =>
        h.clear r ((mem_way_of_parent? hp hparent).mp hr)
    have hl : u.locate p = .ok (placeOf p) :=
      locate_of_directories hp h.fits fun r hr => hdirs r ((mem_way_of_parent? hp hparent).mpr hr)
    refine ⟨_, u, hmade, hp.endsInSlash, placeOf p, hl, ?_, rfl⟩
    -- the directories that were created are on the way, and the file is not
    have hadds := addsDirectories_makeDirectories hmade
    have hend : placeOf p ∉ above.upward.map placeOf := by
      intro hmem
      refine h.apart (parentPlaces_subset_through hp ?_)
      rwa [parentPlaces, hparent]
    rw [hadds.get?_eq hend]
    exact h.free

/-! ### Files one after the other -/

theorem publishAll_append (t : FileTree) (done rest : List (Path × Content)) :
    t.publishAll (done ++ rest) = match t.publishAll done with
      | (.error e, u) => (.error e, u)
      | (.ok (), u) => u.publishAll rest := by
  induction done generalizing t with
  | nil => rfl
  | cons file done ih =>
    rw [List.cons_append, publishAll, publishAll]
    split
    · rfl
    · exact ih _

theorem publishAll_append_eq_ok (h : t.publishAll (done ++ rest) = (.ok (), t')) :
    ∃ u, t.publishAll done = (.ok (), u) ∧ u.publishAll rest = (.ok (), t') := by
  rw [publishAll_append] at h
  split at h
  · cases h
  · next u hdone => exact ⟨u, hdone, h⟩

/-- A failure comes from the first file that cannot be published, and ends the work. -/
theorem publishAll_eq_error {r : Path} {e : FileError} (h : t.publishAll files = (.error (r, e), t')) :
    ∃ done file rest u, files = done ++ file :: rest ∧ t.publishAll done = (.ok (), u) ∧
      u.publish file.1 file.2 = (.error (r, e), t') := by
  induction files generalizing t with
  | nil => cases h
  | cons file files ih =>
    rw [publishAll] at h
    split at h
    · next u hpublish =>
      cases h
      exact ⟨[], file, files, t, rfl, rfl, hpublish⟩
    · next u hpublish =>
      obtain ⟨done, file', rest, v, rfl, hdone, hfailed⟩ := ih h
      refine ⟨file :: done, file', rest, v, rfl, ?_, hfailed⟩
      rw [publishAll]
      split
      · next hpublish' => cases hpublish.symm.trans hpublish'
      · next hpublish' =>
        cases hpublish.symm.trans hpublish'
        exact hdone

/-- Outside the places of the files only directories are added, and only where the files need them. -/
theorem get?_publishAll (h : t.publishAll files = (.ok (), t')) (hq : ∀ file ∈ files, q ≠ placeOf file.1) :
    t'.get? q = t.get? q ∨
      (∃ file ∈ files, q ∈ parentPlaces file.1) ∧ t.get? q = none ∧ t'.get? q = some .directory := by
  induction files generalizing t with
  | nil =>
    cases h
    exact .inl rfl
  | cons file files ih =>
    obtain ⟨hfirst, hrest⟩ := List.forall_mem_cons.mp hq
    obtain ⟨u, hpublish, hmore⟩ := publishAll_cons_eq_ok h
    have hgains := (gains_publish hpublish).1
    have hu : u.get? q = t.get? q ∨ q ∈ parentPlaces file.1 ∧ t.get? q = none ∧ u.get? q = some .directory := by
      by_cases hdir : q ∈ parentPlaces file.1
      · obtain ⟨hbefore | hbefore, hafter⟩ := hgains.directory q hdir
        · exact .inr ⟨hdir, hbefore, hafter⟩
        · exact .inl (hafter.trans hbefore.symm)
      · exact .inl (hgains.other q hdir fun hmem => hfirst (List.mem_singleton.mp hmem))
    rcases ih hmore hrest with heq | ⟨⟨later, hlater, hdir⟩, hnone, hadded⟩
    · rw [heq]
      exact hu.imp_right fun h => ⟨⟨file, List.mem_cons_self, h.1⟩, h.2⟩
    · rcases hu with heq | ⟨-, -, hadded'⟩
      · exact .inr ⟨⟨later, List.mem_cons_of_mem _ hlater, hdir⟩, heq ▸ hnone, hadded⟩
      · cases hnone.symm.trans hadded'

theorem AddsDirectories.holds {places : List Location} (h : t.AddsDirectories t' places) (hp : t.Holds p content) :
    t'.Holds p content := by
  obtain ⟨mode, hfile⟩ := hp.file
  refine ⟨hp.slash, h.keepsDirectories.locate hp.locate, ⟨mode, ?_⟩, fun parent hparent => ?_⟩
  · rcases h (placeOf p) with heq | ⟨-, hnone, -⟩
    · exact heq.trans hfile
    · cases hfile.symm.trans hnone
  · exact makeAlong_again_of_ok (hp.parent parent hparent) h.keepsDirectories

/-- A file that is there is not on its own way. -/
theorem Holds.apart (h : t.Holds p content) (hp : p.EndsInName) : placeOf p ∉ through p := by
  intro hmem
  obtain ⟨mode, hfile⟩ := h.file
  cases hfile.symm.trans (directory_of_locate hp h.locate _ hmem)

/-- A file that is there is there after another one is published, with the content of that one if both are in one place. -/
theorem Holds.of_publish (hp : t.Holds p content) {r : Path} {content' : Content}
    (h : t.publish r content' = (.ok (), t')) :
    t'.Holds p content ∨ placeOf r = placeOf p ∧ t'.Holds p content' := by
  obtain ⟨hgains, hr⟩ := gains_publish h
  by_cases heq : placeOf r = placeOf p
  · refine .inr ⟨heq, hp.slash, hgains.keepsDirectories.locate hp.locate, heq ▸ hr.file, fun parent hparent => ?_⟩
    exact makeAlong_again_of_ok (hp.parent parent hparent) hgains.keepsDirectories
  · refine .inl (hgains.holds hp ?_)
    rw [List.map_singleton, List.mem_singleton]
    exact fun h => heq h.symm

theorem Holds.of_publishAll (hp : t.Holds p content) (h : t.publishAll files = (.ok (), t')) :
    t'.Holds p content ∨ ∃ file ∈ files, placeOf file.1 = placeOf p ∧ t'.Holds p file.2 := by
  induction files generalizing t content with
  | nil =>
    cases h
    exact .inl hp
  | cons file files ih =>
    obtain ⟨u, hpublish, hmore⟩ := publishAll_cons_eq_ok h
    rcases hp.of_publish hpublish with hu | ⟨hsame, hu⟩
    · refine (ih hu hmore).imp_right ?_
      rintro ⟨later, hlater, h⟩
      exact ⟨later, List.mem_cons_of_mem _ hlater, h⟩
    · refine .inr ?_
      rcases ih hu hmore with h | ⟨later, hlater, h⟩
      · exact ⟨file, List.mem_cons_self, hsame, h⟩
      · exact ⟨later, List.mem_cons_of_mem _ hlater, h⟩

/-- A file that was published holds what was last written in its place. -/
theorem exists_holds_of_publishAll (h : t.publishAll (file :: files) = (.ok (), t')) :
    ∃ writer ∈ file :: files, placeOf writer.1 = placeOf file.1 ∧ t'.Holds file.1 writer.2 := by
  obtain ⟨u, hpublish, hmore⟩ := publishAll_cons_eq_ok h
  rcases (gains_publish hpublish).2.of_publishAll hmore with h | ⟨later, hlater, h⟩
  · exact ⟨file, List.mem_cons_self, rfl, h⟩
  · exact ⟨later, List.mem_cons_of_mem _ hlater, h⟩

end

end ToolPlugins.FileTree
