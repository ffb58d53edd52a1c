import Mathlib
import ToolPlugins.Proofs.FileTree.Walk
import ToolPlugins.Proofs.Identifier.Canonical
import ToolPlugins.Proofs.Installation.Parts
import ToolPlugins.Proofs.Table

/-!
Pages published below one directory. Whether a page can be published does not change when others are, so every
later attempt ends as the first one did; and publishing the same pages again, in the same order, leaves the files
as they are.
-/

namespace ToolPlugins

namespace FileTree

/-- What the name of every page ends in. -/
def pageEnding : List Char := "_help.html".toList

/-- A place for a page. -/
def IsPage (place : Location) : Prop := ∃ dir name, place = dir ++ [name] ∧ pageEnding <:+ name.toList

/-- A path to a page that stands in a path. -/
structure PagePath (p above : Path) : Prop where
  parent : p.parent? = some above
  slash : p.endsInSlash = false
  place : ∀ (t : FileTree) place, t.locate p = .ok place → IsPage place

/-- The place that a path leads to, if it is not a directory. -/
def pagePlace? (t : FileTree) (p : Path) : Option Location :=
  match t.locate p with
  | .ok place => if t.get? place = some .directory then none else some place
  | .error _ => none

/-- A page can be published: the directories of its path can be created, and it leads to no directory then. -/
def Opens (t : FileTree) (above p : Path) : Prop :=
  ∃ t', t.makeDirectories above = (.ok (), t') ∧ ∃ place, t'.pagePlace? p = some place

/-- The second tree is left when pages were published in the first one. -/
inductive Published (t : FileTree) : FileTree → Prop where
  | refl : Published t t
  | directory {t' : FileTree} {place : Location} : Published t t' → t'.get? place = none →
      Published t (t'.set place .directory)
  | page {t' : FileTree} {place : Location} {content : Content} {mode : Nat} : Published t t' → IsPage place →
      t'.get? place ≠ some .directory → Published t (t'.set place (.file content mode))

section
variable {t t' : FileTree} {p above : Path} {place : Location}

theorem pagePlace?_eq_some_iff :
    t.pagePlace? p = some place ↔ t.locate p = .ok place ∧ t.get? place ≠ some .directory := by
  rw [pagePlace?]
  cases t.locate p with
  | error e => simp
  | ok other =>
    dsimp only
    split_ifs with hget
    · simp only [Except.ok.injEq, false_iff, not_and, not_not]
      rintro rfl
      exact hget
    · simp only [Option.some.injEq, Except.ok.injEq]
      constructor
      · rintro rfl
        exact ⟨rfl, hget⟩
      · exact fun h => h.1

theorem SameDirectories.pagePlace? (h : t.SameDirectories t') (p : Path) : t'.pagePlace? p = t.pagePlace? p := by
  refine Option.ext fun place => ?_
  rw [pagePlace?_eq_some_iff, pagePlace?_eq_some_iff, h.locate_iff, ne_eq, ne_eq, h place]

theorem sameDirectories_set_file (hget : t.get? place ≠ some .directory) (content : Content) (mode : Nat) :
    t.SameDirectories (t.set place (.file content mode)) := by
  intro other
  rw [get?_set]
  split_ifs with hlength heq
  · rw [get?, if_pos hlength]
  · subst heq
    simp [hget]
  · rfl

theorem set_set (t : FileTree) (place : Location) (a b : Entry) : (t.set place a).set place b = t.set place b :=
  congrArg FileTree.mk (Table.insert_insert_self t.entries place a b)

/-! ### One page -/

theorem resolve_of_pagePlace? (hslash : p.endsInSlash = false) (h : t.pagePlace? p = some place) :
    t.resolve p = .ok place :=
  resolve_eq_ok_iff.mpr ⟨(pagePlace?_eq_some_iff.mp h).1, fun hs => by rw [hslash] at hs; cases hs⟩

theorem write_of_pagePlace? (hslash : p.endsInSlash = false) (h : t.pagePlace? p = some place) (content : Content) :
    ∃ mode, t.write p content = .ok (t.set place (.file content mode)) := by
  rw [write, resolve_of_pagePlace? hslash h]
  dsimp only
  split
  · next hget => exact absurd hget (pagePlace?_eq_some_iff.mp h).2
  · exact ⟨_, rfl⟩
  · exact ⟨_, rfl⟩

theorem setMode_of_pagePlace? (hslash : p.endsInSlash = false) (h : t.pagePlace? p = some place) (content : Content)
    (mode other : Nat) :
    (t.set place (.file content mode)).setMode p other = .ok (t.set place (.file content other)) := by
  have hget := (pagePlace?_eq_some_iff.mp h).2
  have hsame := sameDirectories_set_file hget content mode
  have hlength : ¬place.length ≤ 1 := fun hle => hget (if_pos hle)
  refine bind_eq_ok_iff.mpr ⟨place, resolve_of_pagePlace? hslash ((hsame.pagePlace? p).trans h), ?_⟩
  rw [get?_set, if_neg hlength, if_pos rfl]
  dsimp only
  rw [set_set]

theorem write_of_no_pagePlace? (h : t.pagePlace? p = none) (content : Content) : ∃ e, t.write p content = .error e := by
  rw [write]
  cases hr : t.resolve p with
  | error e => exact ⟨_, rfl⟩
  | ok place =>
    have hget : t.get? place = some .directory := by
      by_contra hnot
      cases h.symm.trans (pagePlace?_eq_some_iff.mpr ⟨(resolve_eq_ok_iff.mp hr).1, hnot⟩)
    dsimp only
    rw [hget]
    exact ⟨_, rfl⟩

/-- The page of a task, with the text and the mode that it is published with. -/
def pageEntry (task : LoadedTask) : Entry := .file (.text (task.body .help)) helpFileMode

section
variable {task : LoadedTask} (hp : PagePath task.helpPath above)
include hp

theorem publishPage_of_error {e : FileError} (h : t.makeDirectories above = (.error e, t')) :
    t.publishPage task = (.error (.helpPublish task.helpPath e), t') := by
  simp only [publishPage, Installation.publishHelp, publish, hp.parent, h, Except.mapError]

theorem publishPage_of_place (h : t.makeDirectories above = (.ok (), t'))
    (hplace : t'.pagePlace? task.helpPath = some place) :
    t.publishPage task = (.ok (), t'.set place (pageEntry task)) := by
  obtain ⟨mode, hwrite⟩ := write_of_pagePlace? hp.slash hplace (.text (task.body .help))
  have hmode := setMode_of_pagePlace? hp.slash hplace (.text (task.body .help)) mode helpFileMode
  simp only [publishPage, Installation.publishHelp, publish, hp.parent, h, Except.mapError, hwrite, hmode, pageEntry]

theorem publishPage_of_no_place (h : t.makeDirectories above = (.ok (), t'))
    (hplace : t'.pagePlace? task.helpPath = none) :
    ∃ e, t.publishPage task = (.error (.helpPublish task.helpPath e), t') := by
  obtain ⟨e, hwrite⟩ := write_of_no_pagePlace? hplace (.text (task.body .help))
  refine ⟨e, ?_⟩
  simp only [publishPage, Installation.publishHelp, publish, hp.parent, h, Except.mapError, hwrite]

/-- A page is not published if its directories cannot be created, or if a directory is in its place. -/
theorem publishPage_cases (t : FileTree) :
    (∃ e t', t.makeDirectories above = (.error e, t') ∧
        t.publishPage task = (.error (.helpPublish task.helpPath e), t')) ∨
      ∃ t', t.makeDirectories above = (.ok (), t') ∧
        ((∃ place, t'.pagePlace? task.helpPath = some place ∧
            t.publishPage task = (.ok (), t'.set place (pageEntry task))) ∨
          t'.pagePlace? task.helpPath = none ∧ ∃ e, t.publishPage task = (.error (.helpPublish task.helpPath e), t')) := by
  obtain ⟨made, t', hmade⟩ : ∃ made t', t.makeDirectories above = (made, t') := ⟨_, _, rfl⟩
  cases made with
  | error e => exact .inl ⟨e, t', hmade, publishPage_of_error hp hmade⟩
  | ok u =>
    cases hplace : t'.pagePlace? task.helpPath with
    | none => exact .inr ⟨t', hmade, .inr ⟨hplace, publishPage_of_no_place hp hmade hplace⟩⟩
    | some place => exact .inr ⟨t', hmade, .inl ⟨place, hplace, publishPage_of_place hp hmade hplace⟩⟩

end

/-! ### Whether a page can be published -/

theorem opens_of_made (h : t.makeDirectories above = (.ok (), t')) :
    t.Opens above p ↔ ∃ place, t'.pagePlace? p = some place := by
  constructor
  · rintro ⟨u, hu, hplace⟩
    cases h.symm.trans hu
    exact hplace
  · exact fun hplace => ⟨t', h, hplace⟩

theorem not_opens_of_error {e : FileError} (h : t.makeDirectories above = (.error e, t')) : ¬t.Opens above p := by
  rintro ⟨u, hu, -⟩
  cases h.symm.trans hu

theorem publishPage_ok_iff {task : LoadedTask} (hp : PagePath task.helpPath above) :
    (t.publishPage task).1 = .ok () ↔ t.Opens above task.helpPath := by
  obtain ⟨e, t', hmade, hout⟩ | ⟨t', hmade, ⟨place, hplace, hout⟩ | ⟨hplace, e, hout⟩⟩ := publishPage_cases hp t
  · rw [hout]
    exact iff_of_false (by simp) (not_opens_of_error hmade)
  · rw [hout, opens_of_made hmade]
    exact iff_of_true rfl ⟨place, hplace⟩
  · rw [hout, opens_of_made hmade, hplace]
    simp

/-- After an attempt at a page, the directories of all pages are there, or they cannot be created. -/
theorem after_publishPage {task : LoadedTask} (hp : PagePath task.helpPath above) (t : FileTree) :
    (∃ e e' t', t.makeDirectories above = (.error e, t') ∧ t'.makeDirectories above = (.error e', t') ∧
        (t.publishPage task).2 = t') ∨
      ∃ t', t.makeDirectories above = (.ok (), t') ∧ t'.SameDirectories (t.publishPage task).2 := by
  obtain ⟨e, t', hmade, hout⟩ | ⟨t', hmade, ⟨place, hplace, hout⟩ | ⟨-, e, hout⟩⟩ := publishPage_cases hp t
  · obtain ⟨e', hagain⟩ := makeAlong_again_of_error (climbs_upwardFrom above _) hmade
    exact .inl ⟨e, e', t', hmade, hagain, congrArg Prod.snd hout⟩
  · rw [hout]
    exact .inr ⟨t', hmade, sameDirectories_set_file (pagePlace?_eq_some_iff.mp hplace).2 _ _⟩
  · rw [hout]
    exact .inr ⟨t', hmade, .refl t'⟩

/-- One page does not stand in the way of another. -/
theorem opens_publishPage {task : LoadedTask} (hp : PagePath task.helpPath above) :
    (t.publishPage task).2.Opens above p ↔ t.Opens above p := by
  obtain ⟨e, e', t', hmade, hagain, hout⟩ | ⟨t', hmade, hsame⟩ := after_publishPage hp t
  · rw [hout]
    exact iff_of_false (not_opens_of_error hagain) (not_opens_of_error hmade)
  · rw [opens_of_made hmade, opens_of_made (makeAlong_again_of_ok hmade hsame.keeps), hsame.pagePlace?]

/-- A page can still be published after files were deleted. -/
theorem Opens.fewer (h : t.Opens above p) (hf : t.Fewer t') : t'.Opens above p := by
  obtain ⟨u, hmade, place, hplace⟩ := h
  obtain ⟨u', hmade', hf'⟩ := hf.makeAlong hmade
  exact ⟨u', hmade', place, (hf'.sameDirectories.pagePlace? p).trans hplace⟩

/-! ### Pages one after the other -/

/-- The tree after publishing pages one after the other. -/
def publishPages (t : FileTree) (tasks : List LoadedTask) : FileTree :=
  tasks.foldl (fun t task => (t.publishPage task).2) t

/-- A page with its place, if there is no directory. -/
def placedPage? (t : FileTree) (task : LoadedTask) : Option (Location × Entry) :=
  (t.pagePlace? task.helpPath).map fun place => (place, pageEntry task)

/-- Where the directories of the pages are there, publishing puts each page in its place. -/
theorem publishPages_of_made {tasks : List LoadedTask} (hp : ∀ task ∈ tasks, PagePath task.helpPath above)
    (h : t.makeDirectories above = (.ok (), t)) :
    t.publishPages tasks = ⟨t.entries.insertAll (tasks.filterMap t.placedPage?)⟩ ∧
      t.SameDirectories (t.publishPages tasks) := by
  induction tasks generalizing t with
  | nil => exact ⟨rfl, .refl t⟩
  | cons task rest ih =>
    have hcons : t.publishPages (task :: rest) = (t.publishPage task).2.publishPages rest := rfl
    have hrest : ∀ other ∈ rest, PagePath other.helpPath above := fun other ho => hp other (List.mem_cons_of_mem task ho)
    rw [hcons]
    obtain ⟨_, _, hmade, -⟩ | ⟨t', hmade, ⟨place, hplace, hout⟩ | ⟨hplace, e, hout⟩⟩ :=
      publishPage_cases (hp task List.mem_cons_self) t
    · cases h.symm.trans hmade
    · cases h.symm.trans hmade
      have hsame := sameDirectories_set_file (pagePlace?_eq_some_iff.mp hplace).2 (.text (task.body .help)) helpFileMode
      obtain ⟨heq, hsame'⟩ := ih hrest (makeAlong_again_of_ok h hsame.keeps)
      have hplaced : (t.set place (pageEntry task)).placedPage? = t.placedPage? := by
        funext other
        exact congrArg (Option.map _) (hsame.pagePlace? other.helpPath)
      have hself : t.placedPage? task = some (place, pageEntry task) := by rw [placedPage?, hplace, Option.map_some]
      rw [hout]
      refine ⟨?_, hsame.trans hsame'⟩
      rw [List.filterMap_cons_some hself]
      refine heq.trans ?_
      rw [← pageEntry, hplaced]
      rfl
    · cases h.symm.trans hmade
      have hself : t.placedPage? task = none := by rw [placedPage?, hplace, Option.map_none]
      rw [hout, List.filterMap_cons_none hself]
      exact ih hrest h

/-- Where the directories of the pages cannot be created, publishing changes nothing. -/
theorem publishPages_of_error {tasks : List LoadedTask} (hp : ∀ task ∈ tasks, PagePath task.helpPath above)
    {e : FileError} (h : t.makeDirectories above = (.error e, t)) : t.publishPages tasks = t := by
  induction tasks with
  | nil => rfl
  | cons task rest ih =>
    have hcons : t.publishPages (task :: rest) = (t.publishPage task).2.publishPages rest := rfl
    rw [hcons, publishPage_of_error (hp task List.mem_cons_self) h]
    exact ih fun other ho => hp other (List.mem_cons_of_mem task ho)

/-- It does not matter whether the directories of a page are created before or with it. -/
theorem publishPage_of_made {task : LoadedTask} (hp : PagePath task.helpPath above)
    (h : t.makeDirectories above = (.ok (), t')) : (t.publishPage task).2 = (t'.publishPage task).2 := by
  have hready := makeAlong_again_of_ok h fun _ h => h
  cases hplace : t'.pagePlace? task.helpPath with
  | none =>
    obtain ⟨_, hfirst⟩ := publishPage_of_no_place hp h hplace
    obtain ⟨_, hsecond⟩ := publishPage_of_no_place hp hready hplace
    rw [hfirst, hsecond]
  | some place => rw [publishPage_of_place hp h hplace, publishPage_of_place hp hready hplace]

theorem publishPages_again_of_made {tasks : List LoadedTask} (hp : ∀ task ∈ tasks, PagePath task.helpPath above)
    (h : t.makeDirectories above = (.ok (), t)) : (t.publishPages tasks).publishPages tasks = t.publishPages tasks := by
  obtain ⟨heq, hsame⟩ := publishPages_of_made hp h
  obtain ⟨heq', -⟩ := publishPages_of_made hp (makeAlong_again_of_ok h hsame.keeps)
  have hplaced : (t.publishPages tasks).placedPage? = t.placedPage? := by
    funext other
    exact congrArg (Option.map _) (hsame.pagePlace? other.helpPath)
  rw [heq', hplaced, heq]
  exact congrArg FileTree.mk (Table.insertAll_again t.entries _)

/-- Publishing the same pages again, in the same order, changes nothing. -/
theorem publishPages_again {tasks : List LoadedTask} (hp : ∀ task ∈ tasks, PagePath task.helpPath above) :
    (t.publishPages tasks).publishPages tasks = t.publishPages tasks := by
  cases tasks with
  | nil => rfl
  | cons task rest =>
    have htask := hp task List.mem_cons_self
    have hcons : t.publishPages (task :: rest) = (t.publishPage task).2.publishPages rest := rfl
    obtain ⟨e, e', t', hmade, hagain, hout⟩ | ⟨t', hmade, -⟩ := after_publishPage htask t
    · rw [hcons, hout, publishPages_of_error (fun other ho => hp other (List.mem_cons_of_mem task ho)) hagain]
      exact publishPages_of_error hp hagain
    · have hsetup : t.publishPages (task :: rest) = t'.publishPages (task :: rest) := by
        rw [hcons, publishPage_of_made htask hmade]
        rfl
      rw [hsetup]
      exact publishPages_again_of_made hp (makeAlong_again_of_ok hmade fun _ h => h)

/-! ### What published pages leave alone -/

theorem Published.makeAlong {u : FileTree} (h : t.Published u) (paths : List Path) :
    t.Published (u.makeAlong paths).2 := by
  induction paths generalizing u with
  | nil => exact h
  | cons p above ih =>
    obtain ⟨-, e, v, habove, hout⟩ | ⟨v, hv, hends⟩ := makeAlong_cons u p above
    · rw [hout]
      have hrest := ih h
      rwa [habove] at hrest
    · have hv' : t.Published v := by
        obtain ⟨rfl, -⟩ | ⟨-, habove⟩ := hv
        · exact h
        · have hrest := ih h
          rwa [habove] at hrest
      obtain ⟨v', hmade, hout⟩ | ⟨-, hout⟩ | ⟨_, -, -, hout⟩ := hends
      · obtain ⟨place, -, hnone, rfl⟩ := makeDirectory_eq_ok_iff.mp hmade
        rw [hout]
        exact hv'.directory hnone
      · rw [hout]
        exact hv'
      · rw [hout]
        exact hv'

theorem Published.publishPage {u : FileTree} (h : t.Published u) {task : LoadedTask} (hp : PagePath task.helpPath above) :
    t.Published (u.publishPage task).2 := by
  have hmakes : ∀ {made : Except FileError Unit} {t'}, u.makeDirectories above = (made, t') → t.Published t' := by
    intro made t' hmade
    have hrest := h.makeAlong above.upward
    rw [makeDirectories] at hmade
    rwa [hmade] at hrest
  obtain ⟨e, t', hmade, hout⟩ | ⟨t', hmade, ⟨place, hplace, hout⟩ | ⟨-, e, hout⟩⟩ := publishPage_cases hp u
  · rw [hout]
    exact hmakes hmade
  · rw [hout]
    obtain ⟨hl, hget⟩ := pagePlace?_eq_some_iff.mp hplace
    exact (hmakes hmade).page (hp.place t' place hl) hget
  · rw [hout]
    exact hmakes hmade

theorem published_publishPages {tasks : List LoadedTask} (hp : ∀ task ∈ tasks, PagePath task.helpPath above) :
    t.Published (t.publishPages tasks) := by
  have hall : ∀ {u : FileTree}, t.Published u → t.Published (u.publishPages tasks) := by
    induction tasks with
    | nil => exact fun h => h
    | cons task rest ih =>
      intro u h
      exact ih (fun other ho => hp other (List.mem_cons_of_mem task ho)) (h.publishPage (hp task List.mem_cons_self))
  exact hall .refl

theorem Published.keepsDirectories (h : t.Published t') : t.KeepsDirectories t' := by
  induction h with
  | refl => exact fun _ h => h
  | directory _ _ ih => exact ih.trans (keepsDirectories_set_directory _ _)
  | page _ _ hget ih => exact ih.trans (sameDirectories_set_file hget _ _).keeps

/-- A file that is no page stays as it is. -/
theorem Published.get?_file (h : t.Published t') {content : Content} {mode : Nat}
    (hfile : t.get? place = some (.file content mode)) (hnot : ¬IsPage place) :
    t'.get? place = some (.file content mode) := by
  have hlength : ¬place.length ≤ 1 := by
    intro hle
    rw [get?, if_pos hle] at hfile
    cases hfile
  induction h with
  | refl => exact hfile
  | directory _ hnone ih =>
    rw [get?_set, if_neg hlength]
    split_ifs with heq
    · rw [heq, hnone] at ih
      cases ih
    · exact ih
  | page _ hpage _ ih =>
    rw [get?_set, if_neg hlength]
    split_ifs with heq
    · rw [heq] at hnot
      exact absurd hpage hnot
    · exact ih

/-- Nothing that was listed is lost. -/
theorem Published.keys (h : t.Published t') : t.entries.keys.Sublist t'.entries.keys := by
  induction h with
  | refl => exact .refl _
  | directory _ _ ih => exact ih.trans (Table.keys_sublist_insert _ _ _)
  | page _ _ _ ih => exact ih.trans (Table.keys_sublist_insert _ _ _)

end

end FileTree

/-! ### The pages of an integrator -/

theorem Identifier.slash_not_mem_of_isCanonical {identifier : String} (h : isCanonical identifier = true) :
    '/' ∉ identifier.toList := by
  intro hslash
  have hcanonical : isCanonicalChars identifier.toList = true := h
  exact absurd (isAlphanum_of_isCanonicalChars hcanonical _ hslash) (by decide)

/-- What follows an identifier in the name of its page. -/
theorem FileTree.pageEnding_suffix (identifier : String) : pageEnding <:+ (identifier ++ "_help.html").toList := by
  rw [String.toList_append]
  exact List.suffix_append _ _

theorem Path.isName_page {identifier : String} (h : Identifier.isCanonical identifier = true) :
    IsName (identifier ++ "_help.html") := by
  refine isName_of_suffix (FileTree.pageEnding_suffix identifier) (by decide) ?_
  rw [String.toList_append, List.mem_append, not_or]
  exact ⟨Identifier.slash_not_mem_of_isCanonical h, by decide⟩

/-- The pages of an integrator stand in one directory, as long as the identifiers are canonical. -/
theorem Integrator.exists_pagePath (i : Integrator) :
    ∃ above, ∀ identifier, Identifier.isCanonical identifier = true →
      FileTree.PagePath (i.helpPath identifier) above := by
  obtain ⟨above, habove⟩ := Path.exists_parent i.helpRoot
  refine ⟨above, fun identifier hcanonical => ?_⟩
  have hname := Path.isName_page hcanonical
  have hending := FileTree.pageEnding_suffix identifier
  refine ⟨habove _ hname, ?_, fun t place hl => ?_⟩
  · obtain ⟨front, hfront⟩ := hending.trans (Path.toList_suffix_join i.helpRoot _)
    rw [helpPath, Path.endsInSlash, ← hfront, List.getLast?_append_of_ne_nil _ (by decide)]
    decide
  · obtain ⟨dir, rfl⟩ := FileTree.getLast?_of_locate (Path.segments_join hname.slash) hname hl
    exact ⟨dir, _, rfl, hending⟩

end ToolPlugins
