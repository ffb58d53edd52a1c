import Mathlib
import ToolPlugins.Proofs.FileTree.Pages
import ToolPlugins.Proofs.FileTree.Places

/-!
Runs of integrations by one integrator, and the pages that they leave. The path of a page is made from whatever
identifier a plugin has, but only after the task was loaded, and no task is loaded under an identifier that is not
canonical; so every page stands right in the page directory, and no two identifiers share one.
-/

namespace ToolPlugins

/-- The place right in the page directory that is named for an identifier. -/
def Integrator.pagePlace (i : Integrator) (identifier : String) : Location :=
  FileTree.placeOf i.helpRoot ++ [identifier ++ "_help.html"]

namespace Installation

/-- An integration that publishes the page of its task in the given way. -/
def integrateBy {σ : Type} [ToolStore σ] (publish : Installation σ → LoadedTask → Result Unit × Installation σ)
    (w : Installation σ) (i : Integrator) (plugin : GeneratedPlugin) (options : IntegrationOptions) : Outcome LoadedTask σ :=
  match i.loadTask w.loaded plugin options.multiVersion with
  | .error e => ⟨.error e, [], w⟩
  | .ok task =>
    let (warnings, w) := w.registerTask task options.multiVersion
    match publish w task with
    | (.error e, w) => ⟨.error e, warnings, w⟩
    | (.ok (), w) =>
      if options.register then
        let (result, w) := w.recordTask i.context task options.createVersionRecord
        ⟨result.map fun () => task, warnings, w⟩
      else ⟨.ok task, warnings, w⟩

/-- Publishing a page whose file cannot be written. The directories for it are created all the same. -/
def publishUnwritten (cause : FileError) (w : Installation) (task : LoadedTask) : Result Unit × Installation :=
  match task.helpPath.parent? with
  | none => (.error (.helpPublish task.helpPath cause), w)
  | some parent =>
    match w.files.makeDirectories parent with
    | (.error e, files) => (.error (.helpPublish task.helpPath e), { w with files })
    | (.ok (), files) => (.error (.helpPublish task.helpPath cause), { w with files })

end Installation

/-- The page was published, even if making the records failed after that. -/
def Outcome.published (o : Outcome LoadedTask) : Bool :=
  match o.result with
  | .error (.load _) => false
  | .error (.helpPublish _ _) => false
  | _ => true

/-- A call of an integrator, with the records as they are at the time. Writing the page may fail for a cause that the
    files do not show. -/
structure PageCall where
  plugin : GeneratedPlugin
  options : IntegrationOptions
  records : RecordStore
  writeError? : Option FileError := none

namespace PageCall

def publish (c : PageCall) : Installation → LoadedTask → Result Unit × Installation :=
  match c.writeError? with
  | none => Installation.publishHelp
  | some cause => Installation.publishUnwritten cause

def outcome (c : PageCall) (i : Integrator) (w : Installation) : Outcome LoadedTask :=
  { w with records := c.records }.integrateBy c.publish i c.plugin c.options

def text (c : PageCall) : String := c.plugin.artifacts.body .helpTemplate

/-- What a call can do to files: nothing where no task is loaded, nothing but directories where the page is not
    published, and else the page is written, whether or not records are made after that. -/
inductive Acts (c : PageCall) (i : Integrator) (t : FileTree) : Result LoadedTask → FileTree → Prop where
  | unloaded {problem : DefinitionProblem} : Acts c i t (.error (.load problem)) t
  | unpublished {cause : FileError} {t' : FileTree} :
      t.AddsDirectories t' (FileTree.parentPlaces (i.helpPath c.plugin.identifier)) →
      Acts c i t (.error (.helpPublish (i.helpPath c.plugin.identifier) cause)) t'
  | published {result : Result LoadedTask} {t' : FileTree} : Identifier.isCanonical c.plugin.identifier = true →
      t.AddsDirectories t' (FileTree.parentPlaces (i.helpPath c.plugin.identifier)) →
      t'.pagePlace? (i.helpPath c.plugin.identifier) = some (i.pagePlace c.plugin.identifier) →
      ((∃ message, result = .error (.store message)) ∨ ∃ task, result = .ok task ∧ task.plugin = c.plugin ∧
        task.identifier = c.plugin.identifier ∧ task.helpPath = i.helpPath c.plugin.identifier) →
      Acts c i t result (t'.set (i.pagePlace c.plugin.identifier) (.file (.text c.text) helpFileMode))

/-- A call writes at most the page of its own identifier, right in the page directory. It leaves the other pages, and its
    own if no task is loaded. The page of the task that it returns can be read, and is that of the task. -/
structure KeepsPages (c : PageCall) (i : Integrator) (w : Installation) : Prop where
  contained : ∀ q, (c.outcome i w).after.files.get? q = w.files.get? q ∨
    (q ∈ FileTree.parentPlaces (i.helpPath c.plugin.identifier) ∧ w.files.get? q = none ∧
      (c.outcome i w).after.files.get? q = some .directory) ∨
    q = i.pagePlace c.plugin.identifier ∧ Identifier.isCanonical c.plugin.identifier = true ∧
      (c.outcome i w).published = true ∧
      (c.outcome i w).after.files.get? q = some (.file (.text c.text) helpFileMode)
  unchanged : ∀ identifier,
    (c.plugin.identifier ≠ identifier ∨ ∃ problem, (c.outcome i w).result = .error (.load problem)) →
      (c.outcome i w).after.files.contentAt (i.pagePlace identifier) = w.files.contentAt (i.pagePlace identifier)
  read : ∀ task, (c.outcome i w).result = .ok task →
    task.helpPath = i.helpPath task.identifier ∧
      (c.outcome i w).after.files.readText task.helpPath = .ok (task.body .help) ∧
      (c.outcome i w).after.files.contentAt (i.pagePlace task.identifier) = some (.text (task.body .help))

end PageCall

namespace Integrator

def run (i : Integrator) (w : Installation) (calls : List PageCall) : Installation :=
  calls.foldl (fun w c => (c.outcome i w).after) w

/-- The calls with their outcomes. -/
def outcomes (i : Integrator) (w : Installation) : List PageCall → List (PageCall × Outcome LoadedTask)
  | [] => []
  | c :: calls => (c, c.outcome i w) :: i.outcomes (c.outcome i w).after calls

/-- The text of the last call for an identifier that published its page. -/
def lastText? (i : Integrator) (w : Installation) (calls : List PageCall) (identifier : String) : Option String :=
  ((i.outcomes w calls).filter fun x => x.1.plugin.identifier == identifier && x.2.published).getLast?.map (·.1.text)

/-- The pages after calls are the ones that were published last, in their places, and nothing else was written. -/
structure TruePages (i : Integrator) (w : Installation) (calls : List PageCall) : Prop where
  place : ∀ identifier, Identifier.isCanonical identifier = true →
    FileTree.placeOf (i.helpPath identifier) = i.pagePlace identifier
  call : ∀ before c after, calls = before ++ c :: after → c.KeepsPages i (i.run w before)
  latest : ∀ identifier, (i.run w calls).files.contentAt (i.pagePlace identifier) =
    ((i.lastText? w calls identifier).map .text).or (w.files.contentAt (i.pagePlace identifier))

end Integrator

/-! ### Integrations that publish in some way -/

namespace Installation

section
variable {publish : Installation → LoadedTask → Result Unit × Installation} {w w' : Installation} {i : Integrator}
  {plugin : GeneratedPlugin} {options : IntegrationOptions} {task : LoadedTask}

theorem integrateBy_of_error {e : Failure} (h : i.loadTask w.loaded plugin options.multiVersion = .error e) :
    w.integrateBy publish i plugin options = ⟨.error e, [], w⟩ := by
  rw [integrateBy, h]

theorem integrateBy_of_unpublished {e : Failure} (h : i.loadTask w.loaded plugin options.multiVersion = .ok task)
    (hpublish : publish (w.registerTask task options.multiVersion).2 task = (.error e, w')) :
    w.integrateBy publish i plugin options = ⟨.error e, (w.registerTask task options.multiVersion).1, w'⟩ := by
  rw [integrateBy, h]
  dsimp only
  rw [hpublish]

/-- Once the page is published the files stay as they are, whatever becomes of the records. -/
theorem integrateBy_of_published (h : i.loadTask w.loaded plugin options.multiVersion = .ok task)
    (hpublish : publish (w.registerTask task options.multiVersion).2 task = (.ok (), w')) :
    (w.integrateBy publish i plugin options).after.files = w'.files ∧
      ((w.integrateBy publish i plugin options).result = .ok task ∨
        ∃ message, (w.integrateBy publish i plugin options).result = .error (.store message)) := by
  rw [integrateBy, h]
  dsimp only
  rw [hpublish]
  dsimp only
  split_ifs
  · obtain ⟨records, hafter, hrecorded⟩ := recordTask_eq w' i.context task options.createVersionRecord
    refine ⟨by rw [hafter], ?_⟩
    obtain hrecorded | ⟨e, he, hrecorded⟩ := hrecorded
    · rw [hrecorded]
      exact .inl rfl
    · obtain ⟨message, rfl⟩ := RecordStore.message_of_refuses he
      rw [hrecorded]
      exact .inr ⟨message, rfl⟩
  · exact ⟨rfl, .inl rfl⟩

end

end Installation

/-! ### Places -/

theorem Integrator.placeOf_helpPath {identifier : String} (h : Identifier.isCanonical identifier = true)
    (i : Integrator) : FileTree.placeOf (i.helpPath identifier) = i.pagePlace identifier :=
  FileTree.placeOf_join_of_isName (Path.isName_page h)

theorem Integrator.pagePlace_inj {i : Integrator} {identifier other : String} :
    i.pagePlace identifier = i.pagePlace other ↔ identifier = other := by
  constructor
  · intro h
    have hname := List.singleton_injective (List.append_cancel_left h)
    rw [← String.toList_inj, String.toList_append, String.toList_append] at hname
    exact String.toList_inj.mp (List.append_cancel_right hname)
  · exact congrArg i.pagePlace

/-! ### One call -/

namespace PageCall

section
variable {c : PageCall} {i : Integrator} {w : Installation} {task : LoadedTask}

/-- A call is an integration, unless writing the page fails for a cause that the files do not show. -/
theorem outcome_eq_integrate (h : c.writeError? = none) :
    c.outcome i w = { w with records := c.records }.integrate i c.plugin c.options := by
  rw [outcome, publish, h]
  rfl

/-- However a page is published, directories are created first. Then publishing fails, or the page is in its place. -/
theorem publish_cases (hcanonical : Identifier.isCanonical c.plugin.identifier = true)
    (hpath : task.helpPath = i.helpPath c.plugin.identifier) (w : Installation) :
    ∃ t, w.files.AddsDirectories t (FileTree.parentPlaces task.helpPath) ∧
      ((∃ cause, c.publish w task = (.error (.helpPublish task.helpPath cause), { w with files := t })) ∨
        t.pagePlace? task.helpPath = some (i.pagePlace c.plugin.identifier) ∧
          c.publish w task =
            (.ok (), { w with files := t.set (i.pagePlace c.plugin.identifier) (FileTree.pageEntry task) })) := by
  -- the path could lead anywhere if the identifier were not canonical
  obtain ⟨above, habove⟩ := i.exists_pagePath
  have hp : FileTree.PagePath task.helpPath above := hpath ▸ habove _ hcanonical
  have hadds := FileTree.addsDirectories_makeAlong w.files above.upward
  rw [← FileTree.makeDirectories] at hadds
  rw [FileTree.parentPlaces, hp.parent]
  dsimp only
  rw [publish]
  cases c.writeError? with
  | none =>
    dsimp only
    rw [Installation.publishHelp_eq_publishPage]
    obtain ⟨e, t, hmade, hout⟩ | ⟨t, hmade, ⟨place, hplace, hout⟩ | ⟨-, e, hout⟩⟩ :=
      FileTree.publishPage_cases hp w.files
    · rw [hmade] at hadds
      rw [hout]
      exact ⟨t, hadds, .inl ⟨e, rfl⟩⟩
    · rw [hmade] at hadds
      have hl := (FileTree.pagePlace?_eq_some_iff.mp hplace).1
      have heq : place = i.pagePlace c.plugin.identifier := by
        rw [← Integrator.placeOf_helpPath hcanonical i, ← hpath]
        exact FileTree.eq_placeOf_of_locate hl
      rw [hout, ← heq]
      exact ⟨t, hadds, .inr ⟨hplace, rfl⟩⟩
    · rw [hmade] at hadds
      rw [hout]
      exact ⟨t, hadds, .inl ⟨e, rfl⟩⟩
  | some cause =>
    dsimp only
    rw [Installation.publishUnwritten, hp.parent]
    dsimp only
    generalize w.files.makeDirectories above = made at hadds
    obtain ⟨made, t⟩ := made
    cases made with
    | error e => exact ⟨t, hadds, .inl ⟨e, rfl⟩⟩
    | ok u => exact ⟨t, hadds, .inl ⟨cause, rfl⟩⟩

theorem acts (c : PageCall) (i : Integrator) (w : Installation) :
    c.Acts i w.files (c.outcome i w).result (c.outcome i w).after.files := by
  have hrecords : { w with records := c.records }.files = w.files := rfl
  rw [outcome, ← hrecords]
  generalize { w with records := c.records } = w
  cases hload : i.loadTask w.loaded c.plugin c.options.multiVersion with
  | error e =>
    obtain ⟨problem, rfl⟩ := Integrator.loadTask_error hload
    rw [Installation.integrateBy_of_error hload]
    exact .unloaded
  | ok task =>
    have hcanonical := Integrator.isCanonical_of_loadTask hload
    have hidentifier := Integrator.identifier_of_loadTask hload
    obtain ⟨hplugin, hpath⟩ : task.plugin = c.plugin ∧ task.helpPath = i.helpPath c.plugin.identifier := by
      obtain ⟨_, -, rfl⟩ := Integrator.loadTask_eq_ok_iff.mp hload
      exact ⟨rfl, rfl⟩
    have hfiles : (w.registerTask task c.options.multiVersion).2.files = w.files := by
      rw [Installation.registerTask_eq]
    obtain ⟨t, hadds, hcases⟩ :=
      c.publish_cases hcanonical hpath (w.registerTask task c.options.multiVersion).2
    rw [hfiles, hpath] at hadds
    rw [hpath] at hcases
    obtain ⟨cause, hpublish⟩ | ⟨hplace, hpublish⟩ := hcases
    · rw [Installation.integrateBy_of_unpublished hload hpublish]
      exact .unpublished hadds
    · obtain ⟨hafter, hresult⟩ := Installation.integrateBy_of_published hload hpublish
      have hentry : FileTree.pageEntry task = .file (.text c.text) helpFileMode := by
        rw [FileTree.pageEntry, LoadedTask.body, hplugin]
        rfl
      rw [hafter, hentry]
      refine .published hcanonical hadds hplace ?_
      obtain hresult | ⟨message, hresult⟩ := hresult
      · exact .inr ⟨task, hresult, hplugin, hidentifier, hpath⟩
      · exact .inl ⟨message, hresult⟩

/-- A page is what it was, unless the call was for its identifier and published it. -/
theorem contentAt_outcome (c : PageCall) (i : Integrator) (w : Installation) (identifier : String) :
    (c.outcome i w).after.files.contentAt (i.pagePlace identifier) =
      if c.plugin.identifier == identifier && (c.outcome i w).published then some (.text c.text)
      else w.files.contentAt (i.pagePlace identifier) := by
  have h := c.acts i w
  rw [Outcome.published]
  generalize (c.outcome i w).result = result at h ⊢
  generalize (c.outcome i w).after.files = files at h ⊢
  cases h with
  | unloaded => rw [Bool.and_false, if_neg Bool.false_ne_true]
  | unpublished hadds => rw [Bool.and_false, if_neg Bool.false_ne_true, hadds.contentAt]
  | published hcanonical hadds hplace hresult =>
    rw [FileTree.contentAt_set (FileTree.pagePlace?_eq_some_iff.mp hplace).2, hadds.contentAt]
    simp only [Integrator.pagePlace_inj, eq_comm (a := identifier)]
    obtain ⟨message, rfl⟩ | ⟨task, rfl, -⟩ := hresult
    · simp only [Bool.and_true, beq_iff_eq]
    · simp only [Bool.and_true, beq_iff_eq]

theorem keepsPages (c : PageCall) (i : Integrator) (w : Installation) : c.KeepsPages i w := by
  have hacts := c.acts i w
  constructor
  case contained =>
    intro q
    rw [Outcome.published]
    generalize (c.outcome i w).result = result at hacts ⊢
    generalize (c.outcome i w).after.files = files at hacts ⊢
    cases hacts with
    | unloaded => exact .inl rfl
    | unpublished hadds => exact (hadds q).imp_right .inl
    | published hcanonical hadds hplace hresult =>
      rw [FileTree.get?_set_of_not_directory (FileTree.pagePlace?_eq_some_iff.mp hplace).2]
      split_ifs with hq
      · refine .inr (.inr ⟨hq, hcanonical, ?_, rfl⟩)
        obtain ⟨message, rfl⟩ | ⟨task, rfl, -⟩ := hresult
        · rfl
        · rfl
      · exact (hadds q).imp_right .inl
  case unchanged =>
    intro identifier hcases
    rw [contentAt_outcome]
    obtain hne | ⟨problem, hresult⟩ := hcases
    · rw [beq_false_of_ne hne, Bool.false_and, if_neg Bool.false_ne_true]
    · rw [Outcome.published, hresult, Bool.and_false, if_neg Bool.false_ne_true]
  case read =>
    intro task h
    rw [h] at hacts
    generalize (c.outcome i w).after.files = files at hacts ⊢
    cases hacts with
    | published hcanonical hadds hplace hresult =>
      obtain ⟨_, hresult⟩ | ⟨_, heq, hplugin, hidentifier, hpath⟩ := hresult
      · cases hresult
      · cases heq
        have htext : c.text = task.body .help := by
          rw [LoadedTask.body, hplugin]
          rfl
        obtain ⟨above, habove⟩ := i.exists_pagePath
        have hget := (FileTree.pagePlace?_eq_some_iff.mp hplace).2
        have hresolve := FileTree.resolve_of_pagePlace? (habove _ hcanonical).slash hplace
        have hsame := FileTree.sameDirectories_set_file hget (.text c.text) helpFileMode
        have hentry := FileTree.get?_set_of_not_directory hget (.file (.text c.text) helpFileMode)
          (i.pagePlace c.plugin.identifier)
        rw [if_pos rfl] at hentry
        rw [hpath, hidentifier, ← htext]
        refine ⟨rfl, FileTree.readText_of_get? (hsame.resolve_iff.mpr hresolve) hentry, ?_⟩
        rw [FileTree.contentAt_set hget, if_pos rfl]

end

end PageCall

/-! ### Runs of calls -/

namespace Integrator

theorem run_concat (i : Integrator) (w : Installation) (calls : List PageCall) (c : PageCall) :
    i.run w (calls ++ [c]) = (c.outcome i (i.run w calls)).after := by
  rw [run, run, List.foldl_append]
  rfl

theorem outcomes_concat (i : Integrator) (w : Installation) (calls : List PageCall) (c : PageCall) :
    i.outcomes w (calls ++ [c]) = i.outcomes w calls ++ [(c, c.outcome i (i.run w calls))] := by
  induction calls generalizing w with
  | nil => rfl
  | cons first rest ih => exact congrArg ((first, first.outcome i w) :: ·) (ih _)

theorem lastText?_concat (i : Integrator) (w : Installation) (calls : List PageCall) (c : PageCall)
    (identifier : String) :
    i.lastText? w (calls ++ [c]) identifier =
      if c.plugin.identifier == identifier && (c.outcome i (i.run w calls)).published then some c.text
      else i.lastText? w calls identifier := by
  rw [lastText?, outcomes_concat, List.filter_append, List.filter_singleton]
  dsimp only
  cases c.plugin.identifier == identifier && (c.outcome i (i.run w calls)).published with
  | true =>
    rw [cond_true, List.getLast?_concat, if_pos rfl]
    rfl
  | false =>
    rw [cond_false, List.append_nil, if_neg Bool.false_ne_true]
    rfl

/-- A page is the one that was published last, or as it was before the calls. -/
theorem contentAt_run (i : Integrator) (w : Installation) (calls : List PageCall) (identifier : String) :
    (i.run w calls).files.contentAt (i.pagePlace identifier) =
      ((i.lastText? w calls identifier).map .text).or (w.files.contentAt (i.pagePlace identifier)) := by
  -- the last call decides if it published the page, and else it left the page as it was
  induction calls using List.reverseRecOn with
  | nil => rfl
  | append_singleton calls c ih =>
    rw [run_concat, c.contentAt_outcome, lastText?_concat]
    split_ifs
    · rfl
    · exact ih

/-- Whatever the identifiers of the plugins are and wherever a call fails, published pages stay true and in place. -/
theorem truePages (i : Integrator) (w : Installation) (calls : List PageCall) : i.TruePages w calls := by
  constructor
  · exact fun _ hcanonical => placeOf_helpPath hcanonical i
  · exact fun before c _ _ => c.keepsPages i (i.run w before)
  · exact contentAt_run i w calls

end Integrator

end ToolPlugins
