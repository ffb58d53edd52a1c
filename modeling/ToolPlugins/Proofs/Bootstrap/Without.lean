import Mathlib
import ToolPlugins.Proofs.Bootstrap.Again

/-!
A bootstrap without the descriptors that another one skipped. Where all pages could be published, it integrates what
the other one did, and skips nothing. But the versions of an identifier are counted before it is known which of them
are integrated: an identifier of which only one version was integrated loses its switcher.
-/

namespace ToolPlugins

/-- The entry of the report on a descriptor that is integrated. -/
def FoundDescriptor.tool (f : FoundDescriptor) (multiVersion : Bool) : IntegratedTool :=
  ⟨f.identifier, f.version, f.typeName multiVersion, f.path⟩

namespace Bootstrap

/-- Several versions of an identifier are found, of which one is integrated. -/
def LosesVersions (options : BootstrapOptions) (all : List FoundDescriptor) (report : BootstrapReport)
    (identifier : String) : Prop :=
  options.forceMultiVersion = false ∧ SeveralVersions all identifier ∧
    ∃ e ∈ report.integrated, e.identifier = identifier ∧
      ∀ e' ∈ report.integrated, e'.identifier = identifier → e'.version = e.version

instance (all : List FoundDescriptor) (identifier : String) : Decidable (SeveralVersions all identifier) :=
  inferInstanceAs (Decidable (∃ f ∈ all, ∃ g ∈ all, _))

instance (options : BootstrapOptions) (all : List FoundDescriptor) (report : BootstrapReport) (identifier : String) :
    Decidable (LosesVersions options all report identifier) := inferInstanceAs (Decidable (_ ∧ _ ∧ _))

/-- Whether the task of a descriptor is registered. -/
def isRegistered (schema : Schema) (i : Integrator) (mode : GenerationMode) (f : FoundDescriptor) : Bool :=
  (verdict schema i mode f.descriptor).toOption.isSome

/-- Whether a descriptor is permitted and its task is registered. -/
def isAccepted (schema : Schema) (i : Integrator) (mode : GenerationMode) (permitted : String → Bool)
    (f : FoundDescriptor) : Bool :=
  permitted f.name && isRegistered schema i mode f

/-- The pages of all descriptors can be published. -/
def AllPages (schema : Schema) (i : Integrator) (options : BootstrapOptions) (all : List FoundDescriptor) (t : FileTree) :
    Prop :=
  ∀ f ∈ all, ∀ task, planned schema i options all f = .ok task → (t.publishPage task).1 = .ok ()

section
variable {schema : Schema} {i : Integrator} {options : BootstrapOptions} {all : List FoundDescriptor}
  {w w' : Installation} {dirs : List Path} {permitted : String → Bool} {f : FoundDescriptor} {task : LoadedTask}

theorem isRegistered_iff :
    isRegistered schema i options.mode f = true ↔ ∃ task, planned schema i options all f = .ok task := by
  rw [isRegistered, planned]
  cases verdict schema i options.mode f.descriptor with
  | error e => simp [Except.toOption, Except.map]
  | ok plugin => simp [Except.toOption, Except.map]

/-- Where pages can be published and records made, all that is registered is integrated. -/
theorem tool?_fate (hanswer : w.records.answer i.context options.createVersionRecords = .ok ())
    (hpage : ∀ task, planned schema i options all f = .ok task → (w.files.publishPage task).1 = .ok ()) :
    (fate schema i options all w f).tool? =
      if isRegistered schema i options.mode f then some (f.tool (isMultiVersion options all f.identifier)) else none := by
  cases hplanned : planned schema i options all f with
  | error e =>
    rw [fate_of_error hplanned, if_neg]
    · rfl
    · intro h
      obtain ⟨task, htask⟩ := isRegistered_iff.mp h
      cases hplanned.symm.trans htask
  | ok task =>
    obtain ⟨hid, hversion, htype, -⟩ := planned_spec hplanned
    rw [fate_of_page hplanned (hpage task hplanned), hanswer, if_pos (isRegistered_iff.mpr ⟨task, hplanned⟩)]
    dsimp only
    rw [hid, hversion, htype]
    rfl

theorem filterMap_eq_map_filter {α β : Type} {l : List α} {g : α → Option β} {p : α → Bool} {h : α → β}
    (hg : ∀ x ∈ l, g x = if p x = true then some (h x) else none) : l.filterMap g = (l.filter p).map h := by
  rw [← List.filterMap_eq_map, List.filterMap_filter]
  exact List.filterMap_congr hg

/-- A descriptor that is not integrated is reported as failed, whatever the reason. -/
theorem map_path_failed {fates : FoundDescriptor → Fate} {l : List FoundDescriptor}
    {rs : List (FoundDescriptor × Result LoadedTask)}
    (h : List.Forall₂ (fun f p => p.1 = f ∧ (fates f).Reports p) l rs) :
    (rs.filterMap failedDescriptor?).map (·.path) = (l.filter fun f => (fates f).tool?.isNone).map (·.path) := by
  induction h with
  | nil => rfl
  | @cons _ p _ rs hp _ ih =>
    obtain ⟨f, result⟩ := p
    obtain ⟨rfl, hp⟩ := hp
    have htool := integratedTool?_of_reports hp
    cases result with
    | error e =>
      rw [List.filter_cons_of_pos (by rw [← htool]; rfl), List.map_cons, ← ih]
      rfl
    | ok task =>
      rw [List.filter_cons_of_neg (by rw [← htool]; simp [integratedTool?]), ← ih]
      rfl

theorem exists_of_forall₂ {α β : Type} {r : α → β → Prop} {l : List α} {l' : List β} (h : List.Forall₂ r l l') {a : α}
    (ha : a ∈ l) : ∃ b ∈ l', r a b := by
  induction h with
  | nil => cases ha
  | @cons x y _ _ hxy _ ih =>
    rcases List.mem_cons.mp ha with rfl | ha
    · exact ⟨y, List.mem_cons_self, hxy⟩
    · obtain ⟨b, hb, hab⟩ := ih ha
      exact ⟨b, List.mem_cons_of_mem y hb, hab⟩

/-- Where no page failed, all pages could be published. -/
theorem allPages_of_reasons
    (h : ∀ s ∈ (w.bootstrap schema i dirs options permitted).report.skipped, ∀ page cause,
      s.reason ≠ (Failure.helpPublish page cause).message) :
    AllPages schema i options (candidates w dirs permitted) w.files := by
  intro f hf task hplanned
  obtain hok | ⟨cause, herror⟩ := Installation.page_result w.files task
  · exact hok
  · have hfates := @forall₂_results schema i options (candidates w dirs permitted) w (candidates w dirs permitted)
    obtain ⟨p, hp, hfst, hreports⟩ := exists_of_forall₂ hfates hf
    rw [fate_of_no_page hplanned herror] at hreports
    obtain ⟨cause', hresult⟩ : ∃ cause, p.2 = .error (.helpPublish task.helpPath cause) := hreports
    have hskipped : (⟨f.path, (Failure.helpPublish task.helpPath cause').message⟩ : SkippedDescriptor) ∈
        (w.bootstrap schema i dirs options permitted).report.skipped := by
      rw [(bootstrap_spec w schema i dirs options permitted).2.1]
      refine List.mem_append_right _ (List.mem_filterMap.mpr ⟨p, hp, ?_⟩)
      obtain ⟨g, result⟩ := p
      obtain rfl : g = f := hfst
      obtain rfl : result = .error (.helpPublish task.helpPath cause') := hresult
      rfl
    exact absurd rfl (h _ hskipped task.helpPath cause')

theorem AllPages.bootstrap (h : AllPages schema i options (candidates w dirs permitted) w.files) :
    AllPages schema i options (candidates w dirs permitted)
      (w.bootstrap schema i dirs options permitted).after.files := by
  intro f hf task hplanned
  rw [(bootstrap_spec w schema i dirs options permitted).2.2]
  exact (page_afterAll w _ hplanned).mpr (h f hf task hplanned)

/-- The pages of fewer descriptors can be published after files were deleted. -/
theorem AllPages.without {t : FileTree} (h : AllPages schema i options all t) {fewer : List FoundDescriptor}
    (hfewer : ∀ f ∈ fewer, f ∈ all) (paths : List Path) : AllPages schema i options fewer (t.without paths) := by
  intro f hf task' hplanned'
  obtain ⟨above, habove⟩ := i.exists_pagePath
  obtain ⟨task, hplanned⟩ : ∃ task, planned schema i options all f = .ok task :=
    isRegistered_iff.mp (isRegistered_iff.mpr ⟨task', hplanned'⟩)
  have hpath : task'.helpPath = task.helpPath := (planned_spec hplanned').2.2.2.trans (planned_spec hplanned).2.2.2.symm
  have hp := pagePath_of_planned habove hplanned
  have hopens := (FileTree.publishPage_ok_iff hp).mp (h f (hfewer f hf) task hplanned)
  rw [FileTree.publishPage_ok_iff (hpath ▸ hp), hpath]
  exact hopens.fewer (t.fewer_without paths)

/-! ### The tasks of one identifier -/

/-- The tasks that the descriptors of an identifier become, as versions of a switcher or not. -/
def tasksUnder (schema : Schema) (i : Integrator) (mode : GenerationMode) (multiVersion : Bool) (identifier : String)
    (l : List FoundDescriptor) : List LoadedTask :=
  (l.filter fun f => f.identifier == identifier).filterMap fun f =>
    (verdict schema i mode f.descriptor).toOption.map fun plugin => i.taskOf 0 plugin multiVersion

theorem filter_plan (l : List FoundDescriptor) (identifier : String) :
    ((plan schema i options all l).filter fun task => task.identifier == identifier) =
      tasksUnder schema i options.mode (isMultiVersion options all identifier) identifier l := by
  rw [plan, tasksUnder, List.filterMap_filter, List.filter_filterMap]
  refine List.filterMap_congr fun f _ => ?_
  cases hplanned : planned schema i options all f with
  | error e =>
    rw [planned] at hplanned
    cases hverdict : verdict schema i options.mode f.descriptor with
    | error e' => simp [Except.toOption]
    | ok plugin =>
      rw [hverdict] at hplanned
      cases hplanned
  | ok task =>
    have hid := (planned_spec hplanned).1
    obtain ⟨plugin, hverdict, rfl⟩ := planned_eq_ok_iff.mp hplanned
    rw [hverdict]
    by_cases hsame : f.identifier = identifier
    · subst hsame
      simp [Except.toOption, hid]
    · simp [Except.toOption, hid, hsame]

theorem tasksUnder_filter (mode : GenerationMode) (multiVersion : Bool) (identifier : String) (l : List FoundDescriptor) :
    tasksUnder schema i mode multiVersion identifier (l.filter (isRegistered schema i mode)) =
      tasksUnder schema i mode multiVersion identifier l := by
  rw [tasksUnder, tasksUnder, List.filterMap_filter, List.filterMap_filter, List.filterMap_filter]
  refine List.filterMap_congr fun f _ => ?_
  rw [isRegistered]
  cases verdict schema i mode f.descriptor with
  | error e => simp [Except.toOption]
  | ok plugin => simp [Except.toOption]

/-- Without a switcher, the tasks differ in the names of their types only. -/
theorem tasksUnder_false (mode : GenerationMode) (identifier : String) (l : List FoundDescriptor) :
    tasksUnder schema i mode false identifier l =
      (tasksUnder schema i mode true identifier l).map fun task => { task with typeName := identifier } := by
  rw [tasksUnder, tasksUnder, List.map_filterMap]
  refine List.filterMap_congr fun f hf => ?_
  have hid : f.identifier = identifier := beq_iff_eq.mp (List.mem_filter.mp hf).2
  cases hverdict : verdict schema i mode f.descriptor with
  | error e => rfl
  | ok plugin =>
    have hplain : i.taskOf 0 plugin false = { i.taskOf 0 plugin true with typeName := plugin.identifier } := rfl
    have hplugin : plugin.identifier = identifier := (identifier_of_verdict hverdict).1.trans hid
    rw [hplugin] at hplain
    exact congrArg some hplain

theorem mem_tasksUnder {mode : GenerationMode} {multiVersion : Bool} {identifier : String} {l : List FoundDescriptor}
    (h : task ∈ tasksUnder schema i mode multiVersion identifier l) :
    task.serial = 0 ∧ ∃ f ∈ l, f.identifier = identifier ∧ isRegistered schema i mode f = true ∧ task.version = f.version := by
  obtain ⟨f, hf, h⟩ := List.mem_filterMap.mp h
  obtain ⟨hf, hid⟩ := List.mem_filter.mp hf
  obtain ⟨plugin, hverdict, rfl⟩ := Option.map_eq_some_iff.mp h
  refine ⟨rfl, f, hf, beq_iff_eq.mp hid, ?_, ?_⟩
  · rw [isRegistered, hverdict]
    rfl
  · exact (taskOf_of_verdict (toOption_eq_some_iff.mp hverdict) 0 multiVersion).2.1

theorem tasksUnder_eq_nil_iff {mode : GenerationMode} {multiVersion : Bool} {identifier : String}
    {l : List FoundDescriptor} :
    tasksUnder schema i mode multiVersion identifier l = [] ↔
      ∀ f ∈ l, f.identifier = identifier → isRegistered schema i mode f = false := by
  rw [tasksUnder, List.filterMap_eq_nil_iff]
  constructor
  · intro h f hf hid
    have hnone := h f (List.mem_filter.mpr ⟨hf, beq_iff_eq.mpr hid⟩)
    rw [isRegistered, Option.map_eq_none_iff.mp hnone]
    rfl
  · intro h f hf
    obtain ⟨hf, hid⟩ := List.mem_filter.mp hf
    have hnot := h f hf (beq_iff_eq.mp hid)
    rw [isRegistered, Option.isSome_eq_false_iff, Option.isNone_iff_eq_none] at hnot
    rw [hnot, Option.map_none]

/-- A fresh bootstrap integrated all of its candidates that could be registered. -/
structure Complete (schema : Schema) (i : Integrator) (options : BootstrapOptions) (all : List FoundDescriptor)
    (run : BootstrapRun) : Prop where
  sound : run.after.registry.Sound
  integrated : run.report.integrated =
    (all.filter (isRegistered schema i options.mode)).map fun f => f.tool (isMultiVersion options all f.identifier)
  view : ∀ k, run.after.registry.view k =
    EntryView.putAll none (isMultiVersion options all k)
      (tasksUnder schema i options.mode (isMultiVersion options all k) k all)

section
variable (hanswer : w.records.answer i.context options.createVersionRecords = .ok ())
  (hpage : AllPages schema i options (candidates w dirs permitted) w.files)
include hanswer hpage

theorem complete_bootstrap (hw : w.registry = {}) :
    Complete schema i options (candidates w dirs permitted) (w.bootstrap schema i dirs options permitted) := by
  obtain ⟨hintegrated, -, hafter⟩ := bootstrap_spec w schema i dirs options permitted
  have hsound : w.registry.Sound := hw ▸ Registry.sound_empty
  refine ⟨sound_bootstrap hsound schema i dirs options permitted, ?_, fun k => ?_⟩
  · rw [hintegrated, filterMap_results]
    exact filterMap_eq_map_filter fun f hf => tool?_fate hanswer (hpage f hf)
  · rw [hafter, view_afterAll hsound, filter_plan, hw]
    rfl

theorem mem_skipped_iff {p : Path} :
    p ∈ (w.bootstrap schema i dirs options permitted).report.skipped.map (·.path) ↔
      ∃ f ∈ (Discovery.discover w.files dirs).1,
        isAccepted schema i options.mode permitted f = false ∧ f.path = p := by
  have hnone : ∀ f ∈ candidates w dirs permitted,
      (fate schema i options (candidates w dirs permitted) w f).tool?.isNone = !isRegistered schema i options.mode f := by
    intro f hf
    rw [tool?_fate hanswer (hpage f hf)]
    cases isRegistered schema i options.mode f with
    | true => rfl
    | false => rfl
  rw [(bootstrap_spec w schema i dirs options permitted).2.1, List.map_append, map_path_notPermitted,
    map_path_failed (forall₂_results w (candidates w dirs permitted)), List.filter_congr hnone, ← List.map_append,
    List.mem_map]
  refine exists_congr fun f => ?_
  rw [← and_assoc]
  refine and_congr_left fun _ => ?_
  rw [List.mem_append, List.mem_filter, List.mem_filter, candidates, List.mem_filter, isAccepted]
  cases permitted f.name with
  | false => simp
  | true => simp

end

theorem candidates_of_accepted
    (hfound : (Discovery.discover w'.files dirs).1 =
      (Discovery.discover w.files dirs).1.filter (isAccepted schema i options.mode permitted)) :
    candidates w' dirs permitted = (candidates w dirs permitted).filter (isRegistered schema i options.mode) := by
  rw [candidates, candidates, hfound, List.filter_filter, List.filter_filter]
  refine List.filter_congr fun f _ => ?_
  rw [isAccepted]
  cases permitted f.name with
  | false => simp
  | true => simp

end

/-! ### Without the skipped descriptors -/

/-- The second run integrates what the first one did and skips nothing. Where one version of several was integrated,
    it is integrated without a switcher. -/
structure Unaffected (options : BootstrapOptions) (all : List FoundDescriptor) (first second : BootstrapRun) : Prop where
  skipped : second.report.skipped = []
  integrated : second.report.integrated = first.report.integrated.map fun e =>
    if LosesVersions options all first.report e.identifier then { e with typeName := e.identifier } else e
  identifiers : second.after.registry.identifiers = first.after.registry.identifiers
  kept : ∀ k, ¬LosesVersions options all first.report k →
    second.after.registry.view k = first.after.registry.view k
  plain : ∀ k, LosesVersions options all first.report k → ∃ task,
    first.after.registry.view k = some (.versioned [(task.version, task)]) ∧
      second.after.registry.view k = some (.generic { task with typeName := k })

section
variable {schema : Schema} {i : Integrator} {options : BootstrapOptions} {l : List FoundDescriptor} {k : String}
  {first second : BootstrapRun}

theorem Complete.tool_mem (h : Complete schema i options l first) {f : FoundDescriptor}
    (hf : f ∈ l.filter (isRegistered schema i options.mode)) :
    f.tool (isMultiVersion options l f.identifier) ∈ first.report.integrated := by
  rw [h.integrated]
  exact List.mem_map_of_mem hf

/-- The versions of an identifier are counted anew among the descriptors that are registered. -/
theorem Complete.isMultiVersion_filter (h : Complete schema i options l first)
    (hk : ∃ f ∈ l.filter (isRegistered schema i options.mode), f.identifier = k) :
    isMultiVersion options (l.filter (isRegistered schema i options.mode)) k =
      if LosesVersions options l first.report k then false else isMultiVersion options l k := by
  split_ifs with hloses
  · obtain ⟨hforce, -, e, he, hid, hall⟩ := hloses
    refine Bool.eq_false_iff.mpr fun hmulti => ?_
    obtain hforce' | ⟨f, hf, g, hg, hfid, hgid, hne⟩ := isMultiVersion_iff.mp hmulti
    · cases hforce.symm.trans hforce'
    · exact hne ((hall _ (h.tool_mem hf) hfid).trans (hall _ (h.tool_mem hg) hgid).symm)
  · rw [Bool.eq_iff_iff, isMultiVersion_iff, isMultiVersion_iff]
    constructor
    · rintro (hforce | ⟨f, hf, g, hg, hids⟩)
      · exact .inl hforce
      · exact .inr ⟨f, (List.mem_filter.mp hf).1, g, (List.mem_filter.mp hg).1, hids⟩
    · rintro (hforce | hseveral)
      · exact .inl hforce
      · by_contra hnot
        rw [not_or, Bool.not_eq_true] at hnot
        obtain ⟨f, hf, hid⟩ := hk
        refine hloses ⟨hnot.1, hseveral, _, h.tool_mem hf, hid, fun e he heid => ?_⟩
        rw [h.integrated] at he
        obtain ⟨g, hg, rfl⟩ := List.mem_map.mp he
        by_contra hne
        exact hnot.2 ⟨g, hg, f, hf, heid, hid, hne⟩

/-- An identifier that loses its versions has tasks, and all of them have one version. -/
theorem Complete.exists_tasks (h : Complete schema i options l first) (hk : LosesVersions options l first.report k) :
    ∃ before last, tasksUnder schema i options.mode true k l = before ++ [last] ∧ last.unnumbered = last ∧
      (∀ task ∈ before, task.version = last.version) ∧
      ∃ f ∈ l.filter (isRegistered schema i options.mode), f.identifier = k := by
  obtain ⟨-, -, e, he, hid, hall⟩ := hk
  have hversion : ∀ task ∈ tasksUnder schema i options.mode true k l, task.version = e.version := by
    intro task htask
    obtain ⟨-, f, hf, hfid, hregistered, hv⟩ := mem_tasksUnder htask
    exact hv.trans (hall _ (h.tool_mem (List.mem_filter.mpr ⟨hf, hregistered⟩)) hfid)
  rw [h.integrated] at he
  obtain ⟨f, hf, rfl⟩ := List.mem_map.mp he
  rcases List.eq_nil_or_concat' (tasksUnder schema i options.mode true k l) with hnil | ⟨before, last, htasks⟩
  · have hnot := tasksUnder_eq_nil_iff.mp hnil f (List.mem_filter.mp hf).1 hid
    cases hnot.symm.trans (List.mem_filter.mp hf).2
  · rw [htasks] at hversion
    have hlast : last ∈ tasksUnder schema i options.mode true k l := by
      rw [htasks]
      exact List.mem_append_right _ List.mem_cons_self
    refine ⟨before, last, htasks, ?_, fun task htask => ?_, f, hf, hid⟩
    · rw [LoadedTask.unnumbered, ← (mem_tasksUnder hlast).1]
    · exact (hversion task (List.mem_append_left _ htask)).trans
        (hversion last (List.mem_append_right _ List.mem_cons_self)).symm

theorem Complete.kept (h : Complete schema i options l first)
    (h' : Complete schema i options (l.filter (isRegistered schema i options.mode)) second)
    (hk : ¬LosesVersions options l first.report k) :
    second.after.registry.view k = first.after.registry.view k := by
  rw [h.view, h'.view, tasksUnder_filter]
  by_cases hany : ∃ f ∈ l.filter (isRegistered schema i options.mode), f.identifier = k
  · rw [h.isMultiVersion_filter hany, if_neg hk]
  · have hnil : ∀ multiVersion, tasksUnder schema i options.mode multiVersion k l = [] := fun _ =>
      tasksUnder_eq_nil_iff.mpr fun f hf hid => Bool.eq_false_iff.mpr fun hregistered =>
        hany ⟨f, List.mem_filter.mpr ⟨hf, hregistered⟩, hid⟩
    rw [hnil, hnil]
    rfl

theorem Complete.plain (h : Complete schema i options l first)
    (h' : Complete schema i options (l.filter (isRegistered schema i options.mode)) second)
    (hk : LosesVersions options l first.report k) :
    ∃ task, first.after.registry.view k = some (.versioned [(task.version, task)]) ∧
      second.after.registry.view k = some (.generic { task with typeName := k }) := by
  obtain ⟨before, last, htasks, hlast, hversion, hany⟩ := h.exists_tasks hk
  have hmulti : isMultiVersion options l k = true := isMultiVersion_iff.mpr (.inr hk.2.1)
  refine ⟨last, ?_, ?_⟩
  · rw [h.view, hmulti, htasks, EntryView.putAll_one_version hversion, hlast]
  · rw [h'.view, h.isMultiVersion_filter hany, if_pos hk, tasksUnder_filter, tasksUnder_false, htasks, List.map_append,
      List.map_singleton, EntryView.putAll_generic]
    conv_rhs => rw [← hlast]
    rfl

/-- What is skipped does not matter to a complete bootstrap, but for the versions that it counts. -/
theorem Complete.unaffected (h : Complete schema i options l first)
    (h' : Complete schema i options (l.filter (isRegistered schema i options.mode)) second)
    (hskipped : second.report.skipped = []) : Unaffected options l first second := by
  refine ⟨hskipped, ?_, h.sound.identifiers_eq h'.sound fun k => ?_, fun k => h.kept h', fun k => h.plain h'⟩
  · rw [h'.integrated, h.integrated, List.filter_filter, List.map_map]
    simp only [Bool.and_self]
    refine List.map_congr_left fun f hf => ?_
    have hid : (f.tool (isMultiVersion options l f.identifier)).identifier = f.identifier := rfl
    rw [h.isMultiVersion_filter ⟨f, hf, rfl⟩, Function.comp_apply, hid]
    split_ifs
    · rfl
    · rfl
  · by_cases hk : LosesVersions options l first.report k
    · obtain ⟨task, hfirst, hsecond⟩ := h.plain h' hk
      rw [hfirst, hsecond]
      simp
    · rw [h.kept h' hk]

end

section
variable {schema : Schema} {i : Integrator} {options : BootstrapOptions} {dirs : List Path} {permitted : String → Bool}
  {t : FileTree}

/-- Without the files that were not accepted, the others are found. -/
theorem discover_accepted {paths : List Path}
    (hpaths : ∀ p, p ∈ paths ↔ ∃ f ∈ (Discovery.discover t dirs).1,
      isAccepted schema i options.mode permitted f = false ∧ f.path = p) :
    (Discovery.discover (t.without paths) dirs).1 =
      (Discovery.discover t dirs).1.filter (isAccepted schema i options.mode permitted) := by
  refine Discovery.discover_without (fun p hp => ?_) fun f hf place hplace => ?_
  · obtain ⟨f, hf, -, rfl⟩ := (hpaths p).mp hp
    exact (Discovery.read?_of_mem_discover hf).2
  · rw [FileTree.leadTo_iff]
    constructor
    · exact fun hnot => ⟨f.path, (hpaths f.path).mpr ⟨f, hf, hnot, rfl⟩, hplace⟩
    · rintro ⟨p, hp, hp'⟩
      obtain ⟨g, hg, hnot, rfl⟩ := (hpaths p).mp hp
      -- two paths to one file have its descriptor
      obtain ⟨-, place₁, hplace₁, hf⟩ := Discovery.read?_eq_some_iff.mp (Discovery.read?_of_mem_discover hf).1
      obtain ⟨-, place₂, hplace₂, hg⟩ := Discovery.read?_eq_some_iff.mp (Discovery.read?_of_mem_discover hg).1
      cases hplace.symm.trans hplace₁
      cases hp'.symm.trans hplace₂
      have hsame : f.descriptor = g.descriptor := Option.some.inj (hf.symm.trans hg)
      rw [isAccepted, isRegistered, FoundDescriptor.name] at hnot ⊢
      rwa [hsame]

end

/-- Where all pages are published, a fresh bootstrap without the files that another one skipped integrates what that
    one did and skips nothing, whether it finds the files as they were before the other one or after it. -/
theorem unaffected_without (schema : Schema) (i : Integrator) (dirs : List Path) (options : BootstrapOptions)
    (permitted : String → Bool) (files t : FileTree) (loaded loaded' : Nat)
    (hpages : ∀ s ∈ (({ files, loaded } : Installation).bootstrap schema i dirs options permitted).report.skipped,
      ∀ page cause, s.reason ≠ (Failure.helpPublish page cause).message)
    (ht : t = files ∨ t = (({ files, loaded } : Installation).bootstrap schema i dirs options permitted).after.files)
    (hfound : (Discovery.discover t dirs).1.map (·.path) = (Discovery.discover files dirs).1.map (·.path)) :
    Unaffected options (candidates ({ files, loaded } : Installation) dirs permitted)
      (({ files, loaded } : Installation).bootstrap schema i dirs options permitted)
      (({ files := t.without ((({ files, loaded } : Installation).bootstrap schema i dirs options
        permitted).report.skipped.map (·.path)), loaded := loaded' } : Installation).bootstrap schema i dirs options
          permitted) := by
  have hpage : AllPages schema i options (candidates ({ files, loaded } : Installation) dirs permitted) files := allPages_of_reasons hpages
  have hcomplete := complete_bootstrap (w := ({ files, loaded } : Installation)) (RecordStore.answer_of_no_outage rfl rfl _ _) hpage rfl
  have hmem := fun p =>
    mem_skipped_iff (w := ({ files, loaded } : Installation)) (p := p) (RecordStore.answer_of_no_outage rfl rfl _ _) hpage
  obtain ⟨hpublished, hpage'⟩ :
      files.Published t ∧ AllPages schema i options (candidates ({ files, loaded } : Installation) dirs permitted) t := by
    obtain rfl | rfl := ht
    · exact ⟨.refl, hpage⟩
    · exact ⟨published_bootstrap ({ files, loaded } : Installation) schema i dirs options permitted, hpage.bootstrap⟩
  have hdiscover : (Discovery.discover t dirs).1 = (Discovery.discover files dirs).1 :=
    Discovery.discover_eq_of_paths hpublished hfound
  generalize ({ files, loaded } : Installation).bootstrap schema i dirs options permitted = first at *
  generalize first.report.skipped.map (·.path) = paths at *
  rw [← hdiscover] at hmem
  have hsecond := (discover_accepted hmem).trans (congrArg _ hdiscover)
  have hcandidates : candidates ({ files := t.without paths, loaded := loaded' } : Installation) dirs permitted =
      (candidates ({ files, loaded } : Installation) dirs permitted).filter (isRegistered schema i options.mode) :=
    candidates_of_accepted hsecond
  have hpage'' : AllPages schema i options (candidates ({ files := t.without paths, loaded := loaded' } : Installation) dirs permitted)
      (t.without paths) := by
    refine hpage'.without (fun f hf => ?_) paths
    rw [hcandidates] at hf
    exact (List.mem_filter.mp hf).1
  have hcomplete' := complete_bootstrap (w := ({ files := t.without paths, loaded := loaded' } : Installation))
    (RecordStore.answer_of_no_outage rfl rfl _ _) hpage'' rfl
  rw [hcandidates] at hcomplete'
  refine hcomplete.unaffected hcomplete' (List.eq_nil_iff_forall_not_mem.mpr fun s hs => ?_)
  obtain ⟨f, hf, hnot, -⟩ :=
    (mem_skipped_iff (RecordStore.answer_of_no_outage rfl rfl _ _) hpage'').mp (List.mem_map_of_mem hs)
  rw [hsecond] at hf
  cases hnot.symm.trans (List.mem_filter.mp hf).2

theorem head?_append_of_head? {a b : String} {c : Char} (h : a.toList.head? = some c) :
    (a ++ b).toList.head? = some c := by
  rw [String.toList_append, List.head?_append, h, Option.some_or]

theorem head?_message_helpPublish (page : Path) (cause : FileError) :
    (Failure.helpPublish page cause).message.toList.head? = some 'F' := by
  have hfirst : "Failed to publish help file ".toList.head? = some 'F' := by decide +kernel
  exact head?_append_of_head? (head?_append_of_head? (head?_append_of_head? hfirst))

/-- Files with a descriptor of one version and one of another version, which has no command line. -/
def twoVersions : FileTree :=
  (FileTree.put {} "d/a.json"
    (.text "\x7b\"name\":\"a\",\"tool-version\":\"1\",\"command-line\":\"x\"\x7d")).put "e/a.json"
      (.text "\x7b\"name\":\"a\",\"tool-version\":\"2\"\x7d")

theorem unaffected_without_twoVersions :
    LosesVersions {} (candidates ({ files := twoVersions } : Installation) ["d", "e"] fun _ => true)
        (({ files := twoVersions } : Installation).bootstrap .bundled ⟨.client, "help"⟩ ["d", "e"] {} fun _ => true).report
        "A" ∧
      Unaffected {} (candidates ({ files := twoVersions } : Installation) ["d", "e"] fun _ => true)
        (({ files := twoVersions } : Installation).bootstrap .bundled ⟨.client, "help"⟩ ["d", "e"] {} fun _ => true)
        (({ files := twoVersions.without ((({ files := twoVersions } : Installation).bootstrap .bundled
          ⟨.client, "help"⟩ ["d", "e"] {} fun _ => true).report.skipped.map (·.path)) } : Installation).bootstrap .bundled
            ⟨.client, "help"⟩ ["d", "e"] {} fun _ => true) := by
  have hrun : (({ files := twoVersions } : Installation).bootstrap .bundled ⟨.client, "help"⟩ ["d", "e"] {}
      fun _ => true).report.integrated = [⟨"A", "1", "AV1", "d/a.json"⟩] ∧
      ∀ s ∈ (({ files := twoVersions } : Installation).bootstrap .bundled ⟨.client, "help"⟩ ["d", "e"] {}
        fun _ => true).report.skipped, s.reason.toList.head? = some 'D' := by
    decide +kernel
  constructor
  · rw [LosesVersions, hrun.1]
    decide +kernel
  · refine unaffected_without .bundled ⟨.client, "help"⟩ ["d", "e"] {} (fun _ => true) twoVersions twoVersions 0 0
      (fun s hs page cause heq => ?_) (.inl rfl) rfl
    have hreason := hrun.2 s hs
    rw [heq, head?_message_helpPublish] at hreason
    exact absurd hreason (by decide)

/-- A version that is skipped is counted: without its file, the other one is integrated without a switcher. And a
    descriptor that is found only because of the first run may be skipped by the second. -/
theorem bootstrap_without_skipped_differs :
    (let first := ({ files := twoVersions } : Installation).bootstrap .bundled ⟨.client, "help"⟩ ["d", "e"] {} fun _ => true
      let second := ({ files := first.after.files.without (first.report.skipped.map (·.path)) } : Installation).bootstrap
        .bundled ⟨.client, "help"⟩ ["d", "e"] {} fun _ => true
      first.report.skipped.map (·.path) = ["e/a.json"] ∧ first.report.integrated = [⟨"A", "1", "AV1", "d/a.json"⟩] ∧
        second.report.integrated = [⟨"A", "1", "A", "d/a.json"⟩] ∧
        first.after.registry.versioned.keys = ["A"] ∧ second.after.registry.generic.keys = ["A"]) ∧
    (let first := ({ files := twoVersions } : Installation).bootstrap .bundled ⟨.client, "help"⟩ ["d", "help/../e"] {}
        fun _ => true
      let second := ({ files := first.after.files.without (first.report.skipped.map (·.path)) } : Installation).bootstrap
        .bundled ⟨.client, "help"⟩ ["d", "help/../e"] {} fun _ => true
      first.report.skipped = [] ∧ second.report.skipped.map (·.path) = ["help/../e/a.json"]) := by
  decide +kernel

end Bootstrap

end ToolPlugins
