import Mathlib
import ToolPlugins.Proofs.Bootstrap.Report
import ToolPlugins.Proofs.FileTree.Pages
import ToolPlugins.Proofs.Installation.Records
import ToolPlugins.Proofs.Registry.View

/-!
What becomes of the descriptors of a bootstrap is settled before the first of them is integrated: by the descriptor,
by the files when its page cannot be published, and by the outages of the store. So the files, the records and the
registry that a bootstrap leaves are those that its planned tasks make.
-/

namespace ToolPlugins

namespace Bootstrap

/-- What becomes of a descriptor, but for the cause when its page is not published. -/
inductive Fate where
  | integrated (tool : IntegratedTool)
  | failed (e : Failure)
  | unpublished (page : Path)

/-- A result of a descriptor is the one of its fate. -/
def Fate.Reports : Fate → FoundDescriptor × Result LoadedTask → Prop
  | .integrated tool, p => integratedTool? p = some tool
  | .failed e, p => p.2 = .error e
  | .unpublished page, p => ∃ cause, p.2 = .error (.helpPublish page cause)

/-- The tool that is integrated. -/
def Fate.tool? : Fate → Option IntegratedTool
  | .integrated tool => some tool
  | _ => none

section
variable (schema : Schema) (i : Integrator) (options : BootstrapOptions) (all : List FoundDescriptor)

/-- The task that a descriptor becomes, if it is registered. -/
def planned (f : FoundDescriptor) : Result LoadedTask :=
  (verdict schema i options.mode f.descriptor).map fun plugin =>
    i.taskOf 0 plugin (isMultiVersion options all f.identifier)

/-- What becomes of a descriptor, as an installation has it. -/
def fate (w : Installation) (f : FoundDescriptor) : Fate :=
  match planned schema i options all f with
  | .error e => .failed e
  | .ok task =>
    match (w.files.publishPage task).1, w.records.answer i.context options.createVersionRecords with
    | .error _, _ => .unpublished task.helpPath
    | .ok (), .error e => .failed e
    | .ok (), .ok () => .integrated ⟨task.identifier, task.version, task.typeName, f.path⟩

/-- The tasks that descriptors become. -/
def plan (l : List FoundDescriptor) : List LoadedTask := l.filterMap fun f => (planned schema i options all f).toOption

/-- The descriptors that are registered, each with the task that it becomes under the next number. -/
def appearances (n : Nat) : List FoundDescriptor → List (FoundDescriptor × LoadedTask)
  | [] => []
  | f :: rest =>
    match planned schema i options all f with
    | .error _ => appearances n rest
    | .ok task => (f, { task with serial := n }) :: appearances (n + 1) rest

end

section
variable {schema : Schema} {i : Integrator} {options : BootstrapOptions} {all : List FoundDescriptor} {w : Installation}
  {f g : FoundDescriptor} {task : LoadedTask}

/-! ### One descriptor -/

theorem planned_eq_ok_iff :
    planned schema i options all f = .ok task ↔ ∃ plugin, verdict schema i options.mode f.descriptor = .ok plugin ∧
      i.taskOf 0 plugin (isMultiVersion options all f.identifier) = task := map_eq_ok_iff

theorem planned_spec (h : planned schema i options all f = .ok task) :
    task.identifier = f.identifier ∧ task.version = f.version ∧
      task.typeName = f.typeName (isMultiVersion options all f.identifier) ∧ task.helpPath = i.helpPath f.identifier := by
  obtain ⟨plugin, hverdict, rfl⟩ := planned_eq_ok_iff.mp h
  obtain ⟨hid, hversion, htype⟩ := taskOf_of_verdict hverdict 0 (isMultiVersion options all f.identifier)
  exact ⟨hid, hversion, htype, congrArg i.helpPath (identifier_of_verdict hverdict).1⟩

theorem integrateOne_of_planned_error {e : Failure} (h : planned schema i options all f = .error e) :
    (integrateOne schema i options all w f).result = .error e ∧ (integrateOne schema i options all w f).after = w := by
  refine integrateOne_of_error ?_
  rw [planned] at h
  cases hverdict : verdict schema i options.mode f.descriptor with
  | error e' =>
    rw [hverdict] at h
    cases h
    rfl
  | ok plugin =>
    rw [hverdict] at h
    cases h

/-- The number of a task matters neither to its page nor to its records. -/
theorem publishPage_serial (t : FileTree) (task : LoadedTask) (n : Nat) :
    t.publishPage { task with serial := n } = t.publishPage task := rfl

theorem recordTask_serial (s : RecordStore) (context : ExecutionContext) (task : LoadedTask) (n : Nat) (version : Bool) :
    ToolStore.recordTask s context { task with serial := n } version = ToolStore.recordTask s context task version := rfl

/-- A planned task is registered under the next number, and recorded if its page is published. -/
theorem integrateOne_of_planned (h : planned schema i options all f = .ok task) :
    (integrateOne schema i options all w f).after.registry =
        w.registry.changed (.ofTask { task with serial := w.loaded } (isMultiVersion options all f.identifier)) ∧
      (integrateOne schema i options all w f).after.files = (w.files.publishPage task).2 ∧
      ((w.files.publishPage task).1 = .ok () ∧
          (integrateOne schema i options all w f).after.records =
            (ToolStore.recordTask w.records i.context task options.createVersionRecords).2 ∧
          (integrateOne schema i options all w f).result =
            (w.records.answer i.context options.createVersionRecords).map (fun _ => { task with serial := w.loaded }) ∨
        ∃ cause, (w.files.publishPage task).1 = .error (.helpPublish task.helpPath cause) ∧
          (integrateOne schema i options all w f).after.records = w.records ∧
          (integrateOne schema i options all w f).result = .error (.helpPublish task.helpPath cause)) := by
  obtain ⟨plugin, hverdict, rfl⟩ := planned_eq_ok_iff.mp h
  obtain ⟨hresult, hafter⟩ := @integrateOne_of_ok _ schema i options all w f _ plugin hverdict
  generalize htask : i.taskOf 0 plugin (isMultiVersion options all f.identifier) = task
  have hload : i.loadTask w.loaded plugin (integrationOptions options all f).multiVersion =
      .ok { task with serial := w.loaded } := by
    rw [← htask]
    exact loadTask_taskFor hverdict
  obtain ⟨hregistry, hfiles⟩ := Installation.after_integrate hload
  rw [hresult, hafter]
  refine ⟨hregistry, ?_, ?_⟩
  · rw [hfiles, publishPage_serial]
  · obtain hpage | ⟨cause, hpage⟩ := Installation.page_result w.files task
    · rw [Installation.integrate_of_recorded hload ((congrArg Prod.fst (publishPage_serial _ _ _)).trans hpage) rfl,
        recordTask_serial]
      refine .inl ⟨hpage, rfl, ?_⟩
      dsimp only [integrationOptions]
      rw [(w.records.recordTask_spec i.context task options.createVersionRecords).1]
    · rw [Installation.integrate_of_page_error hload ((congrArg Prod.fst (publishPage_serial _ _ _)).trans hpage)]
      exact .inr ⟨cause, hpage, rfl, rfl⟩

theorem extends_integrateOne (w : Installation) (f : FoundDescriptor) :
    w.records.Extends (integrateOne schema i options all w f).after.records := by
  cases hplanned : planned schema i options all f with
  | error e =>
    rw [(integrateOne_of_planned_error hplanned).2]
    exact .refl _
  | ok task =>
    obtain ⟨-, -, ⟨-, hrecords, -⟩ | ⟨cause, -, hrecords, -⟩⟩ := @integrateOne_of_planned schema i options all w f task hplanned
    · rw [hrecords]
      exact (w.records.recordTask_spec i.context task options.createVersionRecords).2.1
    · rw [hrecords]
      exact .refl _

/-! ### Fates -/

theorem fate_of_error {e : Failure} (h : planned schema i options all f = .error e) :
    fate schema i options all w f = .failed e := by
  rw [fate, h]

theorem fate_of_page (h : planned schema i options all f = .ok task) (hpage : (w.files.publishPage task).1 = .ok ()) :
    fate schema i options all w f = match w.records.answer i.context options.createVersionRecords with
      | .error e => .failed e
      | .ok () => .integrated ⟨task.identifier, task.version, task.typeName, f.path⟩ := by
  rw [fate, h]
  dsimp only
  rw [hpage]
  cases w.records.answer i.context options.createVersionRecords with
  | error e => rfl
  | ok u => rfl

theorem fate_of_no_page {e : Failure} (h : planned schema i options all f = .ok task)
    (hpage : (w.files.publishPage task).1 = .error e) :
    fate schema i options all w f = .unpublished task.helpPath := by
  rw [fate, h]
  dsimp only
  rw [hpage]

/-- Installations where the same page can be published and the store answers alike have the same fate for it. -/
theorem fate_congr {w' : Installation}
    (hpage : ∀ task, planned schema i options all f = .ok task →
      ((w'.files.publishPage task).1 = .ok () ↔ (w.files.publishPage task).1 = .ok ()))
    (hanswer : w'.records.answer i.context options.createVersionRecords =
      w.records.answer i.context options.createVersionRecords) :
    fate schema i options all w' f = fate schema i options all w f := by
  cases hplanned : planned schema i options all f with
  | error e => rw [fate_of_error hplanned, fate_of_error hplanned]
  | ok task =>
    have hiff := hpage task hplanned
    obtain hok | ⟨cause, herror⟩ := Installation.page_result w.files task
    · rw [fate_of_page hplanned hok, fate_of_page hplanned (hiff.mpr hok), hanswer]
    · obtain hok' | ⟨cause', herror'⟩ := Installation.page_result w'.files task
      · cases herror.symm.trans (hiff.mp hok')
      · rw [fate_of_no_page hplanned herror, fate_of_no_page hplanned herror']

theorem reports_fate (w : Installation) (f : FoundDescriptor) :
    (fate schema i options all w f).Reports (f, (integrateOne schema i options all w f).result) := by
  cases hplanned : planned schema i options all f with
  | error e =>
    rw [fate_of_error hplanned]
    exact (integrateOne_of_planned_error hplanned).1
  | ok task =>
    obtain ⟨-, -, ⟨hpage, -, hresult⟩ | ⟨cause, hpage, -, hresult⟩⟩ := integrateOne_of_planned (w := w) hplanned
    · rw [fate_of_page hplanned hpage, hresult]
      cases w.records.answer i.context options.createVersionRecords with
      | error e => rfl
      | ok u => rfl
    · rw [fate_of_no_page hplanned hpage]
      exact ⟨cause, hresult⟩

variable {above : Path}

theorem pagePath_of_planned
    (habove : ∀ identifier, Identifier.isCanonical identifier = true → FileTree.PagePath (i.helpPath identifier) above)
    (h : planned schema i options all f = .ok task) : FileTree.PagePath task.helpPath above := by
  rw [(planned_spec h).2.2.2]
  exact habove _ (Identifier.isCanonical_classify f.name)

/-- Integrating one descriptor does not change whether the page of another can be published. -/
theorem page_integrateOne (w : Installation) (g : FoundDescriptor) (h : planned schema i options all f = .ok task) :
    ((integrateOne schema i options all w g).after.files.publishPage task).1 = .ok () ↔
      (w.files.publishPage task).1 = .ok () := by
  obtain ⟨above, habove⟩ := i.exists_pagePath
  have hp := pagePath_of_planned habove h
  cases hplanned : planned schema i options all g with
  | error e => rw [(integrateOne_of_planned_error hplanned).2]
  | ok other =>
    rw [(integrateOne_of_planned hplanned).2.1, FileTree.publishPage_ok_iff hp, FileTree.publishPage_ok_iff hp,
      FileTree.opens_publishPage (pagePath_of_planned habove hplanned)]

theorem fate_integrateOne (w : Installation) (f g : FoundDescriptor) :
    fate schema i options all (integrateOne schema i options all w g).after f = fate schema i options all w f :=
  fate_congr (fun _ htask => page_integrateOne w g htask) ((extends_integrateOne w g).answer _ _)

/-! ### All descriptors -/

/-- Each result is the one of a fate that was settled before the first descriptor. -/
theorem forall₂_results (w : Installation) (l : List FoundDescriptor) :
    List.Forall₂ (fun f p => p.1 = f ∧ (fate schema i options all w f).Reports p) l (results schema i options all w l) := by
  induction l generalizing w with
  | nil => exact .nil
  | cons f rest ih =>
    refine .cons ⟨rfl, reports_fate w f⟩ ((ih _).imp fun g p hp => ?_)
    rwa [fate_integrateOne] at hp

theorem integratedTool?_of_reports {fate : Fate} {p : FoundDescriptor × Result LoadedTask} (h : fate.Reports p) :
    integratedTool? p = fate.tool? := by
  obtain ⟨f, result⟩ := p
  cases fate with
  | integrated tool => exact h
  | failed e =>
    obtain rfl : result = .error e := h
    rfl
  | unpublished page =>
    obtain ⟨cause, rfl⟩ : ∃ cause, result = .error (.helpPublish page cause) := h
    rfl

theorem filterMap_of_forall₂ {α β γ : Type} {r : α → β → Prop} {l : List α} {l' : List β} {g : α → Option γ}
    {g' : β → Option γ} (h : List.Forall₂ r l l') (hg : ∀ a ∈ l, ∀ b, r a b → g' b = g a) :
    l'.filterMap g' = l.filterMap g := by
  induction h with
  | nil => rfl
  | @cons a b l l' hab _ ih =>
    rw [List.filterMap_cons, List.filterMap_cons, hg a List.mem_cons_self b hab,
      ih fun x hx => hg x (List.mem_cons_of_mem a hx)]

theorem filterMap_results (w : Installation) (l : List FoundDescriptor) :
    (results schema i options all w l).filterMap integratedTool? =
      l.filterMap fun f => (fate schema i options all w f).tool? :=
  filterMap_of_forall₂ (forall₂_results w l) fun _ _ _ h => integratedTool?_of_reports h.2

theorem afterAll_cons (w : Installation) (f : FoundDescriptor) (rest : List FoundDescriptor) :
    afterAll schema i options all w (f :: rest) =
      afterAll schema i options all (integrateOne schema i options all w f).after rest := rfl

theorem plan_cons_of_error {e : Failure} (h : planned schema i options all f = .error e) (rest : List FoundDescriptor) :
    plan schema i options all (f :: rest) = plan schema i options all rest :=
  List.filterMap_cons_none (by rw [h]; rfl)

theorem plan_cons_of_ok (h : planned schema i options all f = .ok task) (rest : List FoundDescriptor) :
    plan schema i options all (f :: rest) = task :: plan schema i options all rest :=
  List.filterMap_cons_some (by rw [h]; rfl)

theorem mem_plan {l : List FoundDescriptor} :
    task ∈ plan schema i options all l ↔ ∃ f ∈ l, planned schema i options all f = .ok task := by
  rw [plan, List.mem_filterMap]
  exact exists_congr fun f => and_congr_right fun _ => toOption_eq_some_iff

theorem pagePath_of_mem_plan
    (habove : ∀ identifier, Identifier.isCanonical identifier = true → FileTree.PagePath (i.helpPath identifier) above)
    (l : List FoundDescriptor) : ∀ task ∈ plan schema i options all l, FileTree.PagePath task.helpPath above := by
  intro task htask
  obtain ⟨f, -, hplanned⟩ := mem_plan.mp htask
  exact pagePath_of_planned habove hplanned

theorem files_afterAll (w : Installation) (l : List FoundDescriptor) :
    (afterAll schema i options all w l).files = w.files.publishPages (plan schema i options all l) := by
  induction l generalizing w with
  | nil => rfl
  | cons f rest ih =>
    rw [afterAll_cons, ih]
    cases hplanned : planned schema i options all f with
    | error e => rw [(integrateOne_of_planned_error hplanned).2, plan_cons_of_error hplanned]
    | ok task =>
      rw [(integrateOne_of_planned hplanned).2.1, plan_cons_of_ok hplanned]
      rfl

theorem extends_afterAll (w : Installation) (l : List FoundDescriptor) :
    w.records.Extends (afterAll schema i options all w l).records := by
  induction l generalizing w with
  | nil => exact .refl _
  | cons f rest ih => exact (extends_integrateOne w f).trans (ih _)

theorem page_afterAll (w : Installation) (l : List FoundDescriptor) (h : planned schema i options all f = .ok task) :
    ((afterAll schema i options all w l).files.publishPage task).1 = .ok () ↔ (w.files.publishPage task).1 = .ok () := by
  induction l generalizing w with
  | nil => rfl
  | cons g rest ih => exact (ih _).trans (page_integrateOne w g h)

theorem fate_afterAll (w : Installation) (l : List FoundDescriptor) (f : FoundDescriptor) :
    fate schema i options all (afterAll schema i options all w l) f = fate schema i options all w f :=
  fate_congr (fun _ htask => page_afterAll w l htask) ((extends_afterAll w l).answer _ _)

/-- The records of every task are known after its page was published. -/
theorem known_afterAll (w : Installation) {l : List FoundDescriptor} (htask : task ∈ plan schema i options all l)
    (hpage : (w.files.publishPage task).1 = .ok ()) :
    (afterAll schema i options all w l).records.Known i.context task options.createVersionRecords := by
  obtain ⟨f, hf, hplanned⟩ := mem_plan.mp htask
  induction l generalizing w with
  | nil => cases hf
  | cons g rest ih =>
    rw [afterAll_cons]
    rcases List.mem_cons.mp hf with rfl | hf
    · refine (extends_afterAll _ rest).known ?_
      obtain ⟨-, -, ⟨-, hrecords, -⟩ | ⟨cause, hpage', -⟩⟩ := integrateOne_of_planned (w := w) hplanned
      · rw [hrecords]
        exact (w.records.recordTask_spec i.context task options.createVersionRecords).2.2
      · cases hpage.symm.trans hpage'
    · exact ih _ (mem_plan.mpr ⟨f, hf, hplanned⟩) ((page_integrateOne w g hplanned).mpr hpage) hf

theorem records_afterAll {w : Installation} {l : List FoundDescriptor}
    (h : ∀ task ∈ plan schema i options all l, (w.files.publishPage task).1 = .ok () →
      w.records.Known i.context task options.createVersionRecords) :
    (afterAll schema i options all w l).records = w.records := by
  induction l generalizing w with
  | nil => rfl
  | cons f rest ih =>
    have hrecords : (integrateOne schema i options all w f).after.records = w.records := by
      cases hplanned : planned schema i options all f with
      | error e => rw [(integrateOne_of_planned_error hplanned).2]
      | ok task =>
        obtain ⟨-, -, ⟨hpage, hrecords, -⟩ | ⟨cause, -, hrecords, -⟩⟩ := integrateOne_of_planned (w := w) hplanned
        · rw [hrecords]
          exact RecordStore.recordTask_of_known (h task (mem_plan.mpr ⟨f, List.mem_cons_self, hplanned⟩) hpage)
        · exact hrecords
    rw [afterAll_cons, ih, hrecords]
    intro task htask hpage
    obtain ⟨g, hg, hplanned⟩ := mem_plan.mp htask
    rw [hrecords]
    exact h task (mem_plan.mpr ⟨g, List.mem_cons_of_mem f hg, hplanned⟩) ((page_integrateOne w f hplanned).mp hpage)

theorem loaded_integrateOne (h : planned schema i options all f = .ok task) :
    (integrateOne schema i options all w f).after.loaded = w.loaded + 1 := by
  obtain ⟨plugin, hverdict, -⟩ := planned_eq_ok_iff.mp h
  obtain ⟨-, hafter⟩ := @integrateOne_of_ok _ schema i options all w f _ plugin hverdict
  obtain ⟨records, files, heq, -⟩ := Installation.integrate_of_ok (w := w) (loadTask_taskFor hverdict)
  rw [hafter, heq, Installation.registerTask_eq]

theorem appearances_cons_of_error {e : Failure} (h : planned schema i options all f = .error e) (n : Nat)
    (rest : List FoundDescriptor) :
    appearances schema i options all n (f :: rest) = appearances schema i options all n rest := by
  rw [appearances, h]

theorem appearances_cons_of_ok (h : planned schema i options all f = .ok task) (n : Nat) (rest : List FoundDescriptor) :
    appearances schema i options all n (f :: rest) =
      (f, { task with serial := n }) :: appearances schema i options all (n + 1) rest := by
  rw [appearances, h]

/-- The planned tasks are registered one after the other, whether or not their pages are published. -/
theorem registry_afterAll (w : Installation) (l : List FoundDescriptor) :
    (afterAll schema i options all w l).registry =
      w.registry.registerAll (isMultiVersion options all)
        ((appearances schema i options all w.loaded l).map (·.2)) := by
  induction l generalizing w with
  | nil => rfl
  | cons f rest ih =>
    rw [afterAll_cons, ih]
    cases hplanned : planned schema i options all f with
    | error e => rw [(integrateOne_of_planned_error hplanned).2, appearances_cons_of_error hplanned]
    | ok task =>
      rw [(integrateOne_of_planned hplanned).1, loaded_integrateOne hplanned, appearances_cons_of_ok hplanned,
        ← (planned_spec hplanned).1]
      rfl

theorem map_unnumbered_appearances (n : Nat) (l : List FoundDescriptor) :
    ((appearances schema i options all n l).map (·.2)).map LoadedTask.unnumbered = plan schema i options all l := by
  induction l generalizing n with
  | nil => rfl
  | cons f rest ih =>
    cases hplanned : planned schema i options all f with
    | error e => rw [appearances_cons_of_error hplanned, plan_cons_of_error hplanned, ih]
    | ok task =>
      obtain ⟨plugin, -, rfl⟩ := planned_eq_ok_iff.mp hplanned
      rw [appearances_cons_of_ok hplanned, plan_cons_of_ok hplanned, ← ih (n + 1)]
      rfl

theorem view_afterAll {w : Installation} (hw : w.registry.Sound) (l : List FoundDescriptor) (identifier : String) :
    (afterAll schema i options all w l).registry.view identifier =
      EntryView.putAll (w.registry.view identifier) (isMultiVersion options all identifier)
        ((plan schema i options all l).filter fun task => task.identifier == identifier) := by
  rw [registry_afterAll, Registry.view_registerAll hw, ← map_unnumbered_appearances w.loaded l]
  generalize (appearances schema i options all w.loaded l).map (·.2) = tasks
  rw [List.filter_map, EntryView.putAll_map_unnumbered]
  rfl

theorem sound_afterAll {w : Installation} (hw : w.registry.Sound) (l : List FoundDescriptor) :
    (afterAll schema i options all w l).registry.Sound := by
  induction l generalizing w with
  | nil => exact hw
  | cons f rest ih => exact ih (sound_integrateOne hw f)

end

end Bootstrap

end ToolPlugins
