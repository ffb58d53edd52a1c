import Mathlib
import ToolPlugins.Installation
import ToolPlugins.Proofs.Result

/-!
The two ways an integration goes: the task is not loaded and nothing changes, or it is loaded and
registered, whatever happens after that. What the store answers is taken as it comes.
-/

namespace ToolPlugins

namespace ToolStore

variable {σ : Type} [ToolStore σ]

/-- A store meets some request with a failure. -/
def Refuses (σ : Type) [ToolStore σ] (e : Failure) : Prop :=
  (∃ (s : σ) (key : String) (fields : ToolFields), (upsertTool s key fields).1 = .error e) ∨
    ∃ (s : σ) (tool : ToolRecord) (host version : String) (fields : ToolFields),
      (upsertVersion s tool host version fields).1 = .error e

/-- The failures of a store are its own: it tells neither of a definition that does not load nor of a help page that is
    not published. -/
structure OwnFailures (σ : Type) [ToolStore σ] : Prop where
  load : ∀ problem, ¬Refuses σ (.load problem)
  page : ∀ path cause, ¬Refuses σ (.helpPublish path cause)

/-- Whoever asks for the records of a task is refused only as the store refuses. -/
theorem recordTask_result (records : σ) (context : ExecutionContext) (task : LoadedTask) (version : Bool) :
    (recordTask records context task version).1 = .ok () ∨
      ∃ e, Refuses σ e ∧ (recordTask records context task version).1 = .error e := by
  rw [recordTask]
  split
  · next e records' htool => exact .inr ⟨e, .inl ⟨_, _, _, by rw [htool]⟩, rfl⟩
  · next tool records' htool =>
    split
    · next host =>
      rcases hmade : upsertVersion records' tool.record host task.version (ToolFields.ofDescriptor task.plugin.descriptor)
        with ⟨made, records''⟩
      cases made with
      | ok record => exact .inl rfl
      | error e => exact .inr ⟨e, .inr ⟨_, _, _, _, _, by rw [hmade]⟩, rfl⟩
    · exact .inl rfl

end ToolStore

/-- A store with outages refuses in no other way. -/
theorem RecordStore.message_of_refuses {e : Failure} (h : ToolStore.Refuses RecordStore e) :
    ∃ message, e = .store message := by
  obtain ⟨s, key, fields, h⟩ | ⟨s, tool, host, version, fields, h⟩ := h
  · change (s.upsertTool key fields).1 = _ at h
    rw [upsertTool] at h
    split at h
    · cases h
      exact ⟨_, rfl⟩
    · cases h
  · change (s.upsertVersion tool host version fields).1 = _ at h
    rw [upsertVersion] at h
    split at h
    · cases h
      exact ⟨_, rfl⟩
    · cases h

theorem RecordStore.ownFailures : ToolStore.OwnFailures RecordStore where
  load := by
    intro problem h
    obtain ⟨message, h⟩ := message_of_refuses h
    cases h
  page := by
    intro path cause h
    obtain ⟨message, h⟩ := message_of_refuses h
    cases h

namespace Installation

section
variable {σ : Type} {w : Installation σ} {i : Integrator} {plugin : GeneratedPlugin} {options : IntegrationOptions}

/-- Publishing a help page changes the files only, and fails as such. -/
theorem publishHelp_eq (w : Installation σ) (task : LoadedTask) :
    ∃ files, (w.publishHelp task).2 = { w with files } ∧
      ((w.publishHelp task).1 = .ok () ∨ ∃ path cause, (w.publishHelp task).1 = .error (.helpPublish path cause)) := by
  rw [publishHelp]
  split
  · next path e files _ => exact ⟨files, rfl, .inr ⟨_, _, rfl⟩⟩
  · next files _ =>
    split
    · exact ⟨files, rfl, .inr ⟨_, _, rfl⟩⟩
    · next files _ => exact ⟨files, rfl, .inl rfl⟩

variable [ToolStore σ]

theorem integrate_of_error {e : Failure}
    (h : i.loadTask w.loaded plugin options.multiVersion = .error e) :
    w.integrate i plugin options = ⟨.error e, [], w⟩ := by
  rw [integrate, h]

/-- Recording a task changes the records only, and fails as the store does. -/
theorem recordTask_eq (w : Installation σ) (context : ExecutionContext) (task : LoadedTask) (version : Bool) :
    ∃ records, (w.recordTask context task version).2 = { w with records } ∧
      ((w.recordTask context task version).1 = .ok () ∨
        ∃ e, ToolStore.Refuses σ e ∧ (w.recordTask context task version).1 = .error e) :=
  ⟨_, rfl, ToolStore.recordTask_result w.records context task version⟩

/-- What holds after a task was loaded, whether or not its help page was published and its records made. -/
theorem integrate_of_ok {task : LoadedTask} (h : i.loadTask w.loaded plugin options.multiVersion = .ok task) :
    ∃ records files, (w.integrate i plugin options).after =
        { (w.registerTask task options.multiVersion).2 with records, files } ∧
      (w.integrate i plugin options).warnings = (w.registerTask task options.multiVersion).1 ∧
      ((w.integrate i plugin options).result = .ok task ∨
        (∃ path cause, (w.integrate i plugin options).result = .error (.helpPublish path cause)) ∨
        ∃ e, ToolStore.Refuses σ e ∧ (w.integrate i plugin options).result = .error e) := by
  rw [integrate, h]
  dsimp only
  generalize w.registerTask task options.multiVersion = registered
  obtain ⟨warnings, w'⟩ := registered
  obtain ⟨files, hfiles, hpublish⟩ := publishHelp_eq w' task
  generalize w'.publishHelp task = published at hfiles hpublish
  obtain ⟨result, w''⟩ := published
  obtain rfl := hfiles
  obtain rfl | ⟨path, cause, rfl⟩ := hpublish
  · simp only
    split
    · obtain ⟨records, hrecords, hrecorded⟩ := recordTask_eq { w' with files } i.context task options.createVersionRecord
      refine ⟨records, files, hrecords, rfl, ?_⟩
      obtain h | ⟨e, he, h⟩ := hrecorded
      · rw [h]
        exact .inl rfl
      · rw [h]
        exact .inr (.inr ⟨e, he, rfl⟩)
    · exact ⟨w'.records, files, rfl, rfl, .inl rfl⟩
  · exact ⟨w'.records, files, rfl, rfl, .inr (.inl ⟨path, cause, rfl⟩)⟩

/-- An integration fails to load exactly when the definition of its side does. -/
theorem integrate_load_error_iff (hown : ToolStore.OwnFailures σ) {problem : DefinitionProblem} :
    (w.integrate i plugin options).result = .error (.load problem) ↔
      Definition.load (plugin.artifacts.body i.definitionKind) plugin.identifier i.context.definitionContext =
        .error problem := by
  cases hload : Definition.load (plugin.artifacts.body i.definitionKind) plugin.identifier
      i.context.definitionContext with
  | error other =>
    have htask : i.loadTask w.loaded plugin options.multiVersion = .error (.load other) := by
      rw [Integrator.loadTask, hload]
    rw [integrate_of_error htask]
    simp
  | ok definition =>
    obtain ⟨task, htask⟩ : ∃ task, i.loadTask w.loaded plugin options.multiVersion = .ok task := by
      rw [Integrator.loadTask, hload]
      exact ⟨_, rfl⟩
    obtain ⟨_, _, -, -, hresult⟩ := integrate_of_ok htask
    obtain hresult | ⟨_, _, hresult⟩ | ⟨e, he, hresult⟩ := hresult
    · simp [hresult]
    · simp [hresult]
    · have hne : e ≠ .load problem := by
        rintro rfl
        exact hown.load problem he
      simp [hresult, hne]

end

end Installation

end ToolPlugins
