import Mathlib
import ToolPlugins.Proofs.Installation.Parts

/-!
What an integration leaves when it fails, by how far it came: nothing if the task is not loaded, the registration
if the page is not published, and the page as well if the records are not made. The store may be any: how it answers
decides the result, but not what it finds done when it is asked.
-/

namespace ToolPlugins

/-- Records in memory are never refused. -/
theorem MemoryStore.not_refuses (e : Failure) : ¬ToolStore.Refuses MemoryStore e := by
  rintro (⟨_, _, _, h⟩ | ⟨_, _, _, _, _, h⟩)
  · cases h
  · cases h

namespace Installation

variable {σ : Type} [ToolStore σ]

/-- An integration leaves the registry and the files as a successful call does that is given the same plugin in the same
    way, whatever store that one asks; and with records in memory the call is successful. -/
structure LikeSuccess (w : Installation σ) (i : Integrator) (plugin : GeneratedPlugin) (options : IntegrationOptions) :
    Prop where
  succeeds : ∃ task, ({ w with records := ({} : MemoryStore) }.integrate i plugin options).result = .ok task
  same : ∀ {τ : Type} [ToolStore τ] (records : τ) (task : LoadedTask),
    ({ w with records }.integrate i plugin options).result = .ok task →
    (w.integrate i plugin options).after.registry = ({ w with records }.integrate i plugin options).after.registry ∧
      (w.integrate i plugin options).after.files = ({ w with records }.integrate i plugin options).after.files

/-- What an integration leaves, by its result. A store that answers with a failure of another step is not told from that
    step by the result; `asked` holds of it all the same. -/
structure Ladder (w : Installation σ) (i : Integrator) (plugin : GeneratedPlugin) (options : IntegrationOptions) :
    Prop where
  results : (∃ task, (w.integrate i plugin options).result = .ok task) ∨
    (∃ problem, (w.integrate i plugin options).result = .error (.load problem)) ∨
    (∃ path cause, (w.integrate i plugin options).result = .error (.helpPublish path cause)) ∨
    ∃ e, ToolStore.Refuses σ e ∧ (w.integrate i plugin options).result = .error e
  /-- Nothing changes and nothing is warned about when the task is not loaded. -/
  load : ToolStore.OwnFailures σ → ∀ problem, (w.integrate i plugin options).result = .error (.load problem) →
    (w.integrate i plugin options).after = w ∧ (w.integrate i plugin options).warnings = []
  /-- The task is registered and the store is as it was when the page is not published. What a successful call leaves in
      the registry is what every call leaves there that succeeds, whatever files it finds and whatever store it asks. -/
  page : ToolStore.OwnFailures σ → ∀ path cause, (w.integrate i plugin options).result = .error (.helpPublish path cause) →
    (w.integrate i plugin options).after.records = w.records ∧
      (∃ task, i.loadTask w.loaded plugin options.multiVersion = .ok task ∧
        (w.integrate i plugin options).after.registry.LeadsTo task options.multiVersion) ∧
      ∀ {τ : Type} [ToolStore τ] (files : FileTree) (records : τ) (task : LoadedTask),
        ({ w with files, records }.integrate i plugin options).result = .ok task →
        (w.integrate i plugin options).after.registry = ({ w with files, records }.integrate i plugin options).after.registry
  /-- The task is registered and its page is published when the store refuses a record. -/
  store : ToolStore.OwnFailures σ → ∀ e, ToolStore.Refuses σ e → (w.integrate i plugin options).result = .error e →
    w.LikeSuccess i plugin options
  /-- They are whenever the task is loaded and its page can be published, whatever the store answers then. -/
  asked : ∀ task, i.loadTask w.loaded plugin options.multiVersion = .ok task → (w.files.publishPage task).1 = .ok () →
    w.LikeSuccess i plugin options
  /-- The registry leads to the task of a successful integration. -/
  ok : ∀ task, (w.integrate i plugin options).result = .ok task →
    task.identifier = plugin.identifier ∧
      (w.integrate i plugin options).after.registry.LeadsTo task options.multiVersion
  others : ∀ identifier ≠ plugin.identifier,
    w.registry.SameUnder (w.integrate i plugin options).after.registry identifier

section
variable {w : Installation σ} {i : Integrator} {plugin : GeneratedPlugin} {options : IntegrationOptions} {task : LoadedTask}

theorem loadTask_of_result (h : (w.integrate i plugin options).result = .ok task) :
    i.loadTask w.loaded plugin options.multiVersion = .ok task := by
  cases hload : i.loadTask w.loaded plugin options.multiVersion with
  | error e =>
    rw [integrate_of_error hload] at h
    cases h
  | ok other =>
    obtain ⟨_, _, -, -, h' | ⟨_, _, h'⟩ | ⟨_, -, h'⟩⟩ := integrate_of_ok hload <;> cases h.symm.trans h'
    rfl

/-- Once the page is published, only the store can refuse. -/
theorem result_of_page (h : i.loadTask w.loaded plugin options.multiVersion = .ok task)
    (hpage : (w.files.publishPage task).1 = .ok ()) :
    (w.integrate i plugin options).result = .ok task ∨
      ∃ e, ToolStore.Refuses σ e ∧ (w.integrate i plugin options).result = .error e := by
  cases hregister : options.register with
  | false =>
    rw [integrate_of_unrecorded h hpage hregister]
    exact .inl rfl
  | true =>
    rw [integrate_of_recorded h hpage hregister]
    obtain hrecord | ⟨e, he, hrecord⟩ :=
      ToolStore.recordTask_result w.records i.context task options.createVersionRecord
    · rw [hrecord]
      exact .inl rfl
    · rw [hrecord]
      exact .inr ⟨e, he, rfl⟩

/-- A store is asked with the task registered and its page published. -/
theorem likeSuccess_of_page (h : i.loadTask w.loaded plugin options.multiVersion = .ok task)
    (hpage : (w.files.publishPage task).1 = .ok ()) : w.LikeSuccess i plugin options where
  succeeds := by
    have hload : i.loadTask ({ w with records := ({} : MemoryStore) } : Installation MemoryStore).loaded plugin
      options.multiVersion = .ok task := h
    obtain hok | ⟨e, he, -⟩ := result_of_page hload hpage
    · exact ⟨task, hok⟩
    · exact absurd he (MemoryStore.not_refuses e)
  same := by
    intro τ _ records other _
    have hload : i.loadTask ({ w with records } : Installation τ).loaded plugin options.multiVersion = .ok task := h
    obtain ⟨hregistry, hfiles⟩ := after_integrate h
    obtain ⟨hregistry', hfiles'⟩ := after_integrate hload
    exact ⟨hregistry.trans hregistry'.symm, hfiles.trans hfiles'.symm⟩

/-- An integration that failed to load does not come to the later steps. -/
theorem ladder_of_load_error {problem : DefinitionProblem}
    (h : i.loadTask w.loaded plugin options.multiVersion = .error (.load problem)) : w.Ladder i plugin options := by
  have heq := integrate_of_error h
  refine ⟨?_, ?_, ?_, ?_, ?_, ?_, ?_⟩
  · exact .inr (.inl ⟨problem, by rw [heq]⟩)
  · intro _ _ _
    rw [heq]
    exact ⟨rfl, rfl⟩
  · intro _ path cause hresult
    rw [heq] at hresult
    cases hresult
  · intro hown e he hresult
    rw [heq] at hresult
    cases hresult
    exact absurd he (hown.load problem)
  · intro task hload
    cases h.symm.trans hload
  · intro task hresult
    rw [heq] at hresult
    cases hresult
  · intro identifier _
    rw [heq]
    exact .refl _ _

/-- A loaded task is registered however far its integration goes. -/
theorem ladder_of_loaded (hw : w.registry.Sound) (h : i.loadTask w.loaded plugin options.multiVersion = .ok task) :
    w.Ladder i plugin options := by
  obtain ⟨hregistry, -⟩ := after_integrate h
  have hid := Integrator.identifier_of_loadTask h
  have hleads : (w.integrate i plugin options).after.registry.LeadsTo task options.multiVersion := by
    rw [hregistry]
    exact Registry.leadsTo_changed hw task options.multiVersion
  refine ⟨?_, ?_, ?_, ?_, ?_, ?_, ?_⟩
  · obtain ⟨_, _, -, -, hok | hpage | hstore⟩ := integrate_of_ok h
    · exact .inl ⟨task, hok⟩
    · exact .inr (.inr (.inl hpage))
    · exact .inr (.inr (.inr hstore))
  · intro hown problem hresult
    obtain ⟨_, _, -, -, h' | ⟨_, _, h'⟩ | ⟨_, he, h'⟩⟩ := integrate_of_ok h <;> cases hresult.symm.trans h'
    exact absurd he (hown.load problem)
  · intro hown path cause hresult
    refine ⟨?_, ⟨task, h, hleads⟩, ?_⟩
    · obtain hpage | ⟨_, hpage⟩ := page_result w.files task
      · obtain h' | ⟨_, he, h'⟩ := result_of_page h hpage <;> cases hresult.symm.trans h'
        exact absurd he (hown.page path cause)
      · rw [integrate_of_page_error h hpage]
    · intro τ _ files records _ _
      have hload : i.loadTask ({ w with files, records } : Installation τ).loaded plugin options.multiVersion = .ok task := h
      rw [hregistry, (after_integrate hload).1]
  · intro hown e he hresult
    obtain hpage | ⟨cause, hpage⟩ := page_result w.files task
    · exact likeSuccess_of_page h hpage
    · rw [integrate_of_page_error h hpage] at hresult
      cases hresult
      exact absurd he (hown.page _ cause)
  · intro other hload hpage
    exact likeSuccess_of_page hload hpage
  · intro other hresult
    cases h.symm.trans (loadTask_of_result hresult)
    exact ⟨hid, hleads⟩
  · intro identifier hne
    rw [hregistry]
    exact Registry.sameUnder_changed hw task options.multiVersion (hid ▸ hne)

end

theorem sound_of_run (records : σ) (files : FileTree) (loaded : Nat) (ops : List (RegistryOp σ)) :
    (({ records, files, loaded } : Installation σ).run ops).registry.Sound := by
  rw [registry_run]
  exact Registry.sound_empty.foldl_changed _

/-- Whatever store keeps the records, whatever operations came before, and whatever the plugin says about itself, an
    integration keeps the ladder. -/
theorem ladder_of_run (records : σ) (files : FileTree) (loaded : Nat) (ops : List (RegistryOp σ)) (i : Integrator)
    (plugin : GeneratedPlugin) (options : IntegrationOptions) :
    (({ records, files, loaded } : Installation σ).run ops).Ladder i plugin options := by
  have hsound := sound_of_run records files loaded ops
  generalize ({ records, files, loaded } : Installation σ).run ops = w at hsound
  cases hload : i.loadTask w.loaded plugin options.multiVersion with
  | error e =>
    obtain ⟨problem, rfl⟩ := Integrator.loadTask_error hload
    exact ladder_of_load_error hload
  | ok task => exact ladder_of_loaded hsound hload

/-- A plugin that has a definition for the submitting side only. -/
def oneSided : GeneratedPlugin where
  identifier := "A"
  descriptor := ⟨[]⟩
  errors := []
  artifacts :=
    { client := "task A\ncontext client\ntool \"a\"\nversion \"1\"\nend\n"
      worker := ""
      params := ""
      summary := ""
      help := "A page" }

/-- An installation whose store gives no records of tools. -/
def inOutage : Installation := { records := { toolOutage := some "down" } }

/-- What a store answered when it made an operation fail. -/
def storeMessage? {α : Type} : Result α → Option String
  | .error (.store message) => some message
  | _ => none

theorem eq_of_storeMessage? {α : Type} {out : Result α} {message : String} (h : storeMessage? out = some message) :
    out = .error (.store message) := by
  rw [storeMessage?.eq_def] at h
  split at h
  · cases h
    rfl
  · cases h

/-- On the executing side nothing happens; on the other the task is registered with its page, although the store fails. -/
theorem ladder_of_run_inOutage :
    (∃ problem, (inOutage.integrate ⟨.worker "host", "help"⟩ oneSided {}).result = .error (.load problem) ∧
      (inOutage.integrate ⟨.worker "host", "help"⟩ oneSided {}).after = inOutage) ∧
    (inOutage.integrate ⟨.client, "help"⟩ oneSided {}).result = .error (.store "down") ∧
      inOutage.LikeSuccess ⟨.client, "help"⟩ oneSided {} := by
  constructor
  · have hnone : (Integrator.loadTask ⟨.worker "host", "help"⟩ 0 oneSided false).toOption.isNone = true := by decide +kernel
    cases hload : Integrator.loadTask ⟨.worker "host", "help"⟩ 0 oneSided false with
    | ok task =>
      rw [hload] at hnone
      cases hnone
    | error e =>
      obtain ⟨problem, rfl⟩ := Integrator.loadTask_error hload
      have hresult : (inOutage.integrate ⟨.worker "host", "help"⟩ oneSided {}).result = .error (.load problem) :=
        congrArg Outcome.result (integrate_of_error hload)
      have hladder := ladder_of_run inOutage.records {} 0 [] ⟨.worker "host", "help"⟩ oneSided {}
      exact ⟨problem, hresult, (hladder.load RecordStore.ownFailures problem hresult).1⟩
  · have hstore : storeMessage? (inOutage.integrate ⟨.client, "help"⟩ oneSided {}).result = some "down" := by decide +kernel
    have hladder := ladder_of_run inOutage.records {} 0 [] ⟨.client, "help"⟩ oneSided {}
    have hrefuses : ToolStore.Refuses RecordStore (.store "down") := .inl ⟨inOutage.records, "", .ofDescriptor ⟨[]⟩, rfl⟩
    exact ⟨eq_of_storeMessage? hstore, hladder.store RecordStore.ownFailures _ hrefuses (eq_of_storeMessage? hstore)⟩

end Installation

end ToolPlugins
