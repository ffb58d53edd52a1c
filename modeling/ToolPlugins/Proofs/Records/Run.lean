import Mathlib
import ToolPlugins.Proofs.Bootstrap.Verdict
import ToolPlugins.Proofs.Records.Sound

/-!
Runs of integrations that share one store of records, by any integrators with registries and files of their own. A record
is made once, by a call that asks for it, and kept as it was made.
-/

namespace ToolPlugins

/-- A call of an integrator, with what the integrator finds beside the records. -/
structure IntegrationCall where
  integrator : Integrator
  plugin : GeneratedPlugin
  options : IntegrationOptions
  registry : Registry := {}
  files : FileTree := {}
  loaded : Nat := 0

namespace IntegrationCall

/-- The installation that an integrator finds. -/
def installation (c : IntegrationCall) (s : RecordStore) : Installation where
  registry := c.registry
  records := s
  files := c.files
  loaded := c.loaded

/-- The call loads a task. -/
def Loads (c : IntegrationCall) (task : LoadedTask) : Prop :=
  c.integrator.loadTask c.loaded c.plugin c.options.multiVersion = .ok task

end IntegrationCall

namespace RecordStore

/-- The store after a call. -/
def after (s : RecordStore) (c : IntegrationCall) : RecordStore :=
  ((c.installation s).integrate c.integrator c.plugin c.options).after.records

/-- The store after calls, one after the other. -/
def run (s : RecordStore) (calls : List IntegrationCall) : RecordStore := calls.foldl after s

/-- A call makes a record of a tool. -/
def MakesTool (s : RecordStore) (c : IntegrationCall) (key : String) (tool : ToolRecord) : Prop :=
  s.tools.get? key = none ∧ (s.after c).tools.get? key = some tool

/-- A call makes a record of a version. -/
def MakesVersion (s : RecordStore) (c : IntegrationCall) (key : VersionKey) (record : VersionRecord) : Prop :=
  s.versions.get? key = none ∧ (s.after c).versions.get? key = some record

/-- The order of version records of one tool. -/
def VersionRecord.Before (a b : VersionRecord) : Prop := a.host < b.host ∨ a.host = b.host ∧ a.version < b.version

section
variable {s : RecordStore} {c : IntegrationCall} {context : ExecutionContext} {createVersionRecord : Bool} {host : String}

theorem host?_eq_some_iff :
    host? context createVersionRecord = some host ↔ createVersionRecord = true ∧ context = .worker host := by
  cases createVersionRecord with
  | false => simp [host?]
  | true =>
    cases context with
    | client => simp [host?]
    | worker other => simp [host?]

/-! ### One call -/

/-- A call changes no record, or asks for the records of the task that it loads. -/
theorem after_cases (s : RecordStore) (c : IntegrationCall) :
    s.after c = s ∨ ∃ task, c.Loads task ∧ c.options.register = true ∧
      s.after c = (ToolStore.recordTask s c.integrator.context task c.options.createVersionRecord).2 := by
  rw [after]
  cases hload : c.integrator.loadTask c.loaded c.plugin c.options.multiVersion with
  | error e =>
    have hload' : c.integrator.loadTask (c.installation s).loaded c.plugin c.options.multiVersion = .error e := hload
    rw [Installation.integrate_of_error hload']
    exact .inl rfl
  | ok task =>
    have hload' : c.integrator.loadTask (c.installation s).loaded c.plugin c.options.multiVersion = .ok task := hload
    obtain hpage | ⟨cause, hpage⟩ := Installation.page_result (c.installation s).files task
    · cases hregister : c.options.register with
      | false =>
        rw [Installation.integrate_of_unrecorded hload' hpage hregister]
        exact .inl rfl
      | true =>
        rw [Installation.integrate_of_recorded hload' hpage hregister]
        exact .inr ⟨task, hload, rfl, rfl⟩
    · rw [Installation.integrate_of_page_error hload' hpage]
      exact .inl rfl

theorem extends_after (s : RecordStore) (c : IntegrationCall) : s.Extends (s.after c) := by
  obtain heq | ⟨task, -, -, heq⟩ := after_cases s c
  · rw [heq]
    exact .refl s
  · rw [heq]
    exact (s.recordTask_spec _ _ _).2.1

theorem Sound.after (h : s.Sound) (ha : s.Answers) (c : IntegrationCall) : (s.after c).Sound := by
  obtain heq | ⟨task, -, -, heq⟩ := after_cases s c
  · rw [heq]
    exact h
  · rw [heq]
    exact h.recordTask ha _ _ _

theorem Answers.after (ha : s.Answers) (c : IntegrationCall) : (s.after c).Answers :=
  ⟨(extends_after s c).toolOutage.trans ha.tool, (extends_after s c).versionOutage.trans ha.version⟩

theorem loads_of_makesTool (h : s.Sound) (ha : s.Answers) {key : String} {tool : ToolRecord}
    (hmakes : s.MakesTool c key tool) :
    ∃ task, c.Loads task ∧ c.options.register = true ∧ key = task.qualifiedName ∧
      tool = (ToolFields.ofDescriptor task.plugin.descriptor).toolRecord s.nextId key := by
  obtain ⟨hnone, hsome⟩ := hmakes
  obtain heq | ⟨task, hload, hregister, heq⟩ := after_cases s c
  · rw [heq, hnone] at hsome
    cases hsome
  · rw [heq, tools_recordTask h ha, get?_tools_withTool] at hsome
    split_ifs at hsome with hkey
    · rw [← hkey, hnone] at hsome
      cases hsome
      exact ⟨task, hload, hregister, hkey, rfl⟩
    · cases hnone.symm.trans hsome

/-- A record of a version is made where one is asked for on the executing side, from the descriptor of the task that is
    loaded. -/
theorem loads_of_makesVersion (h : s.Sound) (ha : s.Answers) {key : VersionKey} {record : VersionRecord}
    (hmakes : s.MakesVersion c key record) :
    ∃ task host id tool, c.Loads task ∧ c.options.register = true ∧ c.options.createVersionRecord = true ∧
      c.integrator.context = .worker host ∧ tool.key = task.qualifiedName ∧ key = (task.qualifiedName, host, task.version) ∧
      record = (ToolFields.ofDescriptor task.plugin.descriptor).versionRecord id tool host task.version := by
  obtain ⟨hnone, hsome⟩ := hmakes
  obtain heq | ⟨task, hload, hregister, heq⟩ := after_cases s c
  · rw [heq, hnone] at hsome
    cases hsome
  · obtain ⟨tool, -, hkey, heq'⟩ := exists_recordTask_eq h ha c.integrator.context task c.options.createVersionRecord
    rw [heq, heq'] at hsome
    cases hhost : host? c.integrator.context c.options.createVersionRecord with
    | none =>
      simp only [hhost] at hsome
      rw [versions_withTool, hnone] at hsome
      cases hsome
    | some host =>
      simp only [hhost] at hsome
      rw [get?_versions_withVersion, versions_withTool] at hsome
      split_ifs at hsome with hsame
      · rw [← hsame, hnone] at hsome
        cases hsome
        obtain ⟨hcreate, hcontext⟩ := host?_eq_some_iff.mp hhost
        exact ⟨task, host, _, tool, hload, hregister, hcreate, hcontext, hkey, hkey ▸ hsame, rfl⟩
      · cases hnone.symm.trans hsome

/-! ### Calls, one after the other -/

theorem run_append (s : RecordStore) (calls calls' : List IntegrationCall) :
    s.run (calls ++ calls') = (s.run calls).run calls' := List.foldl_append

theorem run_append_cons (s : RecordStore) (before : List IntegrationCall) (c : IntegrationCall)
    (rest : List IntegrationCall) : s.run (before ++ c :: rest) = ((s.run before).after c).run rest := by
  rw [run_append]
  rfl

theorem extends_run (s : RecordStore) (calls : List IntegrationCall) : s.Extends (s.run calls) := by
  induction calls generalizing s with
  | nil => exact .refl s
  | cons c calls ih => exact (extends_after s c).trans (ih _)

theorem sound_run (h : s.Sound) (ha : s.Answers) (calls : List IntegrationCall) :
    (s.run calls).Sound ∧ (s.run calls).Answers := by
  induction calls generalizing s with
  | nil => exact ⟨h, ha⟩
  | cons c calls ih => exact ih (h.after ha c) (ha.after c)

theorem exists_makesVersion {calls : List IntegrationCall} {key : VersionKey} {record : VersionRecord}
    (hnone : s.versions.get? key = none) (hsome : (s.run calls).versions.get? key = some record) :
    ∃ before c rest, calls = before ++ c :: rest ∧ (s.run before).MakesVersion c key record := by
  induction calls generalizing s with
  | nil => cases hnone.symm.trans hsome
  | cons c calls ih =>
    cases hget : (s.after c).versions.get? key with
    | none =>
      obtain ⟨before, c', rest, rfl, hmakes⟩ := ih hget hsome
      exact ⟨c :: before, c', rest, rfl, hmakes⟩
    | some made =>
      cases ((extends_run (s.after c) calls).versions key made hget).symm.trans hsome
      exact ⟨[], c, calls, rfl, hnone, hget⟩

end

/-! ### The version records of a tool -/

theorem VersionRecord.le_iff {a b : VersionRecord} :
    VersionRecord.le a b = true ↔ toLex (a.host, a.version) ≤ toLex (b.host, b.version) := by
  rw [VersionRecord.le, Bool.or_eq_true, Bool.and_eq_true, beq_iff_eq, decide_eq_true_iff, decide_eq_true_iff,
    Prod.Lex.toLex_le_toLex]

theorem VersionRecord.before_iff {a b : VersionRecord} :
    VersionRecord.Before a b ↔ toLex (a.host, a.version) < toLex (b.host, b.version) := by
  rw [VersionRecord.Before, Prod.Lex.toLex_lt_toLex]

section
variable {s : RecordStore}

theorem Sound.mem_values_iff (h : s.Sound) {record : VersionRecord} :
    record ∈ s.versions.values ↔ s.versions.get? (record.toolKey, record.host, record.version) = some record := by
  rw [Table.values, List.mem_map]
  constructor
  · rintro ⟨⟨key, record⟩, hmem, rfl⟩
    have hget := Table.get?_of_mem h.versionNodup hmem
    rwa [h.versionKey key record hget]
  · exact fun hget => ⟨_, Table.mem_of_get? hget, rfl⟩

/-- No two records are of the same version of a tool on the same host. -/
theorem Sound.pairwise_values (h : s.Sound) :
    s.versions.values.Pairwise fun a b => (a.toolKey, a.host, a.version) ≠ (b.toolKey, b.host, b.version) := by
  have hkeys : s.versions.values.map (fun record => (record.toolKey, record.host, record.version)) = s.versions.keys := by
    rw [Table.values, Table.keys, List.map_map]
    exact List.map_congr_left fun e he => h.versionKey _ _ (Table.get?_of_mem h.versionNodup he)
  rw [← List.pairwise_map, hkeys]
  exact h.versionNodup

theorem Sound.mem_versionsOf_iff (h : s.Sound) {key : String} {record : VersionRecord} :
    record ∈ s.versionsOf key ↔ ∃ host version, s.versions.get? (key, host, version) = some record := by
  rw [MemoryStore.versionsOf, List.mem_mergeSort, List.mem_filter, h.mem_values_iff, beq_iff_eq]
  constructor
  · rintro ⟨hget, rfl⟩
    exact ⟨_, _, hget⟩
  · rintro ⟨host, version, hget⟩
    have hkey := h.versionKey _ _ hget
    refine ⟨hkey ▸ hget, congrArg Prod.fst hkey⟩

theorem Sound.pairwise_versionsOf (h : s.Sound) (key : String) : (s.versionsOf key).Pairwise VersionRecord.Before := by
  have hle : (s.versionsOf key).Pairwise fun a b => VersionRecord.le a b = true := by
    refine List.pairwise_mergeSort (fun a b c hab hbc => ?_) (fun a b => ?_) _
    · exact VersionRecord.le_iff.mpr (le_trans (VersionRecord.le_iff.mp hab) (VersionRecord.le_iff.mp hbc))
    · rw [Bool.or_eq_true, VersionRecord.le_iff, VersionRecord.le_iff]
      exact le_total _ _
  have hne : (s.versionsOf key).Pairwise fun a b => (a.host, a.version) ≠ (b.host, b.version) := by
    have hfilter := (h.pairwise_values.filter fun record => record.toolKey == key).imp_of_mem
      (S := fun a b : VersionRecord => (a.host, a.version) ≠ (b.host, b.version)) fun {a b} ha hb hab heq => by
        rw [List.mem_filter, beq_iff_eq] at ha hb
        exact hab (Prod.ext (ha.2.trans hb.2.symm) heq)
    exact ((List.mergeSort_perm _ _).pairwise_iff fun hab => Ne.symm hab).mpr hfilter
  exact hle.imp₂ (fun a b hab hab' => VersionRecord.before_iff.mpr
    (lt_of_le_of_ne (VersionRecord.le_iff.mp hab) fun heq => hab' (toLex.injective heq))) hne

end

/-! ### Whole runs -/

/-- What a store that was empty at first holds after calls of integrators. -/
structure Keeps (calls : List IntegrationCall) : Prop where
  /-- A record is not changed or removed once it is there. -/
  kept : ∀ before rest, calls = before ++ rest → (run {} before).Extends (run {} calls)
  toolOnce : ∀ before c between c' rest key tool tool', calls = before ++ c :: (between ++ c' :: rest) →
    (run {} before).MakesTool c key tool → ¬(run {} (before ++ c :: between)).MakesTool c' key tool'
  versionOnce : ∀ before c between c' rest key record record', calls = before ++ c :: (between ++ c' :: rest) →
    (run {} before).MakesVersion c key record → ¬(run {} (before ++ c :: between)).MakesVersion c' key record'
  /-- Every record is there once, and every version record belongs to a tool record. -/
  sound : (run {} calls).Sound
  /-- A version record was asked for on the host that it names. -/
  asked : ∀ key record, (run {} calls).versions.get? key = some record →
    ∃ before c rest, calls = before ++ c :: rest ∧ (run {} before).MakesVersion c key record ∧
      c.options.register = true ∧ c.options.createVersionRecord = true ∧ c.integrator.context = .worker record.host
  /-- The record that is made of a generated tool says what its loaded definition says. -/
  generatedTool : ∀ before c rest schema d mode key tool, calls = before ++ c :: rest →
    (generate schema d mode).1 = .ok c.plugin → (run {} before).MakesTool c key tool →
      ∃ task, c.Loads task ∧ key = task.qualifiedName ∧ tool.key = key ∧ tool.name = task.definition.tool ∧
        tool.description = task.definition.description
  /-- The record that is made of a generated version says what its loaded definition says. -/
  generatedVersion : ∀ before c rest schema d mode key record, calls = before ++ c :: rest →
    (generate schema d mode).1 = .ok c.plugin → (run {} before).MakesVersion c key record →
      ∃ task, c.Loads task ∧ record.toolKey = task.qualifiedName ∧ record.version = task.definition.version ∧
        record.description = task.definition.description ∧ record.image = task.definition.image
  listed : ∀ key, ((run {} calls).versionsOf key).Pairwise VersionRecord.Before ∧
    ∀ record, record ∈ (run {} calls).versionsOf key ↔
      ∃ host version, (run {} calls).versions.get? (key, host, version) = some record

/-- Whatever calls integrators make that share a store, each record is made once and kept, belongs to its tool, and says
    what was loaded. -/
theorem keeps_of_calls (calls : List IntegrationCall) : Keeps calls := by
  have hsound := fun calls => sound_run sound_empty answers_empty calls
  refine ⟨?_, ?_, ?_, (hsound calls).1, ?_, ?_, ?_, fun key => ?_⟩
  · rintro before rest rfl
    rw [run_append]
    exact extends_run _ rest
  · rintro before c between c' rest key tool tool' - ⟨-, hmade⟩ ⟨hnone, -⟩
    rw [run_append_cons] at hnone
    cases ((extends_run _ between).tools key tool hmade).symm.trans hnone
  · rintro before c between c' rest key record record' - ⟨-, hmade⟩ ⟨hnone, -⟩
    rw [run_append_cons] at hnone
    cases ((extends_run _ between).versions key record hmade).symm.trans hnone
  · intro key record hget
    obtain ⟨before, c, rest, rfl, hmakes⟩ := exists_makesVersion rfl hget
    obtain ⟨task, host, id, tool, -, hregister, hcreate, hcontext, -, -, rfl⟩ :=
      loads_of_makesVersion (hsound before).1 (hsound before).2 hmakes
    exact ⟨before, c, rest, rfl, hmakes, hregister, hcreate, hcontext⟩
  · rintro before c rest schema d mode key tool - hgenerate hmakes
    obtain ⟨task, hload, -, hkey, rfl⟩ := loads_of_makesTool (hsound before).1 (hsound before).2 hmakes
    obtain ⟨-, rfl⟩ := (loadTask_of_generate hgenerate).mp hload
    exact ⟨_, hload, hkey, rfl, rfl, rfl⟩
  · rintro before c rest schema d mode key record - hgenerate hmakes
    obtain ⟨task, host, id, tool, hload, -, -, -, hkey, -, rfl⟩ :=
      loads_of_makesVersion (hsound before).1 (hsound before).2 hmakes
    obtain ⟨-, rfl⟩ := (loadTask_of_generate hgenerate).mp hload
    exact ⟨_, hload, hkey, rfl, rfl, rfl⟩
  · exact ⟨(hsound calls).1.pairwise_versionsOf key, fun record => (hsound calls).1.mem_versionsOf_iff⟩

end RecordStore

end ToolPlugins
