import Mathlib
import ToolPlugins.Proofs.Installation.Records
import ToolPlugins.Proofs.Table

/-!
What a store of records holds. Every record is under its own key, and every version record belongs to the record of its
tool. A request makes the record that it asks for if there is none, and no other.
-/

namespace ToolPlugins

/-- The record of a tool that is made from what a descriptor says. -/
def ToolFields.toolRecord (f : ToolFields) (id : Nat) (key : String) : ToolRecord where
  id := id
  key := key
  name := f.name
  description := f.description
  category := toolCategory
  menuText := f.menuText

/-- The record of a version that is made from what a descriptor says. -/
def ToolFields.versionRecord (f : ToolFields) (id : Nat) (tool : ToolRecord) (host version : String) : VersionRecord where
  id := id
  toolId := tool.id
  toolKey := tool.key
  host := host
  version := version
  description := f.description
  image := f.image

namespace RecordStore

/-- A store in which every record is under its own key and belongs to a record that is there. -/
structure Sound (s : RecordStore) : Prop where
  toolNodup : s.tools.keys.Nodup
  versionNodup : s.versions.keys.Nodup
  toolKey : ∀ key tool, s.tools.get? key = some tool → tool.key = key
  versionKey : ∀ key record, s.versions.get? key = some record → (record.toolKey, record.host, record.version) = key
  refers : ∀ key record, s.versions.get? key = some record →
    ∃ tool, s.tools.get? record.toolKey = some tool ∧ tool.id = record.toolId

/-- A store that refuses no request. -/
structure Answers (s : RecordStore) : Prop where
  tool : s.toolOutage = none
  version : s.versionOutage = none

/-- The store with a record for a tool, which is made if there is none. -/
def withTool (s : RecordStore) (key : String) (fields : ToolFields) : RecordStore :=
  match s.tools.get? key with
  | some _ => s
  | none => { s with tools := s.tools.insert key (fields.toolRecord s.nextId key), nextId := s.nextId + 1 }

/-- The store with a record for a version of a tool on a host, which is made if there is none. -/
def withVersion (s : RecordStore) (tool : ToolRecord) (host version : String) (fields : ToolFields) : RecordStore :=
  match s.versions.get? (tool.key, host, version) with
  | some _ => s
  | none =>
    { s with
      versions := s.versions.insert (tool.key, host, version) (fields.versionRecord s.nextId tool host version)
      nextId := s.nextId + 1 }

section
variable {s : RecordStore} {key : String} {fields : ToolFields} {tool : ToolRecord} {host version : String}
  {context : ExecutionContext} {task : LoadedTask} {createVersionRecord : Bool}

theorem sound_empty : ({} : RecordStore).Sound where
  toolNodup := List.nodup_nil
  versionNodup := List.nodup_nil
  toolKey := fun _ _ h => by cases h
  versionKey := fun _ _ h => by cases h
  refers := fun _ _ h => by cases h

theorem answers_empty : ({} : RecordStore).Answers := ⟨rfl, rfl⟩

/-! ### The record of a tool -/

theorem withTool_of_some (h : s.tools.get? key = some tool) : s.withTool key fields = s := by
  rw [withTool, h]

theorem withTool_of_none (h : s.tools.get? key = none) :
    s.withTool key fields =
      { s with tools := s.tools.insert key (fields.toolRecord s.nextId key), nextId := s.nextId + 1 } := by
  rw [withTool, h]

theorem get?_tools_withTool (s : RecordStore) (key other : String) (fields : ToolFields) :
    (s.withTool key fields).tools.get? other =
      if other = key then some ((s.tools.get? key).getD (fields.toolRecord s.nextId key)) else s.tools.get? other := by
  cases hget : s.tools.get? key with
  | some tool =>
    rw [withTool_of_some hget]
    split_ifs with hother
    · rw [hother, hget]
      rfl
    · rfl
  | none =>
    rw [withTool_of_none hget]
    exact Table.get?_insert _ _ _ _

theorem keys_tools_withTool (s : RecordStore) (key : String) (fields : ToolFields) :
    (s.withTool key fields).tools.keys = if key ∈ s.tools.keys then s.tools.keys else s.tools.keys ++ [key] := by
  cases hget : s.tools.get? key with
  | some tool => rw [withTool_of_some hget, if_pos (Table.mem_keys_iff.mpr ⟨tool, hget⟩)]
  | none =>
    rw [withTool_of_none hget]
    exact Table.keys_insert _ _ _

theorem versions_withTool (s : RecordStore) (key : String) (fields : ToolFields) :
    (s.withTool key fields).versions = s.versions := by
  rw [withTool]
  split
  · rfl
  · rfl

theorem Answers.withTool (h : s.Answers) : (s.withTool key fields).Answers := by
  rw [RecordStore.withTool]
  split
  · exact h
  · exact ⟨h.tool, h.version⟩

theorem Sound.withTool (h : s.Sound) (key : String) (fields : ToolFields) : (s.withTool key fields).Sound := by
  cases hget : s.tools.get? key with
  | some tool =>
    rw [withTool_of_some hget]
    exact h
  | none =>
    rw [withTool_of_none hget]
    refine ⟨Table.nodup_keys_insert h.toolNodup, h.versionNodup, fun other tool hother => ?_, h.versionKey,
      fun other record hother => ?_⟩
    · rw [Table.get?_insert] at hother
      split_ifs at hother with hkey
      · cases hother
        exact hkey.symm
      · exact h.toolKey other tool hother
    · obtain ⟨tool, htool, hid⟩ := h.refers other record hother
      refine ⟨tool, (Table.get?_insert_ne _ _ ?_).trans htool, hid⟩
      rintro rfl
      cases hget.symm.trans htool

/-! ### The record of a version -/

theorem withVersion_of_some {record : VersionRecord} (h : s.versions.get? (tool.key, host, version) = some record) :
    s.withVersion tool host version fields = s := by
  rw [withVersion, h]

theorem withVersion_of_none (h : s.versions.get? (tool.key, host, version) = none) :
    s.withVersion tool host version fields =
      { s with
        versions := s.versions.insert (tool.key, host, version) (fields.versionRecord s.nextId tool host version)
        nextId := s.nextId + 1 } := by
  rw [withVersion, h]

theorem keys_versions_withVersion (s : RecordStore) (tool : ToolRecord) (host version : String) (fields : ToolFields) :
    (s.withVersion tool host version fields).versions.keys =
      if (tool.key, host, version) ∈ s.versions.keys then s.versions.keys
      else s.versions.keys ++ [(tool.key, host, version)] := by
  cases hget : s.versions.get? (tool.key, host, version) with
  | some record => rw [withVersion_of_some hget, if_pos (Table.mem_keys_iff.mpr ⟨record, hget⟩)]
  | none =>
    have hnot := Table.get?_eq_none_iff.mp hget
    rw [withVersion_of_none hget, if_neg hnot]
    exact (Table.keys_insert s.versions _ _).trans (if_neg hnot)

theorem get?_versions_withVersion (s : RecordStore) (tool : ToolRecord) (host version : String) (fields : ToolFields)
    (other : VersionKey) :
    (s.withVersion tool host version fields).versions.get? other =
      if other = (tool.key, host, version) then
        some ((s.versions.get? (tool.key, host, version)).getD (fields.versionRecord s.nextId tool host version))
      else s.versions.get? other := by
  cases hget : s.versions.get? (tool.key, host, version) with
  | some record =>
    rw [withVersion_of_some hget]
    split_ifs with hother
    · rw [hother, hget]
      rfl
    · rfl
  | none =>
    rw [withVersion_of_none hget]
    exact Table.get?_insert _ _ _ _

theorem tools_withVersion (s : RecordStore) (tool : ToolRecord) (host version : String) (fields : ToolFields) :
    (s.withVersion tool host version fields).tools = s.tools := by
  rw [withVersion]
  split
  · rfl
  · rfl

theorem Answers.withVersion (h : s.Answers) : (s.withVersion tool host version fields).Answers := by
  rw [RecordStore.withVersion]
  split
  · exact h
  · exact ⟨h.tool, h.version⟩

theorem Sound.withVersion (h : s.Sound) (htool : s.tools.get? tool.key = some tool) (host version : String)
    (fields : ToolFields) : (s.withVersion tool host version fields).Sound := by
  cases hget : s.versions.get? (tool.key, host, version) with
  | some record =>
    rw [withVersion_of_some hget]
    exact h
  | none =>
    rw [withVersion_of_none hget]
    refine ⟨h.toolNodup, Table.nodup_keys_insert h.versionNodup, h.toolKey, fun other record hother => ?_,
      fun other record hother => ?_⟩
    · rw [Table.get?_insert] at hother
      split_ifs at hother with hkey
      · cases hother
        exact hkey.symm
      · exact h.versionKey other record hother
    · rw [Table.get?_insert] at hother
      split_ifs at hother with hkey
      · cases hother
        exact ⟨tool, htool, rfl⟩
      · exact h.refers other record hother

/-! ### The records of a task -/

theorem upsertTool_eq (h : s.Answers) (key : String) (fields : ToolFields) :
    ∃ tool, s.upsertTool key fields = (.ok tool, s.withTool key fields) ∧
      (s.withTool key fields).tools.get? key = some tool.record := by
  obtain ⟨⟨tools, versions, nextId⟩, toolOutage, versionOutage⟩ := s
  obtain rfl : toolOutage = none := h.tool
  rw [get?_tools_withTool, if_pos rfl, upsertTool, RecordStore.withTool]
  dsimp only
  rw [MemoryStore.upsertTool]
  dsimp only
  cases tools.get? key with
  | some record => exact ⟨_, rfl, rfl⟩
  | none => exact ⟨_, rfl, rfl⟩

theorem upsertVersion_eq (h : s.Answers) (tool : ToolRecord) (host version : String) (fields : ToolFields) :
    ∃ record, s.upsertVersion tool host version fields = (.ok record, s.withVersion tool host version fields) := by
  obtain ⟨⟨tools, versions, nextId⟩, toolOutage, versionOutage⟩ := s
  obtain rfl : versionOutage = none := h.version
  rw [upsertVersion, RecordStore.withVersion]
  dsimp only
  rw [MemoryStore.upsertVersion]
  dsimp only
  cases versions.get? (tool.key, host, version) with
  | some record => exact ⟨_, rfl⟩
  | none => exact ⟨_, rfl⟩

/-- Asking for the records of a task makes at most one for its tool and one for its version. -/
theorem exists_recordTask_eq (h : s.Sound) (ha : s.Answers) (context : ExecutionContext) (task : LoadedTask)
    (createVersionRecord : Bool) :
    ∃ tool, (s.withTool task.qualifiedName (.ofDescriptor task.plugin.descriptor)).tools.get? task.qualifiedName = some tool ∧
      tool.key = task.qualifiedName ∧
      (ToolStore.recordTask s context task createVersionRecord).2 = match host? context createVersionRecord with
        | none => s.withTool task.qualifiedName (.ofDescriptor task.plugin.descriptor)
        | some host => (s.withTool task.qualifiedName (.ofDescriptor task.plugin.descriptor)).withVersion tool host
            task.version (.ofDescriptor task.plugin.descriptor) := by
  obtain ⟨tool, htool, hget⟩ := upsertTool_eq ha task.qualifiedName (.ofDescriptor task.plugin.descriptor)
  refine ⟨tool.record, hget, (h.withTool _ _).toolKey _ _ hget, ?_⟩
  cases hhost : host? context createVersionRecord with
  | none => rw [recordTask_of_no_host htool hhost]
  | some host =>
    obtain ⟨record, hmade⟩ := upsertVersion_eq ha.withTool tool.record host task.version
      (.ofDescriptor task.plugin.descriptor)
    rw [recordTask_of_host htool hhost hmade]

theorem tools_recordTask (h : s.Sound) (ha : s.Answers) (context : ExecutionContext) (task : LoadedTask)
    (createVersionRecord : Bool) :
    (ToolStore.recordTask s context task createVersionRecord).2.tools =
      (s.withTool task.qualifiedName (.ofDescriptor task.plugin.descriptor)).tools := by
  obtain ⟨tool, -, -, heq⟩ := exists_recordTask_eq h ha context task createVersionRecord
  rw [heq]
  split
  · rfl
  · exact tools_withVersion _ _ _ _ _

/-- The key of the record of a task's version, where one is made. -/
def versionKey? (context : ExecutionContext) (createVersionRecord : Bool) (task : LoadedTask) : Option VersionKey :=
  (host? context createVersionRecord).map fun host => (task.qualifiedName, host, task.version)

theorem keys_versions_recordTask (h : s.Sound) (ha : s.Answers) (context : ExecutionContext) (task : LoadedTask)
    (createVersionRecord : Bool) :
    (ToolStore.recordTask s context task createVersionRecord).2.versions.keys =
      match versionKey? context createVersionRecord task with
      | none => s.versions.keys
      | some key => if key ∈ s.versions.keys then s.versions.keys else s.versions.keys ++ [key] := by
  obtain ⟨tool, -, hkey, heq⟩ := exists_recordTask_eq h ha context task createVersionRecord
  rw [heq, versionKey?]
  cases host? context createVersionRecord with
  | none => exact congrArg Table.keys (versions_withTool _ _ _)
  | some host =>
    dsimp only [Option.map_some]
    rw [keys_versions_withVersion, versions_withTool, hkey]

theorem Sound.recordTask (h : s.Sound) (ha : s.Answers) (context : ExecutionContext) (task : LoadedTask)
    (createVersionRecord : Bool) : (ToolStore.recordTask s context task createVersionRecord).2.Sound := by
  obtain ⟨tool, hget, hkey, heq⟩ := exists_recordTask_eq h ha context task createVersionRecord
  rw [heq]
  split
  · exact h.withTool _ _
  · exact (h.withTool _ _).withVersion (hkey ▸ hget) _ _ _

theorem Answers.recordTask (ha : s.Answers) (context : ExecutionContext) (task : LoadedTask)
    (createVersionRecord : Bool) : (ToolStore.recordTask s context task createVersionRecord).2.Answers := by
  have hextends := (s.recordTask_spec context task createVersionRecord).2.1
  exact ⟨hextends.toolOutage.trans ha.tool, hextends.versionOutage.trans ha.version⟩

end

/-! ### The records of tasks, one after the other -/

/-- The store after the records of tasks were asked for. -/
def recordAll (s : RecordStore) (context : ExecutionContext) (createVersionRecord : Bool) (tasks : List LoadedTask) :
    RecordStore :=
  tasks.foldl (fun s task => (ToolStore.recordTask s context task createVersionRecord).2) s

section
variable {context : ExecutionContext} {createVersionRecord : Bool} {tasks : List LoadedTask}

theorem recordAll_append_singleton (s : RecordStore) (context : ExecutionContext) (createVersionRecord : Bool)
    (tasks : List LoadedTask) (task : LoadedTask) :
    s.recordAll context createVersionRecord (tasks ++ [task]) =
      (ToolStore.recordTask (s.recordAll context createVersionRecord tasks) context task createVersionRecord).2 :=
  List.foldl_append

theorem sound_recordAll (context : ExecutionContext) (createVersionRecord : Bool) (tasks : List LoadedTask) :
    (recordAll {} context createVersionRecord tasks).Sound ∧ (recordAll {} context createVersionRecord tasks).Answers := by
  induction tasks using List.reverseRecOn with
  | nil => exact ⟨sound_empty, answers_empty⟩
  | append_singleton tasks task ih =>
    rw [recordAll_append_singleton]
    exact ⟨ih.1.recordTask ih.2 _ _ _, ih.2.recordTask _ _ _⟩

/-- A fresh store then has one record for each tool. -/
theorem keys_tools_recordAll (context : ExecutionContext) (createVersionRecord : Bool) (tasks : List LoadedTask) :
    (recordAll {} context createVersionRecord tasks).tools.keys = (tasks.map LoadedTask.qualifiedName).eraseDups := by
  induction tasks using List.reverseRecOn with
  | nil => rfl
  | append_singleton tasks task ih =>
    obtain ⟨hs, ha⟩ := sound_recordAll context createVersionRecord tasks
    rw [recordAll_append_singleton, tools_recordTask hs ha, keys_tools_withTool, ih, List.map_append, List.map_singleton,
      Table.eraseDups_append_singleton]
    simp only [List.mem_eraseDups]

/-- The record of a tool is made from the first task of the tool. -/
theorem exists_tool_recordAll {key : String} {task : LoadedTask}
    (h : tasks.find? (fun task => task.qualifiedName == key) = some task) :
    ∃ id, (recordAll {} context createVersionRecord tasks).tools.get? key =
      some ((ToolFields.ofDescriptor task.plugin.descriptor).toolRecord id key) := by
  induction tasks using List.reverseRecOn with
  | nil => cases h
  | append_singleton tasks last ih =>
    obtain ⟨hs, ha⟩ := sound_recordAll context createVersionRecord tasks
    rw [recordAll_append_singleton, tools_recordTask hs ha, get?_tools_withTool]
    rw [List.find?_append] at h
    cases hfirst : tasks.find? (fun task => task.qualifiedName == key) with
    | some first =>
      rw [hfirst] at h
      cases h
      obtain ⟨id, hget⟩ := ih hfirst
      refine ⟨id, ?_⟩
      split_ifs with hlast
      · rw [← hlast, hget]
        rfl
      · exact hget
    | none =>
      rw [hfirst, Option.none_or, List.find?_cons] at h
      split at h
      · next hlast =>
        cases h
        have hnone : (recordAll {} context createVersionRecord tasks).tools.get? key = none := by
          rw [Table.get?_eq_none_iff, keys_tools_recordAll, List.mem_eraseDups, List.mem_map]
          rintro ⟨other, hother, rfl⟩
          simpa using List.find?_eq_none.mp hfirst other hother
        rw [beq_iff_eq] at hlast
        rw [hlast, if_pos rfl, hnone]
        exact ⟨_, rfl⟩
      · cases h

/-- A fresh store then has one record for each version that is recorded. -/
theorem keys_versions_recordAll (context : ExecutionContext) (createVersionRecord : Bool) (tasks : List LoadedTask) :
    (recordAll {} context createVersionRecord tasks).versions.keys =
      (tasks.filterMap (versionKey? context createVersionRecord)).eraseDups := by
  induction tasks using List.reverseRecOn with
  | nil => rfl
  | append_singleton tasks task ih =>
    obtain ⟨hs, ha⟩ := sound_recordAll context createVersionRecord tasks
    rw [recordAll_append_singleton, keys_versions_recordTask hs ha, ih, List.filterMap_append]
    cases hkey : versionKey? context createVersionRecord task with
    | none => simp [hkey]
    | some key =>
      have hlast : [task].filterMap (versionKey? context createVersionRecord) = [key] := List.filterMap_cons_some hkey
      rw [hlast, Table.eraseDups_append_singleton]
      simp only [List.mem_eraseDups]

end

end RecordStore

end ToolPlugins
