import Mathlib
import ToolPlugins.Proofs.Installation.Parts

/-!
The records of tasks. Records are made once and kept, so asking for those of a task again changes nothing; and
whether they are made depends on the outages of the store only.
-/

namespace ToolPlugins

namespace MemoryStore

theorem upsertTool_of_get? {s : MemoryStore} {key : String} {record : ToolRecord} (h : s.tools.get? key = some record)
    (fields : ToolFields) : s.upsertTool key fields = (⟨record, false⟩, s) := by
  rw [upsertTool, h]

theorem upsertVersion_of_get? {s : MemoryStore} {tool : ToolRecord} {host version : String} {record : VersionRecord}
    (h : s.versions.get? (tool.key, host, version) = some record) (fields : ToolFields) :
    s.upsertVersion tool host version fields = (⟨record, false⟩, s) := by
  rw [upsertVersion]
  dsimp only
  rw [h]

/-- A tool that was asked for is known, and no record is lost. -/
theorem upsertTool_spec (s : MemoryStore) (key : String) (fields : ToolFields) :
    (s.upsertTool key fields).2.tools.get? key = some (s.upsertTool key fields).1.record ∧
      (∀ other record, s.tools.get? other = some record → (s.upsertTool key fields).2.tools.get? other = some record) ∧
      (s.upsertTool key fields).2.versions = s.versions := by
  rw [upsertTool]
  cases hget : s.tools.get? key with
  | some record => exact ⟨hget, fun _ _ h => h, rfl⟩
  | none =>
    refine ⟨Table.get?_insert_self _ _ _, fun other record hr => ?_, rfl⟩
    have hne : other ≠ key := by
      rintro rfl
      cases hget.symm.trans hr
    exact (Table.get?_insert_ne _ _ hne).trans hr

/-- A version that was asked for is known, and no record is lost. -/
theorem upsertVersion_spec (s : MemoryStore) (tool : ToolRecord) (host version : String) (fields : ToolFields) :
    (s.upsertVersion tool host version fields).2.versions.get? (tool.key, host, version) =
        some (s.upsertVersion tool host version fields).1.record ∧
      (∀ other record, s.versions.get? other = some record →
        (s.upsertVersion tool host version fields).2.versions.get? other = some record) ∧
      (s.upsertVersion tool host version fields).2.tools = s.tools := by
  rw [upsertVersion]
  dsimp only
  cases hget : s.versions.get? (tool.key, host, version) with
  | some record => exact ⟨hget, fun _ _ h => h, rfl⟩
  | none =>
    refine ⟨Table.get?_insert_self _ _ _, fun other record hr => ?_, rfl⟩
    have hne : other ≠ (tool.key, host, version) := by
      rintro rfl
      cases hget.symm.trans hr
    exact (Table.get?_insert_ne _ _ hne).trans hr

end MemoryStore

namespace RecordStore
open ToolStore (recordTask)

/-- Every record of the first store is one of the second, and both have the same outages. -/
structure Extends (s s' : RecordStore) : Prop where
  tools : ∀ key record, s.tools.get? key = some record → s'.tools.get? key = some record
  versions : ∀ key record, s.versions.get? key = some record → s'.versions.get? key = some record
  toolOutage : s'.toolOutage = s.toolOutage
  versionOutage : s'.versionOutage = s.versionOutage

/-- The host that a version is recorded on, if one is. -/
def host? (context : ExecutionContext) (createVersionRecord : Bool) : Option String :=
  match createVersionRecord, context with
  | true, .worker host => some host
  | _, _ => none

/-- What asking for the records of a task gives. -/
def answer (s : RecordStore) (context : ExecutionContext) (createVersionRecord : Bool) : Result Unit :=
  match s.toolOutage, host? context createVersionRecord, s.versionOutage with
  | some message, _, _ => .error (.store message)
  | none, some _, some message => .error (.store message)
  | none, _, _ => .ok ()

/-- The store has the records of a task, as far as it does not refuse them. -/
def Known (s : RecordStore) (context : ExecutionContext) (task : LoadedTask) (createVersionRecord : Bool) : Prop :=
  s.toolOutage = none → ∃ tool, s.tools.get? task.qualifiedName = some tool ∧
    ∀ host, host? context createVersionRecord = some host → s.versionOutage = none →
      ∃ version, s.versions.get? (tool.key, host, task.version) = some version

section
variable {s s' s'' : RecordStore} {context : ExecutionContext} {task : LoadedTask} {createVersionRecord : Bool}

theorem Extends.refl (s : RecordStore) : s.Extends s := ⟨fun _ _ h => h, fun _ _ h => h, rfl, rfl⟩

theorem Extends.trans (h : s.Extends s') (h' : s'.Extends s'') : s.Extends s'' where
  tools := fun key record hr => h'.tools key record (h.tools key record hr)
  versions := fun key record hr => h'.versions key record (h.versions key record hr)
  toolOutage := h'.toolOutage.trans h.toolOutage
  versionOutage := h'.versionOutage.trans h.versionOutage

theorem Extends.answer (h : s.Extends s') (context : ExecutionContext) (createVersionRecord : Bool) :
    s'.answer context createVersionRecord = s.answer context createVersionRecord := by
  rw [RecordStore.answer, RecordStore.answer, h.toolOutage, h.versionOutage]

/-- A store without outages refuses nothing. -/
theorem answer_of_no_outage (htool : s.toolOutage = none) (hversion : s.versionOutage = none)
    (context : ExecutionContext) (createVersionRecord : Bool) : s.answer context createVersionRecord = .ok () := by
  rw [answer, htool, hversion]
  cases host? context createVersionRecord with
  | none => rfl
  | some host => rfl

theorem Extends.known (h : s.Extends s') (hk : s.Known context task createVersionRecord) :
    s'.Known context task createVersionRecord := by
  intro htool
  obtain ⟨tool, hget, hversion⟩ := hk (h.toolOutage ▸ htool)
  refine ⟨tool, h.tools _ _ hget, fun host hhost houtage => ?_⟩
  obtain ⟨version, hget'⟩ := hversion host hhost (h.versionOutage ▸ houtage)
  exact ⟨version, h.versions _ _ hget'⟩

theorem upsertTool_spec (s : RecordStore) (key : String) (fields : ToolFields) :
    (∃ message, s.toolOutage = some message ∧ s.upsertTool key fields = (.error (.store message), s)) ∨
      s.toolOutage = none ∧ ∃ tool records, s.upsertTool key fields = (.ok tool, records) ∧ s.Extends records ∧
        records.tools.get? key = some tool.record := by
  rw [upsertTool]
  cases houtage : s.toolOutage with
  | some message => exact .inl ⟨message, rfl, rfl⟩
  | none =>
    obtain ⟨hget, hkept, hversions⟩ := s.toMemoryStore.upsertTool_spec key fields
    exact .inr ⟨rfl, _, _, rfl, ⟨hkept, fun other _ hr => (congrArg (Table.get? · other) hversions).trans hr, houtage.symm, rfl⟩, hget⟩

theorem upsertVersion_spec (s : RecordStore) (tool : ToolRecord) (host version : String) (fields : ToolFields) :
    (∃ message, s.versionOutage = some message ∧
        s.upsertVersion tool host version fields = (.error (.store message), s)) ∨
      s.versionOutage = none ∧ ∃ made records, s.upsertVersion tool host version fields = (.ok made, records) ∧
        s.Extends records ∧ records.versions.get? (tool.key, host, version) = some made.record := by
  rw [upsertVersion]
  cases houtage : s.versionOutage with
  | some message => exact .inl ⟨message, rfl, rfl⟩
  | none =>
    obtain ⟨hget, hkept, htools⟩ := s.toMemoryStore.upsertVersion_spec tool host version fields
    exact .inr ⟨rfl, _, _, rfl, ⟨fun other _ hr => (congrArg (Table.get? · other) htools).trans hr, hkept, rfl, houtage.symm⟩, hget⟩

theorem recordTask_of_tool_error {message : String} {records : RecordStore}
    (h : s.upsertTool task.qualifiedName (.ofDescriptor task.plugin.descriptor) = (.error (.store message), records)) :
    recordTask s context task createVersionRecord = (.error (.store message), records) := by
  simp only [recordTask, ToolStore.upsertTool, h]

theorem recordTask_of_no_host {tool : Upserted ToolRecord} {records : RecordStore}
    (h : s.upsertTool task.qualifiedName (.ofDescriptor task.plugin.descriptor) = (.ok tool, records))
    (hhost : host? context createVersionRecord = none) :
    recordTask s context task createVersionRecord = (.ok (), records) := by
  simp only [recordTask, ToolStore.upsertTool, h]
  cases createVersionRecord with
  | false => rfl
  | true =>
    cases context with
    | client => rfl
    | worker host => cases hhost

theorem recordTask_of_host {tool : Upserted ToolRecord} {records : RecordStore} {host : String}
    (h : s.upsertTool task.qualifiedName (.ofDescriptor task.plugin.descriptor) = (.ok tool, records))
    (hhost : host? context createVersionRecord = some host) {made : Result (Upserted VersionRecord)}
    {records' : RecordStore}
    (hmade : records.upsertVersion tool.record host task.version (.ofDescriptor task.plugin.descriptor) = (made, records')) :
    recordTask s context task createVersionRecord = (made.map fun _ => (), records') := by
  simp only [recordTask, ToolStore.upsertTool, h]
  cases createVersionRecord with
  | false => cases hhost
  | true =>
    cases context with
    | client => cases hhost
    | worker other =>
      cases hhost
      simp only [ToolStore.upsertVersion, hmade]

/-- The records of a task are known once they were asked for, and no other record is lost. -/
theorem recordTask_spec (s : RecordStore) (context : ExecutionContext) (task : LoadedTask) (createVersionRecord : Bool) :
    (recordTask s context task createVersionRecord).1 = s.answer context createVersionRecord ∧
      s.Extends (recordTask s context task createVersionRecord).2 ∧
      (recordTask s context task createVersionRecord).2.Known context task createVersionRecord := by
  obtain ⟨message, houtage, htool⟩ | ⟨houtage, tool, records, htool, hextends, hget⟩ :=
    upsertTool_spec s task.qualifiedName (.ofDescriptor task.plugin.descriptor)
  · rw [recordTask_of_tool_error htool, answer, houtage]
    exact ⟨rfl, .refl s, fun h => by cases houtage.symm.trans h⟩
  · cases hhost : host? context createVersionRecord with
    | none =>
      rw [recordTask_of_no_host htool hhost, answer, houtage, hhost]
      exact ⟨rfl, hextends, fun _ => ⟨_, hget, fun host h => by cases hhost.symm.trans h⟩⟩
    | some host =>
      obtain ⟨message, hversion, hmade⟩ | ⟨hversion, made, records', hmade, hextends', hget'⟩ :=
        upsertVersion_spec records tool.record host task.version (.ofDescriptor task.plugin.descriptor)
      · rw [recordTask_of_host htool hhost hmade, answer, houtage, hhost, ← hextends.versionOutage, hversion]
        exact ⟨rfl, hextends, fun _ => ⟨_, hget, fun _ _ h => by cases hversion.symm.trans h⟩⟩
      · rw [recordTask_of_host htool hhost hmade, answer, houtage, hhost, ← hextends.versionOutage, hversion]
        refine ⟨rfl, hextends.trans hextends', fun _ => ⟨_, hextends'.tools _ _ hget, fun other h _ => ?_⟩⟩
        cases hhost.symm.trans h
        exact ⟨_, hget'⟩

/-- Records that are known are not made again. -/
theorem recordTask_of_known (h : s.Known context task createVersionRecord) :
    (recordTask s context task createVersionRecord).2 = s := by
  cases houtage : s.toolOutage with
  | some message =>
    have htool : s.upsertTool task.qualifiedName (.ofDescriptor task.plugin.descriptor) = (.error (.store message), s) := by
      rw [upsertTool, houtage]
    rw [recordTask_of_tool_error htool]
  | none =>
    obtain ⟨tool, hget, hknown⟩ := h houtage
    have htool : s.upsertTool task.qualifiedName (.ofDescriptor task.plugin.descriptor) = (.ok ⟨tool, false⟩, s) := by
      rw [upsertTool]
      split
      · next message hmessage => cases houtage.symm.trans hmessage
      · rw [MemoryStore.upsertTool_of_get? hget]
    cases hhost : host? context createVersionRecord with
    | none => rw [recordTask_of_no_host htool hhost]
    | some host =>
      obtain ⟨made, hmade⟩ : ∃ made, s.upsertVersion tool host task.version (.ofDescriptor task.plugin.descriptor) =
          (made, s) := by
        rw [upsertVersion]
        split
        · exact ⟨_, rfl⟩
        · next hversion =>
          obtain ⟨record, hrecord⟩ := hknown host hhost hversion
          rw [MemoryStore.upsertVersion_of_get? hrecord]
          exact ⟨_, rfl⟩
      rw [recordTask_of_host htool hhost hmade]

end

end RecordStore

end ToolPlugins
