import ToolPlugins.Failure
import ToolPlugins.Json.Decode
import ToolPlugins.Table

/-!
Records of tools and of their installed versions, and the stores that keep them. In memory a record is
made once under its key and never changed; asking for it again gives the one that is there. An id is the
number that no other record has. The time at which a record was made is left out: nothing here reads it.
-/

namespace ToolPlugins

open Json (Decoder FieldRule)

/-- What a record takes over from a descriptor. -/
structure ToolFields where
  name : String
  version : String
  description : Option String
  image : Option String
  deriving DecidableEq, Repr

namespace ToolFields

def ofDescriptor (d : Descriptor) : ToolFields :=
  { name := d.name, version := d.version, description := d.description?, image := d.image? }

/-- What the tool is called where it can be launched. -/
def menuText (f : ToolFields) : String := "Launch " ++ f.name

/-- The fields of a record of fields. -/
def rules : List FieldRule :=
  [.of "name" Decoder.text, .of "version" Decoder.text,
    { FieldRule.optional "description" Decoder.text with defaulted := true },
    { FieldRule.optional "docker_image" Decoder.text with defaulted := true }]

/-- The fields that a JSON record holds. -/
def decode : Decoder ToolFields := fun value => do
  match ← Json.recordFields "ToolFields" rules value with
  | [name, version, description, image] =>
    return {
      name := ← Decoder.text name
      version := ← Decoder.text version
      description := ← Decoder.optional Decoder.text description
      image := ← Decoder.optional Decoder.text image }
  | others => .error (.length others.length "4")

end ToolFields

/-- The category of every tool that has a descriptor. -/
def toolCategory : String := "scientific tool"

/-- A known tool. -/
structure ToolRecord where
  id : Nat
  key : String
  name : String
  description : Option String
  category : String
  menuText : String
  deriving DecidableEq, Repr

/-- A version of a tool that is installed on a host. -/
structure VersionRecord where
  id : Nat
  toolId : Nat
  toolKey : String
  host : String
  version : String
  description : Option String
  image : Option String
  deriving DecidableEq, Repr

/-- What a version record is found under: the key of its tool, the host and the version. -/
abbrev VersionKey := String × String × String

/-- A record with a mark whether it was made just now. -/
structure Upserted (α : Type) where
  record : α
  created : Bool
  deriving Repr

/-- A store of records, wherever they are kept. It is asked for the record of a tool under a key, or for that of a version
    of a tool on a host; it gives the record or fails, with whatever failure, and what it keeps may change either way. -/
class ToolStore (σ : Type) where
  upsertTool : σ → String → ToolFields → Result (Upserted ToolRecord) × σ
  upsertVersion : σ → ToolRecord → String → String → ToolFields → Result (Upserted VersionRecord) × σ

/-! ### Records in memory -/

/-- Records that are kept in memory. -/
structure MemoryStore where
  tools : Table String ToolRecord := []
  versions : Table VersionKey VersionRecord := []
  nextId : Nat := 0
  deriving Repr

/-- The order of version records: by host, then by version. -/
def VersionRecord.le (a b : VersionRecord) : Bool :=
  decide (a.host < b.host) || (a.host == b.host && decide (a.version ≤ b.version))

namespace MemoryStore

/-- The record of a tool, made from the fields if there is none. -/
def upsertTool (s : MemoryStore) (key : String) (fields : ToolFields) : Upserted ToolRecord × MemoryStore :=
  match s.tools.get? key with
  | some record => (⟨record, false⟩, s)
  | none =>
    let record : ToolRecord :=
      { id := s.nextId, key, name := fields.name, description := fields.description,
        category := toolCategory, menuText := fields.menuText }
    (⟨record, true⟩, { s with tools := s.tools.insert key record, nextId := s.nextId + 1 })

/-- The record of a version of a tool on a host, made from the fields if there is none. -/
def upsertVersion (s : MemoryStore) (tool : ToolRecord) (host version : String) (fields : ToolFields) :
    Upserted VersionRecord × MemoryStore :=
  let key : VersionKey := (tool.key, host, version)
  match s.versions.get? key with
  | some record => (⟨record, false⟩, s)
  | none =>
    let record : VersionRecord :=
      { id := s.nextId, toolId := tool.id, toolKey := tool.key, host, version,
        description := fields.description, image := fields.image }
    (⟨record, true⟩, { s with versions := s.versions.insert key record, nextId := s.nextId + 1 })

/-- Records in memory are never refused. -/
instance : ToolStore MemoryStore where
  upsertTool s key fields := (.ok (s.upsertTool key fields).1, (s.upsertTool key fields).2)
  upsertVersion s tool host version fields :=
    (.ok (s.upsertVersion tool host version fields).1, (s.upsertVersion tool host version fields).2)

def tool? (s : MemoryStore) (key : String) : Option ToolRecord := s.tools.get? key

/-- The version records of a tool, by host and version. -/
def versionsOf (s : MemoryStore) (key : String) : List VersionRecord :=
  (s.versions.values.filter fun record => record.toolKey == key).mergeSort VersionRecord.le

end MemoryStore

/-- Records in memory with outages. An outage makes every request for records of its kind fail. -/
structure RecordStore extends MemoryStore where
  toolOutage : Option String := none
  versionOutage : Option String := none
  deriving Repr

namespace RecordStore

/-- The record of a tool, unless its kind is out. -/
def upsertTool (s : RecordStore) (key : String) (fields : ToolFields) :
    Result (Upserted ToolRecord) × RecordStore :=
  match s.toolOutage with
  | some message => (.error (.store message), s)
  | none =>
    let (tool, kept) := s.toMemoryStore.upsertTool key fields
    (.ok tool, { s with toMemoryStore := kept })

/-- The record of a version of a tool on a host, unless its kind is out. -/
def upsertVersion (s : RecordStore) (tool : ToolRecord) (host version : String) (fields : ToolFields) :
    Result (Upserted VersionRecord) × RecordStore :=
  match s.versionOutage with
  | some message => (.error (.store message), s)
  | none =>
    let (record, kept) := s.toMemoryStore.upsertVersion tool host version fields
    (.ok record, { s with toMemoryStore := kept })

instance : ToolStore RecordStore := ⟨upsertTool, upsertVersion⟩

end RecordStore

end ToolPlugins
