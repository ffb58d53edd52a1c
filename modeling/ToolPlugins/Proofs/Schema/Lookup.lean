import Mathlib
import ToolPlugins.Proofs.Json.Lookup
import ToolPlugins.Proofs.Schema.Keywords

/-!
Look-ups in a document that is both a descriptor and a schema. What is found at a dotted path is the part that the
segments of the path lead to, on both sides; the texts that a property may be are those of the array at its path.
-/

namespace ToolPlugins
open Json

namespace Schema

/-! ### The properties of a schema are an object -/

theorem form?_properties (dialect : Dialect) : dialect.form? "properties" = some .schemaMap := by
  cases dialect <;> decide

/-- A keyword of the dialect that has an offence makes for one of the whole document. -/
theorem firstOffence?_ne_none {dialect : Dialect} {found : List (String × Offence)} {key : String} {form : Form}
    (hform : dialect.form? key = some form) {offence : Offence} (h : (key, offence) ∈ found) :
    firstOffence? dialect found ≠ none := by
  obtain ⟨before, after, heq, -⟩ := List.lookup_eq_some_iff.mp hform
  have hmem : (key, form) ∈ dialect.keywords.flatten := by
    rw [heq]
    exact List.mem_append_right _ List.mem_cons_self
  obtain ⟨group, hgroup, hkey⟩ := List.mem_flatten.mp hmem
  intro hnone
  have hempty := List.findSome?_eq_none_iff.mp hnone group hgroup
  rw [Option.map_eq_none_iff, List.find?_eq_none] at hempty
  refine hempty _ h ?_
  rw [Option.isSome_iff_ne_none, ne_eq, List.lookup_eq_none_iff]
  exact fun hall => absurd (hall _ hkey) (by simp)

theorem fieldOffences_cons (patterns : PatternReader) (dialect : Dialect) (field : String × Json) (rest : Fields) :
    ∃ front, fieldOffences patterns dialect (field :: rest) = front ++ fieldOffences patterns dialect rest := by
  obtain ⟨key, value⟩ := field
  cases value <;> simp only [fieldOffences] <;> exact ⟨_, rfl⟩

theorem exists_mem_fieldOffences (patterns : PatternReader) (dialect : Dialect) {fields : Fields} {value : Json}
    (h : ("properties", value) ∈ fields) (hvalue : ∀ inner, value ≠ .object inner) :
    ∃ offence, ("properties", offence) ∈ fieldOffences patterns dialect fields := by
  induction fields with
  | nil => cases h
  | cons field rest ih =>
    rcases List.mem_cons.mp h with rfl | h
    · refine ⟨(value, .notType .object), ?_⟩
      cases value with
      | object inner => exact absurd rfl (hvalue inner)
      | _ => simp [fieldOffences, form?_properties, Form.offence?]
    · obtain ⟨offence, hoffence⟩ := ih h
      obtain ⟨front, hfront⟩ := fieldOffences_cons patterns dialect field rest
      rw [hfront]
      exact ⟨offence, List.mem_append_right _ hoffence⟩

/-- A document whose properties are no object is refused before anything is read from it. -/
theorem properties_of_ofJsonBy? {patterns : PatternReader} {fields : Fields} {schema : Schema}
    (h : ofJsonBy? patterns (.object fields) = .ok schema) {value : Json} (hvalue : fields.get? "properties" = some value) : ∃ inner, value = .object inner := by
  obtain ⟨dialect, -, h⟩ := bind_eq_ok_iff.mp (mapError_eq_ok_iff.mp h)
  by_contra hno
  rw [not_exists] at hno
  obtain ⟨offence, hoffence⟩ := exists_mem_fieldOffences patterns dialect (Fields.mem_of_get? hvalue) hno
  have hfound := firstOffence?_ne_none (form?_properties dialect) hoffence
  dsimp only at h
  split at h
  · cases h
  · next hcomplaint =>
    refine hfound ?_
    rw [complaint?, Option.or_eq_none_iff, Option.or_eq_none_iff, Option.map_eq_none_iff, offence?] at hcomplaint
    exact hcomplaint.2.1

/-! ### Look-ups -/

theorem lookup?_eq_follow? (schema : Schema) (path : String) :
    schema.lookup? path = schema.document.follow? (dotted path) := foldlM_step? _ _

/-- The texts in an array, if one is found. -/
def textsIn : Option Json → List String
  | some (.array items) => items.filterMap Json.string?
  | _ => []

theorem enumerated_eq (schema : Schema) (property : String) :
    schema.enumerated property =
      textsIn (((schema.get? "properties").bind (Json.get? property)).bind (Json.get? "enum")) := by
  have hlisted : schema.enumerated property =
      (((((schema.get? "properties").bind (Json.get? property)).bind (Json.get? "enum")).bind Json.array?).getD
        []).filterMap Json.string? := by
    rw [Option.bind_assoc, Option.bind_assoc]
    rfl
  rw [hlisted]
  cases ((schema.get? "properties").bind (Json.get? property)).bind (Json.get? "enum") with
  | none => rfl
  | some value => cases value <;> rfl

/-- In every value the segment names what the key does: it is no index. -/
theorem step?_enum (value : Json) : value.step? "enum" = value.get? "enum" := by
  have hindex : index? "enum".toList = none := by decide
  cases value with
  | array items =>
    rw [step?, hindex]
    rfl
  | _ => rfl

/-- The array at the path of a property is looked for where the texts of the property are. -/
theorem lookup?_enum {patterns : PatternReader} {fields : Fields} {schema : Schema}
    (h : ofJsonBy? patterns (.object fields) = .ok schema) {property : String} (hdot : '.' ∉ property.toList) :
    schema.lookup? ("properties." ++ property ++ ".enum") =
      ((schema.get? "properties").bind (Json.get? property)).bind (Json.get? "enum") := by
  have hpath : "properties." ++ property ++ ".enum" = "properties" ++ "." ++ (property ++ "." ++ "enum") := by
    rw [show "properties." = "properties" ++ "." from rfl, show ".enum" = "." ++ "enum" from rfl]
    simp only [String.append_assoc]
  have hdotted : dotted ("properties." ++ property ++ ".enum") = ["properties", property, "enum"] := by
    rw [hpath, dotted_append, dotted_append, dotted_of_not_mem (by decide : '.' ∉ "properties".toList),
      dotted_of_not_mem hdot, dotted_of_not_mem (by decide : '.' ∉ "enum".toList)]
    rfl
  have hfields : schema.fields = fields := by
    obtain ⟨dialect, -, rfl⟩ := eq_of_ofJsonBy? h
    rfl
  have hstart : schema.document.step? "properties" = schema.get? "properties" := rfl
  rw [lookup?_eq_follow?, hdotted, follow?, hstart, Option.bind_assoc]
  refine Option.bind_congr fun properties hproperties => ?_
  rw [Schema.get?, hfields] at hproperties
  obtain ⟨inner, rfl⟩ := properties_of_ofJsonBy? h hproperties
  rw [follow?]
  refine Option.bind_congr fun rules _ => ?_
  rw [follow?, step?_enum]
  exact Option.bind_fun_some _

end Schema

/-- What the look-ups tell of a document that is both a descriptor and a schema. -/
structure LookupsAgree (d : Descriptor) (schema : Schema) : Prop where
  same : ∀ path, d.lookup? path = schema.lookup? path
  /-- A part is found just where the segments of the path lead to it. -/
  found : ∀ path part, schema.lookup? path = some part ↔ LeadsTo d.document (dotted path) part
  /-- The texts that a property may be are those of the array at its path. -/
  listed : ∀ property, '.' ∉ property.toList →
    schema.enumerated property = Schema.textsIn (schema.lookup? ("properties." ++ property ++ ".enum"))

theorem lookupsAgree_of_ofJsonBy? {patterns : PatternReader} {document : Json} {d : Descriptor} {schema : Schema}
    (hd : Descriptor.ofJson? document = .ok d) (hs : Schema.ofJsonBy? patterns document = .ok schema) :
    LookupsAgree d schema := by
  cases document with
  | object fields =>
    have hdocument : d.document = schema.document := by
      obtain ⟨dialect, -, rfl⟩ := Schema.eq_of_ofJsonBy? hs
      cases hd
      rfl
    have hsame : ∀ path, d.lookup? path = schema.lookup? path := fun path => by
      rw [d.lookup?_eq_follow?, schema.lookup?_eq_follow?, hdocument]
    refine ⟨hsame, fun path part => ?_, fun property hdot => ?_⟩
    · rw [schema.lookup?_eq_follow?, hdocument, follow?_eq_some_iff]
    · rw [schema.enumerated_eq, Schema.lookup?_enum hs hdot]
  | _ => cases hd

/-! ### A schema that lists the texts of a property -/

def modeRules : Json := .object [("enum", .array [.string "fast", .int 1, .string "exact"])]

def modes : Schema :=
  ⟨[("properties", .object [("mode", modeRules)])],
    Schema.checksOf (.ofDocument .draft2020) (.object [("properties", .object [("mode", modeRules)])])⟩

theorem lookupsAgree_modes : Descriptor.ofJson? modes.document = .ok ⟨modes.fields⟩ ∧
    Schema.ofJson? modes.document = .ok modes ∧ LookupsAgree ⟨modes.fields⟩ modes ∧
    modes.enumerated "mode" = ["fast", "exact"] ∧
    modes.lookup? "properties.mode.enum.+02" = some (.string "exact") ∧
    modes.lookup? "properties.mode.enum.-0" = none := by
  have hs : Schema.ofJson? modes.document = .ok modes := Schema.ofJson?_eq_ok_of_isOk rfl rfl (by decide +kernel)
  exact ⟨rfl, hs, lookupsAgree_of_ofJsonBy? rfl hs, by decide +kernel, rfl, rfl⟩

end ToolPlugins
