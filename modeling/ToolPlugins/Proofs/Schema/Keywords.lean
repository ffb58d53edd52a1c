import Mathlib
import ToolPlugins.Proofs.Result
import ToolPlugins.Proofs.Schema.Findings
import ToolPlugins.Schema.Basic

/-!
The checks that the keywords of a schema make. Each sort of check that looks for a key or at the parts of a value comes
from one keyword, wherever a ban on further properties moves it: `required` asks for keys, `properties` has the checks
of the fields, and `items` those of the items.
-/

namespace ToolPlugins.Schema
open Json Check

/-! ### The checks of a schema by keyword -/

/-- The checks of a keyword with its value. -/
def checksUnder (scope : Scope) (key : String) (value : Json) : List Check :=
  match value with
  | .object inner =>
    if key = "properties" then propertiesOf scope inner
    else if key = "items" then [.items (checksOf scope (.object inner))]
    else keywordChecks scope.patterns key (.object inner)
  | .array values =>
    if key = "items" then itemsOf scope 0 values else keywordChecks scope.patterns key (.array values)
  | .bool b =>
    if key = "items" then [.items (checksOf scope (.bool b))] else keywordChecks scope.patterns key (.bool b)
  | other => keywordChecks scope.patterns key other

theorem partsOf_eq_map (scope : Scope) (fields : Fields) :
    partsOf scope fields = fields.map fun field => (field.1, checksUnder scope field.1 field.2) := by
  induction fields with
  | nil => rfl
  | cons field rest ih =>
    obtain ⟨key, value⟩ := field
    rw [List.map_cons, ← ih]
    cases value <;> rfl

theorem propertiesOf_eq_map (scope : Scope) (properties : Fields) :
    propertiesOf scope properties = properties.map fun field => .property field.1 (checksOf scope field.2) := by
  induction properties with
  | nil => rfl
  | cons field rest ih =>
    obtain ⟨key, value⟩ := field
    rw [propertiesOf, ih]
    rfl

theorem exists_of_mem_limited {make : Nat → Check} {value : Json} {check : Check} (h : check ∈ limited make value) :
    ∃ n, check = make n := by
  rw [limited] at h
  split at h
  · exact ⟨_, List.mem_singleton.mp h⟩
  · cases h

theorem exists_of_mem_typeChecks {value : Json} {check : Check} (h : check ∈ typeChecks value) :
    (∃ t, check = .type t) ∨ ∃ ts, check = .types ts := by
  unfold typeChecks at h
  split at h
  · obtain ⟨t, -, rfl⟩ := List.mem_map.mp h
    exact .inl ⟨t, rfl⟩
  · obtain ⟨t, -, rfl⟩ := List.mem_map.mp h
    exact .inl ⟨t, rfl⟩
  · exact .inr ⟨_, List.mem_singleton.mp h⟩
  · cases h

/-- A keyword that has no schemas in it makes checks of whole values. -/
theorem whole_of_mem_keywordChecks {patterns : PatternReader} {key : String} {value : Json} {check : Check}
    (h : check ∈ keywordChecks patterns key value) :
    check.IsWhole ∧ (key ≠ "required" → check.requiredKey? = none) := by
  have of_limited : ∀ {make : Nat → Check}, check ∈ limited make value → (∀ n, (make n).IsWhole) →
      (∀ n, (make n).requiredKey? = none) → check.IsWhole ∧ (key ≠ "required" → check.requiredKey? = none) := by
    intro make hmem hwhole hnone
    obtain ⟨n, rfl⟩ := exists_of_mem_limited hmem
    exact ⟨hwhole n, fun _ => hnone n⟩
  unfold keywordChecks at h
  split_ifs at h with hconst henum hmaxItems hmaxLength hmaxProperties hminItems hminLength hminProperties hrequired htype
  · rw [List.mem_singleton.mp h]
    exact ⟨trivial, fun _ => rfl⟩
  · obtain ⟨values, -, rfl⟩ := List.mem_map.mp h
    exact ⟨trivial, fun _ => rfl⟩
  · exact of_limited h (fun _ => trivial) fun _ => rfl
  · exact of_limited h (fun _ => trivial) fun _ => rfl
  · exact of_limited h (fun _ => trivial) fun _ => rfl
  · exact of_limited h (fun _ => trivial) fun _ => rfl
  · exact of_limited h (fun _ => trivial) fun _ => rfl
  · exact of_limited h (fun _ => trivial) fun _ => rfl
  · obtain ⟨k, -, rfl⟩ := List.mem_map.mp h
    exact ⟨trivial, fun hne => absurd hrequired hne⟩
  · obtain ⟨t, rfl⟩ | ⟨ts, rfl⟩ := exists_of_mem_typeChecks h
    · exact ⟨trivial, fun _ => rfl⟩
    · exact ⟨trivial, fun _ => rfl⟩
  · split at h
    · rw [List.mem_singleton.mp h]
      exact ⟨trivial, fun _ => rfl⟩
    · rw [List.mem_singleton.mp h]
      exact ⟨trivial, fun _ => rfl⟩
    · rw [List.mem_singleton.mp h]
      exact ⟨trivial, fun _ => rfl⟩
    · rw [List.mem_singleton.mp h]
      exact ⟨trivial, fun _ => rfl⟩
    · rw [List.mem_singleton.mp h]
      exact ⟨trivial, fun _ => rfl⟩
    · cases h

theorem mem_itemsOf {scope : Scope} {start : Nat} {schemas : List Json} {check : Check}
    (h : check ∈ itemsOf scope start schemas) : ∃ i checks, start ≤ i ∧ check = .itemAt i checks := by
  induction schemas generalizing start with
  | nil => cases h
  | cons value rest ih =>
    rcases List.mem_cons.mp h with rfl | h
    · exact ⟨start, _, le_rfl, rfl⟩
    · obtain ⟨i, checks, hi, hcheck⟩ := ih h
      exact ⟨i, checks, Nat.le_of_succ_le hi, hcheck⟩

/-- Only `properties` makes checks of fields, and only `items` makes checks of items. -/
theorem cases_of_mem_checksUnder {scope : Scope} {key : String} {value : Json} {check : Check}
    (h : check ∈ checksUnder scope key value) :
    (key = "properties" ∧ ∃ k checks, check = .property k checks) ∨
      (key = "items" ∧ ((∃ checks, check = .items checks) ∨ ∃ i checks, check = .itemAt i checks)) ∨
      check ∈ keywordChecks scope.patterns key value := by
  unfold checksUnder at h
  split at h
  · split_ifs at h with hproperties hitems
    · rw [propertiesOf_eq_map] at h
      obtain ⟨field, -, rfl⟩ := List.mem_map.mp h
      exact .inl ⟨hproperties, _, _, rfl⟩
    · exact .inr (.inl ⟨hitems, .inl ⟨_, List.mem_singleton.mp h⟩⟩)
    · exact .inr (.inr h)
  · split_ifs at h with hitems
    · obtain ⟨i, checks, -, hcheck⟩ := mem_itemsOf h
      exact .inr (.inl ⟨hitems, .inr ⟨i, checks, hcheck⟩⟩)
    · exact .inr (.inr h)
  · split_ifs at h with hitems
    · exact .inr (.inl ⟨hitems, .inl ⟨_, List.mem_singleton.mp h⟩⟩)
    · exact .inr (.inr h)
  · exact .inr (.inr h)

section
variable {scope : Scope} {key k : String} {value : Json} {i : Nat}

theorem filterMap_requiredKey?_eq_nil (h : key ≠ "required") :
    (checksUnder scope key value).filterMap requiredKey? = [] := by
  refine List.filterMap_eq_nil_iff.mpr fun check hcheck => ?_
  obtain ⟨-, k, checks, rfl⟩ | ⟨-, ⟨checks, rfl⟩ | ⟨i, checks, rfl⟩⟩ | hkeyword := cases_of_mem_checksUnder hcheck
  · rfl
  · rfl
  · rfl
  · exact (whole_of_mem_keywordChecks hkeyword).2 h

theorem filterMap_ofField?_eq_nil (h : key ≠ "properties") :
    (checksUnder scope key value).filterMap (ofField? k) = [] := by
  refine List.filterMap_eq_nil_iff.mpr fun check hcheck => ?_
  obtain ⟨heq, -⟩ | ⟨-, ⟨checks, rfl⟩ | ⟨i, checks, rfl⟩⟩ | hkeyword := cases_of_mem_checksUnder hcheck
  · exact absurd heq h
  · rfl
  · rfl
  · exact (whole_of_mem_keywordChecks hkeyword).1.ofField?_eq_none k

theorem filterMap_ofItem?_eq_nil (h : key ≠ "items") :
    (checksUnder scope key value).filterMap (ofItem? i) = [] := by
  refine List.filterMap_eq_nil_iff.mpr fun check hcheck => ?_
  obtain ⟨-, k, checks, rfl⟩ | ⟨heq, -⟩ | hkeyword := cases_of_mem_checksUnder hcheck
  · rfl
  · exact absurd heq h
  · exact (whole_of_mem_keywordChecks hkeyword).1.ofItem?_eq_none i

end

/-! ### The checks of a schema -/

theorem arrange_of_open {fields : Fields} (h : isClosed fields = false) (parts : List (String × List Check)) :
    arrange fields parts = parts.flatMap (·.2) := by
  rw [arrange, h]
  rfl

/-- The checks of `properties`, and those of the other keywords, make up those of all keywords. -/
theorem perm_properties_append_others (parts : List (String × List Check)) :
    ((parts.filter fun part => part.1 = "properties").flatMap (·.2) ++
      (parts.filter fun part => part.1 ≠ "properties").flatMap (·.2)).Perm (parts.flatMap (·.2)) := by
  have h := (List.filter_append_perm (fun part : String × List Check => decide (part.1 = "properties")) parts).flatMap_right
    fun part => part.2
  simpa only [List.flatMap_append, ne_eq, decide_not] using h

/-- Where further properties are forbidden, the checks stand in another order and the ban is among them. -/
theorem arrange_perm_of_closed {fields : Fields} (h : isClosed fields = true) {parts : List (String × List Check)}
    (hnodup : (parts.map (·.1)).Nodup) (hban : ("additionalProperties", []) ∈ parts) :
    (arrange fields parts).Perm (banChecks fields ++ parts.flatMap (·.2)) := by
  obtain ⟨front, back, rfl⟩ := List.append_of_mem hban
  rw [List.map_append, List.map_cons, List.nodup_middle, List.nodup_cons, ← List.map_append] at hnodup
  have hkeep : ∀ {properties : List Check} {l : List (String × List Check)}, (∀ part ∈ l, part ∈ front ++ back) →
      (l.filter fun part => part.1 ≠ "properties").flatMap (fun part =>
        if part.1 = "additionalProperties" then properties ++ banChecks fields else part.2) =
      (l.filter fun part => part.1 ≠ "properties").flatMap (·.2) := by
    intro properties l hl
    refine List.flatMap_congr fun part hpart => if_neg fun heq => hnodup.1 ?_
    exact List.mem_map.mpr ⟨part, hl part (List.mem_of_mem_filter hpart), heq⟩
  have harrange : arrange fields (front ++ ("additionalProperties", []) :: back) =
      (front.filter fun part => part.1 ≠ "properties").flatMap (·.2) ++
        ((((front ++ ("additionalProperties", []) :: back).filter fun part => part.1 = "properties").flatMap (·.2) ++
          banChecks fields) ++ (back.filter fun part => part.1 ≠ "properties").flatMap (·.2)) := by
    rw [arrange, if_pos h]
    generalize ((front ++ ("additionalProperties", []) :: back).filter fun part => part.1 = "properties").flatMap (·.2) =
      properties
    dsimp only
    rw [List.filter_append, List.filter_cons_of_pos (by decide), List.flatMap_append, List.flatMap_cons, if_pos rfl,
      hkeep fun part hpart => List.mem_append_left back hpart, hkeep fun part hpart => List.mem_append_right front hpart]
  have hfront := Multiset.coe_eq_coe.mpr (perm_properties_append_others front)
  have hback := Multiset.coe_eq_coe.mpr (perm_properties_append_others back)
  rw [harrange, List.filter_append, List.filter_cons_of_neg (by decide), ← Multiset.coe_eq_coe]
  simp only [List.flatMap_append, List.flatMap_cons, List.nil_append, ← Multiset.coe_add] at hfront hback ⊢
  rw [← hfront, ← hback]
  abel

theorem additionalProperties_of_closed {fields : Fields} (h : isClosed fields = true) :
    fields.get? "additionalProperties" = some (.bool false) := by
  rw [isClosed] at h
  split at h
  · assumption
  · cases h

section
variable {scope : Scope} {schema inner : Fields} {key : String} {value : Json}

theorem checksOf_of_loud (h : (scope.enter schema).isSilent = false) :
    checksOf scope (.object schema) = arrange schema (partsOf (scope.enter schema) schema) := by
  rw [checksOf]
  simp only [h, Bool.false_eq_true, if_false]

/-- Checks of one sort, which only one keyword makes, are those that this keyword makes. -/
theorem filterMap_checksOf {α : Type} (select : Check → Option α) (hloud : (scope.enter schema).isSilent = false)
    (hnodup : (schema.map (·.1)).Nodup) (hban : ∀ check ∈ banChecks schema, select check = none)
    (hother : ∀ k v, k ≠ key → (checksUnder (scope.enter schema) k v).filterMap select = [])
    (hkey : schema.get? key = some value) :
    ((checksOf scope (.object schema)).filterMap select).Perm
      ((checksUnder (scope.enter schema) key value).filterMap select) := by
  have hparts : (((schema.map fun field => (field.1, checksUnder (scope.enter schema) field.1 field.2)).flatMap
      (·.2)).filterMap select) = (checksUnder (scope.enter schema) key value).filterMap select := by
    obtain ⟨front, back, heq⟩ := List.append_of_mem (Fields.mem_of_get? hkey)
    rw [heq, List.map_append, List.map_cons, List.nodup_middle, List.nodup_cons, ← List.map_append] at hnodup
    have hnil : ∀ l : Fields, (∀ field ∈ l, field ∈ front ++ back) →
        (l.flatMap fun field => (checksUnder (scope.enter schema) field.1 field.2).filterMap select) = [] := by
      intro l hl
      refine List.flatMap_eq_nil_iff.mpr fun field hfield => hother _ _ fun h => hnodup.1 ?_
      exact List.mem_map.mpr ⟨field, hl field hfield, h⟩
    rw [List.flatMap_map, List.filterMap_flatMap]
    generalize scope.enter schema = inner at hnil ⊢
    rw [heq, List.flatMap_append, List.flatMap_cons, hnil front fun _ => List.mem_append_left back,
      hnil back fun _ => List.mem_append_right front, List.nil_append, List.append_nil]
  rw [checksOf_of_loud hloud, partsOf_eq_map]
  cases hclosed : isClosed schema with
  | false => rw [arrange_of_open hclosed, hparts]
  | true =>
    have hmem : ("additionalProperties", []) ∈
        schema.map fun field => (field.1, checksUnder (scope.enter schema) field.1 field.2) :=
      List.mem_map.mpr ⟨_, Fields.mem_of_get? (additionalProperties_of_closed hclosed), rfl⟩
    have hperm := (arrange_perm_of_closed hclosed (by rwa [List.map_map]) hmem).filterMap select
    rwa [List.filterMap_append, List.filterMap_eq_nil_iff.mpr hban, List.nil_append, hparts] at hperm

theorem mem_banChecks {check : Check} (h : check ∈ banChecks schema) : (∃ keys, check = .closed keys) ∨ check = .bare := by
  rw [banChecks] at h
  split at h
  · exact .inl ⟨_, List.mem_singleton.mp h⟩
  · exact .inr (List.mem_singleton.mp h)

theorem whole_of_mem_banChecks {check : Check} (h : check ∈ banChecks schema) :
    check.IsWhole ∧ check.requiredKey? = none := by
  obtain ⟨keys, rfl⟩ | rfl := mem_banChecks h
  · exact ⟨trivial, rfl⟩
  · exact ⟨trivial, rfl⟩

theorem requiredKeys_checksOf (hloud : (scope.enter schema).isSilent = false) (hnodup : (schema.map (·.1)).Nodup)
    {names : List Json} (hnames : schema.get? "required" = some (.array names)) :
    ((checksOf scope (.object schema)).filterMap requiredKey?).Perm (names.filterMap Json.string?) := by
  have hchecks : (checksUnder (scope.enter schema) "required" (.array names)).filterMap requiredKey? =
      names.filterMap Json.string? := by
    change ((names.filterMap Json.string?).map Check.required).filterMap requiredKey? = _
    rw [List.filterMap_map]
    exact List.filterMap_some
  rw [← hchecks]
  exact filterMap_checksOf requiredKey? hloud hnodup (fun check h => (whole_of_mem_banChecks h).2)
    (fun k v => filterMap_requiredKey?_eq_nil) hnames

theorem filterMap_propertiesOf {properties : Fields} (honce : (properties.map (·.1)).Nodup)
    (hvalue : properties.get? key = some value) :
    (propertiesOf scope properties).filterMap (ofField? key) = [checksOf scope value] := by
  obtain ⟨front, back, rfl⟩ := List.append_of_mem (Fields.mem_of_get? hvalue)
  rw [List.map_append, List.map_cons, List.nodup_middle, List.nodup_cons, ← List.map_append] at honce
  have hnil : ∀ l : Fields, (∀ field ∈ l, field ∈ front ++ back) →
      (l.map fun field => Check.property field.1 (checksOf scope field.2)).filterMap (ofField? key) = [] := by
    intro l hl
    rw [List.filterMap_map]
    refine List.filterMap_eq_nil_iff.mpr fun field hfield => if_neg fun h => honce.1 ?_
    exact List.mem_map.mpr ⟨field, hl field hfield, h⟩
  have hself : ofField? key (.property key (checksOf scope value)) = some (checksOf scope value) := if_pos rfl
  rw [propertiesOf_eq_map, List.map_append, List.map_cons, List.filterMap_append, List.filterMap_cons_some hself,
    hnil front fun _ => List.mem_append_left back, hnil back fun _ => List.mem_append_right front, List.nil_append]

theorem ofField_checksOf (hloud : (scope.enter schema).isSilent = false) (hnodup : (schema.map (·.1)).Nodup)
    {properties : Fields} (hproperties : schema.get? "properties" = some (.object properties))
    (honce : (properties.map (·.1)).Nodup) (hvalue : properties.get? key = some value) :
    (checksOf scope (.object schema)).filterMap (ofField? key) = [checksOf (scope.enter schema) value] := by
  have hperm := filterMap_checksOf (ofField? key) hloud hnodup
    (fun check h => (whole_of_mem_banChecks h).1.ofField?_eq_none key) (fun k v => filterMap_ofField?_eq_nil) hproperties
  have hchecks : checksUnder (scope.enter schema) "properties" (.object properties) =
      propertiesOf (scope.enter schema) properties := rfl
  rw [hchecks, filterMap_propertiesOf honce hvalue] at hperm
  exact List.perm_singleton.mp hperm

theorem ofItem_checksOf (hloud : (scope.enter schema).isSilent = false) (hnodup : (schema.map (·.1)).Nodup)
    (hitems : schema.get? "items" = some (.object inner)) (i : Nat) :
    (checksOf scope (.object schema)).filterMap (ofItem? i) = [checksOf (scope.enter schema) (.object inner)] := by
  have hperm := filterMap_checksOf (ofItem? i) hloud hnodup
    (fun check h => (whole_of_mem_banChecks h).1.ofItem?_eq_none i) (fun k v => filterMap_ofItem?_eq_nil) hitems
  exact List.perm_singleton.mp hperm

theorem filterMap_itemsOf (scope : Scope) (start : Nat) {schemas : List Json} {i : Nat} (hi : schemas[i]? = some value) :
    (itemsOf scope start schemas).filterMap (ofItem? (start + i)) = [checksOf scope value] := by
  induction schemas generalizing start i with
  | nil => cases hi
  | cons first rest ih =>
    rw [itemsOf]
    cases i with
    | zero =>
      cases hi
      have hrest : (itemsOf scope (start + 1) rest).filterMap (ofItem? start) = [] := by
        refine List.filterMap_eq_nil_iff.mpr fun check hcheck => ?_
        obtain ⟨j, checks, hj, rfl⟩ := mem_itemsOf hcheck
        exact if_neg (Nat.ne_of_gt hj)
      have hfirst : ofItem? start (.itemAt start (checksOf scope value)) = some (checksOf scope value) := if_pos rfl
      rw [Nat.add_zero, List.filterMap_cons_some hfirst, hrest]
    | succ i =>
      have hfirst : ofItem? (start + (i + 1)) (.itemAt start (checksOf scope first)) = none := if_neg (by omega)
      have hnext : start + (i + 1) = start + 1 + i := by omega
      rw [List.filterMap_cons_none hfirst, hnext]
      exact ih (start + 1) hi

/-- A schema has the checks of an item from the schema for its position. -/
theorem ofItemAt_checksOf (hloud : (scope.enter schema).isSilent = false) (hnodup : (schema.map (·.1)).Nodup)
    {schemas : List Json} (hitems : schema.get? "items" = some (.array schemas)) {i : Nat} (hi : schemas[i]? = some value) :
    (checksOf scope (.object schema)).filterMap (ofItem? i) = [checksOf (scope.enter schema) value] := by
  have hperm := filterMap_checksOf (ofItem? i) hloud hnodup
    (fun check h => (whole_of_mem_banChecks h).1.ofItem?_eq_none i) (fun k v => filterMap_ofItem?_eq_nil) hitems
  have hchecks : checksUnder (scope.enter schema) "items" (.array schemas) = itemsOf (scope.enter schema) 0 schemas := rfl
  have hone := filterMap_itemsOf (scope.enter schema) 0 hi
  rw [Nat.zero_add] at hone
  rw [hchecks, hone] at hperm
  exact List.perm_singleton.mp hperm

end

/-! ### Schemas that are read from a document -/

/-- A schema is read from a document as the document with its checks. -/
theorem eq_of_ofJsonBy? {patterns : PatternReader} {fields : Fields} {schema : Schema}
    (h : ofJsonBy? patterns (.object fields) = .ok schema) :
    ∃ dialect, dialect? fields = .ok dialect ∧
      schema = ⟨fields, checksOf (.ofDocument dialect patterns) (.object fields)⟩ := by
  obtain ⟨dialect, hdialect, h⟩ := bind_eq_ok_iff.mp (mapError_eq_ok_iff.mp h)
  refine ⟨dialect, hdialect, ?_⟩
  dsimp only at h
  split at h
  · cases h
  · exact (Except.ok.inj h).symm

theorem ofJson?_eq_ok_of_isOk {schema : Schema} {dialect : Dialect} (hdialect : dialect? schema.fields = .ok dialect)
    (hchecks : schema.checks = checksOf (.ofDocument dialect) (.object schema.fields))
    (h : (ofJson? schema.document).isOk = true) : ofJson? schema.document = .ok schema := by
  cases hread : ofJson? schema.document with
  | error message =>
    rw [hread] at h
    cases h
  | ok read =>
    obtain ⟨other, hother, rfl⟩ := eq_of_ofJsonBy? hread
    cases hdialect.symm.trans hother
    rw [← hchecks]

end ToolPlugins.Schema
