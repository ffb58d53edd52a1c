import Mathlib
import ToolPlugins.Proofs.Schema.Keywords

/-!
The paths of validation errors. Every error is about a part of the document, or about a key that an object in it does
not have; and where the schema that governs an object asks for a key that the object does not have, this is reported
once.
-/

namespace ToolPlugins.Schema
open Json Check Finding

/-! ### Schemas that govern parts of a document -/

/-- A schema stands in another one, as that of a property, of all items, or of one item. -/
inductive StandsIn : Fields → Fields → Prop
  | property {schema properties inner : Fields} {key : String}
      (hproperties : schema.get? "properties" = some (.object properties))
      (hinner : properties.get? key = some (.object inner)) : StandsIn inner schema
  | item {schema inner : Fields} (hitems : schema.get? "items" = some (.object inner)) : StandsIn inner schema
  | itemAt {schema inner : Fields} {schemas : List Json} {i : Nat}
      (hitems : schema.get? "items" = some (.array schemas)) (hinner : schemas[i]? = some (.object inner)) :
      StandsIn inner schema

/-- A schema governs a value, and the schemas that stand in it govern the parts of the value under their paths. -/
inductive Governs : Fields → Json → List String → Fields → Json → Prop
  | here (schema : Fields) (v : Json) : Governs schema v [] schema v
  | field {schema properties inner target fields : Fields} {key : String} {v part : Json} {path : List String}
      (hproperties : schema.get? "properties" = some (.object properties))
      (hinner : properties.get? key = some (.object inner)) (hv : fields.get? key = some v)
      (h : Governs inner v path target part) : Governs schema (.object fields) (key :: path) target part
  | item {schema inner target : Fields} {items : List Json} {i : Nat} {v part : Json} {path : List String}
      (hitems : schema.get? "items" = some (.object inner)) (hv : items[i]? = some v)
      (h : Governs inner v path target part) : Governs schema (.array items) (toString i :: path) target part
  | itemAt {schema inner target : Fields} {schemas items : List Json} {i : Nat} {v part : Json} {path : List String}
      (hitems : schema.get? "items" = some (.array schemas)) (hinner : schemas[i]? = some (.object inner))
      (hv : items[i]? = some v) (h : Governs inner v path target part) :
      Governs schema (.array items) (toString i :: path) target part

/-- No schema that stands in a schema, at whatever depth, names a dialect of its own. -/
def OneDialect (schema : Fields) : Prop := ∀ inner, Relation.TransGen StandsIn inner schema → Dialect.named? inner = none

theorem Scope.enter_of_unnamed {fields : Fields} (h : Dialect.named? fields = none) (scope : Scope) :
    scope.enter fields = scope := by
  rw [Scope.enter, Dialect.ofSchema, h]

theorem Scope.enter_of_dialect? {fields : Fields} {dialect : Dialect} (h : dialect? fields = .ok dialect)
    (patterns : PatternReader) :
    (Scope.ofDocument dialect patterns).enter fields = Scope.ofDocument dialect patterns := by
  rw [dialect?] at h
  split at h
  · next hnone => exact Scope.enter_of_unnamed hnone _
  · next name hname =>
    split at h
    · next other hother =>
      cases h
      rw [Scope.enter, Dialect.ofSchema, hname]
      simp only [hother, Option.getD_some]
      rfl
    · cases h

theorem Scope.isSilent_ofDocument (dialect : Dialect) (patterns : PatternReader) :
    (Scope.ofDocument dialect patterns).isSilent = false := by
  cases dialect with
  | draft07 => rfl
  | draft2020 => rfl

theorem OneDialect.inner {schema inner : Fields} (h : OneDialect schema) (hinner : StandsIn inner schema) :
    OneDialect inner ∧ ∀ scope : Scope, scope.enter inner = scope :=
  ⟨fun other hother => h other (hother.tail hinner), fun scope => Scope.enter_of_unnamed (h inner (.single hinner)) scope⟩

/-- Where the schema that governs an object asks for a key, and the object does not have it, this is found once. -/
theorem reportedAt_of_governs {scope : Scope} {schema target fields : Fields} {v : Json} {path : List String} {key : String}
    {names : List Json} (h : Governs schema v path target (.object fields)) (hloud : scope.isSilent = false)
    (henter : scope.enter schema = scope) (hkeys : (Json.object schema).KeysOnce) (hdialect : OneDialect schema)
    (hnames : target.get? "required" = some (.array names)) (hnodup : (names.filterMap Json.string?).Nodup)
    (hkey : .string key ∈ names) (hmissing : fields.get? key = none) :
    reportedAt (path ++ [key]) (runAll (checksOf scope (.object schema)) v) = [⟨path, .object fields, .required key⟩] := by
  have hne : ∀ path : List String, path ++ [key] ≠ [] := fun path => List.append_ne_nil_of_right_ne_nil path (by simp)
  have hloud' : (scope.enter schema).isSilent = false := henter.symm ▸ hloud
  generalize hpart : Json.object fields = part at h
  induction h with
  | here schema v =>
    subst hpart
    have hmem : key ∈ names.filterMap Json.string? := List.mem_filterMap.mpr ⟨_, hkey, rfl⟩
    rw [List.nil_append, reportedAt_missing hmissing, (requiredKeys_checksOf hloud' hkeys.nodup hnames).count_eq,
      List.count_eq_one_of_mem hnodup hmem]
    rfl
  | field hproperties hinner hv h ih =>
    obtain ⟨hdialect', henter'⟩ := hdialect.inner (.property hproperties hinner)
    have hproperties' := hkeys.get? hproperties
    have hselect := ofField_checksOf hloud' hkeys.nodup hproperties hproperties'.nodup hinner
    rw [henter] at hselect
    rw [List.cons_append, reportedAt_part (reportedAt_run_field hv (hne _)) hselect,
      ih (henter' scope) (hproperties'.get? hinner) hdialect' hnames ((henter' scope).symm ▸ hloud) hpart]
    rfl
  | item hitems hv h ih =>
    obtain ⟨hdialect', henter'⟩ := hdialect.inner (.item hitems)
    have hselect := ofItem_checksOf hloud' hkeys.nodup hitems
    rw [henter] at hselect
    rw [List.cons_append, reportedAt_part (reportedAt_run_item hv (hne _)) (hselect _),
      ih (henter' scope) (hkeys.get? hitems) hdialect' hnames ((henter' scope).symm ▸ hloud) hpart]
    rfl
  | itemAt hitems hinner hv h ih =>
    obtain ⟨hdialect', henter'⟩ := hdialect.inner (.itemAt hitems hinner)
    have hselect := ofItemAt_checksOf hloud' hkeys.nodup hitems hinner
    rw [henter] at hselect
    rw [List.cons_append, reportedAt_part (reportedAt_run_item hv (hne _)) hselect,
      ih (henter' scope) ((hkeys.get? hitems).getElem? hinner) hdialect' hnames ((henter' scope).symm ▸ hloud) hpart]
    rfl

/-! ### The errors of a schema -/

/-- The errors of a schema about a descriptor are where they say they are. -/
structure Locates (schema : Schema) (d : Descriptor) : Prop where
  /-- An error is about a part of the descriptor, or about a key that an object in it does not have. -/
  truthful : ∀ e ∈ schema.validate d, (∃ part, PartAt d.document e.path part) ∨
    ∃ path key, ∃ fields : Fields, e.path = path ++ [key] ∧ e.message = Complaint.quoted key ++ " is a required property" ∧
      PartAt d.document path (.object fields) ∧ fields.get? key = none
  /-- A key that is asked for and is not there is reported once. -/
  complete : ∀ path key target names, ∀ fields : Fields,
    Governs schema.fields d.document path target (.object fields) →
    target.get? "required" = some (.array names) → (names.filterMap Json.string?).Nodup → .string key ∈ names →
    fields.get? key = none →
    ((schema.validate d).filter fun e => e.path = path ++ [key]) =
      [⟨path ++ [key], Complaint.quoted key ++ " is a required property"⟩]

theorem validate_eq (schema : Schema) (d : Descriptor) :
    schema.validate d = (runAll schema.checks d.document).map fun f => ⟨f.errorPath, f.message⟩ :=
  List.map_congr_left fun f _ => f.ofFinding_eq

theorem truthful_of_mem_validate {schema : Schema} {d : Descriptor} {e : ValidationError} (h : e ∈ schema.validate d) :
    (∃ part, PartAt d.document e.path part) ∨
      ∃ path key, ∃ fields : Fields, e.path = path ++ [key] ∧
        e.message = Complaint.quoted key ++ " is a required property" ∧
        PartAt d.document path (.object fields) ∧ fields.get? key = none := by
  rw [validate_eq] at h
  obtain ⟨f, hf, rfl⟩ := List.mem_map.mp h
  obtain ⟨hpart, hmissing⟩ := truthful_of_mem_runAll schema.checks d.document f hf
  by_cases hrequired : ∃ key, f.complaint = .required key
  · obtain ⟨key, hkey⟩ := hrequired
    obtain ⟨fields, -, hobject, hnone⟩ := hmissing key hkey
    exact .inr ⟨f.path, key, fields, errorPath_of_required hkey, message_of_required hkey, hobject, hnone⟩
  · rw [not_exists] at hrequired
    exact .inl ((errorPath_of_not_required hrequired).symm ▸ hpart)

/-- The errors of a schema that was read from its document are where they say they are, however its patterns are read. The
    keys of the document stand once in their objects, and no schema in it changes the dialect. -/
theorem locates_of_ofJsonBy? {patterns : PatternReader} {schema : Schema}
    (h : ofJsonBy? patterns schema.document = .ok schema) (hkeys : schema.document.KeysOnce)
    (hdialect : OneDialect schema.fields) (d : Descriptor) : schema.Locates d where
  truthful := fun e => truthful_of_mem_validate
  complete := by
    intro path key target names fields hgoverns hnames hnodup hkey hmissing
    obtain ⟨dialect, hnamed, heq⟩ := eq_of_ofJsonBy? h
    have hchecks : schema.checks = checksOf (.ofDocument dialect patterns) (.object schema.fields) := congrArg Schema.checks heq
    have hfound := reportedAt_of_governs hgoverns (Scope.isSilent_ofDocument dialect patterns)
      (Scope.enter_of_dialect? hnamed patterns) hkeys hdialect hnames hnodup hkey hmissing
    have hfilter : ((schema.validate d).filter fun e => e.path = path ++ [key]) =
        (reportedAt (path ++ [key]) (runAll schema.checks d.document)).map fun f => ⟨f.errorPath, f.message⟩ := by
      rw [validate_eq, List.filter_map]
      rfl
    rw [hfilter, hchecks, hfound]
    rfl

/-! ### A schema for keys that are escaped in pointers -/

theorem oneDialect_of_standsIn {schema : Fields}
    (h : ∀ inner, StandsIn inner schema → Dialect.named? inner = none ∧ OneDialect inner) : OneDialect schema := by
  intro inner hinner
  obtain ⟨outer, hinner, houter⟩ := Relation.TransGen.tail'_iff.mp hinner
  rcases Relation.reflTransGen_iff_eq_or_transGen.mp hinner with rfl | hinner
  · exact (h _ houter).1
  · exact (h outer houter).2 inner hinner

/-- The rules for the entries of a list under a key with a slash: they have a key with a tilde. -/
def entryRules : Fields := [("required", .array [.string "~1"])]

def listRules : Fields := [("items", .object entryRules)]

def slashedRules : Fields := [("properties", .object [("a/b", .object listRules)])]

/-- A schema for keys that are escaped in pointers. -/
def slashed : Schema := ⟨slashedRules, checksOf (.ofDocument .draft2020) (.object slashedRules)⟩

theorem oneDialect_slashed : OneDialect slashed.fields := by
  have hentry : OneDialect entryRules := oneDialect_of_standsIn fun inner h => by
    rcases h with ⟨h, -⟩ | h | ⟨h, -⟩ <;> cases h
  have hlist : OneDialect listRules := oneDialect_of_standsIn fun inner h => by
    rcases h with ⟨h, -⟩ | h | ⟨h, -⟩ <;> cases h
    exact ⟨rfl, hentry⟩
  refine oneDialect_of_standsIn fun inner h => ?_
  rcases h with ⟨h, hinner⟩ | h | ⟨h, -⟩ <;> cases h
  cases Fields.mem_of_get? hinner with
  | head => exact ⟨rfl, hlist⟩
  | tail _ hmem => cases hmem

theorem keysOnce_slashed : slashed.document.KeysOnce := by
  have hone : ∀ {key : String} {v : Json}, v.KeysOnce → (Json.object [(key, v)]).KeysOnce := fun hv =>
    .object (List.nodup_singleton _) (List.forall_mem_singleton.mpr hv)
  exact hone (hone (hone (hone (.array (List.forall_mem_singleton.mpr (.string "~1"))))))

/-- The first entry of the list has no key at all. -/
theorem locates_slashed :
    ofJson? slashed.document = .ok slashed ∧ slashed.document.KeysOnce ∧ OneDialect slashed.fields ∧
      ((slashed.validate ⟨[("a/b", .array [.object []])]⟩).filter fun e => e.path = ["a/b", "0", "~1"]) =
        [⟨["a/b", "0", "~1"], "\"~1\" is a required property"⟩] := by
  have hread : ofJson? slashed.document = .ok slashed := ofJson?_eq_ok_of_isOk rfl rfl (by decide +kernel)
  refine ⟨hread, keysOnce_slashed, oneDialect_slashed, ?_⟩
  have hentry : Governs listRules (.array [.object []]) [toString 0] entryRules (.object []) :=
    .item rfl rfl (.here entryRules _)
  have hgoverns : Governs slashed.fields (.object [("a/b", .array [.object []])]) ["a/b", "0"] entryRules (.object []) :=
    .field rfl rfl rfl hentry
  exact (locates_of_ofJsonBy? hread keysOnce_slashed oneDialect_slashed ⟨[("a/b", .array [.object []])]⟩).complete _ _ _ _ _
    hgoverns rfl (by decide) (List.mem_singleton_self _) rfl

end ToolPlugins.Schema
