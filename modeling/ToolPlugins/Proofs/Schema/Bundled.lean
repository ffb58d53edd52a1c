import Mathlib
import ToolPlugins.Plugin
import ToolPlugins.Proofs.Definition.Check
import ToolPlugins.Proofs.Schema.Check
import ToolPlugins.Proofs.Schema.Keywords

/-!
The descriptors that the bundled schema accepts.
-/

namespace ToolPlugins

/-- What the bundled schema asks of an input. -/
structure AcceptedInput (entry : Json) : Prop where
  isObject : ∃ fields, entry = .object fields
  id : ∃ id, entry.get? "id" = some (.string id) ∧ IsParameterId id
  name : ∃ name, entry.get? "name" = some (.string name) ∧ name ≠ ""
  type : ∃ type, entry.get? "type" = some (.string type) ∧ type ∈ ["String", "File", "Flag", "Number"]
  description : ∀ v, entry.get? "description" = some v → ∃ s, v = .string s
  valueKey : ∀ v, entry.get? "value-key" = some v → ∃ s, v = .string s
  commandLineFlag : ∀ v, entry.get? "command-line-flag" = some v → ∃ s, v = .string s
  optional : ∀ v, entry.get? "optional" = some v → ∃ b, v = .bool b
  list : ∀ v, entry.get? "list" = some v → ∃ b, v = .bool b
  choices : ∀ v, entry.get? "value-choices" = some v → ∃ items, v = .array items ∧ items ≠ []

/-- What the bundled schema asks of an output file. -/
structure AcceptedOutput (entry : Json) : Prop where
  isObject : ∃ fields, entry = .object fields
  id : ∃ id, entry.get? "id" = some (.string id) ∧ IsParameterId id
  name : ∃ name, entry.get? "name" = some (.string name) ∧ name ≠ ""
  pathTemplate : ∃ path, entry.get? "path-template" = some (.string path) ∧ path ≠ ""
  description : ∀ v, entry.get? "description" = some v → ∃ s, v = .string s
  optional : ∀ v, entry.get? "optional" = some v → ∃ b, v = .bool b

/-- What the bundled schema asks of a container description. -/
structure AcceptedContainer (v : Json) : Prop where
  isObject : ∃ fields, v = .object fields
  image : ∃ image, v.get? "image" = some (.string image) ∧ image ≠ ""
  type : ∀ t, v.get? "type" = some t → ∃ s, t = .string s ∧ s ∈ ["docker", "singularity"]

/-- What the bundled schema asks of a descriptor. -/
structure Descriptor.Accepted (d : Descriptor) : Prop where
  name : ∃ name, d.get? "name" = some (.string name) ∧ name ≠ ""
  version : ∃ version, d.get? "tool-version" = some (.string version) ∧ version ≠ ""
  commandLine : ∃ command, d.get? "command-line" = some (.string command) ∧ command ≠ ""
  schemaVersion : ∀ v, d.get? "schema-version" = some v → ∃ s, v = .string s ∧ s ∈ ["0.5"]
  description : ∀ v, d.get? "description" = some v → ∃ s, v = .string s
  dockerImage : ∀ v, d.get? "docker-image" = some v → ∃ s, v = .string s ∧ s ≠ ""
  container : ∀ v, d.get? "container-image" = some v → AcceptedContainer v
  inputs : ∀ v, d.get? "inputs" = some v → ∃ items, v = .array items ∧ ∀ item ∈ items, AcceptedInput item
  outputs : ∀ v, d.get? "output-files" = some v → ∃ items, v = .array items ∧ ∀ item ∈ items, AcceptedOutput item

namespace Schema
open Check

/-! ### The checks of the document -/

/-- The characters of identifiers of inputs and output files, as the pattern lists them. -/
def idSet : CharSet :=
  .union (.range '0' '9') (.union (.range 'A' 'Z') (.union (.range 'a' 'z') (.union (.single '_') .empty)))

/-- The checks of a text. -/
def textChecks : List Check := [.type .string]

/-- The checks of a truth value. -/
def switchChecks : List Check := [.type .boolean]

/-- The checks of a text that is not empty. -/
def someTextChecks : List Check := [.minLength 1, .type .string]

/-- The checks of a list of choices. -/
def choicesChecks : List Check := [.minItems 1, .type .array]

/-- The checks of a text from a list. -/
def oneOfChecks (values : List String) : List Check := [.choice (values.map .string), .type .string]

/-- The checks of a list and of each of its items. -/
def listChecks (checks : List Check) : List Check := [.items checks, .type .array]

/-- The checks of an identifier. -/
def idChecks : List Check :=
  [.maxLength 64, .pattern "^[0-9A-Za-z_]+$" (some (Regex.words idSet).test), .type .string]

/-- The checks of a container description. -/
def containerChecks : List Check :=
  [.property "image" someTextChecks, .property "type" (oneOfChecks ["docker", "singularity"]), .required "image",
    .type .object]

/-- The checks of an input. -/
def inputChecks : List Check :=
  [.property "command-line-flag" textChecks, .property "default-value" [],
    .property "description" textChecks, .property "id" idChecks, .property "list" switchChecks,
    .property "name" someTextChecks, .property "optional" switchChecks,
    .property "type" (oneOfChecks ["String", "File", "Flag", "Number"]),
    .property "value-choices" choicesChecks, .property "value-key" textChecks,
    .required "id", .required "name", .required "type", .type .object]

/-- The checks of an output file. -/
def outputChecks : List Check :=
  [.property "description" textChecks, .property "id" idChecks, .property "name" someTextChecks,
    .property "optional" switchChecks, .property "path-template" someTextChecks, .required "id",
    .required "name", .required "path-template", .type .object]

/-- The checks of a descriptor. -/
def descriptorChecks : List Check :=
  [.property "command-line" someTextChecks, .property "container-image" containerChecks,
    .property "description" textChecks, .property "docker-image" someTextChecks,
    .property "inputs" (listChecks inputChecks), .property "name" someTextChecks,
    .property "output-files" (listChecks outputChecks),
    .property "schema-version" (oneOfChecks ["0.5"]), .property "tool-version" someTextChecks, .required "name",
    .required "tool-version", .required "command-line", .type .object]

theorem parse?_idPattern : Regex.parse? "^[0-9A-Za-z_]+$" = some (.words idSet) := by decide +kernel

theorem regular_idPattern : PatternReader.regular "^[0-9A-Za-z_]+$" = some (Regex.words idSet).test := by
  rw [PatternReader.regular, parse?_idPattern]
  rfl

theorem checks_bundled : bundled.checks = descriptorChecks := by
  have hchecks : bundled.checks = checksOf (.ofDocument .draft07 .regular) (.object bundled.fields) := rfl
  rw [hchecks, descriptorChecks, inputChecks, outputChecks, idChecks, ← regular_idPattern]
  -- the checks are made without reading the pattern
  generalize PatternReader.regular = patterns
  rfl

/-! ### What they accept -/

theorem holds_idSet_iff {c : Char} :
    idSet.holds c = true ↔ ('0' ≤ c ∧ c ≤ '9') ∨ ('A' ≤ c ∧ c ≤ 'Z') ∨ ('a' ≤ c ∧ c ≤ 'z') ∨ c = '_' := by
  have hsingle : '_' ≤ c ∧ c ≤ '_' ↔ c = '_' := by
    constructor
    · rintro ⟨hl, hu⟩
      exact le_antisymm hu hl
    · rintro rfl
      exact ⟨le_rfl, le_rfl⟩
  simp [idSet, CharSet.single, CharSet.holds, hsingle]

theorem accept_idChecks_iff {v : Json} : Accept idChecks v ↔ ∃ id, v = .string id ∧ IsParameterId id := by
  rw [idChecks, accept_cons_iff]
  have hpattern : Accept [.pattern "^[0-9A-Za-z_]+$" (some (Regex.words idSet).test), .type .string] v ↔
      ∃ id, v = .string id ∧ id.toList ≠ [] ∧ ∀ c ∈ id.toList, idSet.holds c = true :=
    accept_cons_text_iff fun s => run_pattern_string_iff.trans Regex.search_words_iff
  rw [hpattern]
  constructor
  · rintro ⟨hlength, id, rfl, hne, hall⟩
    refine ⟨id, rfl, List.length_pos_iff.mpr hne, run_maxLength_string_iff.mp hlength, ?_⟩
    exact fun c hc => holds_idSet_iff.mp (hall c hc)
  · rintro ⟨id, rfl, hpos, hlength, hall⟩
    refine ⟨run_maxLength_string_iff.mpr hlength, id, rfl, List.length_pos_iff.mp hpos, ?_⟩
    exact fun c hc => holds_idSet_iff.mpr (hall c hc)

theorem required_text_iff {key : String} {fields : Json.Fields} {p : String → Prop} :
    ((∀ v, Json.get? key (.object fields) = some v → ∃ s, v = .string s ∧ p s) ∧
        run (.required key) (.object fields) = []) ↔
      ∃ s, Json.get? key (.object fields) = some (.string s) ∧ p s := by
  rw [run_required_object_iff]
  constructor
  · rintro ⟨htext, v, hv⟩
    obtain ⟨s, rfl, hs⟩ := htext v hv
    exact ⟨s, hv, hs⟩
  · rintro ⟨s, hv, hs⟩
    refine ⟨fun v hv' => ?_, _, hv⟩
    cases hv.symm.trans hv'
    exact ⟨s, rfl, hs⟩

theorem accept_textChecks_iff {v : Json} : Accept textChecks v ↔ ∃ s, v = .string s := accept_text_iff

theorem accept_switchChecks_iff {v : Json} : Accept switchChecks v ↔ ∃ b, v = .bool b := accept_switch_iff

theorem accept_someTextChecks_iff {v : Json} : Accept someTextChecks v ↔ ∃ s, v = .string s ∧ s ≠ "" :=
  accept_someText_iff

theorem accept_oneOfChecks_iff {values : List String} {v : Json} :
    Accept (oneOfChecks values) v ↔ ∃ s, v = .string s ∧ s ∈ values := accept_choice_iff

theorem accept_choicesChecks_iff {v : Json} :
    Accept choicesChecks v ↔ ∃ items, v = .array items ∧ items ≠ [] := accept_choices_iff

theorem accept_listChecks_iff {checks : List Check} {v : Json} :
    Accept (listChecks checks) v ↔ ∃ items, v = .array items ∧ ∀ item ∈ items, Accept checks item := accept_list_iff

theorem accept_containerChecks_iff {v : Json} : Accept containerChecks v ↔ AcceptedContainer v := by
  simp only [containerChecks, accept_cons_iff, run_property_iff, run_type_iff, holds_object_iff, accept_nil,
    and_true, accept_someTextChecks_iff, accept_oneOfChecks_iff]
  constructor
  · rintro ⟨himage, htype, hrequired, fields, rfl⟩
    exact ⟨⟨fields, rfl⟩, required_text_iff.mp ⟨himage, hrequired⟩, htype⟩
  · rintro ⟨⟨fields, rfl⟩, himage, htype⟩
    obtain ⟨himage, hrequired⟩ := required_text_iff.mpr himage
    exact ⟨himage, htype, hrequired, fields, rfl⟩

theorem accept_inputChecks_iff {v : Json} : Accept inputChecks v ↔ AcceptedInput v := by
  simp only [inputChecks, accept_cons_iff, run_property_iff, run_type_iff, holds_object_iff, accept_nil, and_true,
    implies_true, true_and, accept_textChecks_iff, accept_switchChecks_iff, accept_someTextChecks_iff,
    accept_oneOfChecks_iff, accept_choicesChecks_iff, accept_idChecks_iff]
  constructor
  · rintro ⟨hflag, hdescription, hid, hlist, hname, hoptional, htype, hchoices, hkey, hid', hname', htype', fields, rfl⟩
    exact {
      isObject := ⟨fields, rfl⟩
      id := required_text_iff.mp ⟨hid, hid'⟩
      name := required_text_iff.mp ⟨hname, hname'⟩
      type := required_text_iff.mp ⟨htype, htype'⟩
      description := hdescription
      valueKey := hkey
      commandLineFlag := hflag
      optional := hoptional
      list := hlist
      choices := hchoices }
  · rintro ⟨⟨fields, rfl⟩, hid, hname, htype, hdescription, hkey, hflag, hoptional, hlist, hchoices⟩
    obtain ⟨hid, hid'⟩ := required_text_iff.mpr hid
    obtain ⟨hname, hname'⟩ := required_text_iff.mpr hname
    obtain ⟨htype, htype'⟩ := required_text_iff.mpr htype
    exact ⟨hflag, hdescription, hid, hlist, hname, hoptional, htype, hchoices, hkey, hid', hname', htype', fields, rfl⟩

theorem accept_outputChecks_iff {v : Json} : Accept outputChecks v ↔ AcceptedOutput v := by
  simp only [outputChecks, accept_cons_iff, run_property_iff, run_type_iff, holds_object_iff, accept_nil, and_true,
    accept_textChecks_iff, accept_switchChecks_iff, accept_someTextChecks_iff, accept_idChecks_iff]
  constructor
  · rintro ⟨hdescription, hid, hname, hoptional, hpath, hid', hname', hpath', fields, rfl⟩
    exact {
      isObject := ⟨fields, rfl⟩
      id := required_text_iff.mp ⟨hid, hid'⟩
      name := required_text_iff.mp ⟨hname, hname'⟩
      pathTemplate := required_text_iff.mp ⟨hpath, hpath'⟩
      description := hdescription
      optional := hoptional }
  · rintro ⟨⟨fields, rfl⟩, hid, hname, hpath, hdescription, hoptional⟩
    obtain ⟨hid, hid'⟩ := required_text_iff.mpr hid
    obtain ⟨hname, hname'⟩ := required_text_iff.mpr hname
    obtain ⟨hpath, hpath'⟩ := required_text_iff.mpr hpath
    exact ⟨hdescription, hid, hname, hoptional, hpath, hid', hname', hpath', fields, rfl⟩

/-- The bundled schema finds nothing wrong with exactly the descriptors that have the fields it describes. -/
theorem validate_bundled_eq_nil_iff {d : Descriptor} : bundled.validate d = [] ↔ d.Accepted := by
  have haccept : bundled.validate d = [] ↔ Accept descriptorChecks (.object d.fields) := by
    rw [validate, validateJson, checks_bundled, List.map_eq_nil_iff]
    exact Iff.rfl
  rw [haccept]
  simp only [descriptorChecks, accept_cons_iff, run_property_iff, run_type_iff, holds_object_iff, accept_nil,
    and_true, accept_textChecks_iff, accept_someTextChecks_iff, accept_oneOfChecks_iff,
    accept_containerChecks_iff, accept_listChecks_iff, accept_inputChecks_iff, accept_outputChecks_iff]
  constructor
  · rintro ⟨hcommand, hcontainer, hdescription, himage, hinputs, hname, houtputs, hdialect, hversion, hname',
      hversion', hcommand', -⟩
    exact {
      name := required_text_iff.mp ⟨hname, hname'⟩
      version := required_text_iff.mp ⟨hversion, hversion'⟩
      commandLine := required_text_iff.mp ⟨hcommand, hcommand'⟩
      schemaVersion := hdialect
      description := hdescription
      dockerImage := himage
      container := hcontainer
      inputs := hinputs
      outputs := houtputs }
  · rintro ⟨hname, hversion, hcommand, hdialect, hdescription, himage, hcontainer, hinputs, houtputs⟩
    obtain ⟨hname, hname'⟩ := required_text_iff.mpr hname
    obtain ⟨hversion, hversion'⟩ := required_text_iff.mpr hversion
    obtain ⟨hcommand, hcommand'⟩ := required_text_iff.mpr hcommand
    exact ⟨hcommand, hcontainer, hdescription, himage, hinputs, hname, houtputs, hdialect, hversion, hname',
      hversion', hcommand', d.fields, rfl⟩

/-! ### Reading the schema, and what it does not look at -/

theorem ofJson?_bundled : ofJson? Bundled.document = .ok bundled := by
  have hdialect : dialect? bundled.fields = .ok .draft07 := rfl
  have hread : (ofJson? bundled.document).isOk = true := by decide +kernel
  exact ofJson?_eq_ok_of_isOk hdialect rfl hread

theorem validateStrict_eq_ok_iff {schema : Schema} {d : Descriptor} :
    schema.validateStrict d = .ok () ↔ schema.validate d = [] := by
  rw [validateStrict]
  cases schema.validate d with
  | nil => simp
  | cons e errors => simp

/-- The fields of a descriptor that the bundled schema describes. -/
def describedKeys : List String :=
  ["command-line", "container-image", "description", "docker-image", "inputs", "name", "output-files",
    "schema-version", "tool-version"]

/-- A check of an object that looks at no fields but those under some keys. -/
def LooksAt (keys : List String) : Check → Prop
  | .property key _ => key ∈ keys
  | .required key => key ∈ keys
  | .type t => t = .object
  | _ => False

section
variable {keys : List String} {fields others : Json.Fields}

/-- Such a check finds the same in all objects that have the same under these keys. -/
theorem errors_run_congr (h : ∀ key ∈ keys, others.get? key = fields.get? key) {check : Check}
    (hcheck : LooksAt keys check) :
    (run check (.object others)).map ValidationError.ofFinding = (run check (.object fields)).map ValidationError.ofFinding := by
  cases check with
  | property key checks =>
    have hkey : Json.get? key (.object others) = Json.get? key (.object fields) := h key hcheck
    rw [run, run, inField, inField, hkey]
  | required key =>
    rw [run, run, demandFields, demandFields, h key hcheck]
    cases fields.get? key with
    | some field => rfl
    | none =>
      change [ValidationError.ofFinding ⟨[], .object others, .required key⟩] =
        [ValidationError.ofFinding ⟨[], .object fields, .required key⟩]
      rw [Finding.ofFinding_eq, Finding.ofFinding_eq, Finding.message_of_required rfl, Finding.message_of_required rfl]
      rfl
  | type t =>
    cases hcheck
    rfl
  | _ => cases hcheck

theorem errors_runAll_congr (h : ∀ key ∈ keys, others.get? key = fields.get? key) {checks : List Check}
    (hchecks : ∀ check ∈ checks, LooksAt keys check) :
    (runAll checks (.object others)).map ValidationError.ofFinding =
      (runAll checks (.object fields)).map ValidationError.ofFinding := by
  induction checks with
  | nil => rfl
  | cons check rest ih =>
    obtain ⟨hcheck, hrest⟩ := List.forall_mem_cons.mp hchecks
    rw [runAll, runAll, List.map_append, List.map_append, errors_run_congr h hcheck, ih hrest]

end

theorem looksAt_descriptorChecks : ∀ check ∈ descriptorChecks, LooksAt describedKeys check := by
  simp [descriptorChecks, LooksAt, describedKeys]

/-- The bundled schema is read from its document. It accepts exactly the descriptors whose fields are as it describes
    them, and what a descriptor has under other keys changes no error. -/
theorem bundled_accepts_iff (d : Descriptor) :
    ofJson? Bundled.document = .ok bundled ∧ (bundled.validate d = [] ↔ d.Accepted) ∧
      (bundled.validateStrict d = .ok () ↔ d.Accepted) ∧
      ∀ other : Descriptor, (∀ key ∈ describedKeys, other.get? key = d.get? key) →
        bundled.validate other = bundled.validate d := by
  refine ⟨ofJson?_bundled, validate_bundled_eq_nil_iff, validateStrict_eq_ok_iff.trans validate_bundled_eq_nil_iff,
    fun other h => ?_⟩
  rw [validate, validate, validateJson, validateJson, checks_bundled]
  exact errors_runAll_congr h looksAt_descriptorChecks

end Schema

end ToolPlugins
