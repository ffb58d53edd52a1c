import Mathlib
import ToolPlugins.Proofs.Artifact.Lines
import ToolPlugins.Proofs.Definition.Check

/-!
A generated definition read back. It is loaded exactly when the descriptor has the fields that the rules
for definitions ask for, and then declares what the descriptor says.
-/

namespace ToolPlugins

/-- What the definition for one side declares about the tool of a descriptor. -/
def TaskDefinition.ofDescriptor (d : Descriptor) (side : DefinitionContext) : TaskDefinition where
  identifier := Identifier.classify d.name
  context := side
  tool := d.name
  version := d.version
  description := d.description?
  image := d.image?
  command := match side with
    | .client => none
    | .worker => d.commandLine?
  inputs := d.inputs.map InputSpec.ofEntry
  outputs := d.outputs.map OutputSpec.ofEntry

/-- The descriptors whose definition for one side is loaded. -/
structure Descriptor.Loadable (d : Descriptor) (side : DefinitionContext) : Prop where
  name : ∃ name, d.get? "name" = some (.string name)
  version : ∃ version, d.get? "tool-version" = some (.string version) ∧ HasInk version
  description : NullableText (d.get? "description")
  valueKeys : ∀ entry ∈ d.inputs, NullableText (entry.get? "value-key")
  inputIds : ∀ entry ∈ d.inputs, ∃ id, entry.get? "id" = some (.string id) ∧ IsParameterId id
  outputIds : ∀ entry ∈ d.outputs, ∃ id, entry.get? "id" = some (.string id) ∧ IsParameterId id
  inputsDiffer : (d.inputs.map (Json.get? "id")).Nodup
  outputsDiffer : (d.outputs.map (Json.get? "id")).Nodup
  command : side = .worker → ∃ command, d.get? "command-line" = some (.string command) ∧ HasInk command

theorem Descriptor.name_eq {d : Descriptor} {name : String} (h : d.get? "name" = some (.string name)) :
    d.name = name := by
  rw [Descriptor.name, Descriptor.name?, Descriptor.text?, h]
  rfl

theorem Descriptor.version_eq {d : Descriptor} {version : String}
    (h : d.get? "tool-version" = some (.string version)) : d.version = version := by
  rw [Descriptor.version, Descriptor.version?, Descriptor.text?, h]
  rfl

theorem Descriptor.commandLine?_eq_some_iff {d : Descriptor} {command : String} :
    d.commandLine? = some command ↔ d.get? "command-line" = some (.string command) := by
  rw [Descriptor.commandLine?, Descriptor.text?]
  cases d.get? "command-line" with
  | none => simp
  | some v => cases v <;> simp [Json.string?]

namespace Definition
open Template Json

section Reads
variable {d e : Draft} {lines : List (List Char)}

theorem Draft.reads_headLines_iff {id : List Char} (hid : Identifier.isCanonicalChars id = true)
    {side : DefinitionContext} {schemaId name version description : Json} :
    Draft.Reads {} (headLines id side schemaId name version description ++ lines) e ↔
      ∃ tool v o, name = .string tool ∧ version = .string v ∧ description = ofString? o ∧
        Draft.Reads
          { identifier := some (String.ofList id), context := some side, tool := some tool, version := some v,
            description := o } lines e := by
  refine reads_remark_iff.trans (reads_remark_iff.trans (reads_remark_iff.trans ?_))
  refine (reads_task_iff rfl hid).trans ((reads_context_iff rfl side).trans ((reads_tool_iff rfl).trans ?_))
  constructor
  · rintro ⟨tool, hname, h⟩
    obtain ⟨v, hversion, h⟩ := (reads_version_iff rfl).mp h
    obtain ⟨o, hdescription, h⟩ := (reads_description_iff rfl).mp h
    exact ⟨tool, v, o, hname, hversion, hdescription, h⟩
  · rintro ⟨tool, v, o, hname, hversion, hdescription, h⟩
    refine ⟨tool, hname, (reads_version_iff rfl).mpr ⟨v, hversion, ?_⟩⟩
    exact (reads_description_iff rfl).mpr ⟨o, hdescription, h⟩

theorem Draft.reads_commandLines_iff (hd : d.ended = false) (hc : d.command = none) {command : Json}
    {side : DefinitionContext} :
    d.Reads (commandLines command side ++ lines) e ↔
      ∃ o, (match side with | .client => o = none | .worker => command = ofString? o) ∧
        Draft.Reads { d with command := o } lines e := by
  cases side with
  | client =>
    rw [commandLines, List.nil_append]
    simp [← hc]
  | worker => exact reads_command_iff hd

theorem Draft.reads_orBlank_iff {calls : List (List Char)} :
    d.Reads (orBlank calls ++ lines) e ↔ d.Reads (calls ++ lines) e := by
  cases calls with
  | nil => exact reads_blank_iff
  | cons call calls => exact Iff.rfl

theorem Draft.reads_tailLines_iff (hd : d.ended = false) {inputs outputs : List Json}
    {inputRows outputRows : List (List (List Char))} (hi : Rows.each Rows.inputCells 0 inputs = .ok inputRows)
    (ho : Rows.each Rows.outputCells 0 outputs = .ok outputRows) :
    d.Reads (tailLines (Call.alignedChars "input".toList inputRows) (Call.alignedChars "output".toList outputRows) ++
        [[]]) e ↔
      (∀ entry ∈ inputs, NullableText (entry.get? "value-key")) ∧
        e = { d with
          inputs := d.inputs ++ inputs.map InputSpec.ofEntry
          outputs := d.outputs ++ outputs.map OutputSpec.ofEntry
          ended := true } := by
  rw [tailLines, List.append_assoc, List.append_assoc, reads_orBlank_iff, Call.alignedChars, Call.alignedChars]
  refine (reads_inputs_iff hd hi _ _).trans (and_congr_right' ?_)
  refine reads_orBlank_iff.trans ((reads_outputs_iff (by exact hd) ho _ _).trans ?_)
  refine (reads_end_iff (by exact hd)).trans (reads_blank_iff.trans (reads_nil_iff.trans ?_))
  exact eq_comm

end Reads

theorem ofString?_inj {a b : Option String} : ofString? a = ofString? b ↔ a = b := by
  cases a <;> cases b <;> simp [ofString?, ofOption]

theorem Draft.of_inj {s t : TaskDefinition} : Draft.of s = Draft.of t ↔ s = t := by
  constructor
  · intro h
    have hs : (Draft.of s).finish = .ok t := finish_eq_ok_iff.mpr h
    exact Except.ok.inj ((finish_eq_ok_iff.mpr rfl).symm.trans hs)
  · rintro rfl
    rfl

theorem Draft.reads_definitionLines_iff {id : List Char} (hid : Identifier.isCanonicalChars id = true)
    {side : DefinitionContext} {schemaId name version : Json} {description command : Option Json}
    {o : Option String} {inputs outputs : List Json} {inputRows outputRows : List (List (List Char))}
    (hi : Rows.each Rows.inputCells 0 inputs = .ok inputRows)
    (ho : Rows.each Rows.outputCells 0 outputs = .ok outputRows) {t : TaskDefinition} :
    Draft.Reads {} (definitionLines id side schemaId name version (ofOption description) (ofString? o)
        (ofOption command) inputRows outputRows ++ [[]]) (Draft.of t) ↔
      ∃ tool v, name = .string tool ∧ version = .string v ∧ NullableText description ∧
        (side = .worker → NullableText command) ∧ (∀ entry ∈ inputs, NullableText (entry.get? "value-key")) ∧
        t = {
          identifier := String.ofList id
          context := side
          tool := tool
          version := v
          description := description.bind string?
          image := o
          command := match side with
            | .client => none
            | .worker => command.bind string?
          inputs := inputs.map InputSpec.ofEntry
          outputs := outputs.map OutputSpec.ofEntry } := by
  rw [definitionLines, List.append_assoc, List.cons_append, List.append_assoc, reads_headLines_iff hid]
  constructor
  · rintro ⟨tool, v, _, rfl, rfl, hdescription, h⟩
    obtain ⟨hnull, rfl⟩ := ofOption_eq_ofString?_iff.mp hdescription
    obtain ⟨_, himage, h⟩ := (reads_image_iff rfl).mp h
    obtain rfl := ofString?_inj.mp himage
    obtain ⟨c, hcommand, h⟩ := (reads_commandLines_iff rfl rfl).mp h
    obtain ⟨hkeys, h⟩ := (reads_tailLines_iff rfl hi ho).mp h
    refine ⟨tool, v, rfl, rfl, hnull, ?_, hkeys, ?_⟩
    · rintro rfl
      exact (ofOption_eq_ofString?_iff.mp hcommand).1
    · refine Draft.of_inj.mp (h.trans ?_)
      cases side with
      | client =>
        cases hcommand
        rfl
      | worker =>
        obtain ⟨-, rfl⟩ := ofOption_eq_ofString?_iff.mp hcommand
        rfl
  · rintro ⟨tool, v, rfl, rfl, hnull, hcommand, hkeys, rfl⟩
    refine ⟨tool, v, _, rfl, rfl, ofOption_eq_ofString?_iff.mpr ⟨hnull, rfl⟩, ?_⟩
    refine (reads_image_iff rfl).mpr ⟨o, rfl, ?_⟩
    refine (reads_commandLines_iff rfl rfl).mpr ⟨_, ?_, (reads_tailLines_iff rfl hi ho).mpr ⟨hkeys, rfl⟩⟩
    cases side with
    | client => rfl
    | worker => exact ofOption_eq_ofString?_iff.mpr ⟨hcommand rfl, rfl⟩

/-! ### The rules on what was declared -/

/-- The rules for identifiers, on the specs and on the entries that they come from. -/
theorem ids_iff {entries : List Json} (h : ∀ entry ∈ entries, ∃ id, Rows.text? entry "id" = some id) :
    ((∀ id ∈ entries.map fun entry => (Rows.text? entry "id").getD "", IsParameterId id) ∧
        (entries.map fun entry => (Rows.text? entry "id").getD "").Nodup) ↔
      (∀ entry ∈ entries, ∃ id, entry.get? "id" = some (.string id) ∧ IsParameterId id) ∧
        (entries.map (Json.get? "id")).Nodup := by
  have hget : ∀ entry ∈ entries, entry.get? "id" = some (.string ((Rows.text? entry "id").getD "")) := by
    intro entry hentry
    obtain ⟨id, hid⟩ := h entry hentry
    rw [hid]
    exact text?_eq_some_iff.mp hid
  have hmap : entries.map (Json.get? "id") =
      (entries.map fun entry => (Rows.text? entry "id").getD "").map fun id => some (.string id) := by
    rw [List.map_map]
    exact List.map_congr_left hget
  have hinj : Function.Injective fun id => some (Json.string id) := by
    intro a b hab
    simpa using hab
  rw [hmap, List.nodup_map_iff hinj, List.forall_mem_map]
  refine and_congr_left' (forall₂_congr fun entry hentry => ?_)
  rw [hget entry hentry]
  simp

theorem exists_id_of_inputCells {entries : List Json} {rows : List (List (List Char))}
    (h : Rows.each Rows.inputCells 0 entries = .ok rows) : ∀ entry ∈ entries, ∃ id, Rows.text? entry "id" = some id := by
  refine forall_of_each (fun index entry row hrow => ?_) h
  obtain ⟨id, _, hid, -⟩ := eq_of_inputCells hrow
  exact ⟨id, hid⟩

theorem exists_id_of_outputCells {entries : List Json} {rows : List (List (List Char))}
    (h : Rows.each Rows.outputCells 0 entries = .ok rows) : ∀ entry ∈ entries, ∃ id, Rows.text? entry "id" = some id := by
  refine forall_of_each (fun index entry row hrow => ?_) h
  obtain ⟨id, _, hid, -⟩ := eq_of_outputCells hrow
  exact ⟨id, hid⟩

theorem problem?_ofDescriptor_iff {d : Descriptor} {side : DefinitionContext}
    (hi : ∀ entry ∈ d.inputs, ∃ id, Rows.text? entry "id" = some id)
    (ho : ∀ entry ∈ d.outputs, ∃ id, Rows.text? entry "id" = some id) :
    (TaskDefinition.ofDescriptor d side).problem? = none ↔
      HasInk d.version ∧ (side = .worker → ∃ command, d.commandLine? = some command ∧ HasInk command) ∧
        ((∀ entry ∈ d.inputs, ∃ id, entry.get? "id" = some (.string id) ∧ IsParameterId id) ∧
          (d.inputs.map (Json.get? "id")).Nodup) ∧
        (∀ entry ∈ d.outputs, ∃ id, entry.get? "id" = some (.string id) ∧ IsParameterId id) ∧
          (d.outputs.map (Json.get? "id")).Nodup := by
  rw [TaskDefinition.problem?_eq_none_iff, ← ids_iff hi, ← ids_iff ho]
  simp only [TaskDefinition.ofDescriptor, List.map_map, Identifier.isCanonical_classify, true_and]
  refine and_congr_right' (and_congr_left' (forall_congr' fun hside => ?_))
  rw [hside]

/-! ### The round trip -/

/-- A generated definition is loaded when its descriptor is one whose definition can be, and then as what
    the descriptor says. -/
theorem load_eq_ok_iff_loadable {schema : Schema} {d : Descriptor} {side : DefinitionContext} {text : List Char}
    (h : fill schema d (ofKind side.artifact) = .ok text) {t : TaskDefinition} :
    load (String.ofList text) (Identifier.classify d.name) side = .ok t ↔
      d.Loadable side ∧ t = TaskDefinition.ofDescriptor d side := by
  obtain ⟨schemaId, name, version, inputRows, outputRows, hname, hversion, hcommand, hinputs, houtputs, rfl⟩ :=
    lines_of_fill h
  have hid := Identifier.isCanonicalChars_classifyChars d.name.toList
  have hcontrol := noControl_definitionLines hid side schemaId name version (ofOption (d.get? "description"))
    (ofString? d.image?) (ofOption (d.get? "command-line")) hinputs houtputs
  have hsplit := splitOn_unlines (fun line hline => (hcontrol line hline).not_mem (by decide)) []
  have hi := exists_id_of_inputCells hinputs
  have ho := exists_id_of_outputCells houtputs
  rw [List.append_nil, List.splitOn_nil] at hsplit
  rw [load_eq_ok_iff, String.toList_ofList, hsplit,
    Draft.reads_definitionLines_iff hid hinputs houtputs]
  constructor
  · rintro ⟨⟨tool, v, rfl, rfl, hdescription, -, hkeys, rfl⟩, -, -, hproblem⟩
    rw [← Descriptor.name_eq hname, ← Descriptor.version_eq hversion] at hproblem ⊢
    obtain ⟨hink, hcommand, ⟨hinputIds, hinputs'⟩, houtputIds, houtputs'⟩ :=
      (problem?_ofDescriptor_iff hi ho).mp hproblem
    refine ⟨?_, rfl⟩
    exact {
      name := ⟨tool, hname⟩
      version := ⟨v, hversion, Descriptor.version_eq hversion ▸ hink⟩
      description := hdescription
      valueKeys := hkeys
      inputIds := hinputIds
      outputIds := houtputIds
      inputsDiffer := hinputs'
      outputsDiffer := houtputs'
      command := fun hside => by simpa only [Descriptor.commandLine?_eq_some_iff] using hcommand hside }
  · rintro ⟨hd, rfl⟩
    obtain ⟨tool, hname'⟩ := hd.name
    obtain ⟨v, hversion', hink⟩ := hd.version
    cases hname.symm.trans hname'
    cases hversion.symm.trans hversion'
    refine ⟨⟨tool, v, rfl, rfl, hd.description, ?_, hd.valueKeys, ?_⟩, rfl, rfl, ?_⟩
    · intro hside
      obtain ⟨command, hcommand', -⟩ := hd.command hside
      exact .inr (.inr ⟨command, hcommand'⟩)
    · rw [← Descriptor.name_eq hname, ← Descriptor.version_eq hversion]
      rfl
    · refine (problem?_ofDescriptor_iff hi ho).mpr
        ⟨?_, fun hside => ?_, ⟨hd.inputIds, hd.inputsDiffer⟩, hd.outputIds, hd.outputsDiffer⟩
      · rw [Descriptor.version_eq hversion]
        exact hink
      · simpa only [Descriptor.commandLine?_eq_some_iff] using hd.command hside

theorem fill_of_render {schema : Schema} {d : Descriptor} {a : Artifacts} (h : render schema d = .ok a)
    (kind : ArtifactKind) : ∃ text, fill schema d (ofKind kind) = .ok text ∧ a.body kind = String.ofList text := by
  obtain ⟨client, hclient, h⟩ := bind_eq_ok_iff.mp h
  obtain ⟨worker, hworker, h⟩ := bind_eq_ok_iff.mp h
  obtain ⟨params, hparams, h⟩ := bind_eq_ok_iff.mp h
  obtain ⟨summary, hsummary, h⟩ := bind_eq_ok_iff.mp h
  obtain ⟨help, hhelp, h⟩ := bind_eq_ok_iff.mp h
  cases h
  cases kind with
  | clientDefinition => exact renderKind_eq_ok_iff.mp hclient
  | workerDefinition => exact renderKind_eq_ok_iff.mp hworker
  | paramsTemplate => exact renderKind_eq_ok_iff.mp hparams
  | showTemplate => exact renderKind_eq_ok_iff.mp hsummary
  | helpTemplate => exact renderKind_eq_ok_iff.mp hhelp

/-- Whatever the schema and the descriptor: when the artifacts can be made, the definition for a side is
    loaded exactly when the descriptor allows it, and what is loaded is what the descriptor says. -/
theorem loads_iff_of_render {schema : Schema} {d : Descriptor} {a : Artifacts} (h : render schema d = .ok a)
    (side : DefinitionContext) :
    ((∃ t, load (a.body side.artifact) (Identifier.classify d.name) side = .ok t) ↔ d.Loadable side) ∧
      ∀ t, load (a.body side.artifact) (Identifier.classify d.name) side = .ok t →
        t = TaskDefinition.ofDescriptor d side := by
  obtain ⟨text, hfill, hbody⟩ := fill_of_render h side.artifact
  rw [hbody]
  refine ⟨⟨?_, ?_⟩, ?_⟩
  · rintro ⟨t, ht⟩
    exact ((load_eq_ok_iff_loadable hfill).mp ht).1
  · intro hd
    exact ⟨_, (load_eq_ok_iff_loadable hfill).mpr ⟨hd, rfl⟩⟩
  · intro t ht
    exact ((load_eq_ok_iff_loadable hfill).mp ht).2

/-- A descriptor with one input, which has a value key. -/
def pingDescriptor : Descriptor where
  fields :=
    [("command-line", .string "ping [HOST]"),
      ("inputs", .array [.object [("id", .string "host"), ("type", .string "String"), ("value-key", .string "[HOST]")]]),
      ("name", .string "ping"), ("tool-version", .string "1.0")]

theorem loads_of_render_pingDescriptor :
    ∃ a, render ⟨[], []⟩ pingDescriptor = .ok a ∧
      ∀ side : DefinitionContext, load (a.body side.artifact) (Identifier.classify pingDescriptor.name) side =
        .ok (TaskDefinition.ofDescriptor pingDescriptor side) := by
  obtain ⟨a, ha⟩ : ∃ a, render ⟨[], []⟩ pingDescriptor = .ok a :=
    exists_render_of_fill fun kind => by cases kind <;> exact ⟨_, rfl⟩
  refine ⟨a, ha, fun side => ?_⟩
  obtain ⟨hloads, hdeclares⟩ := loads_iff_of_render ha side
  have hentry : ∀ entry ∈ pingDescriptor.inputs, entry.get? "id" = some (.string "host") ∧
      entry.get? "value-key" = some (.string "[HOST]") := by
    intro entry hentry
    obtain rfl := List.mem_singleton.mp hentry
    exact ⟨rfl, rfl⟩
  obtain ⟨t, ht⟩ := hloads.mpr {
    name := ⟨"ping", rfl⟩
    version := ⟨"1.0", rfl, '1', by decide, by decide⟩
    description := .inl rfl
    valueKeys := fun entry h => .inr (.inr ⟨"[HOST]", (hentry entry h).2⟩)
    inputIds := fun entry h => ⟨"host", (hentry entry h).1, TaskDefinition.isId_iff.mp rfl⟩
    outputIds := by
      intro entry h
      cases h
    inputsDiffer := List.nodup_singleton _
    outputsDiffer := List.nodup_nil
    command := fun _ => ⟨"ping [HOST]", rfl, 'p', by decide, by decide⟩ }
  exact ht.trans (congrArg Except.ok (hdeclares t ht))

end Definition

end ToolPlugins
