import Mathlib
import ToolPlugins.Proofs.Artifact.Pieces
import ToolPlugins.Proofs.Definition.Calls
import ToolPlugins.Proofs.Json.Lookup

/-!
The lines of a generated definition: remarks, one line for each directive of the template, and one line for
each call.
-/

namespace ToolPlugins

/-- The artifact with the definition of a side. -/
def DefinitionContext.artifact : DefinitionContext → ArtifactKind
  | .client => .clientDefinition
  | .worker => .workerDefinition

theorem Rows.joinLines_singleton (line : List Char) : joinLines [line] = line := by simp [joinLines]

theorem Rows.joinLines_cons_cons (line next : List Char) (lines : List (List Char)) :
    joinLines (line :: next :: lines) = line ++ (['\n'] ++ joinLines (next :: lines)) := by
  simp [joinLines]

namespace Template

/-! ### Templates filled in -/

section Fill
variable {schema : Schema} {d : Descriptor} {pieces : List Piece} {text : List Char}

theorem fill_nil_iff : fill schema d [] = .ok text ↔ [] = text := by
  rw [fill, Except.ok.injEq]

theorem fill_text_iff {s : String} :
    fill schema d (.text s :: pieces) = .ok text ↔
      ∃ others, fill schema d pieces = .ok others ∧ s.toList ++ others = text := by
  simp only [fill, bind_eq_ok_iff, pure_eq_ok_iff]

theorem fill_slot_iff {slot : Slot} {style : Style} :
    fill schema d (.slot slot style :: pieces) = .ok text ↔
      ∃ value others, slotValue schema d slot = .ok value ∧ fill schema d pieces = .ok others ∧
        write value style ++ others = text := by
  simp only [fill, bind_eq_ok_iff, pure_eq_ok_iff]
  constructor
  · rintro ⟨value, hvalue, others, hothers, rfl⟩
    exact ⟨value, others, hvalue, hothers, rfl⟩
  · rintro ⟨value, others, hvalue, hothers, rfl⟩
    exact ⟨value, hvalue, others, hothers, rfl⟩

theorem fill_pair_iff {s : String} {slot : Slot} {style : Style} :
    fill schema d (.text s :: .slot slot style :: pieces) = .ok text ↔
      ∃ value others, slotValue schema d slot = .ok value ∧ fill schema d pieces = .ok others ∧
        s.toList ++ (write value style ++ others) = text := by
  rw [fill_text_iff]
  constructor
  · rintro ⟨_, h, rfl⟩
    obtain ⟨value, others, hvalue, hothers, rfl⟩ := fill_slot_iff.mp h
    exact ⟨value, others, hvalue, hothers, rfl⟩
  · rintro ⟨value, others, hvalue, hothers, rfl⟩
    exact ⟨_, fill_slot_iff.mpr ⟨value, others, hvalue, hothers, rfl⟩, rfl⟩

theorem fill_append_iff {front : List Piece} :
    fill schema d (front ++ pieces) = .ok text ↔
      ∃ s others, fill schema d front = .ok s ∧ fill schema d pieces = .ok others ∧ s ++ others = text := by
  induction front generalizing text with
  | nil => simp [fill]
  | cons piece front ih =>
    cases piece with
    | text s =>
      simp only [List.cons_append, fill_text_iff, ih]
      constructor
      · rintro ⟨_, ⟨a, b, ha, hb, rfl⟩, rfl⟩
        exact ⟨_, b, ⟨a, ha, rfl⟩, hb, List.append_assoc _ _ _⟩
      · rintro ⟨_, b, ⟨a, ha, rfl⟩, hb, rfl⟩
        exact ⟨_, ⟨a, b, ha, hb, rfl⟩, (List.append_assoc _ _ _).symm⟩
    | slot slot style =>
      simp only [List.cons_append, fill_slot_iff, ih]
      constructor
      · rintro ⟨v, _, hv, ⟨a, b, ha, hb, rfl⟩, rfl⟩
        exact ⟨_, b, ⟨v, a, hv, ha, rfl⟩, hb, List.append_assoc _ _ _⟩
      · rintro ⟨_, b, ⟨v, a, hv, ha, rfl⟩, hb, rfl⟩
        exact ⟨v, _, hv, ⟨a, b, ha, hb, rfl⟩, (List.append_assoc _ _ _).symm⟩

end Fill

theorem slotValue_field_iff {schema : Schema} {d : Descriptor} {key : String} (h : '.' ∉ key.toList) {v : Json} :
    slotValue schema d (.field key) = .ok v ↔ d.get? key = some v := by
  rw [slotValue, d.lookup?_eq_get? h]
  cases d.get? key with
  | none => simp
  | some w => simp

/-! ### Lines -/

/-- Lines with a line feed after each. -/
def unlines (lines : List (List Char)) : List Char := lines.flatMap fun line => line ++ ['\n']

theorem splitOn_unlines {lines : List (List Char)} (h : ∀ line ∈ lines, '\n' ∉ line) (rest : List Char) :
    (unlines lines ++ rest).splitOn '\n' = lines ++ rest.splitOn '\n' := by
  induction lines with
  | nil => rfl
  | cons line lines ih =>
    have hline := List.splitOn_append_cons_self_of_not_mem (h line List.mem_cons_self) (unlines lines ++ rest)
    rw [ih fun l hl => h l (List.mem_cons_of_mem line hl)] at hline
    rw [unlines, List.flatMap_cons, List.append_assoc, List.append_assoc]
    exact hline

/-- The lines, or a blank line if there are none. -/
def orBlank : List (List Char) → List (List Char)
  | [] => [[]]
  | lines => lines

theorem joinLines_append (lines : List (List Char)) :
    Rows.joinLines lines ++ ['\n'] = unlines (orBlank lines) := by
  induction lines with
  | nil => rfl
  | cons line lines ih =>
    cases lines with
    | nil => simp [Rows.joinLines_singleton, unlines, orBlank]
    | cons next lines =>
      rw [Rows.joinLines_cons_cons, List.append_assoc, List.append_assoc, ih]
      simp [unlines, orBlank]

/-! ### The lines of a definition -/

/-- The lines of a definition up to its description. -/
def headLines (id : List Char) (side : DefinitionContext) (schemaId name version description : Json) :
    List (List Char) :=
  ['#' :: (' ' :: id ++ ": ".toList ++ side.name.toList ++ " task definition".toList),
    '#' :: (" Generated from descriptor ".toList ++ name.render ++ "; regenerate instead of editing.".toList),
    '#' :: (" schema ".toList ++ schemaId.render),
    "task".toList ++ ' ' :: id,
    "context".toList ++ ' ' :: side.name.toList,
    "tool".toList ++ ' ' :: name.render,
    "version".toList ++ ' ' :: version.render,
    "description".toList ++ ' ' :: description.render]

theorem noControl_headLines {id : List Char} (hid : Identifier.isCanonicalChars id = true)
    (side : DefinitionContext) (schemaId name version description : Json) :
    ∀ line ∈ headLines id side schemaId name version description, Text.NoControl line := by
  have hid' := Text.noControl_of_isAlphanum (Identifier.isAlphanum_of_isCanonicalChars hid)
  have hside : Text.NoControl side.name.toList := by
    cases side with
    | client => simp [DefinitionContext.name]
    | worker => simp [DefinitionContext.name]
  intro line hline
  fin_cases hline <;> simp [hid', hside, Json.noControl_render]

section Head
variable {schema : Schema} {d : Descriptor} {side : DefinitionContext} {text : List Char}

theorem fill_definitionHead (h : fill schema d (definitionHead side.name) = .ok text) :
    ∃ schemaId name version, d.get? "name" = some name ∧ d.get? "tool-version" = some version ∧
      text = unlines (headLines (Identifier.classifyChars d.name.toList) side schemaId name version
          (Json.ofOption (d.get? "description"))) ++
        ("image".toList ++ ' ' :: (Json.ofString? d.image?).render) := by
  obtain ⟨_, _, hid, h₁, rfl⟩ := fill_pair_iff.mp h
  obtain ⟨name, _, hname, h₂, rfl⟩ := fill_pair_iff.mp h₁
  obtain ⟨schemaId, _, hschema, h₃, rfl⟩ := fill_pair_iff.mp h₂
  obtain ⟨_, _, hid', h₄, rfl⟩ := fill_pair_iff.mp h₃
  obtain ⟨name', _, hname', h₅, rfl⟩ := fill_pair_iff.mp h₄
  obtain ⟨version, _, hversion, h₆, rfl⟩ := fill_pair_iff.mp h₅
  obtain ⟨description, _, hdescription, h₇, rfl⟩ := fill_pair_iff.mp h₆
  obtain ⟨image, _, himage, h₈, rfl⟩ := fill_pair_iff.mp h₇
  obtain rfl := fill_nil_iff.mp h₈
  cases hid
  cases hid'
  cases himage
  cases hdescription
  rw [slotValue_field_iff (by decide)] at hname hname' hversion
  obtain rfl : name = name' := Option.some.inj (hname.symm.trans hname')
  refine ⟨schemaId, name, version, hname, hversion, ?_⟩
  rw [Descriptor.lookup?_eq_get? d (by decide)]
  simp [unlines, headLines, write, Rows.valueText, Identifier.classify]

end Head

/-- The lines of a definition after its last literal, of which the calls are given. -/
def tailLines (inputs outputs : List (List Char)) : List (List Char) :=
  orBlank inputs ++ orBlank outputs ++ ["end".toList]

theorem fill_definitionTail {schema : Schema} {d : Descriptor} {text : List Char}
    (h : fill schema d definitionTail = .ok text) :
    ∃ inputRows outputRows, Rows.each Rows.inputCells 0 d.inputs = .ok inputRows ∧
      Rows.each Rows.outputCells 0 d.outputs = .ok outputRows ∧
      text = '\n' :: unlines (tailLines (Call.alignedChars "input".toList inputRows)
        (Call.alignedChars "output".toList outputRows)) := by
  obtain ⟨_, _, hinputs, h₁, rfl⟩ := fill_pair_iff.mp h
  obtain ⟨_, _, houtputs, h₂, rfl⟩ := fill_pair_iff.mp h₁
  obtain ⟨_, h₃, rfl⟩ := fill_text_iff.mp h₂
  obtain rfl := fill_nil_iff.mp h₃
  obtain ⟨_, hin, rfl⟩ := map_eq_ok_iff.mp hinputs
  obtain ⟨_, hout, rfl⟩ := map_eq_ok_iff.mp houtputs
  obtain ⟨inputRows, hinputRows, hin⟩ := bind_eq_ok_iff.mp hin
  obtain ⟨outputRows, houtputRows, hout⟩ := bind_eq_ok_iff.mp hout
  obtain rfl := pure_eq_ok_iff.mp hin
  obtain rfl := pure_eq_ok_iff.mp hout
  refine ⟨inputRows, outputRows, hinputRows, houtputRows, ?_⟩
  have happend : ∀ a b, unlines (a ++ b) = unlines a ++ unlines b := fun a b => List.flatMap_append
  rw [tailLines, happend, happend, ← joinLines_append, ← joinLines_append]
  simp [unlines, write, Rows.valueText]

/-! ### The whole definition -/

/-- Cells that are the text of values have no control character, and neither has a call made of them. -/
theorem noControl_alignedChars {name : List Char} {rows : List (List (List Char))} (hn : Text.NoControl name)
    (h : ∀ row ∈ rows, ∃ values : List Json, row = values.map Json.render) :
    ∀ call ∈ Call.alignedChars name rows, Text.NoControl call := by
  intro call hcall
  obtain ⟨row, hrow, rfl⟩ := List.mem_map.mp hcall
  obtain ⟨values, rfl⟩ := h row hrow
  have hcells : Text.NoControl (Call.cells (values.map Json.render) (Call.columnWidths rows)) := by
    refine Call.noControl_cells ?_ _
    intro arg harg
    obtain ⟨v, -, rfl⟩ := List.mem_map.mp harg
    exact Json.noControl_render v
  simp [Call.formatChars, hn, hcells]

theorem exists_values_of_each {line : Nat → Json → Except RenderProblem (List (List Char))} {start : Nat}
    {entries : List Json} {rows : List (List (List Char))}
    (hline : ∀ index entry row, line index entry = .ok row → ∃ values : List Json, row = values.map Json.render)
    (h : Rows.each line start entries = .ok rows) :
    ∀ row ∈ rows, ∃ values : List Json, row = values.map Json.render := by
  have hrows := Definition.forall₂_of_each (R := flip fun row _ => (∃ values : List Json, row = values.map Json.render) ∧ True)
    (fun i e r hr => ⟨hline i e r hr, trivial⟩) h
  exact ((List.forall₂_and_left rows entries).mp hrows.flip).1

/-- The line of the command, which only the worker's definition has. -/
def commandLines (command : Json) : DefinitionContext → List (List Char)
  | .client => []
  | .worker => ["command".toList ++ ' ' :: command.render]

theorem noControl_commandLines (command : Json) (side : DefinitionContext) :
    ∀ line ∈ commandLines command side, Text.NoControl line := by
  intro line hline
  cases side with
  | client => cases hline
  | worker =>
    rw [List.mem_singleton.mp hline]
    simp [Json.noControl_render]

theorem noControl_tailLines {inputs outputs : List (List Char)} (hi : ∀ line ∈ inputs, Text.NoControl line)
    (ho : ∀ line ∈ outputs, Text.NoControl line) : ∀ line ∈ tailLines inputs outputs, Text.NoControl line := by
  have hblank : ∀ lines : List (List Char), (∀ line ∈ lines, Text.NoControl line) →
      ∀ line ∈ orBlank lines, Text.NoControl line := by
    intro lines hlines
    cases lines with
    | nil => simp [orBlank]
    | cons line lines => exact hlines
  intro line hline
  rcases List.mem_append.mp hline with hline | hline
  · rcases List.mem_append.mp hline with hline | hline
    · exact hblank inputs hi line hline
    · exact hblank outputs ho line hline
  · rw [List.mem_singleton.mp hline]
    simp

/-- The lines of a definition, of which the values and the rows of the calls are given. -/
def definitionLines (id : List Char) (side : DefinitionContext)
    (schemaId name version description image command : Json) (inputRows outputRows : List (List (List Char))) :
    List (List Char) :=
  headLines id side schemaId name version description ++ ("image".toList ++ ' ' :: image.render) ::
    (commandLines command side ++
      tailLines (Call.alignedChars "input".toList inputRows) (Call.alignedChars "output".toList outputRows))

theorem noControl_definitionLines {id : List Char} (hid : Identifier.isCanonicalChars id = true)
    (side : DefinitionContext) (schemaId name version description image command : Json) {d : Descriptor}
    {inputRows outputRows : List (List (List Char))}
    (hi : Rows.each Rows.inputCells 0 d.inputs = .ok inputRows)
    (ho : Rows.each Rows.outputCells 0 d.outputs = .ok outputRows) :
    ∀ line ∈ definitionLines id side schemaId name version description image command inputRows outputRows,
      Text.NoControl line := by
  have hinputs : ∀ row ∈ inputRows, ∃ values : List Json, row = values.map Json.render := by
    refine exists_values_of_each (fun index entry row hrow => ?_) hi
    obtain ⟨_, _, -, -, rfl⟩ := Definition.eq_of_inputCells hrow
    exact ⟨_, rfl⟩
  have houtputs : ∀ row ∈ outputRows, ∃ values : List Json, row = values.map Json.render := by
    refine exists_values_of_each (fun index entry row hrow => ?_) ho
    obtain ⟨_, _, -, -, rfl⟩ := Definition.eq_of_outputCells hrow
    exact ⟨_, rfl⟩
  intro line hline
  rcases List.mem_append.mp hline with hline | hline
  · exact noControl_headLines hid side schemaId name version description line hline
  rcases List.mem_cons.mp hline with rfl | hline
  · simp [Json.noControl_render]
  rcases List.mem_append.mp hline with hline | hline
  · exact noControl_commandLines command side line hline
  · exact noControl_tailLines (noControl_alignedChars (by simp) hinputs) (noControl_alignedChars (by simp) houtputs)
      line hline

theorem lines_of_fill {schema : Schema} {d : Descriptor} {side : DefinitionContext} {text : List Char}
    (h : fill schema d (ofKind side.artifact) = .ok text) :
    ∃ schemaId name version inputRows outputRows, d.get? "name" = some name ∧
      d.get? "tool-version" = some version ∧ (side = .worker → (d.get? "command-line").isSome) ∧
      Rows.each Rows.inputCells 0 d.inputs = .ok inputRows ∧
      Rows.each Rows.outputCells 0 d.outputs = .ok outputRows ∧
      text = unlines (definitionLines (Identifier.classifyChars d.name.toList) side schemaId name version
        (Json.ofOption (d.get? "description")) (Json.ofString? d.image?)
        (Json.ofOption (d.get? "command-line")) inputRows outputRows) := by
  cases side with
  | client =>
    obtain ⟨head, tail, hhead, htail, rfl⟩ := fill_append_iff.mp h
    obtain ⟨schemaId, name, version, hname, hversion, rfl⟩ := @fill_definitionHead _ _ .client _ hhead
    obtain ⟨inputRows, outputRows, hinputs, houtputs, rfl⟩ := fill_definitionTail htail
    refine ⟨schemaId, name, version, inputRows, outputRows, hname, hversion, ?_, hinputs, houtputs, ?_⟩
    · rintro ⟨⟩
    · simp [unlines, definitionLines, commandLines]
  | worker =>
    obtain ⟨_, tail, hfront, htail, rfl⟩ := fill_append_iff.mp h
    obtain ⟨head, _, hhead, hcommand, rfl⟩ := fill_append_iff.mp hfront
    obtain ⟨schemaId, name, version, hname, hversion, rfl⟩ := @fill_definitionHead _ _ .worker _ hhead
    obtain ⟨inputRows, outputRows, hinputs, houtputs, rfl⟩ := fill_definitionTail htail
    obtain ⟨command, _, hfield, hnil, rfl⟩ := fill_pair_iff.mp hcommand
    obtain rfl := fill_nil_iff.mp hnil
    rw [slotValue_field_iff (by decide)] at hfield
    refine ⟨schemaId, name, version, inputRows, outputRows, hname, hversion, ?_, hinputs, houtputs, ?_⟩
    · rw [hfield]
      exact fun _ => rfl
    · simp [unlines, definitionLines, commandLines, hfield, Json.ofOption, write]

end Template

end ToolPlugins
