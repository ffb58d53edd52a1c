import Mathlib
import ToolPlugins.Artifact.Rows
import ToolPlugins.Proofs.Definition.Directives

/-!
The calls that declare the inputs and the output files: what is written for an entry of a descriptor is
read as the input or the output file of that entry.
-/

namespace ToolPlugins

/-- A field that is absent, null, or a text. -/
def NullableText (field : Option Json) : Prop := field = none ∨ field = some .null ∨ ∃ s, field = some (.string s)

/-- The input that an entry of a descriptor stands for. -/
def InputSpec.ofEntry (entry : Json) : InputSpec where
  id := (Rows.text? entry "id").getD ""
  kind := (Rows.text? entry "type").getD ""
  optional := Rows.flag entry "optional"
  valueKey := Rows.text? entry "value-key"

/-- The output file that an entry of a descriptor stands for. -/
def OutputSpec.ofEntry (entry : Json) : OutputSpec where
  id := (Rows.text? entry "id").getD ""
  pathTemplate := (Rows.text? entry "path-template").getD ""
  optional := Rows.flag entry "optional"

namespace Definition
open Json

theorem ofOption_eq_ofString?_iff {field : Option Json} {o : Option String} :
    ofOption field = ofString? o ↔ NullableText field ∧ o = field.bind string? := by
  unfold NullableText
  cases field with
  | none => cases o <;> simp [ofOption, ofString?]
  | some v => cases v <;> cases o <;> simp [ofOption, ofString?, string?, eq_comm]

/-! ### One call -/

theorem readInput_iff {id kind : String} {optional : Bool} {last : Json} {widths : List Nat} {spec : InputSpec} :
    readInput (Call.argumentText [.string id, .string kind, .bool optional, last] widths) = .ok spec ↔
      ∃ valueKey, last = ofString? valueKey ∧ spec = { id, kind, optional, valueKey } := by
  have hfront : ∀ v ∈ [.string id, .string kind, .bool optional], IsLiteral v := by
    intro v hv
    fin_cases hv <;> trivial
  constructor
  · intro h
    obtain ⟨args, hargs, h⟩ := bind_eq_ok_iff.mp h
    obtain ⟨v, others, rfl, hlast⟩ := @readArguments_append [_, _, _] hfront _ _ _ _ hargs
    obtain ⟨valueKey, hkey, h⟩ := bind_eq_ok_iff.mp h
    refine ⟨valueKey, ?_, (pure_eq_ok_iff.mp h).symm⟩
    cases v with
    | null =>
      cases hkey
      exact (hlast trivial).symm
    | string s =>
      cases hkey
      exact (hlast trivial).symm
    | _ => cases hkey
  · rintro ⟨valueKey, rfl, rfl⟩
    have hall : ∀ v ∈ [.string id, .string kind, .bool optional, ofString? valueKey], IsLiteral v := by
      intro v hv
      rcases List.mem_append.mp (show v ∈ [_, _, _] ++ [_] from hv) with hv | hv
      · exact hfront v hv
      · rw [List.mem_singleton.mp hv]
        cases valueKey <;> trivial
    rw [readInput, readArguments_literals hall widths 4]
    cases valueKey <;> rfl

theorem readOutput_argumentText (id pathTemplate : String) (optional : Bool) (widths : List Nat) :
    readOutput (Call.argumentText [.string id, .string pathTemplate, .bool optional] widths) =
      .ok { id, pathTemplate, optional } := by
  have hall : ∀ v ∈ [.string id, .string pathTemplate, .bool optional], IsLiteral v := by
    intro v hv
    fin_cases hv <;> trivial
  rw [readOutput, readArguments_literals hall widths 3]
  rfl

theorem Draft.reads_arguments_iff {α : Type} {d e : Draft} (hd : d.ended = false) (key : String)
    (hk : IsKeyword key.toList) {values : List Json} {widths : List Nat} {x : Except LineProblem α}
    {f : α → Draft}
    (h : ∀ line, keyword line = key.toList → value line = Call.argumentText values widths →
      d.directive line = x.map f) (lines : List (List Char)) :
    d.Reads (Call.formatChars key.toList (values.map render) widths :: lines) e ↔
      ∃ a, x = .ok a ∧ (f a).Reads lines e := by
  have hconcat : Call.argumentText values widths = ('(' :: Call.cells (values.map render) widths) ++ [')'] := rfl
  have htrim : Text.trim (Call.argumentText values widths) = Call.argumentText values widths :=
    Text.trim_eq_self rfl hconcat (by decide) (by decide)
  have hformat : Call.formatChars key.toList (values.map render) widths =
      key.toList ++ Call.argumentText values widths := List.append_assoc _ _ _
  rw [hformat]
  refine reads_keyword_iff hd hk rfl (by decide) hconcat (by decide) ?_ lines
  intro line hkey hvalue
  exact h line hkey (hvalue.trans htrim)

theorem Draft.reads_inputCall_iff {d e : Draft} (hd : d.ended = false) (values : List Json) (widths : List Nat)
    (lines : List (List Char)) :
    d.Reads (Call.formatChars "input".toList (values.map render) widths :: lines) e ↔
      ∃ input, readInput (Call.argumentText values widths) = .ok input ∧
        Draft.Reads { d with inputs := d.inputs ++ [input] } lines e := by
  refine reads_arguments_iff hd "input" (by decide) ?_ lines
  intro line hk hv
  rw [Draft.directive, hk, hv]
  rfl

theorem Draft.reads_outputCall_iff {d e : Draft} (hd : d.ended = false) (values : List Json) (widths : List Nat)
    (lines : List (List Char)) :
    d.Reads (Call.formatChars "output".toList (values.map render) widths :: lines) e ↔
      ∃ output, readOutput (Call.argumentText values widths) = .ok output ∧
        Draft.Reads { d with outputs := d.outputs ++ [output] } lines e := by
  refine reads_arguments_iff hd "output" (by decide) ?_ lines
  intro line hk hv
  rw [Draft.directive, hk, hv]
  rfl

theorem text?_eq_some_iff {entry : Json} {key s : String} :
    Rows.text? entry key = some s ↔ entry.get? key = some (.string s) := by
  rw [Rows.text?]
  cases entry.get? key with
  | none => simp
  | some v => cases v <;> simp [string?]

theorem required_eq_ok_iff {what key : String} {index : Nat} {entry : Json} {s : List Char} :
    Rows.required what index entry key = .ok s ↔ ∃ text, Rows.text? entry key = some text ∧ text.toList = s := by
  rw [Rows.required]
  cases Rows.text? entry key with
  | none => simp
  | some text => simp

theorem eq_of_inputCells {index : Nat} {entry : Json} {row : List (List Char)}
    (h : Rows.inputCells index entry = .ok row) :
    ∃ id kind, Rows.text? entry "id" = some id ∧ Rows.text? entry "type" = some kind ∧
      row = [.string id, .string kind, .bool (Rows.flag entry "optional"),
        ofOption (entry.get? "value-key")].map render := by
  obtain ⟨_, hid', h⟩ := bind_eq_ok_iff.mp h
  obtain ⟨_, hkind', h⟩ := bind_eq_ok_iff.mp h
  obtain ⟨id, hid, rfl⟩ := required_eq_ok_iff.mp hid'
  obtain ⟨kind, hkind, rfl⟩ := required_eq_ok_iff.mp hkind'
  exact ⟨id, kind, hid, hkind, (pure_eq_ok_iff.mp h).symm⟩

theorem eq_of_outputCells {index : Nat} {entry : Json} {row : List (List Char)}
    (h : Rows.outputCells index entry = .ok row) :
    ∃ id path, Rows.text? entry "id" = some id ∧ Rows.text? entry "path-template" = some path ∧
      row = [.string id, .string path, .bool (Rows.flag entry "optional")].map render := by
  obtain ⟨_, hid', h⟩ := bind_eq_ok_iff.mp h
  obtain ⟨_, hpath', h⟩ := bind_eq_ok_iff.mp h
  obtain ⟨id, hid, rfl⟩ := required_eq_ok_iff.mp hid'
  obtain ⟨path, hpath, rfl⟩ := required_eq_ok_iff.mp hpath'
  exact ⟨id, path, hid, hpath, (pure_eq_ok_iff.mp h).symm⟩

/-- The call of an entry is read when its value key is a text or null, and then as the input of the entry. -/
theorem Draft.reads_input_iff {d e : Draft} (hd : d.ended = false) {index : Nat} {entry : Json}
    {row : List (List Char)} (hrow : Rows.inputCells index entry = .ok row) (widths : List Nat)
    (lines : List (List Char)) :
    d.Reads (Call.formatChars "input".toList row widths :: lines) e ↔
      NullableText (entry.get? "value-key") ∧
        Draft.Reads { d with inputs := d.inputs ++ [InputSpec.ofEntry entry] } lines e := by
  obtain ⟨id, kind, hid, hkind, rfl⟩ := eq_of_inputCells hrow
  have hspec : InputSpec.ofEntry entry =
      ⟨id, kind, Rows.flag entry "optional", (entry.get? "value-key").bind string?⟩ := by
    rw [InputSpec.ofEntry, hid, hkind]
    rfl
  rw [hspec]
  refine (reads_inputCall_iff hd _ widths lines).trans ⟨?_, ?_⟩
  · rintro ⟨spec, hspec, h⟩
    obtain ⟨valueKey, hkey, rfl⟩ := readInput_iff.mp hspec
    obtain ⟨hnull, rfl⟩ := ofOption_eq_ofString?_iff.mp hkey
    exact ⟨hnull, h⟩
  · rintro ⟨hnull, h⟩
    exact ⟨_, readInput_iff.mpr ⟨_, ofOption_eq_ofString?_iff.mpr ⟨hnull, rfl⟩, rfl⟩, h⟩

theorem Draft.reads_output_iff {d e : Draft} (hd : d.ended = false) {index : Nat} {entry : Json}
    {row : List (List Char)} (hrow : Rows.outputCells index entry = .ok row) (widths : List Nat)
    (lines : List (List Char)) :
    d.Reads (Call.formatChars "output".toList row widths :: lines) e ↔
      Draft.Reads { d with outputs := d.outputs ++ [OutputSpec.ofEntry entry] } lines e := by
  obtain ⟨id, path, hid, hpath, rfl⟩ := eq_of_outputCells hrow
  have hspec : OutputSpec.ofEntry entry = ⟨id, path, Rows.flag entry "optional"⟩ := by
    rw [OutputSpec.ofEntry, hid, hpath]
    rfl
  rw [hspec]
  rw [reads_outputCall_iff hd, readOutput_argumentText]
  simp

/-! ### All calls -/

theorem each_cons_eq_ok_iff {α : Type} {line : Nat → Json → Except RenderProblem α} {start : Nat} {entry : Json}
    {entries : List Json} {rows : List α} :
    Rows.each line start (entry :: entries) = .ok rows ↔
      ∃ row others, line start entry = .ok row ∧ Rows.each line (start + 1) entries = .ok others ∧
        rows = row :: others := by
  simp only [Rows.each, bind_eq_ok_iff, pure_eq_ok_iff, eq_comm (a := rows)]
  constructor
  · rintro ⟨row, hrow, others, hothers, h⟩
    exact ⟨row, others, hrow, hothers, h⟩
  · rintro ⟨row, others, hrow, hothers, h⟩
    exact ⟨row, hrow, others, hothers, h⟩

/-- What a line has to do with its entry holds for all entries and their lines. -/
theorem forall₂_of_each {α : Type} {line : Nat → Json → Except RenderProblem α} {R : Json → α → Prop}
    (hline : ∀ index entry row, line index entry = .ok row → R entry row) {start : Nat} {entries : List Json}
    {rows : List α} (h : Rows.each line start entries = .ok rows) : List.Forall₂ R entries rows := by
  induction entries generalizing start rows with
  | nil =>
    cases h
    exact .nil
  | cons entry entries ih =>
    obtain ⟨row, others, hrow, hothers, rfl⟩ := each_cons_eq_ok_iff.mp h
    exact .cons (hline _ _ _ hrow) (ih hothers)

/-- What a line asks of its entry holds for all entries of the lines. -/
theorem forall_of_each {α : Type} {line : Nat → Json → Except RenderProblem α} {p : Json → Prop}
    (hline : ∀ index entry row, line index entry = .ok row → p entry) {start : Nat} {entries : List Json}
    {rows : List α} (h : Rows.each line start entries = .ok rows) : ∀ entry ∈ entries, p entry := by
  have hrows := forall₂_of_each (R := fun entry row => p entry ∧ True) (fun i e r hr => ⟨hline i e r hr, trivial⟩) h
  exact ((List.forall₂_and_left entries rows).mp hrows).1

theorem Draft.reads_inputs_iff {d e : Draft} (hd : d.ended = false) {start : Nat} {entries : List Json}
    {rows : List (List (List Char))} (hrows : Rows.each Rows.inputCells start entries = .ok rows)
    (widths : List Nat) (lines : List (List Char)) :
    d.Reads ((rows.map fun row => Call.formatChars "input".toList row widths) ++ lines) e ↔
      (∀ entry ∈ entries, NullableText (entry.get? "value-key")) ∧
        Draft.Reads { d with inputs := d.inputs ++ entries.map InputSpec.ofEntry } lines e := by
  induction entries generalizing d start rows with
  | nil =>
    cases hrows
    simp
  | cons entry entries ih =>
    obtain ⟨row, others, hrow, hothers, rfl⟩ := each_cons_eq_ok_iff.mp hrows
    rw [List.map_cons, List.cons_append, reads_input_iff hd hrow, ih (by exact hd) hothers, List.forall_mem_cons,
      and_assoc]
    simp

theorem Draft.reads_outputs_iff {d e : Draft} (hd : d.ended = false) {start : Nat} {entries : List Json}
    {rows : List (List (List Char))} (hrows : Rows.each Rows.outputCells start entries = .ok rows)
    (widths : List Nat) (lines : List (List Char)) :
    d.Reads ((rows.map fun row => Call.formatChars "output".toList row widths) ++ lines) e ↔
      Draft.Reads { d with outputs := d.outputs ++ entries.map OutputSpec.ofEntry } lines e := by
  induction entries generalizing d start rows with
  | nil =>
    cases hrows
    simp
  | cons entry entries ih =>
    obtain ⟨row, others, hrow, hothers, rfl⟩ := each_cons_eq_ok_iff.mp hrows
    rw [List.map_cons, List.cons_append, reads_output_iff hd hrow, ih (by exact hd) hothers]
    simp

end Definition

end ToolPlugins
