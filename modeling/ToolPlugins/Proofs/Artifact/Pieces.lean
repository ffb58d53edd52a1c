import Mathlib
import ToolPlugins.Artifact.Template

/-!
Templates as pieces. The five templates are read into fixed text and slots, which name a value and how it is written, and to
evaluate a template is to fill in its pieces.
-/

namespace ToolPlugins

/-- Where the value of a place comes from. A field that need not be there counts as null. -/
inductive Slot where
  | identifier
  | field (key : String)
  | optionalField (key : String)
  | schemaKeyword (key : String)
  | image
  | inputCalls
  | outputCalls
  | formRows
  | showRows
  | helpInputs
  | helpOutputs
  deriving DecidableEq, Repr

/-- How a value is written. -/
inductive Style where
  | plain
  | literal
  | markup
  deriving DecidableEq, Repr

/-- A part of a template. -/
inductive Piece where
  | text (s : String)
  | slot (slot : Slot) (style : Style)
  deriving DecidableEq, Repr

namespace Template

def slotValue (schema : Schema) (d : Descriptor) : Slot → Except RenderProblem Json
  | .identifier => .ok (.string (Identifier.classify d.name))
  | .field key =>
    match d.lookup? key with
    | some value => .ok value
    | none => .error (.missingField key)
  | .optionalField key => .ok (Json.ofOption (d.lookup? key))
  | .schemaKeyword key => .ok (Json.ofOption (schema.lookup? key))
  | .image => .ok (Json.ofString? d.image?)
  | .inputCalls => (Rows.inputCalls d).map fun s => .string (String.ofList s)
  | .outputCalls => (Rows.outputCalls d).map fun s => .string (String.ofList s)
  | .formRows => (Rows.formRows d).map fun s => .string (String.ofList s)
  | .showRows => (Rows.showRows d).map fun s => .string (String.ofList s)
  | .helpInputs => (Rows.helpInputs d).map fun s => .string (String.ofList s)
  | .helpOutputs => (Rows.helpOutputs d).map fun s => .string (String.ofList s)

def write (value : Json) : Style → List Char
  | .plain => Rows.valueText value
  | .literal => value.render
  | .markup => Text.escapeMarkup (Rows.valueText value)

/-- A template filled in, up to the first place that has no value. -/
def fill (schema : Schema) (d : Descriptor) : List Piece → Except RenderProblem (List Char)
  | [] => .ok []
  | .text s :: rest => do
    let others ← fill schema d rest
    return s.toList ++ others
  | .slot slot style :: rest => do
    let value ← slotValue schema d slot
    let others ← fill schema d rest
    return write value style ++ others

/-! ### The templates -/

def identifier : Piece := .slot .identifier .plain

/-- A field that has to be there, as a literal. -/
def literal (key : String) : Piece := .slot (.field key) .literal

/-- A field that has to be there, in markup. -/
def markup (key : String) : Piece := .slot (.field key) .markup

/-- The beginning of both definitions: remarks, and what both declare. -/
def definitionHead (side : String) : List Piece :=
  [.text "# ", identifier, .text (": " ++ side ++ " task definition\n# Generated from descriptor "),
    literal "name", .text "; regenerate instead of editing.\n# schema ",
    .slot (.schemaKeyword "$id") .literal, .text "\ntask ", identifier,
    .text ("\ncontext " ++ side ++ "\ntool "), literal "name", .text "\nversion ",
    literal "tool-version", .text "\ndescription ", .slot (.optionalField "description") .literal,
    .text "\nimage ", .slot .image .literal]

/-- The end of both definitions: the inputs and output files. -/
def definitionTail : List Piece :=
  [.text "\n", .slot .inputCalls .plain, .text "\n", .slot .outputCalls .plain, .text "\nend\n"]

def client : List Piece := definitionHead "client" ++ definitionTail

/-- The definition for the worker, which has the command. -/
def worker : List Piece :=
  definitionHead "worker" ++ [.text "\ncommand ", literal "command-line"] ++ definitionTail

def params : List Piece :=
  [.text "<!-- ", identifier, .text " parameter form -->\n<div class=\"task-params\" data-task=\"",
    identifier, .text "\" data-version=\"", markup "tool-version",
    .text "\">\n  <p class=\"task-params-help\">\n    <a href=\"/help/", identifier,
    .text "_help.html\" target=\"_blank\">Help for ", markup "name",
    .text "</a>\n  </p>\n  <table class=\"task-params-table\">\n", .slot .formRows .plain,
    .text "\n  </table>\n</div>\n"]

def summary : List Piece :=
  [.text "<!-- ", identifier,
    .text " parameter summary -->\n<table class=\"task-show-params\" data-task=\"", identifier,
    .text "\">\n  <tr><th>Tool</th><td>", markup "name", .text " ", markup "tool-version",
    .text "</td></tr>\n  <tr><th>Image</th><td>", .slot .image .markup, .text "</td></tr>\n",
    .slot .showRows .plain, .text "\n</table>\n"]

def help : List Piece :=
  [.text "<!DOCTYPE html>\n<html>\n<head>\n  <meta charset=\"utf-8\">\n  <title>", markup "name",
    .text " ", markup "tool-version", .text "</title>\n</head>\n<body>\n  <h1>", markup "name",
    .text " <small>", markup "tool-version", .text "</small></h1>\n  <p class=\"description\">",
    .slot (.optionalField "description") .markup,
    .text "</p>\n  <h2>Parameters</h2>\n  <dl class=\"parameters\">\n", .slot .helpInputs .plain,
    .text "\n  </dl>\n  <h2>Outputs</h2>\n  <dl class=\"outputs\">\n", .slot .helpOutputs .plain,
    .text "\n  </dl>\n  <p class=\"container\">Container image: <code>", .slot .image .markup,
    .text "</code></p>\n</body>\n</html>\n"]

/-- The template of a kind of artifact. -/
def ofKind : ArtifactKind → List Piece
  | .clientDefinition => client
  | .workerDefinition => worker
  | .paramsTemplate => params
  | .showTemplate => summary
  | .helpTemplate => help

/-! ### Pieces as parts of a template -/

/-- The filter of a style. -/
def filters : Style → List String
  | .plain => []
  | .literal => ["json"]
  | .markup => ["html"]

/-- The expression that a slot stands for, without its filters. -/
def reference : Slot → Expression
  | .identifier => ⟨"identifier", none, false, []⟩
  | .field key => ⟨"descriptor", some key, false, []⟩
  | .optionalField key => ⟨"descriptor", some key, true, []⟩
  | .schemaKeyword key => ⟨"schema", some key, true, []⟩
  | .image => ⟨"helper", some "docker_image", false, []⟩
  | .inputCalls => ⟨"helper", some "input_declarations", false, []⟩
  | .outputCalls => ⟨"helper", some "output_declarations", false, []⟩
  | .formRows => ⟨"helper", some "params_form_rows", false, []⟩
  | .showRows => ⟨"helper", some "show_rows", false, []⟩
  | .helpInputs => ⟨"helper", some "help_input_rows", false, []⟩
  | .helpOutputs => ⟨"helper", some "help_output_rows", false, []⟩

def partOf : Piece → Part
  | .text s => .text s.toList
  | .slot slot style => .place { reference slot with filters := filters style }

/-- The templates are read into their pieces. -/
theorem parts_template (kind : ArtifactKind) : parts kind.template = (ofKind kind).map partOf := by
  cases kind <;> decide +kernel

variable (schema : Schema) (d : Descriptor)

theorem found_optional (value? : Option Json) (problem : RenderProblem) :
    found value? true problem = .ok (Json.ofOption value?) := by
  cases value? <;> rfl

theorem resolve_reference (slot : Slot) (filters : List String) :
    resolve schema d { reference slot with filters } = slotValue schema d slot := by
  cases slot with
  | field key =>
    change found (d.lookup? key) false _ = _
    cases hkey : d.lookup? key <;> simp [slotValue, found, hkey]
  | optionalField key => exact found_optional _ _
  | schemaKeyword key => exact found_optional _ _
  | _ => rfl

theorem evaluate_slot (slot : Slot) (style : Style) :
    evaluate schema d { reference slot with filters := filters style } =
      (slotValue schema d slot).map fun value => write value style := by
  rw [evaluate, resolve_reference]
  cases slotValue schema d slot with
  | error problem => rfl
  | ok value =>
    cases style with
    | plain => rfl
    | literal => exact congrArg Except.ok (String.toList_ofList)
    | markup => exact congrArg Except.ok (String.toList_ofList)

/-- To evaluate pieces is to fill them in. -/
theorem evaluateAll_partOf (pieces : List Piece) : evaluateAll schema d (pieces.map partOf) = fill schema d pieces := by
  induction pieces with
  | nil => rfl
  | cons piece rest ih =>
    cases piece with
    | text s => rw [List.map_cons, partOf, evaluateAll, ih, fill]
    | slot slot style =>
      rw [List.map_cons, partOf, evaluateAll, ih, evaluate_slot, fill]
      cases slotValue schema d slot <;> rfl

end Template

theorem evaluateAll_template (schema : Schema) (d : Descriptor) (kind : ArtifactKind) :
    Template.evaluateAll schema d (Template.parts kind.template) = Template.fill schema d (Template.ofKind kind) := by
  rw [Template.parts_template, Template.evaluateAll_partOf]

section
variable {schema : Schema} {d : Descriptor}

theorem renderKind_eq_ok_iff {kind : ArtifactKind} {body : String} :
    renderKind schema d kind = .ok body ↔
      ∃ text, Template.fill schema d (Template.ofKind kind) = .ok text ∧ body = String.ofList text := by
  rw [renderKind, evaluateAll_template]
  cases Template.fill schema d (Template.ofKind kind) with
  | error problem => simp
  | ok text => simp [eq_comm]

/-- Where the templates are filled in alike, the artifacts are the same. -/
theorem render_congr {schema' : Schema} {d' : Descriptor}
    (h : ∀ kind, Template.fill schema d (Template.ofKind kind) = Template.fill schema' d' (Template.ofKind kind)) :
    render schema d = render schema' d' := by
  have hkind : ∀ kind, renderKind schema d kind = renderKind schema' d' kind := by
    intro kind
    rw [renderKind, renderKind, evaluateAll_template, evaluateAll_template, h kind]
  simp only [render, hkind]

/-- The artifacts of a descriptor are made if each template can be filled in. -/
theorem exists_render_of_fill (h : ∀ kind, ∃ text, Template.fill schema d (Template.ofKind kind) = .ok text) :
    ∃ a, render schema d = .ok a := by
  have hkind : ∀ kind, ∃ body, renderKind schema d kind = .ok body := by
    intro kind
    obtain ⟨text, htext⟩ := h kind
    exact ⟨_, renderKind_eq_ok_iff.mpr ⟨text, htext, rfl⟩⟩
  obtain ⟨client, hclient⟩ := hkind .clientDefinition
  obtain ⟨worker, hworker⟩ := hkind .workerDefinition
  obtain ⟨params, hparams⟩ := hkind .paramsTemplate
  obtain ⟨summary, hsummary⟩ := hkind .showTemplate
  obtain ⟨help, hhelp⟩ := hkind .helpTemplate
  rw [render, hclient, hworker, hparams, hsummary, hhelp]
  exact ⟨_, rfl⟩

end

end ToolPlugins
