import ToolPlugins.Artifact.Kind
import ToolPlugins.Artifact.Rows
import ToolPlugins.Identifier
import ToolPlugins.Schema.Basic
import ToolPlugins.Text.Blank

/-!
Templates: fixed text with places, in double braces, for values. The expression in a place is a path, which says where the
value comes from, and the filters that it goes through, with bars between them. A question mark after the path lets a value
be absent.
-/

namespace ToolPlugins

namespace Template

/-! ### Expressions -/

/-- The expression in a place. Its path is cut at the first dot, if there is one. -/
structure Expression where
  root : String
  field : Option String
  optional : Bool
  filters : List String
  deriving DecidableEq, Repr

def Expression.path (e : Expression) : String :=
  match e.field with
  | some field => e.root ++ "." ++ field
  | none => e.root

/-- The parts of a path before and after its first dot. -/
def cutPath (path : List Char) : String × Option String :=
  match path.span (· ≠ '.') with
  | (root, []) => (String.ofList root, none)
  | (root, _ :: field) => (String.ofList root, some (String.ofList field))

/-- The path of an expression without the question mark after it, and whether there was one. -/
def cutMark (path : List Char) : List Char × Bool :=
  if path.getLast? = some '?' then (Text.trimEnd path.dropLast, true) else (path, false)

/-- The expression that a text writes. -/
def Expression.read (text : List Char) : Expression :=
  match (text.splitOn '|').map Text.trim with
  | [] => ⟨"", none, false, []⟩
  | first :: filters =>
    let (path, optional) := cutMark first
    let (root, field) := cutPath path
    ⟨root, field, optional, filters.map String.ofList⟩

/-! ### Templates cut at their places -/

inductive Part where
  | text (s : List Char)
  | place (expression : Expression)
  | unterminated
  deriving DecidableEq, Repr

/-- The character that, written twice, ends a place or the text before one. -/
def mark (inPlace : Bool) : Char := if inPlace then '}' else '{'

/-- The parts of a template from somewhere inside of a place or of fixed text, of which what was read is given backwards. -/
def partsFrom (inPlace : Bool) (read : List Char) : List Char → List Part
  | [] => if inPlace then [.unterminated] else [.text read.reverse]
  | [c] => partsFrom inPlace (c :: read) []
  | c :: next :: rest =>
    -- the first doubled mark counts, so of three braces the first two open or close
    if c = mark inPlace ∧ next = mark inPlace then
      (if inPlace then .place (.read read.reverse) else .text read.reverse) :: partsFrom (!inPlace) [] rest
    else partsFrom inPlace (c :: read) (next :: rest)

def parts (template : List Char) : List Part := partsFrom false [] template

/-! ### Values -/

section
variable (schema : Schema) (d : Descriptor)

/-- A value that was looked up. One that may be absent is null then. -/
def found (value? : Option Json) (optional : Bool) (problem : RenderProblem) : Except RenderProblem Json :=
  match value? with
  | some value => .ok value
  | none => if optional then .ok .null else .error problem

def helper (name : String) : Except RenderProblem Json :=
  let text (made : Except RenderProblem (List Char)) := made.map fun s => Json.string (String.ofList s)
  match name with
  | "docker_image" => .ok (Json.ofString? d.image?)
  | "input_declarations" => text (Rows.inputCalls d)
  | "output_declarations" => text (Rows.outputCalls d)
  | "params_form_rows" => text (Rows.formRows d)
  | "show_rows" => text (Rows.showRows d)
  | "help_input_rows" => text (Rows.helpInputs d)
  | "help_output_rows" => text (Rows.helpOutputs d)
  | other => .error (.unknownHelper other)

/-- The value that a path leads to. -/
def resolve (e : Expression) : Except RenderProblem Json :=
  match e.root, e.field with
  | "", none => .error .emptyPlaceholder
  | "identifier", none => .ok (.string (Identifier.classify d.name))
  | "snake_name", none => .ok (.string (Identifier.snakeCase (Identifier.classify d.name)))
  | "descriptor", some field => found (d.lookup? field) e.optional (.missingField field)
  | "schema", some field => found (schema.lookup? field) e.optional (.missingEntry field)
  | "helper", some name => helper d name
  | _, _ => .error (.unknownPlaceholder e.path)

/-- A value put through a filter: as a literal, or escaped for markup. -/
def filtered (value : Json) : String → Except RenderProblem Json
  | "json" => .ok (.string (String.ofList value.render))
  | "html" => .ok (.string (String.ofList (Text.escapeMarkup (Rows.valueText value))))
  | other => .error (.unknownFilter other)

def evaluate (e : Expression) : Except RenderProblem (List Char) := do
  let value ← e.filters.foldlM filtered (← resolve schema d e)
  return Rows.valueText value

/-- The parts of a template with values in the places, up to the first place that has none. -/
def evaluateAll : List Part → Except RenderProblem (List Char)
  | [] => .ok []
  | .text s :: rest => do
    let others ← evaluateAll rest
    return s ++ others
  | .place e :: rest => do
    let value ← evaluate schema d e
    let others ← evaluateAll rest
    return value ++ others
  | .unterminated :: _ => .error .unterminated

end

/-! ### The templates -/

def place (expression : String) : String := "\x7b\x7b" ++ expression ++ "\x7d\x7d"

/-- The texts of the template of a definition, with the line that only one side has. -/
def definition (side : String) (own : List String) : List String :=
  ["# ", place "identifier", ": ", side, " task definition\n",
    "# Generated from descriptor ", place "descriptor.name | json", "; regenerate instead of editing.\n",
    "# schema ", place "schema.$id? | json", "\n",
    "task ", place "identifier", "\n",
    "context ", side, "\n",
    "tool ", place "descriptor.name | json", "\n",
    "version ", place "descriptor.tool-version | json", "\n",
    "description ", place "descriptor.description? | json", "\n",
    "image ", place "helper.docker_image | json", "\n"] ++ own ++
  [place "helper.input_declarations", "\n",
    place "helper.output_declarations", "\n",
    "end\n"]

/-- The definition for the worker has the command. -/
def command : List String := ["command ", place "descriptor.command-line | json", "\n"]

def paramsForm : List String :=
  ["<!-- ", place "identifier", " parameter form -->\n",
    "<div class=\"task-params\" data-task=\"", place "identifier", "\" data-version=\"",
    place "descriptor.tool-version | html", "\">\n",
    "  <p class=\"task-params-help\">\n",
    "    <a href=\"/help/", place "identifier", "_help.html\" target=\"_blank\">Help for ",
    place "descriptor.name | html", "</a>\n",
    "  </p>\n",
    "  <table class=\"task-params-table\">\n",
    place "helper.params_form_rows", "\n",
    "  </table>\n",
    "</div>\n"]

def paramsSummary : List String :=
  ["<!-- ", place "identifier", " parameter summary -->\n",
    "<table class=\"task-show-params\" data-task=\"", place "identifier", "\">\n",
    "  <tr><th>Tool</th><td>", place "descriptor.name | html", " ", place "descriptor.tool-version | html",
    "</td></tr>\n",
    "  <tr><th>Image</th><td>", place "helper.docker_image | html", "</td></tr>\n",
    place "helper.show_rows", "\n",
    "</table>\n"]

def helpPage : List String :=
  ["<!DOCTYPE html>\n",
    "<html>\n",
    "<head>\n",
    "  <meta charset=\"utf-8\">\n",
    "  <title>", place "descriptor.name | html", " ", place "descriptor.tool-version | html", "</title>\n",
    "</head>\n",
    "<body>\n",
    "  <h1>", place "descriptor.name | html", " <small>", place "descriptor.tool-version | html", "</small></h1>\n",
    "  <p class=\"description\">", place "descriptor.description? | html", "</p>\n",
    "  <h2>Parameters</h2>\n",
    "  <dl class=\"parameters\">\n",
    place "helper.help_input_rows", "\n",
    "  </dl>\n",
    "  <h2>Outputs</h2>\n",
    "  <dl class=\"outputs\">\n",
    place "helper.help_output_rows", "\n",
    "  </dl>\n",
    "  <p class=\"container\">Container image: <code>", place "helper.docker_image | html", "</code></p>\n",
    "</body>\n",
    "</html>\n"]

/-- The texts that the template of a kind of artifact is joined from. -/
def texts : ArtifactKind → List String
  | .clientDefinition => definition "client" []
  | .workerDefinition => definition "worker" command
  | .paramsTemplate => paramsForm
  | .showTemplate => paramsSummary
  | .helpTemplate => helpPage

end Template

/-- The template that a kind of artifact is rendered from. -/
def ArtifactKind.template (kind : ArtifactKind) : List Char := (Template.texts kind).flatMap String.toList

/-- A problem with an artifact, and the kind it was met in. -/
structure GenerationProblem where
  kind : ArtifactKind
  problem : RenderProblem
  deriving DecidableEq, Repr

def renderKind (schema : Schema) (d : Descriptor) (kind : ArtifactKind) :
    Except GenerationProblem String :=
  match Template.evaluateAll schema d (Template.parts kind.template) with
  | .ok body => .ok (String.ofList body)
  | .error problem => .error ⟨kind, problem⟩

/-- The artifacts of a descriptor, made in the order of their kinds. -/
def render (schema : Schema) (d : Descriptor) : Except GenerationProblem Artifacts := do
  let client ← renderKind schema d .clientDefinition
  let worker ← renderKind schema d .workerDefinition
  let params ← renderKind schema d .paramsTemplate
  let summary ← renderKind schema d .showTemplate
  let help ← renderKind schema d .helpTemplate
  return { client, worker, params, summary, help }

end ToolPlugins
