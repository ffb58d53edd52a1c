import ToolPlugins.Artifact.Call
import ToolPlugins.Descriptor
import ToolPlugins.Text.Markup

/-!
The parts of the artifacts that have a line for every input or output file: the calls of the
definitions, the rows of the form and of the summary, and the entries of the help page. An input has
to have a text as identifier and, in the calls and the form, as type; an output file an identifier
and, in the calls, a path.
-/

namespace ToolPlugins

/-- Why an artifact cannot be made: a value is missing, or the template is no template. -/
inductive RenderProblem where
  | missingField (field : String)
  | missingEntry (field : String)
  | missingText (what : String) (index : Nat) (key : String)
  | unknownPlaceholder (path : String)
  | unknownHelper (name : String)
  | unknownFilter (name : String)
  | emptyPlaceholder
  | unterminated
  deriving DecidableEq, Repr

/-- The wording of a problem with an artifact. -/
def RenderProblem.message : RenderProblem → String
  | missingField field => "missing descriptor field '" ++ field ++ "'"
  | missingEntry field => "missing schema entry '" ++ field ++ "'"
  | missingText what index key =>
    what ++ " #" ++ toString index ++ " has no string '" ++ key ++ "'"
  | unknownPlaceholder path => "unknown placeholder '" ++ path ++ "'"
  | unknownHelper name => "unknown helper '" ++ name ++ "'"
  | unknownFilter name => "unknown filter '" ++ name ++ "'"
  | emptyPlaceholder => "empty placeholder"
  | unterminated => "unterminated placeholder"

namespace Rows

/-- The text of a value: a string as it is, null as nothing, the others as JSON. -/
def valueText : Json → List Char
  | .null => []
  | .string s => s.toList
  | other => other.render

/-- The text of a field of an entry. -/
def text? (entry : Json) (key : String) : Option String := (entry.get? key).bind Json.string?

/-- The text of a field that an entry has to have. -/
def required (what : String) (index : Nat) (entry : Json) (key : String) :
    Except RenderProblem (List Char) :=
  match text? entry key with
  | some s => .ok s.toList
  | none => .error (.missingText what index key)

/-- The text of a field, or a default. -/
def textOr (entry : Json) (key : String) (default : List Char) : List Char :=
  match text? entry key with
  | some s => s.toList
  | none => default

/-- Whether a field of an entry is true. -/
def flag (entry : Json) (key : String) : Bool :=
  match (entry.get? key).bind Json.bool? with
  | some b => b
  | none => false

/-- A line for each entry of a list, made with its index, up to the first entry that cannot have one. -/
def each {α : Type} (line : Nat → Json → Except RenderProblem α) (start : Nat) :
    List Json → Except RenderProblem (List α)
  | [] => .ok []
  | entry :: rest => do
    let first ← line start entry
    let others ← each line (start + 1) rest
    return first :: others

/-- Lines with line feeds between them. -/
def joinLines (lines : List (List Char)) : List Char := ['\n'].intercalate lines

/-! ### Calls -/

/-- The arguments of the call that declares an input. -/
def inputCells (index : Nat) (entry : Json) : Except RenderProblem (List (List Char)) := do
  let id ← required "input" index entry "id"
  let kind ← required "input" index entry "type"
  return [Json.renderString id, Json.renderString kind,
    Json.render (.bool (flag entry "optional")),
    Json.render (Json.ofOption (entry.get? "value-key"))]

/-- The arguments of the call that declares an output file. -/
def outputCells (index : Nat) (entry : Json) : Except RenderProblem (List (List Char)) := do
  let id ← required "output" index entry "id"
  let template ← required "output" index entry "path-template"
  return [Json.renderString id, Json.renderString template,
    Json.render (.bool (flag entry "optional"))]

/-- The calls that declare the inputs. -/
def inputCalls (d : Descriptor) : Except RenderProblem (List Char) := do
  let rows ← each inputCells 0 d.inputs
  return joinLines (Call.alignedChars "input".toList rows)

/-- The calls that declare the output files. -/
def outputCalls (d : Descriptor) : Except RenderProblem (List Char) := do
  let rows ← each outputCells 0 d.outputs
  return joinLines (Call.alignedChars "output".toList rows)

/-! ### Markup -/

/-- What an entry is called: its name, or its identifier. -/
def label (entry : Json) (id : List Char) : List Char :=
  Text.escapeMarkup (textOr entry "name" id)

/-- The text of the default of an input; nothing if there is none. -/
def defaultText (entry : Json) : List Char :=
  match entry.get? "default-value" with
  | some value => valueText value
  | none => []

/-- What marks a control that has to be filled in. -/
def requiredMark (entry : Json) : List Char :=
  if flag entry "optional" then [] else " required".toList

/-- A choice, marked if it is the default. -/
def choiceOption (default : List Char) (choice : Json) : List Char :=
  let text := Text.escapeMarkup (valueText choice)
  let mark := if valueText choice = default then " selected".toList else []
  "<option value=\"".toList ++ text ++ "\"".toList ++ mark ++ ">".toList ++ text ++
    "</option>".toList

/-- The control for an input: its choices, or what its type asks for. -/
def control (entry : Json) (kind field : List Char) : List Char :=
  let named := " name=\"".toList ++ field ++ "\"".toList
  let value := " value=\"".toList ++ Text.escapeMarkup (defaultText entry) ++ "\"".toList
  match (entry.get? "value-choices").bind Json.array? with
  | some choices =>
    "<select".toList ++ named ++ requiredMark entry ++ ">".toList ++
      choices.flatMap (choiceOption (defaultText entry)) ++ "</select>".toList
  | none =>
    if kind = "Flag".toList then
      "<input type=\"checkbox\"".toList ++ named ++ " value=\"1\"".toList ++
        (if defaultText entry = "true".toList then " checked".toList else []) ++ ">".toList
    else if kind = "Number".toList then
      "<input type=\"number\" step=\"any\"".toList ++ named ++ value ++ requiredMark entry ++
        ">".toList
    else if kind = "File".toList then
      "<select".toList ++ named ++ " data-kind=\"file\"".toList ++ requiredMark entry ++
        "></select>".toList
    else
      "<input type=\"text\"".toList ++ named ++ value ++ requiredMark entry ++ ">".toList

/-- The row of the form for an input. -/
def formRow (index : Nat) (entry : Json) : Except RenderProblem (List Char) := do
  let id ← required "input" index entry "id"
  let kind ← required "input" index entry "type"
  let field := "params[".toList ++ Text.escapeMarkup id ++ "]".toList
  return "    <tr><th><label for=\"".toList ++ field ++ "\">".toList ++ label entry id ++
    "</label></th><td>".toList ++ control entry kind field ++ "</td></tr>".toList

/-- The row of the summary for an input. -/
def showRow (index : Nat) (entry : Json) : Except RenderProblem (List Char) := do
  let id ← required "input" index entry "id"
  return "  <tr><th>".toList ++ label entry id ++ "</th><td data-param=\"".toList ++
    Text.escapeMarkup id ++ "\"></td></tr>".toList

/-- The entry of the help page for an input. -/
def helpInput (index : Nat) (entry : Json) : Except RenderProblem (List Char) := do
  let id ← required "input" index entry "id"
  return "    <dt>".toList ++ label entry id ++ " <code>".toList ++ Text.escapeMarkup id ++
    "</code> (".toList ++ Text.escapeMarkup (textOr entry "type" "String".toList) ++
    (if flag entry "optional" then ", optional".toList else []) ++ ")</dt>\n    <dd>".toList ++
    Text.escapeMarkup (textOr entry "description" []) ++ "</dd>".toList

/-- The entry of the help page for an output file. -/
def helpOutput (index : Nat) (entry : Json) : Except RenderProblem (List Char) := do
  let id ← required "output" index entry "id"
  return "    <dt>".toList ++ label entry id ++ " <code>".toList ++
    Text.escapeMarkup (textOr entry "path-template" []) ++ "</code></dt>\n    <dd>".toList ++
    Text.escapeMarkup (textOr entry "description" []) ++ "</dd>".toList

def formRows (d : Descriptor) : Except RenderProblem (List Char) :=
  (each formRow 0 d.inputs).map joinLines

def showRows (d : Descriptor) : Except RenderProblem (List Char) :=
  (each showRow 0 d.inputs).map joinLines

/-- The entries of the help page for the inputs. -/
def helpInputs (d : Descriptor) : Except RenderProblem (List Char) :=
  (each helpInput 0 d.inputs).map joinLines

/-- The entries of the help page for the output files. -/
def helpOutputs (d : Descriptor) : Except RenderProblem (List Char) :=
  (each helpOutput 0 d.outputs).map joinLines

end Rows

end ToolPlugins
