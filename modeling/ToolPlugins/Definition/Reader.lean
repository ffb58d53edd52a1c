import ToolPlugins.Definition.Check
import ToolPlugins.Json.Reader

/-!
The reader of definitions. A definition has one directive a line; blank lines and lines that start
with a hash are passed over. A directive is a keyword and its value: an identifier, a side, a JSON
literal, or arguments in parentheses. Of a directive that comes twice the last counts, and nothing may
stand after `end`.
-/

namespace ToolPlugins

namespace Definition

/-- The text that a literal writes. -/
def readText (text : List Char) : Except LineProblem String :=
  match Json.readText text with
  | .ok (.string s) => .ok s
  | .ok other => .error (.notString other)
  | .error fault => .error (.malformedLiteral (String.ofList text) (fault.message text))

/-- The text that a literal writes, or nothing for null. -/
def readOptional (text : List Char) : Except LineProblem (Option String) :=
  match Json.readText text with
  | .ok .null => .ok none
  | .ok (.string s) => .ok (some s)
  | .ok other => .error (.notStringOrNull other)
  | .error fault => .error (.malformedLiteral (String.ofList text) (fault.message text))

/-- The text between parentheses that start and end a text. -/
def unwrap? (text : List Char) : Option (List Char) :=
  match text with
  | '(' :: rest =>
    match rest.getLast? with
    | some ')' => some rest.dropLast
    | _ => none
  | _ => none

/-- The arguments in parentheses, as many as are expected. -/
def readArguments (text : List Char) (count : Nat) : Except LineProblem (List Json) :=
  match unwrap? text with
  | none => .error (.notArguments (String.ofList text))
  | some inner =>
    let list := '[' :: inner ++ [']']
    match Json.readArray list with
    | .error fault => .error (.malformedArguments (String.ofList text) (fault.message list))
    | .ok args => if args.length = count then .ok args else .error (.wrongCount count args.length)

def textArgument (args : List Json) (index : Nat) : Except LineProblem String :=
  match args[index]? with
  | some (.string s) => .ok s
  | _ => .error (.argumentNotString (index + 1))

/-- The truth value of an argument. -/
def booleanArgument (args : List Json) (index : Nat) : Except LineProblem Bool :=
  match args[index]? with
  | some (.bool b) => .ok b
  | _ => .error (.argumentNotBoolean (index + 1))

/-- The text of an argument, or nothing for null. -/
def optionalArgument (args : List Json) (index : Nat) : Except LineProblem (Option String) :=
  match args[index]? with
  | some .null => .ok none
  | some (.string s) => .ok (some s)
  | _ => .error (.argumentNotStringOrNull (index + 1))

/-- The input that arguments declare. Its value key is looked at first. -/
def readInput (text : List Char) : Except LineProblem InputSpec := do
  let args ← readArguments text 4
  let valueKey ← optionalArgument args 3
  let id ← textArgument args 0
  let kind ← textArgument args 1
  let optional ← booleanArgument args 2
  return { id, kind, optional, valueKey }

/-- The output file that arguments declare. -/
def readOutput (text : List Char) : Except LineProblem OutputSpec := do
  let args ← readArguments text 3
  let id ← textArgument args 0
  let pathTemplate ← textArgument args 1
  let optional ← booleanArgument args 2
  return { id, pathTemplate, optional }

/-- What the directives of a definition have declared so far. -/
structure Draft where
  identifier : Option String := none
  context : Option DefinitionContext := none
  tool : Option String := none
  version : Option String := none
  description : Option String := none
  image : Option String := none
  command : Option String := none
  inputs : List InputSpec := []
  outputs : List OutputSpec := []
  ended : Bool := false
  deriving DecidableEq, Repr

/-- The keyword that a line starts with: small letters and underscores. -/
def keyword (line : List Char) : List Char := line.takeWhile fun c => c.isLower || c == '_'

/-- What follows the keyword of a line. -/
def value (line : List Char) : List Char :=
  Text.trim (line.dropWhile fun c => c.isLower || c == '_')

/-- The side that a text names. -/
def readContext (text : List Char) : Except LineProblem DefinitionContext :=
  match DefinitionContext.ofText? (String.ofList text) with
  | some context => .ok context
  | none => .error (.unknownContext (String.ofList text))

/-- The draft after a directive. -/
def Draft.directive (d : Draft) (line : List Char) : Except LineProblem Draft :=
  let rest := value line
  match String.ofList (keyword line) with
  | "task" => .ok { d with identifier := some (String.ofList rest) }
  | "context" => (readContext rest).map fun context => { d with context := some context }
  | "tool" => (readText rest).map fun tool => { d with tool := some tool }
  | "version" => (readText rest).map fun version => { d with version := some version }
  | "description" => (readOptional rest).map fun description => { d with description }
  | "image" => (readOptional rest).map fun image => { d with image }
  | "command" => (readOptional rest).map fun command => { d with command }
  | "input" => (readInput rest).map fun input => { d with inputs := d.inputs ++ [input] }
  | "output" => (readOutput rest).map fun output => { d with outputs := d.outputs ++ [output] }
  | "end" =>
    if rest.isEmpty then .ok { d with ended := true }
    else .error (.unknownDirective (String.ofList line))
  | _ => .error (.unknownDirective (String.ofList line))

/-- Whether a line without its blanks is passed over. -/
def isPassedOver : List Char → Bool
  | [] => true
  | c :: _ => c == '#'

/-- The draft after a line without its blanks. -/
def Draft.line (d : Draft) (line : List Char) : Except LineProblem Draft :=
  if isPassedOver line then .ok d
  else if d.ended then .error .afterEnd
  else d.directive line

/-- The draft after lines, the first of which has a number; a problem comes with its line. -/
def Draft.lines (d : Draft) (number : Nat) : List (List Char) → Except (Nat × LineProblem) Draft
  | [] => .ok d
  | raw :: rest =>
    match d.line (Text.trim raw) with
    | .error problem => .error (number, problem)
    | .ok d => d.lines (number + 1) rest

/-- The definition of a draft, which has to have an end, a task, a side, a tool and a version. -/
def Draft.finish (d : Draft) : Except String TaskDefinition :=
  if !d.ended then .error "end"
  else match d.identifier, d.context, d.tool, d.version with
    | none, _, _, _ => .error "task"
    | _, none, _, _ => .error "context"
    | _, _, none, _ => .error "tool"
    | _, _, _, none => .error "version"
    | some identifier, some context, some tool, some version =>
      .ok { identifier, context, tool, version, description := d.description, image := d.image,
            command := d.command, inputs := d.inputs, outputs := d.outputs }

/-- What a definition declares. It has to be of the expected task and side and keep the rules. -/
def load (source expected : String) (context : DefinitionContext) :
    Except DefinitionProblem TaskDefinition :=
  match Draft.lines {} 1 (source.toList.splitOn '\n') with
  | .error (number, problem) => .error (.line expected context number problem)
  | .ok draft =>
    match draft.finish with
    | .error directive => .error (.missing expected context directive)
    | .ok definition =>
      if definition.identifier ≠ expected then .error (.otherTask definition.identifier expected)
      else if definition.context ≠ context then
        .error (.otherContext expected context definition.context)
      else match definition.problem? with
        | some problem => .error problem
        | none => .ok definition

end Definition

end ToolPlugins
