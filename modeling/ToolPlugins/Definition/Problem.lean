import ToolPlugins.Definition.Basic
import ToolPlugins.Json.Printer

/-!
Why a definition cannot be used: a line that is no directive of the format, a directive that is
missing, a definition of something else, or a definition that breaks a rule.
-/

namespace ToolPlugins

/-- What is wrong with a line of a definition. -/
inductive LineProblem where
  | afterEnd
  | unknownDirective (line : String)
  | unknownContext (text : String)
  | notString (value : Json)
  | notStringOrNull (value : Json)
  | malformedLiteral (text message : String)
  | notArguments (text : String)
  | malformedArguments (text message : String)
  | wrongCount (expected found : Nat)
  | argumentNotString (position : Nat)
  | argumentNotBoolean (position : Nat)
  | argumentNotStringOrNull (position : Nat)
  deriving Repr

/-- The wording of a problem with a line. -/
def LineProblem.message : LineProblem → String
  | afterEnd => "content after 'end'"
  | unknownDirective line => "unknown directive '" ++ line ++ "'"
  | unknownContext text => "Configuration error: " ++ DefinitionContext.unknown text
  | notString value => "expected a string literal, found " ++ value.text
  | notStringOrNull value => "expected a string or null, found " ++ value.text
  | malformedLiteral text message => "malformed literal '" ++ text ++ "': " ++ message
  | notArguments text => "expected a parenthesized argument list, found '" ++ text ++ "'"
  | malformedArguments text message => "malformed arguments '" ++ text ++ "': " ++ message
  | wrongCount expected found =>
    "expected " ++ toString expected ++ " arguments, found " ++ toString found
  | argumentNotString k => "argument " ++ toString k ++ " must be a string"
  | argumentNotBoolean k => "argument " ++ toString k ++ " must be a boolean"
  | argumentNotStringOrNull k => "argument " ++ toString k ++ " must be a string or null"

/-- Inputs and output files, which have identifiers of their own. -/
inductive Role where
  | input
  | output
  deriving DecidableEq, Repr

def Role.name : Role → String
  | input => "input"
  | output => "output"

/-- Why a definition cannot be used. -/
inductive DefinitionProblem where
  | line (identifier : String) (context : DefinitionContext) (number : Nat) (problem : LineProblem)
  | missing (identifier : String) (context : DefinitionContext) (directive : String)
  | otherTask (declared expected : String)
  | otherContext (identifier : String) (expected found : DefinitionContext)
  | notCanonical (identifier : String)
  | blankVersion (identifier : String)
  | noCommand (identifier : String)
  | invalidId (role : Role) (id identifier : String)
  | repeatedId (role : Role) (id identifier : String)
  deriving Repr

/-- The wording of a problem with a definition. -/
def DefinitionProblem.message : DefinitionProblem → String
  | line identifier context number problem =>
    identifier ++ " (" ++ context.name ++ " definition), line " ++ toString number ++ ": " ++
      problem.message
  | missing identifier context directive =>
    identifier ++ " (" ++ context.name ++ " definition): missing '" ++ directive ++ "' directive"
  | otherTask declared expected =>
    "Definition declares task '" ++ declared ++ "' but was loaded as '" ++ expected ++ "'"
  | otherContext identifier expected found =>
    identifier ++ ": expected a " ++ expected.name ++ " definition, found a " ++ found.name ++
      " definition"
  | notCanonical identifier =>
    "Invalid task identifier '" ++ identifier ++ "': must match [A-Z][A-Za-z0-9]*"
  | blankVersion identifier => "Task '" ++ identifier ++ "' has an empty version string"
  | noCommand identifier => "Worker definition of '" ++ identifier ++ "' has no command"
  | invalidId role id identifier =>
    "Invalid " ++ role.name ++ " id '" ++ id ++ "' in task '" ++ identifier ++ "'"
  | repeatedId role id identifier =>
    "Duplicate " ++ role.name ++ " id '" ++ id ++ "' in task '" ++ identifier ++ "'"

end ToolPlugins
