import ToolPlugins.Settings.Environment
import ToolPlugins.Text.Alphanumeric

/-!
Variables kept in a file, one `NAME=value` a line. A value may be quoted, and may then go on over
several lines; what stands in double quotes or in none may use `$NAME` for the value of a variable.
Reading stops at the first line that is malformed or no text, and a variable that is set already is
kept.
-/

namespace ToolPlugins.CommandLine.VariableFile

open Text (isBlank trim trimStart trimEnd)

/-! ### Lines -/

/-- What a line is in the middle of: nothing, blanks, quotes of either kind, or an escape in one of
    these. -/
inductive Quoting where
  | bare
  | blank
  | escape
  | single
  | singleEscape
  | double
  | doubleEscape
  deriving DecidableEq, Repr

/-- What a line is in the middle of after one more character. -/
def Quoting.step (q : Quoting) (c : Char) : Quoting :=
  let opened (other : Quoting) : Quoting :=
    if c = '\\' then .escape else if c = '"' then .double else if c = '\x27' then .single else other
  match q with
  | .bare => if isBlank c && c != '\n' && c != '\x0d' then .blank else opened .bare
  | .blank => opened .bare
  | .escape => .bare
  | .single => if c = '\\' then .singleEscape else if c = '\x27' then .bare else .single
  | .singleEscape => .single
  | .double => if c = '\\' then .doubleEscape else if c = '"' then .bare else .double
  | .doubleEscape => .double

/-- The text without a carriage return at its end. -/
def dropReturn (reversed : List Char) : List Char :=
  match reversed with
  | '\x0d' :: before => before.reverse
  | _ => reversed.reverse

/-- The first line of a text and what follows it; `taken` are the characters of the line so far, the
    last one first. A line goes on while a quote is open, and a number sign after a blank ends it.
    Nothing if the text ends in the middle of a line. -/
def firstLine (q : Quoting) (taken : List Char) : List Char → Option (List Char × List Char)
  | [] => if q = .bare then some (taken.reverse, []) else none
  | c :: rest =>
    if q = .blank && c = '#' then some (taken.reverse, (rest.dropWhile (· != '\n')).drop 1)
    else
      let q := q.step c
      if c = '\n' && q = .bare then some (dropReturn taken, rest)
      else firstLine q (c :: taken) rest

/-- The first line of a text and what follows it, where a line that is all comment counts as empty. -/
def nextLine (text : List Char) : Option (List Char × List Char) :=
  if (trimStart (text.takeWhile (· != '\n'))).head? == some '#' then
    some ([], (text.dropWhile (· != '\n')).drop 1)
  else firstLine .bare [] text

/-! ### Values -/

/-- What a value is in the middle of: `quote` is the open quote, `escaped` follows a backslash, and
    `name` is the part of a variable's name that was read, in braces or not. -/
structure ValueState where
  quote : Option Char := none
  escaped : Bool := false
  name : Option (Bool × List Char) := none
  deriving DecidableEq, Repr

/-- The value of the variable with a name. Variables are kept as `NAME=value`, so an equals sign in a
    name leads on into the value of the variable before it, up to an equals sign there. -/
def valueOf? (env : Environment) (name : List Char) : Option (List Char) :=
  let value? := (Table.get? env (String.ofList (name.takeWhile (· != '=')))).map String.toList
  match name.dropWhile (· != '=') with
  | [] => value?
  | _ :: rest => value?.bind (rest ++ ['=']).isPrefixOf?

/-- What is written for the variable with a name. -/
def substitute (env : Environment) (name : List Char) : List Char := (valueOf? env name).getD []

/-- What may follow a value and a blank: blanks, and a comment after them. -/
def endsLine : List Char → Bool
  | [] => true
  | c :: rest => if c = ' ' || c = '\t' then endsLine rest else c = '#'

/-- The characters that a backslash may stand before. -/
def escaped? : Char → Option Char
  | '\\' => some '\\'
  | '\x27' => some '\x27'
  | '"' => some '"'
  | '$' => some '$'
  | ' ' => some ' '
  | 'n' => some '\n'
  | _ => none

/-- The value that a text writes, or nothing if it is malformed. -/
def readValue (env : Environment) (s : ValueState) : List Char → Option (List Char)
  | [] =>
    match s.name with
    | some (true, _) => none
    | some (false, name) => if s.quote.isSome then none else some (substitute env name)
    | none => if s.quote.isSome then none else some []
  | c :: rest =>
    let put (chars : List Char) (s : ValueState) : Option (List Char) :=
      (readValue env s rest).map (chars ++ ·)
    if s.escaped then (escaped? c).bind fun e => put [e] { s with escaped := false }
    else if s.quote = some '\x27' then
      if c = '\x27' then put [] { s with quote := none } else put [c] s
    else match s.name with
      | some (braced, name) =>
        if Text.isAlphanumeric c then put [] { s with name := some (braced, name ++ [c]) }
        else if braced then
          if c = '\x7d' then put (substitute env name) { s with name := none }
          else put [] { s with name := some (true, name ++ [c]) }
        else if c = '\x7b' && name.isEmpty then put [] { s with name := some (true, []) }
        else if c = '$' then put (substitute env name) { s with name := some (false, []) }
        else put (substitute env name ++ [c]) { s with name := none }
      | none =>
        if c = '$' then put [] { s with name := some (false, []) }
        else if c = '\\' then put [] { s with escaped := true }
        else if s.quote = some '"' then
          if c = '"' then put [] { s with quote := none } else put [c] s
        else if c = '\x27' || c = '"' then put [] { s with quote := some c }
        else if c = ' ' || c = '\t' then if endsLine rest then some [] else none
        else put [c] s

/-! ### Variables -/

/-- A name and what follows it. -/
def readName (s : List Char) : Option (String × List Char) :=
  let inName (c : Char) : Bool := Text.isWord c || c == '.'
  match s with
  | [] => none
  | c :: _ =>
    if c.isAlpha || c == '_' then some (String.ofList (s.takeWhile inName), s.dropWhile inName)
    else none

/-- What follows an equals sign. -/
def readEquals : List Char → Option (List Char)
  | '=' :: rest => some rest
  | _ => none

/-- The name that a line starts with and what follows its equals sign. A name may stand after the word
    `export`, which may also be a name. -/
def readAssignment (s : List Char) : Option (String × List Char) := do
  let (name, rest) ← readName s
  let rest := trimStart rest
  match readEquals rest with
  | some rest => return (name, rest)
  | none =>
    if name = "export" then
      let (name, rest) ← readName rest
      let rest ← readEquals (trimStart rest)
      return (name, rest)
    else none

/-- The variables after a line, or nothing if it is malformed. -/
def readLine (env : Environment) (line : List Char) : Option Environment := do
  let line := trim line
  if line.isEmpty || line.head? == some '#' then return env
  else
    let (name, rest) ← readAssignment line
    let rest := trimStart rest
    let value ←
      if rest.isEmpty || rest.head? == some '#' then some [] else readValue env {} rest
    match Table.get? env name with
    | some _ => return env
    | none => return Table.insert env name (String.ofList value)

/-- The variables after the lines of a text, of which there are at most `steps`. -/
def readLines (env : Environment) : Nat → List Char → Environment
  | 0, _ => env
  | steps + 1, text =>
    if text.isEmpty then env
    else match nextLine text with
      | none => env
      | some (line, rest) =>
        match readLine env line with
        | none => env
        | some env => readLines env steps rest

/-- The text without a byte order mark. -/
def dropMark : List Char → List Char
  | '\ufeff' :: rest => rest
  | text => text

/-- The variables with those of a file, where it can be read. -/
def load (tree : FileTree) (path : Path) (env : Environment) : Environment :=
  match tree.find? path with
  | some (.file content _) =>
    let text := content.leadingText.toList
    readLines env (text.length + 1) (dropMark text)
  | _ => env

end ToolPlugins.CommandLine.VariableFile
