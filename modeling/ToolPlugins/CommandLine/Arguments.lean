import ToolPlugins.FileTree.Path

/-!
Arguments of the program. Options may stand before and after the words of a command. A word after
`--` is no option, and the value of an option does not look like one.
-/

namespace ToolPlugins.CommandLine

/-- What the program is asked to do. -/
inductive Request where
  | validate (descriptor : String) (schema : Option String)
  | generate (descriptor : String) (schema : Option String) (out : Option Path) (permissive : Bool)
  | classify (name : String)
  | bootstrap (dirs : List Path) (schema : Option String) (multiVersion : Bool)
  | help
  | version
  deriving DecidableEq, Repr

/-- Why arguments ask for nothing. -/
inductive UsageProblem where
  | unexpected (argument : String)
  | repeated (option : String)
  | valueMissing (option : String)
  | valueNotTaken (option : String)
  | badValue (option value : String)
  | wordMissing (word : String)
  | commandMissing
  deriving DecidableEq, Repr

def UsageProblem.message : UsageProblem → String
  | unexpected argument => "unexpected argument '" ++ argument ++ "' found"
  | repeated option => "the argument '" ++ option ++ "' cannot be used multiple times"
  | valueMissing option => "a value is required for '" ++ option ++ "' but none was supplied"
  | valueNotTaken option => "unexpected value for '" ++ option ++ "' found; no more were expected"
  | badValue option value => "invalid value '" ++ value ++ "' for '" ++ option ++ "'"
  | wordMissing word => "the following required arguments were not provided: " ++ word
  | commandMissing => "a command is required"

/-! ### Options and words -/

/-- What an option brings with it: nothing, nothing but the answer to the whole command line, or a
    value of some form. -/
inductive OptionKind where
  | flag
  | answer (request : Request)
  | value (accepts : String → Bool)

/-- An option with its long and its short name. -/
structure OptionRule where
  long : String
  short : Option Char := none
  kind : OptionKind

/-- The words of a command: what they are called, how many there have to be, whether there may be more
    of them, and their form. -/
structure WordRule where
  name : String
  needed : Nat
  more : Bool := false
  accepts : String → Bool := fun _ => true

/-- What is allowed in a row of arguments. One that `stops` ends at the first word. -/
structure Form where
  options : List OptionRule
  words : WordRule
  stops : Bool := false

/-- What was read: options with their values, and words, both in order. -/
structure Given where
  options : List (String × Option String) := []
  words : List String := []
  deriving DecidableEq, Repr

namespace Given

def has (g : Given) (long : String) : Bool := g.options.any fun o => o.1 == long

def value? (g : Given) (long : String) : Option String :=
  (g.options.find? fun o => o.1 == long).bind (·.2)

end Given

/-- An argument by its form: the mark before words that are no options, an option by its long name with
    the value attached to it, an option by its short name with what is attached to it, or a word. -/
inductive Argument where
  | mark
  | long (name : String) (value : Option String)
  | short (name : Char) (attached : Option String)
  | word (text : String)
  deriving DecidableEq, Repr

def Argument.ofText (text : String) : Argument :=
  match text.toList with
  | ['-', '-'] => .mark
  | '-' :: '-' :: rest =>
    let name := String.ofList (rest.takeWhile (· != '='))
    match rest.dropWhile (· != '=') with
    | [] => .long name none
    | _ :: value => .long name (some (String.ofList value))
  | '-' :: c :: rest =>
    match rest with
    | [] => .short c none
    | '=' :: value => .short c (some (String.ofList value))
    | value => .short c (some (String.ofList value))
  | _ => .word text

/-- Whether an argument can be the value of the option before it. -/
def Argument.isValue (text : String) : Bool :=
  match ofText text with
  | .word _ => true
  | _ => false

/-- What reading arguments comes to: what was given with the arguments that were not read, or the
    answer to the whole command line. -/
abbrev Reading := Except UsageProblem (Given × List String ⊕ Request)

namespace Form

/-- What was given with one more option. -/
def addOption (g : Given) (rule : OptionRule) (value : Option String) :
    Except UsageProblem Given :=
  if g.has rule.long then .error (.repeated rule.long)
  else .ok { g with options := g.options ++ [(rule.long, value)] }

/-- What was given with one more option that has a value. -/
def addValue (g : Given) (rule : OptionRule) (accepts : String → Bool) (value : String) :
    Except UsageProblem Given :=
  if accepts value then addOption g rule (some value) else .error (.badValue rule.long value)

/-- What was given with one more word. -/
def addWord (form : Form) (g : Given) (word : String) : Except UsageProblem Given :=
  if g.words.length < form.words.needed || form.words.more then
    if form.words.accepts word then .ok { g with words := g.words ++ [word] }
    else .error (.badValue form.words.name word)
  else .error (.unexpected word)

/-- Whether enough words were given. -/
def finish (form : Form) (g : Given) : Reading :=
  if g.words.length < form.words.needed then .error (.wordMissing form.words.name)
  else .ok (.inl (g, []))

/-- The option that an argument stands for, with the value attached to it. -/
def option? (form : Form) : Argument → Option (OptionRule × Option String)
  | .long name value =>
    (form.options.find? fun rule => rule.long == name).map fun rule => (rule, value)
  | .short name attached =>
    (form.options.find? fun rule => rule.short == some name).map fun rule => (rule, attached)
  | _ => none

/-- Whether a value is attached to an option's long name. -/
def hasLongValue : Argument → Bool
  | .long _ (some _) => true
  | _ => false

/-- Reads arguments after those that gave `g`. -/
def read (form : Form) (g : Given) : List String → Reading
  | [] => form.finish g
  | text :: rest =>
    match Argument.ofText text with
    | .mark => (rest.foldlM form.addWord g).bind form.finish
    | .word word =>
      if form.stops then .ok (.inl (g, text :: rest))
      else (form.addWord g word).bind fun g => form.read g rest
    | argument =>
      match form.option? argument with
      | none => .error (.unexpected text)
      | some (rule, attached) =>
        match rule.kind with
        | .answer request =>
          if hasLongValue argument then .error (.valueNotTaken rule.long) else .ok (.inr request)
        | .flag =>
          if attached.isSome then .error (.valueNotTaken rule.long)
          else (addOption g rule none).bind fun g => form.read g rest
        | .value accepts =>
          match attached with
          | some value => (addValue g rule accepts value).bind fun g => form.read g rest
          | none =>
            match rest with
            | [] => .error (.valueMissing rule.long)
            | next :: rest =>
              if Argument.isValue next then
                (addValue g rule accepts next).bind fun g => form.read g rest
              else .error (.valueMissing rule.long)

end Form

/-! ### Commands -/

/-- The option that chooses the form of the log. -/
def logFormat : OptionRule :=
  { long := "log-format", kind := .value fun v => v == "text" || v == "json" }

/-- The option that asks for help. -/
def helpOption : OptionRule := { long := "help", short := some 'h', kind := .answer .help }

/-- The option that asks for the version of the program. -/
def versionOption : OptionRule := { long := "version", short := some 'V', kind := .answer .version }

/-- The option that names a schema. -/
def schemaOption : OptionRule := { long := "schema", kind := .value fun _ => true }

/-- The option that names a directory for exports. -/
def outOption : OptionRule :=
  { long := "out", short := some 'o', kind := .value fun v => v != "" }

/-- The option that allows validation errors. -/
def permissiveOption : OptionRule := { long := "permissive", kind := .flag }

/-- The option that puts every tool behind a switcher. -/
def multiVersionOption : OptionRule := { long := "multi-version", kind := .flag }

/-- A command: its name, its form and what it asks for. -/
structure Command where
  name : String
  form : Form
  request : Given → Option Request

/-- The word that names a descriptor. -/
def descriptorWord : WordRule := { name := "<DESCRIPTOR>", needed := 1 }

/-- The word that is a tool name. -/
def nameWord : WordRule := { name := "<NAME>", needed := 1 }

/-- The words that name directories. -/
def dirWords : WordRule :=
  { name := "[DIRS]...", needed := 0, more := true, accepts := fun v => v != "" }

/-- The command that validates a descriptor. -/
def validateCommand : Command :=
  { name := "validate"
    form := { options := [schemaOption, logFormat, helpOption], words := descriptorWord }
    request := fun g => g.words.head?.map fun d => .validate d (g.value? "schema") }

/-- The command that generates and exports a plugin. -/
def generateCommand : Command :=
  { name := "generate"
    form :=
      { options := [schemaOption, outOption, permissiveOption, logFormat, helpOption]
        words := descriptorWord }
    request := fun g => g.words.head?.map fun d =>
      .generate d (g.value? "schema") (g.value? "out") (g.has "permissive") }

/-- The command that shows the identifier of a tool name. -/
def classifyCommand : Command :=
  { name := "classify"
    form := { options := [logFormat, helpOption], words := nameWord }
    request := fun g => g.words.head?.map .classify }

/-- The command that integrates the descriptors of some directories. -/
def bootstrapCommand : Command :=
  { name := "bootstrap"
    form :=
      { options := [schemaOption, multiVersionOption, logFormat, helpOption], words := dirWords }
    request := fun g => some (.bootstrap g.words (g.value? "schema") (g.has "multi-version")) }

def commands : List Command := [validateCommand, generateCommand, classifyCommand, bootstrapCommand]

/-- The form of what stands before a command: options, and no word. -/
def globalForm : Form :=
  { options := [logFormat, helpOption, versionOption]
    words := { name := "<COMMAND>", needed := 0 }
    stops := true }

/-- What the arguments of a command ask for. -/
def Command.read (command : Command) (arguments : List String) : Except UsageProblem Request := do
  match ← command.form.read {} arguments with
  | .inr request => return request
  | .inl (given, _) =>
    match command.request given with
    | some request => return request
    | none => .error (.wordMissing command.form.words.name)

/-- What the arguments after `help` ask for: help on a command, or help at all. -/
def readHelp : List String → Except UsageProblem Request
  | [] => .ok .help
  | [name] =>
    if name == "help" || commands.any fun c => c.name == name then .ok .help
    else .error (.unexpected name)
  | _ :: extra :: _ => .error (.unexpected extra)

/-- What the arguments of the program ask for. -/
def Request.ofArguments (arguments : List String) : Except UsageProblem Request := do
  match ← globalForm.read {} arguments with
  | .inr request => return request
  | .inl (_, []) => .error .commandMissing
  | .inl (_, name :: rest) =>
    if name = "help" then readHelp rest
    else match commands.find? fun c => c.name == name with
      | some command => command.read rest
      | none => .error (.unexpected name)

end ToolPlugins.CommandLine
