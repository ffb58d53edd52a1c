/-!
Paths as text. A path is split at its slashes; empty parts and `.` do not move. Joining keeps both
parts as they are written, and an absolute second part stands alone.
-/

namespace ToolPlugins

/-- A path as it is written. -/
abbrev Path := String

namespace Path

/-- The parts of a path between its slashes. -/
def segments (p : Path) : List String := (p.toList.splitOn '/').map String.ofList

/-- Whether a path starts at the root. -/
def isAbsolute (p : Path) : Bool := p.toList.head? == some '/'

/-- Whether a path ends in a slash. -/
def endsInSlash (p : Path) : Bool := p.toList.getLast? == some '/'

/-- `part` seen from `base`. -/
def join (base part : Path) : Path :=
  if isAbsolute part then part
  else if base = "" || endsInSlash base then base ++ part
  else base ++ "/" ++ part

/-- Whether a part of a path does not move. -/
def isIdle (segment : String) : Bool := segment = "" || segment = "."

/-- Parts without the idle ones at their end. -/
def trimIdle (segments : List String) : List String :=
  (segments.reverse.dropWhile isIdle).reverse

/-- The path that the last moving part of a path is taken from, as it is written; nothing for a path
    without parts. A leading `.` is a part of its own. -/
def parent? (p : Path) : Option Path :=
  let (front, body) : List String × List String := match segments p with
    | "" :: rest => ([""], rest)
    | "." :: rest => (["."], rest)
    | rest => ([], rest)
  let written (front body : List String) : Path :=
    if body.isEmpty && front == [""] then "/" else "/".intercalate (front ++ body)
  match (trimIdle body).reverse with
  | _ :: before => some (written front (trimIdle before.reverse))
  | [] => if front == ["."] then some "" else none

/-- The path and the paths it stands in, of which there are at most `steps`: without the root, and
    without the place where a relative path starts. -/
def upwardFrom (p : Path) : Nat → List Path
  | 0 => []
  | steps + 1 =>
    match parent? p with
    | some above => p :: upwardFrom above steps
    | none => []

/-- A path and the paths it stands in, each before the one that it stands in. -/
def upward (p : Path) : List Path := upwardFrom p (segments p).length

/-- The text after the last point of a name that has text before that point. -/
def extension? (name : String) : Option String :=
  let letters := name.toList.reverse
  match letters.dropWhile (· != '.') with
  | _ :: _ :: _ => some (String.ofList (letters.takeWhile (· != '.')).reverse)
  | _ => none

/-- A path with a leading `~` replaced by the home directory. -/
def expandHome (home p : Path) : Path :=
  if p = "~" then home
  else match p.toList with
    | '~' :: '/' :: rest => join home (String.ofList rest)
    | _ => p

end Path

end ToolPlugins
