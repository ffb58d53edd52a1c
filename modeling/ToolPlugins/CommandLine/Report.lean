import ToolPlugins.Failure

/-!
How a failed command is reported: what went wrong, and below it what that was caused by. Causes are
numbered if there is more than one, and the lines of a cause are indented alike.
-/

namespace ToolPlugins.CommandLine

/-- A failure with its causes, the nearest first. -/
structure Report where
  headline : String
  causes : List String := []
  deriving DecidableEq, Repr

namespace Report

def ofFailure (e : Failure) : Report := ⟨e.message, e.cause?.toList⟩

/-- The report on something that a failure made fail. -/
def within (context : String) (e : Failure) : Report := ⟨context, e.message :: e.cause?.toList⟩

/-- A text with `first` before its first line and `others` before every other line. -/
def indented (first others text : String) : String :=
  first ++ ("\n" ++ others).intercalate ((text.toList.splitOn '\n').map String.ofList)

/-- The width of the column of cause numbers. -/
def numberWidth : Nat := 5

/-- A cause under its number. -/
def numbered (n : Nat) (cause : String) : String :=
  let digits := toString n
  indented ("".pushn ' ' (numberWidth - digits.length) ++ digits ++ ": ")
    ("".pushn ' ' (numberWidth + 2)) cause

def causeLines : List String → List String
  | [] => []
  | [cause] => ["", "Caused by:", indented "    " "    " cause]
  | causes => "" :: "Caused by:" :: causes.zipIdx.map fun (cause, n) => numbered n cause

def text (r : Report) : String :=
  String.join ((("Error: " ++ r.headline) :: causeLines r.causes).map (· ++ "\n"))

end Report

end ToolPlugins.CommandLine
