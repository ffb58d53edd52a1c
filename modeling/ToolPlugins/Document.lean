import ToolPlugins.FileTree.View
import ToolPlugins.Json.Reader

/-!
Where a document comes from: a value at hand, a text, a file, or a string that is taken for a file
where one exists and for the text itself otherwise.
-/

namespace ToolPlugins

/-- The source of a document. -/
inductive DocumentSource where
  | value (document : Json)
  | text (text : String)
  | path (path : Path)
  | auto (text : String)
  deriving Repr

namespace DocumentSource

/-- How much of a text is shown in a message. -/
def shownLength : Nat := 60

/-- The text, or its beginning if it is long. -/
def abbreviated (text : String) : String :=
  if text.length ≤ shownLength then text
  else String.ofList (text.toList.take shownLength) ++ "..."

def readFile (files : FileView) (path : Path) : Except String Json :=
  match files.read path with
  | .error e => .error ("Failed to read " ++ path ++ ": " ++ e.message)
  | .ok content => (Json.parse content).mapError fun e => "Invalid JSON in " ++ path ++ ": " ++ e

def load (files : FileView) : DocumentSource → Except String Json
  | value document => .ok document
  | path p => readFile files p
  | text t => (Json.parse t).mapError fun e => "invalid JSON text: " ++ e
  | auto t =>
    if files.kind? t = some .file then readFile files t
    else (Json.parse t).mapError fun e =>
      "'" ++ abbreviated t ++ "' is neither an existing file nor valid JSON text: " ++ e

end DocumentSource

end ToolPlugins
