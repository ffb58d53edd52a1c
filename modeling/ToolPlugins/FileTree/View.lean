import ToolPlugins.FileTree.Basic

/-!
What a program learns about files from the system that keeps them. The system may say nothing of a path,
refuse to list a directory, withhold some of its entries, and refuse to read a file. A tree of files
answers whatever can be asked of it.
-/

namespace ToolPlugins

/-- What stands at a path. -/
inductive FileKind where
  | file
  | directory
  | other
  deriving DecidableEq, Repr

/-- The answers of a system about its files. -/
structure FileView where
  /-- What stands at a path, links followed; nothing also where the system does not tell. -/
  kind? : Path → Option FileKind
  /-- The names in a directory, in any order. An entry may be withheld. -/
  list : Path → Except FileError (List (Except FileError String))
  /-- The text of a file. -/
  read : Path → Except FileError String

def Entry.kind : Entry → FileKind
  | .file _ _ => .file
  | .directory => .directory

/-- The answers of a tree. -/
def FileTree.view (t : FileTree) : FileView where
  kind? p := (t.find? p).map Entry.kind
  list p := do
    let place ← t.resolve p
    t.checkDirectory place
    return (t.children place).map fun (name, _) => .ok name
  read := t.readText

instance : Coe FileTree FileView := ⟨FileTree.view⟩

end ToolPlugins
