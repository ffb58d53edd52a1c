import ToolPlugins.CommandLine.Commands
import ToolPlugins.FileTree.Changes

/-!
The program. It runs on a copy of the files that matter: those its arguments and settings name, those
in the way of what it writes, and, for a bootstrap, the files whose paths stand on standard input, one
a line. What it changes in the copy is then written back.
-/

namespace ToolPlugins.Main

open CommandLine

/-- What stands at a path none of whose parents is a file. -/
def probe (path : Path) : IO (Option Entry) := do
  try
    let bytes ← IO.FS.readBinFile path
    return some (.file (.ofBytes bytes.data.toList) FileTree.newFileMode)
  catch
    | .inappropriateType .. => return some .directory
    | _ => return none

/-- Copies what stands at some paths, up to the first that is no directory. -/
def copyPrefixes (tree : FileTree) : List Path → IO FileTree
  | [] => return tree
  | path :: rest => do
    match ← probe path with
    | some .directory => copyPrefixes (tree.put (path ++ "/") (.text "")) rest
    | some (.file content _) => return tree.put path content
    | none => return tree

/-- Copies what stands at a path and on the way to it. -/
def copy (tree : FileTree) (path : Path) : IO FileTree := copyPrefixes tree (Path.prefixes path)

/-- Runs the program, and again as long as it touches places that were not copied yet. -/
def settle (arguments : List String) (s : Surroundings) (known : List Location) :
    Nat → IO (Surroundings × Ending)
  | 0 => return (s, run s arguments)
  | rounds + 1 => do
    let ending := run s arguments
    let touched := (FileTree.changes s.files ending.files).map (·.1)
    let fresh := touched.filter fun place => !known.contains place
    if fresh.isEmpty then return (s, ending)
    else
      let files ← fresh.foldlM (fun tree place => copy tree (FileTree.pathOf place)) s.files
      settle arguments { s with files } (known ++ fresh) rounds

/-- The rights that a mode stands for. -/
def rights (mode : Nat) : IO.FileRight :=
  let right (n : Nat) : IO.AccessRight :=
    { read := n / 4 % 2 == 1, write := n / 2 % 2 == 1, execution := n % 2 == 1 }
  { user := right (mode / 64), group := right (mode / 8), other := right mode }

/-- Writes a change back. -/
def commit (place : Location) (entry : Entry) : IO Unit := do
  let path := FileTree.pathOf place
  match entry with
  | .directory => IO.FS.createDirAll path
  | .file content mode =>
    match content with
    | .text value => IO.FS.writeFile path value
    | .binary bytes => IO.FS.writeBinFile path ⟨bytes.toArray⟩
    if mode ≠ FileTree.newFileMode then IO.setAccessRights path (rights mode)

def inputLines : IO (List String) := do
  let text ← (← IO.getStdin).readToEnd
  return ((text.toList.splitOn '\n').map String.ofList).filter (· ≠ "")

/-- The paths that a request reads. -/
def requestPaths (request : Option Request) : IO (List Path) := do
  match request with
  | some (.validate descriptor schema) => return descriptor :: schema.toList
  | some (.generate descriptor schema _ _) => return descriptor :: schema.toList
  | some (.bootstrap dirs schema _) => return dirs ++ schema.toList ++ (← inputLines)
  | _ => return []

/-- The variables of the environment that matter. -/
def environment : IO Environment := do
  let names := "HOME" :: Settings.Variable.all.map Settings.Variable.name
  let values ← names.mapM fun name => do return (name, ← IO.getEnv name)
  return values.filterMap fun (name, value) => value.map fun v => (name, v)

end ToolPlugins.Main

open ToolPlugins ToolPlugins.CommandLine in
/-- Runs the program on its arguments. -/
def main (arguments : List String) : IO UInt32 := do
  let environment ← Main.environment
  let home := (Table.get? environment "HOME").getD ""
  let paths ← Main.requestPaths (Request.ofArguments arguments).toOption
  let files ← (variableFile :: Settings.file home :: paths).foldlM Main.copy {}
  let (s, ending) ← Main.settle arguments { files, environment, home } [] 16
  (FileTree.changes s.files ending.files).forM fun (place, entry) => Main.commit place entry
  IO.print ending.output
  IO.eprint ending.errors
  return ending.exitCode.toUInt32
