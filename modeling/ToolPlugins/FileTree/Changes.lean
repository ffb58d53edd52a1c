import ToolPlugins.FileTree.Basic

/-!
What differs between two trees of files, for carrying changes over to where the files really are.
-/

namespace ToolPlugins

/-- Every path that leads to a path, the path itself last. -/
def Path.prefixes (p : Path) : List Path :=
  let step (acc : List Path × Option Path) (segment : String) : List Path × Option Path :=
    let next := match acc.2 with
      | none => segment
      | some before => before ++ "/" ++ segment
    (acc.1 ++ [next], some next)
  ((Path.segments p).foldl step ([], none)).1.filter (· ≠ "")

namespace FileTree

/-- The path of a place: relative below the working directory, absolute below the root. -/
def pathOf : Location → Path
  | start :: names => if start = "/" then "/" ++ "/".intercalate names else "/".intercalate names
  | [] => ""

/-- What stands in the second tree and not in the first, or is another there, with its place. -/
def changes (before after : FileTree) : List (Location × Entry) :=
  after.entries.filter fun (place, entry) => before.get? place != some entry

end FileTree

end ToolPlugins
