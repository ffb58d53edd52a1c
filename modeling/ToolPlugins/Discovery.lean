import ToolPlugins.Plugin

/-!
Finding descriptors: the files right in a directory whose names end in `.json`, directory by directory
and in the order of the names. A directory that is not there holds none. A directory that cannot be listed
ends the search.
-/

namespace ToolPlugins

/-- A descriptor with the file it was found in. -/
structure FoundDescriptor where
  path : Path
  descriptor : Descriptor
  deriving Repr

namespace Discovery

/-- Whether a name is one of a descriptor file. -/
def isDescriptorName (name : String) : Bool := Path.extension? name == some "json"

/-- All names in a directory, or why they cannot be had. -/
def namesIn (files : FileView) (dir : Path) : Result (List String) := do
  let entries ← (files.list dir).mapError fun e =>
    .descriptorLoad ("Failed to read descriptor directory " ++ dir ++ ": " ++ e.message)
  entries.mapM fun entry => entry.mapError fun e =>
    .descriptorLoad ("Failed to read directory entry: " ++ e.message)

/-- The descriptor files among the names in a directory, in order. A name is passed over if the system does
    not tell that a file stands there, as where its path is too long to be followed. -/
def descriptorFiles (files : FileView) (dir : Path) (names : List String) : List Path :=
  let descriptors := names.filter fun name =>
    files.kind? (Path.join dir name) == some .file && isDescriptorName name
  (descriptors.mergeSort fun a b => decide (a ≤ b)).map (Path.join dir)

/-- The descriptor of a file, or the warning that it holds none. -/
def load (files : FileView) (path : Path) : Except Warning FoundDescriptor :=
  match Descriptor.load files (.path path) with
  | .ok descriptor => .ok ⟨path, descriptor⟩
  | .error e => .error (.unreadableDescriptor path e.message)

/-- The descriptors in a directory, each in its turn or the warning in its place. -/
def inDirectory (files : FileView) (dir : Path) : Result (List (Except Warning FoundDescriptor)) :=
  match files.kind? dir with
  | none => .ok []
  | some .directory => (namesIn files dir).map fun names => (descriptorFiles files dir names).map (load files)
  | some _ => .ok [.error (.notDirectory dir)]

/-- The warning that stands for a descriptor. -/
def warning? : Except Warning FoundDescriptor → Option Warning
  | .ok _ => none
  | .error warning => some warning

/-- The descriptors in all directories, and the warnings about files and directories that could not
    be read. The warnings are those before the first directory that cannot be listed, if there is one. -/
def scan (files : FileView) : List Path → Result (List FoundDescriptor) × List Warning
  | [] => (.ok [], [])
  | dir :: rest =>
    match inDirectory files dir with
    | .error e => (.error e, [])
    | .ok items =>
      let (found, warnings) := scan files rest
      (found.map (items.filterMap Except.toOption ++ ·), items.filterMap warning? ++ warnings)

/-- The descriptors and the warnings in a tree, which lists every directory it has. -/
def discover (t : FileTree) (dirs : List Path) : List FoundDescriptor × List Warning :=
  let (found, warnings) := scan t dirs
  (found.toOption.getD [], warnings)

end Discovery

end ToolPlugins
