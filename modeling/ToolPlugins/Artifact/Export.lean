import ToolPlugins.Identifier
import ToolPlugins.Plugin

/-!
Exporting artifacts: each is written to its place below a directory named for the plugin, one after the
other in the order of their kinds. The first failure ends the export; what was written stays.
-/

namespace ToolPlugins

/-- The tree after writing a file whose missing parent directories are created, or the failure with its
    path. -/
def FileTree.publish (t : FileTree) (path : Path) (content : Content) :
    Except (Path × FileError) Unit × FileTree :=
  let parented : Except (Path × FileError) Unit × FileTree :=
    match path.parent? with
    | some parent =>
      let (made, t) := t.makeDirectories parent
      (made.mapError fun e => (parent, e), t)
    | none => (.ok (), t)
  match parented with
  | (.error e, t) => (.error e, t)
  | (.ok (), t) =>
    match t.write path content with
    | .error e => (.error (path, e), t)
    | .ok t => (.ok (), t)

/-- The tree after writing files one after the other, up to the first that cannot be written. -/
def FileTree.publishAll (t : FileTree) : List (Path × Content) → Except (Path × FileError) Unit × FileTree
  | [] => (.ok (), t)
  | (path, content) :: files =>
    match t.publish path content with
    | (.error e, t) => (.error e, t)
    | (.ok (), t) => t.publishAll files

namespace Artifacts

/-- The directory of a plugin's artifacts. -/
def exportRoot (identifier : String) (base : Path) : Path :=
  Path.join base (Identifier.snakeCase identifier)

def exportFile (identifier : String) (base : Path) (kind : ArtifactKind) : Path :=
  Path.join (exportRoot identifier base) (kind.exportPath (Identifier.snakeCase identifier))

/-- The artifacts with the paths that they are written to, in order. -/
def exportFiles (a : Artifacts) (identifier : String) (base : Path) : List (Path × Content) :=
  a.list.map fun (kind, body) => (exportFile identifier base kind, .text body)

/-- The tree after writing every artifact, and the directory they are in. -/
def exportTo (a : Artifacts) (identifier : String) (base : Path) (t : FileTree) :
    Result Path × FileTree :=
  let published := t.publishAll (a.exportFiles identifier base)
  ((published.1.mapError fun (path, e) => .exportFile path e).map fun () => exportRoot identifier base, published.2)

end Artifacts

/-- The tree after writing the artifacts of a plugin, and the directory they are in. -/
def GeneratedPlugin.exportTo (p : GeneratedPlugin) (base : Path) (t : FileTree) :
    Result Path × FileTree :=
  p.artifacts.exportTo p.identifier base t

end ToolPlugins
