import ToolPlugins.FileTree.Path
import ToolPlugins.Table
import ToolPlugins.Text.Ascii

/-!
A tree of files, as a table from places to files and directories. A place is a list of names: the
working directory is `["."]`, the root of absolute paths `["/"]`, and the names that lead on follow. A
path is followed name by name, and each name is taken from a directory.

The tree is a file system without links, permissions and quotas: whatever a path leads to can be read and
written. A file is written as a whole or not at all, and nothing else changes the tree meanwhile. Names and
paths are Unicode.
-/

namespace ToolPlugins

/-- What a file holds: text, or bytes that are not UTF-8. -/
inductive Content where
  | text (value : String)
  | binary (bytes : List UInt8)
  deriving DecidableEq, Repr

/-- The content of the given bytes. -/
def Content.ofBytes (bytes : List UInt8) : Content :=
  match String.fromUTF8? ⟨bytes.toArray⟩ with
  | some value => .text value
  | none => .binary bytes

/-- The lines of a byte sequence, each with the line feed that ends it. -/
def Content.lines (bytes : List UInt8) : List (List UInt8) :=
  (bytes.splitBy fun byte _ => byte != 10)

/-- The text of a file up to its first line that is not UTF-8. -/
def Content.leadingText : Content → String
  | .text value => value
  | .binary bytes =>
    let texts := (lines bytes).map fun line => String.fromUTF8? ⟨line.toArray⟩
    String.join ((texts.takeWhile Option.isSome).filterMap id)

/-- What stands at a place. -/
inductive Entry where
  | file (content : Content) (mode : Nat)
  | directory
  deriving DecidableEq, Repr

/-- The names that lead to a file or directory. -/
abbrev Location := List String

/-- Why a file operation fails. A tree gives one of the causes that are named here, a system any other too. -/
inductive FileError where
  | notFound
  | notDirectory
  | isDirectory
  | exists
  | invalidText
  | nameTooLong
  | nulInPath
  | system (text : String)
  deriving DecidableEq, Repr

/-- The wording of a failed file operation. -/
def FileError.message : FileError → String
  | .notFound => "No such file or directory (os error 2)"
  | .notDirectory => "Not a directory (os error 20)"
  | .isDirectory => "Is a directory (os error 21)"
  | .exists => "File exists (os error 17)"
  | .invalidText => "stream did not contain valid UTF-8"
  | .nameTooLong => "File name too long (os error 36)"
  | .nulInPath => "file name contained an unexpected NUL byte"
  | .system text => text

/-- A tree of files and directories. -/
structure FileTree where
  entries : Table Location Entry := []
  deriving Repr

namespace FileTree

/-- The working directory. -/
def workLocation : Location := ["."]

/-- The root of absolute paths. -/
def rootLocation : Location := ["/"]

/-- What stands at a place. The working directory and the root are always there. -/
def get? (t : FileTree) (place : Location) : Option Entry :=
  if place.length ≤ 1 then some .directory else t.entries.get? place

/-- The place one directory up. -/
def above (place : Location) : Location :=
  if place.length ≤ 1 then rootLocation else place.dropLast

/-- The place that a name leads to from a place. -/
def enter (place : Location) (name : String) : Location :=
  if Path.isIdle name then place
  else if name = ".." then above place
  else place ++ [name]

/-- Whether names can be taken from a place. -/
def checkDirectory (t : FileTree) (place : Location) : Except FileError Unit :=
  match t.get? place with
  | some .directory => .ok ()
  | some (.file _ _) => .error .notDirectory
  | none => .error .notFound

/-- The most bytes that a name may have. -/
def maxNameSize : Nat := 255

/-- The most bytes that a path may have. -/
def maxPathSize : Nat := 4095

/-- The place that names lead to; each name but an empty one is taken from a directory, and the last
    name need not be there. -/
def walk (t : FileTree) (place : Location) : List String → Except FileError Location
  | [] => .ok place
  | name :: rest => do
    if name ≠ "" then
      t.checkDirectory place
      if maxNameSize < name.utf8ByteSize then throw .nameTooLong
    t.walk (enter place name) rest

/-- Where a path starts, and the names it goes through. -/
def start (p : Path) : Location × List String :=
  (if p.isAbsolute then rootLocation else workLocation, p.segments)

/-- The place that a path leads to, be there something or not. -/
def locate (t : FileTree) (p : Path) : Except FileError Location :=
  if p.toList.contains '\x00' then .error .nulInPath
  else if p = "" then .error .notFound
  else if maxPathSize < p.utf8ByteSize then .error .nameTooLong
  else
    let (place, names) := start p
    t.walk place names

/-- The place that a path leads to. A path that ends in a slash leads to a directory. -/
def resolve (t : FileTree) (p : Path) : Except FileError Location := do
  let place ← t.locate p
  if p.endsInSlash then t.checkDirectory place
  return place

/-- What a path leads to. -/
def find? (t : FileTree) (p : Path) : Option Entry :=
  match t.resolve p with
  | .ok place => t.get? place
  | .error _ => none

/-- Whether a path leads to a file or directory. -/
def contains (t : FileTree) (p : Path) : Bool := (t.find? p).isSome

/-- Whether a path leads to a file. -/
def isFile (t : FileTree) (p : Path) : Bool :=
  match t.find? p with
  | some (.file _ _) => true
  | _ => false

/-- Whether a path leads to a directory. -/
def isDirectory (t : FileTree) (p : Path) : Bool :=
  match t.find? p with
  | some .directory => true
  | _ => false

/-- The text of the file that a path leads to. -/
def readText (t : FileTree) (p : Path) : Except FileError String := do
  let place ← t.resolve p
  match t.get? place with
  | none => .error .notFound
  | some .directory => .error .isDirectory
  | some (.file (.text value) _) => .ok value
  | some (.file (.binary _) _) => .error .invalidText

/-- The tree with an entry at a place. -/
def set (t : FileTree) (place : Location) (entry : Entry) : FileTree :=
  ⟨t.entries.insert place entry⟩

theorem get?_set (t : FileTree) (place other : Location) (entry : Entry) :
    (t.set place entry).get? other =
      if other.length ≤ 1 then some .directory
      else if other = place then some entry else t.get? other := by
  by_cases h : other.length ≤ 1
  · simp [get?, h]
  · simp [get?, set, Table.get?_insert, h]

/-- The mode of a file that is created. -/
def newFileMode : Nat := 0o644

/-- The tree after writing a file, which is created if it is not there and keeps its mode if it is. -/
def write (t : FileTree) (p : Path) (content : Content) : Except FileError FileTree :=
  match t.resolve p with
  | .error e => .error (if p.endsInSlash && e == .notFound then .isDirectory else e)
  | .ok place =>
    match t.get? place with
    | some .directory => .error .isDirectory
    | some (.file _ mode) => .ok (t.set place (.file content mode))
    | none => .ok (t.set place (.file content newFileMode))

/-- The tree after setting the mode of a file. -/
def setMode (t : FileTree) (p : Path) (mode : Nat) : Except FileError FileTree := do
  let place ← t.resolve p
  match t.get? place with
  | some (.file content _) => .ok (t.set place (.file content mode))
  | some .directory => .ok t
  | none => .error .notFound

/-- The tree after creating a directory right in one that is there. -/
def makeDirectory (t : FileTree) (p : Path) : Except FileError FileTree := do
  let place ← t.locate p
  match t.get? place with
  | some _ => throw .exists
  | none => return t.set place .directory

/-- The tree after creating the first of some paths, each of which stands in the next one. A path is
    tried before the ones it stands in, which are created only where it cannot be; a directory that is
    there is left as it is, and what was created before a failure stays. -/
def makeAlong (t : FileTree) : List Path → Except FileError Unit × FileTree
  | [] => (.ok (), t)
  | p :: above =>
    let settle (t : FileTree) (e : FileError) : Except FileError Unit × FileTree :=
      if e = .exists && t.isDirectory p then (.ok (), t) else (.error e, t)
    match t.makeDirectory p with
    | .ok t => (.ok (), t)
    | .error .notFound =>
      match t.makeAlong above with
      | (.error e, t) => (.error e, t)
      | (.ok (), t) =>
        match t.makeDirectory p with
        | .ok t => (.ok (), t)
        | .error e => settle t e
    | .error e => settle t e

/-- The tree after creating every directory of a path that is not there. -/
def makeDirectories (t : FileTree) (p : Path) : Except FileError Unit × FileTree :=
  t.makeAlong p.upward

/-- The name of an entry right below a place. -/
def childName? (place other : Location) : Option String :=
  if place.isPrefixOf other then
    match other.drop place.length with
    | [name] => some name
    | _ => none
  else none

/-- The names right below a place with what stands there, in no particular order. -/
def children (t : FileTree) (place : Location) : List (String × Entry) :=
  t.entries.filterMap fun (other, entry) => (childName? place other).map fun name => (name, entry)

/-- Every file below the place of a path, with its path written from there, in order of the paths. -/
def filesBelow (t : FileTree) (p : Path) : List (Path × Content) :=
  match t.resolve p with
  | .error _ => []
  | .ok place =>
    let files := t.entries.filterMap fun (other, entry) =>
      match entry with
      | .file content _ =>
        if place.isPrefixOf other && place ≠ other then
          some ((other.drop place.length).foldl Path.join p, content)
        else none
      | .directory => none
    files.mergeSort fun a b => decide (a.1 ≤ b.1)

/-- The tree with a file or directory put at a path whose missing parents are created; a path that
    ends in a slash makes a directory. The tree is kept where something stands in the way. -/
def put (t : FileTree) (p : Path) (content : Content) : FileTree :=
  if p.endsInSlash then (t.makeDirectories p).2
  else
    let parented := match p.parent? with
      | some parent => (t.makeDirectories parent).2
      | none => t
    (parented.write p content).toOption.getD parented

end FileTree

end ToolPlugins
