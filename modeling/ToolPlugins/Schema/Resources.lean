import ToolPlugins.FileTree.Basic
import ToolPlugins.Json.Lookup
import ToolPlugins.Schema.Form
import ToolPlugins.UriReference.Resolve

/-!
The resources of a schema document. The document is one, and so is every schema in it that has an
identifier; an identifier is seen from the resource around it. Schemas are visited level by level, and
the first identifier or dialect that cannot be understood is reported, before any dialect that would
have to be fetched from elsewhere.
-/

namespace ToolPlugins.Schema

/-- What a visit of the schemas in a document comes across: an identifier that cannot be understood, a
    resource, or a schema that stands in a resource. -/
inductive Landmark where
  | fault (message : String)
  | resource (uri : UriReference)
  | schema (base : UriReference) (fields : Json.Fields)
  deriving Repr

/-- What the visits of the first level come across, then those of the second, and so on. -/
abbrev Levels := List (List Landmark)

namespace Levels

/-- Two visits as one, level by level. -/
def merge : Levels → Levels → Levels
  | [], others => others
  | levels, [] => levels
  | level :: levels, other :: others => (level ++ other) :: merge levels others

end Levels

/-- The resource that a document without an identifier is. -/
def unnamedResource : UriReference :=
  { scheme := some "json-schema".toList
    authority := some { host := .name [] }
    path := ['/'] }

/-- The reference that a text writes, or why there is none. -/
def reference (text : String) : Except String UriReference :=
  (UriReference.ofText text).mapError fun fault =>
    "Invalid URI reference '" ++ text ++ "': " ++ fault.message

/-- The resource that a text names from a base. The fragment of the base names the base itself. -/
def resourceFrom (base : UriReference) (text : String) : Except String UriReference :=
  if text.startsWith "#" && base.text.endsWith text then .ok base
  else do
    let r ← reference text
    match base.seenFrom r with
    | .ok uri => .ok uri.normalize
    | .error fault =>
      .error ("Failed to resolve '" ++ text ++ "' against '" ++ base.text ++ "': " ++ fault.message)

/-- The resource that a text names. -/
def resourceOf (text : String) : Except String UriReference := do
  let r := (← reference text).normalize
  if r.scheme.isSome then .ok r else resourceFrom unnamedResource r.text

/-- The identifier of a schema. In draft-07 a mere fragment is none. -/
def identifier? (dialect : Dialect) (fields : Json.Fields) : Option String :=
  match (fields.get? "$id").bind Json.string? with
  | some id => if dialect == Dialect.draft07 && id.startsWith "#" then none else some (dropHashes id)
  | none => none

/-- What stands at a schema, and the resource that it is or stands in. -/
def visit (dialect : Dialect) (base : UriReference) (fields : Json.Fields) :
    Except String (UriReference × List Landmark) :=
  match identifier? dialect fields with
  | some id => do
    let base ← resourceFrom base id
    return (base, [.resource base, .schema base fields])
  | none => .ok (base, [.schema base fields])

mutual

/-- What a visit of the schemas in a document comes across, where the document stands in a resource. -/
def levels (dialect : Dialect) (base : UriReference) : Json → Levels
  | .object fields =>
    match visit dialect base fields with
    | .error message => [[.fault message]]
    | .ok (base, found) => found :: levelsOfFields dialect base fields
  | _ => []

/-- `levels` for the schemas in the keywords of a schema. -/
def levelsOfFields (dialect : Dialect) (base : UriReference) : List (String × Json) → Levels
  | [] => []
  | (key, value) :: rest =>
    let here := match value with
      | .object inner =>
        match dialect.holds? key with
        | some .one => levels dialect base (.object inner)
        | some .oneOrList => levels dialect base (.object inner)
        | some .map => levelsOfValues dialect base inner
        | _ => []
      | .array items =>
        match dialect.holds? key with
        | some .list => levelsOfItems dialect base items
        | some .oneOrList => levelsOfItems dialect base items
        | _ => []
      | _ => []
    here.merge (levelsOfFields dialect base rest)

/-- `levels` for the schemas that keys are mapped to. -/
def levelsOfValues (dialect : Dialect) (base : UriReference) : List (String × Json) → Levels
  | [] => []
  | (_, value) :: rest => (levels dialect base value).merge (levelsOfValues dialect base rest)

/-- `levels` for the schemas of a list. -/
def levelsOfItems (dialect : Dialect) (base : UriReference) : List Json → Levels
  | [] => []
  | value :: rest => (levels dialect base value).merge (levelsOfItems dialect base rest)

end

/-! ### Named dialects -/

/-- Whether a dialect is one of the known ones, or is named where nothing is looked up. -/
def isKnown (base : UriReference) (name : String) : Bool :=
  base.scheme == some "urn".toList || name.startsWith "https://json-schema.org/draft/" ||
    name.startsWith "http://json-schema.org/draft-" ||
    base.text.startsWith "https://json-schema.org/draft/"

/-- The resource that a dialect is, where it is named in a resource. -/
def dialectFrom (base : UriReference) (name : String) : Except String UriReference := do
  let text := if base.fragment.isSome then name.toList.takeWhile (· != '#') else name.toList
  let uri ← resourceFrom base.withoutFragment (String.ofList text)
  return uri.withoutFragment

/-- The dialect that is named in a value, and the names that were looked up with their resources. A
    name is looked up once in a resource. One that starts with a hash points into the value itself,
    and then the dialect named there counts. -/
def dialectIn (seen : List (UriReference × String)) (base : UriReference) (value : Json) :
    Except String (List (UriReference × String) × Option (String × UriReference)) :=
  match (value.get? "$schema").bind Json.string? with
  | none => .ok (seen, none)
  | some name =>
    if isKnown base name || seen.contains (base, name) then .ok (seen, none)
    else if name.startsWith "#" then
      match _h : value.inside? (name.toList.dropWhile (· == '#')) with
      | some part => dialectIn ((base, name) :: seen) base part
      | none => .ok ((base, name) :: seen, none)
    else (dialectFrom base name).map fun uri => ((base, name) :: seen, some (name, uri))
  termination_by sizeOf value
  decreasing_by exact Json.sizeOf_inside? _h

/-- The dialects that are named at landmarks, or the first fault. -/
def dialects (seen : List (UriReference × String)) :
    List Landmark → Except String (List (String × UriReference))
  | [] => .ok []
  | .fault message :: _ => .error message
  | .resource _ :: rest => dialects seen rest
  | .schema base fields :: rest => do
    let (seen, named) ← dialectIn seen base (.object fields)
    return named.toList ++ (← dialects seen rest)

/-- Why a resource from elsewhere cannot be had. Nothing is fetched. -/
def unavailable (name : String) (uri : UriReference) : String :=
  let scheme := String.ofList (uri.scheme.getD [])
  let (shown, reason) : String × String :=
    if scheme = "json-schema" then (name, "No base URI is available")
    else if scheme = "http" || scheme = "https" then
      let whole := if uri.path.isEmpty then { uri with path := ['/'] } else uri
      (uri.text, "error sending request for url (" ++ whole.text ++ ")")
    else if scheme = "file" then (uri.text, FileError.notFound.message)
    else (uri.text, "Unknown scheme " ++ scheme)
  "Resource '" ++ shown ++ "' is not present in a registry and retrieving it failed: " ++ reason

/-- What is wrong with the identifiers and dialects in a document. -/
def resourceFault? (dialect : Dialect) (fields : Json.Fields) : Option String :=
  match (identifier? dialect fields).elim (.ok unnamedResource) resourceOf with
  | .error message => some message
  | .ok base =>
    let found := (levels dialect base (.object fields)).flatten
    let uri? : Landmark → Option UriReference
      | .resource uri => some uri
      | _ => none
    let resources := base :: found.filterMap uri?
    let isAtHand (uri : UriReference) : Bool :=
      resources.contains uri || Dialect.descriptions.contains uri.text
    match dialects [] found with
    | .error message => some message
    | .ok named =>
      (named.find? fun (_, uri) => !isAtHand uri).map fun (name, uri) => unavailable name uri

end ToolPlugins.Schema
