import ToolPlugins.Artifact.Kind

/-!
Warnings: what happened on the way that the caller should know about although the operation went on.
-/

namespace ToolPlugins

/-- Where an identifier was registered. -/
inductive Namespace where
  | generic
  | versioned
  deriving DecidableEq, Repr

def Namespace.name : Namespace → String
  | generic => "generic"
  | versioned => "versioned"

/-- A warning. -/
inductive Warning where
  | generatingDespiteErrors (tool : String) (errors : Nat)
  | replacedEntry (identifier : String) (kind : Namespace)
  | replacedBySwitcher (identifier : String)
  | replacedVersion (identifier version : String)
  | fallbackVersion (identifier requested fallback : String)
  | notDirectory (path : Path)
  | unreadableDescriptor (path : Path) (error : String)
  | skippedDescriptor (path : Path) (error : String)
  deriving DecidableEq, Repr

/-- A detail of a warning. -/
inductive Detail where
  | text (value : String)
  | count (value : Nat)
  deriving DecidableEq, Repr

namespace Warning

def message : Warning → String
  | generatingDespiteErrors _ _ => "Generating despite validation errors"
  | replacedEntry _ _ => "Identifier already registered, replacing existing type"
  | replacedBySwitcher _ =>
    "Single-version type registered under identifier, replacing with version switcher"
  | replacedVersion _ _ => "Version already registered, replacing implementation"
  | fallbackVersion _ _ _ =>
    "Requested version is not registered, falling back to first registered version"
  | notDirectory _ => "Descriptor path is not a directory, skipping"
  | unreadableDescriptor _ _ => "Failed to load descriptor, skipping"
  | skippedDescriptor _ _ => "Failed to integrate descriptor, skipping"

/-- The details of a warning, with their names. -/
def details : Warning → List (String × Detail)
  | generatingDespiteErrors tool errors => [("tool", .text tool), ("errors", .count errors)]
  | replacedEntry identifier kind =>
    [("identifier", .text identifier), ("namespace", .text kind.name)]
  | replacedBySwitcher identifier => [("identifier", .text identifier)]
  | replacedVersion identifier version =>
    [("identifier", .text identifier), ("version", .text version)]
  | fallbackVersion identifier requested fallback =>
    [("identifier", .text identifier), ("requested", .text requested), ("fallback", .text fallback)]
  | notDirectory path => [("path", .text path)]
  | unreadableDescriptor path error => [("path", .text path), ("error", .text error)]
  | skippedDescriptor path error => [("path", .text path), ("error", .text error)]

end Warning

end ToolPlugins
