import ToolPlugins.Json.Basic

/-!
The dialects that schemas are written in. A schema names its dialect itself, or it has the one of the
schema around it. Drafts 4 and 6 are read as draft-07, and 2019-09 as 2020-12.
-/

namespace ToolPlugins.Schema

/-- The dialects that a document can be written in. -/
inductive Dialect where
  | draft07
  | draft2020
  deriving DecidableEq, Repr

/-- The text without the hashes at its end. -/
def dropHashes (text : String) : String :=
  String.ofList (text.toList.reverse.dropWhile (· == '#')).reverse

namespace Dialect

/-- The documents that describe the dialects. -/
def descriptions : List String :=
  ["http://json-schema.org/draft-04/schema", "http://json-schema.org/draft-06/schema",
    "http://json-schema.org/draft-07/schema"] ++
  (["schema", "meta/applicator", "meta/content", "meta/core", "meta/format", "meta/meta-data",
    "meta/validation"].map ("https://json-schema.org/draft/2019-09/" ++ ·)) ++
  (["schema", "meta/applicator", "meta/content", "meta/core", "meta/format-annotation",
    "meta/format-assertion", "meta/meta-data", "meta/unevaluated", "meta/validation"].map
    ("https://json-schema.org/draft/2020-12/" ++ ·))

/-- The dialect that an identifier without hashes at its end names. -/
def ofIdentifier? (id : String) : Option Dialect :=
  if ["http://json-schema.org/draft-07/schema", "http://json-schema.org/draft-06/schema",
      "http://json-schema.org/draft-04/schema"].contains id then some .draft07
  else if ["https://json-schema.org/draft/2020-12/schema",
      "https://json-schema.org/draft/2019-09/schema"].contains id then some .draft2020
  else none

/-- The identifier of the dialect that a schema names, without hashes at its end. -/
def named? (fields : Json.Fields) : Option String :=
  ((fields.get? "$schema").bind Json.string?).map dropHashes

/-- The dialect of a schema that stands in a schema of a dialect. A name that is not known stands for
    2020-12. -/
def ofSchema (outer : Dialect) (fields : Json.Fields) : Dialect :=
  match named? fields with
  | none => outer
  | some id => (ofIdentifier? id).getD .draft2020

end Dialect

end ToolPlugins.Schema
