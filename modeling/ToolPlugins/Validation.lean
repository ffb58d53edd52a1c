import ToolPlugins.Schema.Check

/-!
Validation errors: what is wrong with a document, with the keys and indices that lead to it. They are
read from the escaped pointer of a finding, in which no key can be taken for two; for a missing field
the path goes on with the name of that field.
-/

namespace ToolPlugins

/-- One structural problem of a document. -/
structure ValidationError where
  path : List String
  message : String
  deriving DecidableEq, Repr

namespace ValidationError

/-- The path with a slash before every segment. -/
def pointer (e : ValidationError) : String := String.join (e.path.map fun segment => "/" ++ segment)

/-- The wording of an error, with its pointer. -/
def display (e : ValidationError) : String :=
  (if e.path.isEmpty then "/" else e.pointer) ++ ": " ++ e.message

/-- The path that an escaped pointer stands for. -/
def pathOf (pointer : List Char) : List String := (Json.Pointer.split pointer).map String.ofList

def ofFinding (f : Finding) : ValidationError :=
  match f.complaint with
  | .required key => ⟨pathOf f.pointer ++ [key], f.message⟩
  | _ => ⟨pathOf f.pointer, f.message⟩

end ValidationError

end ToolPlugins
