import ToolPlugins.Json.Compare
import ToolPlugins.Json.Pointer
import ToolPlugins.Schema.Complaint
import ToolPlugins.Schema.Pattern

/-!
Checks: what a schema asks of a value. A check looks at values of one kind and lets the others pass.
Its complaints name the path from the value it is given to the value that is wrong.
-/

namespace ToolPlugins

/-- One thing that a schema asks for. -/
inductive Check where
  | refuse
  | bare
  | closed (keys : List String)
  | constant (value : Json)
  | choice (values : List Json)
  | exclusiveMaximum (limit : Json.Number)
  | exclusiveMinimum (limit : Json.Number)
  | items (checks : List Check)
  | itemAt (index : Nat) (checks : List Check)
  | maximum (limit : Json.Number)
  | minimum (limit : Json.Number)
  | maxItems (limit : Nat)
  | minItems (limit : Nat)
  | maxLength (limit : Nat)
  | minLength (limit : Nat)
  | maxProperties (limit : Nat)
  | minProperties (limit : Nat)
  | pattern (source : String) (test? : Option PatternTest)
  | property (key : String) (checks : List Check)
  | required (key : String)
  | type (type : JsonType)
  | types (types : List JsonType)

/-- A complaint with the value it is about and the path that leads to this value. -/
structure Finding where
  path : List String
  value : Json
  complaint : Complaint
  deriving Repr

namespace Finding

/-- A finding, seen from one step further up. -/
def under (key : String) (f : Finding) : Finding := { f with path := key :: f.path }

/-- The escaped pointer to the value that a finding is about. -/
def pointer (f : Finding) : List Char := Json.Pointer.encode (f.path.map String.toList)

def message (f : Finding) : String := f.complaint.message f.value

end Finding

/-- Whether a value is of a type. An integer may be written with a fraction of zero. -/
def JsonType.holds (t : JsonType) (value : Json) : Bool :=
  match t, value with
  | .array, .array _ => true
  | .boolean, .bool _ => true
  | .integer, .number n => n.isWhole
  | .null, .null => true
  | .number, .number _ => true
  | .object, .object _ => true
  | .string, .string _ => true
  | _, _ => false

/-- Whether a value is of a type of a list, in which an integer is a number without a fraction. -/
def JsonType.holdsInList (t : JsonType) (value : Json) : Bool :=
  match t, value with
  | .integer, .number (.integer _) => true
  | .integer, .number (.real _) => false
  | t, value => t.holds value

namespace Check

/-- A complaint about the value itself, unless a condition holds. -/
def demand (value : Json) (complaint : Complaint) (ok : Bool) : List Finding :=
  if ok then [] else [⟨[], value, complaint⟩]

/-- A demand on the text of a string. -/
def demandText (value : Json) (complaint : Complaint) (ok : List Char → Bool) : List Finding :=
  match value with
  | .string s => demand value complaint (ok s.toList)
  | _ => []

/-- The demand of a pattern on the text of a string. One that cannot be read asks for nothing. -/
def demandPattern (source : String) (test? : Option PatternTest) (value : Json) : List Finding :=
  match value, test? with
  | .string s, some test =>
    match test s.toList with
    | .ok matched => demand value (.noMatch source) matched
    | .error reason => [⟨[], value, .undecided reason⟩]
  | _, _ => []

/-- A demand on a number. -/
def demandNumber (value : Json) (complaint : Complaint) (ok : Json.Number → Bool) : List Finding :=
  match value with
  | .number n => demand value complaint (ok n)
  | _ => []

/-- A demand on the number of items of an array. -/
def demandItems (value : Json) (complaint : Complaint) (ok : Nat → Bool) : List Finding :=
  match value with
  | .array values => demand value complaint (ok values.length)
  | _ => []

/-- A demand on the fields of an object. -/
def demandFields (value : Json) (complaint : Complaint) (ok : Json.Fields → Bool) : List Finding :=
  match value with
  | .object fields => demand value complaint (ok fields)
  | _ => []

/-- What a check of items finds in each item of an array. -/
def eachItem (find : Json → List Finding) (value : Json) : List Finding :=
  match value with
  | .array values =>
    (values.mapIdx fun i item => (find item).map (Finding.under (toString i))).flatten
  | _ => []

/-- What a check of an item finds in the item at an index of an array. -/
def inItem (index : Nat) (find : Json → List Finding) (value : Json) : List Finding :=
  match value with
  | .array values =>
    match values[index]? with
    | some item => (find item).map (Finding.under (toString index))
    | none => []
  | _ => []

/-- What a check of a property finds in the field of an object. -/
def inField (key : String) (find : Json → List Finding) (value : Json) : List Finding :=
  match value.get? key with
  | some field => (find field).map (Finding.under key)
  | none => []

/-- The complaint about the fields of an object whose keys are not listed. -/
def demandClosed (keys : List String) (value : Json) : List Finding :=
  match value with
  | .object fields =>
    let others := (fields.map (·.1)).filter fun key => !keys.contains key
    demand value (.unexpected others) others.isEmpty
  | _ => []

/-- The complaint about an object that has a field: its first value is refused. -/
def demandBare (value : Json) : List Finding :=
  match value with
  | .object ((_, field) :: _) => [⟨[], field, .refused⟩]
  | _ => []

mutual

/-- What a check finds wrong with a value. -/
def run : Check → Json → List Finding
  | refuse, v => demand v .refused false
  | bare, v => demandBare v
  | closed keys, v => demandClosed keys v
  | constant expected, v => demand v (.notConstant expected) (expected.equals v)
  | choice values, v => demand v (.notChoice values) (values.any fun c => c.same v)
  | exclusiveMaximum limit, v => demandNumber v (.notBelow limit) fun n => n.lt limit
  | exclusiveMinimum limit, v => demandNumber v (.notAbove limit) fun n => limit.lt n
  | items checks, v => eachItem (runAll checks) v
  | itemAt index checks, v => inItem index (runAll checks) v
  | maximum limit, v => demandNumber v (.above limit) fun n => !limit.lt n
  | minimum limit, v => demandNumber v (.below limit) fun n => !n.lt limit
  | maxItems n, v => demandItems v (.manyItems n) fun count => count ≤ n
  | minItems n, v => demandItems v (.fewItems n) fun count => n ≤ count
  | maxLength n, v => demandText v (.tooLong n) fun s => s.length ≤ n
  | minLength n, v => demandText v (.tooShort n) fun s => n ≤ s.length
  | maxProperties n, v => demandFields v (.manyProperties n) fun fields => fields.length ≤ n
  | minProperties n, v => demandFields v (.fewProperties n) fun fields => n ≤ fields.length
  | pattern source test?, v => demandPattern source test? v
  | property key checks, v => inField key (runAll checks) v
  | required key, v => demandFields v (.required key) fun fields => (fields.get? key).isSome
  | type t, v => demand v (.notType t) (t.holds v)
  | types ts, v => demand v (.notTypes ts) (ts.any fun t => t.holdsInList v)

/-- What the checks of a list find wrong with a value, check by check. -/
def runAll : List Check → Json → List Finding
  | [], _ => []
  | check :: rest, v => run check v ++ runAll rest v

end

mutual

/-- The pattern of a check that cannot be read. Such a check asks for nothing. -/
def unreadable? : Check → Option String
  | pattern source none => some source
  | items checks => firstUnreadable? checks
  | itemAt _ checks => firstUnreadable? checks
  | property _ checks => firstUnreadable? checks
  | _ => none

/-- The first pattern of a list of checks that cannot be read. -/
def firstUnreadable? : List Check → Option String
  | [] => none
  | check :: rest => (unreadable? check).or (firstUnreadable? rest)

end

end Check

end ToolPlugins
