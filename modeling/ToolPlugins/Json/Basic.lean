/-!
JSON values. An object is a list of fields in the order of their keys, each key once; `Json.ofFields`
builds one from fields in any order, the last value of a key winning. Characters compare by code
point, so keys compare as their UTF-8 bytes do.
-/

namespace ToolPlugins

/-- A JSON number: an integer written without fraction and exponent, or a double. -/
inductive Json.Number where
  | integer (value : Int)
  | real (value : Float)
  deriving Repr

/-- A JSON value. -/
inductive Json where
  | null
  | bool (value : Bool)
  | number (value : Json.Number)
  | string (value : String)
  | array (items : List Json)
  | object (fields : List (String × Json))
  deriving Repr, Inhabited

namespace Json

/-- The fields of an object. -/
abbrev Fields := List (String × Json)

def Fields.get? (fields : Fields) (key : String) : Option Json :=
  match fields with
  | [] => none
  | (k, v) :: rest => if k = key then some v else Fields.get? rest key

/-- The fields with `value` under `key`, at the key's place in the order. -/
def Fields.insert (fields : Fields) (key : String) (value : Json) : Fields :=
  match fields with
  | [] => [(key, value)]
  | (k, v) :: rest =>
    if k = key then (key, value) :: rest
    else if key < k then (key, value) :: (k, v) :: rest
    else (k, v) :: Fields.insert rest key value

/-- The object of the fields, a later value of a key replacing an earlier one. -/
def ofFields (fields : List (String × Json)) : Json :=
  .object (fields.foldl (fun acc f => Fields.insert acc f.1 f.2) [])

def int (n : Int) : Json := .number (.integer n)

/-- An optional value, null where absent. -/
def ofOption : Option Json → Json
  | none => .null
  | some value => value

/-- An optional string, null where absent. -/
def ofString? (s : Option String) : Json := ofOption (s.map .string)

/-- The value of a field of an object. -/
def get? (key : String) : Json → Option Json
  | .object fields => Fields.get? fields key
  | _ => none

def string? : Json → Option String
  | .string s => some s
  | _ => none

def bool? : Json → Option Bool
  | .bool b => some b
  | _ => none

def array? : Json → Option (List Json)
  | .array items => some items
  | _ => none

/-- What a value is, in words. -/
def kind : Json → String
  | .null => "null"
  | .bool _ => "a boolean"
  | .number _ => "a number"
  | .string _ => "a string"
  | .array _ => "an array"
  | .object _ => "an object"

theorem Fields.get?_insert (fields : Fields) (key other : String) (value : Json) :
    (Fields.insert fields key value).get? other =
      if other = key then some value else Fields.get? fields other := by
  induction fields with
  | nil =>
    by_cases h : other = key
    · simp [Fields.insert, Fields.get?, h]
    · simp [Fields.insert, Fields.get?, h, Ne.symm h]
  | cons f rest ih =>
    obtain ⟨k, v⟩ := f
    simp only [Fields.insert]
    split
    · next h =>
      subst h
      by_cases ho : other = k
      · simp [Fields.get?, ho]
      · simp [Fields.get?, ho, Ne.symm ho]
    · next h =>
      split
      · by_cases ho : other = key
        · simp [Fields.get?, ho]
        · simp [Fields.get?, ho, Ne.symm ho]
      · by_cases ho : k = other
        · subst ho
          simp [Fields.get?, h]
        · simp [Fields.get?, ho, ih]

end Json

end ToolPlugins
