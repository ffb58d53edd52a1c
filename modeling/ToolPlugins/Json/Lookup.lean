import ToolPlugins.Json.Basic
import ToolPlugins.Json.Pointer
import ToolPlugins.Text.Ascii

/-!
Nested look-up. In a dotted path each segment is a key of an object or a decimal index of an array. A
pointer from one part of a document into another leads to a part that is smaller.
-/

namespace ToolPlugins.Json

/-- The index that a segment writes: decimal digits, with a plus sign allowed before them, of a number
    below `2 ^ 64`. -/
def index? (segment : List Char) : Option Nat :=
  let digits := match segment with
    | '+' :: rest => rest
    | rest => rest
  if digits.isEmpty || !digits.all Char.isDigit then none
  else
    let n := Text.decimalValue digits
    if n < Nat.pow 2 64 then some n else none

/-- The value one segment further. -/
def step? (value : Json) (segment : String) : Option Json :=
  match value with
  | .object fields => Fields.get? fields segment
  | .array items => (index? segment.toList).bind fun i => items[i]?
  | _ => none

/-- The value that segments lead to, one after the other. -/
def follow? (value : Json) : List String → Option Json
  | [] => some value
  | segment :: rest => (value.step? segment).bind fun next => next.follow? rest

/-- The segments of a dotted path. -/
def dotted (path : String) : List String := (path.toList.splitOn '.').map String.ofList

/-! ### Pointers into a value -/

theorem Fields.sizeOf_get? {fields : Fields} {key : String} {value : Json} :
    fields.get? key = some value → sizeOf value < sizeOf fields := by
  induction fields with
  | nil => simp [Fields.get?]
  | cons f rest ih =>
    obtain ⟨k, v⟩ := f
    simp only [Fields.get?]
    split
    · intro h
      cases h
      simp
      omega
    · intro h
      have := ih h
      simp
      omega

/-- The index that a segment of a pointer writes: without a plus sign and without needless zeros. -/
def bareIndex? (segment : List Char) : Option Nat :=
  if segment.head? == some '+' || (segment.head? == some '0' && segment.length ≠ 1) then none
  else index? segment

/-- The value one segment of a pointer further. -/
def part? (value : Json) (segment : List Char) : Option Json :=
  match value with
  | .object fields => Fields.get? fields (String.ofList segment)
  | .array items => (bareIndex? segment).bind fun i => items[i]?
  | _ => none

theorem sizeOf_part? {value part : Json} {segment : List Char} (h : value.part? segment = some part) :
    sizeOf part < sizeOf value := by
  cases value with
  | object fields =>
    have := Fields.sizeOf_get? h
    simp
    omega
  | array items =>
    obtain ⟨i, _, hi⟩ := Option.bind_eq_some_iff.1 h
    have := List.sizeOf_lt_of_mem (List.mem_of_getElem? hi)
    simp
    omega
  | _ => simp [part?] at h

/-- The value that the segments of a pointer lead to, if there are any. -/
def pointed? (value : Json) : List (List Char) → Option Json
  | [] => none
  | [segment] => value.part? segment
  | segment :: rest => (value.part? segment).bind fun part => part.pointed? rest

theorem sizeOf_pointed? {value part : Json} {segments : List (List Char)} :
    value.pointed? segments = some part → sizeOf part < sizeOf value := by
  induction segments generalizing value with
  | nil => simp [pointed?]
  | cons segment rest ih =>
    cases rest with
    | nil => exact sizeOf_part?
    | cons next rest =>
      intro h
      obtain ⟨inner, hi, hp⟩ := Option.bind_eq_some_iff.1 h
      have := sizeOf_part? hi
      have := ih hp
      omega

/-- The value inside a value that the text of a pointer leads to; the text starts with a slash. -/
def inside? (value : Json) (pointer : List Char) : Option Json :=
  match pointer with
  | '/' :: rest => value.pointed? ((rest.splitOn '/').map Pointer.unescapeInOrder)
  | _ => none

theorem sizeOf_inside? {value part : Json} {pointer : List Char} (h : value.inside? pointer = some part) :
    sizeOf part < sizeOf value := by
  unfold inside? at h
  split at h
  · exact sizeOf_pointed? h
  · cases h

end ToolPlugins.Json
