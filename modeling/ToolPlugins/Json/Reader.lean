import ToolPlugins.Json.Scan

/-!
The reader of whole JSON texts. Arrays and objects may stand in each other 127 deep. Of two fields
with one key the last wins.
-/

namespace ToolPlugins.Json

/-- The items of a list from the first one on, up to the closing bracket. `steps` bounds the number
    of items; each takes at least one character. -/
def readItems (item : Reader Json) : Nat → Reader (List Json)
  | 0 => fun s => .error (.here .endInList s)
  | steps + 1 => fun s => do
    let (value, rest) ← item s
    match skipSpace rest with
    | [] => .error (.here .endInList [])
    | c :: rest =>
      if c = ']' then .ok ([value], rest)
      else if c = ',' then
        match skipSpace rest with
        | [] => .error (.here .endInValue [])
        | d :: more =>
          if d = ']' then .error (.next .trailingComma (d :: more))
          else do
            let (values, rest) ← readItems item steps (d :: more)
            .ok (value :: values, rest)
      else .error (.next .expectedListEnd (c :: rest))

/-- A list after its opening bracket. -/
def readList (item : Reader Json) : Reader (List Json) := fun s =>
  match skipSpace s with
  | [] => .error (.here .endInList [])
  | c :: rest => if c = ']' then .ok ([], rest) else readItems item (c :: rest).length (c :: rest)

/-- The text after the colon between a key and its value. -/
def readColon (s : List Char) : Except Fault (List Char) :=
  match skipSpace s with
  | [] => .error (.here .endInObject [])
  | c :: rest => if c = ':' then .ok rest else .error (.next .expectedColon (c :: rest))

/-- A key, at the place where one has to stand. -/
def readKey : Reader String := fun s =>
  match s with
  | [] => .error (.here .endInValue [])
  | c :: rest =>
    if c = '"' then readString rest
    else if c = '\x7d' then .error (.next .trailingComma s)
    else .error (.next .keyNotString s)

/-- The fields of an object from the first one on, up to the closing brace. -/
def readFields (item : Reader Json) : Nat → Reader (List (String × Json))
  | 0 => fun s => .error (.here .endInObject s)
  | steps + 1 => fun s => do
    let (key, rest) ← readKey s
    let rest ← readColon rest
    let (value, rest) ← item rest
    match skipSpace rest with
    | [] => .error (.here .endInObject [])
    | c :: rest =>
      if c = '\x7d' then .ok ([(key, value)], rest)
      else if c = ',' then do
        let (fields, rest) ← readFields item steps (skipSpace rest)
        .ok ((key, value) :: fields, rest)
      else .error (.next .expectedObjectEnd (c :: rest))

/-- An object after its opening brace. -/
def readObject (item : Reader Json) : Reader (List (String × Json)) := fun s =>
  match skipSpace s with
  | [] => .error (.here .endInObject [])
  | c :: rest => if c = '\x7d' then .ok ([], rest) else readFields item (c :: rest).length (c :: rest)

/-- A value that is neither array nor object, or the fault of a text that starts no value. -/
def readScalar : Reader Json := fun s =>
  match s with
  | [] => .error (.here .endInValue [])
  | c :: rest =>
    if c = 'n' then (readWord ['u', 'l', 'l'] rest).map fun rest => (.null, rest)
    else if c = 't' then (readWord ['r', 'u', 'e'] rest).map fun rest => (.bool true, rest)
    else if c = 'f' then (readWord ['a', 'l', 's', 'e'] rest).map fun rest => (.bool false, rest)
    else if c = '-' then (readNumber true rest).map fun (n, rest) => (.number n, rest)
    else if c.isDigit then (readNumber false s).map fun (n, rest) => (.number n, rest)
    else if c = '"' then (readString rest).map fun (text, rest) => (.string text, rest)
    else .error (.next .expectedValue s)

/-- A value in which arrays and objects stand at most `depth` deep, after blanks. -/
def readValue : Nat → Reader Json
  | 0 => fun s =>
    match skipSpace s with
    | '[' :: rest => .error (.next .tooDeep ('[' :: rest))
    | '\x7b' :: rest => .error (.next .tooDeep ('\x7b' :: rest))
    | rest => readScalar rest
  | depth + 1 => fun s =>
    match skipSpace s with
    | '[' :: rest => (readList (readValue depth) rest).map fun (items, rest) => (.array items, rest)
    | '\x7b' :: rest =>
      (readObject (readValue depth) rest).map fun (fields, rest) => (ofFields fields, rest)
    | rest => readScalar rest

/-- How deep arrays and objects may stand in each other. -/
def maxDepth : Nat := 127

/-- The rest of a text has to be blank. -/
def readEnd (s : List Char) : Except Fault Unit :=
  match skipSpace s with
  | [] => .ok ()
  | rest => .error (.next .trailingCharacters rest)

/-- The value of a text that holds one value and blanks. -/
def readText (s : List Char) : Except Fault Json := do
  let (value, rest) ← readValue maxDepth s
  readEnd rest
  return value

/-- The items of a text that holds one array and nothing else. -/
def readArray (s : List Char) : Except Fault (List Json) :=
  match s with
  | '[' :: rest => do
    let (items, rest) ← readList (readValue (maxDepth - 1)) rest
    readEnd rest
    return items
  | _ => .error (.next .expectedValue s)

/-- The value of a JSON text, or what is wrong with it and where. -/
def parse (text : String) : Except String Json :=
  (readText text.toList).mapError fun fault => fault.message text.toList

end ToolPlugins.Json
