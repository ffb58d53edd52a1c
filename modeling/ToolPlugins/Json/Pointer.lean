/-!
Pointers into a document: a slash before every segment. In an escaped pointer a tilde is written `~0`
and a slash `~1`, so that the segments can be told apart.
-/

namespace ToolPlugins.Json.Pointer

/-- A character of a segment in an escaped pointer. -/
def escapeChar (c : Char) : List Char :=
  if c = '~' then ['~', '0'] else if c = '/' then ['~', '1'] else [c]

/-- A segment in an escaped pointer. -/
def escape (segment : List Char) : List Char := segment.flatMap escapeChar

/-- The escaped pointer of a list of segments. -/
def encode (segments : List (List Char)) : List Char :=
  segments.flatMap fun segment => '/' :: escape segment

/-- A text with every `~` and `digit` in a row replaced by `c`, from left to right. -/
def replaceTilde (digit c : Char) : List Char → List Char
  | '~' :: d :: rest =>
    if d = digit then c :: replaceTilde digit c rest else '~' :: replaceTilde digit c (d :: rest)
  | d :: rest => d :: replaceTilde digit c rest
  | [] => []

/-- A segment without its escapes: `~1` is read first, so that `~01` stands for `~1`. -/
def unescape (segment : List Char) : List Char :=
  replaceTilde '0' '~' (replaceTilde '1' '/' segment)

/-- A segment without its escapes, read from left to right: a tilde that starts no escape stands for
    itself, and so does the character after it. -/
def unescapeInOrder : List Char → List Char
  | '~' :: d :: rest =>
    if d = '0' then '~' :: unescapeInOrder rest
    else if d = '1' then '/' :: unescapeInOrder rest
    else '~' :: d :: unescapeInOrder rest
  | d :: rest => d :: unescapeInOrder rest
  | [] => []

/-- The segments of an escaped pointer. What stands before the first slash is no segment. -/
def split (pointer : List Char) : List (List Char) :=
  ((pointer.splitOn '/').drop 1).map unescape

end ToolPlugins.Json.Pointer
