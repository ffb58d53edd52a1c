import ToolPlugins.Text.Ascii

/-!
Identifiers of task types. A tool name is free text; its identifier is a capital followed by letters
and digits, and the file name of an identifier is its snake case.
-/

namespace ToolPlugins.Identifier

/-- The word characters of a name, hyphens counting as underscores. -/
def wordChars (name : List Char) : List Char :=
  (name.map fun c => if c = '-' then '_' else c).filter Text.isWord

/-- The text without its first character if that is a digit. -/
def dropDigit : List Char → List Char
  | [] => []
  | c :: rest => if c.isDigit then rest else c :: rest

/-- The text without underscores, each character that follows one capitalised; `start` says whether
    the next character counts as one that does. -/
def pascal (start : Bool) : List Char → List Char
  | [] => []
  | c :: rest =>
    if c = '_' then pascal true rest
    else (if start then c.toUpper else c) :: pascal false rest

/-- The identifier of a name of which no word character is left. -/
def unnamed : List Char := ['U', 'n', 'n', 'a', 'm', 'e', 'd', 'T', 'o', 'o', 'l']

/-- What is put before a text that starts with a digit. -/
def digitLead : List Char := ['T', 'o', 'o', 'l']

/-- The identifier of a tool name. -/
def classifyChars (name : List Char) : List Char :=
  match pascal true (dropDigit (wordChars name)) with
  | [] => unnamed
  | c :: rest => if c.isDigit then digitLead ++ c :: rest else c :: rest

/-- A character of an identifier in snake case, where it is not the first. -/
def snakeChar (c : Char) : List Char := if c.isUpper then ['_', c.toLower] else [c]

/-- Small letters, with an underscore before every capital but the first character. -/
def snakeChars : List Char → List Char
  | [] => []
  | c :: rest => c.toLower :: rest.flatMap snakeChar

/-- Whether a text is a capital followed by letters and digits. -/
def isCanonicalChars : List Char → Bool
  | [] => false
  | c :: rest => c.isUpper && rest.all Char.isAlphanum

/-- The identifier of a tool name. -/
def classify (name : String) : String := String.ofList (classifyChars name.toList)

/-- The snake case of an identifier. -/
def snakeCase (identifier : String) : String := String.ofList (snakeChars identifier.toList)

/-- Whether a string is a capital followed by letters and digits. -/
def isCanonical (identifier : String) : Bool := isCanonicalChars identifier.toList

/-- A byte of a version in a type name: a letter or digit is kept, any other byte is an underscore
    and its two hexadecimal digits. -/
def versionByte (byte : UInt8) : List Char :=
  let c := Char.ofNat byte.toNat
  if c.isAlphanum then [c] else '_' :: Text.hexByte byte.toNat

/-- The type name of one version of an identifier. -/
def versionTypeName (identifier version : String) : String :=
  identifier ++ "V" ++ String.ofList ((Text.utf8Bytes version).flatMap versionByte)

end ToolPlugins.Identifier
