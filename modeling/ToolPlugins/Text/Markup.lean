/-!
Text in markup. The five characters that markup gives a meaning are written as entities.
-/

namespace ToolPlugins.Text

/-- The entity of a character, or the character itself. -/
def escapeMarkupChar (c : Char) : List Char :=
  if c = '&' then ['&', 'a', 'm', 'p', ';']
  else if c = '<' then ['&', 'l', 't', ';']
  else if c = '>' then ['&', 'g', 't', ';']
  else if c = '"' then ['&', 'q', 'u', 'o', 't', ';']
  else if c = '\x27' then ['&', '#', '3', '9', ';']
  else [c]

/-- A text with entities for the characters of markup. -/
def escapeMarkup (s : List Char) : List Char := s.flatMap escapeMarkupChar

/-- `escapeMarkup` on strings. -/
def escaped (s : String) : String := String.ofList (escapeMarkup s.toList)

end ToolPlugins.Text
