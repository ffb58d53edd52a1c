import ToolPlugins.Schema.Regex.Reader

/-!
Patterns: expressions that a text has to match. How an expression is read and matched is a parameter of
everything that reads schemas; the readers of expressions differ in what they know, and some give up a
match that takes too long.
-/

namespace ToolPlugins

/-- What a pattern says of a text: whether it matches, or why this is not decided. -/
abbrev PatternTest := List Char → Except String Bool

/-- The test of each pattern that can be read. -/
abbrev PatternReader := String → Option PatternTest

def Regex.test (r : Regex) : PatternTest := fun s => .ok (r.search s)

/-- The reader of regular expressions, which always decides. It refuses expressions that look around or
    back to a group. -/
def PatternReader.regular : PatternReader := fun source => (Regex.parse? source).map Regex.test

end ToolPlugins
