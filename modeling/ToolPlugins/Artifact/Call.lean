/-!
Calls in columns. The arguments of a call are separated by commas; each but the last is padded with
its comma to the width of its column, so that the calls of a table line up.
-/

namespace ToolPlugins.Call

/-- A text padded with spaces to a width. -/
def pad (s : List Char) (width : Nat) : List Char := s ++ List.replicate (width - s.length) ' '

/-- The arguments of a call, each but the last with its comma and padded. A column without a width has
    width zero. -/
def cells : List (List Char) → List Nat → List Char
  | [], _ => []
  | [arg], _ => arg
  | arg :: rest, widths => pad (arg ++ [',']) (widths.headD 0 + 1) ++ ' ' :: cells rest widths.tail

/-- A call with its arguments in columns of the given widths. -/
def formatChars (name : List Char) (args : List (List Char)) (widths : List Nat) : List Char :=
  name ++ '(' :: cells args widths ++ [')']

/-- Column by column the greater of two widths. -/
def widest : List Nat → List Nat → List Nat
  | [], ys => ys
  | xs, [] => xs
  | x :: xs, y :: ys => max x y :: widest xs ys

/-- The width of each column of a table. -/
def columnWidths (rows : List (List (List Char))) : List Nat :=
  rows.foldr (fun row widths => widest (row.map List.length) widths) []

/-- A call for each row of a table, with its columns aligned. -/
def alignedChars (name : List Char) (rows : List (List (List Char))) : List (List Char) :=
  rows.map fun row => formatChars name row (columnWidths rows)

/-- `formatChars` on strings. -/
def format (name : String) (args : List String) (widths : List Nat) : String :=
  String.ofList (formatChars name.toList (args.map String.toList) widths)

/-- `alignedChars` on strings. -/
def aligned (name : String) (rows : List (List String)) : List String :=
  (alignedChars name.toList (rows.map (·.map String.toList))).map String.ofList

end ToolPlugins.Call
