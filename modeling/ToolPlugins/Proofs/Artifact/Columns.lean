import Mathlib
import ToolPlugins.Artifact.Call

/-!
The calls of a table line up: in every call that has an argument in a column, the argument starts at the same offset, and
no column is wider than its widest argument needs.
-/

namespace ToolPlugins.Call

/-- Arguments with a comma and a gap of spaces after each. -/
def begun (gap : Nat → Nat) : List (List Char) → List Char
  | [] => []
  | arg :: rest => arg ++ ',' :: (List.replicate (gap 0) ' ' ++ begun (fun j => gap (j + 1)) rest)

/-- The spaces after an argument and its comma, in columns of the given widths. -/
def gapOf (args : List (List Char)) (widths : List Nat) (j : Nat) : Nat :=
  widths.getD j 0 - (args.getD j []).length + 1

/-- Where a column starts, counted from the first one: each column before it takes its width, a comma and a space. -/
def columnOffset : List Nat → Nat → Nat
  | _, 0 => 0
  | widths, j + 1 => widths.headD 0 + 2 + columnOffset widths.tail j

/-! ### The widths of the columns -/

theorem getD_widest (xs ys : List Nat) (j : Nat) : (widest xs ys).getD j 0 = max (xs.getD j 0) (ys.getD j 0) := by
  induction xs, ys using widest.induct generalizing j with
  | case1 ys => simp [widest]
  | case2 xs h => simp [widest]
  | case3 x xs y ys ih =>
    cases j with
    | zero => simp [widest]
    | succ j => simpa [widest] using ih j

/-- A column is no wider than its arguments are. -/
theorem columnWidth_le_iff (rows : List (List (List Char))) (j n : Nat) :
    (columnWidths rows).getD j 0 ≤ n ↔ ∀ row ∈ rows, (row.getD j []).length ≤ n := by
  induction rows with
  | nil => simp [columnWidths]
  | cons row rows ih =>
    have hmap : (row.map List.length).getD j 0 = (row.getD j []).length := List.getD_map row [] List.length
    have hcons : columnWidths (row :: rows) = widest (row.map List.length) (columnWidths rows) := rfl
    rw [hcons, getD_widest, max_le_iff, ih, List.forall_mem_cons, hmap]

/-! ### One call -/

theorem gapOf_cons (arg : List Char) (rest : List (List Char)) (widths : List Nat) :
    (fun j => gapOf (arg :: rest) widths (j + 1)) = gapOf rest widths.tail := by
  funext j
  cases widths <;> simp [gapOf]

theorem cells_eq (args : List (List Char)) (widths : List Nat) :
    cells args widths = begun (gapOf args widths) args.dropLast ++ args.getLast?.getD [] := by
  induction args generalizing widths with
  | nil => rfl
  | cons arg rest ih =>
    cases rest with
    | nil => simp [cells, begun]
    | cons next rest =>
      have hspaces : widths.headD 0 + 1 - (arg ++ [',']).length + 1 = gapOf (arg :: next :: rest) widths 0 := by
        cases widths <;> simp [gapOf]
      rw [cells, ih, pad, List.dropLast_cons_cons, begun, gapOf_cons, ← hspaces, List.replicate_succ']
      · simp
      · simp

/-- An argument of a call, with what stands before it. -/
theorem exists_cells_eq {args : List (List Char)} {j : Nat} {arg : List Char} (h : args[j]? = some arg)
    (widths : List Nat) : ∃ back, cells args widths = begun (gapOf args widths) (args.take j) ++ (arg ++ back) := by
  rw [cells_eq]
  induction args generalizing j widths with
  | nil => cases h
  | cons first rest ih =>
    cases rest with
    | nil =>
      obtain ⟨rfl, hj⟩ : j = 0 ∧ first = arg := by
        cases j with
        | zero => exact ⟨rfl, Option.some.inj h⟩
        | succ j => cases h
      exact ⟨[], by simp [begun, hj]⟩
    | cons next rest =>
      cases j with
      | zero =>
        cases h
        exact ⟨_, List.append_assoc arg _ _⟩
      | succ j =>
        obtain ⟨back, hback⟩ := ih h widths.tail
        refine ⟨back, ?_⟩
        rw [List.dropLast_cons_cons, List.take_succ_cons, begun, begun, gapOf_cons, List.getLast?_cons_cons]
        simp only [List.append_assoc, List.cons_append, hback]

/-- In columns that are wide enough, what stands before an argument depends on its column only. -/
theorem length_begun {args : List (List Char)} {widths : List Nat}
    (h : ∀ j, (args.getD j []).length ≤ widths.getD j 0) {j : Nat} (hj : j ≤ args.length) :
    (begun (gapOf args widths) (args.take j)).length = columnOffset widths j := by
  induction args generalizing j widths with
  | nil =>
    obtain rfl := Nat.le_zero.mp hj
    rfl
  | cons arg rest ih =>
    cases j with
    | zero => rfl
    | succ j =>
      have hfirst : arg.length ≤ widths.headD 0 := by
        have h0 := h 0
        cases widths <;> simpa using h0
      have hrest : ∀ k, (rest.getD k []).length ≤ widths.tail.getD k 0 := by
        intro k
        have hk := h (k + 1)
        cases widths <;> simpa using hk
      have hgap : gapOf (arg :: rest) widths 0 = widths.headD 0 - arg.length + 1 := by cases widths <;> simp [gapOf]
      rw [List.take_succ_cons, begun, gapOf_cons, columnOffset, hgap]
      simp only [List.length_append, List.length_cons, List.length_replicate, ih hrest (Nat.le_of_succ_le_succ hj)]
      omega

/-! ### All calls -/

/-- A call as it stands in a table: what the line is made of, and where its arguments start. -/
structure InColumns (name : List Char) (gap offset : Nat → Nat) (args : List (List Char)) (line : List Char) : Prop where
  eq : line = name ++ '(' :: (begun gap args.dropLast ++ args.getLast?.getD []) ++ [')']
  spaced : ∀ j, 1 ≤ gap j
  starts : ∀ j arg, args[j]? = some arg → ∃ front back, line = front ++ arg ++ back ∧
    front = name ++ '(' :: begun gap (args.take j) ∧ front.length = offset j

theorem inColumns_alignedChars (name : List Char) {rows : List (List (List Char))} {row : List (List Char)}
    (h : row ∈ rows) :
    InColumns name (gapOf row (columnWidths rows)) (fun j => name.length + 1 + columnOffset (columnWidths rows) j) row
      (formatChars name row (columnWidths rows)) where
  eq := by rw [formatChars, cells_eq]
  spaced _ := Nat.le_add_left 1 _
  starts j arg harg := by
    obtain ⟨back, hback⟩ := exists_cells_eq harg (columnWidths rows)
    have hwide : ∀ j, (row.getD j []).length ≤ (columnWidths rows).getD j 0 :=
      fun j => (columnWidth_le_iff rows j _).mp le_rfl row h
    have hj : j ≤ row.length := (List.getElem?_eq_some_iff.mp harg).1.le
    refine ⟨_, back ++ [')'], ?_, rfl, ?_⟩
    · rw [formatChars, hback]
      simp
    · rw [List.length_append, List.length_cons, length_begun hwide hj]
      omega

/-- The calls of a table line up. There is one call for each row, in order; it is the name and, in parentheses, the
    arguments, each but the last with its comma and at least one space. Arguments in one column start at one offset, and
    after an argument that is the widest of its column there is a single space. -/
theorem aligned_inColumns (name : String) (rows : List (List String)) :
    ∃ (gap : Nat → Nat → Nat) (offset : Nat → Nat), (aligned name rows).length = rows.length ∧
      ∀ i row line, rows[i]? = some row → (aligned name rows)[i]? = some line →
        InColumns name.toList (gap i) offset (row.map String.toList) line.toList ∧
          ∀ j arg, row[j]? = some arg →
            (∀ other ∈ rows, ∀ arg', other[j]? = some arg' → arg'.length ≤ arg.length) → gap i j = 1 := by
  let table := rows.map (·.map String.toList)
  let widths := columnWidths table
  refine ⟨fun i => gapOf (table.getD i []) widths, fun j => name.toList.length + 1 + columnOffset widths j, ?_, ?_⟩
  · simp [aligned, alignedChars]
  intro i row line hrow hline
  have htable : table[i]? = some (row.map String.toList) := by rw [List.getElem?_map, hrow, Option.map_some]
  have hget : table.getD i [] = row.map String.toList := by rw [List.getD_eq_getElem?_getD, htable, Option.getD_some]
  obtain rfl : line = String.ofList (formatChars name.toList (row.map String.toList) widths) := by
    rw [aligned, alignedChars, List.getElem?_map, List.getElem?_map, htable] at hline
    exact (Option.some.inj hline).symm
  rw [String.toList_ofList]
  dsimp only
  rw [hget]
  refine ⟨inColumns_alignedChars name.toList (List.mem_of_getElem? htable), fun j arg harg hwidest => ?_⟩
  have hlength : ((row.map String.toList).getD j []).length = arg.length := by
    rw [List.getD_eq_getElem?_getD, List.getElem?_map, harg, Option.map_some, Option.getD_some, String.length_toList]
  have hwidth : widths.getD j 0 ≤ arg.length := by
    refine (columnWidth_le_iff table j _).mpr fun other hother => ?_
    obtain ⟨cells, hcells, rfl⟩ := List.mem_map.mp hother
    rw [List.getD_eq_getElem?_getD, List.getElem?_map]
    cases harg' : cells[j]? with
    | none => exact Nat.zero_le _
    | some arg' =>
      rw [Option.map_some, Option.getD_some, String.length_toList]
      exact hwidest cells hcells arg' harg'
  rw [gapOf, hlength, Nat.sub_eq_zero_of_le hwidth]

end ToolPlugins.Call
