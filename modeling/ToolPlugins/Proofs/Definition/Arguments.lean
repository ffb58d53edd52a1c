import Mathlib
import ToolPlugins.Artifact.Call
import ToolPlugins.Definition.Reader
import ToolPlugins.Proofs.Json.Lists
import ToolPlugins.Proofs.Result

/-!
The arguments of a call in columns, read back: the padding between them is passed over, whatever the
widths of the columns are.
-/

namespace ToolPlugins

namespace Call

/-- The text of values as arguments in parentheses. -/
def argumentText (values : List Json) (widths : List Nat) : List Char :=
  '(' :: cells (values.map Json.render) widths ++ [')']

theorem cells_cons_cons (arg next : List Char) (rest : List (List Char)) (widths : List Nat) :
    ∃ k, cells (arg :: next :: rest) widths =
      arg ++ ',' :: (List.replicate k ' ' ++ cells (next :: rest) widths.tail) := by
  refine ⟨widths.headD 0 + 1 - (arg ++ [',']).length + 1, ?_⟩
  rw [cells, pad, List.replicate_succ']
  · simp
  · simp

theorem cells_eq_append (arg : List Char) (rest : List (List Char)) (widths : List Nat) :
    ∃ more, cells (arg :: rest) widths = arg ++ more := by
  cases rest with
  | nil => exact ⟨[], (List.append_nil arg).symm⟩
  | cons next rest =>
    obtain ⟨k, hk⟩ := cells_cons_cons arg next rest widths
    exact ⟨_, hk⟩

theorem length_le_length_cells (values : List Json) (widths : List Nat) :
    values.length ≤ (cells (values.map Json.render) widths).length := by
  induction values generalizing widths with
  | nil => exact Nat.zero_le _
  | cons v rest ih =>
    obtain ⟨c, more, hv, -⟩ := Json.render_eq_cons v
    cases rest with
    | nil => simp [cells, hv]
    | cons w rest =>
      obtain ⟨k, hk⟩ := cells_cons_cons v.render w.render (rest.map Json.render) widths
      have hrest := ih widths.tail
      rw [List.map_cons] at hrest
      rw [List.map_cons, List.map_cons, hk, hv]
      simp only [List.length_cons, List.length_append, List.length_replicate] at hrest ⊢
      omega

theorem noControl_cells {args : List (List Char)} (h : ∀ arg ∈ args, Text.NoControl arg) (widths : List Nat) :
    Text.NoControl (cells args widths) := by
  induction args generalizing widths with
  | nil => exact Text.noControl_nil
  | cons arg rest ih =>
    cases rest with
    | nil => exact h arg (by simp)
    | cons next rest =>
      obtain ⟨k, hk⟩ := cells_cons_cons arg next rest widths
      have harg := h arg (by simp)
      have hrest := ih (fun arg harg => h arg (List.mem_cons_of_mem _ harg)) widths.tail
      have hspaces : Text.NoControl (List.replicate k ' ') := by
        intro c hc
        rw [List.eq_of_mem_replicate hc]
        decide
      rw [hk]
      simp [harg, hrest, hspaces]

end Call

namespace Json

/-! ### Items -/

theorem skipSpace_replicate (k : Nat) (s : List Char) : skipSpace (List.replicate k ' ' ++ s) = skipSpace s := by
  refine skipSpace_append (fun c hc => ?_) s
  rw [List.eq_of_mem_replicate hc]
  rfl

theorem readItems_eq_cons {item : Reader Json} {s rest : List Char} {steps : Nat} {values : List Json}
    (h : readItems item steps s = .ok (values, rest)) :
    ∃ v more others, item s = .ok (v, more) ∧ values = v :: others := by
  obtain ⟨v, more, hitem, ⟨rfl, -⟩ | ⟨others, after, steps', rfl, -, -⟩⟩ := readItems_cases h
  · exact ⟨v, more, [], hitem, rfl⟩
  · exact ⟨v, more, others, hitem, rfl⟩

/-- Literals in columns are read one by one; what follows them is read as it is without them. -/
theorem readItems_cells (depth : Nat) {literals : List Json} (hl : ∀ v ∈ literals, IsLiteral v) (last : Json)
    (widths : List Nat) (steps : Nat) (tail : List Char) :
    readItems (readValue depth) (literals.length + steps)
        (Call.cells ((literals ++ [last]).map render) widths ++ tail) =
      (readItems (readValue depth) steps (render last ++ tail)).map fun (values, rest) =>
        (literals ++ values, rest) := by
  induction literals generalizing widths with
  | nil =>
    simp only [List.length_nil, Nat.zero_add, List.nil_append, List.map_cons, List.map_nil, Call.cells]
    cases readItems (readValue depth) steps (render last ++ tail) with
    | error e => rfl
    | ok r => rfl
  | cons v literals ih =>
    obtain ⟨next, others, hnext⟩ : ∃ next others, literals ++ [last] = next :: others :=
      List.exists_cons_of_ne_nil (by simp)
    obtain ⟨k, hk⟩ := Call.cells_cons_cons v.render next.render (others.map render) widths
    obtain ⟨more, hmore⟩ := Call.cells_eq_append next.render (others.map render) widths.tail
    obtain ⟨c, body, hrender, hlead⟩ := render_eq_cons next
    have hne : c ≠ ']' := by
      rintro rfl
      exact not_leads_bracket next hlead
    have hrest := ih (fun v hv => hl v (List.mem_cons_of_mem _ hv)) widths.tail
    rw [hnext, List.map_cons, hmore, hrender, List.cons_append, List.cons_append] at hrest
    rw [List.cons_append, hnext, List.map_cons, List.map_cons, hk, hmore, hrender]
    have hitem := readValue_of_literal depth (hl v List.mem_cons_self)
      (',' :: (List.replicate k ' ' ++ (c :: (body ++ more ++ tail))))
    have hspace := isSpace_of_isBlank (isBlank_of_leads hlead)
    have hstep := readItems_comma hitem (skipSpace_cons (by decide) _)
      ((skipSpace_replicate k _).trans (skipSpace_cons hspace _)) hne (literals.length + steps)
    simp only [List.length_cons, Nat.add_right_comm _ 1 steps, List.append_assoc, List.cons_append] at hstep hrest ⊢
    rw [hstep, hrest]
    cases readItems (readValue depth) steps (render last ++ tail) with
    | error e => rfl
    | ok r => rfl

theorem readList_cells (item : Reader Json) {values : List Json} (hne : values ≠ []) (widths : List Nat)
    (tail : List Char) :
    readList item (Call.cells (values.map render) widths ++ tail) =
      readItems item (Call.cells (values.map render) widths ++ tail).length
        (Call.cells (values.map render) widths ++ tail) := by
  obtain ⟨v, rest, rfl⟩ := List.exists_cons_of_ne_nil hne
  obtain ⟨more, hmore⟩ := Call.cells_eq_append v.render (rest.map render) widths
  obtain ⟨c, body, hrender, hlead⟩ := render_eq_cons v
  have hc : c ≠ ']' := by
    rintro rfl
    exact not_leads_bracket v hlead
  rw [List.map_cons, hmore, hrender, List.cons_append, List.cons_append]
  exact readList_cons (skipSpace_cons (isSpace_of_isBlank (isBlank_of_leads hlead)) _) hc

end Json

namespace Definition
open Json

/-! ### Arguments -/

theorem unwrap?_argumentText (values : List Json) (widths : List Nat) :
    unwrap? (Call.argumentText values widths) = some (Call.cells (values.map render) widths) := by
  simp [unwrap?, Call.argumentText]

theorem readArray_cells {literals : List Json} (hl : ∀ v ∈ literals, IsLiteral v) (widths : List Nat) :
    readArray ('[' :: Call.cells (literals.map render) widths ++ [']']) = .ok literals := by
  have hlist : readList (readValue (maxDepth - 1)) (Call.cells (literals.map render) widths ++ [']']) =
      .ok (literals, []) := by
    cases literals using List.reverseRecOn with
    | nil => rfl
    | append_singleton front last =>
      have hlength := Call.length_le_length_cells (front ++ [last]) widths
      rw [List.length_append, List.length_singleton] at hlength
      obtain ⟨steps, hsteps⟩ : ∃ steps, (Call.cells ((front ++ [last]).map render) widths ++ [']']).length =
          front.length + (steps + 1) :=
        ⟨(Call.cells ((front ++ [last]).map render) widths).length - front.length, by
          rw [List.length_append, List.length_singleton]
          omega⟩
      have hlast := readValue_of_literal (maxDepth - 1) (hl last (by simp)) [']']
      rw [readList_cells _ (by simp), hsteps,
        readItems_cells _ (fun v hv => hl v (List.mem_append_left _ hv)) last widths,
        readItems_bracket hlast (skipSpace_cons (by decide) [])]
      rfl
  simp only [readArray, List.cons_append, hlist, bind, Except.bind]
  rfl

/-- Literals are read back from their columns, when as many are asked for. -/
theorem readArguments_literals {literals : List Json} (hl : ∀ v ∈ literals, IsLiteral v) (widths : List Nat)
    (count : Nat) :
    readArguments (Call.argumentText literals widths) count =
      if literals.length = count then .ok literals else .error (.wrongCount count literals.length) := by
  simp only [readArguments, unwrap?_argumentText, readArray_cells hl widths]

/-- Of arguments that are literals but for the last, the last is read as a literal only if it is one. -/
theorem readArguments_append {literals : List Json} (hl : ∀ v ∈ literals, IsLiteral v) {last : Json}
    {widths : List Nat} {count : Nat} {args : List Json}
    (h : readArguments (Call.argumentText (literals ++ [last]) widths) count = .ok args) :
    ∃ v others, args = literals ++ v :: others ∧ (IsLiteral v → v = last) := by
  simp only [readArguments, unwrap?_argumentText] at h
  split at h
  · cases h
  · next read hread =>
    split_ifs at h
    cases h
    simp only [readArray, List.cons_append] at hread
    obtain ⟨⟨items, rest⟩, hlist, hend⟩ := bind_eq_ok_iff.mp hread
    have hlength := Call.length_le_length_cells (literals ++ [last]) widths
    rw [List.length_append, List.length_singleton] at hlength
    obtain ⟨steps, hsteps⟩ : ∃ steps,
        (Call.cells ((literals ++ [last]).map render) widths ++ [']']).length = literals.length + steps :=
      ⟨_, (Nat.add_sub_of_le (by rw [List.length_append]; omega)).symm⟩
    rw [readList_cells _ (by simp), hsteps, readItems_cells _ hl last widths] at hlist
    obtain ⟨⟨values, more⟩, hitems, hvalues⟩ := map_eq_ok_iff.mp hlist
    obtain ⟨v, rest', others, hitem, rfl⟩ := readItems_eq_cons hitems
    cases hvalues
    obtain ⟨-, -, hpure⟩ := bind_eq_ok_iff.mp hend
    cases hpure
    exact ⟨v, others, rfl, fun hv => (eq_of_readValue hv hitem).symm⟩

/-! ### Calls -/

theorem drop_format (name : String) (values : List Json) (widths : List Nat) :
    (Call.format name (values.map text) widths).toList.drop name.length = Call.argumentText values widths := by
  have htexts : (values.map text).map String.toList = values.map render := by
    rw [List.map_map]
    exact List.map_congr_left fun v _ => String.toList_ofList
  rw [Call.format, String.toList_ofList, htexts, Call.formatChars, List.append_assoc, ← String.length_toList,
    List.drop_left]
  rfl

/-- A call in columns of any widths, without its name, gives its literals back when as many are asked for, and else the
    two counts. -/
theorem readArguments_format (name : String) {values : List Json} (hvalues : ∀ v ∈ values, IsLiteral v)
    (widths : List Nat) (count : Nat) :
    readArguments ((Call.format name (values.map text) widths).toList.drop name.length) count =
      if count = values.length then .ok values else .error (.wrongCount count values.length) := by
  rw [drop_format, readArguments_literals hvalues]
  simp only [eq_comm]

/-- Literals with what delimits calls, arguments and strings in them. -/
def delimiters : List Json := [.string "a),\"(\\\n", .bool false, .null]

theorem readArguments_format_delimiters : (∀ v ∈ delimiters, IsLiteral v) ∧
    readArguments ((Call.format "input" (delimiters.map text) [3, 60000]).toList.drop 5) 3 = .ok delimiters ∧
    readArguments ((Call.format "input" (delimiters.map text) [3, 60000]).toList.drop 5) 4 =
      .error (.wrongCount 4 3) := by
  have hvalues : ∀ v ∈ delimiters, IsLiteral v := by simp [delimiters, IsLiteral]
  exact ⟨hvalues, readArguments_format "input" hvalues [3, 60000] 3, readArguments_format "input" hvalues [3, 60000] 4⟩

end Definition

end ToolPlugins
