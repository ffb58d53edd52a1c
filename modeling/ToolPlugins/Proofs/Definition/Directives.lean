import Mathlib
import ToolPlugins.Proofs.Definition.Arguments
import ToolPlugins.Proofs.Identifier.Canonical

/-!
What each kind of line of a definition does to the draft, when the line is a remark, blank, or a keyword
with the text of a value or with arguments in columns after it.
-/

namespace ToolPlugins.Definition
open Json

/-! ### Lines one after the other -/

/-- The lines turn the draft `d` into `e`. -/
def Draft.Reads (d : Draft) (lines : List (List Char)) (e : Draft) : Prop :=
  lines.foldlM (fun d raw => d.line (Text.trim raw)) d = .ok e

theorem Draft.reads_nil_iff {d e : Draft} : d.Reads [] e ↔ d = e := by
  rw [Reads, List.foldlM_nil]
  exact pure_eq_ok_iff

theorem Draft.reads_cons_iff {d e : Draft} {raw : List Char} {lines : List (List Char)} :
    d.Reads (raw :: lines) e ↔ ∃ m, d.line (Text.trim raw) = .ok m ∧ m.Reads lines e := by
  rw [Reads, List.foldlM_cons]
  exact bind_eq_ok_iff

/-- The reader of lines counts them, which decides nothing. -/
theorem Draft.lines_eq_ok_iff {d e : Draft} {number : Nat} {lines : List (List Char)} :
    d.lines number lines = .ok e ↔ d.Reads lines e := by
  induction lines generalizing d number with
  | nil =>
    rw [reads_nil_iff, Draft.lines]
    exact pure_eq_ok_iff
  | cons raw lines ih =>
    rw [reads_cons_iff, Draft.lines]
    cases d.line (Text.trim raw) with
    | error problem => simp
    | ok m => simp [ih]

/-! ### Remarks and blank lines -/

theorem Draft.line_remark (d : Draft) (s : List Char) : d.line (Text.trim ('#' :: s)) = .ok d := by
  obtain ⟨rest, hrest⟩ := Text.trim_cons s (show Text.isBlank '#' = false by decide)
  have hpass : isPassedOver ('#' :: rest) = true := rfl
  rw [hrest, Draft.line, if_pos hpass]

theorem Draft.line_blank (d : Draft) : d.line (Text.trim []) = .ok d := by
  have hpass : isPassedOver (Text.trim []) = true := rfl
  rw [Draft.line, if_pos hpass]

theorem Draft.reads_remark_iff {d e : Draft} {s : List Char} {lines : List (List Char)} :
    d.Reads (('#' :: s) :: lines) e ↔ d.Reads lines e := by
  rw [reads_cons_iff]
  constructor
  · rintro ⟨m, hm, h⟩
    rw [line_remark] at hm
    cases hm
    exact h
  · exact fun h => ⟨d, line_remark d s, h⟩

theorem Draft.reads_blank_iff {d e : Draft} {lines : List (List Char)} :
    d.Reads ([] :: lines) e ↔ d.Reads lines e := by
  rw [reads_cons_iff]
  constructor
  · rintro ⟨m, hm, h⟩
    rw [line_blank] at hm
    cases hm
    exact h
  · exact fun h => ⟨d, line_blank d, h⟩

/-! ### Keywords -/

/-- The characters of keywords. -/
def isKeywordChar (c : Char) : Bool := c.isLower || c == '_'

theorem isBlank_of_isKeywordChar {c : Char} (h : isKeywordChar c = true) : Text.isBlank c = false := by
  simp only [isKeywordChar, Bool.or_eq_true, beq_iff_eq] at h
  rcases h with h | rfl
  · exact Text.isBlank_of_isAlphanum (by simp [Char.isAlphanum, Char.isAlpha, h])
  · decide

/-- A keyword is there and has only characters of keywords. -/
def IsKeyword (s : List Char) : Prop := s ≠ [] ∧ s.all isKeywordChar = true

instance : DecidablePred IsKeyword := fun s => inferInstanceAs (Decidable (s ≠ [] ∧ s.all isKeywordChar = true))

section Keyword
variable {d e : Draft} {α : Type} {key s rest front : List Char} {c last : Char}

/-- A line of a keyword and a text that starts with no character of a keyword and does not end with a
    blank is taken apart into the two. -/
theorem Draft.line_keyword (hd : d.ended = false) (hk : IsKeyword key) (hs : s = c :: rest)
    (hc : isKeywordChar c = false) (he : s = front ++ [last]) (hl : Text.isBlank last = false) :
    d.line (Text.trim (key ++ s)) = d.directive (key ++ s) ∧ keyword (key ++ s) = key ∧
      value (key ++ s) = Text.trim s := by
  obtain ⟨first, more, hkey⟩ := List.exists_cons_of_ne_nil hk.1
  have hall := List.all_eq_true.mp hk.2
  have hfirst := hall first (hkey ▸ List.mem_cons_self)
  have htrim : Text.trim (key ++ s) = key ++ s :=
    @Text.trim_eq_self _ (more ++ s) (key ++ front) _ _ (by rw [hkey]; rfl) (by rw [he, List.append_assoc])
      (isBlank_of_isKeywordChar hfirst) hl
  refine ⟨?_, ?_, ?_⟩
  · have hpass : isPassedOver (key ++ s) = false := by
      rw [hkey, List.cons_append, isPassedOver, beq_eq_false_iff_ne]
      rintro rfl
      exact absurd hfirst (by decide)
    rw [htrim, Draft.line, hpass, hd]
    rfl
  · change List.takeWhile isKeywordChar _ = _
    rw [List.takeWhile_append_of_pos hall, hs, List.takeWhile_cons, hc]
    exact List.append_nil _
  · change Text.trim (List.dropWhile isKeywordChar _) = _
    rw [List.dropWhile_append_of_pos hall, hs, List.dropWhile_cons, hc]
    rfl

theorem Draft.reads_keyword_iff (hd : d.ended = false) (hk : IsKeyword key) (hs : s = c :: rest)
    (hc : isKeywordChar c = false) (he : s = front ++ [last]) (hl : Text.isBlank last = false)
    {x : Except LineProblem α} {f : α → Draft}
    (h : ∀ line, keyword line = key → value line = Text.trim s → d.directive line = x.map f)
    (lines : List (List Char)) :
    d.Reads ((key ++ s) :: lines) e ↔ ∃ a, x = .ok a ∧ (f a).Reads lines e := by
  obtain ⟨hline, hkey, hvalue⟩ := line_keyword hd hk hs hc he hl
  rw [reads_cons_iff, hline, h _ hkey hvalue]
  exact exists_map_eq_ok_iff

/-- A keyword, a space, and a text that trimming leaves alone. -/
theorem Draft.reads_spaced_iff (hd : d.ended = false) (hk : IsKeyword key) (ht : Text.trim s = s)
    (he : s = front ++ [last]) (hl : Text.isBlank last = false) {x : Except LineProblem α} {f : α → Draft}
    (h : ∀ line, keyword line = key → value line = s → d.directive line = x.map f)
    (lines : List (List Char)) :
    d.Reads ((key ++ ' ' :: s) :: lines) e ↔ ∃ a, x = .ok a ∧ (f a).Reads lines e := by
  have hconcat : ' ' :: s = (' ' :: front) ++ [last] := by rw [he, List.cons_append]
  refine reads_keyword_iff hd hk rfl (by decide) hconcat hl ?_ lines
  intro line hkey hvalue
  rw [Text.trim_space_cons, ht] at hvalue
  exact h line hkey hvalue

end Keyword

/-! ### Literals -/

theorem readText_render_eq_ok_iff {v : Json} {s : String} : readText (render v) = .ok s ↔ v = .string s := by
  rw [← readText_render_iff (show IsLiteral (.string s) from trivial), readText]
  cases hread : Json.readText (render v) with
  | error fault => simp
  | ok read => cases read <;> simp

theorem readOptional_render_eq_ok_iff {v : Json} {o : Option String} :
    readOptional (render v) = .ok o ↔ v = ofString? o := by
  have hl : IsLiteral (ofString? o) := by cases o <;> exact trivial
  rw [← readText_render_iff hl, readOptional]
  cases hread : Json.readText (render v) with
  | error fault => simp
  | ok read => cases read <;> cases o <;> simp [ofString?, ofOption]

section Literals
variable {d e : Draft} {v : Json} {lines : List (List Char)}

theorem Draft.reads_render_iff {α : Type} (hd : d.ended = false) (key : String) (hk : IsKeyword key.toList)
    {x : Except LineProblem α} {f : α → Draft}
    (h : ∀ line, keyword line = key.toList → value line = render v → d.directive line = x.map f) :
    d.Reads ((key.toList ++ ' ' :: render v) :: lines) e ↔ ∃ a, x = .ok a ∧ (f a).Reads lines e := by
  obtain ⟨front, last, he, hl⟩ := render_eq_concat v
  exact reads_spaced_iff hd hk (trim_render v) he hl h lines

theorem Draft.reads_tool_iff (hd : d.ended = false) :
    d.Reads (("tool".toList ++ ' ' :: render v) :: lines) e ↔
      ∃ tool, v = .string tool ∧ Draft.Reads { d with tool := some tool } lines e := by
  simp only [← readText_render_eq_ok_iff]
  refine reads_render_iff hd "tool" (by decide) ?_
  intro line hk hv
  rw [Draft.directive, hk, hv]
  rfl

theorem Draft.reads_version_iff (hd : d.ended = false) :
    d.Reads (("version".toList ++ ' ' :: render v) :: lines) e ↔
      ∃ version, v = .string version ∧ Draft.Reads { d with version := some version } lines e := by
  simp only [← readText_render_eq_ok_iff]
  refine reads_render_iff hd "version" (by decide) ?_
  intro line hk hv
  rw [Draft.directive, hk, hv]
  rfl

theorem Draft.reads_description_iff (hd : d.ended = false) :
    d.Reads (("description".toList ++ ' ' :: render v) :: lines) e ↔
      ∃ description, v = ofString? description ∧ Draft.Reads { d with description } lines e := by
  simp only [← readOptional_render_eq_ok_iff]
  refine reads_render_iff hd "description" (by decide) ?_
  intro line hk hv
  rw [Draft.directive, hk, hv]
  rfl

theorem Draft.reads_image_iff (hd : d.ended = false) :
    d.Reads (("image".toList ++ ' ' :: render v) :: lines) e ↔
      ∃ image, v = ofString? image ∧ Draft.Reads { d with image } lines e := by
  simp only [← readOptional_render_eq_ok_iff]
  refine reads_render_iff hd "image" (by decide) ?_
  intro line hk hv
  rw [Draft.directive, hk, hv]
  rfl

theorem Draft.reads_command_iff (hd : d.ended = false) :
    d.Reads (("command".toList ++ ' ' :: render v) :: lines) e ↔
      ∃ command, v = ofString? command ∧ Draft.Reads { d with command } lines e := by
  simp only [← readOptional_render_eq_ok_iff]
  refine reads_render_iff hd "command" (by decide) ?_
  intro line hk hv
  rw [Draft.directive, hk, hv]
  rfl

end Literals

/-! ### The task, the side and the end -/

section Closed
variable {d e : Draft} {lines : List (List Char)}

theorem Draft.reads_task_iff (hd : d.ended = false) {id : List Char}
    (hid : Identifier.isCanonicalChars id = true) :
    d.Reads (("task".toList ++ ' ' :: id) :: lines) e ↔
      Draft.Reads { d with identifier := some (String.ofList id) } lines e := by
  obtain ⟨first, rest, hfirst⟩ : ∃ first rest, id = first :: rest :=
    List.exists_cons_of_ne_nil (by rintro rfl; cases hid)
  obtain ⟨front, last, hlast⟩ : ∃ front last, id = front ++ [last] :=
    ⟨_, _, (List.dropLast_append_getLast (hfirst ▸ List.cons_ne_nil first rest)).symm⟩
  have hblank : ∀ c ∈ id, Text.isBlank c = false := fun c hc =>
    Text.isBlank_of_isAlphanum (Identifier.isAlphanum_of_isCanonicalChars hid c hc)
  have hf : Text.isBlank first = false := hblank first (hfirst ▸ List.mem_cons_self)
  have hl : Text.isBlank last = false := hblank last (hlast ▸ List.mem_concat_self)
  have h := reads_spaced_iff (e := e) (x := .ok id) (f := fun s => { d with identifier := some (String.ofList s) })
    hd (show IsKeyword "task".toList by decide) (Text.trim_eq_self hfirst hlast hf hl) hlast hl
    (fun line hk hv => by rw [Draft.directive, hk, hv]; rfl) lines
  simpa using h

theorem readContext_name (side : DefinitionContext) : readContext side.name.toList = .ok side := by
  cases side with
  | client => rfl
  | worker => rfl

theorem Draft.reads_context_iff (hd : d.ended = false) (side : DefinitionContext) :
    d.Reads (("context".toList ++ ' ' :: side.name.toList) :: lines) e ↔
      Draft.Reads { d with context := some side } lines e := by
  obtain ⟨front, last, hlast, hl⟩ : ∃ front last, side.name.toList = front ++ [last] ∧
      Text.isBlank last = false := by
    cases side with
    | client => exact ⟨"clien".toList, 't', rfl, by decide⟩
    | worker => exact ⟨"worke".toList, 'r', rfl, by decide⟩
  have htrim : Text.trim side.name.toList = side.name.toList := by
    cases side with
    | client => rfl
    | worker => rfl
  have h := reads_spaced_iff (e := e) (x := readContext side.name.toList)
    (f := fun side => { d with context := some side }) hd (show IsKeyword "context".toList by decide) htrim
    hlast hl (fun line hk hv => by rw [Draft.directive, hk, hv]; rfl) lines
  rw [readContext_name] at h
  simpa using h

theorem Draft.reads_end_iff (hd : d.ended = false) :
    d.Reads ("end".toList :: lines) e ↔ Draft.Reads { d with ended := true } lines e := by
  have hline : d.line (Text.trim "end".toList) = .ok { d with ended := true } := by
    rw [Draft.line, hd]
    rfl
  rw [reads_cons_iff, hline]
  simp

end Closed

end ToolPlugins.Definition
