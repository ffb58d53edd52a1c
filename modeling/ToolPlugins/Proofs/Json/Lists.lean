import Mathlib
import ToolPlugins.Proofs.Json.Literal
import ToolPlugins.Proofs.Json.Strings

/-!
The texts that are read as strings, booleans and null, and the lists of such texts between commas. Blanks may stand
around each of them.
-/

namespace ToolPlugins.Json

/-- The word of a literal. -/
inductive IsWordOf : List Char → Json → Prop
  | null : IsWordOf ['n', 'u', 'l', 'l'] .null
  | true : IsWordOf ['t', 'r', 'u', 'e'] (.bool true)
  | false : IsWordOf ['f', 'a', 'l', 's', 'e'] (.bool false)
  | string {text : List Char} {s : String} : Spells text s.toList → IsWordOf ('"' :: text ++ ['"']) (.string s)

/-- A text of blanks. -/
def Spaces (s : List Char) : Prop := ∀ c ∈ s, isSpace c = true

/-- A text that has the word of a literal and blanks around it. -/
def WritesLiteral (text : List Char) (v : Json) : Prop :=
  ∃ before word after, text = before ++ (word ++ after) ∧ Spaces before ∧ IsWordOf word v ∧ Spaces after

/-- Literals with commas between them. There is at least one. -/
inductive WritesItems : List Char → List Json → Prop
  | one {text : List Char} {v : Json} : WritesLiteral text v → WritesItems text [v]
  | more {first text : List Char} {v : Json} {values : List Json} : WritesLiteral first v →
      WritesItems text values → WritesItems (first ++ ',' :: text) (v :: values)

section
variable {s rest word : List Char} {v : Json}

/-! ### Blanks -/

theorem skipSpace_append (h : Spaces s) (rest : List Char) : skipSpace (s ++ rest) = skipSpace rest :=
  List.dropWhile_append_of_pos h

theorem skipSpace_cons {c : Char} (h : isSpace c = false) (rest : List Char) : skipSpace (c :: rest) = c :: rest := by
  rw [skipSpace, List.dropWhile_cons, h]
  rfl

theorem exists_spaces (s : List Char) : ∃ before, Spaces before ∧ s = before ++ skipSpace s :=
  ⟨s.takeWhile isSpace, fun _ hc => List.mem_takeWhile_imp hc, List.takeWhile_append_dropWhile.symm⟩

theorem skipSpace_eq_cons {c : Char} (h : skipSpace s = c :: rest) : isSpace c = false := by
  have hhead := List.head?_dropWhile_not isSpace s
  rw [← skipSpace, h] at hhead
  exact hhead

theorem skipSpace_skipSpace (s : List Char) : skipSpace (skipSpace s) = skipSpace s := by
  cases h : skipSpace s with
  | nil => rfl
  | cons c rest => exact skipSpace_cons (skipSpace_eq_cons h) rest

theorem readEnd_eq_ok_iff : readEnd s = .ok () ↔ Spaces s := by
  rw [readEnd, Spaces, ← List.dropWhile_eq_nil_iff, ← skipSpace]
  cases skipSpace s with
  | nil => simp
  | cons c rest => simp

theorem readValue_skipSpace (depth : Nat) (s : List Char) : readValue depth (skipSpace s) = readValue depth s := by
  cases depth with
  | zero => simp only [readValue, skipSpace_skipSpace]
  | succ depth => simp only [readValue, skipSpace_skipSpace]

/-! ### One literal -/

theorem readWord_eq_ok_iff {letters : List Char} : readWord letters s = .ok rest ↔ s = letters ++ rest := by
  induction letters generalizing s with
  | nil => simp [readWord]
  | cons letter letters ih =>
    cases s with
    | nil => simp [readWord]
    | cons c s =>
      rw [readWord]
      split_ifs with hc
      · rw [ih, hc, List.cons_append, List.cons.injEq, and_iff_right rfl]
      · simp [hc]

/-- The first character of a word tells which literal it is. -/
theorem IsWordOf.eq_cons (h : IsWordOf word v) : ∃ c more, word = c :: more ∧ Leads c v := by
  cases h with
  | null => exact ⟨_, _, rfl, rfl⟩
  | true => exact ⟨_, _, rfl, rfl⟩
  | false => exact ⟨_, _, rfl, rfl⟩
  | string _ => exact ⟨_, _, rfl, rfl⟩

theorem IsWordOf.isLiteral (h : IsWordOf word v) : IsLiteral v := by
  cases h <;> trivial

theorem readString_eq_ok_iff {text : String} :
    readString s = .ok (text, rest) ↔ ∃ body, s = body ++ '"' :: rest ∧ Spells body text.toList := by
  rw [readString, map_eq_ok_iff, ← readChars_eq_ok_iff]
  constructor
  · rintro ⟨⟨chars, _⟩, hread, heq⟩
    cases heq
    rwa [String.toList_ofList]
  · intro h
    exact ⟨_, h, congrArg (·, rest) String.ofList_toList⟩

theorem readScalar_eq_ok_of_isWordOf (h : IsWordOf word v) (rest : List Char) :
    readScalar (word ++ rest) = .ok (v, rest) := by
  cases h with
  | null => rfl
  | true => rfl
  | false => rfl
  | @string text s hs =>
    have hread : readString (text ++ '"' :: rest) = .ok (s, rest) := readString_eq_ok_iff.mpr ⟨text, rfl, hs⟩
    simp [readScalar, hread, Except.map]

theorem isWordOf_of_readScalar (hv : IsLiteral v) (h : readScalar s = .ok (v, rest)) :
    ∃ word, s = word ++ rest ∧ IsWordOf word v := by
  cases s with
  | nil => cases h
  | cons c s =>
    rw [readScalar] at h
    split_ifs at h with hn ht hf hminus hdigit hquote
    · obtain ⟨_, hread, heq⟩ := map_eq_ok_iff.mp h
      cases heq
      rw [hn, readWord_eq_ok_iff.mp hread]
      exact ⟨_, rfl, .null⟩
    · obtain ⟨_, hread, heq⟩ := map_eq_ok_iff.mp h
      cases heq
      rw [ht, readWord_eq_ok_iff.mp hread]
      exact ⟨_, rfl, .true⟩
    · obtain ⟨_, hread, heq⟩ := map_eq_ok_iff.mp h
      cases heq
      rw [hf, readWord_eq_ok_iff.mp hread]
      exact ⟨_, rfl, .false⟩
    · obtain ⟨_, -, heq⟩ := map_eq_ok_iff.mp h
      cases heq
      exact hv.elim
    · obtain ⟨_, -, heq⟩ := map_eq_ok_iff.mp h
      cases heq
      exact hv.elim
    · obtain ⟨⟨text, _⟩, hread, heq⟩ := map_eq_ok_iff.mp h
      cases heq
      obtain ⟨body, rfl, hbody⟩ := readString_eq_ok_iff.mp hread
      exact ⟨'"' :: body ++ ['"'], by rw [hquote]; simp, .string hbody⟩

theorem readValue_eq_ok_iff {depth : Nat} (hv : IsLiteral v) :
    readValue depth s = .ok (v, rest) ↔
      ∃ before word, s = before ++ (word ++ rest) ∧ Spaces before ∧ IsWordOf word v := by
  constructor
  · intro h
    obtain ⟨before, hbefore, hs⟩ := exists_spaces s
    rw [← readValue_skipSpace] at h
    cases hskip : skipSpace s with
    | nil =>
      rw [hskip] at h
      cases depth <;> cases h
    | cons c more =>
      rw [hskip] at h hs
      have hread : readScalar (c :: more) = .ok (v, rest) := by
        by_cases hl : c = '['
        · subst hl
          obtain ⟨items, rfl⟩ := readValue_bracket h
          exact hv.elim
        · by_cases ho : c = '\x7b'
          · subst ho
            obtain ⟨fields, rfl⟩ := readValue_brace h
            exact hv.elim
          · rwa [readValue_scalar depth more (skipSpace_eq_cons hskip) hl ho] at h
      obtain ⟨word, hword, h⟩ := isWordOf_of_readScalar hv hread
      exact ⟨before, word, by rw [← hword, ← hs], hbefore, h⟩
  · rintro ⟨before, word, rfl, hbefore, h⟩
    obtain ⟨c, more, rfl, hc⟩ := h.eq_cons
    have hspace := isSpace_of_isBlank (isBlank_of_leads hc)
    have hopens : c ≠ '[' ∧ c ≠ '\x7b' := by
      constructor <;> rintro rfl <;> cases h
    rw [← readValue_skipSpace, skipSpace_append hbefore, List.cons_append, skipSpace_cons hspace,
      readValue_scalar depth _ hspace hopens.1 hopens.2, ← List.cons_append]
    exact readScalar_eq_ok_of_isWordOf h rest

theorem readText_eq_ok_iff (hv : IsLiteral v) : readText s = .ok v ↔ WritesLiteral s v := by
  rw [readText, bind_eq_ok_iff]
  constructor
  · rintro ⟨⟨w, rest⟩, hread, h⟩
    obtain ⟨⟨⟩, hend, h⟩ := bind_eq_ok_iff.mp h
    cases pure_eq_ok_iff.mp h
    obtain ⟨before, word, hs, hbefore, hword⟩ := (readValue_eq_ok_iff hv).mp hread
    exact ⟨before, word, rest, hs, hbefore, hword, readEnd_eq_ok_iff.mp hend⟩
  · rintro ⟨before, word, after, hs, hbefore, hword, hafter⟩
    refine ⟨(v, after), (readValue_eq_ok_iff hv).mpr ⟨before, word, hs, hbefore, hword⟩, ?_⟩
    exact bind_eq_ok_iff.mpr ⟨(), readEnd_eq_ok_iff.mpr hafter, rfl⟩

/-! ### Lists -/

variable {item : Reader Json} {values : List Json} {depth : Nat}

theorem readItems_bracket {more : List Char} (hitem : item s = .ok (v, rest)) (hrest : skipSpace rest = ']' :: more)
    (steps : Nat) : readItems item (steps + 1) s = .ok ([v], more) := by
  simp [readItems, hitem, bind, Except.bind, hrest]

theorem readItems_comma {c : Char} {more others : List Char} (hitem : item s = .ok (v, rest))
    (hrest : skipSpace rest = ',' :: more) (hmore : skipSpace more = c :: others) (hc : c ≠ ']') (steps : Nat) :
    readItems item (steps + 1) s =
      (readItems item steps (c :: others)).map fun (values, rest) => (v :: values, rest) := by
  simp only [readItems, hitem, bind, Except.bind, hrest, hmore, if_neg hc]
  cases readItems item steps (c :: others) with
  | error e => rfl
  | ok r => rfl

theorem readItems_cases {steps : Nat} (h : readItems item steps s = .ok (values, rest)) :
    ∃ v more, item s = .ok (v, more) ∧
      ((values = [v] ∧ skipSpace more = ']' :: rest) ∨
        ∃ others after steps', values = v :: others ∧ skipSpace more = ',' :: after ∧
          readItems item steps' (skipSpace after) = .ok (others, rest)) := by
  cases steps with
  | zero => cases h
  | succ steps =>
    obtain ⟨⟨v, more⟩, hitem, h⟩ := bind_eq_ok_iff.mp h
    refine ⟨v, more, hitem, ?_⟩
    simp only at h
    split at h
    · cases h
    · next c after hmore =>
      split_ifs at h with hbracket hcomma
      · cases h
        exact .inl ⟨rfl, by rw [hmore, hbracket]⟩
      · split at h
        · cases h
        · next d others' hafter =>
          split_ifs at h with hd
          obtain ⟨⟨others, _⟩, hothers, h⟩ := bind_eq_ok_iff.mp h
          cases h
          exact .inr ⟨others, after, steps, rfl, by rw [hmore, hcomma], by rw [hafter]; exact hothers⟩

theorem WritesLiteral.append_left {text before : List Char} (h : WritesLiteral text v) (hbefore : Spaces before) :
    WritesLiteral (before ++ text) v := by
  obtain ⟨blanks, word, after, rfl, hblanks, hword, hafter⟩ := h
  exact ⟨before ++ blanks, word, after, (List.append_assoc ..).symm, List.forall_mem_append.mpr ⟨hbefore, hblanks⟩,
    hword, hafter⟩

theorem WritesItems.append_left {text before : List Char} (h : WritesItems text values) (hbefore : Spaces before) :
    WritesItems (before ++ text) values := by
  cases h with
  | one hv => exact .one (hv.append_left hbefore)
  | more hv hvalues =>
    rw [← List.append_assoc]
    exact .more (hv.append_left hbefore) hvalues

/-- Items that are read as literals are written as literals with commas between them. -/
theorem writesItems_of_readItems (hvalues : ∀ v ∈ values, IsLiteral v) {steps : Nat}
    (h : readItems (readValue depth) steps s = .ok (values, rest)) :
    ∃ text, s = text ++ ']' :: rest ∧ WritesItems text values := by
  induction values generalizing s steps with
  | nil =>
    obtain ⟨v, more, -, ⟨heq, -⟩ | ⟨others, after, steps', heq, -, -⟩⟩ := readItems_cases h
    · cases heq
    · cases heq
  | cons v values ih =>
    obtain ⟨hv, hvalues⟩ := List.forall_mem_cons.mp hvalues
    obtain ⟨w, more, hitem, hcases⟩ := readItems_cases h
    obtain ⟨after, hafter, hmore⟩ := exists_spaces more
    rcases hcases with ⟨heq, hskip⟩ | ⟨others, behind, steps', heq, hskip, hothers⟩
    · cases heq
      obtain ⟨before, word, rfl, hbefore, hword⟩ := (readValue_eq_ok_iff hv).mp hitem
      rw [hskip] at hmore
      refine ⟨before ++ (word ++ after), by rw [hmore]; simp, .one ?_⟩
      exact ⟨before, word, after, rfl, hbefore, hword, hafter⟩
    · cases heq
      obtain ⟨before, word, rfl, hbefore, hword⟩ := (readValue_eq_ok_iff hv).mp hitem
      obtain ⟨text, htext, hwrites⟩ := ih hvalues hothers
      obtain ⟨blanks, hblanks, hbehind⟩ := exists_spaces behind
      rw [hskip] at hmore
      refine ⟨before ++ (word ++ after) ++ ',' :: (blanks ++ text), ?_, ?_⟩
      · rw [hmore, hbehind, htext]
        simp
      · exact .more ⟨before, word, after, rfl, hbefore, hword, hafter⟩ (hwrites.append_left hblanks)

/-- The blanks before the first literal can be left out. -/
theorem WritesItems.exists_cons {text : List Char} (h : WritesItems text values) :
    ∃ before c more, text = before ++ c :: more ∧ Spaces before ∧ isSpace c = false ∧ c ≠ ']' ∧
      WritesItems (c :: more) values := by
  have hfirst : ∀ {first v}, WritesLiteral first v → ∃ before c more, first = before ++ c :: more ∧ Spaces before ∧
      isSpace c = false ∧ c ≠ ']' ∧ WritesLiteral (c :: more) v := by
    rintro first v ⟨before, word, after, rfl, hbefore, hword, hafter⟩
    obtain ⟨c, more, rfl, hc⟩ := hword.eq_cons
    refine ⟨before, c, more ++ after, rfl, hbefore, isSpace_of_isBlank (isBlank_of_leads hc), ?_, ?_⟩
    · rintro rfl
      exact not_leads_bracket v hc
    · exact ⟨[], _, after, rfl, List.forall_mem_nil _, hword, hafter⟩
  cases h with
  | one hv =>
    obtain ⟨before, c, more, rfl, hbefore, hspace, hc, hv⟩ := hfirst hv
    exact ⟨before, c, more, rfl, hbefore, hspace, hc, .one hv⟩
  | @more _ text _ _ hv hvalues =>
    obtain ⟨before, c, more, rfl, hbefore, hspace, hc, hv⟩ := hfirst hv
    exact ⟨before, c, more ++ ',' :: text, by simp, hbefore, hspace, hc, .more hv hvalues⟩

theorem WritesItems.ne_nil {text : List Char} (h : WritesItems text values) : values ≠ [] := by
  cases h with
  | one _ => exact List.cons_ne_nil _ _
  | more _ _ => exact List.cons_ne_nil _ _

theorem WritesItems.length_le {text : List Char} (h : WritesItems text values) : values.length ≤ text.length := by
  induction h with
  | one hv =>
    obtain ⟨before, word, after, rfl, -, hword, -⟩ := hv
    obtain ⟨c, more, rfl, -⟩ := hword.eq_cons
    simp only [List.length_append, List.length_cons, List.length_nil]
    omega
  | more _ _ ih =>
    rw [List.length_cons, List.length_append, List.length_cons]
    omega

theorem readItems_skipSpace (steps : Nat) (s : List Char) :
    readItems (readValue depth) (steps + 1) (skipSpace s) = readItems (readValue depth) (steps + 1) s := by
  simp only [readItems, readValue_skipSpace]

/-- Literals with commas between them are read as items, in as many steps as they are. -/
theorem readItems_of_writesItems {text : List Char} (h : WritesItems text values) {steps : Nat}
    (hsteps : values.length ≤ steps) (rest : List Char) :
    readItems (readValue depth) steps (text ++ ']' :: rest) = .ok (values, rest) := by
  induction h generalizing steps with
  | one hv =>
    obtain ⟨steps, rfl⟩ := Nat.exists_eq_add_of_le' hsteps
    obtain ⟨before, word, after, rfl, hbefore, hword, hafter⟩ := hv
    have hitem : readValue depth (before ++ (word ++ (after ++ ']' :: rest))) = .ok (_, after ++ ']' :: rest) :=
      (readValue_eq_ok_iff hword.isLiteral).mpr ⟨before, word, rfl, hbefore, hword⟩
    have hbracket : skipSpace (after ++ ']' :: rest) = ']' :: rest := by
      rw [skipSpace_append hafter, skipSpace_cons (by decide)]
    simp only [List.append_assoc]
    exact readItems_bracket hitem hbracket steps
  | @more first text v values hv hvalues ih =>
    obtain ⟨steps, rfl⟩ := Nat.exists_eq_add_of_le' hsteps
    obtain ⟨before, word, after, rfl, hbefore, hword, hafter⟩ := hv
    obtain ⟨blanks, c, more, rfl, hblanks, hspace, hc, -⟩ := hvalues.exists_cons
    have hnext : skipSpace (blanks ++ c :: more ++ ']' :: rest) = c :: (more ++ ']' :: rest) := by
      rw [List.append_assoc, skipSpace_append hblanks, List.cons_append, skipSpace_cons hspace]
    obtain ⟨n, hn⟩ : ∃ n, steps + values.length = n + 1 :=
      Nat.exists_eq_add_one.mpr (Nat.add_pos_right steps (List.length_pos_of_ne_nil hvalues.ne_nil))
    have hitem : readValue depth (before ++ (word ++ (after ++ ',' :: (blanks ++ c :: more ++ ']' :: rest)))) =
        .ok (v, after ++ ',' :: (blanks ++ c :: more ++ ']' :: rest)) :=
      (readValue_eq_ok_iff hword.isLiteral).mpr ⟨before, word, rfl, hbefore, hword⟩
    have hcomma : skipSpace (after ++ ',' :: (blanks ++ c :: more ++ ']' :: rest)) =
        ',' :: (blanks ++ c :: more ++ ']' :: rest) := by
      rw [skipSpace_append hafter, skipSpace_cons (by decide)]
    have hothers : readItems (readValue depth) (steps + values.length) (c :: (more ++ ']' :: rest)) =
        .ok (values, rest) := by
      rw [← hnext, hn, readItems_skipSpace, ← hn]
      exact ih (Nat.le_add_left _ _)
    have hstep := readItems_comma hitem hcomma hnext hc (steps + values.length)
    rw [hothers] at hstep
    simpa [Except.map, ← Nat.add_assoc] using hstep

theorem readList_cons {c : Char} {more : List Char} (hs : skipSpace s = c :: more) (hc : c ≠ ']') :
    readList item s = readItems item (c :: more).length (c :: more) := by
  simp only [readList, hs, if_neg hc]

/-- The bracket that ends a list is the last one, if only blanks follow it. -/
theorem eq_append_of_bracket {text after : List Char} (h : s ++ [']'] = text ++ ']' :: after) (hafter : Spaces after) :
    s = text := by
  cases after using List.reverseRecOn with
  | nil => exact List.append_cancel_right h
  | append_singleton front c =>
    rw [← List.cons_append, ← List.append_assoc] at h
    obtain rfl := List.singleton_inj.mp (List.append_inj' h rfl).2
    exact absurd (hafter ']' (List.mem_append_right _ List.mem_cons_self)) (by decide)

/-- The texts that are read, between brackets, as a list of literals. -/
theorem readArray_eq_ok_iff (hvalues : ∀ v ∈ values, IsLiteral v) (hne : values ≠ []) :
    readArray ('[' :: s ++ [']']) = .ok values ↔ WritesItems s values := by
  rw [List.cons_append, readArray, bind_eq_ok_iff]
  constructor
  · rintro ⟨⟨read, rest⟩, hlist, h⟩
    obtain ⟨⟨⟩, hend, h⟩ := bind_eq_ok_iff.mp h
    cases pure_eq_ok_iff.mp h
    obtain ⟨before, hbefore, hs⟩ := exists_spaces (s ++ [']'])
    cases hskip : skipSpace (s ++ [']']) with
    | nil =>
      rw [readList, hskip] at hlist
      cases hlist
    | cons c more =>
      by_cases hc : c = ']'
      · simp only [readList, hskip, if_pos hc] at hlist
        cases hlist
        exact absurd rfl hne
      · rw [readList_cons hskip hc] at hlist
        obtain ⟨text, htext, hwrites⟩ := writesItems_of_readItems hvalues hlist
        rw [hskip, htext] at hs
        rw [eq_append_of_bracket (hs.trans (List.append_assoc ..).symm) (readEnd_eq_ok_iff.mp hend)]
        exact hwrites.append_left hbefore
  · intro h
    obtain ⟨before, c, more, rfl, hbefore, hspace, hc, h⟩ := h.exists_cons
    have hskip : skipSpace (before ++ c :: more ++ [']']) = c :: (more ++ [']']) := by
      rw [List.append_assoc, skipSpace_append hbefore, List.cons_append, skipSpace_cons hspace]
    have hsteps : values.length ≤ (c :: (more ++ [']'])).length := by
      rw [← List.cons_append, List.length_append]
      exact h.length_le.trans (Nat.le_add_right _ _)
    have hread : readList (readValue (maxDepth - 1)) (before ++ c :: more ++ [']']) = .ok (values, []) :=
      (readList_cons hskip hc).trans (readItems_of_writesItems h hsteps [])
    exact ⟨(values, []), hread, rfl⟩

end

end ToolPlugins.Json
