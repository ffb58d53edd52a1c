import Mathlib
import ToolPlugins.Json.Printer
import ToolPlugins.Json.Reader
import ToolPlugins.Proofs.Json.Strings
import ToolPlugins.Proofs.Text.Trim

/-!
The text of a value and what the readers make of it. The text has no control character, so no line feed, and
neither starts nor ends with a blank. Strings, booleans and null come back as they are, whatever follows them, and no other
value is read as one of these.
-/

namespace ToolPlugins.Json

/-! ### Strings -/

theorem hexValue?_digitChar : ∀ k < 16, Text.hexValue? (Nat.digitChar k) = some k := by decide

theorem noControl_hexByte {n : Nat} (h : n < 256) : Text.NoControl (Text.hexByte n) := by
  have hdigit : ∀ k < 16, 0x20 ≤ (Nat.digitChar k).toNat := by decide
  have hhigh := hdigit (n / 16) (by omega)
  have hlow := hdigit (n % 16) (by omega)
  simp [Text.hexByte, hhigh, hlow]

theorem noControl_escapeChar (c : Char) : Text.NoControl (escapeChar c) := by
  unfold escapeChar
  split_ifs with hq hb h8 hc hn hr ht hctl
  · simp
  · simp
  · simp
  · simp
  · simp
  · simp
  · simp
  · simp [noControl_hexByte (n := c.toNat) (by omega)]
  · simpa using hctl

theorem noControl_renderString (s : List Char) : Text.NoControl (renderString s) := by
  have hchars : Text.NoControl (s.flatMap escapeChar) := by
    intro d hd
    obtain ⟨c, -, hd⟩ := List.mem_flatMap.mp hd
    exact noControl_escapeChar c d hd
  simp [renderString, hchars]

theorem writesUnit_control {n : Nat} (h : n < 0x20) : WritesUnit ('0' :: '0' :: Text.hexByte n) n := by
  have hzero : Text.hexValue? '0' = some 0 := by decide
  have hhigh := hexValue?_digitChar (n / 16) (by omega)
  have hlow := hexValue?_digitChar (n % 16) (by omega)
  refine ⟨rfl, ?_⟩
  simp only [Text.hexByte, hexNumber?_cons, hzero, hhigh, hlow, Option.some.injEq, exists_eq_left']
  exact congrArg some (by omega)

theorem writesChar_escapeChar (c : Char) : WritesChar (escapeChar c) c := by
  unfold escapeChar
  split_ifs with hq hb h8 hc hn hr ht hctl
  · subst hq
    exact .escape rfl
  · subst hb
    exact .escape rfl
  · subst h8
    exact .escape rfl
  · subst hc
    exact .escape rfl
  · subst hn
    exact .escape rfl
  · subst hr
    exact .escape rfl
  · subst ht
    exact .escape rfl
  · exact .unit (writesUnit_control hctl)
  · exact .plain hq hb (Nat.not_lt.mp hctl)

theorem readString_flatMap (s rest : List Char) :
    readString (s.flatMap escapeChar ++ '"' :: rest) = .ok (String.ofList s, rest) := by
  have hspells : Spells (s.flatMap escapeChar) s := by
    induction s with
    | nil => exact .nil
    | cons c s ih => exact .cons (writesChar_escapeChar c) ih
  rw [readString, readChars_eq_ok_iff.mpr ⟨_, rfl, hspells⟩]
  rfl

/-! ### Numbers -/

/-- The characters that numbers are written with. -/
def isNumberChar (c : Char) : Bool :=
  c.isDigit || c == '-' || c == '+' || c == '.' || c == 'e'

/-- A text of number characters that starts with a digit or a minus. -/
def IsNumberText (s : List Char) : Prop :=
  s.all isNumberChar = true ∧ ∃ c rest, s = c :: rest ∧ (c.isDigit = true ∨ c = '-')

theorem isBlank_of_isNumberChar {c : Char} (h : isNumberChar c = true) : Text.isBlank c = false := by
  simp only [isNumberChar, Bool.or_eq_true, beq_iff_eq] at h
  rcases h with (((h | rfl) | rfl) | rfl) | rfl
  · exact Text.isBlank_of_isAlphanum (by simp [Char.isAlphanum, h])
  all_goals decide

theorem all_renderNat (n : Nat) : (renderNat n).all isNumberChar = true := by
  rw [List.all_eq_true]
  intro c hc
  have hd : c.isDigit = true := Nat.isDigit_of_mem_toDigits (by decide) (by decide) hc
  simp [isNumberChar, hd]

theorem renderNat_eq_cons (n : Nat) : ∃ c rest, renderNat n = c :: rest ∧ c.isDigit = true := by
  cases hd : renderNat n with
  | nil => exact absurd hd Nat.toDigits_ne_nil
  | cons c rest =>
    have hc : c ∈ Nat.toDigits 10 n := by
      rw [← renderNat, hd]
      exact List.mem_cons_self
    exact ⟨c, rest, rfl, Nat.isDigit_of_mem_toDigits (by decide) (by decide) hc⟩

theorem isNumberText_renderInt (n : Int) : IsNumberText (renderInt n) := by
  unfold renderInt
  split
  · exact ⟨by simpa [isNumberChar] using all_renderNat n.natAbs, '-', _, rfl, Or.inr rfl⟩
  · obtain ⟨c, rest, hs, hc⟩ := renderNat_eq_cons n.natAbs
    exact ⟨all_renderNat n.natAbs, c, rest, hs, Or.inl hc⟩

theorem isNumberText_renderScientific (s : Decimal.Scientific) : IsNumberText (renderScientific s) := by
  obtain ⟨c, rest, hs, hc⟩ := renderNat_eq_cons s.digits
  have hall := all_renderNat s.digits
  rw [hs, List.all_cons, Bool.and_eq_true] at hall
  obtain ⟨hfirst, hrest⟩ := hall
  have htake : ∀ n, (rest.take n).all isNumberChar = true := fun n => by
    rw [List.all_eq_true] at hrest ⊢
    exact fun d hd => hrest d (List.mem_of_mem_take hd)
  have hdrop : ∀ n, (rest.drop n).all isNumberChar = true := fun n => by
    rw [List.all_eq_true] at hrest ⊢
    exact fun d hd => hrest d (List.mem_of_mem_drop hd)
  have hzeros : ∀ n, (List.replicate n '0').all isNumberChar = true := fun n => by
    rw [List.all_replicate]
    split <;> decide
  have hexp : ∀ n, (renderNat n).all isNumberChar = true := all_renderNat
  have hdot : isNumberChar '.' = true := by decide
  have hzero : isNumberChar '0' = true := by decide
  have he : isNumberChar 'e' = true := by decide
  unfold renderScientific
  simp only [hs]
  split
  · split
    · exact ⟨by simp [hfirst, hrest, hzeros, hdot, hzero], c, _, rfl, Or.inl hc⟩
    · split
      · next hpoint =>
        obtain ⟨n, hn⟩ : ∃ n, (((c :: rest).length : Int) + s.exponent).toNat = n + 1 :=
          ⟨_, (Nat.succ_pred_eq_of_pos (by omega)).symm⟩
        rw [hn]
        exact ⟨by simp [hfirst, htake, hdrop, hdot], c, _, rfl, Or.inl hc⟩
      · exact ⟨by simp [hfirst, hrest, hzeros, hdot, hzero], '0', _, rfl, Or.inl (by decide)⟩
  · have hsign : ∀ (p : Prop) [Decidable p], isNumberChar (if p then '-' else '+') = true := fun p _ => by
      split <;> decide
    cases rest with
    | nil => exact ⟨by simp [hfirst, hexp, he, hsign], c, _, rfl, Or.inl hc⟩
    | cons d rest =>
      rw [List.all_cons, Bool.and_eq_true] at hrest
      exact ⟨by simp [hfirst, hrest.1, hrest.2, hexp, hdot, he, hsign], c, _, rfl, Or.inl hc⟩

theorem isNumberText_render (n : Number) : IsNumberText n.render := by
  cases n with
  | integer n => exact isNumberText_renderInt n
  | real x =>
    have hbody : ∀ m : Decimal.Magnitude, IsNumberText
        (if m.mantissa = 0 then ['0', '.', '0'] else renderScientific (Decimal.shortest m)) := fun m => by
      split
      · exact ⟨by decide, '0', _, rfl, Or.inl (by decide)⟩
      · exact isNumberText_renderScientific _
    have h := hbody (Decimal.Magnitude.ofFloat x)
    simp only [Number.render, renderFloat]
    split
    · exact ⟨by simpa [isNumberChar] using h.1, '-', _, rfl, Or.inr rfl⟩
    · exact h

/-! ### The text of a value -/

theorem noControl_number {s : List Char} (h : IsNumberText s) : Text.NoControl s := by
  intro c hc
  have hn := List.all_eq_true.mp h.1 c hc
  simp only [isNumberChar, Bool.or_eq_true, beq_iff_eq] at hn
  rcases hn with (((hn | rfl) | rfl) | rfl) | rfl
  · have := (Text.toNat_of_isAlphanum (c := c) (by simp [Char.isAlphanum, hn])).1
    omega
  all_goals decide

theorem noControl_render : ∀ v : Json, Text.NoControl (render v) := by
  refine render.induct (fun v => Text.NoControl (render v)) (fun fields => Text.NoControl (renderFields fields))
    (fun items => Text.NoControl (renderItems items)) ?_ ?_ ?_ ?_ ?_ ?_ ?_ ?_ ?_ ?_ ?_ ?_ ?_
  · simp [render]
  · simp [render]
  · simp [render]
  · intro n
    exact noControl_number (isNumberText_render n)
  · intro s
    exact noControl_renderString s.toList
  · intro items ih
    simp [render, ih]
  · intro fields ih
    simp [render, ih]
  · simp [renderItems]
  · intro item ih
    simpa [renderItems] using ih
  · intro item rest hne ih ihs
    simp [renderItems, ih, ihs]
  · simp [renderFields]
  · intro key value ih
    simp [renderFields, ih, noControl_renderString]
  · intro key value rest hne ih ihs
    simp [renderFields, ih, ihs, noControl_renderString]

/-- The character that the text of a value may start with. -/
def Leads (c : Char) : Json → Prop
  | .null => c = 'n'
  | .bool true => c = 't'
  | .bool false => c = 'f'
  | .number _ => c.isDigit = true ∨ c = '-'
  | .string _ => c = '"'
  | .array _ => c = '['
  | .object _ => c = '\x7b'

theorem render_eq_cons (v : Json) : ∃ c rest, render v = c :: rest ∧ Leads c v := by
  cases v with
  | null => exact ⟨'n', _, rfl, rfl⟩
  | bool b => cases b <;> exact ⟨_, _, rfl, rfl⟩
  | number n =>
    obtain ⟨-, c, rest, hs, hc⟩ := isNumberText_render n
    exact ⟨c, rest, hs, hc⟩
  | string s => exact ⟨'"', _, rfl, rfl⟩
  | array items => exact ⟨'[', _, rfl, rfl⟩
  | object fields => exact ⟨'\x7b', _, rfl, rfl⟩

theorem isBlank_of_leads {c : Char} {v : Json} (h : Leads c v) : Text.isBlank c = false := by
  cases v with
  | number n =>
    rcases h with h | rfl
    · exact Text.isBlank_of_isAlphanum (by simp [Char.isAlphanum, h])
    · decide
  | bool b => cases b <;> obtain rfl := h <;> decide
  | _ => obtain rfl := h; decide

theorem not_leads_bracket (v : Json) : ¬Leads ']' v := by
  cases v with
  | bool b => cases b <;> simp [Leads]
  | _ => simp [Leads]

theorem render_eq_concat (v : Json) : ∃ front c, render v = front ++ [c] ∧ Text.isBlank c = false := by
  cases v with
  | null => exact ⟨['n', 'u', 'l'], 'l', rfl, by decide⟩
  | bool b =>
    cases b
    · exact ⟨['f', 'a', 'l', 's'], 'e', rfl, by decide⟩
    · exact ⟨['t', 'r', 'u'], 'e', rfl, by decide⟩
  | number n =>
    obtain ⟨hall, c, rest, hs, -⟩ := isNumberText_render n
    have hne : n.render ≠ [] := by simp [hs]
    refine ⟨n.render.dropLast, n.render.getLast hne, (List.dropLast_append_getLast hne).symm, ?_⟩
    exact isBlank_of_isNumberChar (List.all_eq_true.mp hall _ (List.getLast_mem hne))
  | string s => exact ⟨'"' :: s.toList.flatMap escapeChar, '"', rfl, by decide⟩
  | array items => exact ⟨'[' :: renderItems items, ']', rfl, by decide⟩
  | object fields => exact ⟨'\x7b' :: renderFields fields, '\x7d', rfl, by decide⟩

theorem trim_render (v : Json) : Text.trim (render v) = render v := by
  obtain ⟨c, rest, hs, hc⟩ := render_eq_cons v
  obtain ⟨front, d, he, hd⟩ := render_eq_concat v
  exact Text.trim_eq_self hs he (isBlank_of_leads hc) hd

/-! ### Reading a value back -/

/-- Strings, booleans and null. -/
def IsLiteral : Json → Prop
  | .null => True
  | .bool _ => True
  | .string _ => True
  | _ => False

theorem isSpace_of_isBlank {c : Char} (h : Text.isBlank c = false) : isSpace c = false := by
  cases hs : isSpace c with
  | false => rfl
  | true =>
    simp only [isSpace, Bool.or_eq_true, beq_iff_eq] at hs
    rcases hs with ((rfl | rfl) | rfl) | rfl <;> exact absurd h (by decide)

theorem readValue_scalar (depth : Nat) {c : Char} (rest : List Char) (hs : isSpace c = false)
    (hl : c ≠ '[') (ho : c ≠ '\x7b') : readValue depth (c :: rest) = readScalar (c :: rest) := by
  have hskip : skipSpace (c :: rest) = c :: rest := by simp [skipSpace, hs]
  cases depth with
  | zero =>
    simp only [readValue, hskip]
    split
    · next h => exact absurd (List.cons.inj h).1 hl
    · next h => exact absurd (List.cons.inj h).1 ho
    · rfl
  | succ depth =>
    simp only [readValue, hskip]
    split
    · next h => exact absurd (List.cons.inj h).1 hl
    · next h => exact absurd (List.cons.inj h).1 ho
    · rfl

theorem readValue_of_literal (depth : Nat) {v : Json} (hv : IsLiteral v) (rest : List Char) :
    readValue depth (render v ++ rest) = .ok (v, rest) := by
  cases v with
  | null => exact readValue_scalar depth _ (by decide) (by decide) (by decide)
  | bool b =>
    cases b
    · exact readValue_scalar depth _ (by decide) (by decide) (by decide)
    · exact readValue_scalar depth _ (by decide) (by decide) (by decide)
  | string s =>
    have hs := readString_flatMap s.toList rest
    rw [String.ofList_toList] at hs
    rw [render, renderString, List.cons_append, List.cons_append,
      readValue_scalar depth _ (by decide) (by decide) (by decide)]
    simp [readScalar, hs, Except.map]
  | number n => exact hv.elim
  | array items => exact hv.elim
  | object fields => exact hv.elim

theorem readScalar_number {c : Char} (hc : c.isDigit = true ∨ c = '-') {rest more : List Char} {w : Json}
    (h : readScalar (c :: rest) = .ok (w, more)) : ∃ n, w = .number n := by
  have hword : c ≠ 'n' ∧ c ≠ 't' ∧ c ≠ 'f' := by
    rcases hc with hc | rfl
    · refine ⟨?_, ?_, ?_⟩ <;> rintro rfl <;> exact absurd hc (by decide)
    · decide
  simp only [readScalar, if_neg hword.1, if_neg hword.2.1, if_neg hword.2.2] at h
  split at h
  · cases hn : readNumber true rest with
    | error e => simp [hn, Except.map] at h
    | ok r =>
      simp only [hn, Except.map, Except.ok.injEq, Prod.mk.injEq] at h
      exact ⟨r.1, h.1.symm⟩
  · next hminus =>
    have hdigit : c.isDigit = true := hc.resolve_right hminus
    rw [if_pos hdigit] at h
    cases hn : readNumber false (c :: rest) with
    | error e => simp [hn, Except.map] at h
    | ok r =>
      simp only [hn, Except.map, Except.ok.injEq, Prod.mk.injEq] at h
      exact ⟨r.1, h.1.symm⟩

theorem readValue_bracket {depth : Nat} {rest more : List Char} {w : Json}
    (h : readValue depth ('[' :: rest) = .ok (w, more)) : ∃ items, w = .array items := by
  cases depth with
  | zero => cases h
  | succ depth =>
    change (readList (readValue depth) rest).map _ = _ at h
    cases hl : readList (readValue depth) rest with
    | error e => simp [hl, Except.map] at h
    | ok r =>
      simp only [hl, Except.map, Except.ok.injEq, Prod.mk.injEq] at h
      exact ⟨r.1, h.1.symm⟩

theorem readValue_brace {depth : Nat} {rest more : List Char} {w : Json}
    (h : readValue depth ('\x7b' :: rest) = .ok (w, more)) : ∃ fields, w = .object fields := by
  cases depth with
  | zero => cases h
  | succ depth =>
    change (readObject (readValue depth) rest).map _ = _ at h
    cases hl : readObject (readValue depth) rest with
    | error e => simp [hl, Except.map] at h
    | ok r =>
      simp only [hl, Except.map, Except.ok.injEq, Prod.mk.injEq] at h
      exact ⟨_, h.1.symm⟩

/-- Only the text of a literal is read as one. -/
theorem eq_of_readValue {depth : Nat} {v w : Json} (hw : IsLiteral w) {rest more : List Char}
    (h : readValue depth (render v ++ rest) = .ok (w, more)) : v = w := by
  have hliteral : IsLiteral v → v = w := fun hv => by
    rw [readValue_of_literal depth hv rest] at h
    cases h
    rfl
  obtain ⟨c, body, hs, hc⟩ := render_eq_cons v
  rw [hs, List.cons_append] at h
  cases v with
  | null => exact hliteral trivial
  | bool b => exact hliteral trivial
  | string s => exact hliteral trivial
  | number n =>
    have hne : c ≠ '[' ∧ c ≠ '\x7b' := by
      rcases hc with hc | rfl
      · constructor <;> rintro rfl <;> exact absurd hc (by decide)
      · decide
    rw [readValue_scalar depth _ (isSpace_of_isBlank (isBlank_of_leads hc)) hne.1 hne.2] at h
    obtain ⟨m, rfl⟩ := readScalar_number hc h
    exact hw.elim
  | array items =>
    obtain rfl := hc
    obtain ⟨items, rfl⟩ := readValue_bracket h
    exact hw.elim
  | object fields =>
    obtain rfl := hc
    obtain ⟨fields, rfl⟩ := readValue_brace h
    exact hw.elim

/-- A text of one value is read as a literal exactly when it is the text of that literal. -/
theorem readText_render_iff {v w : Json} (hw : IsLiteral w) : readText (render v) = .ok w ↔ v = w := by
  constructor
  · intro h
    simp only [readText, bind, Except.bind] at h
    cases hr : readValue maxDepth (render v) with
    | error e => simp [hr] at h
    | ok r =>
      rw [hr] at h
      cases he : readEnd r.2 with
      | error e => simp [he] at h
      | ok u =>
        simp only [he, pure, Except.pure, Except.ok.injEq] at h
        obtain ⟨u, rest⟩ := r
        obtain rfl := h
        rw [← List.append_nil (render v)] at hr
        exact eq_of_readValue hw hr
  · rintro rfl
    have hr := readValue_of_literal maxDepth hw []
    rw [List.append_nil] at hr
    simp only [readText, hr, bind, Except.bind]
    rfl

end ToolPlugins.Json
