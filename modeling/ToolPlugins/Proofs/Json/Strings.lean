import Mathlib
import ToolPlugins.Json.Scan
import ToolPlugins.Proofs.Result

/-!
How the characters of a string may be written, and that the reader of strings takes exactly the texts that are
written so.
-/

namespace ToolPlugins.Json

/-- The number that hexadecimal digits write behind those of another. -/
def hexNumber? (start : Nat) (digits : List Char) : Option Nat :=
  digits.foldlM (fun value c => (Text.hexValue? c).map (value * 16 + ·)) start

/-- Four hexadecimal digits write a code unit. -/
def WritesUnit (digits : List Char) (unit : Nat) : Prop := digits.length = 4 ∧ hexNumber? 0 digits = some unit

/-- The ways to write a character of a string. No character has the number of half a surrogate pair. -/
inductive WritesChar : List Char → Char → Prop
  | plain {c : Char} : c ≠ '"' → c ≠ '\\' → 0x20 ≤ c.toNat → WritesChar [c] c
  | escape {letter c : Char} : escaped? letter = some c → WritesChar ['\\', letter] c
  | unit {digits : List Char} {c : Char} : WritesUnit digits c.toNat → WritesChar ('\\' :: 'u' :: digits) c
  | pair {first second : List Char} {high low : Nat} {c : Char} : WritesUnit first high → WritesUnit second low →
      0xD800 ≤ high → high ≤ 0xDBFF → 0xDC00 ≤ low → low ≤ 0xDFFF →
      c.toNat = (high - 0xD800) * 1024 + (low - 0xDC00) + 0x10000 →
      WritesChar ('\\' :: 'u' :: first ++ '\\' :: 'u' :: second) c

/-- The text between the quotes of a string, and the characters of the string. -/
inductive Spells : List Char → List Char → Prop
  | nil : Spells [] []
  | cons {piece text chars : List Char} {c : Char} : WritesChar piece c → Spells text chars →
      Spells (piece ++ text) (c :: chars)

theorem WritesChar.length_pos {piece : List Char} {c : Char} (h : WritesChar piece c) : 0 < piece.length := by
  cases h <;> simp

/-! ### Code units -/

theorem hexValue?_lt {c : Char} {n : Nat} (h : Text.hexValue? c = some n) : n < 16 := by
  unfold Text.hexValue? at h
  split_ifs at h with hdigit hsmall hcapital
  · simp only [Char.isDigit, Bool.and_eq_true, decide_eq_true_eq, ge_iff_le, UInt32.le_iff_toNat_le] at hdigit
    cases h
    change 48 ≤ c.toNat ∧ c.toNat ≤ 57 at hdigit
    change c.toNat - 48 < 16
    omega
  · simp only [Bool.and_eq_true, decide_eq_true_eq, Char.le_def, UInt32.le_iff_toNat_le] at hsmall
    cases h
    change 97 ≤ c.toNat ∧ c.toNat ≤ 102 at hsmall
    change c.toNat - 97 + 10 < 16
    omega
  · simp only [Bool.and_eq_true, decide_eq_true_eq, Char.le_def, UInt32.le_iff_toNat_le] at hcapital
    cases h
    change 65 ≤ c.toNat ∧ c.toNat ≤ 70 at hcapital
    change c.toNat - 65 + 10 < 16
    omega

theorem hexNumber?_cons {start : Nat} {c : Char} {digits : List Char} {n : Nat} :
    hexNumber? start (c :: digits) = some n ↔
      ∃ digit, Text.hexValue? c = some digit ∧ hexNumber? (start * 16 + digit) digits = some n := by
  rw [hexNumber?, List.foldlM_cons]
  cases Text.hexValue? c with
  | none => simp
  | some digit => simp [hexNumber?]

theorem hexNumber?_lt {start n : Nat} {digits : List Char} (h : hexNumber? start digits = some n) :
    n < (start + 1) * 16 ^ digits.length := by
  induction digits generalizing start with
  | nil =>
    cases h
    simp
  | cons c digits ih =>
    obtain ⟨digit, hdigit, h⟩ := hexNumber?_cons.mp h
    have hlt := hexValue?_lt hdigit
    calc n < (start * 16 + digit + 1) * 16 ^ digits.length := ih h
      _ ≤ ((start + 1) * 16) * 16 ^ digits.length := Nat.mul_le_mul_right _ (by omega)
      _ = (start + 1) * 16 ^ (c :: digits).length := by rw [List.length_cons]; ring

theorem WritesUnit.lt {digits : List Char} {unit : Nat} (h : WritesUnit digits unit) : unit < 0x10000 := by
  have hlt := hexNumber?_lt h.2
  rw [h.1] at hlt
  omega

/-- Every number below that of a surrogate or above, and in range, is that of a character. -/
theorem toNat_ofNat {n : Nat} (h : n < 0xD800 ∨ (0xDFFF < n ∧ n < 0x110000)) : (Char.ofNat n).toNat = n := by
  rw [Char.toNat_ofNat, if_pos h]

theorem toNat_range (c : Char) : c.toNat < 0xD800 ∨ (0xDFFF < c.toNat ∧ c.toNat < 0x110000) := c.valid

/-! ### The reader -/

/-- What is read after the last digit of a code unit. -/
def afterUnit (unit : Nat) (lead : Option Nat) : Reader (List Char) := fun rest =>
  match unitStep unit lead with
  | .error problem => .error (.here problem rest)
  | .ok (state, none) => readChars state rest
  | .ok (state, some e) => (readChars state rest).map fun (chars, rest) => (e :: chars, rest)

section
variable {s rest chars : List Char} {lead : Option Nat}

theorem readChars_digits (digits : List Char) (hne : digits ≠ []) {value unit : Nat}
    (h : hexNumber? value digits = some unit) (s : List Char) :
    readChars (.digits digits.length value lead) (digits ++ s) = afterUnit unit lead s := by
  induction digits generalizing value with
  | nil => exact absurd rfl hne
  | cons c digits ih =>
    obtain ⟨digit, hdigit, h⟩ := hexNumber?_cons.mp h
    rw [List.cons_append, readChars, hdigit]
    cases digits with
    | nil =>
      cases h
      rfl
    | cons d digits => exact ih (List.cons_ne_nil _ _) h

theorem exists_of_readChars_digits {left value : Nat}
    (h : readChars (.digits (left + 1) value lead) s = .ok (chars, rest)) :
    ∃ digits more unit, s = digits ++ more ∧ digits.length = left + 1 ∧ hexNumber? value digits = some unit ∧
      afterUnit unit lead more = .ok (chars, rest) := by
  induction left generalizing value s with
  | zero =>
    cases s with
    | nil => cases h
    | cons c s =>
      rw [readChars] at h
      cases hdigit : Text.hexValue? c with
      | none => simp [hdigit] at h
      | some digit =>
        simp only [hdigit] at h
        exact ⟨[c], s, value * 16 + digit, rfl, rfl, hexNumber?_cons.mpr ⟨digit, hdigit, rfl⟩, h⟩
  | succ left ih =>
    cases s with
    | nil => cases h
    | cons c s =>
      rw [readChars] at h
      cases hdigit : Text.hexValue? c with
      | none => simp [hdigit] at h
      | some digit =>
        simp only [hdigit] at h
        rw [if_pos (by omega)] at h
        obtain ⟨digits, more, unit, rfl, hlength, hunit, hafter⟩ := ih h
        exact ⟨c :: digits, more, unit, rfl, by rw [List.length_cons, hlength],
          hexNumber?_cons.mpr ⟨digit, hdigit, hunit⟩, hafter⟩

theorem afterUnit_char (c : Char) (s : List Char) :
    afterUnit c.toNat none s = (readChars .plain s).map fun (chars, rest) => (c :: chars, rest) := by
  have hrange := toNat_range c
  rw [afterUnit, unitStep, if_neg, if_neg, Char.ofNat_toNat]
  · simp only [Bool.and_eq_true, decide_eq_true_eq]
    omega
  · simp only [Bool.and_eq_true, decide_eq_true_eq]
    omega

theorem afterUnit_high {high : Nat} (hlow : 0xD800 ≤ high) (hhigh : high ≤ 0xDBFF) (s : List Char) :
    afterUnit high none s = readChars (.pair high) s := by
  rw [afterUnit, unitStep, if_neg, if_pos]
  · simp [hlow, hhigh]
  · simp only [Bool.and_eq_true, decide_eq_true_eq]
    omega

theorem afterUnit_low {high low : Nat} {c : Char} (hlow : 0xDC00 ≤ low) (hhigh : low ≤ 0xDFFF)
    (hc : c.toNat = (high - 0xD800) * 1024 + (low - 0xDC00) + 0x10000) (s : List Char) :
    afterUnit low (some high) s = (readChars .plain s).map fun (chars, rest) => (c :: chars, rest) := by
  rw [afterUnit, unitStep, if_pos, ← hc, Char.ofNat_toNat]
  simp [hlow, hhigh]

theorem readChars_append_of_writesChar {piece : List Char} {c : Char} (h : WritesChar piece c) (s : List Char) :
    readChars .plain (piece ++ s) = (readChars .plain s).map fun (chars, rest) => (c :: chars, rest) := by
  have hunit : ∀ {digits : List Char} {unit : Nat} {lead : Option Nat}, WritesUnit digits unit → ∀ s,
      readChars (.digits 4 0 lead) (digits ++ s) = afterUnit unit lead s := by
    intro digits unit lead hdigits s
    rw [← hdigits.1]
    exact readChars_digits digits (List.ne_nil_of_length_eq_add_one hdigits.1) hdigits.2 s
  cases h with
  | plain hquote hbackslash hcontrol => simp [readChars, hquote, hbackslash, Nat.not_lt.mpr hcontrol]
  | escape hletter =>
    have hu : ∀ letter, escaped? letter = some c → letter ≠ 'u' := by
      rintro letter h rfl
      cases h
    simp [readChars, hu _ hletter, hletter]
  | unit hdigits =>
    rw [← afterUnit_char, ← hunit hdigits]
    simp [readChars]
  | @pair first second high low _ hfirst hsecond hhigh hhigh' hlow hlow' hc =>
    have hread : readChars .plain ('\\' :: 'u' :: (first ++ '\\' :: 'u' :: (second ++ s))) =
        readChars (.digits 4 0 none) (first ++ '\\' :: 'u' :: (second ++ s)) := by
      simp [readChars]
    have hpair : readChars (.pair high) ('\\' :: 'u' :: (second ++ s)) =
        readChars (.digits 4 0 (some high)) (second ++ s) := by
      simp [readChars]
    calc readChars .plain ('\\' :: 'u' :: first ++ '\\' :: 'u' :: second ++ s)
        = readChars .plain ('\\' :: 'u' :: (first ++ '\\' :: 'u' :: (second ++ s))) := by
          simp only [List.cons_append, List.append_assoc]
      _ = afterUnit high none ('\\' :: 'u' :: (second ++ s)) := hread.trans (hunit hfirst _)
      _ = afterUnit low (some high) s := by rw [afterUnit_high hhigh hhigh', hpair, hunit hsecond]
      _ = _ := afterUnit_low hlow hlow' hc s

theorem afterUnit_none_cases {unit : Nat} (hlt : unit < 0x10000) (h : afterUnit unit none s = .ok (chars, rest)) :
    (∃ c more, c.toNat = unit ∧ chars = c :: more ∧ readChars .plain s = .ok (more, rest)) ∨
      (0xD800 ≤ unit ∧ unit ≤ 0xDBFF ∧ readChars (.pair unit) s = .ok (chars, rest)) := by
  rw [afterUnit, unitStep] at h
  split_ifs at h with hlow hhigh
  · simp only [Bool.and_eq_true, decide_eq_true_eq] at hhigh
    exact .inr ⟨hhigh.1, hhigh.2, h⟩
  · simp only [Bool.and_eq_true, decide_eq_true_eq] at hlow hhigh
    obtain ⟨⟨more, rest'⟩, hread, heq⟩ := map_eq_ok_iff.mp h
    cases heq
    exact .inl ⟨Char.ofNat unit, more, toNat_ofNat (by omega), rfl, hread⟩

theorem afterUnit_some_cases {unit high : Nat} (hhigh : 0xD800 ≤ high) (hhigh' : high ≤ 0xDBFF)
    (h : afterUnit unit (some high) s = .ok (chars, rest)) :
    ∃ c more, 0xDC00 ≤ unit ∧ unit ≤ 0xDFFF ∧ c.toNat = (high - 0xD800) * 1024 + (unit - 0xDC00) + 0x10000 ∧
      chars = c :: more ∧ readChars .plain s = .ok (more, rest) := by
  rw [afterUnit, unitStep] at h
  split_ifs at h with hlow
  · simp only [Bool.and_eq_true, decide_eq_true_eq] at hlow
    obtain ⟨⟨more, rest'⟩, hread, heq⟩ := map_eq_ok_iff.mp h
    cases heq
    exact ⟨_, more, hlow.1, hlow.2, toNat_ofNat (by omega), rfl, hread⟩

theorem exists_of_readChars_pair {high : Nat} (h : readChars (.pair high) s = .ok (chars, rest)) :
    ∃ second more low, s = '\\' :: 'u' :: second ++ more ∧ WritesUnit second low ∧
      afterUnit low (some high) more = .ok (chars, rest) := by
  cases s with
  | nil => cases h
  | cons c s =>
    rw [readChars] at h
    split_ifs at h with hbackslash
    cases s with
    | nil => cases h
    | cons d s =>
      rw [readChars] at h
      split_ifs at h with hu
      obtain ⟨second, more, low, rfl, hlength, hlow, hafter⟩ := exists_of_readChars_digits h
      exact ⟨second, more, low, by rw [hbackslash, hu]; rfl, ⟨hlength, hlow⟩, hafter⟩

/-- The reader is at the closing quote, or a written character stands before the rest of the string. -/
theorem readChars_cases (h : readChars .plain s = .ok (chars, rest)) :
    (s = '"' :: rest ∧ chars = []) ∨
      ∃ piece c s' chars', WritesChar piece c ∧ s = piece ++ s' ∧ chars = c :: chars' ∧
        readChars .plain s' = .ok (chars', rest) := by
  cases s with
  | nil => cases h
  | cons c s =>
    rw [readChars] at h
    split_ifs at h with hquote hbackslash hcontrol
    · cases h
      exact .inl ⟨by rw [hquote], rfl⟩
    · refine .inr ?_
      subst hbackslash
      cases s with
      | nil => cases h
      | cons letter s =>
        rw [readChars] at h
        split_ifs at h with hu
        · subst hu
          obtain ⟨digits, more, unit, rfl, hlength, hunit, hafter⟩ := exists_of_readChars_digits h
          have hdigits : WritesUnit digits unit := ⟨hlength, hunit⟩
          rcases afterUnit_none_cases hdigits.lt hafter with ⟨c, chars', hc, rfl, hread⟩ | ⟨hhigh, hhigh', hpair⟩
          · subst hc
            exact ⟨_, c, more, chars', .unit hdigits, rfl, rfl, hread⟩
          · obtain ⟨second, more', low, rfl, hsecond, hafter⟩ := exists_of_readChars_pair hpair
            obtain ⟨c, chars', hlow, hlow', hc, rfl, hread⟩ := afterUnit_some_cases hhigh hhigh' hafter
            exact ⟨_, c, more', chars', .pair hdigits hsecond hhigh hhigh' hlow hlow' hc, by simp, rfl, hread⟩
        · cases hletter : escaped? letter with
          | none => simp [hletter] at h
          | some e =>
            simp only [hletter] at h
            obtain ⟨⟨chars', rest'⟩, hread, heq⟩ := map_eq_ok_iff.mp h
            cases heq
            exact ⟨_, e, s, chars', .escape hletter, rfl, rfl, hread⟩
    · obtain ⟨⟨chars', rest'⟩, hread, heq⟩ := map_eq_ok_iff.mp h
      cases heq
      exact .inr ⟨[c], c, s, chars', .plain hquote hbackslash (Nat.not_lt.mp hcontrol), rfl, rfl, hread⟩

/-- The reader of a string takes what is spelled up to the next quote. -/
theorem readChars_eq_ok_iff :
    readChars .plain s = .ok (chars, rest) ↔ ∃ text, s = text ++ '"' :: rest ∧ Spells text chars := by
  constructor
  · intro h
    -- on the length, since a character may be written in twelve
    induction hn : s.length using Nat.strong_induction_on generalizing s chars with
    | _ n ih =>
      rcases readChars_cases h with ⟨rfl, rfl⟩ | ⟨piece, c, s', chars', hpiece, rfl, rfl, hread⟩
      · exact ⟨[], rfl, .nil⟩
      · have hlt : s'.length < n := by
          have hpos := hpiece.length_pos
          rw [List.length_append] at hn
          omega
        obtain ⟨text, rfl, htext⟩ := ih s'.length hlt hread rfl
        exact ⟨piece ++ text, (List.append_assoc ..).symm, .cons hpiece htext⟩
  · rintro ⟨text, rfl, h⟩
    induction h with
    | nil => rfl
    | cons hpiece _ ih =>
      rw [List.append_assoc, readChars_append_of_writesChar hpiece, ih]
      rfl

end

end ToolPlugins.Json
