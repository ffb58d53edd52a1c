import Mathlib
import ToolPlugins.Text.Ascii
import ToolPlugins.Text.Blank

/-!
Texts that trimming leaves alone, texts without control characters, and texts that are cut at their line feeds.
-/

namespace ToolPlugins.Text

/-! ### Characters that are not blank -/

theorem isBlank_eq_false {c : Char} (h : 33 ≤ c.toNat) (h' : c.toNat ≤ 126) : isBlank c = false := by
  simp only [isBlank, Bool.or_eq_false_iff, Bool.and_eq_false_iff, decide_eq_false_iff_not,
    beq_eq_false_iff_ne]
  omega

theorem toNat_of_isAlphanum {c : Char} (h : c.isAlphanum = true) : 48 ≤ c.toNat ∧ c.toNat ≤ 122 := by
  simp only [Char.isAlphanum, Char.isAlpha, Char.isUpper, Char.isLower, Char.isDigit, Bool.or_eq_true,
    Bool.and_eq_true, decide_eq_true_eq, ge_iff_le, UInt32.le_iff_toNat_le] at h
  change 48 ≤ c.val.toNat ∧ c.val.toNat ≤ 122
  rcases h with (⟨hl, hu⟩ | ⟨hl, hu⟩) | ⟨hl, hu⟩
  · change 65 ≤ _ at hl
    change _ ≤ 90 at hu
    omega
  · change 97 ≤ _ at hl
    change _ ≤ 122 at hu
    omega
  · change 48 ≤ _ at hl
    change _ ≤ 57 at hu
    omega

theorem isBlank_of_isAlphanum {c : Char} (h : c.isAlphanum = true) : isBlank c = false := by
  obtain ⟨hl, hu⟩ := toNat_of_isAlphanum h
  exact isBlank_eq_false (by omega) (by omega)

/-! ### Trimming -/

theorem trimStart_cons {c : Char} (s : List Char) (h : isBlank c = false) : trimStart (c :: s) = c :: s := by
  simp [trimStart, h]

theorem trimEnd_concat {c : Char} (s : List Char) (h : isBlank c = false) : trimEnd (s ++ [c]) = s ++ [c] := by
  simp [trimEnd, h]

/-- A text that starts and ends with characters that are not blank is left as it is. -/
theorem trim_eq_self {s rest front : List Char} {first last : Char} (hs : s = first :: rest)
    (he : s = front ++ [last]) (hf : isBlank first = false) (hl : isBlank last = false) : trim s = s := by
  have hstart : trimStart s = s := by
    rw [hs]
    exact trimStart_cons rest hf
  rw [trim, hstart, he]
  exact trimEnd_concat front hl

theorem trim_space_cons (s : List Char) : trim (' ' :: s) = trim s := by
  have hb : isBlank ' ' = true := by decide
  simp only [trim, trimStart, List.dropWhile_cons, hb, ↓reduceIte]

/-- Trimming keeps the first character of a text that does not start with a blank. -/
theorem trim_cons {c : Char} (s : List Char) (h : isBlank c = false) : ∃ rest, trim (c :: s) = c :: rest := by
  rw [trim, trimStart_cons s h, trimEnd, List.reverse_cons, List.dropWhile_append]
  split
  · exact ⟨[], by simp [h]⟩
  · exact ⟨(s.reverse.dropWhile isBlank).reverse, by simp⟩

/-- What trimming leaves is empty, or starts and ends with characters that are not blank. -/
theorem trim_cases (s : List Char) : trim s = [] ∨ ∃ first rest front last, trim s = first :: rest ∧
    trim s = front ++ [last] ∧ isBlank first = false ∧ isBlank last = false := by
  cases hstart : trimStart s with
  | nil =>
    left
    rw [trim, hstart]
    rfl
  | cons first rest =>
    right
    have hfirst : isBlank first = false := by
      have hhead := List.head?_dropWhile_not isBlank s
      rw [← trimStart, hstart] at hhead
      exact hhead
    have htrim : trim s = trim (first :: rest) := by rw [trim, trim, trimStart_cons rest hfirst, hstart]
    obtain ⟨more, hmore⟩ := trim_cons rest hfirst
    have hne : (trim s).reverse ≠ [] := by
      rw [htrim, hmore]
      simp
    obtain ⟨last, back, hback⟩ := List.exists_cons_of_ne_nil hne
    have hlast : isBlank last = false := by
      have hhead := List.head?_dropWhile_not isBlank (trimStart s).reverse
      rw [trim, trimEnd, List.reverse_reverse] at hback
      rw [hback] at hhead
      exact hhead
    refine ⟨first, more, back.reverse, last, htrim.trans hmore, ?_, hfirst, hlast⟩
    rw [← List.reverse_cons, ← hback, List.reverse_reverse]

theorem trim_trim (s : List Char) : trim (trim s) = trim s := by
  rcases trim_cases s with h | ⟨first, rest, front, last, hs, he, hfirst, hlast⟩
  · rw [h]
    rfl
  · exact trim_eq_self hs he hfirst hlast

/-- A text that trimming empties is blank. -/
theorem isBlank_of_trim_eq_nil {s : List Char} (h : trim s = []) : ∀ c ∈ s, isBlank c = true := by
  rw [trim, trimEnd, List.reverse_eq_nil_iff, List.dropWhile_eq_nil_iff] at h
  intro c hc
  rw [← List.takeWhile_append_dropWhile (p := isBlank) (l := s)] at hc
  rcases List.mem_append.mp hc with hc | hc
  · exact List.mem_takeWhile_imp hc
  · exact h c (List.mem_reverse.mpr hc)

theorem trim_eq_nil_of_isBlankText {s : List Char} (h : isBlankText s = true) : trim s = [] := by
  have hstart : trimStart s = [] := List.dropWhile_eq_nil_iff.mpr (List.all_eq_true.mp h)
  rw [trim, hstart]
  rfl

/-! ### Control characters -/

/-- A text without the control characters below the space, of which the line feed is one. -/
def NoControl (s : List Char) : Prop := ∀ c ∈ s, 0x20 ≤ c.toNat

section
variable {s t : List Char} {c : Char}

@[simp] theorem noControl_nil : NoControl [] := List.forall_mem_nil _

@[simp] theorem noControl_cons : NoControl (c :: s) ↔ 0x20 ≤ c.toNat ∧ NoControl s := List.forall_mem_cons

@[simp] theorem noControl_append : NoControl (s ++ t) ↔ NoControl s ∧ NoControl t := List.forall_mem_append

theorem NoControl.not_mem (h : NoControl s) (hc : c.toNat < 0x20) : c ∉ s := fun hmem =>
  absurd (h c hmem) (Nat.not_le.mpr hc)

theorem noControl_of_isAlphanum (h : ∀ c ∈ s, c.isAlphanum = true) : NoControl s := fun c hc => by
  have := (toNat_of_isAlphanum (h c hc)).1
  omega

end

end ToolPlugins.Text
