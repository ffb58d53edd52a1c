import Mathlib
import ToolPlugins.Identifier
import ToolPlugins.Proofs.Text.Trim

/-!
The identifier of a tool name is canonical, whatever the name: a capital followed by letters and digits.
-/

namespace ToolPlugins.Identifier

theorem mem_wordChars {name : List Char} {c : Char} (h : c ∈ wordChars name) : Text.isWord c = true :=
  (List.mem_filter.mp h).2

theorem mem_of_mem_dropDigit {s : List Char} {c : Char} (h : c ∈ dropDigit s) : c ∈ s := by
  cases s with
  | nil => exact h
  | cons d rest =>
    rw [dropDigit] at h
    split_ifs at h
    · exact List.mem_cons_of_mem d h
    · exact h

/-- A letter or digit in capitals is a capital or a digit. -/
theorem toUpper_of_isAlphanum {c : Char} (h : c.isAlphanum = true) :
    c.toUpper.isAlphanum = true ∧ (c.toUpper.isUpper = true ∨ c.toUpper.isDigit = true) := by
  have hall : ∀ n < 123, (Char.ofNat n).isAlphanum = true →
      (Char.ofNat n).toUpper.isAlphanum = true ∧
        ((Char.ofNat n).toUpper.isUpper = true ∨ (Char.ofNat n).toUpper.isDigit = true) := by decide
  have hc := hall c.toNat (by have := (Text.toNat_of_isAlphanum h).2; omega)
  rw [Char.ofNat_toNat] at hc
  exact hc h

theorem isAlphanum_of_isWord {c : Char} (h : Text.isWord c = true) (hne : c ≠ '_') : c.isAlphanum = true := by
  simpa [Text.isWord, hne] using h

theorem isAlphanum_of_mem_pascal {start : Bool} {s : List Char} (h : ∀ c ∈ s, Text.isWord c = true) :
    ∀ c ∈ pascal start s, c.isAlphanum = true := by
  induction s generalizing start with
  | nil => intro c hc; cases hc
  | cons d rest ih =>
    have hrest : ∀ c ∈ rest, Text.isWord c = true := fun c hc => h c (List.mem_cons_of_mem d hc)
    intro c hc
    unfold pascal at hc
    split at hc
    · exact ih hrest c hc
    · next hne =>
      have hd := isAlphanum_of_isWord (h d List.mem_cons_self) hne
      rcases List.mem_cons.mp hc with rfl | hc
      · split
        · exact (toUpper_of_isAlphanum hd).1
        · exact hd
      · exact ih hrest c hc

theorem pascal_eq_cons {s rest : List Char} {c : Char} (h : ∀ c ∈ s, Text.isWord c = true)
    (hs : pascal true s = c :: rest) : c.isUpper = true ∨ c.isDigit = true := by
  induction s with
  | nil => cases hs
  | cons d more ih =>
    unfold pascal at hs
    split at hs
    · exact ih (fun c hc => h c (List.mem_cons_of_mem d hc)) hs
    · next hne =>
      cases hs
      exact (toUpper_of_isAlphanum (isAlphanum_of_isWord (h d List.mem_cons_self) hne)).2

theorem isCanonicalChars_classifyChars (name : List Char) : isCanonicalChars (classifyChars name) = true := by
  have hword : ∀ c ∈ dropDigit (wordChars name), Text.isWord c = true := fun c hc =>
    mem_wordChars (mem_of_mem_dropDigit hc)
  have hall := @isAlphanum_of_mem_pascal true _ hword
  unfold classifyChars
  split
  · decide
  · next c rest hs =>
    rw [hs] at hall
    split
    · simpa [digitLead, isCanonicalChars] using hall
    · next hdigit =>
      have hupper := (pascal_eq_cons hword hs).resolve_right hdigit
      simp only [isCanonicalChars, hupper, Bool.true_and, List.all_eq_true]
      exact fun d hd => hall d (List.mem_cons_of_mem c hd)

theorem isCanonical_classify (name : String) : isCanonical (classify name) = true := by
  rw [isCanonical, classify, String.toList_ofList]
  exact isCanonicalChars_classifyChars name.toList

/-! ### The characters of an identifier -/

theorem isAlphanum_of_isCanonicalChars {s : List Char} (h : isCanonicalChars s = true) :
    ∀ c ∈ s, c.isAlphanum = true := by
  cases s with
  | nil => cases h
  | cons c rest =>
    simp only [isCanonicalChars, Bool.and_eq_true, List.all_eq_true] at h
    intro d hd
    rcases List.mem_cons.mp hd with rfl | hd
    · simp [Char.isAlphanum, Char.isAlpha, h.1]
    · exact h.2 d hd

end ToolPlugins.Identifier
