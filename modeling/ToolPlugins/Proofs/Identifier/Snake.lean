import Mathlib
import ToolPlugins.Proofs.FileTree.Paths
import ToolPlugins.Proofs.Identifier.Canonical

/-!
The snake case of a canonical identifier is a small letter followed by small letters, digits and underscores, so it can
be the name of a file, and no other canonical identifier has the same.
-/

namespace ToolPlugins

/-- A small letter followed by small letters, digits and underscores. -/
def IsSnake (s : String) : Prop :=
  ∃ c rest, s.toList = c :: rest ∧ ('a' ≤ c ∧ c ≤ 'z') ∧
    ∀ d ∈ rest, ('a' ≤ d ∧ d ≤ 'z') ∨ ('0' ≤ d ∧ d ≤ '9') ∨ d = '_'

theorem Text.toLower_of_isUpper {c : Char} (h : c.isUpper = true) :
    c.toLower.toNat = c.toNat + 32 ∧ 'a' ≤ c.toLower ∧ c.toLower ≤ 'z' := by
  have hall : ∀ n < 123, (Char.ofNat n).isUpper = true → (Char.ofNat n).toLower.toNat = (Char.ofNat n).toNat + 32 ∧
      'a' ≤ (Char.ofNat n).toLower ∧ (Char.ofNat n).toLower ≤ 'z' := by decide
  have hletter : c.isAlphanum = true := by simp [Char.isAlphanum, Char.isAlpha, h]
  have hc := hall c.toNat (by have := (Text.toNat_of_isAlphanum hletter).2; omega)
  rw [Char.ofNat_toNat] at hc
  exact hc h

namespace Identifier

theorem toLower_inj {c d : Char} (hc : c.isUpper = true) (hd : d.isUpper = true) (h : c.toLower = d.toLower) : c = d := by
  have hlower := congrArg Char.toNat h
  rw [(Text.toLower_of_isUpper hc).1, (Text.toLower_of_isUpper hd).1] at hlower
  exact Char.toNat_inj.mp (by omega)

theorem exists_of_isCanonicalChars {s : List Char} (h : isCanonicalChars s = true) :
    ∃ c rest, s = c :: rest ∧ c.isUpper = true ∧ ∀ d ∈ rest, d.isAlphanum = true := by
  cases s with
  | nil => cases h
  | cons c rest =>
    rw [isCanonicalChars, Bool.and_eq_true, List.all_eq_true] at h
    exact ⟨c, rest, rfl, h⟩

/-- A capital makes an underscore and a small letter, and other characters are kept. -/
theorem mem_snakeChar {c d : Char} (hc : c.isAlphanum = true) (hd : d ∈ snakeChar c) :
    ('a' ≤ d ∧ d ≤ 'z') ∨ ('0' ≤ d ∧ d ≤ '9') ∨ d = '_' := by
  rw [snakeChar] at hd
  split_ifs at hd with hupper
  · rcases List.mem_cons.mp hd with rfl | hd
    · exact .inr (.inr rfl)
    · rw [List.mem_singleton.mp hd]
      exact .inl (Text.toLower_of_isUpper hupper).2
  · rw [List.mem_singleton.mp hd]
    have hcases : c.isLower = true ∨ c.isDigit = true := by
      simpa [Char.isAlphanum, Char.isAlpha, hupper] using hc
    simp only [Char.isLower, Char.isDigit, Bool.and_eq_true, decide_eq_true_eq] at hcases
    exact hcases.imp_right .inl

theorem isSnake_snakeCase {identifier : String} (h : isCanonical identifier = true) : IsSnake (snakeCase identifier) := by
  obtain ⟨c, rest, hchars, hupper, hrest⟩ := exists_of_isCanonicalChars h
  refine ⟨c.toLower, rest.flatMap snakeChar, ?_, (Text.toLower_of_isUpper hupper).2, ?_⟩
  · rw [snakeCase, String.toList_ofList, hchars, snakeChars]
  · intro d hd
    obtain ⟨e, he, hd⟩ := List.mem_flatMap.mp hd
    exact mem_snakeChar (hrest e he) hd

/-- An underscore tells of a capital, and any other character stands for itself. -/
theorem flatMap_snakeChar_inj {s t : List Char} (hs : ∀ c ∈ s, c.isAlphanum = true) (ht : ∀ c ∈ t, c.isAlphanum = true)
    (h : s.flatMap snakeChar = t.flatMap snakeChar) : s = t := by
  have hne : ∀ c, snakeChar c ≠ [] := by
    intro c
    rw [snakeChar]
    split_ifs <;> exact List.cons_ne_nil _ _
  have hunderscore : ∀ c : Char, c.isAlphanum = true → c ≠ '_' := by
    rintro c hc rfl
    cases hc
  induction s generalizing t with
  | nil =>
    cases t with
    | nil => rfl
    | cons d t =>
      rw [List.flatMap_nil, List.flatMap_cons] at h
      exact absurd (List.append_eq_nil_iff.mp h.symm).1 (hne d)
  | cons c s ih =>
    obtain ⟨hc, hs⟩ := List.forall_mem_cons.mp hs
    cases t with
    | nil =>
      rw [List.flatMap_nil, List.flatMap_cons] at h
      exact absurd (List.append_eq_nil_iff.mp h).1 (hne c)
    | cons d t =>
      obtain ⟨hd, ht⟩ := List.forall_mem_cons.mp ht
      rw [List.flatMap_cons, List.flatMap_cons, snakeChar, snakeChar] at h
      -- where one is a capital and the other is not, the other would be the underscore
      split_ifs at h with hcapital hcapital' hcapital'
      · obtain ⟨hlower, h⟩ := List.cons.inj (List.cons.inj h).2
        rw [toLower_inj hcapital hcapital' hlower, ih hs ht h]
      · exact absurd (List.cons.inj h).1.symm (hunderscore d hd)
      · exact absurd (List.cons.inj h).1 (hunderscore c hc)
      · obtain ⟨hsame, h⟩ := List.cons.inj h
        rw [hsame, ih hs ht h]

theorem snakeCase_inj {a b : String} (ha : isCanonical a = true) (hb : isCanonical b = true)
    (h : snakeCase a = snakeCase b) : a = b := by
  obtain ⟨c, s, hchars, hc, hs⟩ := exists_of_isCanonicalChars ha
  obtain ⟨d, t, hchars', hd, ht⟩ := exists_of_isCanonicalChars hb
  rw [snakeCase, snakeCase, String.ofList_inj, hchars, hchars', snakeChars, snakeChars] at h
  obtain ⟨hfirst, hrest⟩ := List.cons.inj h
  rw [← String.toList_inj, hchars, hchars', toLower_inj hc hd hfirst, flatMap_snakeChar_inj hs ht hrest]

end Identifier

/-- The snake case of a canonical identifier, and what is put behind it, is the name of a file. -/
theorem Path.isName_of_isSnake {s : String} (h : IsSnake s) (ending : String) (hending : '/' ∉ ending.toList) :
    IsName (s ++ ending) := by
  obtain ⟨c, rest, hchars, ⟨hlow, hhigh⟩, hrest⟩ := h
  have hstart : ∀ name : String, name.toList.head? ≠ some c → s ++ ending ≠ name := by
    rintro name hname rfl
    rw [String.toList_append, hchars] at hname
    exact hname rfl
  refine ⟨?_, ?_, hstart ".." ?_⟩
  · rw [String.toList_append, hchars, List.mem_append, not_or]
    refine ⟨?_, hending⟩
    intro hslash
    rcases List.mem_cons.mp hslash with rfl | hslash
    · exact absurd hlow (by decide)
    · rcases hrest _ hslash with h | h | h
      · exact absurd h.1 (by decide)
      · exact absurd h.1 (by decide)
      · cases h
  · rw [isIdle, Bool.or_eq_false_iff, decide_eq_false_iff_not, decide_eq_false_iff_not]
    refine ⟨hstart "" (by simp), hstart "." ?_⟩
    rintro ⟨⟩
    exact absurd hlow (by decide)
  · rintro ⟨⟩
    exact absurd hlow (by decide)

end ToolPlugins
