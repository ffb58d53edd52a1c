import Mathlib
import ToolPlugins.Proofs.Text.Delimiter

/-!
Texts that are written character by character, where some characters are written as words that begin with a character
of their own. The texts that are written so are those in which this character stands nowhere but at the beginning of
such a word.
-/

namespace ToolPlugins.Text

/-- Wherever a character stands in a text, it begins one of these words. -/
def Begins (c : Char) (words : List (List Char)) (s : List Char) : Prop :=
  ∀ rest, c :: rest <:+ s → ∃ word ∈ words, word <+: c :: rest

section
variable {c : Char} {words : List (List Char)} {s t : List Char}

theorem begins_of_not_mem (h : c ∉ s) : Begins c words s := fun _ hrest =>
  absurd (hrest.subset List.mem_cons_self) h

theorem Begins.of_suffix (h : Begins c words s) (ht : t <:+ s) : Begins c words t := fun rest hrest =>
  h rest (hrest.trans ht)

theorem Begins.append (hs : Begins c words s) (ht : Begins c words t) : Begins c words (s ++ t) := by
  intro rest hrest
  rcases suffix_append_cases hrest with hrest | ⟨u, hu, hne, heq⟩
  · exact ht rest hrest
  · obtain ⟨d, u, rfl⟩ := List.exists_cons_of_ne_nil hne
    obtain ⟨rfl, rfl⟩ := List.cons.inj heq
    obtain ⟨word, hword, hbegins⟩ := hs u hu
    exact ⟨word, hword, hbegins.trans (List.prefix_append _ t)⟩

theorem begins_word {rest : List Char} (hword : c :: rest ∈ words) (h : c ∉ rest) : Begins c words (c :: rest) := by
  intro more hmore
  -- the character stands nowhere else in the word
  rcases List.suffix_cons_iff.mp hmore with heq | htail
  · exact ⟨_, hword, heq ▸ List.prefix_refl _⟩
  · exact absurd (htail.subset List.mem_cons_self) h

theorem begins_flatMap {α : Type} {f : α → List Char} {l : List α} (h : ∀ x ∈ l, Begins c words (f x)) :
    Begins c words (l.flatMap f) := by
  induction l with
  | nil => exact begins_of_not_mem List.not_mem_nil
  | cons x l ih =>
    obtain ⟨hx, hl⟩ := List.forall_mem_cons.mp h
    rw [List.flatMap_cons]
    exact hx.append (ih hl)

/-- If the words are what some characters are written as, and all other characters are written as they are, the text is
    written for a text. -/
theorem Begins.exists_flatMap_eq {write : Char → List Char} (h : Begins c words s)
    (hwords : ∀ word ∈ words, word ≠ [] ∧ ∃ d, write d = word) (hplain : ∀ d ∈ s, d ≠ c → write d = [d]) :
    ∃ t : List Char, t.flatMap write = s := by
  -- a word may have more than one character, so the induction is on the length
  induction hn : s.length using Nat.strong_induction_on generalizing s with
  | _ n ih =>
    have behind : ∀ (d : Char) (rest : List Char), s = write d ++ rest → write d ≠ [] →
        ∃ t : List Char, t.flatMap write = s := by
      rintro d rest rfl hne
      have hlt : rest.length < n := by
        rw [← hn, List.length_append]
        exact Nat.lt_add_of_pos_left (List.length_pos_iff.mpr hne)
      obtain ⟨t, ht⟩ := ih _ hlt (h.of_suffix (List.suffix_append _ rest))
        (fun e he => hplain e (List.mem_append_right _ he)) rfl
      exact ⟨d :: t, by rw [List.flatMap_cons, ht]⟩
    cases s with
    | nil => exact ⟨[], rfl⟩
    | cons d rest =>
      by_cases hd : d = c
      · subst hd
        obtain ⟨word, hword, more, hmore⟩ := h rest (List.suffix_refl _)
        obtain ⟨hne, e, rfl⟩ := hwords word hword
        exact behind e more hmore.symm hne
      · have hwrite := hplain d List.mem_cons_self hd
        exact behind d rest (by rw [hwrite, List.singleton_append]) (by simp [hwrite])

end

end ToolPlugins.Text
