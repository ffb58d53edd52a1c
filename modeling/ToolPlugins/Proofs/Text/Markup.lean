import Mathlib
import ToolPlugins.Proofs.Text.Escapes
import ToolPlugins.Text.Markup

/-!
Texts in markup. The marks of a text are the characters that begin or end a tag or the value of an attribute. An inert
text has no marks, and ampersands only where an entity begins; so is every text once it is escaped.
-/

namespace ToolPlugins.Text

/-- A character that can begin or end a tag or the value of an attribute. -/
def isMark (c : Char) : Bool := c == '<' || c == '>' || c == '"' || c == '\x27'

/-- The marks of a text, in order. -/
def marks (s : List Char) : List Char := s.filter isMark

/-- The entities of the characters that are escaped. -/
def entities : List (List Char) :=
  ["&amp;".toList, "&lt;".toList, "&gt;".toList, "&quot;".toList, "&#39;".toList]

/-- Every ampersand of a text begins an entity. -/
def EntitiesOnly (s : List Char) : Prop := ∀ rest, '&' :: rest <:+ s → ∃ e ∈ entities, e <+: '&' :: rest

/-- A text that adds nothing to the markup around it. -/
structure Inert (s : List Char) : Prop where
  marks : marks s = []
  entities : EntitiesOnly s

section
variable {s t : List Char}

@[simp] theorem marks_append (s t : List Char) : marks (s ++ t) = marks s ++ marks t := List.filter_append s t

theorem entitiesOnly_of_not_mem (h : '&' ∉ s) : EntitiesOnly s := begins_of_not_mem h

theorem EntitiesOnly.append (hs : EntitiesOnly s) (ht : EntitiesOnly t) : EntitiesOnly (s ++ t) := Begins.append hs ht

theorem Inert.append (hs : Inert s) (ht : Inert t) : Inert (s ++ t) where
  marks := by rw [marks_append, hs.marks, ht.marks, List.append_nil]
  entities := hs.entities.append ht.entities

theorem Inert.not_mem (h : Inert s) {c : Char} (hc : isMark c = true) : c ∉ s := fun hmem =>
  List.filter_eq_nil_iff.mp h.marks c hmem hc

theorem inert_of_forall (h : ∀ c ∈ s, isMark c = false ∧ c ≠ '&') : Inert s where
  marks := List.filter_eq_nil_iff.mpr fun c hc => by simp [(h c hc).1]
  entities := entitiesOnly_of_not_mem fun hmem => (h _ hmem).2 rfl

theorem inert_nil : Inert [] := inert_of_forall fun _ h => absurd h List.not_mem_nil

theorem inert_entity {e : List Char} (he : '&' :: e ∈ entities) (hmarks : marks ('&' :: e) = []) (hamp : '&' ∉ e) :
    Inert ('&' :: e) where
  marks := hmarks
  entities := begins_word he hamp

theorem inert_escapeMarkupChar (c : Char) : Inert (escapeMarkupChar c) := by
  simp only [escapeMarkupChar]
  split_ifs with hamp hlt hgt hquote happos
  · exact inert_entity (by decide) (by decide) (by decide)
  · exact inert_entity (by decide) (by decide) (by decide)
  · exact inert_entity (by decide) (by decide) (by decide)
  · exact inert_entity (by decide) (by decide) (by decide)
  · exact inert_entity (by decide) (by decide) (by decide)
  · refine inert_of_forall fun d hd => ?_
    rw [List.mem_singleton.mp hd]
    exact ⟨by simp [isMark, hlt, hgt, hquote, happos], hamp⟩

theorem inert_escapeMarkup (s : List Char) : Inert (escapeMarkup s) := by
  induction s with
  | nil => exact inert_nil
  | cons c s ih => exact (inert_escapeMarkupChar c).append ih

theorem inert_of_isAlphanum (h : ∀ c ∈ s, c.isAlphanum = true) : Inert s := by
  refine inert_of_forall fun c hc => ?_
  have hclass : ∀ d : Char, d.isAlphanum = false → c ≠ d := by
    rintro d hd rfl
    rw [h _ hc] at hd
    cases hd
  refine ⟨?_, hclass '&' (by decide)⟩
  simp [isMark, hclass '<' (by decide), hclass '>' (by decide), hclass '"' (by decide), hclass '\x27' (by decide)]

end

end ToolPlugins.Text
