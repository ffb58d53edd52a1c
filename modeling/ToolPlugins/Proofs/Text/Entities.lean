import Mathlib
import ToolPlugins.Proofs.Text.Markup

/-!
Entities that are read back. A reader goes through a text from left to right and puts its character for each entity
that it comes to. So it undoes the escaping, also of texts that look like entities themselves; and the texts that
escaping writes are the inert ones.
-/

namespace ToolPlugins.Text

/-- A text with the characters that its entities stand for, read from left to right: an ampersand that begins no entity
    stands for itself. -/
def unescapeMarkup : List Char → List Char
  | '&' :: 'a' :: 'm' :: 'p' :: ';' :: rest => '&' :: unescapeMarkup rest
  | '&' :: 'l' :: 't' :: ';' :: rest => '<' :: unescapeMarkup rest
  | '&' :: 'g' :: 't' :: ';' :: rest => '>' :: unescapeMarkup rest
  | '&' :: 'q' :: 'u' :: 'o' :: 't' :: ';' :: rest => '"' :: unescapeMarkup rest
  | '&' :: '#' :: '3' :: '9' :: ';' :: rest => '\x27' :: unescapeMarkup rest
  | c :: rest => c :: unescapeMarkup rest
  | [] => []

/-- `unescapeMarkup` on strings. -/
def unescaped (s : String) : String := String.ofList (unescapeMarkup s.toList)

section
variable {c : Char} {s : List Char}

theorem unescapeMarkup_cons (h : c ≠ '&') (s : List Char) : unescapeMarkup (c :: s) = c :: unescapeMarkup s := by
  rw [unescapeMarkup] <;> simp [h]

theorem unescapeMarkup_escapeMarkupChar_append (c : Char) (s : List Char) :
    unescapeMarkup (escapeMarkupChar c ++ s) = c :: unescapeMarkup s := by
  rw [escapeMarkupChar]
  split_ifs with hamp hlt hgt hquote happos
  · rw [hamp]
    rfl
  · rw [hlt]
    rfl
  · rw [hgt]
    rfl
  · rw [hquote]
    rfl
  · rw [happos]
    rfl
  · exact unescapeMarkup_cons hamp s

theorem unescapeMarkup_escapeMarkup (s : List Char) : unescapeMarkup (escapeMarkup s) = s := by
  induction s with
  | nil => rfl
  | cons c s ih =>
    rw [escapeMarkup] at ih ⊢
    rw [List.flatMap_cons, unescapeMarkup_escapeMarkupChar_append, ih]

theorem escapeMarkupChar_eq_self (hamp : c ≠ '&') (hmark : isMark c = false) : escapeMarkupChar c = [c] := by
  simp only [isMark, Bool.or_eq_false_iff, beq_eq_false_iff_ne] at hmark
  obtain ⟨⟨⟨hlt, hgt⟩, hquote⟩, happos⟩ := hmark
  rw [escapeMarkupChar, if_neg hamp, if_neg hlt, if_neg hgt, if_neg hquote, if_neg happos]

theorem exists_escapeMarkupChar_eq {e : List Char} (h : e ∈ entities) : e ≠ [] ∧ ∃ c, escapeMarkupChar c = e := by
  simp only [entities, List.mem_cons, List.not_mem_nil, or_false] at h
  rcases h with rfl | rfl | rfl | rfl | rfl
  · exact ⟨by decide, '&', by decide⟩
  · exact ⟨by decide, '<', by decide⟩
  · exact ⟨by decide, '>', by decide⟩
  · exact ⟨by decide, '"', by decide⟩
  · exact ⟨by decide, '\x27', by decide⟩

theorem Inert.exists_escapeMarkup_eq (h : Inert s) : ∃ t, escapeMarkup t = s := by
  refine Begins.exists_flatMap_eq (c := '&') h.entities (fun e => exists_escapeMarkupChar_eq) fun d hd hamp => ?_
  exact escapeMarkupChar_eq_self hamp (Bool.eq_false_iff.mpr (List.filter_eq_nil_iff.mp h.marks d hd))

theorem escapeMarkup_unescapeMarkup (h : Inert s) : escapeMarkup (unescapeMarkup s) = s := by
  obtain ⟨t, rfl⟩ := h.exists_escapeMarkup_eq
  rw [unescapeMarkup_escapeMarkup]

end

/-- Writing a text in markup and reading it back undo each other. -/
structure Escapes (write read : String → String) : Prop where
  read_write : ∀ text, read (write text) = text
  injective : Function.Injective write
  /-- What is written cannot begin or end a tag or a value. -/
  unmarked : ∀ text, ∀ c ∈ ['<', '>', '"', '\x27'], c ∉ (write text).toList
  /-- Each ampersand of what is written begins an entity. -/
  entities : ∀ text, EntitiesOnly (write text).toList
  append : ∀ text more, write (text ++ more) = write text ++ write more
  /-- Nothing else is like what is written: an inert text is what its reading is written as. -/
  write_read : ∀ markup, Inert markup.toList → write (read markup) = markup

theorem isMark_of_mem {c : Char} (h : c ∈ ['<', '>', '"', '\x27']) : isMark c = true := by
  simp only [List.mem_cons, List.not_mem_nil, or_false] at h
  rcases h with rfl | rfl | rfl | rfl <;> rfl

theorem unescaped_escaped (text : String) : unescaped (escaped text) = text := by
  rw [unescaped, escaped, String.toList_ofList, unescapeMarkup_escapeMarkup, String.ofList_toList]

theorem inert_escaped (text : String) : Inert (escaped text).toList := by
  rw [escaped, String.toList_ofList]
  exact inert_escapeMarkup text.toList

theorem escaped_append (text more : String) : escaped (text ++ more) = escaped text ++ escaped more := by
  rw [escaped, escapeMarkup, String.toList_append, List.flatMap_append, String.ofList_append]
  rfl

theorem escaped_unescaped {markup : String} (h : Inert markup.toList) : escaped (unescaped markup) = markup := by
  rw [escaped, unescaped, String.toList_ofList, escapeMarkup_unescapeMarkup h, String.ofList_toList]

/-- Escaping loses nothing: whatever a text looks like, reading the entities gives it back, and what is written is inert,
    part by part. -/
theorem escapes_escaped : Escapes escaped unescaped where
  read_write := unescaped_escaped
  injective := Function.LeftInverse.injective unescaped_escaped
  unmarked := fun text _ hc => (inert_escaped text).not_mem (isMark_of_mem hc)
  entities := fun text => (inert_escaped text).entities
  append := escaped_append
  write_read := fun _ => escaped_unescaped

/-- A text that looks like an entity is read as it was written, and not as what it looks like. -/
example : escaped "&lt;" = "&amp;lt;" ∧ unescaped "&amp;lt;" = "&lt;" := by decide +kernel

end ToolPlugins.Text
