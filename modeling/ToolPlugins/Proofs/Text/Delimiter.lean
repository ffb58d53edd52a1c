import Mathlib

/-!
Texts that end where a delimiter is met first. A text clears a delimiter when no occurrence of it starts in the
text, whatever comes after the text; then the delimiter after it shows where it ends. A delimiter of one character
cuts a text into the parts that do not have it.
-/

namespace ToolPlugins.Text

/-- No occurrence of a delimiter starts in a text, whatever follows: wherever it could start, the text goes on
    differently before it ends. -/
def Clears (tag s : List Char) : Prop := ∀ t, t <:+ s → t ≠ [] → ¬t <+: tag ∧ ¬tag <+: t

instance (tag s : List Char) : Decidable (Clears tag s) :=
  decidable_of_iff (∀ t ∈ s.tails, t ≠ [] → ¬t <+: tag ∧ ¬tag <+: t) (by simp only [List.mem_tails, Clears])

section
variable {tag s t : List Char}

theorem suffix_append_cases {l : List Char} (h : l <:+ s ++ t) : l <:+ t ∨ ∃ u, u <:+ s ∧ u ≠ [] ∧ l = u ++ t := by
  obtain ⟨front, h⟩ := h
  rcases List.append_eq_append_iff.mp h with ⟨u, hs, hl⟩ | ⟨u, -, ht⟩
  · rcases eq_or_ne u [] with rfl | hu
    · exact .inl (by rw [hl, List.nil_append])
    · exact .inr ⟨u, ⟨front, hs.symm⟩, hu, hl⟩
  · exact .inl ⟨u, ht.symm⟩

theorem Clears.append (hs : Clears tag s) (ht : Clears tag t) : Clears tag (s ++ t) := by
  intro l hl hne
  rcases suffix_append_cases hl with hl | ⟨u, hu, hu', rfl⟩
  · exact ht l hl hne
  · obtain ⟨hshort, hlong⟩ := hs u hu hu'
    refine ⟨fun h => hshort ((List.prefix_append u t).trans h), fun h => ?_⟩
    -- the delimiter and what is left of the first text both begin the same text
    rcases List.prefix_or_prefix_of_prefix h (List.prefix_append u t) with h | h
    · exact hlong h
    · exact hshort h

theorem clears_of_not_mem {c : Char} {rest : List Char} (h : c ∉ s) : Clears (c :: rest) s := by
  intro t ht hne
  obtain ⟨d, t, rfl⟩ := List.exists_cons_of_ne_nil hne
  have hd : c ≠ d := fun heq => h (heq ▸ ht.subset List.mem_cons_self)
  exact ⟨fun h => hd (List.cons_prefix_cons.mp h).1.symm, fun h => hd (List.cons_prefix_cons.mp h).1⟩

/-- After a text that clears a delimiter, the delimiter does not stand earlier than at its end. -/
theorem Clears.eq_nil {u x y : List Char} (h : Clears tag (s ++ u)) (heq : tag ++ x = u ++ y) : u = [] := by
  by_contra hne
  obtain ⟨hshort, hlong⟩ := h u (List.suffix_append s u) hne
  rcases List.prefix_or_prefix_of_prefix (List.prefix_append u y) ⟨x, heq⟩ with h | h
  · exact hshort h
  · exact hlong h

/-- A delimiter that two texts clear ends both in the same place. -/
theorem append_inj_of_clears {x y : List Char} (hs : Clears tag s) (ht : Clears tag t)
    (h : s ++ (tag ++ x) = t ++ (tag ++ y)) : s = t ∧ x = y := by
  rcases List.append_eq_append_iff.mp h with ⟨u, rfl, heq⟩ | ⟨u, rfl, heq⟩
  · obtain rfl := ht.eq_nil heq
    exact ⟨(List.append_nil s).symm, List.append_cancel_left heq⟩
  · obtain rfl := hs.eq_nil heq
    exact ⟨List.append_nil t, (List.append_cancel_left heq).symm⟩

/-! ### Parts between delimiters -/

theorem exists_parts (c : Char) (s : List Char) :
    ∃ first parts, (∀ part ∈ first :: parts, c ∉ part) ∧ first ++ parts.flatMap (c :: ·) = s := by
  induction s with
  | nil => exact ⟨[], [], by simp, rfl⟩
  | cons d s ih =>
    obtain ⟨first, parts, hparts, rfl⟩ := ih
    by_cases hd : d = c
    · exact ⟨[], first :: parts, List.forall_mem_cons.mpr ⟨List.not_mem_nil, hparts⟩, by rw [hd]; rfl⟩
    · obtain ⟨hfirst, hothers⟩ := List.forall_mem_cons.mp hparts
      have hcons : c ∉ d :: first := List.not_mem_cons_of_ne_of_not_mem (Ne.symm hd) hfirst
      exact ⟨d :: first, parts, List.forall_mem_cons.mpr ⟨hcons, hothers⟩, rfl⟩

theorem splitOn_parts {c : Char} {first : List Char} {parts : List (List Char)} (h : ∀ part ∈ first :: parts, c ∉ part) :
    (first ++ parts.flatMap (c :: ·)).splitOn c = first :: parts := by
  induction parts generalizing first with
  | nil =>
    rw [List.flatMap_nil, List.append_nil]
    exact List.splitOn_eq_singleton (h first List.mem_cons_self)
  | cons part parts ih =>
    obtain ⟨hfirst, hparts⟩ := List.forall_mem_cons.mp h
    rw [List.flatMap_cons, List.cons_append, List.splitOn_append_cons_self_of_not_mem hfirst, ih hparts]

theorem not_mem_of_mem_splitOn {c : Char} {part : List Char} (h : part ∈ s.splitOn c) : c ∉ part := by
  obtain ⟨first, parts, hparts, rfl⟩ := exists_parts c s
  rw [splitOn_parts hparts] at h
  exact hparts part h

end

end ToolPlugins.Text
