import Mathlib
import ToolPlugins.Proofs.Identifier.Snake

/-!
Taking the identifier of a name is a retraction onto the canonical identifiers: every identifier is one, and is the
identifier of itself. Snake case is a section of it: the snake case of an identifier is a name that has this identifier,
so that no two identifiers have the same, and the texts in snake case are known by their underscores.
-/

namespace ToolPlugins

namespace Text

/-- A letter or digit of ASCII. -/
def IsLetterOrDigit (c : Char) : Prop := ('A' ≤ c ∧ c ≤ 'Z') ∨ ('a' ≤ c ∧ c ≤ 'z') ∨ ('0' ≤ c ∧ c ≤ '9')

instance : DecidablePred IsLetterOrDigit := fun c =>
  inferInstanceAs (Decidable (('A' ≤ c ∧ c ≤ 'Z') ∨ ('a' ≤ c ∧ c ≤ 'z') ∨ ('0' ≤ c ∧ c ≤ '9')))

theorem isUpper_iff {c : Char} : c.isUpper = true ↔ 'A' ≤ c ∧ c ≤ 'Z' := by
  simp only [Char.isUpper, decide_eq_true_eq]
  exact Iff.rfl

theorem isLower_iff {c : Char} : c.isLower = true ↔ 'a' ≤ c ∧ c ≤ 'z' := by
  simp only [Char.isLower, Bool.and_eq_true, decide_eq_true_eq]
  exact Iff.rfl

theorem isDigit_iff {c : Char} : c.isDigit = true ↔ '0' ≤ c ∧ c ≤ '9' := by
  simp only [Char.isDigit, Bool.and_eq_true, decide_eq_true_eq]
  exact Iff.rfl

theorem isLetterOrDigit_iff {c : Char} : IsLetterOrDigit c ↔ c.isAlphanum = true := by
  rw [IsLetterOrDigit, ← isUpper_iff, ← isLower_iff, ← isDigit_iff, Char.isAlphanum, Char.isAlpha, Bool.or_eq_true,
    Bool.or_eq_true, or_assoc]

/-- What the two cases of a letter are to each other. -/
theorem case_of_isAlphanum {c : Char} (h : c.isAlphanum = true) :
    (c.isUpper = true → c.toUpper = c ∧ c.toLower.toUpper = c) ∧
      (c.isLower = true → c.toUpper.isUpper = true ∧ c.toUpper.toLower = c ∧ c.isUpper = false) := by
  have hall : ∀ n < 123,
      ((Char.ofNat n).isUpper = true → (Char.ofNat n).toUpper = Char.ofNat n ∧
        (Char.ofNat n).toLower.toUpper = Char.ofNat n) ∧
      ((Char.ofNat n).isLower = true → (Char.ofNat n).toUpper.isUpper = true ∧
        (Char.ofNat n).toUpper.toLower = Char.ofNat n ∧ (Char.ofNat n).isUpper = false) := by decide
  have hc := hall c.toNat (by have := (toNat_of_isAlphanum h).2; omega)
  rwa [Char.ofNat_toNat] at hc

theorem isDigit_eq_false {c : Char} (h : c.isUpper = true ∨ c.isLower = true) : c.isDigit = false := by
  rw [Bool.eq_false_iff, ne_eq, isDigit_iff]
  rintro ⟨-, hdigit⟩
  rcases h with h | h
  · exact absurd ((isUpper_iff.mp h).1.trans hdigit) (by decide)
  · exact absurd ((isLower_iff.mp h).1.trans hdigit) (by decide)

theorem isUpper_eq_false {c : Char} (h : c.isDigit = true) : c.isUpper = false := by
  rw [Bool.eq_false_iff]
  intro hupper
  cases h.symm.trans (isDigit_eq_false (.inl hupper))

theorem toUpper_of_isUpper {c : Char} (h : c.isUpper = true) : c.toUpper = c ∧ c.toLower.toUpper = c :=
  (case_of_isAlphanum (by simp [Char.isAlphanum, Char.isAlpha, h])).1 h

theorem toUpper_of_isLower {c : Char} (h : c.isLower = true) :
    c.toUpper.isUpper = true ∧ c.toUpper.toLower = c ∧ c.isUpper = false :=
  (case_of_isAlphanum (by simp [Char.isAlphanum, Char.isAlpha, h])).2 h

end Text

namespace Identifier
open Text

/-- A capital followed by letters and digits. -/
def IsPascal (s : String) : Prop :=
  ∃ c rest, s.toList = c :: rest ∧ ('A' ≤ c ∧ c ≤ 'Z') ∧ ∀ d ∈ rest, IsLetterOrDigit d

/-- A name with underscores for its hyphens, without the characters that are then no letters, digits or underscores. -/
def cleaned (name : String) : String :=
  String.ofList ((name.toList.map fun c => if c = '-' then '_' else c).filter fun c => IsLetterOrDigit c ∨ c = '_')

/-- Every underscore of a text is followed by a small letter. -/
def UnderscoresLead (s : List Char) : Prop :=
  ∀ front rest, s = front ++ '_' :: rest → ∃ c more, rest = c :: more ∧ 'a' ≤ c ∧ c ≤ 'z'

/-- A text in snake case. -/
structure IsSnakeCase (s : String) : Prop where
  snake : IsSnake s
  lead : UnderscoresLead s.toList

/-! ### Identifiers of identifiers -/

section
variable {s : List Char} {c : Char}

theorem ne_underscore (h : c.isAlphanum = true) : c ≠ '_' := by
  rintro rfl
  cases h

theorem isCanonical_iff {identifier : String} : isCanonical identifier = true ↔ IsPascal identifier := by
  constructor
  · intro h
    obtain ⟨c, rest, hchars, hupper, hrest⟩ := exists_of_isCanonicalChars h
    exact ⟨c, rest, hchars, isUpper_iff.mp hupper, fun d hd => isLetterOrDigit_iff.mpr (hrest d hd)⟩
  · rintro ⟨c, rest, hchars, hupper, hrest⟩
    rw [isCanonical, hchars, isCanonicalChars, isUpper_iff.mpr hupper, Bool.true_and, List.all_eq_true]
    exact fun d hd => isLetterOrDigit_iff.mp (hrest d hd)

theorem pascal_false_of_isAlphanum (h : ∀ c ∈ s, c.isAlphanum = true) : pascal false s = s := by
  induction s with
  | nil => rfl
  | cons c rest ih =>
    obtain ⟨hc, hrest⟩ := List.forall_mem_cons.mp h
    rw [pascal, if_neg (ne_underscore hc), if_neg Bool.false_ne_true, ih hrest]

theorem wordChars_of_isWord (h : ∀ d ∈ s, isWord d = true) : wordChars s = s := by
  have hhyphen : s.map (fun d => if d = '-' then '_' else d) = s := by
    refine (List.map_congr_left fun d hd => ?_).trans (List.map_id s)
    refine if_neg ?_
    rintro rfl
    cases h _ hd
  rw [wordChars, hhyphen, List.filter_eq_self.mpr h]

/-- Where a text is made of word characters and starts with a letter, only the letters at its start and behind
    underscores change. -/
theorem classifyChars_cons (hc : c.isUpper = true ∨ c.isLower = true) (hs : ∀ d ∈ s, isWord d = true) :
    classifyChars (c :: s) = c.toUpper :: pascal false s := by
  have halpha : c.isAlphanum = true := by
    rcases hc with hc | hc <;> simp [Char.isAlphanum, Char.isAlpha, hc]
  have hupper : c.toUpper.isUpper = true := by
    rcases hc with hc | hc
    · rwa [(toUpper_of_isUpper hc).1]
    · exact (toUpper_of_isLower hc).1
  have hletter : c.isDigit = false := by
    rcases hc with hc | hc
    · exact isDigit_eq_false (.inl hc)
    · exact isDigit_eq_false (.inr hc)
  have hword : wordChars (c :: s) = c :: s :=
    wordChars_of_isWord (List.forall_mem_cons.mpr ⟨by simp [isWord, halpha], hs⟩)
  have hpascal : pascal true (dropDigit (wordChars (c :: s))) = c.toUpper :: pascal false s := by
    rw [hword, dropDigit, hletter, if_neg Bool.false_ne_true, pascal, if_neg (ne_underscore halpha), if_pos rfl]
  rw [classifyChars, hpascal]
  dsimp only
  rw [isDigit_eq_false (.inl hupper), if_neg Bool.false_ne_true]

theorem isWord_of_isAlphanum (h : c.isAlphanum = true) : isWord c = true := by
  rw [isWord, h, Bool.true_or]

theorem classify_of_isCanonical {identifier : String} (h : isCanonical identifier = true) :
    classify identifier = identifier := by
  obtain ⟨c, rest, hchars, hupper, hrest⟩ := exists_of_isCanonicalChars h
  rw [classify, hchars, classifyChars_cons (.inl hupper) fun d hd => isWord_of_isAlphanum (hrest d hd),
    (toUpper_of_isUpper hupper).1, pascal_false_of_isAlphanum hrest, ← hchars, String.ofList_toList]

theorem range_classify : Set.range classify = {identifier | isCanonical identifier = true} := by
  refine Set.Subset.antisymm ?_ fun identifier h => ⟨identifier, classify_of_isCanonical h⟩
  rintro _ ⟨name, rfl⟩
  exact isCanonical_classify name

theorem toList_cleaned (name : String) : (cleaned name).toList = wordChars name.toList := by
  rw [cleaned, String.toList_ofList, wordChars]
  refine List.filter_congr fun c _ => ?_
  rw [isWord, Bool.decide_or, Bool.eq_iff_iff]
  simp [isLetterOrDigit_iff]

theorem classify_cleaned (name : String) : classify (cleaned name) = classify name := by
  have hword : wordChars (wordChars name.toList) = wordChars name.toList := wordChars_of_isWord fun _ => mem_wordChars
  rw [classify, classify, classifyChars, classifyChars, toList_cleaned, hword]

/-- Every identifier is canonical and every canonical text is the identifier of itself; a name matters for its letters,
    digits, underscores and hyphens only, and hyphens count as underscores. -/
theorem classify_retracts :
    (∀ name, isCanonical (classify name) = true) ∧
      (∀ text, isCanonical text = true ↔ IsPascal text) ∧
      (∀ text, isCanonical text = true → classify text = text) ∧
      (∀ name, classify (classify name) = classify name) ∧
      Set.range classify = {text | isCanonical text = true} ∧
      ∀ name other, cleaned name = cleaned other → classify name = classify other := by
  refine ⟨isCanonical_classify, fun _ => isCanonical_iff, fun _ => classify_of_isCanonical, ?_, range_classify, ?_⟩
  · exact fun name => classify_of_isCanonical (isCanonical_classify name)
  · intro name other h
    rw [← classify_cleaned name, h, classify_cleaned]

/-! ### Identifiers of texts in snake case -/

theorem pascal_flatMap_snakeChar (h : ∀ c ∈ s, c.isAlphanum = true) : pascal false (s.flatMap snakeChar) = s := by
  induction s with
  | nil => rfl
  | cons c rest ih =>
    obtain ⟨hc, hrest⟩ := List.forall_mem_cons.mp h
    rw [List.flatMap_cons, snakeChar]
    split_ifs with hupper
    · have hlower : c.toLower ≠ '_' := by
        intro heq
        have hrange := (toLower_of_isUpper hupper).2.1
        rw [heq] at hrange
        exact absurd hrange (by decide)
      rw [List.cons_append, List.singleton_append, pascal, if_pos rfl, pascal, if_neg hlower, if_pos rfl, ih hrest,
        (toUpper_of_isUpper hupper).2]
    · rw [List.singleton_append, pascal, if_neg (ne_underscore hc), if_neg Bool.false_ne_true, ih hrest]

theorem isWord_of_snake (h : ('a' ≤ c ∧ c ≤ 'z') ∨ ('0' ≤ c ∧ c ≤ '9') ∨ c = '_') : isWord c = true := by
  rcases h with h | h | rfl
  · exact isWord_of_isAlphanum (isLetterOrDigit_iff.mp (.inr (.inl h)))
  · exact isWord_of_isAlphanum (isLetterOrDigit_iff.mp (.inr (.inr h)))
  · rfl

theorem classify_snakeCase {identifier : String} (h : isCanonical identifier = true) :
    classify (snakeCase identifier) = identifier := by
  obtain ⟨c, rest, hchars, hupper, hrest⟩ := exists_of_isCanonicalChars h
  have hlower : c.toLower.isLower = true := isLower_iff.mpr (toLower_of_isUpper hupper).2
  have hword : ∀ d ∈ rest.flatMap snakeChar, isWord d = true := by
    intro d hd
    obtain ⟨e, he, hd⟩ := List.mem_flatMap.mp hd
    exact isWord_of_snake (mem_snakeChar (hrest e he) hd)
  rw [classify, snakeCase, String.toList_ofList, hchars, snakeChars, classifyChars_cons (.inr hlower) hword,
    (toUpper_of_isUpper hupper).2, pascal_flatMap_snakeChar hrest, ← hchars, String.ofList_toList]

theorem underscoresLead_cons : UnderscoresLead (c :: s) ↔
    (c = '_' → ∃ d more, s = d :: more ∧ 'a' ≤ d ∧ d ≤ 'z') ∧ UnderscoresLead s := by
  constructor
  · intro h
    refine ⟨?_, fun front rest hs => h (c :: front) rest (by rw [hs, List.cons_append])⟩
    rintro rfl
    exact h [] s rfl
  · rintro ⟨hfirst, h⟩ front rest hs
    cases front with
    | nil =>
      obtain ⟨rfl, rfl⟩ := List.cons.inj hs
      exact hfirst rfl
    | cons d front => exact h front rest (List.cons.inj hs).2

theorem underscoresLead_flatMap_snakeChar (h : ∀ c ∈ s, c.isAlphanum = true) :
    UnderscoresLead (s.flatMap snakeChar) := by
  induction s with
  | nil =>
    intro front rest hs
    exact absurd hs.symm (by simp)
  | cons c rest ih =>
    obtain ⟨hc, hrest⟩ := List.forall_mem_cons.mp h
    rw [List.flatMap_cons, snakeChar]
    split_ifs with hupper
    · have hlower := (toLower_of_isUpper hupper).2
      rw [List.cons_append, List.singleton_append, underscoresLead_cons, underscoresLead_cons]
      refine ⟨fun _ => ⟨_, _, rfl, hlower⟩, fun heq => ?_, ih hrest⟩
      rw [heq] at hlower
      exact absurd hlower.1 (by decide)
    · rw [List.singleton_append, underscoresLead_cons]
      exact ⟨fun heq => absurd heq (ne_underscore hc), ih hrest⟩

theorem isSnakeCase_snakeCase {identifier : String} (h : isCanonical identifier = true) :
    IsSnakeCase (snakeCase identifier) := by
  refine ⟨isSnake_snakeCase h, ?_⟩
  obtain ⟨c, rest, hchars, hupper, hrest⟩ := exists_of_isCanonicalChars h
  rw [snakeCase, String.toList_ofList, hchars, snakeChars, underscoresLead_cons]
  refine ⟨fun heq => ?_, underscoresLead_flatMap_snakeChar hrest⟩
  have hlower := (toLower_of_isUpper hupper).2.1
  rw [heq] at hlower
  exact absurd hlower (by decide)

/-- Breaking before each capital undoes what capitalising behind underscores did. -/
theorem flatMap_snakeChar_pascal (h : ∀ c ∈ s, ('a' ≤ c ∧ c ≤ 'z') ∨ ('0' ≤ c ∧ c ≤ '9') ∨ c = '_')
    (hlead : UnderscoresLead s) : (pascal false s).flatMap snakeChar = s := by
  induction s with
  | nil => rfl
  | cons c rest ih =>
    obtain ⟨hc, hrest⟩ := List.forall_mem_cons.mp h
    obtain ⟨hfirst, hlead⟩ := underscoresLead_cons.mp hlead
    have ih := ih hrest hlead
    by_cases hunderscore : c = '_'
    · obtain ⟨d, more, rfl, hd⟩ := hfirst hunderscore
      obtain ⟨hupper, hback, hlower⟩ := toUpper_of_isLower (isLower_iff.mpr hd)
      have hne : d ≠ '_' := by
        rintro rfl
        exact absurd hd.1 (by decide)
      -- the induction hypothesis is about the letter behind the underscore as well, which is left alone there
      rw [pascal, if_neg hne, if_neg Bool.false_ne_true, List.flatMap_cons, snakeChar, hlower, if_neg Bool.false_ne_true,
        List.singleton_append] at ih
      rw [pascal, if_pos hunderscore, pascal, if_neg hne, if_pos rfl, List.flatMap_cons, snakeChar, if_pos hupper, hback,
        (List.cons.inj ih).2, hunderscore]
      rfl
    · have hlower : c.isUpper = false := by
        rcases hc with hc | hc | hc
        · exact (toUpper_of_isLower (isLower_iff.mpr hc)).2.2
        · exact isUpper_eq_false (isDigit_iff.mpr hc)
        · exact absurd hc hunderscore
      rw [pascal, if_neg hunderscore, if_neg Bool.false_ne_true, List.flatMap_cons, snakeChar, hlower,
        if_neg Bool.false_ne_true, ih]
      rfl

theorem snakeCase_classify {text : String} (h : IsSnakeCase text) : snakeCase (classify text) = text := by
  obtain ⟨⟨c, rest, hchars, hc, hrest⟩, hlead⟩ := h
  have hlower := isLower_iff.mpr hc
  rw [hchars, underscoresLead_cons] at hlead
  rw [snakeCase, classify, String.toList_ofList, hchars,
    classifyChars_cons (.inr hlower) fun d hd => isWord_of_snake (hrest d hd), snakeChars, (toUpper_of_isLower hlower).2.1,
    flatMap_snakeChar_pascal hrest hlead.2, ← hchars, String.ofList_toList]

/-- Between the canonical identifiers and the texts in snake case, taking the snake case and taking the identifier undo
    each other. -/
theorem bijOn_snakeCase :
    Set.InvOn classify snakeCase {identifier | isCanonical identifier = true} {text | IsSnakeCase text} ∧
      Set.BijOn snakeCase {identifier | isCanonical identifier = true} {text | IsSnakeCase text} := by
  have hinv : Set.InvOn classify snakeCase {identifier | isCanonical identifier = true} {text | IsSnakeCase text} :=
    ⟨fun _ h => classify_snakeCase h, fun _ h => snakeCase_classify h⟩
  exact ⟨hinv, hinv.bijOn (fun _ h => isSnakeCase_snakeCase h) fun name _ => isCanonical_classify name⟩

end

end Identifier

end ToolPlugins
