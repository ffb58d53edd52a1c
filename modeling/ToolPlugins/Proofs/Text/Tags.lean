import Mathlib
import ToolPlugins.Proofs.Text.Markup

/-!
The tags of a markup text, read character by character. A text is read from one state to another, and what it adds to the
tags depends on the state only; so the tags of a text that is put together are known from the texts that it is put
together from.
-/

namespace ToolPlugins.Text

/-- A tag: the name of its element, after a slash where the element ends, and its attributes with the values they have. -/
structure Tag where
  name : String
  attributes : List (String × Option String) := []
  deriving DecidableEq, Repr

namespace Tag

def add (tag : Tag) (key : List Char) (value : Option (List Char)) : Tag :=
  { tag with attributes := tag.attributes ++ [(String.ofList key, value.map String.ofList)] }

/-- The tag with an attribute that has no value, or without it. -/
def mark (tag : Tag) (key : String) (p : Prop) [Decidable p] : Tag :=
  if p then { tag with attributes := tag.attributes ++ [(key, none)] } else tag

/-- Whether a tag has an attribute. -/
def has (tag : Tag) (key : String) : Bool := tag.attributes.any fun a => a.1 == key

/-- The value of an attribute. -/
def value? (tag : Tag) (key : String) : Option String :=
  (tag.attributes.find? fun a => a.1 == key).bind (·.2)

theorem name_mark (tag : Tag) (key : String) (p : Prop) [Decidable p] : (tag.mark key p).name = tag.name := by
  rw [mark]
  split_ifs <;> rfl

theorem has_mark (tag : Tag) (key other : String) (p : Prop) [Decidable p] :
    (tag.mark key p).has other = true ↔ (p ∧ key = other) ∨ tag.has other = true := by
  rw [mark]
  split_ifs with hp <;> simp [has, hp, or_comm]

theorem value?_mark (tag : Tag) {key other : String} (h : other ≠ key) (p : Prop) [Decidable p] :
    (tag.mark key p).value? other = tag.value? other := by
  rw [mark]
  split_ifs <;> simp [value?, List.find?_append, h.symm]

/-- Whether a tag begins an element that takes a value in a form. -/
def isControl (tag : Tag) : Bool := ["button", "input", "select", "textarea"].contains tag.name

end Tag

/-- Where a reader of markup is: outside of tags, in the name of a tag, between its attributes, in the name of an attribute,
    or in the value of one, which stands in quotes. -/
inductive Reading where
  | outside
  | name (read : List Char)
  | between (tag : Tag)
  | key (tag : Tag) (read : List Char)
  | value (tag : Tag) (key read : List Char)
  deriving DecidableEq, Repr

namespace Reading

/-- Where the reader is after a character, and the tag that ends with it. -/
def step : Reading → Char → Reading × List Tag
  | outside, c => (if c = '<' then name [] else outside, [])
  | name read, c =>
    if c = '>' then (outside, [⟨String.ofList read, []⟩])
    else if c = ' ' then (between ⟨String.ofList read, []⟩, [])
    else (name (read ++ [c]), [])
  | between tag, c =>
    if c = '>' then (outside, [tag])
    else if c = ' ' then (between tag, [])
    else (key tag [c], [])
  | key tag read, c =>
    if c = '>' then (outside, [tag.add read none])
    else if c = ' ' then (between (tag.add read none), [])
    else if c = '"' then (value tag read [], [])
    else if c = '=' then (key tag read, [])
    else (key tag (read ++ [c]), [])
  | value tag k read, c =>
    if c = '"' then (between (tag.add k (some read)), [])
    else (value tag k (read ++ [c]), [])

/-- Where the reader is after a text, and the tags that end in it. -/
def run : Reading → List Char → Reading × List Tag
  | r, [] => (r, [])
  | r, c :: rest =>
    let (next, tags) := r.step c
    let (last, others) := next.run rest
    (last, tags ++ others)

end Reading

/-- The tags of a text, in order. -/
def tags (s : List Char) : List Tag := (Reading.outside.run s).2

/-- From one state to another a text is read, with these tags ending in it. -/
def Reads (r : Reading) (s : List Char) (found : List Tag) (r' : Reading) : Prop := r.run s = (r', found)

/-- A text that begins and ends outside of tags, and the tags in it. -/
def HasTags (s : List Char) (found : List Tag) : Prop := Reads .outside s found .outside

theorem HasTags.tags_eq {s : List Char} {found : List Tag} (h : HasTags s found) : tags s = found :=
  congrArg Prod.snd h

namespace Reads

variable {r r' r'' : Reading} {s t : List Char} {found found' : List Tag}

theorem nil (r : Reading) : Reads r [] [] r := rfl

theorem cons {c : Char} (h : r.step c = (r', found)) (h' : Reads r' s found' r'') :
    Reads r (c :: s) (found ++ found') r'' := by
  rw [Reads, Reading.run, h]
  dsimp only
  rw [h']

theorem append (h : Reads r s found r') (h' : Reads r' t found' r'') : Reads r (s ++ t) (found ++ found') r'' := by
  induction s generalizing r found with
  | nil =>
    cases h
    exact h'
  | cons c s ih =>
    cases hstep : r.step c with
    | mk next ended =>
      obtain ⟨others, hothers, rfl⟩ : ∃ others, Reads next s others r' ∧ ended ++ others = found := by
        rw [Reads, Reading.run, hstep, Prod.mk.injEq] at h
        exact ⟨_, Prod.ext h.1 rfl, h.2⟩
      rw [List.append_assoc]
      exact cons hstep (ih hothers)

theorem congr (h : Reads r s found r') (heq : found = found') : Reads r s found' r' := heq ▸ h

/-! The texts of the templates are literals. They are read by their characters: evaluating `toList` of a literal takes
long. -/

theorem fixed (h : r.run s = (r', found)) : Reads r (String.ofList s).toList found r' := by
  rw [Reads, String.toList_ofList]
  exact h

theorem outside (h : '<' ∉ s) : HasTags s [] := by
  induction s with
  | nil => exact nil _
  | cons c s ih =>
    obtain ⟨hc, hs⟩ := List.ne_and_not_mem_of_not_mem_cons h
    have hstep : Reading.outside.step c = (.outside, []) := Prod.ext (if_neg hc.symm) rfl
    exact cons hstep (ih hs)

theorem value {tag : Tag} {key read : List Char} (h : '"' ∉ s) :
    Reads (.value tag key read) s [] (.value tag key (read ++ s)) := by
  induction s generalizing read with
  | nil =>
    rw [List.append_nil]
    exact nil _
  | cons c s ih =>
    obtain ⟨hc, hs⟩ := List.ne_and_not_mem_of_not_mem_cons h
    have hstep : (Reading.value tag key read).step c = (.value tag key (read ++ [c]), []) := if_neg hc.symm
    rw [List.append_cons]
    exact cons hstep (ih hs)

/-- A value is read whole up to the quote that ends it. -/
theorem quoted {tag : Tag} {key start : List Char} (h : '"' ∉ s) (hstart : r.run start = (.value tag key [], found)) :
    Reads r ((String.ofList start).toList ++ s ++ (String.ofList ['"']).toList) found
      (.between (tag.add key (some s))) := by
  have hend : Reads (.value tag key s) (String.ofList ['"']).toList [] (.between (tag.add key (some s))) := fixed rfl
  exact (append (append (fixed hstart) (value h)) hend).congr (by rw [List.append_nil, List.append_nil])

/-! An attribute without a value may be left out. The reader is between attributes then instead of in its name. -/

theorem mark {p : Prop} [Decidable p] {tag : Tag} {key : List Char}
    (h : Reading.run (.between tag) (' ' :: key) = (.key tag key, [])) :
    Reads (.between tag) (if p then (String.ofList (' ' :: key)).toList else []) []
      (if p then .key tag key else .between tag) := by
  split_ifs
  · exact fixed h
  · exact nil _

theorem close {p : Prop} [Decidable p] {tag : Tag} {key : List Char} (h : Reading.outside.run s = (r', found)) :
    Reads (if p then .key tag key else .between tag) (String.ofList ('>' :: s)).toList
      (tag.mark (String.ofList key) p :: found) r' := by
  rw [Tag.mark]
  split_ifs
  · exact fixed (cons rfl h)
  · exact fixed (cons rfl h)

end Reads

namespace HasTags

variable {s t : List Char} {found found' : List Tag}

theorem append (h : HasTags s found) (h' : HasTags t found') : HasTags (s ++ t) (found ++ found') := Reads.append h h'

/-- The tags of a text that is made item by item. -/
theorem flatMap {α : Type} {text : α → List Char} {found : α → List Tag} (h : ∀ x, HasTags (text x) (found x))
    (l : List α) : HasTags (l.flatMap text) (l.flatMap found) := by
  induction l with
  | nil => exact Reads.nil _
  | cons x l ih => exact (h x).append ih

end HasTags

/-! ### Texts that are escaped -/

theorem lt_not_mem_escapeMarkup (s : List Char) : '<' ∉ escapeMarkup s := (inert_escapeMarkup s).not_mem rfl

theorem quote_not_mem_escapeMarkup (s : List Char) : '"' ∉ escapeMarkup s := (inert_escapeMarkup s).not_mem rfl

theorem Reads.escaped (s : List Char) : HasTags (escapeMarkup s) [] := outside (lt_not_mem_escapeMarkup s)

end ToolPlugins.Text
