import Mathlib
import ToolPlugins.Json.Basic
import ToolPlugins.Json.Pointer
import ToolPlugins.Proofs.Text.Escapes

/-!
Paths into a value, and the escaped pointers that write them. A pointer is read back as the path it was written
for, whatever the keys are; and the texts that are written for paths are those with the form of a pointer.
-/

namespace ToolPlugins.Json

namespace Pointer

theorem replaceTilde_cons {digit c d : Char} (hd : d ≠ '~') (rest : List Char) :
    replaceTilde digit c (d :: rest) = d :: replaceTilde digit c rest := by
  cases rest <;> simp [replaceTilde, hd]

theorem replaceTilde_tilde {digit c : Char} (rest : List Char) :
    replaceTilde digit c ('~' :: digit :: rest) = c :: replaceTilde digit c rest := by
  rw [replaceTilde, if_pos rfl]

theorem replaceTilde_tilde_ne {digit c d : Char} (hd : d ≠ digit) (ht : d ≠ '~') (rest : List Char) :
    replaceTilde digit c ('~' :: d :: rest) = '~' :: d :: replaceTilde digit c rest := by
  rw [replaceTilde, if_neg hd, replaceTilde_cons ht]

/-- A character of a segment once the slashes are read back. -/
def escapeTilde (c : Char) : List Char := if c = '~' then ['~', '0'] else [c]

theorem replaceTilde_escape (segment : List Char) : replaceTilde '1' '/' (escape segment) = segment.flatMap escapeTilde := by
  induction segment with
  | nil => rfl
  | cons c rest ih =>
    rw [escape] at ih ⊢
    rw [List.flatMap_cons, List.flatMap_cons]
    by_cases htilde : c = '~'
    · subst htilde
      change replaceTilde '1' '/' ('~' :: '0' :: rest.flatMap escapeChar) = '~' :: '0' :: rest.flatMap escapeTilde
      rw [replaceTilde_tilde_ne (by decide) (by decide), ih]
    · by_cases hslash : c = '/'
      · subst hslash
        change replaceTilde '1' '/' ('~' :: '1' :: rest.flatMap escapeChar) = '/' :: rest.flatMap escapeTilde
        rw [replaceTilde_tilde, ih]
      · rw [escapeChar, escapeTilde, if_neg htilde, if_neg hslash, if_neg htilde, List.singleton_append,
          List.singleton_append, replaceTilde_cons htilde, ih]

theorem replaceTilde_flatMap_escapeTilde (segment : List Char) :
    replaceTilde '0' '~' (segment.flatMap escapeTilde) = segment := by
  induction segment with
  | nil => rfl
  | cons c rest ih =>
    rw [List.flatMap_cons]
    by_cases htilde : c = '~'
    · subst htilde
      change replaceTilde '0' '~' ('~' :: '0' :: rest.flatMap escapeTilde) = '~' :: rest
      rw [replaceTilde_tilde, ih]
    · rw [escapeTilde, if_neg htilde, List.singleton_append, replaceTilde_cons htilde, ih]

theorem unescape_escape (segment : List Char) : unescape (escape segment) = segment := by
  rw [unescape, replaceTilde_escape, replaceTilde_flatMap_escapeTilde]

theorem slash_not_mem_escape (segment : List Char) : '/' ∉ escape segment := by
  rw [escape, List.mem_flatMap]
  rintro ⟨c, -, hc⟩
  rw [escapeChar] at hc
  split_ifs at hc with htilde hslash
  · simp at hc
  · simp at hc
  · exact hslash (List.mem_singleton.mp hc).symm

theorem splitOn_encode (segments : List (List Char)) : (encode segments).splitOn '/' = [] :: segments.map escape := by
  have hparts : ∀ part ∈ [] :: segments.map escape, '/' ∉ part :=
    List.forall_mem_cons.mpr ⟨List.not_mem_nil, List.forall_mem_map.mpr fun segment _ => slash_not_mem_escape segment⟩
  rw [← Text.splitOn_parts hparts, List.nil_append, List.flatMap_map, encode]

/-- The segments of a pointer are those it was written for. -/
theorem split_encode (segments : List (List Char)) : split (encode segments) = segments := by
  rw [split, splitOn_encode, List.drop_one, List.tail_cons, List.map_map]
  exact List.map_id'' unescape_escape segments

/-- The slash is read before the tilde: the other way round, this segment would be one slash. -/
example : split ['/', '~', '0', '1'] = [['~', '1']] := by decide

/-! ### The form of escaped pointers -/

/-- The words for the characters that are escaped. -/
def escapes : List (List Char) := [['~', '0'], ['~', '1']]

/-- The form of an escaped pointer: it is empty or starts with a slash, and its tildes begin escapes. -/
structure IsPointer (s : List Char) : Prop where
  start : ∀ c ∈ s.head?, c = '/'
  tildes : Text.Begins '~' escapes s

section
variable {s rest : List Char} {parts : List (List Char)}

theorem begins_escapeChar (c : Char) : Text.Begins '~' escapes (escapeChar c) := by
  rw [escapeChar]
  split_ifs with htilde hslash
  · exact Text.begins_word (by decide) (by decide)
  · exact Text.begins_word (by decide) (by decide)
  · exact Text.begins_of_not_mem fun h => htilde (List.mem_singleton.mp h).symm

theorem begins_slash (h : Text.Begins '~' escapes s) : Text.Begins '~' escapes ('/' :: s) :=
  (Text.begins_of_not_mem (s := ['/']) (by decide)).append h

theorem isPointer_encode (segments : List (List Char)) : IsPointer (encode segments) where
  start := by
    cases segments with
    | nil => simp [encode]
    | cons segment rest => simp [encode]
  tildes := Text.begins_flatMap fun _ _ => begins_slash (Text.begins_flatMap fun c _ => begins_escapeChar c)

/-- A slash continues no escape, so the escapes of what stands before it are whole. -/
theorem begins_of_append_slash (h : Text.Begins '~' escapes (s ++ '/' :: rest)) : Text.Begins '~' escapes s := by
  intro more hmore
  obtain ⟨front, rfl⟩ := hmore
  obtain ⟨word, hword, hbegins⟩ := h (more ++ '/' :: rest) ⟨front, by simp⟩
  refine ⟨word, hword, ?_⟩
  cases more with
  | nil =>
    have hnone : ∀ word ∈ escapes, ¬word <+: '~' :: '/' :: rest := by
      simp [escapes]
    exact absurd hbegins (hnone word hword)
  | cons d more =>
    simp only [escapes, List.mem_cons, List.not_mem_nil, or_false] at hword
    rcases hword with rfl | rfl <;> simpa using hbegins

theorem begins_of_mem_parts (h : Text.Begins '~' escapes (parts.flatMap ('/' :: ·))) :
    ∀ part ∈ parts, Text.Begins '~' escapes part := by
  induction parts with
  | nil => exact List.forall_mem_nil _
  | cons part parts ih =>
    rw [List.flatMap_cons] at h
    refine List.forall_mem_cons.mpr ⟨?_, ih (h.of_suffix (List.suffix_append _ _))⟩
    have hpart : Text.Begins '~' escapes (part ++ parts.flatMap ('/' :: ·)) := h.of_suffix (List.suffix_cons '/' _)
    cases parts with
    | nil => rwa [List.flatMap_nil, List.append_nil] at hpart
    | cons other parts => exact begins_of_append_slash hpart

/-- A text that is empty or starts with a slash is made of what stands behind its slashes. -/
theorem exists_parts_of_start (h : ∀ c ∈ s.head?, c = '/') :
    ∃ parts : List (List Char), (∀ part ∈ parts, '/' ∉ part) ∧ parts.flatMap ('/' :: ·) = s := by
  cases s with
  | nil => exact ⟨[], List.forall_mem_nil _, rfl⟩
  | cons c s =>
    obtain ⟨first, parts, hslash, rfl⟩ := Text.exists_parts '/' s
    obtain rfl : c = '/' := h c rfl
    exact ⟨first :: parts, hslash, rfl⟩

theorem exists_escape_eq (hslash : '/' ∉ s) (h : Text.Begins '~' escapes s) : ∃ segment, escape segment = s := by
  refine h.exists_flatMap_eq (fun word hword => ?_) fun d hd htilde => ?_
  · simp only [escapes, List.mem_cons, List.not_mem_nil, or_false] at hword
    rcases hword with rfl | rfl
    · exact ⟨by decide, '~', by decide⟩
    · exact ⟨by decide, '/', by decide⟩
  · rw [escapeChar, if_neg htilde, if_neg (ne_of_mem_of_not_mem hd hslash)]

theorem IsPointer.exists_encode_eq (h : IsPointer s) : ∃ segments, encode segments = s := by
  obtain ⟨parts, hslash, rfl⟩ := exists_parts_of_start h.start
  have hparts : ∀ part ∈ parts, part ∈ Set.range escape := fun part hpart =>
    exists_escape_eq (hslash part hpart) (begins_of_mem_parts h.tildes part hpart)
  obtain ⟨segments, rfl⟩ : parts ∈ Set.range (List.map escape) := by
    rw [Set.range_list_map]
    exact hparts
  exact ⟨segments, by rw [encode, List.flatMap_map]⟩

/-- A text with the form of a pointer is written for its segments. -/
theorem encode_split (h : IsPointer s) : encode (split s) = s := by
  obtain ⟨segments, rfl⟩ := h.exists_encode_eq
  rw [split_encode]

end

end Pointer

/-- The part of a value that a path leads to: by a key through an object, and by an index in decimal digits
    through an array. -/
inductive PartAt : Json → List String → Json → Prop
  | here (v : Json) : PartAt v [] v
  | field {fields : Fields} {key : String} {v part : Json} {path : List String} (hv : fields.get? key = some v)
      (h : PartAt v path part) : PartAt (.object fields) (key :: path) part
  | item {items : List Json} {i : Nat} {v part : Json} {path : List String} (hv : items[i]? = some v)
      (h : PartAt v path part) : PartAt (.array items) (toString i :: path) part

/-- A path leads to one part. -/
theorem PartAt.unique {v part other : Json} {path : List String} (h : PartAt v path part) (h' : PartAt v path other) :
    part = other := by
  induction h with
  | here v =>
    cases h'
    rfl
  | field hv h ih =>
    cases h' with
    | field hv' h' =>
      cases hv.symm.trans hv'
      exact ih h'
  | @item items i v part path hv h ih =>
    generalize hpath : toString i :: path = long at h'
    cases h' with
    | here => cases hpath
    | item hv' h' =>
      obtain ⟨hi, rfl⟩ := List.cons.inj hpath
      obtain rfl := Nat.repr_inj.mp hi
      cases hv.symm.trans hv'
      exact ih h'

/-- A path that goes on leads through a part first. -/
theorem PartAt.exists_of_append {v part : Json} {path more : List String} (h : PartAt v (path ++ more) part) :
    ∃ next, PartAt v path next ∧ PartAt next more part := by
  induction path generalizing v with
  | nil => exact ⟨v, .here v, h⟩
  | cons key path ih =>
    rw [List.cons_append] at h
    cases h with
    | field hv h =>
      obtain ⟨next, hnext, hmore⟩ := ih h
      exact ⟨next, .field hv hnext, hmore⟩
    | item hv h =>
      obtain ⟨next, hnext, hmore⟩ := ih h
      exact ⟨next, .item hv hnext, hmore⟩

/-- In every object of a value, each key stands once. -/
inductive KeysOnce : Json → Prop
  | null : KeysOnce .null
  | bool (b : Bool) : KeysOnce (.bool b)
  | number (n : Number) : KeysOnce (.number n)
  | string (s : String) : KeysOnce (.string s)
  | array {items : List Json} (h : ∀ item ∈ items, KeysOnce item) : KeysOnce (.array items)
  | object {fields : Fields} (nodup : (fields.map (·.1)).Nodup) (h : ∀ field ∈ fields, KeysOnce field.2) :
      KeysOnce (.object fields)

theorem Fields.mem_of_get? {fields : Fields} {key : String} {v : Json} (h : fields.get? key = some v) :
    (key, v) ∈ fields := by
  induction fields with
  | nil => cases h
  | cons field rest ih =>
    obtain ⟨k, w⟩ := field
    rw [get?] at h
    split_ifs at h with hk
    · cases h
      rw [hk]
      exact List.mem_cons_self
    · exact List.mem_cons_of_mem _ (ih h)

theorem KeysOnce.nodup {fields : Fields} (h : KeysOnce (.object fields)) : (fields.map (·.1)).Nodup := by
  cases h with
  | object nodup h => exact nodup

theorem KeysOnce.get? {fields : Fields} {key : String} {v : Json} (h : KeysOnce (.object fields))
    (hv : fields.get? key = some v) : v.KeysOnce := by
  cases h with
  | object nodup h => exact h _ (Fields.mem_of_get? hv)

theorem KeysOnce.getElem? {items : List Json} {i : Nat} {v : Json} (h : KeysOnce (.array items)) (hv : items[i]? = some v) :
    v.KeysOnce := by
  cases h with
  | array h => exact h _ (List.mem_of_getElem? hv)

end ToolPlugins.Json
