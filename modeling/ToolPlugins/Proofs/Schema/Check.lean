import Mathlib
import ToolPlugins.Schema.Check

/-!
The values in which checks find nothing, check by check, and the texts that are words of a set of
characters.
-/

namespace ToolPlugins

namespace Check
open Json

/-- Checks find nothing wrong with a value. -/
def Accept (checks : List Check) (v : Json) : Prop := runAll checks v = []

theorem accept_nil (v : Json) : Accept [] v := rfl

theorem accept_cons_iff {check : Check} {checks : List Check} {v : Json} :
    Accept (check :: checks) v ↔ run check v = [] ∧ Accept checks v := List.append_eq_nil_iff

theorem demand_eq_nil_iff {v : Json} {complaint : Complaint} {ok : Bool} : demand v complaint ok = [] ↔ ok = true := by
  cases ok <;> simp [demand]

/-! ### Types -/

theorem run_type_iff {t : JsonType} {v : Json} : run (.type t) v = [] ↔ t.holds v = true := demand_eq_nil_iff

theorem holds_string_iff {v : Json} : JsonType.string.holds v = true ↔ ∃ s, v = .string s := by
  cases v <;> simp [JsonType.holds]

theorem holds_boolean_iff {v : Json} : JsonType.boolean.holds v = true ↔ ∃ b, v = .bool b := by
  cases v <;> simp [JsonType.holds]

theorem holds_array_iff {v : Json} : JsonType.array.holds v = true ↔ ∃ items, v = .array items := by
  cases v <;> simp [JsonType.holds]

theorem holds_object_iff {v : Json} : JsonType.object.holds v = true ↔ ∃ fields, v = .object fields := by
  cases v <;> simp [JsonType.holds]

/-! ### Texts -/

theorem run_minLength_string_iff {n : Nat} {s : String} :
    run (.minLength n) (.string s) = [] ↔ n ≤ s.toList.length := demand_eq_nil_iff.trans decide_eq_true_iff

theorem run_maxLength_string_iff {n : Nat} {s : String} :
    run (.maxLength n) (.string s) = [] ↔ s.toList.length ≤ n := demand_eq_nil_iff.trans decide_eq_true_iff

theorem run_pattern_string_iff {source s : String} {r : Regex} :
    run (.pattern source (some r.test)) (.string s) = [] ↔ r.search s.toList = true := demand_eq_nil_iff

theorem run_choice_string_iff {values : List String} {s : String} :
    run (.choice (values.map .string)) (.string s) = [] ↔ s ∈ values := by
  refine demand_eq_nil_iff.trans ?_
  rw [List.any_map, List.any_eq_true]
  simp [same]

theorem accept_text_iff {v : Json} : Accept [.type .string] v ↔ ∃ s, v = .string s := by
  rw [accept_cons_iff, run_type_iff, holds_string_iff]
  exact and_iff_left (accept_nil v)

theorem accept_switch_iff {v : Json} : Accept [.type .boolean] v ↔ ∃ b, v = .bool b := by
  rw [accept_cons_iff, run_type_iff, holds_boolean_iff]
  exact and_iff_left (accept_nil v)

/-- A check before the one that asks for a text may assume that there is one. -/
theorem accept_cons_text_iff {check : Check} {v : Json} {p : String → Prop}
    (h : ∀ s, run check (.string s) = [] ↔ p s) :
    Accept [check, .type .string] v ↔ ∃ s, v = .string s ∧ p s := by
  rw [accept_cons_iff, accept_text_iff]
  constructor
  · rintro ⟨hcheck, s, rfl⟩
    exact ⟨s, rfl, (h s).mp hcheck⟩
  · rintro ⟨s, rfl, hs⟩
    exact ⟨(h s).mpr hs, s, rfl⟩

theorem accept_someText_iff {v : Json} :
    Accept [.minLength 1, .type .string] v ↔ ∃ s, v = .string s ∧ s ≠ "" := by
  refine accept_cons_text_iff fun s => ?_
  rw [run_minLength_string_iff, Nat.one_le_iff_ne_zero, ne_eq, List.length_eq_zero_iff, String.toList_eq_nil_iff]

theorem accept_choice_iff {values : List String} {v : Json} :
    Accept [.choice (values.map .string), .type .string] v ↔ ∃ s, v = .string s ∧ s ∈ values :=
  accept_cons_text_iff fun _ => run_choice_string_iff

/-! ### Arrays and objects -/

theorem run_property_iff {key : String} {checks : List Check} {v : Json} :
    run (.property key checks) v = [] ↔ ∀ field, v.get? key = some field → Accept checks field := by
  change inField key (runAll checks) v = [] ↔ _
  rw [inField]
  cases v.get? key with
  | none => simp
  | some field => simp [Accept]

theorem run_required_object_iff {key : String} {fields : Fields} :
    run (.required key) (.object fields) = [] ↔ ∃ field, Json.get? key (.object fields) = some field :=
  demand_eq_nil_iff.trans Option.isSome_iff_exists

theorem run_minItems_array_iff {n : Nat} {items : List Json} :
    run (.minItems n) (.array items) = [] ↔ n ≤ items.length := demand_eq_nil_iff.trans decide_eq_true_iff

theorem run_items_array_iff {checks : List Check} {items : List Json} :
    run (.items checks) (.array items) = [] ↔ ∀ item ∈ items, Accept checks item := by
  change eachItem (runAll checks) (.array items) = [] ↔ _
  rw [eachItem, List.flatten_eq_nil_iff]
  constructor
  · intro h item hitem
    obtain ⟨i, hi, rfl⟩ := List.mem_iff_getElem.mp hitem
    have hfound := h _ (List.mem_mapIdx.mpr ⟨i, hi, rfl⟩)
    exact List.map_eq_nil_iff.mp hfound
  · intro h found hfound
    obtain ⟨i, hi, rfl⟩ := List.mem_mapIdx.mp hfound
    exact List.map_eq_nil_iff.mpr (h _ (List.getElem_mem hi))

theorem accept_list_iff {checks : List Check} {v : Json} :
    Accept [.items checks, .type .array] v ↔ ∃ items, v = .array items ∧ ∀ item ∈ items, Accept checks item := by
  rw [accept_cons_iff, accept_cons_iff, run_type_iff, holds_array_iff]
  constructor
  · rintro ⟨hitems, ⟨items, rfl⟩, -⟩
    exact ⟨items, rfl, run_items_array_iff.mp hitems⟩
  · rintro ⟨items, rfl, hitems⟩
    exact ⟨run_items_array_iff.mpr hitems, ⟨items, rfl⟩, accept_nil _⟩

theorem accept_choices_iff {v : Json} :
    Accept [.minItems 1, .type .array] v ↔ ∃ items, v = .array items ∧ items ≠ [] := by
  rw [accept_cons_iff, accept_cons_iff, run_type_iff, holds_array_iff]
  constructor
  · rintro ⟨hcheck, ⟨items, rfl⟩, -⟩
    exact ⟨items, rfl, List.length_pos_iff.mp (run_minItems_array_iff.mp hcheck)⟩
  · rintro ⟨items, rfl, hne⟩
    exact ⟨run_minItems_array_iff.mpr (List.length_pos_iff.mpr hne), ⟨items, rfl⟩, accept_nil _⟩

end Check

namespace Regex

/-! ### Words -/

theorem matchesFront_nothing (start : Bool) (s : List Char) : nothing.matchesFront start s = false := by
  induction s generalizing start with
  | nil => rfl
  | cons c rest ih => exact ih false

/-- The texts of one or more characters of a set. -/
def words (set : CharSet) : Regex := .seq .atStart (.seq (.seq (.chars set) (.star (.chars set))) .atEnd)

/-- The rest of a word. -/
def wordEnd (set : CharSet) : Regex := .seq (.star (.chars set)) .atEnd

theorem derive_wordEnd (set : CharSet) (c : Char) :
    (wordEnd set).derive false c = if set.holds c then wordEnd set else nothing := by
  by_cases h : set.holds c = true <;> simp [wordEnd, derive, mkSeq, mkAlt, nullable, h]

theorem matchesFront_wordEnd (set : CharSet) (s : List Char) :
    (wordEnd set).matchesFront false s = s.all set.holds := by
  induction s with
  | nil => rfl
  | cons c rest ih =>
    rw [matchesFront, derive_wordEnd, List.all_cons, ← ih]
    by_cases h : set.holds c = true
    · simp [wordEnd, nullable, h]
    · simp [wordEnd, nullable, h, matchesFront_nothing]

/-- Words begin at the very start only. -/
theorem searchFrom_words (set : CharSet) (s : List Char) : (words set).searchFrom false s = false := by
  induction s with
  | nil => simp [searchFrom, matchesFront, words, nullable]
  | cons c rest ih =>
    have hderive : (words set).derive false c = nothing := by simp [words, derive, mkSeq, nullable]
    have hnull : (words set).nullable false false = false := by simp [words, nullable]
    rw [searchFrom, matchesFront, hnull, hderive, matchesFront_nothing, ih]
    rfl

theorem derive_words (set : CharSet) (c : Char) :
    (words set).derive true c = if set.holds c then wordEnd set else nothing := by
  by_cases h : set.holds c = true <;> simp [words, wordEnd, derive, mkSeq, mkAlt, nullable, h]

theorem search_words_iff {set : CharSet} {s : List Char} :
    (words set).search s = true ↔ s ≠ [] ∧ ∀ c ∈ s, set.holds c = true := by
  cases s with
  | nil => simp [search, searchFrom, matchesFront, words, nullable]
  | cons c rest =>
    have hnull : (words set).nullable true false = false := by simp [words, nullable]
    rw [search, searchFrom, searchFrom_words, matchesFront, hnull, derive_words, List.forall_mem_cons,
      ← List.all_eq_true, ← matchesFront_wordEnd]
    by_cases h : set.holds c = true
    · simp [h]
    · simp [h, matchesFront_nothing]

end Regex

end ToolPlugins
