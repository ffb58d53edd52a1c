import Mathlib
import ToolPlugins.Descriptor

/-!
Which parts of a document the segments of a path lead to. The texts that count as an index are those that write a number
in decimal digits, with zeros or a plus sign before them.
-/

namespace ToolPlugins

namespace Json

/-- A text writes an index: the digits of the number, with any zeros before them and a plus sign before those. -/
def WritesIndex (text : List Char) (i : Nat) : Prop :=
  i < 2 ^ 64 ∧ ∃ sign zeros, (sign = [] ∨ sign = ['+']) ∧
    text = sign ++ (List.replicate zeros '0' ++ Nat.toDigits 10 i)

/-- A segment names a part of a value: a key in an object, an index in an array. -/
inductive NamesPart : Json → String → Json → Prop
  | key {fields : Fields} {segment : String} {part : Json} :
      fields.get? segment = some part → NamesPart (.object fields) segment part
  | index {items : List Json} {segment : String} {i : Nat} {part : Json} :
      WritesIndex segment.toList i → items[i]? = some part → NamesPart (.array items) segment part

/-- The segments lead from a value to a part of it, one after the other. -/
inductive LeadsTo : Json → List String → Json → Prop
  | here (value : Json) : LeadsTo value [] value
  | step {value next part : Json} {segment : String} {rest : List String} :
      NamesPart value segment next → LeadsTo next rest part → LeadsTo value (segment :: rest) part

/-! ### Indices -/

theorem decimalValue_eq_ofDigitChars (digits : List Char) : Text.decimalValue digits = Nat.ofDigitChars 10 digits 0 := by
  rw [Text.decimalValue, Nat.ofDigitChars_eq_foldl]
  congr 1
  funext n c
  rw [Text.digitValue, Nat.mul_comm]

theorem decimalValue_append_singleton (digits : List Char) (c : Char) :
    Text.decimalValue (digits ++ [c]) = 10 * Text.decimalValue digits + Text.digitValue c := by
  rw [Text.decimalValue, List.foldl_append, List.foldl_cons, List.foldl_nil, ← Text.decimalValue, Nat.mul_comm]

theorem toNat_of_isDigit {c : Char} (h : c.isDigit = true) : 48 ≤ c.toNat ∧ c.toNat ≤ 57 := by
  simp only [Char.isDigit, Bool.and_eq_true, decide_eq_true_eq, ge_iff_le, UInt32.le_iff_toNat_le] at h
  exact h

theorem digitValue_lt {c : Char} (h : c.isDigit = true) : Text.digitValue c < 10 := by
  obtain ⟨hlow, hhigh⟩ := toNat_of_isDigit h
  change c.toNat - 48 < 10
  omega

theorem toDigits_digitValue {c : Char} (h : c.isDigit = true) : Nat.toDigits 10 (Text.digitValue c) = [c] := by
  have hlt := digitValue_lt h
  obtain ⟨hlow, hhigh⟩ := toNat_of_isDigit h
  rw [Nat.toDigits_of_lt_base hlt, List.cons.injEq, and_iff_left rfl, ← Char.toNat_inj,
    Nat.toNat_digitChar_of_lt_ten hlt]
  change 48 + (c.toNat - 48) = c.toNat
  omega

theorem decimalValue_replicate_append (zeros n : Nat) :
    Text.decimalValue (List.replicate zeros '0' ++ Nat.toDigits 10 n) = n := by
  rw [decimalValue_eq_ofDigitChars, Nat.ofDigitChars_append, Nat.ofDigitChars_replicate_zero, Nat.mul_zero,
    Nat.ofDigitChars_toDigits (by decide) (by decide)]

/-- Decimal digits are those of the number that they write, behind zeros. -/
theorem exists_eq_replicate_append {digits : List Char} (hne : digits ≠ []) (h : ∀ c ∈ digits, c.isDigit = true) :
    ∃ zeros, digits = List.replicate zeros '0' ++ Nat.toDigits 10 (Text.decimalValue digits) := by
  induction digits using List.reverseRecOn with
  | nil => exact absurd rfl hne
  | append_singleton front c ih =>
    have hc : c.isDigit = true := h c (by simp)
    rw [decimalValue_append_singleton]
    rcases eq_or_ne front [] with rfl | hfront
    · have hnone : Text.decimalValue [] = 0 := rfl
      rw [hnone, Nat.mul_zero, Nat.zero_add, toDigits_digitValue hc]
      exact ⟨0, rfl⟩
    · obtain ⟨zeros, hzeros⟩ := ih hfront fun d hd => h d (List.mem_append_left _ hd)
      rcases Nat.eq_zero_or_pos (Text.decimalValue front) with hzero | hpos
      · rw [hzero, Nat.toDigits_zero] at hzeros
        rw [hzero, Nat.mul_zero, Nat.zero_add, toDigits_digitValue hc]
        exact ⟨zeros + 1, by rw [hzeros, List.replicate_succ']⟩
      · rw [← Nat.toDigits_append_toDigits (by decide) hpos (digitValue_lt hc), toDigits_digitValue hc]
        exact ⟨zeros, by rw [← List.append_assoc, ← hzeros]⟩

theorem isDigit_of_mem_replicate_append {zeros n : Nat} {c : Char}
    (h : c ∈ List.replicate zeros '0' ++ Nat.toDigits 10 n) : c.isDigit = true := by
  rcases List.mem_append.mp h with h | h
  · rw [List.eq_of_mem_replicate h]
    rfl
  · exact Nat.isDigit_of_mem_toDigits (by decide) (by decide) h

/-- The text behind the plus sign, if it starts with one. -/
def unsigned : List Char → List Char
  | '+' :: rest => rest
  | rest => rest

theorem exists_eq_append_unsigned (text : List Char) :
    ∃ sign, (sign = [] ∨ sign = ['+']) ∧ text = sign ++ unsigned text := by
  rw [unsigned.eq_def]
  split
  · exact ⟨['+'], .inr rfl, rfl⟩
  · exact ⟨[], .inl rfl, rfl⟩

theorem unsigned_append {sign digits : List Char} (hsign : sign = [] ∨ sign = ['+'])
    (h : ∀ c ∈ digits, c.isDigit = true) : unsigned (sign ++ digits) = digits := by
  rcases hsign with rfl | rfl
  · rw [List.nil_append, unsigned.eq_def]
    split
    · exact absurd (h '+' List.mem_cons_self) (by decide)
    · rfl
  · rfl

theorem index?_eq (text : List Char) :
    index? text = if unsigned text = [] ∨ ¬∀ c ∈ unsigned text, c.isDigit = true then none
      else if Text.decimalValue (unsigned text) < 2 ^ 64 then some (Text.decimalValue (unsigned text)) else none := by
  have hdef : index? text = if (unsigned text).isEmpty || !(unsigned text).all Char.isDigit then none
      else if Text.decimalValue (unsigned text) < 2 ^ 64 then some (Text.decimalValue (unsigned text)) else none := rfl
  rw [hdef]
  simp only [Bool.or_eq_true, List.isEmpty_iff, Bool.not_eq_true', ← Bool.not_eq_true, List.all_eq_true]

theorem index?_eq_some_iff {text : List Char} {i : Nat} : index? text = some i ↔ WritesIndex text i := by
  rw [index?_eq]
  constructor
  · intro h
    split_ifs at h with hdigits hlt
    rw [not_or, not_not] at hdigits
    obtain ⟨sign, hsign, htext⟩ := exists_eq_append_unsigned text
    obtain ⟨zeros, hzeros⟩ := exists_eq_replicate_append hdigits.1 hdigits.2
    cases h
    exact ⟨hlt, sign, zeros, hsign, by rw [← hzeros, ← htext]⟩
  · rintro ⟨hlt, sign, zeros, hsign, rfl⟩
    have hdigits : ∀ c ∈ List.replicate zeros '0' ++ Nat.toDigits 10 i, c.isDigit = true :=
      fun c hc => isDigit_of_mem_replicate_append hc
    have hne : List.replicate zeros '0' ++ Nat.toDigits 10 i ≠ [] :=
      List.append_ne_nil_of_right_ne_nil _ Nat.toDigits_ne_nil
    rw [unsigned_append hsign hdigits, decimalValue_replicate_append, if_neg (not_or.mpr ⟨hne, not_not.mpr hdigits⟩),
      if_pos hlt]

/-! ### Paths -/

theorem step?_eq_some_iff {value part : Json} {segment : String} :
    value.step? segment = some part ↔ NamesPart value segment part := by
  constructor
  · intro h
    cases value with
    | object fields => exact .key h
    | array items =>
      obtain ⟨i, hi, hitem⟩ := Option.bind_eq_some_iff.mp h
      exact .index (index?_eq_some_iff.mp hi) hitem
    | _ => cases h
  · intro h
    cases h with
    | key hfield => exact hfield
    | index hi hitem => exact Option.bind_eq_some_iff.mpr ⟨_, index?_eq_some_iff.mpr hi, hitem⟩

theorem follow?_eq_some_iff {value part : Json} {segments : List String} :
    value.follow? segments = some part ↔ LeadsTo value segments part := by
  induction segments generalizing value with
  | nil =>
    rw [follow?, Option.some.injEq]
    constructor
    · rintro rfl
      exact .here value
    · intro h
      cases h
      rfl
  | cons segment rest ih =>
    simp only [follow?, Option.bind_eq_some_iff, ih, step?_eq_some_iff]
    constructor
    · rintro ⟨next, hnext, hrest⟩
      exact .step hnext hrest
    · intro h
      cases h with
      | step hnext hrest => exact ⟨_, hnext, hrest⟩

theorem foldlM_step? (value : Json) (segments : List String) : segments.foldlM step? value = value.follow? segments := by
  induction segments generalizing value with
  | nil => rfl
  | cons segment rest ih =>
    rw [List.foldlM_cons, follow?]
    exact Option.bind_congr fun next _ => ih next

theorem dotted_ne_nil (path : String) : dotted path ≠ [] := by
  rw [dotted, ne_eq, List.map_eq_nil_iff]
  exact List.splitOn_ne_nil '.' path.toList

theorem dotted_of_not_mem {path : String} (h : '.' ∉ path.toList) : dotted path = [path] := by
  rw [dotted, List.splitOn_eq_singleton h, List.map_singleton, String.ofList_toList]

theorem dotted_append (path rest : String) : dotted (path ++ "." ++ rest) = dotted path ++ dotted rest := by
  rw [dotted, String.toList_append, String.toList_append, List.append_assoc, show ".".toList = ['.'] from rfl,
    List.singleton_append, List.splitOn_append_cons_self, List.map_append, dotted, dotted]

end Json

namespace Descriptor

theorem lookup?_eq_follow? (d : Descriptor) (path : String) : d.lookup? path = d.document.follow? (Json.dotted path) := by
  rw [lookup?]
  obtain ⟨first, rest, hpath⟩ := List.exists_cons_of_ne_nil (Json.dotted_ne_nil path)
  rw [hpath]
  rfl

/-- A path without a dot is the name of a field. -/
theorem lookup?_eq_get? (d : Descriptor) {key : String} (h : '.' ∉ key.toList) : d.lookup? key = d.get? key := by
  rw [lookup?_eq_follow?, Json.dotted_of_not_mem h]
  exact Option.bind_fun_some (d.get? key)

end Descriptor

end ToolPlugins
