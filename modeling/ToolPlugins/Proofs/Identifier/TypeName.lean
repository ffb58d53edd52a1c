import Mathlib
import ToolPlugins.Proofs.Identifier.Canonical
import ToolPlugins.Proofs.Json.Literal
import ToolPlugins.Proofs.Text.Bytes
import ToolPlugins.Registry.Task

/-!
Type names of versions. A version can be read back from its type name under a known identifier, because no byte is
written as the beginning of another one. Without the identifier it cannot: nothing marks where the identifier ends.
-/

namespace ToolPlugins.Identifier

/-- What a version adds to the type name of its identifier, after the letter between them. -/
def versionChars (version : String) : List Char := (Text.utf8Bytes version).flatMap versionByte

theorem toList_versionTypeName (identifier version : String) :
    (versionTypeName identifier version).toList = identifier.toList ++ 'V' :: versionChars version := by
  simp [versionTypeName, versionChars]

/-! ### Bytes -/

theorem digitChar_inj {m n : Nat} (hm : m < 16) (hn : n < 16) (h : Nat.digitChar m = Nat.digitChar n) : m = n := by
  have hvalue := Json.hexValue?_digitChar m hm
  rw [h, Json.hexValue?_digitChar n hn] at hvalue
  exact (Option.some.inj hvalue).symm

theorem toNat_ofNat_byte (byte : UInt8) : (Char.ofNat byte.toNat).toNat = byte.toNat := by
  have hlt := byte.toNat_lt
  rw [Char.toNat_ofNat, if_pos (.inl (by omega))]

theorem isWord_of_mem_versionByte {byte : UInt8} {c : Char} (h : c ∈ versionByte byte) : Text.isWord c = true := by
  have hdigit : ∀ n < 16, Text.isWord (Nat.digitChar n) = true := by decide
  have hlt := byte.toNat_lt
  simp only [versionByte] at h
  split at h
  · next halnum =>
    rw [List.mem_singleton.mp h]
    simp [Text.isWord, halnum]
  · simp only [Text.hexByte, List.mem_cons, List.not_mem_nil, or_false] at h
    rcases h with rfl | rfl | rfl
    · decide
    · exact hdigit _ (by omega)
    · exact hdigit _ (by omega)

/-- What a byte is written as shows the byte, whatever is written after it. -/
theorem versionByte_append_inj {a b : UInt8} {s t : List Char} (h : versionByte a ++ s = versionByte b ++ t) :
    a = b ∧ s = t := by
  have ha := a.toNat_lt
  have hb := b.toNat_lt
  have hmark : ('_' : Char).isAlphanum = false := by decide
  simp only [versionByte] at h
  split at h
  · next hka =>
    split at h
    · obtain ⟨hc, hst⟩ := List.cons.inj h
      have hnat := congrArg Char.toNat hc
      rw [toNat_ofNat_byte, toNat_ofNat_byte] at hnat
      exact ⟨UInt8.toNat_inj.mp hnat, hst⟩
    · rw [(List.cons.inj h).1, hmark] at hka
      cases hka
  · split at h
    · next hkb =>
      rw [← (List.cons.inj h).1, hmark] at hkb
      cases hkb
    · simp only [Text.hexByte, List.cons_append, List.nil_append, List.cons.injEq] at h
      obtain ⟨-, hhigh, hlow, hst⟩ := h
      have hhigh := digitChar_inj (by omega) (by omega) hhigh
      have hlow := digitChar_inj (by omega) (by omega) hlow
      exact ⟨UInt8.toNat_inj.mp (by omega), hst⟩

theorem versionByte_ne_nil (byte : UInt8) : versionByte byte ≠ [] := by
  simp only [versionByte]
  split <;> simp

theorem versionByte_of_isAlphanum {c : Char} (h : c.isAlphanum = true) : versionByte (UInt8.ofNat c.toNat) = [c] := by
  have hlt := (Text.toNat_of_isAlphanum h).2
  have hnat : (UInt8.ofNat c.toNat).toNat = c.toNat := by
    rw [UInt8.toNat_ofNat']
    omega
  simp only [versionByte, hnat, Char.ofNat_toNat, h, if_true]

/-! ### Versions -/

theorem flatMap_versionByte_inj {as bs : List UInt8} (h : as.flatMap versionByte = bs.flatMap versionByte) : as = bs := by
  induction as generalizing bs with
  | nil =>
    cases bs with
    | nil => rfl
    | cons b bs => exact absurd (List.append_eq_nil_iff.mp h.symm).1 (versionByte_ne_nil b)
  | cons a as ih =>
    cases bs with
    | nil => exact absurd (List.append_eq_nil_iff.mp h).1 (versionByte_ne_nil a)
    | cons b bs =>
      obtain ⟨rfl, hrest⟩ := versionByte_append_inj h
      rw [ih hrest]

theorem versionChars_inj {v w : String} : versionChars v = versionChars w ↔ v = w := by
  constructor
  · intro h
    exact Text.utf8Bytes_inj.mp (flatMap_versionByte_inj h)
  · rintro rfl
    rfl

theorem versionChars_append (v w : String) : versionChars (v ++ w) = versionChars v ++ versionChars w := by
  rw [versionChars, Text.utf8Bytes_append, List.flatMap_append, versionChars, versionChars]

theorem isWord_of_mem_versionChars {version : String} {c : Char} (h : c ∈ versionChars version) :
    Text.isWord c = true := by
  obtain ⟨byte, -, hc⟩ := List.mem_flatMap.mp h
  exact isWord_of_mem_versionByte hc

/-- Letters and digits are written as they are. -/
theorem versionChars_ofList {s : List Char} (h : ∀ c ∈ s, c.isAlphanum = true) : versionChars (String.ofList s) = s := by
  rw [versionChars, Text.utf8Bytes_ofList, List.flatMap_assoc]
  induction s with
  | nil => rfl
  | cons c s ih =>
    have hc := h c List.mem_cons_self
    have hlt := (Text.toNat_of_isAlphanum hc).2
    rw [List.flatMap_cons, Text.utf8EncodeChar_ascii (by omega), List.flatMap_singleton, versionByte_of_isAlphanum hc,
      ih fun d hd => h d (List.mem_cons_of_mem c hd)]
    rfl

/-- Only letters and digits are written as they are. -/
theorem versionChars_eq_iff {version : String} {s : List Char} (h : ∀ c ∈ s, c.isAlphanum = true) :
    versionChars version = s ↔ version = String.ofList s := by
  rw [← versionChars_inj, versionChars_ofList h]

/-! ### Type names -/

theorem versionTypeName_injective (identifier : String) : Function.Injective (versionTypeName identifier) := by
  intro v w h
  have hchars := congrArg String.toList h
  rw [toList_versionTypeName, toList_versionTypeName] at hchars
  exact versionChars_inj.mp (List.cons.inj (List.append_cancel_left hchars)).2

theorem versionTypeName_ne_identifier (identifier version : String) : versionTypeName identifier version ≠ identifier := by
  intro h
  have hlength := congrArg (fun s => s.toList.length) h
  simp only [toList_versionTypeName, List.length_append, List.length_cons] at hlength
  omega

theorem colon_not_mem_versionChars (version : String) : ':' ∉ versionChars version := fun h =>
  absurd (isWord_of_mem_versionChars h) (by decide)

/-- The qualified name has two colons more than the identifier, a type name has none more. -/
theorem versionTypeName_ne_qualifiedName (identifier version : String) :
    versionTypeName identifier version ≠ qualifiedName identifier := by
  intro h
  have hcount := congrArg (fun s => s.toList.count ':') h
  have htask : "Task::".toList.count ':' = 2 := by decide
  have hversion : ('V' :: versionChars version).count ':' = 0 := by
    rw [List.count_eq_zero]
    simp [colon_not_mem_versionChars]
  simp only [toList_versionTypeName, qualifiedName, String.toList_append, List.count_append, htask, hversion] at hcount
  omega

/-! ### Type names of two identifiers -/

section
variable {i j v w : String}

theorem isAlphanum_of_isCanonical (h : isCanonical i = true) : ∀ c ∈ i.toList, c.isAlphanum = true :=
  isAlphanum_of_isCanonicalChars h

/-- Letters and digits may be read as the end of the identifier or as the beginning of the version. -/
theorem versionTypeName_append {x : String} (hx : ∀ c ∈ x.toList, c.isAlphanum = true) (i w : String) :
    versionTypeName i (x ++ "V" ++ w) = versionTypeName (i ++ "V" ++ x) w := by
  have hv : versionChars "V" = ['V'] := versionChars_ofList (s := ['V']) (by simp)
  have hxs : versionChars x = x.toList := by
    rw [← versionChars_ofList hx, String.ofList_toList]
  rw [← String.toList_inj, toList_versionTypeName, toList_versionTypeName, versionChars_append, versionChars_append, hv,
    hxs]
  simp

/-- A type name of a version is an identifier exactly when the version only goes on with letters and digits. -/
theorem versionTypeName_eq_iff (hj : isCanonical j = true) : versionTypeName i v = j ↔ j = i ++ "V" ++ v := by
  have hchars : versionTypeName i v = j ↔ i.toList ++ 'V' :: versionChars v = j.toList := by
    rw [← String.toList_inj, toList_versionTypeName]
  have happend : j = i ++ "V" ++ v ↔ i.toList ++ 'V' :: v.toList = j.toList := by
    rw [← String.toList_inj, String.toList_append, String.toList_append]
    simp [eq_comm]
  have hall := isAlphanum_of_isCanonical hj
  rw [hchars, happend]
  constructor
  · intro h
    rw [← h] at hall ⊢
    have hv := (versionChars_eq_iff fun c hc => hall c (by simp [hc])).mp (rfl : versionChars v = _)
    rw [hv, versionChars_ofList fun c hc => hall c (by simp [hc]), String.toList_ofList]
  · intro h
    rw [← h] at hall ⊢
    have hv := versionChars_ofList fun c (hc : c ∈ v.toList) => hall c (by simp [hc])
    rw [String.ofList_toList] at hv
    rw [hv]

/-- If the type names are the same, the longer identifier goes on as the version of the shorter one does. -/
theorem exists_of_append_eq (hj : isCanonical j = true) (hne : i ≠ j) {rest : List Char}
    (hfront : j.toList = i.toList ++ rest) (h : 'V' :: versionChars v = rest ++ 'V' :: versionChars w) :
    ∃ x, j = i ++ "V" ++ x ∧ v = x ++ "V" ++ w := by
  cases rest with
  | nil => exact absurd (String.toList_inj.mp (by rw [hfront, List.append_nil])) hne
  | cons c x =>
    obtain ⟨rfl, h⟩ := List.cons.inj h
    have hx : ∀ c ∈ (String.ofList x).toList, c.isAlphanum = true := by
      intro c hc
      rw [String.toList_ofList] at hc
      refine isAlphanum_of_isCanonical hj c ?_
      rw [hfront]
      exact List.mem_append_right _ (List.mem_cons_of_mem _ hc)
    refine ⟨String.ofList x, ?_, versionTypeName_injective i ?_⟩
    · rw [← String.toList_inj, hfront]
      simp
    · rw [versionTypeName_append hx, ← String.toList_inj, toList_versionTypeName, toList_versionTypeName, h]
      simp

theorem versionTypeName_eq_versionTypeName_iff (hi : isCanonical i = true) (hj : isCanonical j = true) (hne : i ≠ j) :
    versionTypeName i v = versionTypeName j w ↔
      (∃ x, j = i ++ "V" ++ x ∧ v = x ++ "V" ++ w) ∨ ∃ x, i = j ++ "V" ++ x ∧ w = x ++ "V" ++ v := by
  have hback : ∀ {i j v w : String}, isCanonical j = true → (∃ x, j = i ++ "V" ++ x ∧ v = x ++ "V" ++ w) →
      versionTypeName i v = versionTypeName j w := by
    rintro i j v w hj ⟨x, rfl, rfl⟩
    exact versionTypeName_append (fun c hc => isAlphanum_of_isCanonical hj c (by simp [hc])) i w
  constructor
  · intro h
    rw [← String.toList_inj, toList_versionTypeName, toList_versionTypeName] at h
    rcases List.append_eq_append_iff.mp h with ⟨rest, hfront, h⟩ | ⟨rest, hfront, h⟩
    · exact .inl (exists_of_append_eq hj hne hfront h)
    · exact .inr (exists_of_append_eq hi (Ne.symm hne) hfront h)
  · rintro (h | h)
    · exact hback hj h
    · exact (hback hi h).symm

end

end ToolPlugins.Identifier
