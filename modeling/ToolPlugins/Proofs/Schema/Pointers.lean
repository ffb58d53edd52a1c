import Mathlib
import ToolPlugins.Proofs.Schema.Bundled
import ToolPlugins.Proofs.Schema.Paths

/-!
What the pointer of a validation error tells of its path. The keys stand in it as they are, so a reader who cuts it at
its slashes and takes out the escapes finds the path only where no key has a slash or reads as an escape. The bundled
schema asks for no such keys, and so all its errors are found.
-/

namespace ToolPlugins

namespace Json.Pointer

/-! ### Segments without escapes -/

/-- Where there is nothing to replace, the text is kept; each replacement takes a character from it. -/
theorem replaceTilde_cases (digit c : Char) (s : List Char) :
    (¬['~', digit] <:+: s ∧ replaceTilde digit c s = s) ∨
      ['~', digit] <:+: s ∧ (replaceTilde digit c s).length < s.length := by
  have behind : ∀ {d : Char} {rest replaced : List Char}, ¬['~', digit] <+: d :: rest →
      (¬['~', digit] <:+: rest ∧ replaced = rest) ∨ ['~', digit] <:+: rest ∧ replaced.length < rest.length →
      (¬['~', digit] <:+: d :: rest ∧ d :: replaced = d :: rest) ∨
        ['~', digit] <:+: d :: rest ∧ (d :: replaced).length < (d :: rest).length := by
    rintro d rest replaced hfront (⟨hnone, rfl⟩ | ⟨hsome, hlt⟩)
    · exact .inl ⟨fun h => (List.infix_cons_iff.mp h).elim hfront hnone, rfl⟩
    · exact .inr ⟨List.infix_cons_iff.mpr (.inr hsome), Nat.succ_lt_succ hlt⟩
  fun_induction replaceTilde digit c s with
  | case1 rest ih =>
    refine .inr ⟨⟨[], rest, rfl⟩, ?_⟩
    have hle : (replaceTilde digit c rest).length ≤ rest.length := by
      rcases ih with ⟨-, heq⟩ | ⟨-, hlt⟩
      · rw [heq]
      · exact hlt.le
    simp only [List.length_cons]
    omega
  | case2 d rest hd ih =>
    refine behind (fun hfront => hd ?_) ih
    exact (List.cons_prefix_cons.mp (List.cons_prefix_cons.mp hfront).2).1.symm
  | case3 d rest hnot ih =>
    refine behind (fun hfront => ?_) ih
    obtain ⟨hd, more, rfl⟩ := List.cons_prefix_cons.mp hfront
    exact hnot digit more hd.symm rfl
  | case4 => exact .inl ⟨by simp, rfl⟩

/-- A segment is read as it is written only if it has no escape in it. -/
theorem unescape_eq_self_iff {s : List Char} : unescape s = s ↔ ¬['~', '0'] <:+: s ∧ ¬['~', '1'] <:+: s := by
  rw [unescape]
  constructor
  · intro h
    rcases replaceTilde_cases '1' '/' s with ⟨hslash, heq⟩ | ⟨-, hlt⟩
    · refine ⟨fun htilde => ?_, hslash⟩
      rw [heq] at h
      rcases replaceTilde_cases '0' '~' s with ⟨hnone, -⟩ | ⟨-, hlt⟩
      · exact hnone htilde
      · rw [h] at hlt
        exact absurd hlt (lt_irrefl _)
    · have hle : s.length ≤ (replaceTilde '1' '/' s).length := by
        rcases replaceTilde_cases '0' '~' (replaceTilde '1' '/' s) with ⟨-, heq⟩ | ⟨-, hlt'⟩
        · rw [← heq, h]
        · rw [h] at hlt'
          exact hlt'.le
      exact absurd hlt (Nat.not_lt.mpr hle)
  · rintro ⟨htilde, hslash⟩
    rw [((replaceTilde_cases '1' '/' s).resolve_right fun h => hslash h.1).2,
      ((replaceTilde_cases '0' '~' s).resolve_right fun h => htilde h.1).2]

/-- A key that a pointer shows as it is: it has no slash, and no escape. -/
structure IsPlain (key : String) : Prop where
  slash : '/' ∉ key.toList
  tilde : ¬['~', '0'] <:+: key.toList ∧ ¬['~', '1'] <:+: key.toList

theorem isPlain_of_not_mem {key : String} (hslash : '/' ∉ key.toList) (htilde : '~' ∉ key.toList) : IsPlain key :=
  ⟨hslash, fun h => htilde (h.subset List.mem_cons_self), fun h => htilde (h.subset List.mem_cons_self)⟩

theorem isPlain_toString (i : Nat) : IsPlain (toString i) := by
  have hdigit : ∀ c ∈ (toString i).toList, c.isDigit = true := fun c hc =>
    Nat.isDigit_of_mem_toDigits (by decide) (by decide) (Nat.toList_repr ▸ hc)
  exact isPlain_of_not_mem (fun h => absurd (hdigit _ h) (by decide)) fun h => absurd (hdigit _ h) (by decide)

/-- The parts of a key between its slashes. -/
def cut (key : String) : List (List Char) := key.toList.splitOn '/'

theorem cut_eq_singleton_iff {key : String} {part : List Char} :
    cut key = [part] ↔ '/' ∉ key.toList ∧ part = key.toList := by
  rw [cut]
  constructor
  · intro h
    have hjoin : ['/'].intercalate (key.toList.splitOn '/') = key.toList := List.intercalate_splitOn '/'
    rw [h, List.intercalate_singleton] at hjoin
    have hslash : '/' ∉ part := Text.not_mem_of_mem_splitOn (h ▸ List.mem_singleton_self part)
    exact ⟨hjoin ▸ hslash, hjoin⟩
  · rintro ⟨hslash, rfl⟩
    exact List.splitOn_eq_singleton hslash

/-- Lists that replace the members of a list, and are not empty, leave it as it is only if each one does. -/
theorem flatMap_eq_self_iff {α : Type} {f : α → List α} {l : List α} (hne : ∀ a, f a ≠ []) :
    l.flatMap f = l ↔ ∀ a ∈ l, f a = [a] := by
  have hlength : ∀ l : List α, l.length ≤ (l.flatMap f).length := by
    intro l
    induction l with
    | nil => exact le_rfl
    | cons a rest ih =>
      have ha := List.length_pos_iff.mpr (hne a)
      rw [List.flatMap_cons, List.length_append, List.length_cons]
      omega
  constructor
  · intro h
    induction l with
    | nil => exact List.forall_mem_nil _
    | cons a rest ih =>
      obtain ⟨b, more, hb⟩ := List.exists_cons_of_ne_nil (hne a)
      rw [List.flatMap_cons, hb, List.cons_append] at h
      obtain ⟨rfl, hrest⟩ := List.cons.inj h
      have hnil : more = [] := by
        have htotal := congrArg List.length hrest
        have hle := hlength rest
        rw [List.length_append] at htotal
        exact List.length_eq_zero_iff.mp (by omega)
      rw [hnil, List.nil_append] at hrest
      exact List.forall_mem_cons.mpr ⟨by rw [hb, hnil], ih hrest⟩
  · intro h
    rw [List.flatMap_congr h, List.flatMap_singleton']

end Json.Pointer

namespace ValidationError
open Json.Pointer

/-! ### Pointers -/

section
variable {e e' : ValidationError}

theorem toList_pointer (e : ValidationError) : e.pointer.toList = e.path.flatMap fun key => '/' :: key.toList := by
  rw [pointer, String.toList_join, List.flatMap_map]
  refine List.flatMap_congr fun key _ => ?_
  rw [String.toList_append]
  rfl

theorem splitOn_pointer (e : ValidationError) : e.pointer.toList.splitOn '/' = [] :: e.path.flatMap cut := by
  rw [toList_pointer]
  generalize e.path = path
  induction path using List.reverseRecOn with
  | nil => rfl
  | append_singleton path key ih =>
    rw [List.flatMap_append, List.flatMap_append, List.flatMap_singleton, List.flatMap_singleton,
      List.splitOn_append_cons_self, ih]
    rfl

/-- A pointer is read as the keys of its path, cut at their slashes and without what reads as an escape. -/
theorem pathOf_pointer (e : ValidationError) :
    pathOf e.pointer.toList = e.path.flatMap fun key => (cut key).map fun part => String.ofList (unescape part) := by
  rw [pathOf, split, splitOn_pointer, List.drop_one, List.tail_cons, List.map_map, List.map_flatMap]
  rfl

theorem pathOf_pointer_eq_iff : pathOf e.pointer.toList = e.path ↔ ∀ key ∈ e.path, IsPlain key := by
  have hne : ∀ key, ((cut key).map fun part => String.ofList (unescape part)) ≠ [] := by
    intro key
    rw [ne_eq, List.map_eq_nil_iff]
    exact List.splitOn_ne_nil '/' key.toList
  rw [pathOf_pointer, flatMap_eq_self_iff hne]
  refine forall₂_congr fun key _ => ?_
  rw [List.map_eq_singleton_iff]
  constructor
  · rintro ⟨part, hcut, hpart⟩
    obtain ⟨hslash, rfl⟩ := cut_eq_singleton_iff.mp hcut
    have hread := congrArg String.toList hpart
    rw [String.toList_ofList] at hread
    exact ⟨hslash, unescape_eq_self_iff.mp hread⟩
  · rintro ⟨hslash, htilde⟩
    refine ⟨key.toList, cut_eq_singleton_iff.mpr ⟨hslash, rfl⟩, ?_⟩
    rw [unescape_eq_self_iff.mpr htilde, String.ofList_toList]

/-- Two errors have one pointer if their keys fall into the same parts. -/
theorem pointer_eq_pointer_iff : e.pointer = e'.pointer ↔ e.path.flatMap cut = e'.path.flatMap cut := by
  constructor
  · intro h
    have hsplit := splitOn_pointer e
    rw [h, splitOn_pointer] at hsplit
    exact (List.cons.inj hsplit).2.symm
  · intro h
    have hjoin : ∀ e : ValidationError, e.pointer.toList = ['/'].intercalate ([] :: e.path.flatMap cut) := by
      intro e
      rw [← splitOn_pointer, List.intercalate_splitOn]
    rw [← String.toList_inj, hjoin, h, ← hjoin]

/-! ### What is shown of an error -/

theorem toList_display (e : ValidationError) :
    e.display.toList = (if e.path.isEmpty then ['/'] else e.pointer.toList) ++ ':' :: ' ' :: e.message.toList := by
  rw [display, String.toList_append, String.toList_append, List.append_assoc]
  split_ifs <;> rfl

/-- What stands behind the slash of a pointer starts as a message does, if the last key is empty or a key starts so. -/
theorem colon_prefix_iff {key : List Char} {rest : List String} {message : List Char} :
    [':', ' '] <+: key ++ ((rest.flatMap fun key => '/' :: key.toList) ++ ':' :: ' ' :: message) ↔
      (key = [] ∧ rest = []) ∨ [':', ' '] <+: key := by
  have hnext : ∀ {more : List Char}, [':', ' '] <+: (rest.flatMap fun key => '/' :: key.toList) ++ more → rest = [] := by
    intro more h
    cases rest with
    | nil => rfl
    | cons other rest => exact absurd (List.cons_prefix_cons.mp h).1 (by decide)
  cases key with
  | nil =>
    simp only [List.nil_append, true_and, List.prefix_nil, List.cons_ne_nil, or_false]
    refine ⟨hnext, ?_⟩
    rintro rfl
    exact ⟨message, rfl⟩
  | cons c key =>
    cases key with
    | nil =>
      refine iff_of_false (fun h => ?_) (by simp)
      rw [List.singleton_append] at h
      have hspace := (List.cons_prefix_cons.mp h).2
      cases rest with
      | nil => exact absurd (List.cons_prefix_cons.mp hspace).1 (by decide)
      | cons other rest => exact absurd (List.cons_prefix_cons.mp hspace).1 (by decide)
    | cons d key =>
      simp only [List.cons_append, List.cons_prefix_cons, List.nil_prefix, and_true, reduceCtorEq, false_and, false_or]

/-- An error looks like one of the whole document if its path is empty or one empty key, or if its first key starts as
    the text behind a pointer does. -/
theorem display_eq_root_iff : (∃ message, e.display = display ⟨[], message⟩) ↔
    e.path = [] ∨ e.path = [""] ∨ ∃ key rest, e.path = key :: rest ∧ [':', ' '] <+: key.toList := by
  have hroot : ∀ message, e.display = display ⟨[], message⟩ ↔ e.display.toList = '/' :: ':' :: ' ' :: message.toList := by
    intro message
    rw [← String.toList_inj, toList_display ⟨[], message⟩]
    rfl
  simp only [hroot, toList_display]
  cases hpath : e.path with
  | nil => exact iff_of_true ⟨e.message, rfl⟩ (.inl rfl)
  | cons key rest =>
    have hpointer : e.pointer.toList = '/' :: key.toList ++ rest.flatMap fun key => '/' :: key.toList := by
      rw [toList_pointer, hpath, List.flatMap_cons]
    have hcolon : (∃ message : String, key.toList ++ ((rest.flatMap fun key => '/' :: key.toList) ++
        ':' :: ' ' :: e.message.toList) = ':' :: ' ' :: message.toList) ↔ (key.toList = [] ∧ rest = []) ∨
          [':', ' '] <+: key.toList := by
      refine Iff.trans ?_ (@colon_prefix_iff key.toList rest e.message.toList)
      constructor
      · rintro ⟨message, h⟩
        exact ⟨message.toList, h.symm⟩
      · rintro ⟨message, h⟩
        exact ⟨String.ofList message, by rw [String.toList_ofList, ← h]; rfl⟩
    simp only [List.isEmpty_cons, Bool.false_eq_true, if_false, hpointer, List.cons_append, List.append_assoc,
      List.cons.injEq, true_and, reduceCtorEq, false_or]
    rw [hcolon, String.toList_eq_nil_iff]
    simp

end

end ValidationError

namespace Check
open Finding Json.Pointer

/-! ### Keys that a schema names -/

mutual

/-- The keys that a check names: those of properties, and those it asks for. -/
def namedKeys : Check → List String
  | items checks => namedKeysAll checks
  | itemAt _ checks => namedKeysAll checks
  | property key checks => key :: namedKeysAll checks
  | required key => [key]
  | _ => []

def namedKeysAll : List Check → List String
  | [] => []
  | check :: rest => namedKeys check ++ namedKeysAll rest

end

/-- A step on the path of an error: a key that is named, or an index. -/
def IsStep (keys : List String) (step : String) : Prop := step ∈ keys ∨ ∃ i : Nat, step = toString i

theorem IsStep.mono {keys more : List String} {step : String} (h : IsStep keys step) (hmore : keys ⊆ more) :
    IsStep more step := h.imp_left fun hkey => hmore hkey

theorem isStep_under {key step : String} {keys : List String} {f : Finding} (hkey : IsStep keys key)
    (h : ∀ step ∈ f.errorPath, IsStep keys step) (hstep : step ∈ (f.under key).errorPath) : IsStep keys step := by
  rw [errorPath_under] at hstep
  rcases List.mem_cons.mp hstep with rfl | hstep
  · exact hkey
  · exact h step hstep

theorem isStep_of_whole {check : Check} {v : Json} {f : Finding} (hwhole : check.IsWhole) (hf : f ∈ run check v) :
    ∀ step ∈ f.errorPath, IsStep (namedKeys check) step := by
  obtain ⟨hpath, hrequired⟩ := whole_of_mem_run hwhole hf
  intro step hstep
  by_cases hkey : ∃ key, f.complaint = .required key
  · obtain ⟨key, hkey⟩ := hkey
    rw [errorPath_of_required hkey, hpath, List.nil_append, List.mem_singleton] at hstep
    rw [hrequired key hkey, hstep]
    exact .inl (List.mem_singleton_self key)
  · rw [not_exists] at hkey
    rw [errorPath_of_not_required hkey, hpath] at hstep
    cases hstep

mutual

theorem isStep_of_mem_run (check : Check) (v : Json) :
    ∀ f ∈ run check v, ∀ step ∈ f.errorPath, IsStep (namedKeys check) step := by
  intro f hf step hstep
  cases check with
  | items checks =>
    cases v with
    | array items =>
      obtain ⟨l, hl, hf⟩ := List.mem_flatten.mp hf
      obtain ⟨i, hi, rfl⟩ := List.mem_mapIdx.mp hl
      obtain ⟨g, hg, rfl⟩ := List.mem_map.mp hf
      exact isStep_under (.inr ⟨i, rfl⟩) (isStep_of_mem_runAll checks _ g hg) hstep
    | _ => cases hf
  | itemAt index checks =>
    cases v with
    | array items =>
      rw [run, inItem] at hf
      cases hitem : items[index]? with
      | none =>
        rw [hitem] at hf
        cases hf
      | some item =>
        rw [hitem] at hf
        obtain ⟨g, hg, rfl⟩ := List.mem_map.mp hf
        exact isStep_under (.inr ⟨index, rfl⟩) (isStep_of_mem_runAll checks item g hg) hstep
    | _ => cases hf
  | property key checks =>
    cases v with
    | object fields =>
      rw [run, inField] at hf
      cases hfield : Json.get? key (.object fields) with
      | none =>
        rw [hfield] at hf
        cases hf
      | some field =>
        rw [hfield] at hf
        obtain ⟨g, hg, rfl⟩ := List.mem_map.mp hf
        refine isStep_under (.inl List.mem_cons_self) (fun other hother => ?_) hstep
        exact (isStep_of_mem_runAll checks field g hg other hother).mono (List.subset_cons_self _ _)
    | _ => cases hf
  | _ => exact isStep_of_whole (by trivial) hf step hstep

theorem isStep_of_mem_runAll (checks : List Check) (v : Json) :
    ∀ f ∈ runAll checks v, ∀ step ∈ f.errorPath, IsStep (namedKeysAll checks) step := by
  intro f hf step hstep
  cases checks with
  | nil => cases hf
  | cons check rest =>
    rcases List.mem_append.mp hf with hf | hf
    · exact (isStep_of_mem_run check v f hf step hstep).mono (List.subset_append_left _ _)
    · exact (isStep_of_mem_runAll rest v f hf step hstep).mono (List.subset_append_right _ _)

end

end Check

namespace Schema
open ValidationError Json.Pointer

/-- The checks of a schema name no key with a slash or an escape. -/
def NamesPlainKeys (schema : Schema) : Prop := ∀ key ∈ Check.namedKeysAll schema.checks, IsPlain key

theorem isPlain_of_mem_validate {schema : Schema} (h : schema.NamesPlainKeys) {d : Descriptor} {e : ValidationError}
    (he : e ∈ schema.validate d) : ∀ key ∈ e.path, IsPlain key := by
  rw [validate_eq] at he
  obtain ⟨f, hf, rfl⟩ := List.mem_map.mp he
  intro key hkey
  rcases Check.isStep_of_mem_runAll schema.checks d.document f hf key hkey with hnamed | ⟨i, rfl⟩
  · exact h key hnamed
  · exact isPlain_toString i

theorem namesPlainKeys_bundled : bundled.NamesPlainKeys := by
  have hall : ∀ key ∈ Check.namedKeysAll descriptorChecks, '/' ∉ key.toList ∧ '~' ∉ key.toList := by decide +kernel
  intro key hkey
  rw [checks_bundled] at hkey
  exact isPlain_of_not_mem (hall key hkey).1 (hall key hkey).2

/-- What the errors of a schema about a descriptor tell of their paths. -/
structure PrintsPaths (schema : Schema) (d : Descriptor) : Prop where
  /-- The pointer of an error is read as its path just where each key is shown as it is. -/
  faithful : ∀ e ∈ schema.validate d, pathOf e.pointer.toList = e.path ↔ ∀ key ∈ e.path, IsPlain key
  /-- Two errors have one pointer just where their keys have the same parts between slashes. -/
  shared : ∀ e ∈ schema.validate d, ∀ e' ∈ schema.validate d,
    e.pointer = e'.pointer ↔ e.path.flatMap cut = e'.path.flatMap cut
  /-- An error inside the descriptor looks like one of all of it just where its path is one empty key, or its first key
      starts with a colon and a blank. -/
  root : ∀ e ∈ schema.validate d, (∃ message, e.display = display ⟨[], message⟩) ↔
    e.path = [] ∨ e.path = [""] ∨ ∃ key rest, e.path = key :: rest ∧ [':', ' '] <+: key.toList

theorem printsPaths (schema : Schema) (d : Descriptor) : schema.PrintsPaths d where
  faithful := fun _ _ => pathOf_pointer_eq_iff
  shared := fun _ _ _ _ => pointer_eq_pointer_iff
  root := fun _ _ => display_eq_root_iff

/-- The pointers of all errors of the bundled schema are read as their paths. -/
theorem pathOf_pointer_of_bundled {d : Descriptor} {e : ValidationError} (he : e ∈ bundled.validate d) :
    pathOf e.pointer.toList = e.path := pathOf_pointer_eq_iff.mpr (isPlain_of_mem_validate namesPlainKeys_bundled he)

/-! ### A schema for keys that cannot be told apart -/

def textRules : Json := .object [("type", .string "string")]

/-- Texts under an empty key, under a key with a slash, and under the two keys that this falls into. -/
def crossedRules : Json.Fields :=
  [("properties", .object [("", textRules), ("a", .object [("properties", .object [("b", textRules)])]), ("a/b", textRules)])]

def crossed : Schema := ⟨crossedRules, checksOf (.ofDocument .draft2020) (.object crossedRules)⟩

/-- Two errors have one pointer, which is the path of one of them only; and a third error looks like one of the whole
    descriptor. -/
theorem confused_pointers : ofJson? crossed.document = .ok crossed ∧
    crossed.validate ⟨[("", .int 1), ("a", .object [("b", .int 1)]), ("a/b", .int 1)]⟩ =
      [⟨[""], "1 is not of type \"string\""⟩, ⟨["a", "b"], "1 is not of type \"string\""⟩,
        ⟨["a/b"], "1 is not of type \"string\""⟩] ∧
    pointer ⟨["a/b"], "1 is not of type \"string\""⟩ = pointer ⟨["a", "b"], "1 is not of type \"string\""⟩ ∧
    pathOf (pointer ⟨["a/b"], "1 is not of type \"string\""⟩).toList ≠ ["a/b"] ∧
    display ⟨[""], "1 is not of type \"string\""⟩ = display ⟨[], "1 is not of type \"string\""⟩ := by
  refine ⟨ofJson?_eq_ok_of_isOk rfl rfl (by decide +kernel), ?_⟩
  decide +kernel

end Schema

end ToolPlugins
