import Mathlib
import ToolPlugins.FileTree.Path
import ToolPlugins.Proofs.Text.Delimiter

/-!
Paths and their segments: a path is its segments with slashes between them, joining puts a name behind the
segments of the base, and the path that a path stands in has fewer of the same segments.
-/

namespace ToolPlugins.Path

/-- A name without a slash that moves: neither idle nor the way up. -/
structure IsName (name : String) : Prop where
  slash : '/' ∉ name.toList
  moves : isIdle name = false
  down : name ≠ ".."

/-- What ends in more than two characters that are known is a name. -/
theorem isName_of_suffix {name : String} {ending : List Char} (h : ending <:+ name.toList) (hlength : 2 < ending.length)
    (hslash : '/' ∉ name.toList) : IsName name := by
  have hne : ∀ short : String, short.toList.length ≤ 2 → name ≠ short := by
    rintro short hshort rfl
    exact absurd (h.length_le.trans hshort) (Nat.not_le.mpr hlength)
  refine ⟨hslash, ?_, hne ".." (by decide)⟩
  rw [isIdle, Bool.or_eq_false_iff, decide_eq_false_iff_not, decide_eq_false_iff_not]
  exact ⟨hne "" (by decide), hne "." (by decide)⟩

/-! ### Segments -/

theorem slash_not_mem_segments {p : Path} : ∀ segment ∈ segments p, '/' ∉ segment.toList := by
  intro segment h
  obtain ⟨part, hpart, rfl⟩ := List.mem_map.mp h
  rw [String.toList_ofList]
  exact Text.not_mem_of_mem_splitOn hpart

theorem segments_ne_nil (p : Path) : segments p ≠ [] := by
  rw [segments, ne_eq, List.map_eq_nil_iff]
  exact List.splitOnP_ne_nil _ _

theorem toList_eq_intercalate (p : Path) : ['/'].intercalate ((segments p).map String.toList) = p.toList := by
  rw [segments, List.map_map, show String.toList ∘ String.ofList = id from funext fun _ => String.toList_ofList,
    List.map_id, List.intercalate_splitOn]

theorem segments_intercalate {l : List String} (h : ∀ s ∈ l, '/' ∉ s.toList) (hne : l ≠ []) :
    segments ("/".intercalate l) = l := by
  have hslash : ∀ part ∈ l.map String.toList, '/' ∉ part := by
    intro part hpart
    obtain ⟨s, hs, rfl⟩ := List.mem_map.mp hpart
    exact h s hs
  rw [segments, String.toList_intercalate, show "/".toList = ['/'] from rfl,
    List.splitOn_intercalate '/' hslash (by simpa using hne), List.map_map,
    show String.ofList ∘ String.toList = id from funext fun _ => String.ofList_toList, List.map_id]

theorem intercalate_append {a b : List (List Char)} (ha : a ≠ []) (hb : b ≠ []) :
    ['/'].intercalate (a ++ b) = ['/'].intercalate a ++ '/' :: ['/'].intercalate b := by
  induction a with
  | nil => exact absurd rfl ha
  | cons part rest ih =>
    cases rest with
    | nil =>
      rw [List.singleton_append, List.intercalate_cons_of_ne_nil hb, List.intercalate_singleton]
      simp
    | cons other more =>
      rw [List.cons_append, List.intercalate_cons_of_ne_nil (by simp), ih (List.cons_ne_nil _ _),
        List.intercalate_cons_of_ne_nil (List.cons_ne_nil _ _)]
      simp

/-- The segments of a base that a joined name comes behind. -/
def baseSegments (base : Path) : List String :=
  if base = "" then [] else if endsInSlash base then (segments base).dropLast else segments base

theorem isAbsolute_eq_false {name : String} (h : '/' ∉ name.toList) : isAbsolute name = false := by
  rw [isAbsolute]
  cases hname : name.toList with
  | nil => rfl
  | cons c rest =>
    rw [List.head?_cons]
    refine beq_eq_false_iff_ne.mpr fun hc => h ?_
    cases hc
    rw [hname]
    exact List.mem_cons_self

theorem segments_of_endsInSlash {base : Path} (h : endsInSlash base = true) :
    ∃ l, base.toList = l ++ ['/'] ∧ segments base = (l.splitOn '/').map String.ofList ++ [""] := by
  rw [endsInSlash, beq_iff_eq, List.getLast?_eq_some_iff] at h
  obtain ⟨l, hl⟩ := h
  refine ⟨l, hl, ?_⟩
  rw [segments, hl, List.splitOn_append_cons_self, List.splitOn_nil, List.map_append]
  rfl

/-- A relative part comes with its segments behind those of the base. -/
theorem segments_join_of_relative {base part : Path} (h : isAbsolute part = false) :
    segments (join base part) = baseSegments base ++ segments part := by
  rw [join, h, if_neg Bool.false_ne_true, baseSegments]
  by_cases hempty : base = ""
  · subst hempty
    rw [if_pos (by simp), if_pos rfl, List.nil_append, String.empty_append]
  · by_cases hslash : endsInSlash base = true
    · obtain ⟨l, hl, hsegments⟩ := segments_of_endsInSlash hslash
      rw [if_pos (by simp [hslash]), if_neg hempty, if_pos hslash, hsegments, List.dropLast_concat, segments,
        String.toList_append, hl, List.append_assoc, List.singleton_append, List.splitOn_append_cons_self, List.map_append]
      rfl
    · rw [if_neg (by simp [hempty, hslash]), if_neg hempty, if_neg hslash, segments, String.toList_append,
        String.toList_append, List.append_assoc, show "/".toList = ['/'] from rfl, List.singleton_append,
        List.splitOn_append_cons_self, List.map_append]
      rfl

theorem segments_join {base : Path} {name : String} (h : '/' ∉ name.toList) :
    segments (join base name) = baseSegments base ++ [name] := by
  rw [segments_join_of_relative (isAbsolute_eq_false h), segments, List.splitOn_eq_singleton h, List.map_singleton,
    String.ofList_toList]

/-- A path starts at the root if what it begins with does. -/
theorem isAbsolute_of_begins {p q : Path} (h : q.toList <+: p.toList) (hq : q ≠ "") : isAbsolute q = isAbsolute p := by
  obtain ⟨tail, htail⟩ := h
  rw [isAbsolute, isAbsolute, ← htail]
  cases hchars : q.toList with
  | nil => exact absurd (String.toList_eq_nil_iff.mp hchars) hq
  | cons first others => rfl

theorem utf8ByteSize_le_of_begins {p q : Path} (h : q.toList <+: p.toList) : q.utf8ByteSize ≤ p.utf8ByteSize := by
  obtain ⟨tail, htail⟩ := h
  have hbytes : p.utf8ByteSize = q.utf8ByteSize + (String.ofList tail).utf8ByteSize := by
    rw [← String.utf8ByteSize_append]
    congr 1
    rw [← String.toList_inj, String.toList_append, String.toList_ofList, htail]
  omega

theorem join_begins {part : Path} (h : isAbsolute part = false) (base : Path) :
    base.toList <+: (join base part).toList := by
  rw [join, h, if_neg Bool.false_ne_true]
  split_ifs
  · rw [String.toList_append]
    exact List.prefix_append _ _
  · rw [String.toList_append, String.toList_append, List.append_assoc]
    exact List.prefix_append _ _

/-- With a relative part behind it a path starts where it does on its own. -/
theorem isAbsolute_join {part : Path} (h : isAbsolute part = false) (base : Path) :
    isAbsolute (join base part) = isAbsolute base := by
  by_cases hempty : base = ""
  · subst hempty
    rw [join, h, if_neg Bool.false_ne_true, if_pos (by simp), String.empty_append, h]
    rfl
  · exact (isAbsolute_of_begins (join_begins h base) hempty).symm

theorem toList_suffix_join (base : Path) (part : String) : part.toList <:+ (join base part).toList := by
  rw [join]
  split_ifs
  · exact List.suffix_refl _
  · rw [String.toList_append]
    exact List.suffix_append _ _
  · rw [String.toList_append]
    exact List.suffix_append _ _

/-- What a path ends in without a slash, its last segment ends in. -/
theorem exists_last_segment {p : Path} {ending : List Char} (h : ending <:+ p.toList) (hslash : '/' ∉ ending) :
    ∃ front last, segments p = front ++ [last] ∧ ending <:+ last.toList := by
  refine ⟨_, _, (List.dropLast_append_getLast (segments_ne_nil p)).symm, ?_⟩
  rw [← toList_eq_intercalate, ← List.dropLast_append_getLast (segments_ne_nil p), List.map_append,
    List.map_singleton] at h
  generalize (segments p).getLast (segments_ne_nil p) = last at h ⊢
  generalize (segments p).dropLast = front at h
  cases front with
  | nil => simpa using h
  | cons first rest =>
    have hsplit : ['/'].intercalate ((first :: rest).map String.toList ++ [last.toList]) =
        ['/'].intercalate ((first :: rest).map String.toList) ++ '/' :: last.toList := by
      rw [intercalate_append (by simp) (List.cons_ne_nil _ _), List.intercalate_singleton]
    rw [hsplit] at h
    have hlast : '/' :: last.toList <:+ ['/'].intercalate ((first :: rest).map String.toList) ++ '/' :: last.toList :=
      List.suffix_append _ _
    rcases List.suffix_or_suffix_of_suffix h hlast with h | h
    · rcases List.suffix_cons_iff.mp h with rfl | h
      · exact absurd List.mem_cons_self hslash
      · exact h
    · exact absurd (h.subset List.mem_cons_self) hslash

/-! ### The path that a path stands in -/

theorem exists_trimIdle (l : List String) :
    ∃ idle, l = trimIdle l ++ idle ∧ ∀ s ∈ idle, isIdle s = true := by
  refine ⟨(l.reverse.takeWhile isIdle).reverse, ?_, fun s hs => ?_⟩
  · rw [trimIdle, ← List.reverse_append, List.takeWhile_append_dropWhile, List.reverse_reverse]
  · exact List.mem_takeWhile_imp (List.mem_reverse.mp hs)

theorem not_isIdle_of_trimIdle {l before : List String} {name : String} (h : (trimIdle l).reverse = name :: before) :
    isIdle name = false := by
  rw [trimIdle, List.reverse_reverse] at h
  have hhead := List.head?_dropWhile_not isIdle l.reverse
  rw [h] at hhead
  simpa using hhead

/-- What a path starts with, and the segments after that. -/
def leadAndBody : List String → List String × List String
  | "" :: rest => ([""], rest)
  | "." :: rest => (["."], rest)
  | rest => ([], rest)

theorem parent?_eq (p : Path) :
    parent? p = match (trimIdle (leadAndBody (segments p)).2).reverse with
      | _ :: before => some
        (if (trimIdle before.reverse).isEmpty && (leadAndBody (segments p)).1 == [""] then "/"
          else "/".intercalate ((leadAndBody (segments p)).1 ++ trimIdle before.reverse))
      | [] => if (leadAndBody (segments p)).1 == ["."] then some "" else none := rfl

theorem append_leadAndBody (l : List String) : (leadAndBody l).1 ++ (leadAndBody l).2 = l := by
  rw [leadAndBody.eq_def]
  split
  · rfl
  · rfl
  · rfl

/-- A name behind some segments does not change what they start with. -/
theorem leadAndBody_append (l : List String) :
    ∃ lead body, ∀ name, isIdle name = false → leadAndBody (l ++ [name]) = (lead, body ++ [name]) := by
  cases l with
  | nil =>
    refine ⟨[], [], fun name hname => ?_⟩
    rw [leadAndBody.eq_def]
    split
    · next heq =>
      cases heq
      exact absurd hname (by decide)
    · next heq =>
      cases heq
      exact absurd hname (by decide)
    · rfl
  | cons first more =>
    by_cases hempty : first = ""
    · subst hempty
      exact ⟨[""], more, fun _ _ => rfl⟩
    by_cases hdot : first = "."
    · subst hdot
      exact ⟨["."], more, fun _ _ => rfl⟩
    refine ⟨[], first :: more, fun name _ => ?_⟩
    rw [leadAndBody.eq_def]
    split
    · next heq => exact absurd (List.cons.inj heq).1 hempty
    · next heq => exact absurd (List.cons.inj heq).1 hdot
    · rfl

/-- A path that stands in another one has its segments, then idle ones, a name and idle ones again. -/
theorem segments_of_parent? {p q : Path} (h : parent? p = some q) (hq : q ≠ "") :
    ∃ front idle name rest, segments p = front ++ idle ++ name :: rest ∧ (∀ s ∈ idle, isIdle s = true) ∧
      isIdle name = false ∧ front ≠ [] ∧ (q = "/".intercalate front ∨ front = [""] ∧ q = "/") := by
  have hlead := append_leadAndBody (segments p)
  rw [parent?_eq] at h
  generalize leadAndBody (segments p) = parts at h hlead
  obtain ⟨lead, body⟩ := parts
  dsimp only at h hlead
  split at h
  · next name before hname =>
    obtain ⟨idle, hidle, hall⟩ := exists_trimIdle before.reverse
    obtain ⟨rest, hrest, -⟩ := exists_trimIdle body
    have htrim : trimIdle body = before.reverse ++ [name] := by
      rw [← List.reverse_reverse (trimIdle body), hname, List.reverse_cons]
    have hsegments : segments p = (lead ++ trimIdle before.reverse) ++ idle ++ name :: rest := by
      conv_lhs => rw [← hlead, hrest, htrim, hidle]
      simp
    refine ⟨_, idle, name, rest, hsegments, hall, not_isIdle_of_trimIdle hname, ?_, ?_⟩
    · rintro hnil
      split_ifs at h with hroot
      · rw [(List.append_eq_nil_iff.mp hnil).1] at hroot
        simp at hroot
      · rw [hnil] at h
        exact hq (Option.some.inj h).symm
    · split_ifs at h with hroot
      · obtain ⟨hfront, hlead'⟩ := Bool.and_eq_true_iff.mp hroot
        refine .inr ⟨?_, (Option.some.inj h).symm⟩
        rw [List.isEmpty_iff.mp hfront, beq_iff_eq.mp hlead', List.append_nil]
      · exact .inl (Option.some.inj h).symm
  · split_ifs at h
    exact absurd (Option.some.inj h).symm hq

/-- A path that stands in another one is written at its start. -/
theorem prefix_of_parent? {p q : Path} (h : parent? p = some q) (hq : q ≠ "") : q.toList <+: p.toList := by
  obtain ⟨front, idle, name, rest, hsegments, -, -, hfront, hq'⟩ := segments_of_parent? h hq
  have hsplit : p.toList =
      ['/'].intercalate (front.map String.toList) ++ '/' :: ['/'].intercalate ((idle ++ name :: rest).map String.toList) := by
    rw [← toList_eq_intercalate p, hsegments, List.append_assoc, List.map_append,
      intercalate_append (by simpa using hfront) (by simp)]
  rw [hsplit]
  obtain rfl | ⟨rfl, rfl⟩ := hq'
  · rw [String.toList_intercalate]
    exact List.prefix_append _ _
  · exact ⟨_, rfl⟩

/-- A path with a name at its end stands in what comes before that name. -/
theorem parent?_of_lead {p : Path} {lead body : List String} {name : String}
    (h : leadAndBody (segments p) = (lead, body ++ [name])) (hname : isIdle name = false) :
    parent? p = some (if (trimIdle body).isEmpty && lead == [""] then "/"
      else "/".intercalate (lead ++ trimIdle body)) := by
  have htrim : (trimIdle (body ++ [name])).reverse = name :: body.reverse := by
    rw [trimIdle, List.reverse_reverse, List.reverse_append, List.reverse_singleton, List.singleton_append,
      List.dropWhile_cons_of_neg (by simp [hname])]
  rw [parent?_eq, h]
  dsimp only
  rw [htrim]
  dsimp only
  rw [List.reverse_reverse]

/-- All names right below a base stand in the same path. -/
theorem exists_parent (base : Path) : ∃ q, ∀ name, IsName name → parent? (join base name) = some q := by
  obtain ⟨lead, body, hlead⟩ := leadAndBody_append (baseSegments base)
  refine ⟨_, fun name hname => @parent?_of_lead _ lead body name ?_ hname.moves⟩
  rw [segments_join hname.slash, hlead name hname.moves]

end ToolPlugins.Path
