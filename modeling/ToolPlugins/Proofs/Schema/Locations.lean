import Mathlib
import ToolPlugins.Proofs.Schema.Findings
import ToolPlugins.Schema.Basic

/-!
Where validation errors are, told by their paths. The escaped pointer of a finding is read as the path to the value that
the finding is about, and no other pointer is read as this path; and where two findings about one document are reported
under one path, they are about the same place in it, though the path of a missing field has one key more than its pointer.
-/

namespace ToolPlugins
open Json

namespace Finding

section
variable {f g : Finding} {v : Json} {key : String}

/-- A field is not missing where a finding is about it. -/
theorem Truthful.errorPath_ne (hf : f.Truthful v) (hg : g.Truthful v) (hkey : f.complaint = .required key)
    (hother : ∀ key, g.complaint ≠ .required key) : f.errorPath ≠ g.errorPath := by
  rw [errorPath_of_required hkey, errorPath_of_not_required hother]
  intro heq
  obtain ⟨fields, -, hobject, hmissing⟩ := hf.missing key hkey
  obtain ⟨part, hpart⟩ := hg.exists_part
  obtain ⟨next, hnext, hfield⟩ := PartAt.exists_of_append (heq ▸ hpart)
  obtain rfl := hnext.unique hobject
  cases hfield with
  | field hv h => cases hmissing.symm.trans hv

theorem Truthful.path_eq (hf : f.Truthful v) (hg : g.Truthful v) (h : f.errorPath = g.errorPath) : f.path = g.path := by
  by_cases hkey : ∃ key, f.complaint = .required key
  · obtain ⟨key, hkey⟩ := hkey
    by_cases hother : ∃ other, g.complaint = .required other
    · obtain ⟨other, hother⟩ := hother
      rw [errorPath_of_required hkey, errorPath_of_required hother] at h
      exact (List.append_inj' h rfl).1
    · exact absurd h (hf.errorPath_ne hg hkey (not_exists.mp hother))
  · by_cases hother : ∃ other, g.complaint = .required other
    · obtain ⟨other, hother⟩ := hother
      exact absurd h.symm (hg.errorPath_ne hf hother (not_exists.mp hkey))
    · rwa [errorPath_of_not_required (not_exists.mp hkey), errorPath_of_not_required (not_exists.mp hother)] at h

end

end Finding

namespace ValidationError
open Json.Pointer

theorem encode_pathOf {s : List Char} (h : IsPointer s) : encode ((pathOf s).map String.toList) = s := by
  have hback : String.toList ∘ String.ofList = id := funext fun _ => String.toList_ofList
  rw [pathOf, List.map_map, hback, List.map_id, encode_split h]

/-- Escaped pointers tell all paths apart: each path is read from the pointer that is written for it, whatever its
    segments are, and from no other text with the form of a pointer. So two errors of a schema about a descriptor have one
    path only if they were found in one place. -/
theorem bijOn_pathOf :
    (∀ path : List String, pathOf (encode (path.map String.toList)) = path) ∧
      Set.BijOn pathOf {s | IsPointer s} Set.univ ∧
      ∀ (schema : Schema) (d : Descriptor), ∀ f ∈ Check.runAll schema.checks d.document,
        ∀ g ∈ Check.runAll schema.checks d.document, (ofFinding f).path = (ofFinding g).path → f.pointer = g.pointer := by
  have hinv : Set.InvOn (fun path : List String => encode (path.map String.toList)) pathOf {s | IsPointer s} Set.univ :=
    ⟨fun _ h => encode_pathOf h, fun path _ => pathOf_encode path⟩
  refine ⟨pathOf_encode, hinv.bijOn (fun _ _ => Set.mem_univ _) fun path _ => isPointer_encode _, ?_⟩
  intro schema d f hf g hg h
  rw [Finding.ofFinding_eq, Finding.ofFinding_eq] at h
  have hpath := (Check.truthful_of_mem_runAll _ _ f hf).path_eq (Check.truthful_of_mem_runAll _ _ g hg) h
  rw [Finding.pointer, hpath, Finding.pointer]

/-- Rules that a number under a key with a slash breaks twice. -/
def numberRules : Fields :=
  [("properties", .object [("a/b", .object [("type", .string "string"), ("minimum", .int 2)])])]

def twoRules : Schema := ⟨numberRules, Schema.checksOf (.ofDocument .draft2020) (.object numberRules)⟩

/-- Both errors are read from the one pointer in which the slash is escaped. -/
theorem bijOn_pathOf_twoRules : ∃ f g, Check.runAll twoRules.checks (.object [("a/b", .int 1)]) = [f, g] ∧
    (ofFinding f).path = ["a/b"] ∧ (ofFinding g).path = ["a/b"] ∧ f.pointer = g.pointer ∧
    f.pointer = ['/', 'a', '~', '1', 'b'] := by
  refine ⟨_, _, rfl, rfl, rfl, ?_, rfl⟩
  exact bijOn_pathOf.2.2 twoRules ⟨[("a/b", .int 1)]⟩ _ (.head _) _ (.tail _ (.head _)) rfl

end ValidationError

end ToolPlugins
