import Mathlib
import ToolPlugins.Artifact.Digest
import ToolPlugins.Proofs.Artifact.Pages
import ToolPlugins.Proofs.Text.Bytes

/-!
What the digest is taken of shows every artifact. The bodies are set apart by NUL characters only, which the pages may
have themselves. But a definition has no control characters other than its line feeds, and the form and the summary end
where their table ends; so of rendered bodies, it is clear where each one ends.
-/

namespace ToolPlugins

open Text (Clears NoControl append_inj_of_clears clears_of_not_mem)

namespace Artifacts

/-! ### Characters -/

/-- An artifact as the digest takes it. -/
def frame (kind : ArtifactKind) (body : String) : List Char :=
  kind.name.toList ++ '\x00' :: (body.toList ++ ['\x00'])

def framed (a : Artifacts) (kinds : List ArtifactKind) : List Char := kinds.flatMap fun kind => frame kind (a.body kind)

theorem digestInput_eq (a : Artifacts) : a.digestInput = Text.utf8Bytes (String.ofList (a.framed ArtifactKind.all)) := by
  have hbytes : ∀ s : String, Text.utf8Bytes s = s.toList.flatMap String.utf8EncodeChar := fun s => by
    rw [← Text.utf8Bytes_ofList, String.ofList_toList]
  have hnul : String.utf8EncodeChar '\x00' = [0] := Text.utf8EncodeChar_ascii (by decide)
  have hframe : ∀ kind, (frame kind (a.body kind)).flatMap String.utf8EncodeChar =
      Text.utf8Bytes kind.name ++ 0 :: Text.utf8Bytes (a.body kind) ++ [0] := fun kind => by
    simp [frame, hbytes, hnul]
  rw [Text.utf8Bytes_ofList, framed, List.flatMap_assoc, digestInput, list, List.flatMap_map]
  simp only [hframe]

theorem eq_of_body_eq {a a' : Artifacts} (h : ∀ kind, a.body kind = a'.body kind) : a = a' := by
  cases a
  cases a'
  rw [mk.injEq]
  exact ⟨h .clientDefinition, h .workerDefinition, h .paramsTemplate, h .showTemplate, h .helpTemplate⟩

theorem framed_append_inj {a a' : Artifacts} {kinds : List ArtifactKind}
    (h : ∀ kind ∈ kinds, ∀ x y, (a.body kind).toList ++ '\x00' :: x = (a'.body kind).toList ++ '\x00' :: y →
      a.body kind = a'.body kind ∧ x = y) {x y : List Char} (heq : a.framed kinds ++ x = a'.framed kinds ++ y) :
    (∀ kind ∈ kinds, a.body kind = a'.body kind) ∧ x = y := by
  induction kinds with
  | nil => exact ⟨fun _ hkind => absurd hkind List.not_mem_nil, heq⟩
  | cons kind kinds ih =>
    obtain ⟨hkind, hkinds⟩ := List.forall_mem_cons.mp h
    simp only [framed, List.flatMap_cons, frame, List.append_assoc, List.cons_append, List.nil_append] at heq
    -- the name and the NUL after it are the same on both sides
    obtain ⟨-, heq⟩ := List.cons.inj (List.append_cancel_left heq)
    obtain ⟨hbody, heq⟩ := hkind _ _ heq
    obtain ⟨hbodies, hrest⟩ := ih hkinds heq
    exact ⟨List.forall_mem_cons.mpr ⟨hbody, hbodies⟩, hrest⟩

end Artifacts

/-! ### Where bodies end -/

theorem Template.not_mem_unlines {lines : List (List Char)} (h : ∀ line ∈ lines, NoControl line) {c : Char}
    (hc : c.toNat < 0x20) (hne : c ≠ '\n') : c ∉ unlines lines := by
  intro hmem
  obtain ⟨line, hline, hmem⟩ := List.mem_flatMap.mp hmem
  rcases List.mem_append.mp hmem with hmem | hmem
  · exact (h line hline).not_mem hc hmem
  · exact hne (List.mem_singleton.mp hmem)

theorem Template.exists_tableEnd {view : ViewKind} (hview : view ≠ .help) :
    ∃ lead trail, (viewEnd view).toList = lead ++ (tableEnd ++ trail) ∧ Clears tableEnd lead := by
  cases view with
  | taskParams => exact ⟨['\n', ' ', ' '], ['\n', '<', '/', 'd', 'i', 'v', '>', '\n'], String.toList_ofList, by decide⟩
  | showParams => exact ⟨['\n'], ['\n'], String.toList_ofList, by decide⟩
  | help => exact absurd rfl hview

section
variable {schema schema' : Schema} {d d' : Descriptor} {a a' : Artifacts}

theorem nul_not_mem_definition (h : render schema d = .ok a) (side : DefinitionContext) :
    '\x00' ∉ (a.body side.artifact).toList := by
  obtain ⟨text, hfill, hbody⟩ := Definition.fill_of_render h side.artifact
  obtain ⟨schemaId, name, version, inputRows, outputRows, -, -, -, hinputs, houtputs, rfl⟩ :=
    Template.lines_of_fill hfill
  rw [hbody, String.toList_ofList]
  refine Template.not_mem_unlines ?_ (by decide) (by decide)
  exact Template.noControl_definitionLines (Identifier.isCanonicalChars_classifyChars _) side schemaId name version _ _ _
    hinputs houtputs

theorem definition_append_inj (h : render schema d = .ok a) (h' : render schema' d' = .ok a') (side : DefinitionContext)
    {x y : List Char}
    (heq : (a.body side.artifact).toList ++ '\x00' :: x = (a'.body side.artifact).toList ++ '\x00' :: y) :
    a.body side.artifact = a'.body side.artifact ∧ x = y := by
  have hclears : Clears ['\x00'] (a.body side.artifact).toList := clears_of_not_mem (nul_not_mem_definition h side)
  have hclears' : Clears ['\x00'] (a'.body side.artifact).toList := clears_of_not_mem (nul_not_mem_definition h' side)
  obtain ⟨hbody, hrest⟩ := append_inj_of_clears hclears hclears' heq
  exact ⟨String.toList_inj.mp hbody, hrest⟩

theorem page_append_inj (h : render schema d = .ok a) (h' : render schema' d' = .ok a') (view : ViewKind)
    (hview : view ≠ .help) {x y : List Char}
    (heq : (a.body view.artifact).toList ++ '\x00' :: x = (a'.body view.artifact).toList ++ '\x00' :: y) :
    a.body view.artifact = a'.body view.artifact ∧ x = y := by
  obtain ⟨front, hdraws, hbody⟩ := Template.exists_front_of_render h view
  obtain ⟨front', hdraws', hbody'⟩ := Template.exists_front_of_render h' view
  obtain ⟨lead, trail, hend, hlead⟩ := Template.exists_tableEnd hview
  rw [hend, ← List.append_assoc] at hbody hbody'
  have hassoc : ∀ s rest : List Char,
      s ++ lead ++ (tableEnd ++ trail) ++ rest = s ++ lead ++ (tableEnd ++ (trail ++ rest)) := by
    simp
  rw [hbody, hbody', hassoc, hassoc] at heq
  -- the texts before may have a NUL, but no end of a table
  obtain ⟨hfront, hrest⟩ := append_inj_of_clears (hdraws.clears.append hlead) (hdraws'.clears.append hlead) heq
  refine ⟨?_, (List.cons.inj (List.append_cancel_left hrest)).2⟩
  rw [← String.toList_inj, hbody, hbody', hfront]

/-- The digest is taken of something else whenever the artifacts are not the same: whatever the descriptors and the
    schemas are, rendered artifacts of which the same bytes are hashed are the same, body by body. -/
theorem Artifacts.eq_of_digestInput_eq (h : render schema d = .ok a) (h' : render schema' d' = .ok a')
    (hinput : a.digestInput = a'.digestInput) : a = a' := by
  rw [digestInput_eq, digestInput_eq, Text.utf8Bytes_inj] at hinput
  have hframed : a.framed ArtifactKind.all = a'.framed ArtifactKind.all := by
    rw [← String.toList_ofList (l := a.framed ArtifactKind.all), hinput, String.toList_ofList]
  have hsplit : ∀ a : Artifacts, a.framed ArtifactKind.all =
      a.framed [.clientDefinition, .workerDefinition, .paramsTemplate, .showTemplate] ++
        frame .helpTemplate (a.body .helpTemplate) := fun a => by
    simp [framed, ArtifactKind.all]
  rw [hsplit, hsplit] at hframed
  obtain ⟨hbodies, hhelp⟩ := framed_append_inj (fun kind hkind x y heq => by
    fin_cases hkind
    · exact definition_append_inj h h' .client heq
    · exact definition_append_inj h h' .worker heq
    · exact page_append_inj h h' .taskParams (by decide) heq
    · exact page_append_inj h h' .showParams (by decide) heq) hframed
  have hhelp := List.append_cancel_right (List.cons.inj (List.append_cancel_left hhelp)).2
  refine eq_of_body_eq fun kind => ?_
  cases kind with
  | helpTemplate => exact String.toList_inj.mp hhelp
  | _ => exact hbodies _ (by decide)

end

/-- A descriptor with texts that look like the end of a page and the beginning of the next one. -/
def Descriptor.misleading : Descriptor :=
  .ofTexts "\x00help-template\x00" "</table>" "\x00" "\n</table>\n\x00show-template\x00"

/-- A field that no artifact shows makes another descriptor, but not other artifacts. -/
theorem Artifacts.eq_of_digestInput_eq_misleading :
    ∃ a a', render ⟨[], []⟩ .misleading = .ok a ∧
      render ⟨[("title", .string "s")], []⟩ ⟨Descriptor.misleading.fields ++ [("url", .string "u")]⟩ = .ok a' ∧
      a.digestInput = a'.digestInput ∧ a = a' := by
  obtain ⟨a, ha⟩ : ∃ a, render ⟨[], []⟩ .misleading = .ok a :=
    exists_render_of_fill fun kind => by cases kind <;> exact ⟨_, rfl⟩
  have ha' : render ⟨[("title", .string "s")], []⟩ ⟨Descriptor.misleading.fields ++ [("url", .string "u")]⟩ = .ok a :=
    (render_congr fun kind => by cases kind <;> rfl).trans ha
  exact ⟨a, a, ha, ha', rfl, eq_of_digestInput_eq ha ha' rfl⟩

/-- Of bodies that are not rendered, the digest does not tell where they end. -/
example : ∃ a a' : Artifacts, a ≠ a' ∧ a.digestInput = a'.digestInput :=
  ⟨⟨"", "", "", "", "\x00help-template\x00"⟩, ⟨"", "", "", "\x00help-template\x00", ""⟩, by decide +kernel⟩

end ToolPlugins
