import Mathlib
import ToolPlugins.Proofs.Bootstrap.Verdict
import ToolPlugins.Proofs.FileTree.Places
import ToolPlugins.Proofs.Identifier.Snake

/-!
Exported artifacts. Each is in a place of its own below a directory that is named for the plugin, and nothing else
changes but that directories are added. Plugins with other identifiers have other directories, so it does not matter in
which order they are exported.
-/

namespace ToolPlugins

/-- The names that lead to an artifact from the directory of its plugin, which has the given file name. -/
def ArtifactKind.names (kind : ArtifactKind) (fileName : String) : List String :=
  match kind with
  | clientDefinition => ["client", fileName ++ ".task"]
  | workerDefinition => ["worker", fileName ++ ".task"]
  | paramsTemplate => ["views", "_task_params.html"]
  | showTemplate => ["views", "_show_params.html"]
  | helpTemplate => ["views", "public", "edit_params_help.html"]

theorem ArtifactKind.mem_all (kind : ArtifactKind) : kind ∈ all := by
  cases kind <;> decide

/-- The place of an artifact of an identifier. -/
def Artifacts.exportPlace (identifier : String) (base : Path) (kind : ArtifactKind) : Location :=
  FileTree.placeOf base ++ Identifier.snakeCase identifier :: kind.names (Identifier.snakeCase identifier)

/-- The places of the artifacts, with their contents. -/
def Artifacts.placedFiles (a : Artifacts) (identifier : String) (base : Path) : List (Location × Content) :=
  (a.exportFiles identifier base).map fun file => (FileTree.placeOf file.1, file.2)

/-- The places of the directories that the artifacts need. -/
def Artifacts.placedDirectories (a : Artifacts) (identifier : String) (base : Path) : List Location :=
  (a.exportFiles identifier base).flatMap fun file => FileTree.parentPlaces file.1

/-- A plugin that was made from some descriptor. -/
def GeneratedPlugin.IsGenerated (p : GeneratedPlugin) : Prop :=
  ∃ schema d mode, (generate schema d mode).1 = .ok p

/-- What a plugin leaves that was exported below a base: `root` is the directory it is in, and the export turned the first
    tree into the second. -/
structure GeneratedPlugin.Exports (p : GeneratedPlugin) (base : Path) (t : FileTree) (root : Path) (t' : FileTree) :
    Prop where
  directory : root = Path.join base (Identifier.snakeCase p.identifier)
  snake : IsSnake (Identifier.snakeCase p.identifier)
  /-- Every artifact is below the directory of the plugin, in a place of its own. -/
  place : ∀ kind,
    Artifacts.exportFile p.identifier base kind = Path.join root (kind.exportPath (Identifier.snakeCase p.identifier)) ∧
      FileTree.placeOf (Artifacts.exportFile p.identifier base kind) = Artifacts.exportPlace p.identifier base kind
  distinct : ∀ kind kind', Artifacts.exportPlace p.identifier base kind = Artifacts.exportPlace p.identifier base kind' →
    kind = kind'
  faithful : ∀ kind, t'.readText (Artifacts.exportFile p.identifier base kind) = .ok (p.artifacts.body kind)
  kept : ∀ q entry, t.get? q = some entry → (∀ kind, q ≠ Artifacts.exportPlace p.identifier base kind) →
    t'.get? q = some entry
  added : ∀ q, t.get? q = none → (∀ kind, q ≠ Artifacts.exportPlace p.identifier base kind) →
    t'.get? q = none ∨ t'.get? q = some .directory
  again : p.exportTo base t' = (.ok root, t')
  apart : ∀ other : GeneratedPlugin, other.IsGenerated → other.identifier ≠ p.identifier → ∀ kind kind',
    Artifacts.exportPlace other.identifier base kind ≠ Artifacts.exportPlace p.identifier base kind'
  /-- Another plugin can be exported before or after. -/
  commutes : ∀ other : GeneratedPlugin, other.IsGenerated → other.identifier ≠ p.identifier →
    ∀ {r r₁ r₂ u v v'}, other.exportTo base t' = (.ok r, u) → other.exportTo base t = (.ok r₁, v) →
      p.exportTo base v = (.ok r₂, v') → ∀ q, v'.get? q = u.get? q

/-! ### Places -/

namespace Path

theorem endsInSlash_append {p q : Path} (hq : q ≠ "") : endsInSlash (p ++ q) = endsInSlash q := by
  rw [endsInSlash, endsInSlash, String.toList_append, List.getLast?_append_of_ne_nil]
  rwa [ne_eq, String.toList_eq_nil_iff]

theorem isAbsolute_append {p q : Path} (hp : p ≠ "") : isAbsolute (p ++ q) = isAbsolute p := by
  refine (isAbsolute_of_begins ?_ hp).symm
  rw [String.toList_append]
  exact List.prefix_append _ _

theorem join_join (base : Path) {b c : Path} (hb : isAbsolute b = false) (hne : b ≠ "") (hslash : endsInSlash b = false)
    (hc : isAbsolute c = false) : join base (join b c) = join (join base b) c := by
  have hjoin : ∀ {p}, p ≠ "" → endsInSlash p = false → join p c = p ++ "/" ++ c := by
    intro p hp hs
    rw [join, hc, if_neg Bool.false_ne_true, if_neg (by simp [hp, hs])]
  have hrelative : isAbsolute (b ++ "/" ++ c) = false := by
    rw [String.append_assoc, isAbsolute_append hne, hb]
  obtain ⟨front, hfront⟩ : ∃ front : String, ∀ q, isAbsolute q = false → join base q = front ++ q := by
    by_cases hbase : (base = "" || endsInSlash base) = true
    · exact ⟨base, fun q hq => by rw [join, hq, if_neg Bool.false_ne_true, if_pos hbase]⟩
    · exact ⟨base ++ "/", fun q hq => by rw [join, hq, if_neg Bool.false_ne_true, if_neg hbase]⟩
  have hwhole : front ++ b ≠ "" := by
    intro h
    rw [← String.toList_eq_nil_iff, String.toList_append, List.append_eq_nil_iff, String.toList_eq_nil_iff,
      String.toList_eq_nil_iff] at h
    exact hne h.2
  rw [hjoin hne hslash, hfront _ hrelative, hfront b hb, hjoin hwhole ((endsInSlash_append hne).trans hslash)]
  simp only [String.append_assoc]

end Path

namespace Artifacts
open FileTree

section
variable {identifier : String} {base : Path} {kind : ArtifactKind}

theorem isName_names (h : Identifier.isCanonical identifier = true) (kind : ArtifactKind) :
    ∀ name ∈ Identifier.snakeCase identifier :: kind.names (Identifier.snakeCase identifier), Path.IsName name := by
  have hsnake := Identifier.isSnake_snakeCase h
  have hname := Path.isName_of_isSnake hsnake "" (by decide)
  have htask := Path.isName_of_isSnake hsnake ".task" (by decide)
  rw [String.append_empty] at hname
  have hviews : Path.IsName "views" := ⟨by decide, by decide, by decide⟩
  simp only [List.forall_mem_cons]
  refine ⟨hname, ?_⟩
  cases kind with
  | clientDefinition => simpa [ArtifactKind.names, htask] using ⟨by decide, by decide, by decide⟩
  | workerDefinition => simpa [ArtifactKind.names, htask] using ⟨by decide, by decide, by decide⟩
  | paramsTemplate => simpa [ArtifactKind.names, hviews] using ⟨by decide, by decide, by decide⟩
  | showTemplate => simpa [ArtifactKind.names, hviews] using ⟨by decide, by decide, by decide⟩
  | helpTemplate =>
    simpa [ArtifactKind.names, hviews] using ⟨⟨by decide, by decide, by decide⟩, ⟨by decide, by decide, by decide⟩⟩

/-- Every artifact is joined to the base name by name. -/
theorem exportFile_eq_foldl (h : Identifier.isCanonical identifier = true) :
    exportFile identifier base kind =
      (Identifier.snakeCase identifier :: kind.names (Identifier.snakeCase identifier)).foldl Path.join base := by
  have htask := isName_names h .clientDefinition (Identifier.snakeCase identifier ++ ".task") (by simp [ArtifactKind.names])
  have hjoin : ∀ (root : Path) (dir file : String), dir ∈ ["client", "worker", "views"] → '/' ∉ file.toList →
      Path.join root (Path.join dir file) = Path.join (Path.join root dir) file := by
    intro root dir file hdir hfile
    obtain ⟨hslash, hne, hends⟩ : '/' ∉ dir.toList ∧ dir ≠ "" ∧ Path.endsInSlash dir = false := by
      revert dir
      decide
    exact Path.join_join root (Path.isAbsolute_eq_false hslash) hne hends (Path.isAbsolute_eq_false hfile)
  rw [exportFile, List.foldl_cons, ← exportRoot]
  cases kind <;> simp only [ArtifactKind.exportPath, ArtifactKind.names, List.foldl_cons, List.foldl_nil]
  case clientDefinition => exact hjoin _ _ _ (by decide) htask.slash
  case workerDefinition => exact hjoin _ _ _ (by decide) htask.slash
  case paramsTemplate => exact hjoin _ _ _ (by decide) (by decide)
  case showTemplate => exact hjoin _ _ _ (by decide) (by decide)
  case helpTemplate =>
    rw [Path.join_join _ (by decide) (by decide) (by decide) (by decide), hjoin _ "views" "public" (by decide) (by decide)]

theorem placeOf_exportFile (h : Identifier.isCanonical identifier = true) :
    placeOf (exportFile identifier base kind) = exportPlace identifier base kind := by
  rw [exportFile_eq_foldl h, placeOf_foldl_join (isName_names h kind)]
  rfl

theorem exportPlace_inj {kind' : ArtifactKind}
    (h : exportPlace identifier base kind = exportPlace identifier base kind') : kind = kind' := by
  have hnames := (List.cons.inj (List.append_cancel_left h)).2
  cases kind <;> cases kind' <;> simp [ArtifactKind.names] at hnames ⊢

theorem exportPlace_ne {other : String} (h : Identifier.isCanonical identifier = true)
    (h' : Identifier.isCanonical other = true) (hne : other ≠ identifier) (kind kind' : ArtifactKind) :
    exportPlace other base kind ≠ exportPlace identifier base kind' := by
  intro heq
  exact hne (Identifier.snakeCase_inj h' h (List.cons.inj (List.append_cancel_left heq)).1)

/-! ### The files of an export -/

variable {a : Artifacts} {t t' : FileTree}

theorem mem_exportFiles {file : Path × Content} :
    file ∈ a.exportFiles identifier base ↔ ∃ kind, file = (exportFile identifier base kind, .text (a.body kind)) := by
  rw [exportFiles, list, List.map_map, List.mem_map]
  constructor
  · rintro ⟨kind, -, rfl⟩
    exact ⟨kind, rfl⟩
  · rintro ⟨kind, rfl⟩
    exact ⟨kind, kind.mem_all, rfl⟩

theorem map_placeOf_exportFiles (h : Identifier.isCanonical identifier = true) :
    (a.exportFiles identifier base).map (fun file => placeOf file.1) = ArtifactKind.all.map (exportPlace identifier base) := by
  simp only [exportFiles, list, List.map_map]
  exact List.map_congr_left fun kind _ => placeOf_exportFile h

theorem nodup_exportPlaces : (ArtifactKind.all.map (exportPlace identifier base)).Nodup :=
  List.Nodup.map (fun _ _ h => exportPlace_inj h) (by decide)

theorem exportTo_eq_ok_iff {root : Path} : a.exportTo identifier base t = (.ok root, t') ↔
    t.publishAll (a.exportFiles identifier base) = (.ok (), t') ∧ root = exportRoot identifier base := by
  rw [exportTo]
  dsimp only
  generalize t.publishAll (a.exportFiles identifier base) = out
  obtain ⟨result, u⟩ := out
  rw [Prod.mk.injEq, map_eq_ok_iff, Prod.mk.injEq]
  constructor
  · rintro ⟨⟨_, hresult, rfl⟩, rfl⟩
    exact ⟨⟨mapError_eq_ok_iff.mp hresult, rfl⟩, rfl⟩
  · rintro ⟨⟨rfl, rfl⟩, rfl⟩
    exact ⟨⟨(), rfl, rfl⟩, rfl⟩

theorem gains_exportTo (hid : Identifier.isCanonical identifier = true) {root : Path}
    (h : a.exportTo identifier base t = (.ok root, t')) :
    t.Gains t' (a.placedDirectories identifier base) (a.placedFiles identifier base) ∧
      ∀ file ∈ a.exportFiles identifier base, t'.Holds file.1 file.2 := by
  refine gains_publishAll ?_ (exportTo_eq_ok_iff.mp h).1
  rw [map_placeOf_exportFiles hid]
  exact nodup_exportPlaces

theorem mem_placedFiles (hid : Identifier.isCanonical identifier = true) {q : Location} :
    q ∈ (a.placedFiles identifier base).map Prod.fst ↔ ∃ kind, q = exportPlace identifier base kind := by
  have hplaces : (a.placedFiles identifier base).map Prod.fst =
      (a.exportFiles identifier base).map fun file => placeOf file.1 := List.map_map
  rw [hplaces, map_placeOf_exportFiles hid, List.mem_map]
  constructor
  · rintro ⟨kind, -, rfl⟩
    exact ⟨kind, rfl⟩
  · rintro ⟨kind, rfl⟩
    exact ⟨kind, kind.mem_all, rfl⟩

/-- What stands elsewhere is kept, and only directories are added. -/
theorem get?_exportTo (hid : Identifier.isCanonical identifier = true) {root : Path}
    (h : a.exportTo identifier base t = (.ok root, t')) {q : Location}
    (hnew : ∀ kind, q ≠ exportPlace identifier base kind) :
    t'.get? q = t.get? q ∨ t.get? q = none ∧ t'.get? q = some .directory := by
  have hgains := (gains_exportTo hid h).1
  by_cases hdir : q ∈ a.placedDirectories identifier base
  · obtain ⟨hbefore | hbefore, hafter⟩ := hgains.directory q hdir
    · exact .inr ⟨hbefore, hafter⟩
    · exact .inl (hafter.trans hbefore.symm)
  · refine .inl (hgains.other q hdir fun hmem => ?_)
    obtain ⟨kind, rfl⟩ := (mem_placedFiles hid).mp hmem
    exact hnew kind rfl

variable {other : String} {b : Artifacts} {u v v' : FileTree}

theorem placedFiles_apart (hid : Identifier.isCanonical identifier = true) (hid' : Identifier.isCanonical other = true)
    (hne : other ≠ identifier) :
    ∀ q ∈ (a.placedFiles identifier base).map Prod.fst, q ∉ (b.placedFiles other base).map Prod.fst := by
  intro q hq hq'
  obtain ⟨kind, rfl⟩ := (mem_placedFiles hid).mp hq
  obtain ⟨kind', heq⟩ := (mem_placedFiles hid').mp hq'
  exact exportPlace_ne hid hid' hne kind' kind heq.symm

/-- It does not matter which of two exports under different identifiers is first. -/
theorem get?_exportTo_comm (hid : Identifier.isCanonical identifier = true) (hid' : Identifier.isCanonical other = true)
    (hne : other ≠ identifier) {r r₁ r₂ r₃ : Path} (hfirst : a.exportTo identifier base t = (.ok r, t'))
    (hsecond : b.exportTo other base t' = (.ok r₁, u)) (hfirst' : b.exportTo other base t = (.ok r₂, v))
    (hsecond' : a.exportTo identifier base v = (.ok r₃, v')) (q : Location) : v'.get? q = u.get? q := by
  have hthere := (gains_exportTo hid hfirst).1.trans (gains_exportTo hid' hsecond).1 (placedFiles_apart hid hid' hne)
  have hback := (gains_exportTo hid' hfirst').1.trans (gains_exportTo hid hsecond').1
    (placedFiles_apart hid' hid hne.symm)
  refine hback.get?_eq hthere ?_ ?_ q
  · intro place
    rw [List.mem_append, List.mem_append, or_comm]
  · intro file
    rw [List.mem_append, List.mem_append, or_comm]

end

end Artifacts

namespace GeneratedPlugin
open Artifacts FileTree

theorem IsGenerated.isCanonical {p : GeneratedPlugin} (h : p.IsGenerated) : Identifier.isCanonical p.identifier = true := by
  obtain ⟨schema, d, mode, h⟩ := h
  rw [(generate_eq_ok h).1]
  exact Identifier.isCanonical_classify d.name

/-- Wherever a generated plugin could be exported, its artifacts are there as they were generated, and nothing else has
    changed. -/
theorem exports_of_exportTo {p : GeneratedPlugin} (hp : p.IsGenerated) {base : Path} {t t' : FileTree} {root : Path}
    (h : p.exportTo base t = (.ok root, t')) : p.Exports base t root t' := by
  have hid := hp.isCanonical
  have hholds := (gains_exportTo hid h).2
  obtain ⟨-, rfl⟩ := exportTo_eq_ok_iff.mp h
  constructor
  case directory => rfl
  case snake => exact Identifier.isSnake_snakeCase hid
  case place => exact fun kind => ⟨rfl, placeOf_exportFile hid⟩
  case distinct => exact fun kind kind' => exportPlace_inj
  case faithful => exact fun kind => (hholds _ (mem_exportFiles.mpr ⟨kind, rfl⟩)).readText
  case kept =>
    intro q entry hq hnew
    rcases get?_exportTo hid h hnew with heq | ⟨hnone, -⟩
    · exact heq.trans hq
    · cases hq.symm.trans hnone
  case added =>
    intro q hq hnew
    rcases get?_exportTo hid h hnew with heq | ⟨-, hdir⟩
    · exact .inl (heq.trans hq)
    · exact .inr hdir
  case again => exact exportTo_eq_ok_iff.mpr ⟨publishAll_of_holds hholds, rfl⟩
  case apart => exact fun other hgenerated hne => exportPlace_ne hid hgenerated.isCanonical hne
  case commutes =>
    intro other hgenerated hne r r₁ r₂ u v v' hafter hbefore hlast
    exact get?_exportTo_comm hid hgenerated.isCanonical hne h hafter hbefore hlast

theorem exists_exportTo_bareDescriptor : ∃ a t, render .bundled (Definition.bareDescriptor "1" "x") = .ok a ∧
    a.exportTo (Identifier.classify (Definition.bareDescriptor "1" "x").name) "out" {} = (.ok "out/a", t) := by
  have hok : (render .bundled (Definition.bareDescriptor "1" "x")).toOption.map
      (fun a => (a.exportTo (Identifier.classify (Definition.bareDescriptor "1" "x").name) "out" {}).1.toOption) =
        some (some "out/a") := by
    decide +kernel
  obtain ⟨a, ha, hexport⟩ := Option.map_eq_some_iff.mp hok
  generalize hout : a.exportTo (Identifier.classify (Definition.bareDescriptor "1" "x").name) "out" {} = out at hexport
  obtain ⟨result, t⟩ := out
  cases toOption_eq_some_iff.mp hexport
  exact ⟨a, t, toOption_eq_some_iff.mp ha, hout⟩

theorem exports_bareDescriptor : ∃ p : GeneratedPlugin, p.IsGenerated ∧ ∃ t, p.exportTo "out" {} = (.ok "out/a", t) ∧
    p.Exports "out" {} "out/a" t := by
  obtain ⟨p, hp⟩ := @Definition.generate_bareDescriptor "1" "x" (by decide) (by decide)
  have hgenerated : p.IsGenerated := ⟨_, _, _, hp⟩
  obtain ⟨hid, -, hrender⟩ := generate_eq_ok hp
  obtain ⟨a, t, ha, hexport⟩ := exists_exportTo_bareDescriptor
  have hartifacts : p.artifacts = a := Except.ok.inj (hrender.symm.trans ha)
  have hpair : p.exportTo "out" {} = (.ok "out/a", t) :=
    (congrArg₂ (fun artifacts id => Artifacts.exportTo artifacts id "out" {}) hartifacts hid).trans hexport
  exact ⟨p, hgenerated, t, hpair, exports_of_exportTo hgenerated hpair⟩

end GeneratedPlugin

end ToolPlugins
