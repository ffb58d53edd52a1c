import Mathlib
import ToolPlugins.Proofs.FileTree.Paths
import ToolPlugins.Settings.Basic

/-!
Where directories of the settings lie when they are written with a tilde for the home directory. What follows the tilde
and its slash is put behind the home directory, unless it starts at the root; then it stands alone.
-/

namespace ToolPlugins

namespace Path

/-- What a path starts with: the root, the place where relative paths start if it is written, or nothing. -/
def lead (p : Path) : List String :=
  if isAbsolute p then ["/"] else if (segments p).head? = some "." then ["."] else []

/-- What a path starts with, and its segments that move. -/
def components (p : Path) : List String := lead p ++ (segments p).filter fun s => !isIdle s

/-- A path begins at another one, component by component. -/
def BeginsAt (p base : Path) : Prop := components base <+: components p

instance (p base : Path) : Decidable (BeginsAt p base) := inferInstanceAs (Decidable (components base <+: components p))

section
variable {base part rest : Path}

/-! ### Joined paths -/

theorem filter_baseSegments (base : Path) :
    (baseSegments base).filter (fun s => !isIdle s) = (segments base).filter fun s => !isIdle s := by
  rw [baseSegments]
  split_ifs with hempty hslash
  · subst hempty
    rfl
  · obtain ⟨l, -, hsegments⟩ := segments_of_endsInSlash hslash
    rw [hsegments, List.dropLast_concat, List.filter_append]
    exact (List.append_nil _).symm
  · rfl

theorem head?_segments_join (h : isAbsolute part = false) (hbase : base ≠ "") :
    (segments (join base part)).head? = (segments base).head? := by
  rw [segments_join_of_relative h, baseSegments, if_neg hbase]
  split_ifs with hslash
  · obtain ⟨l, -, hsegments⟩ := segments_of_endsInSlash hslash
    have hne : (l.splitOn '/').map String.ofList ≠ [] := by simp [List.splitOn_ne_nil]
    rw [hsegments, List.dropLast_concat, List.head?_append_of_ne_nil _ hne, List.head?_append_of_ne_nil _ hne]
  · exact List.head?_append_of_ne_nil _ (segments_ne_nil base)

theorem components_join (h : isAbsolute part = false) (hbase : base ≠ "") :
    components (join base part) = components base ++ (segments part).filter fun s => !isIdle s := by
  rw [components, lead, isAbsolute_join h, head?_segments_join h hbase, ← lead, segments_join_of_relative h,
    List.filter_append, filter_baseSegments, ← List.append_assoc, ← components]

theorem beginsAt_join (h : isAbsolute part = false) (base : Path) : BeginsAt (join base part) base := by
  rw [BeginsAt]
  by_cases hbase : base = ""
  · subst hbase
    exact List.nil_prefix
  · rw [components_join h hbase]
    exact List.prefix_append _ _

/-! ### The home directory -/

theorem expandHome_tilde (home : Path) : expandHome home "~" = home := rfl

theorem expandHome_slash (home rest : Path) : expandHome home ("~/" ++ rest) = join home rest := by
  have hchars : ("~/" ++ rest).toList = '~' :: '/' :: rest.toList := by
    rw [String.toList_append]
    rfl
  have hne : "~/" ++ rest ≠ "~" := by
    intro h
    rw [h] at hchars
    cases hchars
  rw [expandHome, if_neg hne, hchars]
  exact congrArg (join home) String.ofList_toList

theorem expandHome_of_not_prefix {text : Path} (home : Path) (hne : text ≠ "~") (h : ¬"~/".toList <+: text.toList) :
    expandHome home text = text := by
  rw [expandHome, if_neg hne]
  split
  · next hchars => exact absurd ⟨_, hchars.symm⟩ h
  · rfl

end

end Path

namespace Settings

/-- How a directory is written in the settings, and the path that it stands for. -/
structure StandsFor (home text path : Path) : Prop where
  alone : text = "~" → path = home
  inside : ∀ rest, text = "~/" ++ rest → Path.isAbsolute rest = false →
    path = Path.join home rest ∧ path.BeginsAt home
  /-- What starts at the root behind the tilde and its slash is the path itself. -/
  outside : ∀ rest, text = "~/" ++ rest → Path.isAbsolute rest = true → path = rest
  stays : ∀ rest, text = "~/" ++ rest → (path.BeginsAt home ↔ Path.isAbsolute rest = false ∨ rest.BeginsAt home)
  kept : text ≠ "~" → ¬"~/".toList <+: text.toList → path = text

theorem standsFor_expandHome (home text : Path) : StandsFor home text (Path.expandHome home text) := by
  have hinside : ∀ rest, text = "~/" ++ rest → Path.isAbsolute rest = false →
      Path.expandHome home text = Path.join home rest ∧ (Path.expandHome home text).BeginsAt home := by
    rintro rest rfl hrest
    rw [Path.expandHome_slash]
    exact ⟨rfl, Path.beginsAt_join hrest home⟩
  have houtside : ∀ rest, text = "~/" ++ rest → Path.isAbsolute rest = true → Path.expandHome home text = rest := by
    rintro rest rfl hrest
    rw [Path.expandHome_slash, Path.join, if_pos hrest]
  refine ⟨?_, hinside, houtside, fun rest h => ?_, Path.expandHome_of_not_prefix home⟩
  · rintro rfl
    exact Path.expandHome_tilde home
  · cases hrest : Path.isAbsolute rest with
    | false => simp [(hinside rest h hrest).2]
    | true => simp [houtside rest h hrest]

/-- All directories of the settings stand for the paths that are used. -/
theorem directories_standFor (home : Path) (s : Settings) :
    StandsFor home s.helpRoot (s.helpRootPath home) ∧ StandsFor home s.exportRoot (s.exportRootPath home) ∧
      List.Forall₂ (StandsFor home) s.descriptorDirs (s.descriptorDirPaths home) := by
  refine ⟨standsFor_expandHome home _, standsFor_expandHome home _, ?_⟩
  rw [descriptorDirPaths, List.forall₂_map_right_iff, List.forall₂_same]
  exact fun dir _ => standsFor_expandHome home dir

/-- A second slash behind the tilde leads away from the home directory. -/
theorem helpRoot_leaves_home : helpRootPath "/home/user" { helpRoot := "~//srv" } = "/srv" ∧
    ¬Path.BeginsAt "/srv" "/home/user" := by
  decide

end Settings

end ToolPlugins
