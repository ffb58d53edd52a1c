import Mathlib
import ToolPlugins.FileTree.Basic
import ToolPlugins.Proofs.FileTree.Paths
import ToolPlugins.Proofs.Result

/-!
Where paths lead depends on the directories of a tree only. Creating the directories of a path leads to the same
end however often it is tried: either the path leads to a directory from then on, or it can never be created.
-/

namespace ToolPlugins.FileTree

/-- Every directory of the first tree is one of the second. -/
def KeepsDirectories (t t' : FileTree) : Prop := ∀ place, t.get? place = some .directory → t'.get? place = some .directory

/-- Two trees have the same directories. -/
def SameDirectories (t t' : FileTree) : Prop := ∀ place, t'.get? place = some .directory ↔ t.get? place = some .directory

/-- The second tree is the first one without some of its files. -/
def Fewer (t t' : FileTree) : Prop :=
  ∀ place, t'.get? place = t.get? place ∨ ∃ content mode, t.get? place = some (.file content mode) ∧ t'.get? place = none

theorem KeepsDirectories.trans {t t' t'' : FileTree} (h : t.KeepsDirectories t') (h' : t'.KeepsDirectories t'') :
    t.KeepsDirectories t'' := fun place hp => h' place (h place hp)

theorem SameDirectories.refl (t : FileTree) : t.SameDirectories t := fun _ => Iff.rfl

theorem SameDirectories.symm {t t' : FileTree} (h : t.SameDirectories t') : t'.SameDirectories t :=
  fun place => (h place).symm

theorem SameDirectories.trans {t t' t'' : FileTree} (h : t.SameDirectories t') (h' : t'.SameDirectories t'') :
    t.SameDirectories t'' := fun place => (h' place).trans (h place)

theorem SameDirectories.keeps {t t' : FileTree} (h : t.SameDirectories t') : t.KeepsDirectories t' :=
  fun place => (h place).mpr

theorem Fewer.sameDirectories {t t' : FileTree} (h : t.Fewer t') : t.SameDirectories t' := by
  intro place
  rcases h place with heq | ⟨content, mode, hfile, hnone⟩
  · rw [heq]
  · rw [hfile, hnone]
    simp

section
variable {t t' : FileTree} {place q : Location} {names : List String} {p : Path}

/-! ### Walks -/

theorem checkDirectory_eq_ok_iff : t.checkDirectory place = .ok () ↔ t.get? place = some .directory := by
  rw [checkDirectory]
  cases t.get? place with
  | none => simp
  | some entry =>
    cases entry with
    | file content mode => simp
    | directory => simp

/-- A name is taken from a directory, and is not too long. -/
theorem walk_cons_eq_ok_iff {name : String} :
    t.walk place (name :: names) = .ok q ↔
      (name ≠ "" → t.get? place = some .directory ∧ name.utf8ByteSize ≤ maxNameSize) ∧
        t.walk (enter place name) names = .ok q := by
  by_cases hname : name = ""
  · subst hname
    rw [walk]
    simp
  · rw [walk, if_pos hname]
    by_cases hsize : maxNameSize < name.utf8ByteSize
    · have hlong : ¬name.utf8ByteSize ≤ maxNameSize := Nat.not_le.mpr hsize
      constructor
      · intro h
        obtain ⟨_, -, h⟩ := bind_eq_ok_iff.mp h
        rw [if_pos hsize] at h
        cases h
      · rintro ⟨h, -⟩
        exact absurd (h hname).2 hlong
    · have hshort : name.utf8ByteSize ≤ maxNameSize := Nat.not_lt.mp hsize
      rw [bind_eq_ok_iff]
      simp only [if_neg hsize]
      constructor
      · rintro ⟨_, hcheck, h⟩
        exact ⟨fun _ => ⟨checkDirectory_eq_ok_iff.mp hcheck, hshort⟩, h⟩
      · rintro ⟨h, hrest⟩
        exact ⟨(), checkDirectory_eq_ok_iff.mpr (h hname).1, hrest⟩

theorem walk_append_eq_ok_iff {more : List String} :
    t.walk place (names ++ more) = .ok q ↔ ∃ c, t.walk place names = .ok c ∧ t.walk c more = .ok q := by
  induction names generalizing place with
  | nil => simp [walk]
  | cons name rest ih =>
    rw [List.cons_append, walk_cons_eq_ok_iff, ih]
    simp only [walk_cons_eq_ok_iff]
    constructor
    · rintro ⟨hname, c, hc, h⟩
      exact ⟨c, ⟨hname, hc⟩, h⟩
    · rintro ⟨c, ⟨hname, hc⟩, h⟩
      exact ⟨hname, c, hc, h⟩

theorem KeepsDirectories.walk (h : t.KeepsDirectories t') (hw : t.walk place names = .ok q) :
    t'.walk place names = .ok q := by
  induction names generalizing place with
  | nil => exact hw
  | cons name rest ih =>
    obtain ⟨hname, hrest⟩ := walk_cons_eq_ok_iff.mp hw
    exact walk_cons_eq_ok_iff.mpr ⟨fun hne => ⟨h place (hname hne).1, (hname hne).2⟩, ih hrest⟩

/-- A tree with fewer files is missing what the other tree is missing. -/
theorem Fewer.walk_notFound (h : t.Fewer t') (hw : t.walk place names = .error .notFound) :
    t'.walk place names = .error .notFound := by
  induction names generalizing place with
  | nil => cases hw
  | cons name rest ih =>
    rw [walk] at hw ⊢
    by_cases hname : name = ""
    · rw [if_neg (not_not.mpr hname)] at hw ⊢
      exact ih hw
    · rw [if_pos hname] at hw ⊢
      rw [checkDirectory] at hw ⊢
      rcases h place with heq | ⟨content, mode, hfile, hnone⟩
      · rw [heq]
        cases hget : t.get? place with
        | none => rfl
        | some entry =>
          rw [hget] at hw
          cases entry with
          | file content mode => cases hw
          | directory =>
            by_cases hsize : maxNameSize < name.utf8ByteSize
            · rw [if_pos hsize] at hw
              cases hw
            · rw [if_neg hsize] at hw ⊢
              exact ih hw
      · rw [hfile] at hw
        cases hw

/-! ### Paths -/

theorem locate_eq_ok_iff :
    t.locate p = .ok place ↔
      '\x00' ∉ p.toList ∧ p ≠ "" ∧ p.utf8ByteSize ≤ maxPathSize ∧ t.walk (start p).1 p.segments = .ok place := by
  rw [locate]
  split_ifs with hnul hempty hsize
  · simp [List.contains_iff_mem.mp hnul]
  · simp [hempty]
  · simp [Nat.not_le.mpr hsize]
  · have hnul' : '\x00' ∉ p.toList := fun h => hnul (List.contains_iff_mem.mpr h)
    simp only [hnul', hempty, Nat.not_lt.mp hsize, not_false_eq_true, ne_eq, true_and]
    exact Iff.rfl

theorem KeepsDirectories.locate (h : t.KeepsDirectories t') (hl : t.locate p = .ok place) : t'.locate p = .ok place := by
  obtain ⟨hnul, hempty, hsize, hw⟩ := locate_eq_ok_iff.mp hl
  exact locate_eq_ok_iff.mpr ⟨hnul, hempty, hsize, h.walk hw⟩

theorem SameDirectories.locate_iff (h : t.SameDirectories t') : t'.locate p = .ok place ↔ t.locate p = .ok place :=
  ⟨h.symm.keeps.locate, h.keeps.locate⟩

theorem Fewer.locate_notFound (h : t.Fewer t') (hl : t.locate p = .error .notFound) : t'.locate p = .error .notFound := by
  rw [locate] at hl ⊢
  split_ifs at hl ⊢ with hnul hempty hsize
  · cases hl
  · rfl
  · cases hl
  · exact h.walk_notFound hl

theorem resolve_eq_ok_iff :
    t.resolve p = .ok place ↔ t.locate p = .ok place ∧ (p.endsInSlash = true → t.get? place = some .directory) := by
  rw [resolve, bind_eq_ok_iff]
  by_cases hslash : p.endsInSlash = true
  · simp only [hslash, if_true, forall_const]
    constructor
    · rintro ⟨c, hc, h⟩
      obtain ⟨_, hcheck, h⟩ := bind_eq_ok_iff.mp h
      cases h
      exact ⟨hc, checkDirectory_eq_ok_iff.mp hcheck⟩
    · rintro ⟨hc, hget⟩
      exact ⟨place, hc, bind_eq_ok_iff.mpr ⟨(), checkDirectory_eq_ok_iff.mpr hget, rfl⟩⟩
  · simp only [hslash]
    constructor
    · rintro ⟨c, hc, h⟩
      cases h
      exact ⟨hc, fun h => by cases h⟩
    · rintro ⟨hc, -⟩
      exact ⟨place, hc, rfl⟩

theorem KeepsDirectories.resolve (h : t.KeepsDirectories t') (hr : t.resolve p = .ok place) :
    t'.resolve p = .ok place := by
  obtain ⟨hl, hslash⟩ := resolve_eq_ok_iff.mp hr
  exact resolve_eq_ok_iff.mpr ⟨h.locate hl, fun hs => h place (hslash hs)⟩

theorem SameDirectories.resolve_iff (h : t.SameDirectories t') : t'.resolve p = .ok place ↔ t.resolve p = .ok place :=
  ⟨h.symm.keeps.resolve, h.keeps.resolve⟩

theorem isDirectory_iff : t.isDirectory p = true ↔ ∃ place, t.locate p = .ok place ∧ t.get? place = some .directory := by
  rw [isDirectory, find?]
  constructor
  · intro h
    split at h
    · next hfind =>
      split at hfind
      · next place hplace => exact ⟨place, (resolve_eq_ok_iff.mp hplace).1, hfind⟩
      · cases hfind
    · cases h
  · rintro ⟨place, hl, hget⟩
    have hresolve : t.resolve p = .ok place := resolve_eq_ok_iff.mpr ⟨hl, fun _ => hget⟩
    rw [hresolve]
    dsimp only
    rw [hget]

theorem KeepsDirectories.isDirectory (h : t.KeepsDirectories t') (hd : t.isDirectory p = true) :
    t'.isDirectory p = true := by
  obtain ⟨place, hl, hget⟩ := isDirectory_iff.mp hd
  exact isDirectory_iff.mpr ⟨place, h.locate hl, h place hget⟩

/-- The first name that moves is taken from the place that the idle ones before it are at. -/
theorem get?_of_walk_moving {idle rest : List String} {name : String} (hidle : ∀ s ∈ idle, Path.isIdle s = true)
    (hname : Path.isIdle name = false) (hw : t.walk place (idle ++ name :: rest) = .ok q) :
    t.get? place = some .directory := by
  induction idle with
  | nil =>
    refine ((walk_cons_eq_ok_iff.mp hw).1 ?_).1
    rintro rfl
    exact absurd hname (by decide)
  | cons s more ih =>
    obtain ⟨-, hmore⟩ := walk_cons_eq_ok_iff.mp hw
    rw [enter, if_pos (hidle s List.mem_cons_self)] at hmore
    exact ih (fun x hx => hidle x (List.mem_cons_of_mem s hx)) hmore

/-- A path that is found leads through a directory at the path that it stands in. -/
theorem isDirectory_of_parent? {above : Path} (hp : p.parent? = some above) (hne : above ≠ "")
    (hl : t.locate p = .ok place) : t.isDirectory above = true := by
  obtain ⟨hnul, -, hsize, hw⟩ := locate_eq_ok_iff.mp hl
  obtain ⟨front, idle, name, rest, hsegments, hidle, hname, hfront, habove⟩ := Path.segments_of_parent? hp hne
  have hbegins := Path.prefix_of_parent? hp hne
  have hfree : ∀ s ∈ front, '/' ∉ s.toList := by
    intro s hs
    refine @Path.slash_not_mem_segments p s ?_
    rw [hsegments]
    exact List.mem_append_left _ (List.mem_append_left _ hs)
  rw [hsegments, List.append_assoc] at hw
  obtain ⟨c, hc, hw⟩ := walk_append_eq_ok_iff.mp hw
  have hdir := get?_of_walk_moving hidle hname hw
  have habsolute := Path.isAbsolute_of_begins hbegins hne
  have hwalk : t.walk (start above).1 above.segments = .ok c := by
    have hstart : (start above).1 = (start p).1 := by rw [start, start, habsolute]
    rw [hstart]
    obtain rfl | ⟨rfl, rfl⟩ := habove
    · rwa [Path.segments_intercalate hfree hfront]
    · exact hc
  have hsize' := (Path.utf8ByteSize_le_of_begins hbegins).trans hsize
  exact isDirectory_iff.mpr ⟨c, locate_eq_ok_iff.mpr ⟨fun h => hnul (hbegins.subset h), hne, hsize', hwalk⟩, hdir⟩

/-- The place of a path whose last segment is a name ends in that name. -/
theorem getLast?_of_locate {front : List String} {name : String} (hsegments : p.segments = front ++ [name])
    (hname : Path.IsName name) (hl : t.locate p = .ok place) : ∃ dir, place = dir ++ [name] := by
  obtain ⟨-, -, -, hw⟩ := locate_eq_ok_iff.mp hl
  rw [hsegments] at hw
  obtain ⟨c, -, hw⟩ := walk_append_eq_ok_iff.mp hw
  obtain ⟨-, hw⟩ := walk_cons_eq_ok_iff.mp hw
  rw [enter, if_neg (by simp [hname.moves]), if_neg hname.down] at hw
  cases hw
  exact ⟨c, rfl⟩

/-! ### Creating directories -/

theorem keepsDirectories_set_directory (t : FileTree) (place : Location) :
    t.KeepsDirectories (t.set place .directory) := by
  intro other hother
  rw [get?_set]
  split_ifs
  · rfl
  · rfl
  · exact hother

theorem makeDirectory_eq_ok_iff :
    t.makeDirectory p = .ok t' ↔ ∃ place, t.locate p = .ok place ∧ t.get? place = none ∧ t' = t.set place .directory := by
  rw [makeDirectory, bind_eq_ok_iff]
  refine exists_congr fun place => and_congr_right fun _ => ?_
  cases t.get? place with
  | none =>
    rw [pure_eq_ok_iff]
    simp [eq_comm]
  | some entry => simp [throw, throwThe, MonadExceptOf.throw]

theorem makeDirectory_of_locate (h : t.locate p = .ok place) :
    t.makeDirectory p = if (t.get? place).isSome then .error .exists else .ok (t.set place .directory) := by
  rw [makeDirectory, h]
  cases hget : t.get? place with
  | none => simp [bind, Except.bind, hget, pure, Except.pure]
  | some entry => simp [bind, Except.bind, hget, throw, throwThe, MonadExceptOf.throw]

theorem makeDirectory_of_isDirectory (h : t.isDirectory p = true) : t.makeDirectory p = .error .exists := by
  obtain ⟨place, hl, hget⟩ := isDirectory_iff.mp h
  rw [makeDirectory_of_locate hl, hget]
  rfl

theorem locate_of_makeDirectory_notFound (h : t.makeDirectory p = .error .notFound) :
    t.locate p = .error .notFound := by
  cases hl : t.locate p with
  | error e =>
    rw [makeDirectory, hl] at h
    cases h
    rfl
  | ok place =>
    rw [makeDirectory_of_locate hl] at h
    split_ifs at h
    cases h

/-- How an attempt at one path ends: it is created, it is there, or it cannot be created. -/
def Ends (t : FileTree) (p : Path) (out : Except FileError Unit × FileTree) : Prop :=
  (∃ t', t.makeDirectory p = .ok t' ∧ out = (.ok (), t')) ∨
    (t.isDirectory p = true ∧ out = (.ok (), t)) ∨
    ∃ e, t.makeDirectory p = .error e ∧ t.isDirectory p = false ∧ out = (.error e, t)

theorem ends_of_error {e : FileError} (h : t.makeDirectory p = .error e) :
    t.Ends p (if e = .exists && t.isDirectory p then (.ok (), t) else (.error e, t)) := by
  cases hd : t.isDirectory p with
  | false =>
    rw [Bool.and_false, if_neg Bool.false_ne_true]
    exact .inr (.inr ⟨e, h, hd, rfl⟩)
  | true =>
    cases h.symm.trans (makeDirectory_of_isDirectory hd)
    exact .inr (.inl ⟨hd, rfl⟩)

/-- The paths above are created only if the path is not found, and then it is tried again. -/
theorem makeAlong_cons (t : FileTree) (p : Path) (above : List Path) :
    (t.makeDirectory p = .error .notFound ∧ ∃ e u, t.makeAlong above = (.error e, u) ∧
        t.makeAlong (p :: above) = (.error e, u)) ∨
      ∃ u, (u = t ∧ t.makeDirectory p ≠ .error .notFound ∨
          t.makeDirectory p = .error .notFound ∧ t.makeAlong above = (.ok (), u)) ∧
        u.Ends p (t.makeAlong (p :: above)) := by
  rw [makeAlong]
  dsimp only
  split
  · next t' hmade => exact .inr ⟨t, .inl ⟨rfl, by rw [hmade]; simp⟩, .inl ⟨t', hmade, rfl⟩⟩
  · next hnot =>
    split
    · next e u habove => exact .inl ⟨hnot, e, u, habove, rfl⟩
    · next u habove =>
      refine .inr ⟨u, .inr ⟨hnot, habove⟩, ?_⟩
      split
      · next t' hmade => exact .inl ⟨t', hmade, rfl⟩
      · next e hfailed => exact ends_of_error hfailed
  · next e hne hfailed =>
    refine .inr ⟨t, .inl ⟨rfl, ?_⟩, ends_of_error hfailed⟩
    rw [hfailed]
    intro h
    cases h
    exact hne rfl

theorem makeAlong_of_isDirectory (h : t.isDirectory p = true) (above : List Path) :
    t.makeAlong (p :: above) = (.ok (), t) := by
  rw [makeAlong, makeDirectory_of_isDirectory h]
  simp [h]

/-- A path whose directories could be created leads to a directory. -/
theorem isDirectory_of_makeAlong {above : List Path} (h : t.makeAlong (p :: above) = (.ok (), t')) :
    t'.isDirectory p = true := by
  obtain ⟨-, e, u, -, hout⟩ | ⟨u, -, hends⟩ := makeAlong_cons t p above
  · cases h.symm.trans hout
  · obtain ⟨t'', hmade, hout⟩ | ⟨hd, hout⟩ | ⟨_, -, -, hout⟩ := hends
    · cases h.symm.trans hout
      obtain ⟨place, hl, hnone, rfl⟩ := makeDirectory_eq_ok_iff.mp hmade
      refine isDirectory_iff.mpr ⟨place, (keepsDirectories_set_directory u place).locate hl, ?_⟩
      rw [get?_set]
      split_ifs with hlength hne
      · rfl
      · rfl
      · exact absurd rfl hne
    · cases h.symm.trans hout
      exact hd
    · cases h.symm.trans hout

theorem makeAlong_again_of_ok {paths : List Path} (h : t.makeAlong paths = (.ok (), t')) {u : FileTree}
    (hu : t'.KeepsDirectories u) : u.makeAlong paths = (.ok (), u) := by
  cases paths with
  | nil => rfl
  | cons p above => exact makeAlong_of_isDirectory (hu.isDirectory (isDirectory_of_makeAlong h)) above

/-- Each path stands in the next one. -/
def Climbs (paths : List Path) : Prop := paths.IsChain fun p above => Path.parent? p = some above ∧ above ≠ ""

theorem climbs_upwardFrom (p : Path) (steps : Nat) : Climbs (p.upwardFrom steps) := by
  induction steps generalizing p with
  | zero => exact .nil
  | succ steps ih =>
    rw [Path.upwardFrom]
    split
    · next above habove =>
      have hrest := ih above
      cases hup : above.upwardFrom steps with
      | nil => exact .singleton p
      | cons q more =>
        rw [hup] at hrest
        refine List.isChain_cons_cons.mpr ⟨?_, hrest⟩
        cases steps with
        | zero => cases hup
        | succ n =>
          rw [Path.upwardFrom] at hup
          split at hup
          · next further hfurther =>
            cases hup
            refine ⟨habove, ?_⟩
            rintro rfl
            cases hfurther
          · cases hup
    · exact .nil

/-- A path whose directories could not be created does not lead to a directory. -/
theorem isDirectory_of_makeAlong_error {above : List Path} (hc : Climbs (p :: above)) {e : FileError}
    (h : t.makeAlong (p :: above) = (.error e, t')) : t'.isDirectory p = false := by
  induction above generalizing t t' p e with
  | nil =>
    obtain ⟨-, e', u, habove, -⟩ | ⟨u, -, hends⟩ := makeAlong_cons t p []
    · cases habove
    · obtain ⟨_, -, hout⟩ | ⟨-, hout⟩ | ⟨_, -, hd, hout⟩ := hends <;> cases h.symm.trans hout
      exact hd
  | cons q rest ih =>
    obtain ⟨⟨hparent, hne⟩, hrest⟩ := List.isChain_cons_cons.mp hc
    obtain ⟨-, e', u, habove, hout⟩ | ⟨u, -, hends⟩ := makeAlong_cons t p (q :: rest)
    · cases h.symm.trans hout
      have hq := ih hrest habove
      by_contra hp
      obtain ⟨place, hl, -⟩ := isDirectory_iff.mp (Bool.not_eq_false _ ▸ hp)
      rw [isDirectory_of_parent? hparent hne hl] at hq
      cases hq
    · obtain ⟨_, -, hout⟩ | ⟨-, hout⟩ | ⟨_, -, hd, hout⟩ := hends <;> cases h.symm.trans hout
      exact hd

/-- What stopped the paths above stops the path as well. -/
theorem locate_of_makeAlong_error {above : List Path} (hc : Climbs (p :: above)) {e : FileError}
    (h : t.makeAlong above = (.error e, t')) (place : Location) : t'.locate p ≠ .ok place := by
  intro hl
  cases above with
  | nil => cases h
  | cons q rest =>
    obtain ⟨⟨hparent, hne⟩, hrest⟩ := List.isChain_cons_cons.mp hc
    have hq := isDirectory_of_makeAlong_error hrest h
    rw [isDirectory_of_parent? hparent hne hl] at hq
    cases hq

/-- Directories that could not be created cannot be created on a second attempt either, which changes nothing. -/
theorem makeAlong_again_of_error {paths : List Path} (hc : Climbs paths) {e : FileError}
    (h : t.makeAlong paths = (.error e, t')) : ∃ e', t'.makeAlong paths = (.error e', t') := by
  induction paths generalizing t t' e with
  | nil => cases h
  | cons p above ih =>
    have hd := isDirectory_of_makeAlong_error hc h
    obtain ⟨-, e₁, u, habove, hout⟩ | ⟨u, hu, hends⟩ := makeAlong_cons t p above
    · cases h.symm.trans hout
      obtain ⟨e₂, hagain⟩ := ih hc.tail habove
      have hlocate := locate_of_makeAlong_error hc habove
      obtain ⟨-, e₃, u, habove', hout'⟩ | ⟨u, hu, hends⟩ := makeAlong_cons t' p above
      · cases hagain.symm.trans habove'
        exact ⟨_, hout'⟩
      · obtain ⟨rfl, -⟩ | ⟨-, habove'⟩ := hu
        · obtain ⟨_, hmade, -⟩ | ⟨hp, -⟩ | ⟨e₃, -, -, hout'⟩ := hends
          · obtain ⟨place, hl, -⟩ := makeDirectory_eq_ok_iff.mp hmade
            exact absurd hl (hlocate place)
          · rw [hd] at hp
            cases hp
          · exact ⟨e₃, hout'⟩
        · cases hagain.symm.trans habove'
    · obtain ⟨_, -, hout⟩ | ⟨-, hout⟩ | ⟨_, hfailed, -, hout⟩ := hends <;> cases h.symm.trans hout
      obtain ⟨rfl, -⟩ | ⟨-, habove⟩ := hu
      · exact ⟨_, h⟩
      · have hagain := makeAlong_again_of_ok habove fun _ h => h
        obtain ⟨-, e₁, u, habove', -⟩ | ⟨u, hu, hends⟩ := makeAlong_cons t' p above
        · cases hagain.symm.trans habove'
        · obtain rfl : u = t' := by
            obtain ⟨rfl, -⟩ | ⟨-, habove'⟩ := hu
            · rfl
            · cases hagain.symm.trans habove'
              rfl
          obtain ⟨_, hmade, -⟩ | ⟨hp, -⟩ | ⟨e₁, -, -, hout'⟩ := hends
          · cases hfailed.symm.trans hmade
          · rw [hd] at hp
            cases hp
          · exact ⟨e₁, hout'⟩

theorem Fewer.makeDirectory (h : t.Fewer t') {u : FileTree} (hmade : t.makeDirectory p = .ok u) :
    ∃ u', t'.makeDirectory p = .ok u' ∧ u.Fewer u' := by
  obtain ⟨place, hl, hnone, rfl⟩ := makeDirectory_eq_ok_iff.mp hmade
  have hnone' : t'.get? place = none := by
    rcases h place with heq | ⟨_, _, -, hnone'⟩
    · rw [heq, hnone]
    · exact hnone'
  refine ⟨_, makeDirectory_eq_ok_iff.mpr ⟨place, h.sameDirectories.keeps.locate hl, hnone', rfl⟩, fun other => ?_⟩
  rw [get?_set, get?_set]
  split_ifs
  · exact .inl rfl
  · exact .inl rfl
  · exact h other

theorem Fewer.makeDirectory_notFound (h : t.Fewer t') (hmade : t.makeDirectory p = .error .notFound) :
    t'.makeDirectory p = .error .notFound := by
  rw [FileTree.makeDirectory, h.locate_notFound (locate_of_makeDirectory_notFound hmade)]
  rfl

/-- What can be created in a tree can be created in one with fewer files. -/
theorem Fewer.makeAlong (h : t.Fewer t') {paths : List Path} {u : FileTree} (hok : t.makeAlong paths = (.ok (), u)) :
    ∃ u', t'.makeAlong paths = (.ok (), u') ∧ u.Fewer u' := by
  induction paths generalizing t t' u with
  | nil =>
    cases hok
    exact ⟨t', rfl, h⟩
  | cons p above ih =>
    obtain ⟨-, e, v, -, hout⟩ | ⟨v, hv, hends⟩ := makeAlong_cons t p above
    · cases hok.symm.trans hout
    · obtain ⟨_, hmade, hout⟩ | ⟨hd, hout⟩ | ⟨_, -, -, hout⟩ := hends
      · cases hok.symm.trans hout
        obtain ⟨rfl, -⟩ | ⟨hnot, habove⟩ := hv
        · obtain ⟨u', hu', hfewer⟩ := h.makeDirectory hmade
          exact ⟨u', by rw [FileTree.makeAlong, hu'], hfewer⟩
        · obtain ⟨v', hv', hfewer⟩ := ih h habove
          obtain ⟨u', hu', hfewer'⟩ := hfewer.makeDirectory hmade
          exact ⟨u', by rw [FileTree.makeAlong, h.makeDirectory_notFound hnot, hv']; simp only [hu'], hfewer'⟩
      · cases hok.symm.trans hout
        obtain ⟨rfl, -⟩ | ⟨hnot, habove⟩ := hv
        · exact ⟨t', makeAlong_of_isDirectory (h.sameDirectories.keeps.isDirectory hd) above, h⟩
        · obtain ⟨v', hv', hfewer⟩ := ih h habove
          have hd' := hfewer.sameDirectories.keeps.isDirectory hd
          refine ⟨v', ?_, hfewer⟩
          rw [FileTree.makeAlong, h.makeDirectory_notFound hnot, hv']
          simp only [makeDirectory_of_isDirectory hd']
          simp [hd']
      · cases hok.symm.trans hout

end

end ToolPlugins.FileTree
