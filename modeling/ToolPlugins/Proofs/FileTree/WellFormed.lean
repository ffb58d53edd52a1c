import Mathlib
import ToolPlugins.Proofs.FileTree.Ways
import ToolPlugins.Proofs.Table

/-!
Trees that are well formed: they list every place once, and the names in them are ones that a file system takes. Every
operation on a well-formed tree leaves one, and the order in which a tree lists its places is not seen by any look-up.
-/

namespace ToolPlugins

/-- A name that a file or a directory can have. -/
structure Path.IsEntryName (name : String) : Prop extends Path.IsName name where
  nul : '\x00' ∉ name.toList
  size : name.utf8ByteSize ≤ FileTree.maxNameSize

namespace FileTree

/-- No place is listed twice, and the names that lead to a place can be names of files. -/
structure WellFormed (t : FileTree) : Prop where
  nodup : t.entries.keys.Nodup
  names : ∀ place ∈ t.entries.keys, ∀ name ∈ place.tail, Path.IsEntryName name

section
variable {t t' : FileTree} {place : Location} {name : String} {p : Path} {content : Content}

/-! ### Places that paths lead to -/

/-- A name that is entered is the only one that a place can gain. -/
theorem mem_tail_enter {other : String} (h : other ∈ (enter place name).tail) :
    other ∈ place.tail ∨ other = name ∧ Path.isIdle name = false ∧ name ≠ ".." := by
  rw [enter] at h
  split_ifs at h with hidle hup
  · exact .inl h
  · rw [above] at h
    split_ifs at h with hroot
    · cases h
    · rw [List.tail_dropLast] at h
      exact .inl (List.mem_of_mem_dropLast h)
  · cases place with
    | nil => cases h
    | cons first rest =>
      rcases List.mem_append.mp h with h | h
      · exact .inl h
      · exact .inr ⟨List.mem_singleton.mp h, Bool.eq_false_iff.mpr hidle, hup⟩

theorem mem_tail_foldl_enter {names : List String} (h : name ∈ (names.foldl enter place).tail) :
    name ∈ place.tail ∨ name ∈ names ∧ Path.isIdle name = false ∧ name ≠ ".." := by
  induction names generalizing place with
  | nil => exact .inl h
  | cons first rest ih =>
    rcases ih h with h | ⟨hmem, hmoves⟩
    · rcases mem_tail_enter h with h | ⟨rfl, hmoves⟩
      · exact .inl h
      · exact .inr ⟨List.mem_cons_self, hmoves⟩
    · exact .inr ⟨List.mem_cons_of_mem first hmem, hmoves⟩

theorem isEntryName_of_locate (hl : t.locate p = .ok place) : ∀ name ∈ place.tail, Path.IsEntryName name := by
  intro name hname
  have hfits := fits_of_locate hl
  obtain rfl := eq_placeOf_of_locate hl
  rcases mem_tail_foldl_enter hname with hname | ⟨hname, hmoves, hdown⟩
  · rw [start] at hname
    split_ifs at hname <;> cases hname
  · have hnul := (Path.fits_iff.mp hfits).2 name hname
    exact ⟨⟨Path.slash_not_mem_segments name hname, hmoves, hdown⟩, hnul.1, hnul.2⟩

/-! ### Operations -/

theorem wellFormed_empty : WellFormed {} := ⟨List.nodup_nil, nofun⟩

theorem WellFormed.set (h : t.WellFormed) (hplace : ∀ name ∈ place.tail, Path.IsEntryName name) (entry : Entry) :
    (t.set place entry).WellFormed where
  nodup := Table.nodup_keys_insert h.nodup
  names other hother := by
    rcases Table.mem_keys_insert.mp hother with rfl | hother
    · exact hplace
    · exact h.names other hother

theorem WellFormed.write (h : t.WellFormed) (hwrite : t.write p content = .ok t') : t'.WellFormed := by
  obtain ⟨-, place, hl, -, rfl⟩ := write_eq_ok_iff.mp hwrite
  exact h.set (isEntryName_of_locate hl) _

theorem WellFormed.setMode {mode : Nat} (h : t.WellFormed) (hset : t.setMode p mode = .ok t') : t'.WellFormed := by
  obtain ⟨place, hresolve, hset⟩ := bind_eq_ok_iff.mp hset
  split at hset
  · cases hset
    exact h.set (isEntryName_of_locate (resolve_eq_ok_iff.mp hresolve).1) _
  · cases hset
    exact h
  · cases hset

theorem WellFormed.makeAlong (h : t.WellFormed) (paths : List Path) : (t.makeAlong paths).2.WellFormed := by
  induction paths generalizing t with
  | nil => exact h
  | cons p above ih =>
    obtain ⟨-, e, u, habove, hout⟩ | ⟨u, hu, hends⟩ := makeAlong_cons t p above
    · have hu := ih h
      rw [habove] at hu
      rwa [hout]
    · have hfirst : u.WellFormed := by
        obtain ⟨rfl, -⟩ | ⟨-, habove⟩ := hu
        · exact h
        · have hu := ih h
          rwa [habove] at hu
      obtain ⟨u', hmade, hout⟩ | ⟨-, hout⟩ | ⟨_, -, -, hout⟩ := hends
      · obtain ⟨place, hl, -, rfl⟩ := makeDirectory_eq_ok_iff.mp hmade
        rw [hout]
        exact hfirst.set (isEntryName_of_locate hl) _
      · rwa [hout]
      · rwa [hout]

theorem WellFormed.put (h : t.WellFormed) (p : Path) (content : Content) : (t.put p content).WellFormed := by
  have hwrite : ∀ u : FileTree, u.WellFormed → ((u.write p content).toOption.getD u).WellFormed := by
    intro u hu
    cases hwrite : u.write p content with
    | error e => exact hu
    | ok u' => exact hu.write hwrite
  rw [FileTree.put]
  split_ifs with hslash
  · exact h.makeAlong _
  · cases p.parent? with
    | none => exact hwrite t h
    | some above => exact hwrite _ (h.makeAlong _)

/-! ### Trees that list the same places in another order -/

theorem WellFormed.perm (h : t.WellFormed) (hperm : t'.entries.Perm t.entries) : t'.WellFormed where
  nodup := (hperm.map _).nodup_iff.mpr h.nodup
  names place hplace := h.names place ((hperm.map _).mem_iff.mp hplace)

theorem WellFormed.get?_perm (h : t.WellFormed) (hperm : t'.entries.Perm t.entries) (place : Location) :
    t'.get? place = t.get? place := by
  have hentries : t'.entries.get? place = t.entries.get? place := by
    ext entry
    constructor
    · intro hentry
      exact Table.get?_of_mem h.nodup (hperm.mem_iff.mp (Table.mem_of_get? hentry))
    · intro hentry
      exact Table.get?_of_mem (h.perm hperm).nodup (hperm.mem_iff.mpr (Table.mem_of_get? hentry))
  rw [get?, get?, hentries]

theorem walk_congr (h : ∀ place, t'.get? place = t.get? place) (names : List String) (place : Location) :
    t'.walk place names = t.walk place names := by
  have hcheck : ∀ place, t'.checkDirectory place = t.checkDirectory place := fun place => by
    rw [checkDirectory, checkDirectory, h]
  induction names generalizing place with
  | nil => rfl
  | cons name rest ih => rw [walk, walk, hcheck, ih]

theorem resolve_congr (h : ∀ place, t'.get? place = t.get? place) (p : Path) : t'.resolve p = t.resolve p := by
  have hlocate : t'.locate p = t.locate p := by
    rw [locate, locate]
    dsimp only
    rw [walk_congr h]
  have hcheck : ∀ place, t'.checkDirectory place = t.checkDirectory place := fun place => by
    rw [checkDirectory, checkDirectory, h]
  rw [resolve, resolve, hlocate]
  simp only [hcheck]

theorem readText_congr (h : ∀ place, t'.get? place = t.get? place) (p : Path) : t'.readText p = t.readText p := by
  rw [readText, readText, resolve_congr h]
  simp only [h]

theorem find?_congr (h : ∀ place, t'.get? place = t.get? place) (p : Path) : t'.find? p = t.find? p := by
  rw [find?, find?, resolve_congr h]
  simp only [h]

end

end FileTree

end ToolPlugins
