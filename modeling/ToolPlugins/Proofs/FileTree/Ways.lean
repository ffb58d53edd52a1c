import Mathlib
import ToolPlugins.Proofs.FileTree.Places

/-!
The places that a path goes through. A path that leads somewhere goes through directories, and where no file is in the
way its directories can be created.
-/

namespace ToolPlugins

namespace Path

/-- The last segment of a path moves. -/
def EndsInName (p : Path) : Prop := ∃ front name, segments p = front ++ [name] ∧ isIdle name = false

/-- A path above which nothing is created. -/
def IsStart (p : Path) : Prop := p = "" ∨ p = "/" ∨ p = "."

/-- A path that a file system takes. -/
structure Fits (p : Path) : Prop where
  nul : '\x00' ∉ p.toList
  size : p.utf8ByteSize ≤ FileTree.maxPathSize
  names : ∀ name ∈ segments p, name.utf8ByteSize ≤ FileTree.maxNameSize

/-! ### The path that a path stands in -/

theorem lead_cases (l : List String) :
    (leadAndBody l).1 = [] ∧ (∀ s ∈ l.head?, isIdle s = false) ∨ (leadAndBody l).1 = [""] ∨ (leadAndBody l).1 = ["."] := by
  rw [leadAndBody.eq_def]
  split
  · exact .inr (.inl rfl)
  · exact .inr (.inr rfl)
  · next hempty hdot =>
    refine .inl ⟨rfl, fun s hs => ?_⟩
    obtain ⟨rest, rfl⟩ := List.head?_eq_some_iff.mp (Option.mem_def.mp hs)
    rw [isIdle, Bool.or_eq_false_iff, decide_eq_false_iff_not, decide_eq_false_iff_not]
    exact ⟨fun h => hempty rest (h ▸ rfl), fun h => hdot rest (h ▸ rfl)⟩

/-- What is written of segments whose last one moves is a path of these segments. -/
theorem segments_of_trimIdle {p : Path} {lead body : List String} (hsegments : ∀ s ∈ lead ++ body, s ∈ segments p)
    (hbody : trimIdle body ≠ []) :
    segments ("/".intercalate (lead ++ trimIdle body)) = lead ++ trimIdle body ∧
      EndsInName ("/".intercalate (lead ++ trimIdle body)) := by
  obtain ⟨idle, hidle, -⟩ := exists_trimIdle body
  obtain ⟨init, last, hinit⟩ : ∃ init last, trimIdle body = init ++ [last] :=
    ⟨_, _, (List.dropLast_append_getLast hbody).symm⟩
  have hlast : isIdle last = false := @not_isIdle_of_trimIdle body init.reverse last (by rw [hinit, List.reverse_append]; rfl)
  have hwritten : segments ("/".intercalate (lead ++ trimIdle body)) = lead ++ trimIdle body := by
    refine segments_intercalate (fun s hs => @slash_not_mem_segments p s (hsegments s ?_)) (by simp [hbody])
    rw [hidle, ← List.append_assoc]
    exact List.mem_append_left _ hs
  exact ⟨hwritten, lead ++ init, last, by rw [hwritten, hinit, List.append_assoc], hlast⟩

/-- The path that a path with a name at its end stands in has the segments before that name, without the idle ones among
    the last of them. -/
theorem parent?_of_segments {p : Path} {l : List String} {name : String} (h : segments p = l ++ [name])
    (hname : isIdle name = false) :
    ∃ above front idle, parent? p = some above ∧ l = front ++ idle ∧ (∀ s ∈ idle, isIdle s = true) ∧
      (above = "" ∧ l = [] ∨ above = "/" ∧ front = [""] ∨ above = "." ∧ front = ["."] ∨
        segments above = front ∧ EndsInName above) := by
  obtain ⟨lead, body, hlead⟩ := leadAndBody_append l
  have hcases := lead_cases (l ++ [name])
  have hparts := append_leadAndBody (l ++ [name])
  rw [hlead name hname] at hparts hcases
  obtain rfl : l = lead ++ body := by
    rw [← List.append_assoc] at hparts
    exact (List.append_cancel_right hparts).symm
  have hparent := parent?_of_lead (h ▸ hlead name hname) hname
  obtain ⟨idle, hbody, hidle⟩ := exists_trimIdle body
  refine ⟨_, lead ++ trimIdle body, idle, hparent, by rw [List.append_assoc, ← hbody], hidle, ?_⟩
  by_cases htrimmed : trimIdle body = []
  · rw [htrimmed]
    obtain ⟨rfl, hhead⟩ | rfl | rfl := hcases
    · refine .inl ⟨rfl, ?_⟩
      -- a first segment that is idle would be what the path starts with
      cases body with
      | nil => rfl
      | cons s rest =>
        rw [htrimmed, List.nil_append] at hbody
        have hs : isIdle s = true := hidle s (hbody ▸ List.mem_cons_self)
        exact absurd hs (Bool.eq_false_iff.mp (hhead s rfl))
    · exact .inr (.inl ⟨rfl, rfl⟩)
    · exact .inr (.inr (.inl ⟨rfl, rfl⟩))
  · rw [if_neg (by simp [htrimmed])]
    exact .inr (.inr (.inr (segments_of_trimIdle (fun s hs => h ▸ List.mem_append_left _ hs) htrimmed)))

theorem EndsInName.endsInSlash {p : Path} (h : p.EndsInName) : endsInSlash p = false := by
  obtain ⟨front, name, hsegments, hname⟩ := h
  refine Bool.eq_false_iff.mpr fun hslash => ?_
  obtain ⟨l, -, hl⟩ := segments_of_endsInSlash hslash
  rw [hsegments] at hl
  rw [List.singleton_inj.mp (List.append_inj' hl rfl).2] at hname
  exact absurd hname (by decide)

theorem EndsInName.ne_empty {p : Path} (h : p.EndsInName) : p ≠ "" := by
  obtain ⟨front, name, hsegments, hname⟩ := h
  rintro rfl
  have hempty : [] ++ [""] = front ++ [name] := hsegments
  obtain rfl : name = "" := (List.singleton_inj.mp (List.append_inj' hempty rfl).2).symm
  exact absurd hname (by decide)

theorem exists_parent? {p : Path} (hp : p.EndsInName) :
    ∃ above, parent? p = some above ∧
      (above.IsStart ∨ above.EndsInName ∧ (segments above).length < (segments p).length) := by
  obtain ⟨l, name, hsegments, hname⟩ := hp
  obtain ⟨above, front, idle, hparent, hl, -, ⟨rfl, -⟩ | ⟨rfl, -⟩ | ⟨rfl, -⟩ | ⟨habove, hends⟩⟩ :=
    parent?_of_segments hsegments hname
  · exact ⟨_, hparent, .inl (.inl rfl)⟩
  · exact ⟨_, hparent, .inl (.inr (.inl rfl))⟩
  · exact ⟨_, hparent, .inl (.inr (.inr rfl))⟩
  · refine ⟨above, hparent, .inr ⟨hends, ?_⟩⟩
    rw [hsegments, hl, habove, List.length_append, List.length_append, List.length_singleton]
    omega

theorem IsStart.fits {p : Path} (h : p.IsStart) : p.Fits := by
  obtain rfl | rfl | rfl := h
  · exact ⟨by decide, by decide, by decide⟩
  · exact ⟨by decide, by decide, by decide⟩
  · exact ⟨by decide, by decide, by decide⟩

theorem Fits.parent {p above : Path} (h : p.Fits) (hp : p.EndsInName) (hparent : parent? p = some above) : above.Fits := by
  obtain ⟨l, name, hsegments, hname⟩ := hp
  obtain ⟨q, front, idle, hq, hl, -, hcases⟩ := parent?_of_segments hsegments hname
  cases hparent.symm.trans hq
  rcases hcases with ⟨rfl, -⟩ | ⟨rfl, -⟩ | ⟨rfl, -⟩ | ⟨habove, hends⟩
  · exact IsStart.fits (.inl rfl)
  · exact IsStart.fits (.inr (.inl rfl))
  · exact IsStart.fits (.inr (.inr rfl))
  · have hbegins := prefix_of_parent? hparent hends.ne_empty
    refine ⟨fun hnul => h.nul (hbegins.subset hnul), (utf8ByteSize_le_of_begins hbegins).trans h.size, fun s hs => ?_⟩
    refine h.names s ?_
    rw [hsegments, hl, ← habove]
    exact List.mem_append_left _ (List.mem_append_left _ hs)

/-! ### Limits -/

theorem mem_intercalate_iff {c : Char} (hc : c ≠ '/') {parts : List (List Char)} :
    c ∈ ['/'].intercalate parts ↔ ∃ part ∈ parts, c ∈ part := by
  induction parts with
  | nil => simp
  | cons part rest ih =>
    cases rest with
    | nil => simp
    | cons other more =>
      rw [List.intercalate_cons_of_ne_nil (List.cons_ne_nil _ _), List.mem_append, List.mem_append, ih]
      simp [hc]

theorem fits_iff {p : Path} : p.Fits ↔ p.utf8ByteSize ≤ FileTree.maxPathSize ∧
    ∀ s ∈ segments p, '\x00' ∉ s.toList ∧ s.utf8ByteSize ≤ FileTree.maxNameSize := by
  have hnul : '\x00' ∈ p.toList ↔ ∃ s ∈ segments p, '\x00' ∈ s.toList := by
    rw [← toList_eq_intercalate, mem_intercalate_iff (by decide)]
    simp only [List.mem_map, exists_exists_and_eq_and]
  constructor
  · rintro ⟨hfree, hsize, hnames⟩
    exact ⟨hsize, fun s hs => ⟨fun hmem => hfree (hnul.mpr ⟨s, hs, hmem⟩), hnames s hs⟩⟩
  · rintro ⟨hsize, hsegments⟩
    refine ⟨fun hmem => ?_, hsize, fun s hs => (hsegments s hs).2⟩
    obtain ⟨s, hs, hin⟩ := hnul.mp hmem
    exact (hsegments s hs).1 hin

theorem mem_of_mem_baseSegments {base : Path} {s : String} (h : s ∈ baseSegments base) : s ∈ segments base := by
  rw [baseSegments] at h
  split_ifs at h
  · cases h
  · exact List.mem_of_mem_dropLast h
  · exact h

end Path

namespace FileTree

/-- The places that a path goes through, its end among them. -/
def way (p : Path) : List Location := p.segments.scanl enter (start p).1

/-- The places that the segments of a path are taken from. -/
def through (p : Path) : List Location := p.segments.dropLast.scanl enter (start p).1

section
variable {t t' : FileTree} {p above base : Path} {place q : Location} {names front idle : List String} {name : String}

/-! ### Ways -/

theorem foldl_mem_scanl (place : Location) (names : List String) : names.foldl enter place ∈ names.scanl enter place := by
  rw [← List.getLast_scanl (List.scanl_ne_nil)]
  exact List.getLast_mem _

theorem mem_scanl_self (place : Location) (names : List String) : place ∈ names.scanl enter place := by
  cases names with
  | nil => exact List.mem_singleton_self place
  | cons name rest =>
    rw [List.scanl_cons]
    exact List.mem_cons_self

theorem mem_scanl_concat :
    q ∈ (front ++ [name]).scanl enter place ↔ q ∈ front.scanl enter place ∨ q = (front ++ [name]).foldl enter place := by
  rw [List.scanl_append, List.scanl_singleton, List.tail_cons, List.mem_append, List.mem_singleton, List.foldl_concat]

theorem mem_scanl_idle (h : ∀ s ∈ idle, Path.isIdle s = true) :
    q ∈ (front ++ idle).scanl enter place ↔ q ∈ front.scanl enter place := by
  induction idle using List.reverseRecOn with
  | nil => rw [List.append_nil]
  | append_singleton idle s ih =>
    have hrest := ih fun x hx => h x (List.mem_append_left _ hx)
    have hs : Path.isIdle s = true := h s (List.mem_append_right _ (List.mem_singleton_self s))
    rw [← List.append_assoc, mem_scanl_concat, hrest, List.foldl_concat, enter, if_pos hs]
    refine or_iff_left_of_imp ?_
    rintro rfl
    exact hrest.mp (foldl_mem_scanl place _)

theorem way_eq_concat (p : Path) : ∃ front name, p.segments = front ++ [name] ∧ through p = front.scanl enter (start p).1 := by
  refine ⟨_, _, (List.dropLast_append_getLast (Path.segments_ne_nil p)).symm, rfl⟩

theorem mem_way : q ∈ way p ↔ q ∈ through p ∨ q = placeOf p := by
  obtain ⟨front, name, hsegments, hthrough⟩ := way_eq_concat p
  rw [hthrough, way, placeOf, hsegments, mem_scanl_concat]

theorem placeOf_mem_way (p : Path) : placeOf p ∈ way p := mem_way.mpr (.inr rfl)

/-- What is right below a base is reached through the places of the base. -/
theorem mem_through_join (h : '/' ∉ name.toList) : q ∈ through (Path.join base name) ↔ q ∈ way base := by
  rw [through, Path.segments_join h, List.dropLast_concat, start_join h, way, Path.baseSegments]
  split_ifs with hempty hslash
  · subst hempty
    exact (@mem_scanl_idle _ q [] [""] (by decide)).symm
  · obtain ⟨l, -, hsegments⟩ := Path.segments_of_endsInSlash hslash
    rw [hsegments, List.dropLast_concat]
    exact (mem_scanl_idle (by decide)).symm
  · rfl

/-- Names behind a base lead on from the place of the base. -/
theorem mem_way_foldl_join (h : ∀ name ∈ names, Path.IsName name) :
    q ∈ way (names.foldl Path.join base) ↔ q ∈ way base ∨ ∃ front, front <+: names ∧ q = placeOf base ++ front := by
  induction names using List.reverseRecOn with
  | nil =>
    refine (or_iff_left_of_imp ?_).symm
    rintro ⟨front, hfront, rfl⟩
    rw [List.prefix_nil.mp hfront, List.append_nil]
    exact placeOf_mem_way base
  | append_singleton names name ih =>
    have hlast := h name (List.mem_append_right _ (List.mem_singleton_self name))
    have hplace := @placeOf_foldl_join base (names ++ [name]) h
    rw [List.foldl_concat] at hplace ⊢
    rw [mem_way, mem_through_join hlast.slash, ih fun x hx => h x (List.mem_append_left _ hx), hplace, or_assoc]
    refine or_congr_right ?_
    simp only [List.prefix_concat_iff]
    constructor
    · rintro (⟨front, hfront, rfl⟩ | rfl)
      · exact ⟨front, .inr hfront, rfl⟩
      · exact ⟨_, .inl rfl, rfl⟩
    · rintro ⟨front, rfl | hfront, rfl⟩
      · exact .inr rfl
      · exact .inl ⟨front, hfront, rfl⟩

theorem mem_through_foldl_join (h : ∀ name ∈ names, Path.IsName name) (hne : names ≠ []) :
    q ∈ through (names.foldl Path.join base) ↔
      q ∈ way base ∨ ∃ front, front <+: names.dropLast ∧ q = placeOf base ++ front := by
  obtain ⟨init, last, rfl⟩ : ∃ init last, names = init ++ [last] := ⟨_, _, (List.dropLast_append_getLast hne).symm⟩
  have hlast := h last (List.mem_append_right _ (List.mem_singleton_self last))
  rw [List.foldl_concat, mem_through_join hlast.slash, List.dropLast_concat,
    mem_way_foldl_join fun x hx => h x (List.mem_append_left _ hx)]

theorem start_of_segments_singleton (h : p.segments = [name]) : (start p).1 = workLocation := by
  have htext : p.toList = name.toList := by
    rw [← Path.toList_eq_intercalate, h, List.map_singleton, List.intercalate_singleton]
  have hslash : '/' ∉ p.toList := htext ▸ Path.slash_not_mem_segments name (h ▸ List.mem_singleton_self name)
  rw [start, Path.isAbsolute_eq_false hslash]
  rfl

/-- The path that a path stands in goes through the places that its segments are taken from. -/
theorem mem_way_of_parent? (hp : p.EndsInName) (hparent : p.parent? = some above) : q ∈ way above ↔ q ∈ through p := by
  obtain ⟨l, name, hsegments, hname⟩ := hp
  obtain ⟨q', front, idle, hq, hl, hidle, hcases⟩ := Path.parent?_of_segments hsegments hname
  cases hparent.symm.trans hq
  have hstart : above ≠ "" → (start above).1 = (start p).1 := by
    intro hne
    rw [start, start, Path.isAbsolute_of_begins (Path.prefix_of_parent? hparent hne) hne]
  rw [through, hsegments, List.dropLast_concat]
  rcases hcases with ⟨rfl, rfl⟩ | ⟨rfl, rfl⟩ | ⟨rfl, rfl⟩ | ⟨habove, hends⟩
  · rw [start_of_segments_singleton hsegments]
    exact @mem_scanl_idle _ q [] [""] (by decide)
  · rw [hl, mem_scanl_idle hidle, ← hstart (by decide)]
    exact @mem_scanl_idle _ q [""] [""] (by decide)
  · rw [hl, mem_scanl_idle hidle, ← hstart (by decide)]
    rfl
  · rw [hl, mem_scanl_idle hidle, way, habove, hstart hends.ne_empty]

/-! ### What is found on the way -/

theorem directory_of_walk (hw : t.walk place names = .ok q) (hq : t.get? q = some .directory) :
    ∀ r ∈ names.scanl enter place, t.get? r = some .directory := by
  induction names generalizing place with
  | nil =>
    cases hw
    rw [List.scanl_nil]
    exact List.forall_mem_singleton.mpr hq
  | cons name rest ih =>
    obtain ⟨hname, hrest⟩ := walk_cons_eq_ok_iff.mp hw
    rw [List.scanl_cons]
    refine List.forall_mem_cons.mpr ⟨?_, ih hrest⟩
    by_cases hempty : name = ""
    · -- an empty name stays where it is
      subst hempty
      exact ih hrest place (mem_scanl_self place rest)
    · exact (hname hempty).1

theorem directory_of_isDirectory (h : t.isDirectory p = true) : ∀ r ∈ way p, t.get? r = some .directory := by
  obtain ⟨place, hl, hget⟩ := isDirectory_iff.mp h
  exact directory_of_walk (locate_eq_ok_iff.mp hl).2.2.2 hget

/-- A path that leads somewhere goes through directories. -/
theorem directory_of_locate (hp : p.EndsInName) (hl : t.locate p = .ok place) :
    ∀ r ∈ through p, t.get? r = some .directory := by
  obtain ⟨front, name, hsegments, hname⟩ := hp
  obtain ⟨-, -, -, hw⟩ := locate_eq_ok_iff.mp hl
  rw [hsegments] at hw
  obtain ⟨c, hc, hlast⟩ := walk_append_eq_ok_iff.mp hw
  rw [through, hsegments, List.dropLast_concat]
  refine directory_of_walk hc ((walk_cons_eq_ok_iff.mp hlast).1 ?_).1
  rintro rfl
  exact absurd hname (by decide)

theorem size_of_walk (hw : t.walk place names = .ok q) : ∀ name ∈ names, name.utf8ByteSize ≤ maxNameSize := by
  induction names generalizing place with
  | nil => exact List.forall_mem_nil _
  | cons name rest ih =>
    obtain ⟨hname, hrest⟩ := walk_cons_eq_ok_iff.mp hw
    refine List.forall_mem_cons.mpr ⟨?_, ih hrest⟩
    by_cases hempty : name = ""
    · subst hempty
      exact Nat.zero_le _
    · exact (hname hempty).2

theorem fits_of_locate (hl : t.locate p = .ok place) : p.Fits := by
  obtain ⟨hnul, -, hsize, hw⟩ := locate_eq_ok_iff.mp hl
  exact ⟨hnul, hsize, size_of_walk hw⟩

theorem walk_of_directories (hsize : ∀ s ∈ front ++ [name], s.utf8ByteSize ≤ maxNameSize)
    (hdirs : ∀ r ∈ front.scanl enter place, t.get? r = some .directory) :
    t.walk place (front ++ [name]) = .ok ((front ++ [name]).foldl enter place) := by
  induction front generalizing place with
  | nil =>
    exact walk_cons_eq_ok_iff.mpr ⟨fun _ => ⟨hdirs place (List.mem_singleton_self _), hsize name List.mem_cons_self⟩, rfl⟩
  | cons s rest ih =>
    rw [List.scanl_cons] at hdirs
    obtain ⟨hplace, hrest⟩ := List.forall_mem_cons.mp hdirs
    obtain ⟨hs, hmore⟩ := List.forall_mem_cons.mp hsize
    exact walk_cons_eq_ok_iff.mpr ⟨fun _ => ⟨hplace, hs⟩, ih hmore hrest⟩

theorem walk_cons_of_clear (hclear : t.contentAt place = none) (hsize : name.utf8ByteSize ≤ maxNameSize) :
    t.walk place (name :: names) = t.walk (enter place name) names ∨
      t.walk place (name :: names) = .error .notFound := by
  rw [walk, if_neg (Nat.not_lt.mpr hsize), checkDirectory]
  rw [contentAt] at hclear
  by_cases hempty : name = ""
  · rw [if_neg (not_not.mpr hempty)]
    exact .inl rfl
  · rw [if_pos hempty]
    cases hget : t.get? place with
    | none => exact .inr rfl
    | some entry =>
      rw [hget] at hclear
      cases entry with
      | file content mode => cases hclear
      | directory => exact .inl rfl

/-- Where no file is in the way, a walk can only miss a directory. -/
theorem walk_of_clear (hsize : ∀ s ∈ front ++ [name], s.utf8ByteSize ≤ maxNameSize)
    (hclear : ∀ r ∈ front.scanl enter place, t.contentAt r = none) :
    t.walk place (front ++ [name]) = .ok ((front ++ [name]).foldl enter place) ∨
      t.walk place (front ++ [name]) = .error .notFound := by
  induction front generalizing place with
  | nil => exact walk_cons_of_clear (hclear place (List.mem_singleton_self _)) (hsize name List.mem_cons_self)
  | cons s rest ih =>
    rw [List.scanl_cons] at hclear
    obtain ⟨hplace, hrest⟩ := List.forall_mem_cons.mp hclear
    obtain ⟨hs, hmore⟩ := List.forall_mem_cons.mp hsize
    rcases @walk_cons_of_clear t place (rest ++ [name]) s hplace hs with hstep | hstep
    · rw [List.cons_append, hstep]
      exact ih hmore hrest
    · exact .inr hstep

theorem locate_of_fits (h : p.Fits) (hne : p ≠ "") : t.locate p = t.walk (start p).1 p.segments := by
  have hnul : p.toList.contains '\x00' = false := by
    rw [Bool.eq_false_iff, ne_eq, List.contains_iff_mem]
    exact h.nul
  rw [locate, hnul, if_neg Bool.false_ne_true, if_neg hne, if_neg (Nat.not_lt.mpr h.size)]
  rfl

theorem locate_of_directories (hp : p.EndsInName) (hfits : p.Fits)
    (hdirs : ∀ r ∈ through p, t.get? r = some .directory) : t.locate p = .ok (placeOf p) := by
  obtain ⟨front, name, hsegments, hthrough⟩ := way_eq_concat p
  have hsize := hfits.names
  rw [hthrough] at hdirs
  rw [hsegments] at hsize
  rw [locate_of_fits hfits hp.ne_empty, placeOf, hsegments]
  exact walk_of_directories hsize hdirs

theorem locate_of_clear (hp : p.EndsInName) (hfits : p.Fits) (hclear : ∀ r ∈ through p, t.contentAt r = none) :
    t.locate p = .ok (placeOf p) ∨ t.locate p = .error .notFound := by
  obtain ⟨front, name, hsegments, hthrough⟩ := way_eq_concat p
  have hsize := hfits.names
  rw [hthrough] at hclear
  rw [hsegments] at hsize
  rw [locate_of_fits hfits hp.ne_empty, placeOf, hsegments]
  exact walk_of_clear hsize hclear

/-! ### Creating directories along a way -/

theorem directory_of_isStart (h : p.IsStart) (t : FileTree) : ∀ r ∈ way p, t.get? r = some .directory := by
  have hlength : ∀ r ∈ way p, r.length ≤ 1 := by
    obtain rfl | rfl | rfl := h <;> decide
  exact fun r hr => if_pos (hlength r hr)

theorem isDirectory_dot (t : FileTree) : t.isDirectory "." = true := by
  refine isDirectory_iff.mpr ⟨workLocation, locate_eq_ok_iff.mpr ⟨by decide, by decide, by decide, ?_⟩, rfl⟩
  exact walk_cons_eq_ok_iff.mpr ⟨fun _ => ⟨rfl, by decide⟩, rfl⟩

theorem upwardFrom_of_isStart (h : p.IsStart) (steps : Nat) :
    p.upwardFrom steps = [] ∨ p = "." ∧ p.upwardFrom steps = ["."] := by
  have hnone : ∀ n, Path.upwardFrom "" n = [] := by
    intro n
    cases n <;> rfl
  cases steps with
  | zero => exact .inl rfl
  | succ n =>
    obtain rfl | rfl | rfl := h
    · exact .inl rfl
    · exact .inl rfl
    · exact .inr ⟨rfl, congrArg (List.cons ".") (hnone n)⟩

theorem upwardFrom_succ (hparent : p.parent? = some above) (n : Nat) : p.upwardFrom (n + 1) = p :: above.upwardFrom n := by
  rw [Path.upwardFrom, hparent]

theorem placeOf_mem_way_of_mem_upwardFrom {p r : Path} (hp : p.IsStart ∨ p.EndsInName) {steps : Nat}
    (hr : r ∈ p.upwardFrom steps) : placeOf r ∈ way p := by
  induction steps generalizing p with
  | zero => cases hr
  | succ n ih =>
    rcases hp with hstart | hp
    · rcases upwardFrom_of_isStart hstart (n + 1) with hnil | ⟨rfl, hself⟩
      · rw [hnil] at hr
        cases hr
      · rw [hself] at hr
        rw [List.mem_singleton.mp hr]
        exact placeOf_mem_way "."
    · obtain ⟨above, hparent, habove⟩ := Path.exists_parent? hp
      rw [upwardFrom_succ hparent] at hr
      rcases List.mem_cons.mp hr with rfl | hr
      · exact placeOf_mem_way r
      · exact mem_way.mpr (.inl ((mem_way_of_parent? hp hparent).mp (ih (habove.imp_right And.left) hr)))

/-- A path that is found where no file is can be created, or it is a directory already. -/
theorem isDirectory_of_makeDirectory_error (hl : t.locate p = .ok (placeOf p)) (hclear : t.contentAt (placeOf p) = none)
    {e : FileError} (h : t.makeDirectory p = .error e) : t.isDirectory p = true := by
  rw [makeDirectory_of_locate hl] at h
  split_ifs at h with hsome
  refine isDirectory_iff.mpr ⟨_, hl, ?_⟩
  rw [contentAt] at hclear
  cases hget : t.get? (placeOf p) with
  | none =>
    rw [hget] at hsome
    cases hsome
  | some entry =>
    rw [hget] at hclear
    cases entry with
    | file content mode => cases hclear
    | directory => rfl

/-- Once the directories that a path goes through are made, it can be created itself where no file is in the way. -/
theorem exists_makeAlong_cons (hp : p.EndsInName) (hfits : p.Fits) (hclear : ∀ r ∈ way p, t.contentAt r = none)
    {paths : List Path} {v : FileTree} (hv : t.makeAlong paths = (.ok (), v))
    (hdirs : ∀ r ∈ through p, v.get? r = some .directory) : ∃ u, t.makeAlong (p :: paths) = (.ok (), u) := by
  have hadds : t.AddsDirectories v (paths.map placeOf) := by
    have h := addsDirectories_makeAlong t paths
    rwa [hv] at h
  have hend := hclear _ (placeOf_mem_way p)
  obtain ⟨-, e, u, herror, -⟩ | ⟨u, hu, hends⟩ := makeAlong_cons t p paths
  · cases hv.symm.trans herror
  · have hfound : u.locate p = .ok (placeOf p) ∧ u.contentAt (placeOf p) = none := by
      obtain ⟨rfl, htried⟩ | ⟨-, hpaths⟩ := hu
      · -- nothing had to be made, since the path was found at once
        refine ⟨(locate_of_clear hp hfits fun r hr => ?_).resolve_right fun h => htried ?_, hend⟩
        · exact hclear r (mem_way.mpr (.inl hr))
        · rw [makeDirectory, h]
          rfl
      · cases hv.symm.trans hpaths
        exact ⟨locate_of_directories hp hfits hdirs, (hadds.contentAt _).trans hend⟩
    obtain ⟨u', -, hout⟩ | ⟨-, hout⟩ | ⟨e, hmade, hnot, -⟩ := hends
    · exact ⟨u', hout⟩
    · exact ⟨u, hout⟩
    · rw [isDirectory_of_makeDirectory_error hfound.1 hfound.2 hmade] at hnot
      cases hnot

/-- Where no file is in the way, the directories of a path can be created. -/
theorem exists_makeAlong_upwardFrom (steps : Nat) (hp : p.IsStart ∨ p.EndsInName ∧ p.segments.length ≤ steps)
    (hfits : p.Fits) (hclear : ∀ r ∈ way p, t.contentAt r = none) :
    ∃ u, t.makeAlong (p.upwardFrom steps) = (.ok (), u) ∧ ∀ r ∈ way p, u.get? r = some .directory := by
  -- a path has more segments than the one it stands in, so the steps last until a start is reached
  induction steps generalizing p with
  | zero =>
    obtain hstart | ⟨-, hlength⟩ := hp
    · exact ⟨t, rfl, directory_of_isStart hstart t⟩
    · exact absurd (List.length_eq_zero_iff.mp (Nat.le_zero.mp hlength)) (Path.segments_ne_nil p)
  | succ n ih =>
    obtain hstart | ⟨hname, hlength⟩ := hp
    · refine ⟨t, ?_, directory_of_isStart hstart t⟩
      rcases upwardFrom_of_isStart hstart (n + 1) with hnil | ⟨rfl, hdot⟩
      · rw [hnil]
        rfl
      · rw [hdot]
        exact makeAlong_of_isDirectory (isDirectory_dot t) []
    · obtain ⟨above, hparent, habove⟩ := Path.exists_parent? hname
      have hway : ∀ r, r ∈ way above ↔ r ∈ through p := fun r => mem_way_of_parent? hname hparent
      have habove' := habove.imp_right fun h => And.intro h.1 (Nat.le_of_lt_succ (h.2.trans_le hlength))
      obtain ⟨v, hv, hdirs⟩ := ih habove' (hfits.parent hname hparent) fun r hr =>
        hclear r (mem_way.mpr (.inl ((hway r).mp hr)))
      obtain ⟨u, hu⟩ := exists_makeAlong_cons hname hfits hclear hv fun r hr => hdirs r ((hway r).mpr hr)
      rw [upwardFrom_succ hparent]
      exact ⟨u, hu, directory_of_isDirectory (isDirectory_of_makeAlong hu)⟩

end

end FileTree

end ToolPlugins
