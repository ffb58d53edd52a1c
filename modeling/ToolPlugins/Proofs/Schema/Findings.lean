import Mathlib
import ToolPlugins.Proofs.Json.Pointer
import ToolPlugins.Validation

/-!
Where checks find something. The path of a finding leads to a part of the value that was checked, and a key that a
finding calls missing is missing from the object there. What is reported under a path comes from the checks that
look at the parts along it.
-/

namespace ToolPlugins
open Json

theorem ValidationError.pathOf_encode (path : List String) : pathOf (Pointer.encode (path.map String.toList)) = path := by
  rw [pathOf, Pointer.split_encode, List.map_map]
  exact List.map_id'' (fun _ => String.ofList_toList) path

namespace Finding

/-- The path of the error that a finding is reported as. -/
def errorPath (f : Finding) : List String :=
  match f.complaint with
  | .required key => f.path ++ [key]
  | _ => f.path

/-- What a finding says of a value is so. -/
structure Truthful (v : Json) (f : Finding) : Prop where
  exists_part : ∃ part, PartAt v f.path part
  missing : ∀ key, f.complaint = .required key →
    ∃ fields : Fields, f.value = .object fields ∧ PartAt v f.path (.object fields) ∧ fields.get? key = none

theorem errorPath_under (key : String) (f : Finding) : (f.under key).errorPath = key :: f.errorPath := by
  obtain ⟨path, value, complaint⟩ := f
  cases complaint <;> rfl

theorem pathOf_pointer (f : Finding) : ValidationError.pathOf f.pointer = f.path := ValidationError.pathOf_encode f.path

theorem ofFinding_eq (f : Finding) : ValidationError.ofFinding f = ⟨f.errorPath, f.message⟩ := by
  rw [ValidationError.ofFinding, errorPath, pathOf_pointer]
  cases f.complaint <;> rfl

section
variable {f : Finding} {fields : Fields} {items : List Json} {key : String} {i : Nat} {v : Json}

theorem errorPath_of_required (h : f.complaint = .required key) : f.errorPath = f.path ++ [key] := by
  rw [errorPath, h]

theorem message_of_required (h : f.complaint = .required key) :
    f.message = Complaint.quoted key ++ " is a required property" := by
  unfold message Complaint.message
  rw [h]

theorem errorPath_of_not_required (h : ∀ key, f.complaint ≠ .required key) : f.errorPath = f.path := by
  rw [errorPath]
  split
  · next key hkey => exact absurd hkey (h key)
  · rfl

theorem Truthful.under_field (h : f.Truthful v) (hv : fields.get? key = some v) :
    (f.under key).Truthful (.object fields) where
  exists_part := h.exists_part.imp fun _ => .field hv
  missing := fun k hk => (h.missing k hk).imp fun _ ⟨hvalue, hpart, hnone⟩ => ⟨hvalue, .field hv hpart, hnone⟩

theorem Truthful.under_item (h : f.Truthful v) (hv : items[i]? = some v) :
    (f.under (toString i)).Truthful (.array items) where
  exists_part := h.exists_part.imp fun _ => .item hv
  missing := fun k hk => (h.missing k hk).imp fun _ ⟨hvalue, hpart, hnone⟩ => ⟨hvalue, .item hv hpart, hnone⟩

end

/-! ### Findings by the path of their error -/

/-- The findings that are reported under a path. -/
def reportedAt (path : List String) (findings : List Finding) : List Finding :=
  findings.filter fun f => f.errorPath = path

section
variable {path : List String} {key other : String} {findings : List Finding}

theorem reportedAt_append (findings more : List Finding) :
    reportedAt path (findings ++ more) = reportedAt path findings ++ reportedAt path more := List.filter_append ..

theorem reportedAt_eq_nil (h : ∀ f ∈ findings, f.errorPath ≠ path) : reportedAt path findings = [] := by
  rw [reportedAt, List.filter_eq_nil_iff]
  simpa using h

theorem reportedAt_under : reportedAt (key :: path) (findings.map (under key)) = (reportedAt path findings).map (under key) := by
  rw [reportedAt, List.filter_map]
  congr 2
  funext f
  simp [errorPath_under]

theorem reportedAt_under_ne (h : other ≠ key) : reportedAt (key :: path) (findings.map (under other)) = [] := by
  refine reportedAt_eq_nil fun f hf => ?_
  obtain ⟨g, -, rfl⟩ := List.mem_map.mp hf
  rw [errorPath_under]
  exact fun heq => h (List.cons.inj heq).1

end

end Finding

namespace Check
open Finding

/-! ### Checks of a value as a whole -/

/-- A check that does not look at the parts of a value for themselves. -/
def IsWhole : Check → Prop
  | items _ => False
  | itemAt _ _ => False
  | property _ _ => False
  | _ => True

section
variable {v : Json} {f : Finding} {complaint : Complaint}

theorem eq_of_mem_demand {ok : Bool} (h : f ∈ demand v complaint ok) : ok = false ∧ f = ⟨[], v, complaint⟩ := by
  cases ok with
  | false => exact ⟨rfl, List.mem_singleton.mp h⟩
  | true => cases h

theorem eq_of_mem_demandText {ok : List Char → Bool} (h : f ∈ demandText v complaint ok) : f = ⟨[], v, complaint⟩ := by
  cases v with
  | string s => exact (eq_of_mem_demand h).2
  | _ => cases h

theorem exists_of_mem_demandPattern {source : String} {test? : Option PatternTest} (h : f ∈ demandPattern source test? v) :
    f = ⟨[], v, .noMatch source⟩ ∨ ∃ reason, f = ⟨[], v, .undecided reason⟩ := by
  unfold demandPattern at h
  split at h
  · split at h
    · exact .inl (eq_of_mem_demand h).2
    · exact .inr ⟨_, List.mem_singleton.mp h⟩
  · cases h

theorem eq_of_mem_demandNumber {ok : Json.Number → Bool} (h : f ∈ demandNumber v complaint ok) :
    f = ⟨[], v, complaint⟩ := by
  cases v with
  | number n => exact (eq_of_mem_demand h).2
  | _ => cases h

theorem eq_of_mem_demandItems {ok : Nat → Bool} (h : f ∈ demandItems v complaint ok) : f = ⟨[], v, complaint⟩ := by
  cases v with
  | array items => exact (eq_of_mem_demand h).2
  | _ => cases h

theorem eq_of_mem_demandFields {ok : Fields → Bool} (h : f ∈ demandFields v complaint ok) :
    ∃ fields, v = .object fields ∧ ok fields = false ∧ f = ⟨[], v, complaint⟩ := by
  cases v with
  | object fields => exact ⟨fields, rfl, eq_of_mem_demand h⟩
  | _ => cases h

theorem eq_of_mem_required {key : String} (h : f ∈ run (.required key) v) :
    ∃ fields : Fields, v = .object fields ∧ fields.get? key = none ∧ f = ⟨[], v, .required key⟩ := by
  obtain ⟨fields, rfl, hnone, rfl⟩ := eq_of_mem_demandFields h
  exact ⟨fields, rfl, Option.not_isSome_iff_eq_none.mp (by simp [hnone]), rfl⟩

/-- What a check of a whole value finds is about this value, and a key is missing only where it is asked for. -/
theorem whole_of_mem_run {check : Check} (hwhole : check.IsWhole) (h : f ∈ run check v) :
    f.path = [] ∧ ∀ key, f.complaint = .required key → check = .required key := by
  have of_complaint : ∀ {w : Json} {complaint : Complaint}, f = ⟨[], w, complaint⟩ →
      (∀ key, complaint = .required key → check = .required key) →
      f.path = [] ∧ ∀ key, f.complaint = .required key → check = .required key := by
    rintro w complaint rfl hkey
    exact ⟨rfl, hkey⟩
  cases check with
  | items checks => cases hwhole
  | itemAt index checks => cases hwhole
  | property key checks => cases hwhole
  | required key => exact of_complaint (eq_of_mem_required h).choose_spec.2.2 (by simp)
  | bare =>
    cases v with
    | object fields =>
      cases fields with
      | nil => cases h
      | cons field rest => exact of_complaint (List.mem_singleton.mp h) (by simp)
    | _ => cases h
  | closed keys =>
    cases v with
    | object fields => exact of_complaint (eq_of_mem_demand h).2 (by simp)
    | _ => cases h
  | exclusiveMaximum limit => exact of_complaint (eq_of_mem_demandNumber h) (by simp)
  | exclusiveMinimum limit => exact of_complaint (eq_of_mem_demandNumber h) (by simp)
  | maximum limit => exact of_complaint (eq_of_mem_demandNumber h) (by simp)
  | minimum limit => exact of_complaint (eq_of_mem_demandNumber h) (by simp)
  | maxItems limit =>
    rw [run] at h
    exact of_complaint (eq_of_mem_demandItems h) (by simp)
  | minItems limit =>
    rw [run] at h
    exact of_complaint (eq_of_mem_demandItems h) (by simp)
  | maxLength limit =>
    rw [run] at h
    exact of_complaint (eq_of_mem_demandText h) (by simp)
  | minLength limit =>
    rw [run] at h
    exact of_complaint (eq_of_mem_demandText h) (by simp)
  | pattern source test? =>
    obtain hf | ⟨reason, hf⟩ := exists_of_mem_demandPattern h
    · exact of_complaint hf (by simp)
    · exact of_complaint hf (by simp)
  | maxProperties limit =>
    rw [run] at h
    exact of_complaint (eq_of_mem_demandFields h).choose_spec.2.2 (by simp)
  | minProperties limit =>
    rw [run] at h
    exact of_complaint (eq_of_mem_demandFields h).choose_spec.2.2 (by simp)
  | refuse => exact of_complaint (eq_of_mem_demand h).2 (by simp)
  | constant expected => exact of_complaint (eq_of_mem_demand h).2 (by simp)
  | choice values => exact of_complaint (eq_of_mem_demand h).2 (by simp)
  | type t => exact of_complaint (eq_of_mem_demand h).2 (by simp)
  | types ts => exact of_complaint (eq_of_mem_demand h).2 (by simp)

theorem truthful_of_whole {check : Check} (hwhole : check.IsWhole) (h : f ∈ run check v) : f.Truthful v := by
  obtain ⟨hpath, hkey⟩ := whole_of_mem_run hwhole h
  refine ⟨⟨v, hpath ▸ .here v⟩, fun key hmissing => ?_⟩
  rw [hkey key hmissing] at h
  obtain ⟨fields, rfl, hnone, rfl⟩ := eq_of_mem_required h
  exact ⟨fields, rfl, .here _, hnone⟩

theorem length_errorPath_of_whole {check : Check} (hwhole : check.IsWhole) (h : f ∈ run check v) :
    f.errorPath.length ≤ 1 := by
  have hpath := (whole_of_mem_run hwhole h).1
  rw [errorPath]
  split <;> simp [hpath]

end

/-! ### Findings are truthful -/

mutual

theorem truthful_of_mem_run (check : Check) (v : Json) : ∀ f ∈ run check v, f.Truthful v := by
  intro f h
  cases check with
  | items checks =>
    cases v with
    | array items =>
      obtain ⟨l, hl, hf⟩ := List.mem_flatten.mp h
      obtain ⟨i, hi, rfl⟩ := List.mem_mapIdx.mp hl
      obtain ⟨g, hg, rfl⟩ := List.mem_map.mp hf
      exact (truthful_of_mem_runAll checks _ g hg).under_item (List.getElem?_eq_getElem hi)
    | _ => cases h
  | itemAt index checks =>
    cases v with
    | array items =>
      rw [run, inItem] at h
      cases hitem : items[index]? with
      | none =>
        rw [hitem] at h
        cases h
      | some item =>
        rw [hitem] at h
        obtain ⟨g, hg, rfl⟩ := List.mem_map.mp h
        exact (truthful_of_mem_runAll checks item g hg).under_item hitem
    | _ => cases h
  | property key checks =>
    cases v with
    | object fields =>
      rw [run, inField] at h
      cases hfield : Json.get? key (.object fields) with
      | none =>
        rw [hfield] at h
        cases h
      | some field =>
        rw [hfield] at h
        obtain ⟨g, hg, rfl⟩ := List.mem_map.mp h
        exact (truthful_of_mem_runAll checks field g hg).under_field hfield
    | _ => cases h
  | _ => exact truthful_of_whole (by trivial) h

theorem truthful_of_mem_runAll (checks : List Check) (v : Json) : ∀ f ∈ runAll checks v, f.Truthful v := by
  intro f h
  cases checks with
  | nil => cases h
  | cons check rest =>
    rcases List.mem_append.mp h with h | h
    · exact truthful_of_mem_run check v f h
    · exact truthful_of_mem_runAll rest v f h

end

/-! ### What is reported of a part -/

/-- The key that a check asks for. -/
def requiredKey? : Check → Option String
  | required key => some key
  | _ => none

/-- The checks of the field under a key. -/
def ofField? (key : String) : Check → Option (List Check)
  | property other checks => if other = key then some checks else none
  | _ => none

/-- The checks of the item at an index. -/
def ofItem? (index : Nat) : Check → Option (List Check)
  | items checks => some checks
  | itemAt other checks => if other = index then some checks else none
  | _ => none

theorem IsWhole.ofField?_eq_none {check : Check} (h : check.IsWhole) (key : String) : check.ofField? key = none := by
  cases check with
  | property other checks => cases h
  | _ => rfl

theorem IsWhole.ofItem?_eq_none {check : Check} (h : check.IsWhole) (index : Nat) : check.ofItem? index = none := by
  cases check with
  | items checks => cases h
  | itemAt other checks => cases h
  | _ => rfl

section
variable {fields : Fields} {items : List Json} {key : String} {i : Nat} {v : Json} {path : List String}

theorem reportedAt_whole {check : Check} (hwhole : check.IsWhole) (hpath : path ≠ []) :
    reportedAt (key :: path) (run check v) = [] := by
  refine reportedAt_eq_nil fun f hf heq => ?_
  have hlength := length_errorPath_of_whole hwhole hf
  rw [heq, List.length_cons] at hlength
  exact hpath (List.length_eq_zero_iff.mp (by omega))

theorem reportedAt_run_field (hv : fields.get? key = some v) (hpath : path ≠ []) (check : Check) :
    reportedAt (key :: path) (run check (.object fields)) =
      ((check.ofField? key).toList.flatMap fun checks => reportedAt path (runAll checks v)).map (under key) := by
  cases check with
  | property other checks =>
    rw [run, inField, ofField?]
    by_cases heq : other = key
    · subst heq
      have hv' : Json.get? other (.object fields) = some v := hv
      rw [hv', if_pos rfl]
      simp only [reportedAt_under, Option.toList_some, List.flatMap_singleton]
    · rw [if_neg heq]
      cases Json.get? other (.object fields) with
      | none => rfl
      | some field => exact reportedAt_under_ne heq
  | items checks => rfl
  | itemAt index checks => rfl
  | _ => exact reportedAt_whole (by trivial) hpath

theorem reportedAt_flatten_mapIdx {find : Nat → Json → List Finding} {target : List String} (hv : items[i]? = some v)
    (hother : ∀ j item, j ≠ i → reportedAt target (find j item) = []) :
    reportedAt target (items.mapIdx find).flatten = reportedAt target (find i v) := by
  induction items generalizing find i with
  | nil => cases hv
  | cons item rest ih =>
    rw [List.mapIdx_cons, List.flatten_cons, reportedAt_append]
    cases i with
    | zero =>
      cases hv
      have hrest : reportedAt target (rest.mapIdx fun j => find (j + 1)).flatten = [] := by
        refine reportedAt_eq_nil fun f hf heq => ?_
        obtain ⟨l, hl, hf⟩ := List.mem_flatten.mp hf
        obtain ⟨j, hj, rfl⟩ := List.mem_mapIdx.mp hl
        have hmem : f ∈ reportedAt target (find (j + 1) rest[j]) := List.mem_filter.mpr ⟨hf, by simp [heq]⟩
        rw [hother (j + 1) _ (Nat.succ_ne_zero j)] at hmem
        cases hmem
      rw [hrest, List.append_nil]
    | succ i =>
      rw [hother 0 item (Nat.succ_ne_zero i).symm, List.nil_append]
      exact ih hv fun j item hj => hother (j + 1) item fun h => hj (Nat.succ.inj h)

theorem reportedAt_run_item (hv : items[i]? = some v) (hpath : path ≠ []) (check : Check) :
    reportedAt (toString i :: path) (run check (.array items)) =
      ((check.ofItem? i).toList.flatMap fun checks => reportedAt path (runAll checks v)).map (under (toString i)) := by
  have hne : ∀ j, j ≠ i → toString j ≠ toString i := fun j hj h => hj (Nat.repr_inj.mp h)
  cases check with
  | items checks =>
    rw [run, eachItem, reportedAt_flatten_mapIdx hv fun j item hj => reportedAt_under_ne (hne j hj)]
    simp only [reportedAt_under, ofItem?, Option.toList_some, List.flatMap_singleton]
  | itemAt index checks =>
    rw [run, inItem, ofItem?]
    by_cases heq : index = i
    · subst heq
      rw [hv, if_pos rfl]
      simp only [reportedAt_under, Option.toList_some, List.flatMap_singleton]
    · rw [if_neg heq]
      cases items[index]? with
      | none => rfl
      | some item => exact reportedAt_under_ne (hne index heq)
  | property other checks => rfl
  | _ => exact reportedAt_whole (by trivial) hpath

/-- If one check of a list looks at a part, what is reported there was found by this one. -/
theorem reportedAt_part {part : Json} {select : Check → Option (List Check)} {checks inner : List Check}
    (h : ∀ check, reportedAt (key :: path) (run check v) =
      ((select check).toList.flatMap fun checks => reportedAt path (runAll checks part)).map (under key))
    (hselect : checks.filterMap select = [inner]) :
    reportedAt (key :: path) (runAll checks v) = (reportedAt path (runAll inner part)).map (under key) := by
  have hall : reportedAt (key :: path) (runAll checks v) =
      ((checks.filterMap select).flatMap fun checks => reportedAt path (runAll checks part)).map (under key) := by
    clear hselect
    induction checks with
    | nil => rfl
    | cons check rest ih =>
      rw [runAll, reportedAt_append, ih, h]
      cases hcheck : select check with
      | none => rw [List.filterMap_cons_none hcheck, Option.toList_none, List.flatMap_nil, List.map_nil, List.nil_append]
      | some inner =>
        rw [List.filterMap_cons_some hcheck, Option.toList_some, List.flatMap_singleton, List.flatMap_cons, List.map_append]
  rw [hall, hselect, List.flatMap_singleton]

/-- Under a key that an object does not have, nothing is reported but that it is missing. -/
theorem eq_required_of_errorPath (hkey : fields.get? key = none) {check : Check} {f : Finding}
    (hf : f ∈ run check (.object fields)) (hpath : f.errorPath = [key]) : check = .required key := by
  have of_whole : check.IsWhole → check = .required key := by
    intro hwhole
    obtain ⟨hnil, hrequired⟩ := whole_of_mem_run hwhole hf
    rw [errorPath, hnil] at hpath
    split at hpath
    · next k hk =>
      rw [hrequired k hk]
      exact congrArg required (List.singleton_inj.mp hpath)
    · cases hpath
  cases check with
  | property other checks =>
    rw [run, inField] at hf
    cases hfield : Json.get? other (.object fields) with
    | none =>
      rw [hfield] at hf
      cases hf
    | some field =>
      rw [hfield] at hf
      obtain ⟨g, -, rfl⟩ := List.mem_map.mp hf
      rw [errorPath_under] at hpath
      rw [(List.cons.inj hpath).1] at hfield
      cases hkey.symm.trans hfield
  | items checks => cases hf
  | itemAt index checks => cases hf
  | _ => exact of_whole (by trivial)

/-- A key that an object does not have is reported once for each time it is asked for. -/
theorem reportedAt_missing (hkey : fields.get? key = none) (checks : List Check) :
    reportedAt [key] (runAll checks (.object fields)) =
      List.replicate ((checks.filterMap requiredKey?).count key) ⟨[], .object fields, .required key⟩ := by
  induction checks with
  | nil => rfl
  | cons check rest ih =>
    rw [runAll, reportedAt_append, ih]
    by_cases hrequired : check = .required key
    · subst hrequired
      have hfound : run (.required key) (.object fields) = [⟨[], .object fields, .required key⟩] := by
        rw [run, demandFields, hkey]
        rfl
      have hkeys : (required key :: rest).filterMap requiredKey? = key :: rest.filterMap requiredKey? := rfl
      rw [hfound, hkeys, List.count_cons_self, List.replicate_succ]
      simp [reportedAt, errorPath]
    · have hnone : reportedAt [key] (run check (.object fields)) = [] :=
        reportedAt_eq_nil fun f hf hpath => hrequired (eq_required_of_errorPath hkey hf hpath)
      have hcount : ((check :: rest).filterMap requiredKey?).count key = (rest.filterMap requiredKey?).count key := by
        cases check with
        | required other =>
          have hne : other ≠ key := fun h => hrequired (congrArg required h)
          exact List.count_cons_of_ne hne
        | _ => rfl
      rw [hnone, hcount, List.nil_append]

end

end Check

end ToolPlugins
