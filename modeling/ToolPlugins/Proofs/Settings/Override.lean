import Mathlib
import ToolPlugins.Proofs.Result
import ToolPlugins.Proofs.Text.Trim
import ToolPlugins.Settings.Environment

/-!
What the variables of an environment do to settings. Each variable that is not blank decides the setting that it stands
for, and nothing else; so environments that are put in place one after the other come to one environment.
-/

namespace ToolPlugins

namespace Settings

/-- The setting of a variable is what a text says. -/
def Holds (s : Settings) (v : Variable) (text : String) : Prop :=
  match v with
  | .helpRoot => s.helpRoot = text
  | .exportRoot => s.exportRoot = text
  | .descriptorDirs => s.descriptorDirs = directories text
  | .context => DefinitionContext.ofText? text = some s.context
  | .host => s.host = some text
  | .strict => boolean? text = some s.strict

/-- Settings agree in the setting of a variable. -/
def AgreeIn (v : Variable) (s t : Settings) : Prop :=
  match v with
  | .helpRoot => t.helpRoot = s.helpRoot
  | .exportRoot => t.exportRoot = s.exportRoot
  | .descriptorDirs => t.descriptorDirs = s.descriptorDirs
  | .context => t.context = s.context
  | .host => t.host = s.host
  | .strict => t.strict = s.strict

/-- Settings agree in what no variable stands for. -/
structure AgreeElsewhere (s t : Settings) : Prop where
  createVersionRecords : t.createVersionRecords = s.createVersionRecords
  allowedTools : t.allowedTools = s.allowedTools
  blockedTools : t.blockedTools = s.blockedTools

/-- What an environment makes of the setting of a variable. -/
def Decides (env : Environment) (s t : Settings) (v : Variable) : Prop :=
  match env.value? v.name with
  | some text => t.Holds v text
  | none => AgreeIn v s t

section
variable {s s' t t' u : Settings} {v : Variable} {text : String} {env : Environment}

theorem AgreeIn.refl (v : Variable) (s : Settings) : AgreeIn v s s := by
  cases v <;> rfl

theorem AgreeIn.trans (h : AgreeIn v s t) (h' : AgreeIn v t u) : AgreeIn v s u := by
  cases v <;> exact Eq.trans h' h

theorem AgreeIn.symm (h : AgreeIn v s t) : AgreeIn v t s := by
  cases v <;> exact Eq.symm h

theorem AgreeElsewhere.refl (s : Settings) : AgreeElsewhere s s := ⟨rfl, rfl, rfl⟩

theorem AgreeElsewhere.trans (h : AgreeElsewhere s t) (h' : AgreeElsewhere t u) : AgreeElsewhere s u :=
  ⟨h'.1.trans h.1, h'.2.trans h.2, h'.3.trans h.3⟩

theorem AgreeElsewhere.symm (h : AgreeElsewhere s t) : AgreeElsewhere t s := ⟨h.1.symm, h.2.symm, h.3.symm⟩

theorem Holds.congr (h : s.Holds v text) (hagree : AgreeIn v s t) : t.Holds v text := by
  cases v
  case context => exact h.trans (congrArg some (Eq.symm hagree))
  case strict => exact h.trans (congrArg some (Eq.symm hagree))
  all_goals exact Eq.trans hagree h

theorem Holds.agreeIn (hs : s.Holds v text) (ht : t.Holds v text) : AgreeIn v s t := by
  cases v
  case context => exact Option.some.inj (ht.symm.trans hs)
  case strict => exact Option.some.inj (ht.symm.trans hs)
  all_goals exact Eq.trans ht (Eq.symm hs)

theorem eq_of_agreeIn (h : ∀ v, AgreeIn v s t) (helse : AgreeElsewhere s t) : t = s := by
  obtain ⟨hrecords, hallowed, hblocked⟩ := helse
  cases s
  cases t
  cases h .helpRoot
  cases h .exportRoot
  cases h .descriptorDirs
  cases h .context
  cases h .host
  cases h .strict
  cases hrecords
  cases hallowed
  cases hblocked
  rfl

/-! ### One variable -/

/-- Whether a text can be the value of a variable does not depend on the settings. -/
theorem exists_assign (h : u.Holds v text) (s : Settings) : ∃ t, s.assign v text = .ok t := by
  cases v
  case context =>
    have hcontext : DefinitionContext.ofText? text = some u.context := h
    exact ⟨{ s with context := u.context }, by rw [assign, hcontext]⟩
  case strict =>
    have hstrict : boolean? text = some u.strict := h
    exact ⟨{ s with strict := u.strict }, by rw [assign, hstrict]⟩
  all_goals exact ⟨_, rfl⟩

/-- A variable decides its own setting and leaves all else. -/
theorem of_assign (h : s.assign v text = .ok t) :
    t.Holds v text ∧ (∀ w, w ≠ v → AgreeIn w s t) ∧ AgreeElsewhere s t := by
  cases v with
  | context =>
    rw [assign] at h
    split at h
    · next hcontext =>
      cases h
      exact ⟨hcontext, fun w hw => by cases w <;> first | rfl | exact absurd rfl hw, rfl, rfl, rfl⟩
    · cases h
  | strict =>
    rw [assign] at h
    split at h
    · next hstrict =>
      cases h
      exact ⟨hstrict, fun w hw => by cases w <;> first | rfl | exact absurd rfl hw, rfl, rfl, rfl⟩
    · cases h
  | _ =>
    cases h
    exact ⟨rfl, fun w hw => by cases w <;> first | rfl | exact absurd rfl hw, rfl, rfl, rfl⟩

theorem overrideOne_of_some (h : env.value? v.name = some text) (s : Settings) : overrideOne env s v = s.assign v text := by
  rw [overrideOne, h]

theorem overrideOne_of_none (h : env.value? v.name = none) (s : Settings) : overrideOne env s v = .ok s := by
  rw [overrideOne, h]

theorem decides_iff_of_some (h : env.value? v.name = some text) : Decides env s t v ↔ t.Holds v text := by
  rw [Decides, h]

theorem decides_iff_of_none (h : env.value? v.name = none) : Decides env s t v ↔ AgreeIn v s t := by
  rw [Decides, h]

/-- One variable of the environment decides its own setting and leaves all else. -/
theorem of_overrideOne (h : overrideOne env s v = .ok t) :
    Decides env s t v ∧ (∀ w, w ≠ v → AgreeIn w s t) ∧ AgreeElsewhere s t := by
  cases hvalue : env.value? v.name with
  | some text =>
    rw [overrideOne_of_some hvalue] at h
    rw [decides_iff_of_some hvalue]
    exact of_assign h
  | none =>
    rw [overrideOne_of_none hvalue] at h
    rw [decides_iff_of_none hvalue]
    cases h
    exact ⟨.refl v s, fun w _ => .refl w s, .refl s⟩

theorem exists_overrideOne (h : Decides env t u v) (s : Settings) : ∃ m, overrideOne env s v = .ok m := by
  cases hvalue : env.value? v.name with
  | some text =>
    rw [overrideOne_of_some hvalue]
    exact exists_assign ((decides_iff_of_some hvalue).mp h) s
  | none => exact ⟨s, overrideOne_of_none hvalue s⟩

/-! ### All variables -/

/-- What is decided in two ways by the environment, or kept in both, is the same. -/
theorem Decides.agreeIn (h : Decides env s t v) (h' : Decides env s u v) : AgreeIn v t u := by
  cases hvalue : env.value? v.name with
  | some text => exact Holds.agreeIn ((decides_iff_of_some hvalue).mp h) ((decides_iff_of_some hvalue).mp h')
  | none => exact ((decides_iff_of_none hvalue).mp h).symm.trans ((decides_iff_of_none hvalue).mp h')

theorem Decides.congr (h : Decides env s t v) (hs : AgreeIn v s s') (ht : AgreeIn v t t') : Decides env s' t' v := by
  cases hvalue : env.value? v.name with
  | some text => exact (decides_iff_of_some hvalue).mpr (((decides_iff_of_some hvalue).mp h).congr ht)
  | none => exact (decides_iff_of_none hvalue).mpr ((hs.symm.trans ((decides_iff_of_none hvalue).mp h)).trans ht)

/-- The variables of a list, each once, are put in place just when each decides its own setting. -/
theorem foldlM_overrideOne_eq_ok_iff {vs : List Variable} (hnodup : vs.Nodup) :
    vs.foldlM (overrideOne env) s = .ok t ↔
      (∀ v ∈ vs, Decides env s t v) ∧ (∀ v ∉ vs, AgreeIn v s t) ∧ AgreeElsewhere s t := by
  induction vs generalizing s with
  | nil =>
    rw [List.foldlM_nil, pure_eq_ok_iff]
    constructor
    · rintro rfl
      exact ⟨fun v hv => (List.not_mem_nil hv).elim, fun v _ => .refl v s, .refl s⟩
    · rintro ⟨-, hkept, helse⟩
      exact (eq_of_agreeIn (fun v => hkept v List.not_mem_nil) helse).symm
  | cons first rest ih =>
    obtain ⟨hfirst, hrest⟩ := List.nodup_cons.mp hnodup
    rw [List.foldlM_cons, bind_eq_ok_iff]
    simp only [ih hrest]
    constructor
    · rintro ⟨m, hm, hdecides, hkept, helse⟩
      obtain ⟨hfirst', hothers, helse'⟩ := of_overrideOne hm
      refine ⟨fun v hv => ?_, fun v hv => ?_, helse'.trans helse⟩
      · by_cases hv' : v = first
        · subst hv'
          exact hfirst'.congr (.refl v s) (hkept v hfirst)
        · exact (hdecides v ((List.mem_cons.mp hv).resolve_left hv')).congr (hothers v hv').symm (.refl v t)
      · rw [List.mem_cons, not_or] at hv
        exact (hothers v hv.1).trans (hkept v hv.2)
    · rintro ⟨hdecides, hkept, helse⟩
      obtain ⟨m, hm⟩ := exists_overrideOne (hdecides first List.mem_cons_self) s
      obtain ⟨hfirst', hothers, helse'⟩ := of_overrideOne hm
      refine ⟨m, hm, fun v hv => ?_, fun v hv => ?_, helse'.symm.trans helse⟩
      · have hne : v ≠ first := fun heq => hfirst (heq ▸ hv)
        exact (hdecides v (List.mem_cons_of_mem _ hv)).congr (hothers v hne) (.refl v t)
      · by_cases hv' : v = first
        · subst hv'
          exact hfirst'.agreeIn (hdecides v List.mem_cons_self)
        · exact (hothers v hv').symm.trans (hkept v fun h => (List.mem_cons.mp h).elim hv' hv)

/-- What is put in place variable by variable, and what is left where one of them fails. -/
theorem overrideEach_eq_foldlM (vs : List Variable) :
    (overrideEach env vs s).1.map (fun () => (overrideEach env vs s).2) = vs.foldlM (overrideOne env) s := by
  induction vs generalizing s with
  | nil => rfl
  | cons first rest ih =>
    rw [overrideEach, List.foldlM_cons]
    cases overrideOne env s first with
    | ok m => exact ih
    | error f => rfl

theorem override_eq_foldlM (s : Settings) (env : Environment) :
    s.override env = Variable.all.foldlM (overrideOne env) s :=
  overrideEach_eq_foldlM Variable.all

theorem override_eq_ok_iff : s.override env = .ok t ↔ (∀ v, Decides env s t v) ∧ AgreeElsewhere s t := by
  have hall : ∀ v, v ∈ Variable.all := by
    intro v
    cases v <;> decide
  rw [override_eq_foldlM, foldlM_overrideOne_eq_ok_iff (by decide)]
  constructor
  · rintro ⟨hdecides, -, helse⟩
    exact ⟨fun v => hdecides v (hall v), helse⟩
  · rintro ⟨hdecides, helse⟩
    exact ⟨fun v _ => hdecides v, fun v hv => absurd (hall v) hv, helse⟩

/-! ### Environments that cannot be put in place -/

theorem assign_error {f : Failure} (h : s.assign v text = .error f) (t : Settings) : t.assign v text = .error f := by
  cases v with
  | context =>
    rw [assign] at h ⊢
    cases hcontext : DefinitionContext.ofText? text with
    | some context =>
      rw [hcontext] at h
      cases h
    | none =>
      rw [hcontext] at h
      exact h
  | strict =>
    rw [assign] at h ⊢
    cases hstrict : boolean? text with
    | some strict =>
      rw [hstrict] at h
      cases h
    | none =>
      rw [hstrict] at h
      exact h
  | _ => cases h

theorem overrideOne_error {f : Failure} (h : overrideOne env s v = .error f) (t : Settings) :
    overrideOne env t v = .error f := by
  cases hvalue : env.value? v.name with
  | some text =>
    rw [overrideOne_of_some hvalue] at h ⊢
    exact assign_error h t
  | none =>
    rw [overrideOne_of_none hvalue] at h
    cases h

/-- The first variable with a text that cannot be its value is the same whatever the settings are. -/
theorem foldlM_overrideOne_error {vs : List Variable} {f : Failure} (h : vs.foldlM (overrideOne env) s = .error f)
    (t : Settings) : vs.foldlM (overrideOne env) t = .error f := by
  induction vs generalizing s t with
  | nil => cases h
  | cons first rest ih =>
    rw [List.foldlM_cons] at h ⊢
    cases hone : overrideOne env s first with
    | error g =>
      rw [hone] at h
      rw [overrideOne_error hone t]
      exact h
    | ok m =>
      rw [hone] at h
      obtain ⟨m', hm'⟩ := exists_overrideOne (of_overrideOne hone).1 t
      rw [hm']
      exact ih h m'

theorem overrideEach_eq_error {vs : List Variable} {f : Failure} (h : overrideEach env vs s = (.error f, t)) :
    ∃ done v rest, vs = done ++ v :: rest ∧ done.foldlM (overrideOne env) s = .ok t ∧ overrideOne env t v = .error f := by
  induction vs generalizing s with
  | nil => cases h
  | cons first rest ih =>
    rw [overrideEach] at h
    cases hone : overrideOne env s first with
    | error g =>
      rw [hone] at h
      cases h
      exact ⟨[], first, rest, rfl, rfl, hone⟩
    | ok m =>
      rw [hone] at h
      obtain ⟨done, v, others, rfl, hdone, hv⟩ := ih h
      refine ⟨first :: done, v, others, rfl, ?_, hv⟩
      rw [List.foldlM_cons, hone]
      exact hdone

/-- When an environment cannot be put in place, the variables before the one at fault are in place, and no others. -/
theorem overrideInPlace_eq_error {f : Failure} (h : s.overrideInPlace env = (.error f, t)) :
    ∃ done v rest, Variable.all = done ++ v :: rest ∧ overrideOne env t v = .error f ∧
      (∀ w ∈ done, Decides env s t w) ∧ (∀ w ∉ done, AgreeIn w s t) ∧ AgreeElsewhere s t := by
  obtain ⟨done, v, rest, hall, hdone, hv⟩ := overrideEach_eq_error h
  have hnodup : (done ++ v :: rest).Nodup := hall ▸ (by decide : Variable.all.Nodup)
  exact ⟨done, v, rest, hall, hv, (foldlM_overrideOne_eq_ok_iff hnodup.of_append_left).mp hdone⟩

/-! ### Environments one after the other -/

/-- In the environment `both` each variable has its value of the second environment unless that is blank, and otherwise
    its value of the first. -/
def Joins (first second both : Environment) : Prop :=
  ∀ v : Variable, Table.get? both v.name =
    if (second.value? v.name).isSome then Table.get? second v.name else Table.get? first v.name

theorem Joins.value? {first second both : Environment} (h : Joins first second both) (v : Variable) :
    both.value? v.name = (second.value? v.name).or (first.value? v.name) := by
  rw [Environment.value?, h v]
  split_ifs with hsecond
  · rw [← Environment.value?, Option.or_of_isSome hsecond]
  · rw [← Environment.value?, Option.not_isSome_iff_eq_none.mp hsecond, Option.none_or]

theorem override_of_joins {first second both : Environment} (h : s.override first = .ok t)
    (h' : t.override second = .ok u) (hjoins : Joins first second both) : s.override both = .ok u := by
  obtain ⟨hfirst, helse⟩ := override_eq_ok_iff.mp h
  obtain ⟨hsecond, helse'⟩ := override_eq_ok_iff.mp h'
  refine override_eq_ok_iff.mpr ⟨fun v => ?_, helse.trans helse'⟩
  have hboth := hjoins.value? v
  cases hvalue : second.value? v.name with
  | some text =>
    rw [hvalue, Option.some_or] at hboth
    exact (decides_iff_of_some hboth).mpr ((decides_iff_of_some hvalue).mp (hsecond v))
  | none =>
    rw [hvalue, Option.none_or] at hboth
    have hkept := (decides_iff_of_none hvalue).mp (hsecond v)
    have hdecides : Decides both s t v := by
      rw [Decides, hboth]
      exact hfirst v
    exact hdecides.congr (.refl v s) hkept

theorem override_again (h : s.override env = .ok t) : t.override env = .ok t := by
  obtain ⟨hdecides, -⟩ := override_eq_ok_iff.mp h
  refine override_eq_ok_iff.mpr ⟨fun v => ?_, .refl t⟩
  cases hvalue : env.value? v.name with
  | some text => exact (decides_iff_of_some hvalue).mpr ((decides_iff_of_some hvalue).mp (hdecides v))
  | none => exact (decides_iff_of_none hvalue).mpr (.refl v t)

/-! ### Blank variables -/

theorem override_congr {env' : Environment} (h : ∀ v : Variable, env.value? v.name = env'.value? v.name) :
    s.override env = s.override env' := by
  have hone : overrideOne env = overrideOne env' := by
    funext s v
    rw [overrideOne, overrideOne, h v]
  rw [override_eq_foldlM, override_eq_foldlM, hone]

theorem value?_insert_of_isBlankText (env : Environment) {name value : String}
    (h : Text.isBlankText value.toList = true) (other : String) :
    Environment.value? (Table.insert env name value) other = Environment.value? (Table.erase env name) other := by
  rw [Environment.value?, Environment.value?, Table.get?_insert, Table.get?_erase]
  split_ifs
  · have hblank : Text.trimmed value = "" := by
      rw [Text.trimmed, Text.trim_eq_nil_of_isBlankText h, String.ofList_nil]
    rw [Option.map_some, hblank]
    rfl
  · rfl

end

/-! ### All of it -/

/-- What environments do to settings. -/
structure OverridesCompose (s : Settings) (env : Environment) : Prop where
  /-- Each variable that is there decides its setting, and all else is kept. -/
  decided : ∀ t, s.override env = .ok t ↔ (∀ v, Decides env s t v) ∧ AgreeElsewhere s t
  /-- A second environment after this one does what both do together. -/
  joined : ∀ t second u both, s.override env = .ok t → t.override second = .ok u → Joins env second both →
    s.override both = .ok u
  again : (s.override env).bind (fun t => t.override env) = s.override env
  /-- Whether an environment fails, and how, does not depend on the settings. -/
  failed : ∀ f, s.override env = .error f → ∀ t : Settings, t.override env = .error f
  /-- A blank value is as good as none. -/
  blank : ∀ name value, Text.isBlankText value.toList = true →
    s.override (Table.insert env name value) = s.override (Table.erase env name)

theorem overridesCompose (s : Settings) (env : Environment) : OverridesCompose s env where
  decided _ := override_eq_ok_iff
  joined _ _ _ _ h h' hjoins := override_of_joins h h' hjoins
  again := by
    cases h : s.override env with
    | ok t => exact override_again h
    | error f => rfl
  failed f h t := by
    rw [override_eq_foldlM] at h ⊢
    exact foldlM_overrideOne_error h t
  blank name value h := override_congr fun v => value?_insert_of_isBlankText env h v.name

/-- On the way from one host to another the first environment's own settings stay. -/
theorem overridesCompose_twoHosts :
    Settings.override {} [("TASKFORGE_CONTEXT", "worker"), ("TASKFORGE_HOST", "hpc1"), ("TASKFORGE_STRICT", "off")] =
      .ok { context := .worker, host := some "hpc1", strict := false } ∧
    Settings.override { context := .worker, host := some "hpc1", strict := false }
      [("TASKFORGE_HOST", " hpc2 "), ("TASKFORGE_STRICT", " ")] =
      .ok { context := .worker, host := some "hpc2", strict := false } ∧
    Settings.override {} [("TASKFORGE_CONTEXT", "worker"), ("TASKFORGE_HOST", " hpc2 "), ("TASKFORGE_STRICT", "off")] =
      .ok { context := .worker, host := some "hpc2", strict := false } := by
  have hfirst : Settings.override {} [("TASKFORGE_CONTEXT", "worker"), ("TASKFORGE_HOST", "hpc1"),
      ("TASKFORGE_STRICT", "off")] = .ok { context := .worker, host := some "hpc1", strict := false } := by rfl
  have hsecond : Settings.override { context := .worker, host := some "hpc1", strict := false }
      [("TASKFORGE_HOST", " hpc2 "), ("TASKFORGE_STRICT", " ")] =
      .ok { context := .worker, host := some "hpc2", strict := false } := by rfl
  refine ⟨hfirst, hsecond, (overridesCompose _ _).joined _ _ _ _ hfirst hsecond fun v => ?_⟩
  cases v <;> decide +kernel

end Settings

end ToolPlugins
