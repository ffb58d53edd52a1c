import Mathlib
import ToolPlugins.Proofs.Bootstrap.Verdict
import ToolPlugins.Proofs.Discovery.Scan
import ToolPlugins.Proofs.Installation.Ladder

/-!
The report of a bootstrap. Every descriptor that is found is in it once, and every version that it says was
integrated can be reached from that moment on: under one identifier either all tasks are versions of one switcher,
or all of them have the same version.
-/

namespace ToolPlugins

namespace Bootstrap

variable {σ : Type}

/-- The descriptors that are integrated, in the order in which they are found. -/
def candidates (w : Installation σ) (dirs : List Path) (permitted : String → Bool) : List FoundDescriptor :=
  (Discovery.discover w.files dirs).1.filter fun f => permitted f.name

/-- A bootstrap before its first descriptor: those that are not permitted are skipped. -/
def start (w : Installation σ) (dirs : List Path) (permitted : String → Bool) : BootstrapRun σ where
  report :=
    { skipped := ((Discovery.discover w.files dirs).1.filter fun f => !permitted f.name).map
        FoundDescriptor.notPermitted }
  warnings := (Discovery.discover w.files dirs).2
  after := w

variable [ToolStore σ]

theorem bootstrap_eq_foldl (w : Installation σ) (schema : Schema) (i : Integrator) (dirs : List Path)
    (options : BootstrapOptions) (permitted : String → Bool) :
    w.bootstrap schema i dirs options permitted =
      (candidates w dirs permitted).foldl (step schema i options (candidates w dirs permitted))
        (start w dirs permitted) := rfl

/-- Where the files of the installation answer themselves, no directory is refused. -/
theorem bootstrapBy_view (w : Installation σ) (schema : Schema) (i : Integrator) (dirs : List Path)
    (options : BootstrapOptions) (permitted : String → Bool) :
    w.bootstrapBy w.files schema i dirs options permitted =
      let run := w.bootstrap schema i dirs options permitted
      ⟨.ok run.report, run.warnings, run.after⟩ := by
  rw [Installation.bootstrapBy, Discovery.scan_view]
  rfl

/-- A directory that is refused ends a bootstrap before anything is integrated. -/
theorem bootstrapBy_of_refused {files : FileView} {before rest : List Path} {dir : Path} {e : Failure}
    (h : ∀ d ∈ before, ∀ e, ¬files.Refuses d e) (hdir : files.Refuses dir e) (w : Installation σ) (schema : Schema)
    (i : Integrator) (options : BootstrapOptions) (permitted : String → Bool) :
    w.bootstrapBy files schema i (before ++ dir :: rest) options permitted =
      ⟨.error e, before.flatMap (Discovery.warningsIn files), w⟩ := by
  rw [Installation.bootstrapBy, Discovery.scan_of_refused h hdir]

/-- The entry of the report on a descriptor that was integrated. -/
def integratedTool? : FoundDescriptor × Result LoadedTask → Option IntegratedTool
  | (f, .ok task) => some ⟨task.identifier, task.version, task.typeName, f.path⟩
  | (_, .error _) => none

/-- The entry of the report on a descriptor that failed. -/
def failedDescriptor? : FoundDescriptor × Result LoadedTask → Option SkippedDescriptor
  | (_, .ok _) => none
  | (f, .error e) => some ⟨f.path, e.message⟩

section
variable (schema : Schema) (i : Integrator) (options : BootstrapOptions) (all : List FoundDescriptor)

/-- The results of descriptors integrated one after the other. -/
def results (w : Installation σ) : List FoundDescriptor → List (FoundDescriptor × Result LoadedTask)
  | [] => []
  | f :: rest =>
    (f, (integrateOne schema i options all w f).result) ::
      results (integrateOne schema i options all w f).after rest

/-- The installation with descriptors integrated one after the other. -/
def afterAll (w : Installation σ) (l : List FoundDescriptor) : Installation σ :=
  l.foldl (fun w f => (integrateOne schema i options all w f).after) w

end

section
variable {schema : Schema} {i : Integrator} {options : BootstrapOptions} {all : List FoundDescriptor}

theorem map_fst_results (w : Installation σ) (l : List FoundDescriptor) :
    (results schema i options all w l).map (·.1) = l := by
  induction l generalizing w with
  | nil => rfl
  | cons f rest ih => rw [results, List.map_cons, ih]

theorem step_eq (run : BootstrapRun σ) (f : FoundDescriptor) :
    (step schema i options all run f).report.integrated =
        run.report.integrated ++
          (integratedTool? (f, (integrateOne schema i options all run.after f).result)).toList ∧
      (step schema i options all run f).report.skipped =
        run.report.skipped ++
          (failedDescriptor? (f, (integrateOne schema i options all run.after f).result)).toList ∧
      (step schema i options all run f).after = (integrateOne schema i options all run.after f).after := by
  rw [step]
  cases (integrateOne schema i options all run.after f).result with
  | ok task => exact ⟨rfl, (List.append_nil _).symm, rfl⟩
  | error e => exact ⟨(List.append_nil _).symm, rfl, rfl⟩

theorem foldl_step_eq (run : BootstrapRun σ) (l : List FoundDescriptor) :
    (l.foldl (step schema i options all) run).report.integrated =
        run.report.integrated ++ (results schema i options all run.after l).filterMap integratedTool? ∧
      (l.foldl (step schema i options all) run).report.skipped =
        run.report.skipped ++ (results schema i options all run.after l).filterMap failedDescriptor? ∧
      (l.foldl (step schema i options all) run).after = afterAll schema i options all run.after l := by
  have hcons : ∀ {β : Type} (g : FoundDescriptor × Result LoadedTask → Option β) (x) (rest),
      (x :: rest).filterMap g = (g x).toList ++ rest.filterMap g := by
    intro β g x rest
    rw [List.filterMap_cons]
    cases g x with
    | none => rfl
    | some b => rfl
  induction l generalizing run with
  | nil => exact ⟨(List.append_nil _).symm, (List.append_nil _).symm, rfl⟩
  | cons f rest ih =>
    obtain ⟨hintegrated, hskipped, hafter⟩ := @step_eq _ _ schema i options all run f
    obtain ⟨ih₁, ih₂, ih₃⟩ := ih (step schema i options all run f)
    rw [hintegrated, hafter] at ih₁
    rw [hskipped, hafter] at ih₂
    rw [hafter] at ih₃
    refine ⟨?_, ?_, ?_⟩
    · rw [List.foldl_cons, ih₁, results, hcons, List.append_assoc]
    · rw [List.foldl_cons, ih₂, results, hcons, List.append_assoc]
    · rw [List.foldl_cons, ih₃]
      rfl

theorem perm_paths (rs : List (FoundDescriptor × Result LoadedTask)) :
    (rs.map fun p => p.1.path).Perm
      ((rs.filterMap integratedTool?).map (·.path) ++ (rs.filterMap failedDescriptor?).map (·.path)) := by
  induction rs with
  | nil => exact .refl _
  | cons p rest ih =>
    obtain ⟨f, result⟩ := p
    cases result with
    | ok task => exact ih.cons f.path
    | error e => exact (ih.cons f.path).trans List.perm_middle.symm

/-- A descriptor with a result was registered if it could be, and then the result names its task. -/
theorem mem_results {w : Installation σ} {l : List FoundDescriptor} {p : FoundDescriptor × Result LoadedTask}
    (hp : p ∈ results schema i options all w l) {task : LoadedTask} (hok : p.2 = .ok task) :
    p.1 ∈ l ∧ (∃ plugin, verdict schema i options.mode p.1.descriptor = .ok plugin) ∧
      task.identifier = p.1.identifier ∧ task.version = p.1.version ∧
      task.typeName = p.1.typeName (isMultiVersion options all p.1.identifier) := by
  induction l generalizing w with
  | nil => cases hp
  | cons f rest ih =>
    rw [results] at hp
    rcases List.mem_cons.mp hp with rfl | hp
    · cases hverdict : verdict schema i options.mode f.descriptor with
      | error e =>
        rw [(integrateOne_of_error hverdict).1] at hok
        cases hok
      | ok plugin =>
        obtain rfl := result_integrateOne hverdict hok
        exact ⟨List.mem_cons_self, ⟨plugin, rfl⟩, taskOf_of_verdict hverdict _ _⟩
    · obtain ⟨hmem, hrest⟩ := ih hp
      exact ⟨List.mem_cons_of_mem f hmem, hrest⟩

/-! ### Reachability -/

theorem one_lt_length_eraseDups_iff {l : List String} : 1 < l.eraseDups.length ↔ ∃ a ∈ l, ∃ b ∈ l, a ≠ b := by
  cases l with
  | nil => simp
  | cons first rest =>
    rw [List.eraseDups_cons, List.length_cons, Nat.lt_add_left_iff_pos, List.length_pos_iff_exists_mem]
    constructor
    · rintro ⟨b, hb⟩
      rw [List.mem_eraseDups, List.mem_filter] at hb
      have hne : b ≠ first := by simpa using hb.2
      exact ⟨first, List.mem_cons_self, b, List.mem_cons_of_mem first hb.1, hne.symm⟩
    · rintro ⟨a, ha, b, hb, hne⟩
      have hother : ∃ c ∈ first :: rest, c ≠ first := by
        by_cases hfirst : a = first
        · exact ⟨b, hb, fun h => hne (hfirst.trans h.symm)⟩
        · exact ⟨a, ha, hfirst⟩
      obtain ⟨c, hc, hne⟩ := hother
      refine ⟨c, ?_⟩
      rw [List.mem_eraseDups, List.mem_filter]
      exact ⟨(List.mem_cons.mp hc).resolve_left hne, by simpa using hne⟩

/-- An identifier occurs with more than one version. -/
def SeveralVersions (all : List FoundDescriptor) (identifier : String) : Prop :=
  ∃ f ∈ all, ∃ g ∈ all, f.identifier = identifier ∧ g.identifier = identifier ∧ f.version ≠ g.version

theorem isMultiVersion_iff {identifier : String} :
    isMultiVersion options all identifier = true ↔
      options.forceMultiVersion = true ∨ SeveralVersions all identifier := by
  rw [isMultiVersion, Bool.or_eq_true, decide_eq_true_iff, versionsOf, one_lt_length_eraseDups_iff]
  refine or_congr_right ?_
  constructor
  · rintro ⟨_, ha, _, hb, hne⟩
    obtain ⟨f, hf, rfl⟩ := List.mem_map.mp ha
    obtain ⟨g, hg, rfl⟩ := List.mem_map.mp hb
    rw [List.mem_filter, beq_iff_eq] at hf hg
    exact ⟨f, hf.1, g, hg.1, hf.2, hg.2, hne⟩
  · rintro ⟨f, hf, g, hg, hfid, hgid, hne⟩
    exact ⟨_, List.mem_map_of_mem (List.mem_filter.mpr ⟨hf, beq_iff_eq.mpr hfid⟩), _,
      List.mem_map_of_mem (List.mem_filter.mpr ⟨hg, beq_iff_eq.mpr hgid⟩), hne⟩

/-- Where an identifier is not multi-version, all its candidates have one version. -/
theorem version_eq_of_isMultiVersion {f g : FoundDescriptor} (hf : f ∈ all) (hg : g ∈ all)
    (hid : f.identifier = g.identifier) (hnot : isMultiVersion options all f.identifier = false) :
    f.version = g.version := by
  by_contra hne
  have hmulti : isMultiVersion options all f.identifier = true :=
    isMultiVersion_iff.mpr (.inr ⟨f, hf, g, hg, rfl, hid.symm, hne⟩)
  cases hnot.symm.trans hmulti

end

end Bootstrap

/-! ### What a registry offers -/

namespace Registry

/-- A registry leads to a task with an identifier, a version and a type name. -/
def Offers (r : Registry) (identifier version typeName : String) (multiVersion : Bool) : Prop :=
  ∃ task, task.identifier = identifier ∧ task.version = version ∧ task.typeName = typeName ∧ r.LeadsTo task multiVersion

/-- An identifier leads to one task of a version and a type name, or to a switcher with such a task as that
    version. -/
def Reaches (r : Registry) (identifier version typeName : String) : Prop :=
  (∃ task, r.lookup identifier = some (.generic task) ∧ task.version = version ∧ task.typeName = typeName) ∨
    ∃ task, r.HasVersion identifier version task ∧ task.version = version ∧ task.typeName = typeName

theorem Offers.reaches {r : Registry} {identifier version typeName : String} {multiVersion : Bool}
    (h : r.Offers identifier version typeName multiVersion) : r.Reaches identifier version typeName := by
  obtain ⟨task, rfl, rfl, rfl, hleads⟩ := h
  cases multiVersion with
  | false => exact .inl ⟨task, hleads, rfl, rfl⟩
  | true => exact .inr ⟨task, hleads, rfl, rfl⟩

/-- A task that is registered takes nothing away that was offered in the same way: of its own identifier it
    replaces its own version only, or there is no other version. -/
theorem Offers.changed {r : Registry} (hr : r.Sound) {identifier version typeName : String} {multi multiVersion : Bool}
    (h : r.Offers identifier version typeName multi) {task : LoadedTask}
    (hsame : task.identifier = identifier → multiVersion = multi ∧ (multi = false → task.version = version) ∧
      (task.version = version → task.typeName = typeName)) :
    (r.changed (.ofTask task multiVersion)).Offers identifier version typeName multi := by
  obtain ⟨other, rfl, rfl, rfl, hleads⟩ := h
  by_cases hid : task.identifier = other.identifier
  · obtain ⟨rfl, hone, htype⟩ := hsame hid
    by_cases hversion : task.version = other.version
    · exact ⟨task, hid, hversion, htype hversion, leadsTo_changed hr task multiVersion⟩
    · cases multiVersion with
      | false => exact absurd (hone rfl) hversion
      | true =>
        have hkept : (r.changed (.ofTask task true)).HasVersion other.identifier other.version other :=
          HasVersion.changed hr hleads hid (Ne.symm hversion)
        exact ⟨other, rfl, rfl, rfl, hkept⟩
  · have hkept := sameUnder_changed hr task multiVersion (Ne.symm hid)
    refine ⟨other, rfl, rfl, rfl, ?_⟩
    cases multi with
    | false => exact hkept.lookup.trans hleads
    | true => exact hkept.hasVersion hleads

end Registry

namespace Bootstrap

variable {σ : Type} [ToolStore σ]

section
variable {schema : Schema} {i : Integrator} {options : BootstrapOptions} {all : List FoundDescriptor}

/-- The registry offers what a descriptor is integrated as. -/
def Offered (options : BootstrapOptions) (all : List FoundDescriptor) (r : Registry) (f : FoundDescriptor) : Prop :=
  r.Offers f.identifier f.version (f.typeName (isMultiVersion options all f.identifier))
    (isMultiVersion options all f.identifier)

theorem sound_integrateOne {w : Installation σ} (hw : w.registry.Sound) (f : FoundDescriptor) :
    (integrateOne schema i options all w f).after.registry.Sound := by
  cases hverdict : verdict schema i options.mode f.descriptor with
  | error e =>
    rw [(integrateOne_of_error hverdict).2]
    exact hw
  | ok plugin =>
    rw [registry_integrateOne hverdict]
    exact hw.changed _

theorem offered_self {w : Installation σ} (hw : w.registry.Sound) {f : FoundDescriptor} {plugin : GeneratedPlugin}
    (h : verdict schema i options.mode f.descriptor = .ok plugin) :
    Offered options all (integrateOne schema i options all w f).after.registry f := by
  rw [registry_integrateOne h]
  obtain ⟨hid, hversion, htype⟩ := taskOf_of_verdict h w.loaded (isMultiVersion options all f.identifier)
  exact ⟨_, hid, hversion, htype, Registry.leadsTo_changed hw _ _⟩

/-- What one candidate is integrated as is still offered after another one was integrated. -/
theorem Offered.integrateOne {w : Installation σ} (hw : w.registry.Sound) {f g : FoundDescriptor} (hf : f ∈ all)
    (hg : g ∈ all) (h : Offered options all w.registry f) :
    Offered options all (integrateOne schema i options all w g).after.registry f := by
  cases hverdict : verdict schema i options.mode g.descriptor with
  | error e =>
    rw [(integrateOne_of_error hverdict).2]
    exact h
  | ok plugin =>
    rw [registry_integrateOne hverdict]
    obtain ⟨hid, hversion, htype⟩ := taskOf_of_verdict hverdict w.loaded (isMultiVersion options all g.identifier)
    refine Registry.Offers.changed hw h fun hsame => ?_
    have hfg : g.identifier = f.identifier := hid.symm.trans hsame
    refine ⟨by rw [hfg], fun hnot => ?_, fun hv => ?_⟩
    · exact hversion.trans (version_eq_of_isMultiVersion hf hg hfg.symm hnot).symm
    · refine htype.trans ?_
      rw [FoundDescriptor.typeName, FoundDescriptor.typeName, hfg, hversion.symm.trans hv]

theorem Offered.afterAll {w : Installation σ} (hw : w.registry.Sound) {f : FoundDescriptor} (hf : f ∈ all)
    {l : List FoundDescriptor} (hl : ∀ g ∈ l, g ∈ all) (h : Offered options all w.registry f) :
    Offered options all (afterAll schema i options all w l).registry f := by
  induction l generalizing w with
  | nil => exact h
  | cons g rest ih =>
    exact ih (sound_integrateOne hw g) (fun x hx => hl x (List.mem_cons_of_mem g hx))
      (h.integrateOne hw hf (hl g List.mem_cons_self))

/-- After some candidates, each of them that was registered is offered. -/
theorem offered_of_mem {w : Installation σ} (hw : w.registry.Sound) {l : List FoundDescriptor} (hl : ∀ g ∈ l, g ∈ all)
    {f : FoundDescriptor} (hf : f ∈ l) {plugin : GeneratedPlugin}
    (h : verdict schema i options.mode f.descriptor = .ok plugin) :
    Offered options all (Bootstrap.afterAll schema i options all w l).registry f := by
  induction l generalizing w with
  | nil => cases hf
  | cons g rest ih =>
    have hrest : ∀ x ∈ rest, x ∈ all := fun x hx => hl x (List.mem_cons_of_mem g hx)
    rcases List.mem_cons.mp hf with rfl | hf
    · exact (offered_self hw h).afterAll (sound_integrateOne hw f) (hl f List.mem_cons_self) hrest
    · exact ih (sound_integrateOne hw g) hrest hf

/-- Whatever is reported as integrated after some candidates can be reached. -/
theorem reaches_of_integrated {w : Installation σ} (hw : w.registry.Sound) {l : List FoundDescriptor}
    (hl : ∀ g ∈ l, g ∈ all) {e : IntegratedTool}
    (he : e ∈ (results schema i options all w l).filterMap integratedTool?) :
    (Bootstrap.afterAll schema i options all w l).registry.Reaches e.identifier e.version e.typeName := by
  obtain ⟨⟨f, result⟩, hp, he⟩ := List.mem_filterMap.mp he
  cases result with
  | error _ => cases he
  | ok task =>
    cases he
    obtain ⟨hf, ⟨plugin, hverdict⟩, hid, hversion, htype⟩ := mem_results hp rfl
    dsimp only at hid hversion htype ⊢
    rw [hid, hversion, htype]
    exact (offered_of_mem hw hl hf hverdict).reaches

end

/-- The report of a bootstrap accounts for every descriptor that is found, and for every version that it says is
    integrated. -/
structure Accounts (w : Installation σ) (schema : Schema) (i : Integrator) (dirs : List Path) (options : BootstrapOptions)
    (permitted : String → Bool) : Prop where
  /-- Every permitted descriptor has one result, and the report has them in the order of discovery. -/
  ordered : ∃ rs : List (FoundDescriptor × Result LoadedTask),
    rs.map (·.1) = (Discovery.discover w.files dirs).1.filter (fun f => permitted f.name) ∧
      (w.bootstrap schema i dirs options permitted).report.integrated = rs.filterMap integratedTool? ∧
      (w.bootstrap schema i dirs options permitted).report.skipped =
        ((Discovery.discover w.files dirs).1.filter fun f => !permitted f.name).map FoundDescriptor.notPermitted ++
          rs.filterMap failedDescriptor?
  split : ((Discovery.discover w.files dirs).1.map (·.path)).Perm
    ((w.bootstrap schema i dirs options permitted).report.integrated.map (·.path) ++
      (w.bootstrap schema i dirs options permitted).report.skipped.map (·.path))
  allowed : ∀ e ∈ (w.bootstrap schema i dirs options permitted).report.integrated,
    ∃ f ∈ (Discovery.discover w.files dirs).1, permitted f.name = true ∧ e.path = f.path ∧
      e.identifier = f.identifier ∧ e.version = f.version
  /-- What was reported up to any point of the run can be reached at that point. -/
  kept : ∀ n, ∀ e ∈ (((candidates w dirs permitted).take n).foldl
      (step schema i options (candidates w dirs permitted)) (start w dirs permitted)).report.integrated,
    (((candidates w dirs permitted).take n).foldl
      (step schema i options (candidates w dirs permitted)) (start w dirs permitted)).after.registry.Reaches
        e.identifier e.version e.typeName
  reachable : ∀ e ∈ (w.bootstrap schema i dirs options permitted).report.integrated,
    (w.bootstrap schema i dirs options permitted).after.registry.Reaches e.identifier e.version e.typeName

section
variable {w : Installation σ} {schema : Schema} {i : Integrator} {dirs : List Path} {options : BootstrapOptions}
  {permitted : String → Bool}

/-- A bootstrap reports the results of its candidates, and leaves what they leave. -/
theorem bootstrap_spec (w : Installation σ) (schema : Schema) (i : Integrator) (dirs : List Path)
    (options : BootstrapOptions) (permitted : String → Bool) :
    (w.bootstrap schema i dirs options permitted).report.integrated =
        (results schema i options (candidates w dirs permitted) w (candidates w dirs permitted)).filterMap
          integratedTool? ∧
      (w.bootstrap schema i dirs options permitted).report.skipped =
        ((Discovery.discover w.files dirs).1.filter fun f => !permitted f.name).map FoundDescriptor.notPermitted ++
          (results schema i options (candidates w dirs permitted) w (candidates w dirs permitted)).filterMap
            failedDescriptor? ∧
      (w.bootstrap schema i dirs options permitted).after =
        afterAll schema i options (candidates w dirs permitted) w (candidates w dirs permitted) := by
  rw [bootstrap_eq_foldl]
  exact foldl_step_eq (start w dirs permitted) (candidates w dirs permitted)

theorem map_path_notPermitted (l : List FoundDescriptor) :
    (l.map FoundDescriptor.notPermitted).map (·.path) = l.map (·.path) := List.map_map

theorem perm_report (w : Installation σ) (schema : Schema) (i : Integrator) (dirs : List Path)
    (options : BootstrapOptions) (permitted : String → Bool) :
    ((Discovery.discover w.files dirs).1.map (·.path)).Perm
      ((w.bootstrap schema i dirs options permitted).report.integrated.map (·.path) ++
        (w.bootstrap schema i dirs options permitted).report.skipped.map (·.path)) := by
  obtain ⟨hintegrated, hskipped, -⟩ := bootstrap_spec w schema i dirs options permitted
  have hpaths := perm_paths (results schema i options (candidates w dirs permitted) w (candidates w dirs permitted))
  have hfst : (results schema i options (candidates w dirs permitted) w (candidates w dirs permitted)).map
      (fun p => p.1.path) = (candidates w dirs permitted).map (·.path) := by
    conv_rhs => rw [← @map_fst_results _ _ schema i options (candidates w dirs permitted) w (candidates w dirs permitted)]
    exact List.map_map.symm
  have hsplit := (List.filter_append_perm (fun f : FoundDescriptor => permitted f.name)
    (Discovery.discover w.files dirs).1).symm.map (·.path)
  rw [List.map_append] at hsplit
  rw [hfst] at hpaths
  rw [hintegrated, hskipped, List.map_append, map_path_notPermitted]
  refine hsplit.trans ((hpaths.append_right _).trans ?_)
  rw [List.append_assoc]
  exact List.perm_append_comm.append_left _

theorem accounts_of_sound (hw : w.registry.Sound) : Accounts w schema i dirs options permitted := by
  obtain ⟨hintegrated, hskipped, hafter⟩ := bootstrap_spec w schema i dirs options permitted
  refine ⟨⟨_, map_fst_results w (candidates w dirs permitted), hintegrated, hskipped⟩,
    perm_report w schema i dirs options permitted, ?_, ?_, ?_⟩
  · intro e he
    rw [hintegrated] at he
    obtain ⟨⟨f, result⟩, hp, he⟩ := List.mem_filterMap.mp he
    cases result with
    | error _ => cases he
    | ok task =>
      cases he
      obtain ⟨hf, -, hid, hversion, -⟩ := mem_results hp rfl
      obtain ⟨hfound, hpermitted⟩ := List.mem_filter.mp hf
      exact ⟨f, hfound, hpermitted, rfl, hid, hversion⟩
  · intro n e he
    obtain ⟨hintegrated', -, hafter'⟩ := @foldl_step_eq _ _ schema i options (candidates w dirs permitted)
      (start w dirs permitted) ((candidates w dirs permitted).take n)
    rw [hintegrated'] at he
    rw [hafter']
    exact reaches_of_integrated hw (fun g hg => List.mem_of_mem_take hg) he
  · intro e he
    rw [hintegrated] at he
    rw [hafter]
    exact reaches_of_integrated hw (fun g hg => hg) he

end

/-- Whatever was registered before, a bootstrap accounts for all it finds and loses nothing that it reports. -/
theorem accounts_of_run (records : σ) (files : FileTree) (loaded : Nat) (ops : List (RegistryOp σ))
    (schema : Schema) (i : Integrator) (dirs : List Path) (options : BootstrapOptions) (permitted : String → Bool) :
    Accounts (({ records, files, loaded } : Installation σ).run ops) schema i dirs options permitted :=
  accounts_of_sound (Installation.sound_of_run records files loaded ops)

end Bootstrap

end ToolPlugins
