import Mathlib
import ToolPlugins.Proofs.Bootstrap.EndState

/-!
Bootstraps of the same directories in another order. Where all pages can be published, they integrate and skip the same
descriptors and leave the same identifiers, versions and records. Which of several tasks stays depends on the order.
-/

namespace ToolPlugins

namespace Bootstrap

/-- Two runs report the same in some order, and leave the same but for which tasks are registered. -/
structure SameUpToOrder (first second : BootstrapRun) : Prop where
  integrated : second.report.integrated.Perm first.report.integrated
  skipped : second.report.skipped.Perm first.report.skipped
  identifiers : second.after.registry.identifiers = first.after.registry.identifiers
  generic : ∀ k, (∃ task, second.after.registry.lookup k = some (.generic task)) ↔
    ∃ task, first.after.registry.lookup k = some (.generic task)
  versioned : ∀ k switcher, first.after.registry.lookup k = some (.versioned switcher) →
    ∃ s switcher' s', first.after.registry.switcher? switcher = some s ∧
      second.after.registry.lookup k = some (.versioned switcher') ∧
      second.after.registry.switcher? switcher' = some s' ∧ s'.versions.Perm s.versions
  tools : second.after.records.tools.keys.Perm first.after.records.tools.keys
  versions : second.after.records.versions.keys.Perm first.after.records.versions.keys

/-- The entry of the report on a descriptor whose task cannot be registered. -/
def rejected? (schema : Schema) (i : Integrator) (mode : GenerationMode) (f : FoundDescriptor) :
    Option SkippedDescriptor :=
  match verdict schema i mode f.descriptor with
  | .ok _ => none
  | .error e => some ⟨f.path, e.message⟩

section
variable {schema : Schema} {i : Integrator} {options : BootstrapOptions} {all all' : List FoundDescriptor}
  {w w' : Installation} {dirs dirs' : List Path} {permitted : String → Bool} {f : FoundDescriptor} {k : String}
  {apps apps' : List (FoundDescriptor × LoadedTask)} {run first second : BootstrapRun}

/-! ### What does not depend on the order of the candidates -/

theorem severalVersions_congr (h : ∀ f, f ∈ all' ↔ f ∈ all) : SeveralVersions all' k ↔ SeveralVersions all k := by
  simp only [SeveralVersions, h]

theorem isMultiVersion_congr (h : ∀ f, f ∈ all' ↔ f ∈ all) : isMultiVersion options all' = isMultiVersion options all := by
  funext k
  rw [Bool.eq_iff_iff, isMultiVersion_iff, isMultiVersion_iff, severalVersions_congr h]

theorem AllPages.congr {t : FileTree} (hpage : AllPages schema i options all t) (h : ∀ f, f ∈ all' ↔ f ∈ all) :
    AllPages schema i options all' t := by
  intro f hf task hplanned
  rw [planned, isMultiVersion_congr h] at hplanned
  exact hpage f ((h f).mp hf) task hplanned

theorem failedDescriptor?_of_reports (hanswer : w.records.answer i.context options.createVersionRecords = .ok ())
    (hpage : ∀ task, planned schema i options all f = .ok task → (w.files.publishPage task).1 = .ok ())
    {result : Result LoadedTask} (h : (fate schema i options all w f).Reports (f, result)) :
    failedDescriptor? (f, result) = rejected? schema i options.mode f := by
  rw [rejected?]
  cases hverdict : verdict schema i options.mode f.descriptor with
  | error e =>
    have hplanned : planned schema i options all f = .error e := by
      rw [planned, hverdict]
      rfl
    rw [fate_of_error hplanned] at h
    obtain rfl : result = .error e := h
    rfl
  | ok plugin =>
    obtain ⟨task, hplanned⟩ : ∃ task, planned schema i options all f = .ok task :=
      ⟨_, planned_eq_ok_iff.mpr ⟨plugin, hverdict, rfl⟩⟩
    rw [fate_of_page hplanned (hpage _ hplanned), hanswer] at h
    cases result with
    | error e => cases h
    | ok task => rfl

/-- Where all pages can be published, a fresh bootstrap skips only what cannot be registered. -/
theorem skipped_of_fresh (hw : w.Fresh) (hpage : AllPages schema i options (candidates w dirs permitted) w.files) :
    (w.bootstrap schema i dirs options permitted).report.skipped =
      ((Discovery.discover w.files dirs).1.filter fun f => !permitted f.name).map FoundDescriptor.notPermitted ++
        (candidates w dirs permitted).filterMap (rejected? schema i options.mode) := by
  rw [(bootstrap_spec w schema i dirs options permitted).2.1]
  refine congrArg _ (filterMap_of_forall₂ (forall₂_results w (candidates w dirs permitted)) ?_)
  rintro f hf ⟨_, result⟩ ⟨rfl, hreports⟩
  exact failedDescriptor?_of_reports (hw.answer _ _) (hpage _ hf) hreports

/-! ### End states -/

theorem EndState.mem_identifiers (h : EndState i options all apps run) :
    k ∈ run.after.registry.identifiers ↔ k ∈ run.report.integrated.map (·.identifier) := by
  rw [h.identifiers.mem_iff, List.mem_eraseDups]

theorem EndState.exists_generic_iff (h : EndState i options all apps run) :
    (∃ task, run.after.registry.lookup k = some (.generic task)) ↔
      k ∈ run.after.registry.identifiers ∧ ¬(options.forceMultiVersion = true ∨ SeveralVersions all k) := by
  constructor
  · rintro ⟨task, hlookup⟩
    have hk := Registry.mem_identifiers_iff.mpr ⟨_, hlookup⟩
    refine ⟨hk, fun hseveral => ?_⟩
    obtain ⟨switcher, s, hversioned, -⟩ := h.versioned k hk hseveral
    cases hlookup.symm.trans hversioned
  · rintro ⟨hk, hnot⟩
    obtain ⟨p, -, hlookup⟩ := h.generic k hk hnot
    exact ⟨p.2, hlookup⟩

/-- An identifier that leads to a switcher in one of the runs leads to one of the same versions in the other. -/
theorem EndState.versions_perm (h : EndState i options all apps first) (h' : EndState i options all' apps' second)
    (hall : ∀ f, f ∈ all' ↔ f ∈ all) (hintegrated : second.report.integrated.Perm first.report.integrated)
    {switcher : SwitcherId} (hlookup : first.after.registry.lookup k = some (.versioned switcher)) :
    ∃ s switcher' s', first.after.registry.switcher? switcher = some s ∧
      second.after.registry.lookup k = some (.versioned switcher') ∧
      second.after.registry.switcher? switcher' = some s' ∧ s'.versions.Perm s.versions := by
  have hk := Registry.mem_identifiers_iff.mpr ⟨_, hlookup⟩
  have hseveral : options.forceMultiVersion = true ∨ SeveralVersions all k := by
    by_contra hnot
    obtain ⟨p, -, hgeneric⟩ := h.generic k hk hnot
    cases hlookup.symm.trans hgeneric
  have hk' : k ∈ second.after.registry.identifiers :=
    h'.mem_identifiers.mpr ((hintegrated.map _).mem_iff.mpr (h.mem_identifiers.mp hk))
  obtain ⟨_, s, hlookup', hs, -, hversions, -⟩ := h.versioned k hk hseveral
  cases hlookup.symm.trans hlookup'
  obtain ⟨switcher', s', hsecond, hs', -, hversions', -⟩ :=
    h'.versioned k hk' (hseveral.imp_right (severalVersions_congr hall).mpr)
  refine ⟨s, switcher', s', hs, hsecond, hs', ?_⟩
  rw [hversions, hversions']
  exact Table.perm_eraseDups fun version => ((hintegrated.filter _).map _).mem_iff

theorem EndState.sameUpToOrder (h : EndState i options all apps first) (h' : EndState i options all' apps' second)
    (hsound : first.after.registry.Sound) (hsound' : second.after.registry.Sound) (hall : ∀ f, f ∈ all' ↔ f ∈ all)
    (hintegrated : second.report.integrated.Perm first.report.integrated)
    (hskipped : second.report.skipped.Perm first.report.skipped) : SameUpToOrder first second := by
  have hidentifiers : second.after.registry.identifiers = first.after.registry.identifiers := by
    refine hsound.identifiers_eq_of_mem hsound' fun k => ?_
    rw [h.mem_identifiers, h'.mem_identifiers]
    exact (hintegrated.map _).mem_iff
  refine ⟨hintegrated, hskipped, hidentifiers, fun k => ?_, fun k switcher => h.versions_perm h' hall hintegrated, ?_, ?_⟩
  · rw [h.exists_generic_iff, h'.exists_generic_iff, hidentifiers, severalVersions_congr hall]
  · exact h'.tools.trans (hidentifiers ▸ h.tools.symm)
  · rw [h.versions, h'.versions]
    exact Table.perm_eraseDups fun key => (hintegrated.filterMap _).mem_iff

/-- Where all pages can be published, the order of the directories decides only which tasks stay. -/
theorem sameUpToOrder_of_fresh (hw : w.Fresh) (hw' : w'.Fresh) (hfiles : w'.files = w.files) (hdirs : dirs.Perm dirs')
    (hpage : AllPages schema i options (candidates w dirs permitted) w.files) :
    SameUpToOrder (w.bootstrap schema i dirs options permitted) (w'.bootstrap schema i dirs' options permitted) := by
  have hfound : (Discovery.discover w'.files dirs').1.Perm (Discovery.discover w.files dirs).1 :=
    hfiles ▸ (Discovery.discover_perm hdirs w.files).symm
  have hperm : (candidates w' dirs' permitted).Perm (candidates w dirs permitted) := hfound.filter _
  have hall : ∀ f, f ∈ candidates w' dirs' permitted ↔ f ∈ candidates w dirs permitted := fun f => hperm.mem_iff
  have hpage' : AllPages schema i options (candidates w' dirs' permitted) w'.files := hfiles ▸ hpage.congr hall
  refine (endState_of_fresh hw hpage).sameUpToOrder (endState_of_fresh hw' hpage') (complete_of_fresh hw hpage).sound
    (complete_of_fresh hw' hpage').sound hall ?_ ?_
  · rw [(complete_of_fresh hw hpage).integrated, (complete_of_fresh hw' hpage').integrated, isMultiVersion_congr hall]
    exact (hperm.filter _).map _
  · rw [skipped_of_fresh hw hpage, skipped_of_fresh hw' hpage']
    exact ((hfound.filter _).map _).append (hperm.filterMap _)

end

/-- Where no page fails, bootstraps of the same directories in any order make the same out of fresh installations, but
    for which tasks stay. -/
theorem sameUpToOrder_of_directories (schema : Schema) (i : Integrator) (dirs dirs' : List Path)
    (options : BootstrapOptions) (permitted : String → Bool) (files : FileTree) (loaded loaded' : Nat)
    (hdirs : dirs.Perm dirs')
    (hpages : ∀ s ∈ (({ files, loaded } : Installation).bootstrap schema i dirs options permitted).report.skipped,
      ∀ page cause, s.reason ≠ (Failure.helpPublish page cause).message) :
    SameUpToOrder (({ files, loaded } : Installation).bootstrap schema i dirs options permitted)
      (({ files, loaded := loaded' } : Installation).bootstrap schema i dirs' options permitted) :=
  sameUpToOrder_of_fresh ⟨rfl, rfl⟩ ⟨rfl, rfl⟩ rfl hdirs (allPages_of_reasons hpages)

theorem sameUpToOrder_twoVersions :
    ["d", "e"].Perm ["e", "d"] ∧
      (∀ s ∈ (({ files := twoVersions } : Installation).bootstrap .bundled ⟨.client, "help"⟩ ["d", "e"] {}
        fun _ => true).report.skipped, ∀ page cause, s.reason ≠ (Failure.helpPublish page cause).message) ∧
      SameUpToOrder
        (({ files := twoVersions } : Installation).bootstrap .bundled ⟨.client, "help"⟩ ["d", "e"] {} fun _ => true)
        (({ files := twoVersions } : Installation).bootstrap .bundled ⟨.client, "help"⟩ ["e", "d"] {} fun _ => true) := by
  have hdirs : ["d", "e"].Perm ["e", "d"] := .swap _ _ _
  exact ⟨hdirs, reasons_twoVersions, sameUpToOrder_of_directories .bundled ⟨.client, "help"⟩ ["d", "e"] ["e", "d"] {}
    (fun _ => true) twoVersions 0 0 hdirs reasons_twoVersions⟩

end Bootstrap

end ToolPlugins
