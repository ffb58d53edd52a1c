import Mathlib
import ToolPlugins.Proofs.Bootstrap.Fate
import ToolPlugins.Proofs.Discovery

/-!
A bootstrap that is repeated. It reports the same again and leaves everything as it was, unless the first one created
a directory on a path to descriptors that led nowhere before.
-/

namespace ToolPlugins

namespace Bootstrap

/-- Two entries give the same reason for the same descriptor. Where it is a page that was not published, the causes
    may differ. -/
def SameReason (s s' : SkippedDescriptor) : Prop :=
  s'.path = s.path ∧
    (s'.reason = s.reason ∨ ∃ page cause cause', s.reason = (Failure.helpPublish page cause).message ∧
      s'.reason = (Failure.helpPublish page cause').message)

/-- The second run reports what the first one did, and changes nothing. -/
structure Repeats (first second : BootstrapRun) : Prop where
  integrated : second.report.integrated = first.report.integrated
  skipped : List.Forall₂ SameReason first.report.skipped second.report.skipped
  identifiers : second.after.registry.identifiers = first.after.registry.identifiers
  view : ∀ k, second.after.registry.view k = first.after.registry.view k
  files : second.after.files = first.after.files
  records : second.after.records = first.after.records

section
variable {schema : Schema} {i : Integrator} {options : BootstrapOptions} {dirs : List Path} {permitted : String → Bool}
  {w : Installation}

theorem SameReason.refl (s : SkippedDescriptor) : SameReason s s := ⟨rfl, .inl rfl⟩

/-- Results of the same fates give the same reasons. -/
theorem forall₂_sameReason {fates : FoundDescriptor → Fate} {l : List FoundDescriptor}
    {rs rs' : List (FoundDescriptor × Result LoadedTask)}
    (h : List.Forall₂ (fun f p => p.1 = f ∧ (fates f).Reports p) l rs)
    (h' : List.Forall₂ (fun f p => p.1 = f ∧ (fates f).Reports p) l rs') :
    List.Forall₂ SameReason (rs.filterMap failedDescriptor?) (rs'.filterMap failedDescriptor?) := by
  induction h generalizing rs' with
  | nil =>
    cases h'
    exact .nil
  | @cons _ p l rs hp _ ih =>
    cases h' with
    | @cons _ p' _ rs' hp' hrest =>
    have ih := ih hrest
    obtain ⟨f, result⟩ := p
    obtain ⟨f', result'⟩ := p'
    obtain ⟨rfl, hp⟩ := hp
    obtain ⟨rfl, hp'⟩ := hp'
    cases hfate : fates f' with
    | integrated tool =>
      rw [hfate] at hp hp'
      cases result with
      | error e => cases hp
      | ok task =>
        cases result' with
        | error e => cases hp'
        | ok task' => exact ih
    | failed e =>
      rw [hfate] at hp hp'
      obtain rfl : result = .error e := hp
      obtain rfl : result' = .error e := hp'
      exact .cons (.refl _) ih
    | unpublished page =>
      rw [hfate] at hp hp'
      obtain ⟨cause, rfl⟩ : ∃ cause, result = .error (.helpPublish page cause) := hp
      obtain ⟨cause', rfl⟩ : ∃ cause, result' = .error (.helpPublish page cause) := hp'
      exact .cons ⟨rfl, .inr ⟨page, cause, cause', rfl, rfl⟩⟩ ih

theorem published_bootstrap (w : Installation) (schema : Schema) (i : Integrator) (dirs : List Path)
    (options : BootstrapOptions) (permitted : String → Bool) :
    w.files.Published (w.bootstrap schema i dirs options permitted).after.files := by
  obtain ⟨above, habove⟩ := i.exists_pagePath
  rw [(bootstrap_spec w schema i dirs options permitted).2.2, files_afterAll]
  exact FileTree.published_publishPages (pagePath_of_mem_plan habove _)

theorem sound_bootstrap (hw : w.registry.Sound) (schema : Schema) (i : Integrator) (dirs : List Path)
    (options : BootstrapOptions) (permitted : String → Bool) :
    (w.bootstrap schema i dirs options permitted).after.registry.Sound := by
  rw [(bootstrap_spec w schema i dirs options permitted).2.2]
  exact sound_afterAll hw _

theorem length_report (w : Installation) (schema : Schema) (i : Integrator) (dirs : List Path)
    (options : BootstrapOptions) (permitted : String → Bool) :
    (Discovery.discover w.files dirs).1.length =
      (w.bootstrap schema i dirs options permitted).report.integrated.length +
        (w.bootstrap schema i dirs options permitted).report.skipped.length := by
  have hlength := (perm_report w schema i dirs options permitted).length_eq
  rwa [List.length_append, List.length_map, List.length_map, List.length_map] at hlength

/-- Where the same descriptors are found again, the bootstrap repeats. -/
theorem repeats_of_discover (hw : w.registry.Sound)
    (hfound : (Discovery.discover (w.bootstrap schema i dirs options permitted).after.files dirs).1 =
      (Discovery.discover w.files dirs).1) :
    Repeats (w.bootstrap schema i dirs options permitted)
      ((w.bootstrap schema i dirs options permitted).after.bootstrap schema i dirs options permitted) := by
  obtain ⟨above, habove⟩ := i.exists_pagePath
  obtain ⟨hintegrated, hskipped, hafter⟩ := bootstrap_spec w schema i dirs options permitted
  obtain ⟨hintegrated', hskipped', hafter'⟩ :=
    bootstrap_spec (w.bootstrap schema i dirs options permitted).after schema i dirs options permitted
  have hcandidates : candidates (w.bootstrap schema i dirs options permitted).after dirs permitted =
      candidates w dirs permitted := by
    rw [candidates, hfound]
    rfl
  rw [hcandidates] at hintegrated' hskipped' hafter'
  rw [hfound] at hskipped'
  generalize hrun : w.bootstrap schema i dirs options permitted = first at *
  generalize first.after.bootstrap schema i dirs options permitted = second at *
  generalize hl : candidates w dirs permitted = l at *
  have hsound : (afterAll schema i options l w l).registry.Sound := sound_afterAll hw l
  have hfates : ∀ f, fate schema i options l (afterAll schema i options l w l) f = fate schema i options l w f :=
    fate_afterAll w l
  have hview : ∀ k, second.after.registry.view k = first.after.registry.view k := by
    intro k
    rw [hafter', hafter, view_afterAll hsound, view_afterAll hw, EntryView.putAll_again]
  refine ⟨?_, ?_, ?_, hview, ?_, ?_⟩
  · rw [hintegrated', hintegrated, filterMap_results, filterMap_results, hafter]
    exact List.filterMap_congr fun f _ => congrArg Fate.tool? (hfates f)
  · rw [hskipped', hskipped, hafter]
    refine List.rel_append (List.forall₂_same.mpr fun s _ => .refl s) ?_
    refine forall₂_sameReason (forall₂_results w l) ((forall₂_results _ l).imp fun f p hp => ?_)
    rwa [hfates] at hp
  · rw [hafter', hafter]
    refine hsound.identifiers_eq (sound_afterAll hsound l) fun k => ?_
    rw [← hafter, ← hafter', hview]
  · rw [hafter', files_afterAll, hafter, files_afterAll]
    exact FileTree.publishPages_again (pagePath_of_mem_plan habove l)
  · rw [hafter', hafter]
    refine records_afterAll fun task htask hpage => known_afterAll w htask ?_
    obtain ⟨f, -, hplanned⟩ := mem_plan.mp htask
    exact (page_afterAll w l hplanned).mp hpage

end

/-- A repeated bootstrap repeats the first one if and only if the directories lead to the same descriptors. -/
theorem repeats_iff_of_run (records : RecordStore) (files : FileTree) (loaded : Nat) (ops : List RegistryOp)
    (schema : Schema) (i : Integrator) (dirs : List Path) (options : BootstrapOptions) (permitted : String → Bool) :
    let w := ({ records, files, loaded } : Installation).run ops
    let first := w.bootstrap schema i dirs options permitted
    let second := first.after.bootstrap schema i dirs options permitted
    Repeats first second ↔
      (Discovery.discover first.after.files dirs).1.map (·.path) = (Discovery.discover w.files dirs).1.map (·.path) := by
  intro w first second
  have hw : w.registry.Sound := Installation.sound_of_run records files loaded ops
  have hpublished := published_bootstrap w schema i dirs options permitted
  constructor
  · intro h
    have hlength : (Discovery.discover w.files dirs).1.length = (Discovery.discover first.after.files dirs).1.length := by
      rw [length_report w schema i dirs options permitted, length_report first.after schema i dirs options permitted]
      exact congrArg₂ (· + ·) (congrArg List.length h.integrated.symm) h.skipped.length_eq
    rw [(Discovery.discover_published hpublished dirs).eq_of_length hlength]
  · exact fun h => repeats_of_discover hw (Discovery.discover_eq_of_paths hpublished h)

/-- Files with one descriptor, which is right in the directory `d`. -/
def oneDescriptor : FileTree :=
  FileTree.put {} "d/a.json" (.text "\x7b\"name\":\"a\",\"tool-version\":\"1\",\"command-line\":\"x\"\x7d")

/-- A path through the directory of the pages leads nowhere before the first page is published, so only the second
    bootstrap finds the descriptor there. And a page whose directory would stand below a file fails for another reason
    once the directory before it was created. -/
theorem bootstrap_again_differs :
    (let w : Installation := { files := oneDescriptor }
      let first := w.bootstrap .bundled ⟨.client, "help"⟩ ["d", "help/../d"] {} fun _ => true
      let second := first.after.bootstrap .bundled ⟨.client, "help"⟩ ["d", "help/../d"] {} fun _ => true
      first.report.integrated.map (·.path) = ["d/a.json"] ∧
        second.report.integrated.map (·.path) = ["d/a.json", "help/../d/a.json"] ∧ second.report ≠ first.report) ∧
    (let w : Installation := { files := oneDescriptor.put "f" (.text "text") }
      let first := w.bootstrap .bundled ⟨.client, "new/../f/x"⟩ ["d"] {} fun _ => true
      let second := first.after.bootstrap .bundled ⟨.client, "new/../f/x"⟩ ["d"] {} fun _ => true
      first.report.skipped.map (·.path) = second.report.skipped.map (·.path) ∧ second.report ≠ first.report) := by
  decide +kernel

end Bootstrap

end ToolPlugins
