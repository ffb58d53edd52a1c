import Mathlib
import ToolPlugins.Proofs.Bootstrap.Without
import ToolPlugins.Proofs.Records.Sound

/-!
What a bootstrap leaves in a fresh installation where all pages can be published. The descriptors that are integrated
come one after the other under their identifiers: for what is registered the last one counts, for the order of the
versions and for the records the first one does.
-/

namespace ToolPlugins

theorem qualifiedName_injective : Function.Injective qualifiedName := fun _ _ h => by
  simpa [qualifiedName] using h

/-- Nothing is registered or recorded yet. -/
structure Installation.Fresh (w : Installation) : Prop where
  registry : w.registry = {}
  records : w.records = {}

theorem Installation.Fresh.answer {w : Installation} (h : w.Fresh) (context : ExecutionContext)
    (createVersionRecord : Bool) : w.records.answer context createVersionRecord = .ok () := by
  rw [h.records]
  exact RecordStore.answer_of_no_outage rfl rfl _ _

/-- Any version that a switcher does not know leads to its first one. -/
theorem VersionSwitcher.exists_resolve {s : VersionSwitcher} {first : String} (hfirst : s.versions.head? = some first) :
    ∃ task, s.get? first = some task ∧
      ∀ version : Option String, (∀ v ∈ version, v ∉ s.versions) → (s.resolve version).1 = .ok task := by
  obtain ⟨identifier, tasks⟩ := s
  cases tasks with
  | nil => cases hfirst
  | cons entry rest =>
    obtain ⟨key, task⟩ := entry
    cases hfirst
    refine ⟨task, if_pos rfl, fun version hunknown => ?_⟩
    have hnone : version.bind (VersionSwitcher.get? ⟨identifier, (key, task) :: rest⟩) = none :=
      Option.bind_eq_none_iff.mpr fun v hv => Table.get?_eq_none_iff.mpr (hunknown v hv)
    rw [resolve, hnone]

theorem FoundDescriptor.version_eq (f : FoundDescriptor) :
    f.version = match f.descriptor.get? "tool-version" with
      | some (.string version) => version
      | _ => "" := by
  rw [FoundDescriptor.version, Descriptor.version, Descriptor.version?, Descriptor.text?]
  cases f.descriptor.get? "tool-version" with
  | none => rfl
  | some value =>
    cases value with
    | string version => rfl
    | _ => rfl

namespace Bootstrap

/-- Descriptors that are found in some directories, in the order in which they are found, each with the task that it
    becomes. -/
structure Appear (w : Installation) (schema : Schema) (i : Integrator) (dirs : List Path) (options : BootstrapOptions)
    (permitted : String → Bool) (appearances : List (FoundDescriptor × LoadedTask)) : Prop where
  found : (appearances.map (·.1)).Sublist (candidates w dirs permitted)
  inOrder : Discovery.InOrder dirs (appearances.map fun p => p.1.path)
  loaded : ∀ p ∈ appearances, ∃ plugin, (generate schema p.1.descriptor options.mode).1 = .ok plugin ∧
    i.loadTask p.2.serial plugin (isMultiVersion options (candidates w dirs permitted) p.1.identifier) = .ok p.2
  numbered : appearances.Pairwise fun p q => p.2.serial < q.2.serial

/-- An identifier leads to a switcher of its versions, in the order in which they were integrated first. For each of
    them the last appearance counts, and the first of them stands in for every other version. -/
def ShowsVersions (appearances : List (FoundDescriptor × LoadedTask)) (run : BootstrapRun) (k : String) : Prop :=
  ∃ switcher s, run.after.registry.lookup k = some (.versioned switcher) ∧
    run.after.registry.switcher? switcher = some s ∧ s.identifier = k ∧
    s.versions = ((run.report.integrated.filter fun e => e.identifier == k).map (·.version)).eraseDups ∧
    (∀ version, s.get? version =
      (appearances.filter fun p => p.2.identifier == k && p.2.version == version).getLast?.map (·.2)) ∧
    ∃ e task, run.report.integrated.find? (fun e => e.identifier == k) = some e ∧ s.get? e.version = some task ∧
      ∀ version : Option String, (∀ v ∈ version, v ∉ s.versions) → (s.resolve version).1 = .ok task

/-- What a run leaves that integrates one descriptor after the other, each as its task. -/
structure EndState (i : Integrator) (options : BootstrapOptions) (all : List FoundDescriptor)
    (appearances : List (FoundDescriptor × LoadedTask)) (run : BootstrapRun) : Prop where
  integrated : run.report.integrated =
    appearances.map fun p => ⟨p.2.identifier, p.2.version, p.2.typeName, p.1.path⟩
  identifiers : run.after.registry.identifiers.Perm (run.report.integrated.map (·.identifier)).eraseDups
  /-- The version that is counted for a descriptor is a text, or else nothing in writing. -/
  counted : ∀ f ∈ all, f.version = match f.descriptor.get? "tool-version" with
    | some (.string version) => version
    | _ => ""
  versioned : ∀ k ∈ run.after.registry.identifiers, options.forceMultiVersion = true ∨ SeveralVersions all k →
    ShowsVersions appearances run k
  generic : ∀ k ∈ run.after.registry.identifiers, ¬(options.forceMultiVersion = true ∨ SeveralVersions all k) →
    ∃ p, (appearances.filter fun p => p.2.identifier == k).getLast? = some p ∧
      run.after.registry.lookup k = some (.generic p.2)
  tools : run.after.records.tools.keys.Perm (run.after.registry.identifiers.map qualifiedName)
  tool : ∀ k ∈ run.after.registry.identifiers, ∃ p id,
    appearances.find? (fun p => p.2.identifier == k) = some p ∧
      run.after.records.tools.get? (qualifiedName k) =
        some ((ToolFields.ofDescriptor p.1.descriptor).toolRecord id (qualifiedName k))
  versions : run.after.records.versions.keys = (run.report.integrated.filterMap fun e =>
    (RecordStore.host? i.context options.createVersionRecords).map fun host =>
      (qualifiedName e.identifier, host, e.version)).eraseDups

section
variable {schema : Schema} {i : Integrator} {options : BootstrapOptions} {all : List FoundDescriptor} {w : Installation}
  {n : Nat} {p : FoundDescriptor × LoadedTask} {l : List FoundDescriptor}

/-! ### The descriptors that are registered -/

theorem map_fst_appearances (n : Nat) (l : List FoundDescriptor) :
    (appearances schema i options all n l).map (·.1) = l.filter (isRegistered schema i options.mode) := by
  induction l generalizing n with
  | nil => rfl
  | cons f rest ih =>
    cases hplanned : planned schema i options all f with
    | error e =>
      rw [appearances_cons_of_error hplanned, ih, List.filter_cons_of_neg]
      intro hregistered
      obtain ⟨task, htask⟩ := isRegistered_iff.mp hregistered
      cases hplanned.symm.trans htask
    | ok task =>
      rw [appearances_cons_of_ok hplanned, List.map_cons, ih,
        List.filter_cons_of_pos (isRegistered_iff.mpr ⟨task, hplanned⟩)]

theorem mem_appearances (hp : p ∈ appearances schema i options all n l) :
    n ≤ p.2.serial ∧ ∃ plugin, verdict schema i options.mode p.1.descriptor = .ok plugin ∧
      p.2 = i.taskOf p.2.serial plugin (isMultiVersion options all p.1.identifier) := by
  induction l generalizing n with
  | nil => cases hp
  | cons f rest ih =>
    cases hplanned : planned schema i options all f with
    | error e =>
      rw [appearances_cons_of_error hplanned] at hp
      exact ih hp
    | ok task =>
      rw [appearances_cons_of_ok hplanned] at hp
      rcases List.mem_cons.mp hp with rfl | hp
      · obtain ⟨plugin, hverdict, rfl⟩ := planned_eq_ok_iff.mp hplanned
        exact ⟨le_refl n, plugin, hverdict, rfl⟩
      · obtain ⟨hle, hplugin⟩ := ih hp
        exact ⟨Nat.le_of_succ_le hle, hplugin⟩

theorem spec_of_mem_appearances (hp : p ∈ appearances schema i options all n l) :
    p.2.identifier = p.1.identifier ∧ p.2.version = p.1.version ∧
      p.2.typeName = p.1.typeName (isMultiVersion options all p.1.identifier) ∧
      p.2.plugin.descriptor = p.1.descriptor := by
  obtain ⟨-, plugin, hverdict, heq⟩ := mem_appearances hp
  obtain ⟨hid, hversion, htype⟩ := taskOf_of_verdict hverdict p.2.serial (isMultiVersion options all p.1.identifier)
  rw [← heq] at hid hversion htype
  refine ⟨hid, hversion, htype, ?_⟩
  rw [heq]
  exact (identifier_of_verdict hverdict).2

theorem pairwise_appearances (n : Nat) (l : List FoundDescriptor) :
    (appearances schema i options all n l).Pairwise fun p q => p.2.serial < q.2.serial := by
  induction l generalizing n with
  | nil => exact .nil
  | cons f rest ih =>
    cases hplanned : planned schema i options all f with
    | error e =>
      rw [appearances_cons_of_error hplanned]
      exact ih n
    | ok task =>
      rw [appearances_cons_of_ok hplanned]
      exact .cons (fun q hq => (mem_appearances hq).1) (ih (n + 1))

/-- Where all pages can be published, the records of all tasks are asked for. -/
theorem records_afterAll_of_pages {w : Installation}
    (hpage : ∀ f ∈ l, ∀ task, planned schema i options all f = .ok task → (w.files.publishPage task).1 = .ok ()) :
    (afterAll schema i options all w l).records =
      w.records.recordAll i.context options.createVersionRecords
        ((appearances schema i options all w.loaded l).map (·.2)) := by
  induction l generalizing w with
  | nil => rfl
  | cons f rest ih =>
    rw [afterAll_cons, ih fun g hg task hplanned =>
      (page_integrateOne w f hplanned).mpr (hpage g (List.mem_cons_of_mem f hg) task hplanned)]
    cases hplanned : planned schema i options all f with
    | error e => rw [(integrateOne_of_planned_error hplanned).2, appearances_cons_of_error hplanned]
    | ok task =>
      have hok := hpage f List.mem_cons_self task hplanned
      obtain ⟨-, -, ⟨-, hrecords, -⟩ | ⟨cause, herror, -⟩⟩ := integrateOne_of_planned (w := w) hplanned
      · rw [hrecords, loaded_integrateOne hplanned, appearances_cons_of_ok hplanned]
        rfl
      · cases hok.symm.trans herror

/-! ### What is left of them -/

section
variable {apps : List (FoundDescriptor × LoadedTask)} {run : BootstrapRun} {k : String}
  (hreport : run.report.integrated = apps.map fun p => ⟨p.2.identifier, p.2.version, p.2.typeName, p.1.path⟩)
  (hregistry : run.after.registry = Registry.registerAll {} (isMultiVersion options all) (apps.map (·.2)))
  (hrecords : run.after.records = RecordStore.recordAll {} i.context options.createVersionRecords (apps.map (·.2)))

section
include hregistry

theorem mem_identifiers_of_tasks : k ∈ run.after.registry.identifiers ↔ k ∈ apps.map fun p => p.2.identifier := by
  rw [hregistry, Registry.mem_identifiers_registerAll, ← List.mem_map, List.map_map]
  rfl

theorem nodup_identifiers_of_tasks : run.after.registry.identifiers.Nodup := by
  rw [hregistry]
  exact (Registry.sound_empty.registerAll _ _).nodup_identifiers

theorem exists_first_of_tasks (hk : k ∈ run.after.registry.identifiers) :
    ∃ p ∈ apps, p.2.identifier = k ∧ apps.find? (fun p => p.2.identifier == k) = some p := by
  obtain ⟨p, hp, hid⟩ := List.mem_map.mp ((mem_identifiers_of_tasks hregistry).mp hk)
  obtain ⟨q, hq⟩ := Option.isSome_iff_exists.mp
    (List.find?_isSome (p := fun p : FoundDescriptor × LoadedTask => p.2.identifier == k).mpr ⟨p, hp, beq_iff_eq.mpr hid⟩)
  exact ⟨q, List.mem_of_find?_eq_some hq, by simpa using List.find?_some hq, hq⟩

include hreport in
theorem showsVersions_of_tasks (hk : k ∈ run.after.registry.identifiers)
    (hseveral : options.forceMultiVersion = true ∨ SeveralVersions all k) : ShowsVersions apps run k := by
  obtain ⟨p, hmem, hid, hp⟩ := exists_first_of_tasks hregistry hk
  have hany : ∃ task ∈ apps.map (·.2), task.identifier = k := ⟨p.2, List.mem_map_of_mem hmem, hid⟩
  obtain ⟨switcher, s, hlookup, hs, hsid, hversions, hget⟩ :=
    Registry.exists_switcher_registerAll (isMultiVersion_iff.mpr hseveral) hany
  have hfind : run.report.integrated.find? (fun e => e.identifier == k) =
      some ⟨p.2.identifier, p.2.version, p.2.typeName, p.1.path⟩ := by
    rw [hreport, List.find?_map]
    exact congrArg (Option.map _) hp
  have hhead : s.versions.head? = some p.2.version := by
    rw [hversions, Table.head?_eraseDups, List.head?_map, List.head?_filter, List.find?_map]
    exact congrArg (Option.map LoadedTask.version ∘ Option.map Prod.snd) hp
  obtain ⟨task, htask, hresolve⟩ := VersionSwitcher.exists_resolve hhead
  rw [ShowsVersions, hregistry]
  refine ⟨switcher, s, hlookup, hs, hsid, ?_, fun version => ?_, _, task, hfind, htask, hresolve⟩
  · rw [hversions, hreport, List.filter_map, List.filter_map, List.map_map, List.map_map]
    rfl
  · rw [hget, List.filter_map, List.getLast?_map]
    rfl

theorem lookup_of_tasks (hk : k ∈ run.after.registry.identifiers)
    (hnot : ¬(options.forceMultiVersion = true ∨ SeveralVersions all k)) :
    ∃ p, (apps.filter fun p => p.2.identifier == k).getLast? = some p ∧
      run.after.registry.lookup k = some (.generic p.2) := by
  obtain ⟨p, hmem, hid, -⟩ := exists_first_of_tasks hregistry hk
  have hne : (apps.filter fun p => p.2.identifier == k) ≠ [] :=
    List.ne_nil_of_mem (List.mem_filter.mpr ⟨hmem, beq_iff_eq.mpr hid⟩)
  have hlast := List.getLast?_eq_some_getLast hne
  refine ⟨_, hlast, ?_⟩
  rw [hregistry]
  refine Registry.lookup_registerAll_generic (Bool.eq_false_iff.mpr (isMultiVersion_iff.not.mpr hnot)) ?_
  rw [List.filter_map, List.getLast?_map]
  exact congrArg (Option.map Prod.snd) hlast

include hrecords in
theorem tools_of_tasks :
    run.after.records.tools.keys.Perm (run.after.registry.identifiers.map qualifiedName) := by
  rw [hrecords, RecordStore.keys_tools_recordAll]
  refine (List.perm_ext_iff_of_nodup (Table.nodup_eraseDups _)
    ((nodup_identifiers_of_tasks hregistry).map qualifiedName_injective)).mpr fun key => ?_
  have hkeys : (apps.map (·.2)).map LoadedTask.qualifiedName = (apps.map fun p => p.2.identifier).map qualifiedName := by
    rw [List.map_map, List.map_map]
    rfl
  rw [List.mem_eraseDups, hkeys, List.mem_map, List.mem_map]
  exact exists_congr fun k => and_congr_left fun _ => (mem_identifiers_of_tasks hregistry).symm

end

include hrecords in
/-- The record of an identifier is made from its first descriptor. -/
theorem tool_of_tasks (hdescriptor : ∀ p ∈ apps, p.2.plugin.descriptor = p.1.descriptor) (hp : apps.find? (fun p => p.2.identifier == k) = some p) :
    ∃ id, run.after.records.tools.get? (qualifiedName k) =
      some ((ToolFields.ofDescriptor p.1.descriptor).toolRecord id (qualifiedName k)) := by
  have hsame : ∀ task : LoadedTask, (task.qualifiedName == qualifiedName k) = (task.identifier == k) := fun task => by
    rw [Bool.eq_iff_iff, beq_iff_eq, beq_iff_eq]
    exact qualifiedName_injective.eq_iff
  have hfind : (apps.map (·.2)).find? (fun task => task.qualifiedName == qualifiedName k) = some p.2 := by
    rw [funext hsame, List.find?_map]
    exact congrArg (Option.map Prod.snd) hp
  rw [hrecords, ← hdescriptor p (List.mem_of_find?_eq_some hp)]
  exact RecordStore.exists_tool_recordAll hfind

include hreport hregistry hrecords in
/-- A run has its end state where it reports some tasks, registers them and asks for their records. -/
theorem endState_of_tasks (hdescriptor : ∀ p ∈ apps, p.2.plugin.descriptor = p.1.descriptor) :
    EndState i options all apps run where
  integrated := hreport
  identifiers := by
    refine (List.perm_ext_iff_of_nodup (nodup_identifiers_of_tasks hregistry) (Table.nodup_eraseDups _)).mpr fun k => ?_
    rw [List.mem_eraseDups, mem_identifiers_of_tasks hregistry, hreport, List.map_map]
    rfl
  counted := fun f _ => f.version_eq
  versioned := fun _ hk hseveral => showsVersions_of_tasks hreport hregistry hk hseveral
  generic := fun _ hk hnot => lookup_of_tasks hregistry hk hnot
  tools := tools_of_tasks hregistry hrecords
  tool := fun k hk => by
    obtain ⟨p, -, -, hp⟩ := exists_first_of_tasks hregistry hk
    obtain ⟨id, hget⟩ := tool_of_tasks hrecords hdescriptor hp
    exact ⟨p, id, hp, hget⟩
  versions := by
    rw [hrecords, RecordStore.keys_versions_recordAll, hreport, List.filterMap_map, List.filterMap_map]
    rfl

end

end

section
variable {schema : Schema} {i : Integrator} {options : BootstrapOptions} {dirs : List Path} {permitted : String → Bool}
  {w : Installation}

theorem appear_appearances (w : Installation) (schema : Schema) (i : Integrator) (dirs : List Path)
    (options : BootstrapOptions) (permitted : String → Bool) :
    Appear w schema i dirs options permitted
      (appearances schema i options (candidates w dirs permitted) w.loaded (candidates w dirs permitted)) := by
  have hfound : ((appearances schema i options (candidates w dirs permitted) w.loaded
      (candidates w dirs permitted)).map (·.1)).Sublist (candidates w dirs permitted) := by
    rw [map_fst_appearances]
    exact List.filter_sublist
  refine ⟨hfound, ?_, fun p hp => ?_, pairwise_appearances _ _⟩
  · have hpaths := (hfound.trans List.filter_sublist).map (·.path)
    rw [List.map_map] at hpaths
    exact (Discovery.inOrder_discover w.files dirs).sublist hpaths
  · obtain ⟨-, plugin, hverdict, heq⟩ := mem_appearances hp
    refine ⟨plugin, generate_of_verdict hverdict, ?_⟩
    conv_rhs => rw [heq]
    exact loadTask_of_verdict hverdict _ _

variable (hw : w.Fresh) (hpage : AllPages schema i options (candidates w dirs permitted) w.files)
include hw hpage

theorem complete_of_fresh :
    Complete schema i options (candidates w dirs permitted) (w.bootstrap schema i dirs options permitted) :=
  complete_bootstrap (hw.answer _ _) hpage hw.registry

theorem endState_of_fresh :
    EndState i options (candidates w dirs permitted)
      (appearances schema i options (candidates w dirs permitted) w.loaded (candidates w dirs permitted))
      (w.bootstrap schema i dirs options permitted) := by
  have hafter := (bootstrap_spec w schema i dirs options permitted).2.2
  refine endState_of_tasks ?_ ?_ ?_ fun p hp => (spec_of_mem_appearances hp).2.2.2
  · rw [(complete_of_fresh hw hpage).integrated, ← map_fst_appearances, List.map_map]
    refine List.map_congr_left fun p hp => ?_
    obtain ⟨hid, hversion, htype, -⟩ := spec_of_mem_appearances hp
    rw [hid, hversion, htype]
    rfl
  · rw [hafter, registry_afterAll, hw.registry]
  · rw [hafter, records_afterAll_of_pages hpage, hw.records]

end

/-- Where no page fails, a bootstrap of a fresh installation leaves what its integrated descriptors make, in the order
    in which they are found. -/
theorem exists_endState (schema : Schema) (i : Integrator) (dirs : List Path) (options : BootstrapOptions)
    (permitted : String → Bool) (files : FileTree) (loaded : Nat)
    (hpages : ∀ s ∈ (({ files, loaded } : Installation).bootstrap schema i dirs options permitted).report.skipped,
      ∀ page cause, s.reason ≠ (Failure.helpPublish page cause).message) :
    ∃ appearances, Appear { files, loaded } schema i dirs options permitted appearances ∧
      EndState i options (candidates ({ files, loaded } : Installation) dirs permitted) appearances
        (({ files, loaded } : Installation).bootstrap schema i dirs options permitted) :=
  ⟨_, appear_appearances _ schema i dirs options permitted, endState_of_fresh ⟨rfl, rfl⟩ (allPages_of_reasons hpages)⟩

theorem skipped_twoVersions :
    (({ files := twoVersions } : Installation).bootstrap .bundled ⟨.client, "help"⟩ ["d", "e"] {}
      fun _ => true).report.skipped.map (fun s => (s.path, s.reason.toList.head?)) = [("e/a.json", some 'D')] := by
  decide +kernel

/-- The descriptor that is skipped is not skipped because of its page. -/
theorem reasons_twoVersions :
    ∀ s ∈ (({ files := twoVersions } : Installation).bootstrap .bundled ⟨.client, "help"⟩ ["d", "e"] {}
      fun _ => true).report.skipped, ∀ page cause, s.reason ≠ (Failure.helpPublish page cause).message := by
  intro s hs page cause heq
  have hreason := List.mem_map_of_mem (f := fun s : SkippedDescriptor => (s.path, s.reason.toList.head?)) hs
  rw [skipped_twoVersions, List.mem_singleton, heq, head?_message_helpPublish] at hreason
  have hletter : some 'F' = some 'D' := congrArg Prod.snd hreason
  exact absurd hletter (by decide)

theorem exists_endState_twoVersions :
    (({ files := twoVersions } : Installation).bootstrap .bundled ⟨.client, "help"⟩ ["d", "e"] {}
        fun _ => true).report.skipped.map (·.path) = ["e/a.json"] ∧
      ∃ appearances, Appear { files := twoVersions } .bundled ⟨.client, "help"⟩ ["d", "e"] {} (fun _ => true)
          appearances ∧
        EndState ⟨.client, "help"⟩ {} (candidates ({ files := twoVersions } : Installation) ["d", "e"] fun _ => true) appearances
          (({ files := twoVersions } : Installation).bootstrap .bundled ⟨.client, "help"⟩ ["d", "e"] {}
            fun _ => true) := by
  constructor
  · have hpaths := congrArg (List.map Prod.fst) skipped_twoVersions
    rwa [List.map_map] at hpaths
  · exact exists_endState .bundled ⟨.client, "help"⟩ ["d", "e"] {} (fun _ => true) twoVersions 0 reasons_twoVersions

end Bootstrap

end ToolPlugins
