import Mathlib
import ToolPlugins.Proofs.Registry.Entry
import ToolPlugins.Proofs.Registry.SmallTool

/-!
What type names tell apart. Under one identifier they tell the versions apart: an instance is of the type of another
one exactly when both are bound to one version. Across identifiers they do so unless one identifier is another one, a
capital V and letters and digits with which a version of the other one begins.
-/

namespace ToolPlugins

/-! ### One identifier -/

section
variable {p q : LoadedTask}

theorem LoadedTask.isA_iff {name : String} :
    p.isA name = true ↔ name = p.typeName ∨ name = p.identifier ∨ name = p.qualifiedName := by
  simp only [isA, Bool.or_eq_true, beq_iff_eq, or_assoc]

theorem LoadedTask.Named.isA_iff_version (hp : p.Named true) (hq : q.Named true) (hid : p.identifier = q.identifier) :
    p.isA q.typeName = true ↔ p.version = q.version := by
  have hpname : p.typeName = Identifier.versionTypeName q.identifier p.version := by
    rw [hp.typeName, if_pos rfl, hid]
  have hqname : q.typeName = Identifier.versionTypeName q.identifier q.version := by
    rw [hq.typeName, if_pos rfl]
  rw [LoadedTask.isA_iff, hqname, hpname, LoadedTask.qualifiedName, hid]
  constructor
  · rintro (h | h | h)
    · exact (Identifier.versionTypeName_injective _ h).symm
    · exact absurd h (Identifier.versionTypeName_ne_identifier _ _)
    · exact absurd h (Identifier.versionTypeName_ne_qualifiedName _ _)
  · intro h
    rw [h]
    exact .inl rfl

end

/-- Whatever was integrated, and whichever versions the instances were given: two instances made under one identifier
    and bound through its switchers are of each other's type exactly when they are bound to one version. Type names
    tell all versions of an identifier apart, and from the names of the identifier itself. -/
theorem Session.isA_iff_version_of_run {σ : Type} [ToolStore σ] (records : σ) (files : FileTree) (loaded : Nat)
    {steps : List (SessionStep σ)} (hsteps : ∀ st ∈ steps, st.Integrates) :
    (∀ (m n : Nat) (a b : SwitchedTask) (p q : LoadedTask),
      (run { installation := { records, files, loaded } } steps).instances[m]? = some (.switched a) →
      (run { installation := { records, files, loaded } } steps).instances[n]? = some (.switched b) →
      a.identifier = b.identifier → a.bound = some p → b.bound = some q →
        ((TaskInstance.switched a).isA (TaskInstance.switched b).typeName = true ↔ p.version = q.version)) ∧
    (∀ identifier, Function.Injective (Identifier.versionTypeName identifier)) ∧
    ∀ identifier version, Identifier.versionTypeName identifier version ≠ identifier ∧
      Identifier.versionTypeName identifier version ≠ qualifiedName identifier := by
  refine ⟨?_, Identifier.versionTypeName_injective, fun identifier version =>
    ⟨Identifier.versionTypeName_ne_identifier _ _, Identifier.versionTypeName_ne_qualifiedName _ _⟩⟩
  intro m n a b p q ha hb hid hp hq
  have hnamed := (named_start records files loaded).run hsteps
  obtain ⟨hpname, hpid⟩ := (hnamed.instances _ (List.mem_of_getElem? ha)).2 p hp
  obtain ⟨hqname, hqid⟩ := (hnamed.instances _ (List.mem_of_getElem? hb)).2 q hq
  have hanswers := TaskInstance.answersAs_of_task (i := .switched a) hp
  have hanswers' := TaskInstance.answersAs_of_task (i := .switched b) hq
  rw [hanswers.isA, hanswers'.typeName]
  exact hpname.isA_iff_version hqname (hpid.trans (hid.trans hqid.symm))

def Session.twoVersions : List SmallTool := [⟨"a", "1", true⟩, ⟨"a", "2", true⟩]

/-- Three instances of a tool: one for each of its versions, and one for a version that is not there. -/
def Session.threeInstances : List SessionStep :=
  (twoVersions.flatMap SmallTool.ops).map .registry ++
    ([.instantiate "A", .instantiate "A", .instantiate "A", .bind 0 "1", .bind 1 "2", .bind 2 "9"] : List SessionStep)

theorem Session.run_threeInstances :
    (∀ st ∈ threeInstances, st.Integrates) ∧ ∃ p q : LoadedTask, p.version = "1" ∧ q.version = "2" ∧
      (run { installation := {} } threeInstances).instances =
        [.switched ⟨0, "A", "1", p⟩, .switched ⟨0, "A", "2", q⟩, .switched ⟨0, "A", "9", p⟩] := by
  obtain ⟨hops, hchanges⟩ := SmallTool.registers_changes twoVersions (by decide) {}
  generalize hw : ({} : Installation).run (twoVersions.flatMap SmallTool.ops) = w
  have hregistry := Installation.registry_run ({} : Installation) (twoVersions.flatMap SmallTool.ops)
  generalize Installation.changes ({} : Installation) _ = changes at hchanges hregistry
  obtain _ | ⟨⟨p, rfl, hpid, hpversion⟩, _ | ⟨⟨q, rfl, hqid, hqversion⟩, _ | _⟩⟩ := hchanges
  have hname : Identifier.classify "a" = "A" := rfl
  rw [hname] at hpid hqid
  have hw' : w.registry = ⟨[], [("A", 0)], [⟨"A", [("1", p), ("2", q)]⟩]⟩ := by
    rw [← hw, hregistry]
    simp [Registry.changed, RegistryChange.ofTask, Registry.registerVersion, Registry.openSwitcher, Registry.addSwitcher,
      Registry.switcher?, VersionSwitcher.addVersion, VersionSwitcher.add, Table.insert, Table.get?, Table.erase, hpid, hqid,
      hpversion, hqversion]
  refine ⟨?_, p, q, hpversion, hqversion, ?_⟩
  · intro st hst
    rcases List.mem_append.mp hst with hst | hst
    · obtain ⟨op, hop, rfl⟩ := List.mem_map.mp hst
      exact hops op hop
    · fin_cases hst <;> trivial
  · rw [threeInstances, run_append, run_registry]
    dsimp only
    rw [hw]
    obtain ⟨registry, records, files, loaded⟩ := w
    obtain rfl : registry = _ := hw'
    rfl

/-- The first two instances have different versions, and the first is not of the type of the second. The third fell
    back to the version of the first, and is of its type. -/
theorem Session.isA_threeInstances :
    (∀ st ∈ threeInstances, st.Integrates) ∧ ∃ (a b c : SwitchedTask) (p q : LoadedTask),
      (run { installation := {} } threeInstances).instances = [.switched a, .switched b, .switched c] ∧
      a.bound = some p ∧ b.bound = some q ∧ c.bound = some p ∧
      (TaskInstance.switched a).isA (TaskInstance.switched b).typeName = false ∧
      (TaskInstance.switched c).isA (TaskInstance.switched a).typeName = true := by
  obtain ⟨hsteps, p, q, hp, hq, hrun⟩ := run_threeInstances
  have hinstance := fun n : Nat => congrArg (fun instances => instances[n]?) hrun
  have hisA := (isA_iff_version_of_run {} {} 0 hsteps).1
  refine ⟨hsteps, _, _, _, p, q, hrun, rfl, rfl, rfl, ?_, ?_⟩
  · rw [Bool.eq_false_iff, ne_eq, hisA 0 1 _ _ p q (hinstance 0) (hinstance 1) rfl rfl rfl, hp, hq]
    decide
  · exact (hisA 2 0 _ _ p p (hinstance 2) (hinstance 0) rfl rfl rfl).mpr rfl

/-! ### Two identifiers -/

/-- The registry contains a task, alone under an identifier or as a version of a switcher. -/
def Registry.Contains (r : Registry) (task : LoadedTask) (multiVersion : Bool) : Prop :=
  if multiVersion then ∃ identifier version, r.HasVersion identifier version task
  else ∃ identifier, r.lookup identifier = some (.generic task)

theorem Registry.Named.task {r : Registry} (h : r.Named) {task : LoadedTask} {multiVersion : Bool}
    (htask : r.Contains task multiVersion) : task.Named multiVersion := by
  cases multiVersion with
  | true =>
    obtain ⟨identifier, version, id, s, -, hs, hget⟩ := htask
    exact h.switchers s (List.mem_of_getElem? hs) version task hget
  | false =>
    obtain ⟨identifier, hlookup⟩ := htask
    exact h.generic identifier task (generic_of_lookup hlookup)

/-- A version of one task begins with what another identifier goes on with: the other identifier is the one of the
    task, a capital V and some text, and the version is that text, followed by a V and the version of the other task
    if that is one of several. -/
def LoadedTask.RunsInto (p : LoadedTask) (multiVersion : Bool) (q : LoadedTask) (multiVersion' : Bool) : Prop :=
  multiVersion = true ∧ ∃ x, q.identifier = p.identifier ++ "V" ++ x ∧
    p.version = if multiVersion' then x ++ "V" ++ q.version else x

namespace LoadedTask

section
variable {p q : LoadedTask} {m n : Bool}

theorem Named.typeName_eq_identifier_iff (hq : q.Named n) (hp : p.Named m) (hne : p.identifier ≠ q.identifier) :
    q.typeName = p.identifier ↔ n = true ∧ p.identifier = q.identifier ++ "V" ++ q.version := by
  cases n with
  | false =>
    rw [hq.typeName]
    simp [hne.symm]
  | true =>
    rw [hq.typeName, if_pos rfl, Identifier.versionTypeName_eq_iff hp.canonical]
    simp

theorem Named.typeName_eq_typeName_iff (hp : p.Named m) (hq : q.Named n) (hne : p.identifier ≠ q.identifier) :
    p.typeName = q.typeName ↔ p.RunsInto m q n ∨ q.RunsInto n p m := by
  cases m with
  | false =>
    have hname : p.typeName = p.identifier := by
      rw [hp.typeName]
      simp
    rw [hname, eq_comm, hq.typeName_eq_identifier_iff hp hne]
    simp [RunsInto]
  | true =>
    cases n with
    | false =>
      have hname : q.typeName = q.identifier := by
        rw [hq.typeName]
        simp
      rw [hname, hp.typeName_eq_identifier_iff hq hne.symm]
      simp [RunsInto]
    | true =>
      rw [hp.typeName, hq.typeName, if_pos rfl, if_pos rfl,
        Identifier.versionTypeName_eq_versionTypeName_iff hp.canonical hq.canonical hne]
      simp [RunsInto]

theorem Named.isWord_of_mem_typeName (hp : p.Named m) : ∀ c ∈ p.typeName.toList, Text.isWord c = true := by
  have hid : ∀ c ∈ p.identifier.toList, Text.isWord c = true := fun c hc => by
    simp [Text.isWord, Identifier.isAlphanum_of_isCanonical hp.canonical c hc]
  intro c hc
  rw [hp.typeName] at hc
  split_ifs at hc
  · rw [Identifier.toList_versionTypeName] at hc
    rcases List.mem_append.mp hc with hc | hc
    · exact hid c hc
    · rcases List.mem_cons.mp hc with rfl | hc
      · decide
      · exact Identifier.isWord_of_mem_versionChars hc
  · exact hid c hc

theorem Named.typeName_ne_qualifiedName (hq : q.Named n) (identifier : String) :
    q.typeName ≠ ToolPlugins.qualifiedName identifier := by
  intro h
  have hcolon := hq.isWord_of_mem_typeName ':' (by rw [h]; simp [ToolPlugins.qualifiedName])
  exact absurd hcolon (by decide)

theorem Named.isA_iff_of_ne (hp : p.Named m) (hq : q.Named n) (hne : p.identifier ≠ q.identifier) :
    p.isA q.typeName = true ↔
      p.typeName = q.typeName ∨ n = true ∧ p.identifier = q.identifier ++ "V" ++ q.version := by
  rw [LoadedTask.isA_iff, hq.typeName_eq_identifier_iff hp hne, eq_comm (a := q.typeName)]
  simp only [LoadedTask.qualifiedName, hq.typeName_ne_qualifiedName, or_false]

end

end LoadedTask

/-- Whatever was integrated: two tasks with different identifiers share a type name exactly when the version of one of
    them, being one of several, runs into the identifier of the other. A task accepts the type name of another one when
    they share it, or when the other is a version whose type name is the identifier of the first. -/
theorem Installation.typeName_eq_iff_of_run {σ : Type} [ToolStore σ] (records : σ) (files : FileTree) (loaded : Nat)
    {ops : List (RegistryOp σ)} (hops : ∀ op ∈ ops, op.Integrates) {p q : LoadedTask} {m n : Bool}
    (hp : (({ records, files, loaded } : Installation σ).run ops).registry.Contains p m)
    (hq : (({ records, files, loaded } : Installation σ).run ops).registry.Contains q n)
    (hne : p.identifier ≠ q.identifier) :
    (p.typeName = q.typeName ↔ p.RunsInto m q n ∨ q.RunsInto n p m) ∧
      (p.isA q.typeName = true ↔
        p.typeName = q.typeName ∨ n = true ∧ p.identifier = q.identifier ++ "V" ++ q.version) := by
  have hnamed := named_run (w := { records, files, loaded }) Registry.sound_empty Registry.named_empty hops
  exact ⟨(hnamed.task hp).typeName_eq_typeName_iff (hnamed.task hq) hne, (hnamed.task hp).isA_iff_of_ne (hnamed.task hq) hne⟩

namespace Installation

/-- Three tools of which each has the name of the one before, a capital V and the version of that one. The first two are
    registered as versions. -/
def chainedTools : List SmallTool := [⟨"a", "1", true⟩, ⟨"AV1", "2", true⟩, ⟨"AV1V2", "3", false⟩]

def chainedOps : List RegistryOp := chainedTools.flatMap SmallTool.ops

theorem exists_tasks_chainedTools :
    (∀ op ∈ chainedOps, op.Integrates) ∧ ∃ p q t : LoadedTask,
      (p.identifier = "A" ∧ p.version = "1") ∧ (q.identifier = "AV1" ∧ q.version = "2") ∧ t.identifier = "AV1V2" ∧
      (({} : Installation).run chainedOps).registry.Contains p true ∧
      (({} : Installation).run chainedOps).registry.Contains q true ∧
      (({} : Installation).run chainedOps).registry.Contains t false := by
  obtain ⟨hops, hchanges⟩ := SmallTool.registers_changes chainedTools (by decide) {}
  have hregistry := registry_run ({} : Installation) (chainedTools.flatMap SmallTool.ops)
  generalize changes ({} : Installation) _ = changes at hchanges hregistry
  obtain _ | ⟨⟨p, rfl, hpid, hpversion⟩, _ | ⟨⟨q, rfl, hqid, hqversion⟩, _ | ⟨⟨t, rfl, htid, -⟩, _ | _⟩⟩⟩ := hchanges
  have hnames : Identifier.classify "a" = "A" ∧ Identifier.classify "AV1" = "AV1" ∧
      Identifier.classify "AV1V2" = "AV1V2" := by
    decide +kernel
  rw [hnames.1] at hpid
  rw [hnames.2.1] at hqid
  rw [hnames.2.2] at htid
  have hchained : (({} : Installation).run chainedOps).registry =
      ⟨[("AV1V2", t)], [("A", 0), ("AV1", 1)], [⟨"A", [("1", p)]⟩, ⟨"AV1", [("2", q)]⟩]⟩ := by
    rw [chainedOps, hregistry]
    simp [Registry.changed, RegistryChange.ofTask, Registry.registerVersion, Registry.openSwitcher, Registry.addSwitcher,
      Registry.register, Registry.switcher?, VersionSwitcher.addVersion, VersionSwitcher.add, Table.insert, Table.get?,
      Table.erase, hpid, hqid, htid, hpversion, hqversion]
  rw [hchained]
  refine ⟨hops, p, q, t, ⟨hpid, hpversion⟩, ⟨hqid, hqversion⟩, htid, ?_, ?_, ?_⟩
  · exact ⟨"A", "1", 0, ⟨"A", [("1", p)]⟩, rfl, rfl, rfl⟩
  · exact ⟨"AV1", "2", 1, ⟨"AV1", [("2", q)]⟩, rfl, rfl, rfl⟩
  · exact ⟨"AV1V2", rfl⟩

/-- Tools with different identifiers may have one type name, and each be of the type of the other; and a tool may be of
    the type of another one that has a type name of its own. -/
theorem same_typeName_chainedTools :
    (∀ op ∈ chainedOps, op.Integrates) ∧ ∃ p q t : LoadedTask,
      (({} : Installation).run chainedOps).registry.Contains p true ∧
      (({} : Installation).run chainedOps).registry.Contains q true ∧
      (({} : Installation).run chainedOps).registry.Contains t false ∧
      p.identifier ≠ q.identifier ∧ q.identifier ≠ t.identifier ∧
      q.typeName = t.typeName ∧ q.isA t.typeName = true ∧ t.isA q.typeName = true ∧
      p.typeName ≠ q.typeName ∧ q.isA p.typeName = true := by
  obtain ⟨hops, p, q, t, ⟨hpid, hpversion⟩, ⟨hqid, hqversion⟩, htid, hp, hq, ht⟩ := exists_tasks_chainedTools
  have hnamed := named_run (w := {}) Registry.sound_empty Registry.named_empty hops
  have hpname : p.typeName = "AV1" := by
    rw [(hnamed.task hp).typeName, hpid, hpversion]
    decide +kernel
  have hqname : q.typeName = "AV1V2" := by
    rw [(hnamed.task hq).typeName, hqid, hqversion]
    decide +kernel
  have htname : t.typeName = "AV1V2" := (hnamed.task ht).typeName.trans htid
  refine ⟨hops, p, q, t, hp, hq, ht, ?_⟩
  simp [LoadedTask.isA_iff, hpname, hqname, htname, hpid, hqid, htid]

/-- The second tool shares its type name with the third, and accepts the one of the first. -/
theorem typeName_eq_iff_chainedTools :
    (∀ op ∈ chainedOps, op.Integrates) ∧ ∃ p q t : LoadedTask,
      (({} : Installation).run chainedOps).registry.Contains p true ∧
      (({} : Installation).run chainedOps).registry.Contains q true ∧
      (({} : Installation).run chainedOps).registry.Contains t false ∧
      p.identifier ≠ q.identifier ∧ q.identifier ≠ t.identifier ∧
      q.typeName = t.typeName ∧ q.isA p.typeName = true := by
  obtain ⟨hops, p, q, t, ⟨hpid, hpversion⟩, ⟨hqid, hqversion⟩, htid, hp, hq, ht⟩ := exists_tasks_chainedTools
  have hpq : p.identifier ≠ q.identifier := by
    rw [hpid, hqid]
    decide
  have hqt : q.identifier ≠ t.identifier := by
    rw [hqid, htid]
    decide
  refine ⟨hops, p, q, t, hp, hq, ht, hpq, hqt, ?_, ?_⟩
  · refine (typeName_eq_iff_of_run ({} : RecordStore) {} 0 hops hq ht hqt).1.mpr (.inl ⟨rfl, "2", ?_, hqversion⟩)
    rw [htid, hqid]
    rfl
  · refine (typeName_eq_iff_of_run ({} : RecordStore) {} 0 hops hq hp hpq.symm).2.mpr (.inr ⟨rfl, ?_⟩)
    rw [hqid, hpid, hpversion]
    rfl

end Installation

end ToolPlugins
