import Mathlib
import ToolPlugins.Proofs.Definition.RoundTrip
import ToolPlugins.Proofs.Installation.Integrate
import ToolPlugins.Proofs.Schema.Bundled

/-!
The definitions of plugins that were generated in strict mode with the bundled schema. The schema and the
rules for definitions ask for the same, but for texts that are blank and identifiers that repeat, which the
rules alone refuse.
-/

namespace ToolPlugins

/-- What the rules for definitions ask of a descriptor beyond the bundled schema. -/
structure Descriptor.KeepsRules (d : Descriptor) (side : DefinitionContext) : Prop where
  version : HasInk d.version
  inputsDiffer : (d.inputs.map (Json.get? "id")).Nodup
  outputsDiffer : (d.outputs.map (Json.get? "id")).Nodup
  command : side = .worker → ∃ command, d.commandLine? = some command ∧ HasInk command

namespace Descriptor

/-- The items of a list are those of the array under its key. -/
theorem exists_of_mem_list {d : Descriptor} {key : String} {entry : Json} (h : entry ∈ d.list key) :
    ∃ items, d.get? key = some (.array items) ∧ entry ∈ items := by
  rw [list] at h
  cases hkey : d.get? key with
  | none => simp [hkey] at h
  | some v =>
    cases v with
    | array items => exact ⟨items, rfl, by simpa [hkey, Json.array?] using h⟩
    | _ => simp [hkey, Json.array?] at h

variable {d : Descriptor}

theorem Accepted.input (hd : d.Accepted) : ∀ entry ∈ d.inputs, AcceptedInput entry := by
  intro entry hentry
  obtain ⟨items, hitems, hmem⟩ := exists_of_mem_list hentry
  obtain ⟨items', heq, hall⟩ := hd.inputs _ hitems
  cases heq
  exact hall entry hmem

theorem Accepted.output (hd : d.Accepted) : ∀ entry ∈ d.outputs, AcceptedOutput entry := by
  intro entry hentry
  obtain ⟨items, hitems, hmem⟩ := exists_of_mem_list hentry
  obtain ⟨items', heq, hall⟩ := hd.outputs _ hitems
  cases heq
  exact hall entry hmem

/-- A field that is a text if it is there may be left out. -/
theorem nullableText_of_forall {field : Option Json} (h : ∀ v, field = some v → ∃ s, v = .string s) :
    NullableText field := by
  cases field with
  | none => exact .inl rfl
  | some v =>
    obtain ⟨s, rfl⟩ := h v rfl
    exact .inr (.inr ⟨s, rfl⟩)

/-- Of a descriptor that the schema accepts, the rest of the rules decides. -/
theorem Accepted.loadable_iff (hd : d.Accepted) {side : DefinitionContext} : d.Loadable side ↔ d.KeepsRules side := by
  obtain ⟨name, hname, -⟩ := hd.name
  obtain ⟨version, hversion, -⟩ := hd.version
  constructor
  · intro h
    obtain ⟨_, hversion', hink⟩ := h.version
    exact {
      version := version_eq hversion' ▸ hink
      inputsDiffer := h.inputsDiffer
      outputsDiffer := h.outputsDiffer
      command := fun hside => by simpa only [commandLine?_eq_some_iff] using h.command hside }
  · intro h
    exact {
      name := ⟨name, hname⟩
      version := ⟨version, hversion, version_eq hversion ▸ h.version⟩
      description := nullableText_of_forall hd.description
      valueKeys := fun entry hentry => nullableText_of_forall (hd.input entry hentry).valueKey
      inputIds := fun entry hentry => (hd.input entry hentry).id
      outputIds := fun entry hentry => (hd.output entry hentry).id
      inputsDiffer := h.inputsDiffer
      outputsDiffer := h.outputsDiffer
      command := fun hside => by simpa only [commandLine?_eq_some_iff] using h.command hside }

end Descriptor

namespace Definition

/-- A plugin that was generated in strict mode is one of a descriptor without errors. -/
theorem generate_strict_eq_ok_iff {schema : Schema} {d : Descriptor} {p : GeneratedPlugin} :
    (generate schema d .strict).1 = .ok p ↔
      schema.validate d = [] ∧ ∃ a, render schema d = .ok a ∧
        p = { identifier := Identifier.classify d.name, descriptor := d, errors := [], artifacts := a } := by
  rw [generate]
  cases herrors : schema.validate d with
  | cons e errors => simp
  | nil =>
    cases hrender : render schema d with
    | error problem => simp [Except.map, Except.mapError]
    | ok a => simp [Except.map, Except.mapError, eq_comm]

theorem definitionKind_eq (i : Integrator) : i.definitionKind = i.context.definitionContext.artifact := by
  rw [Integrator.definitionKind]
  cases i.context.definitionContext with
  | client => rfl
  | worker => rfl

/-- The definition of a side of a plugin that was generated in strict mode is loaded exactly when its
    descriptor keeps the rules that the bundled schema does not know. -/
theorem load_strict_iff {d : Descriptor} {p : GeneratedPlugin} (h : (generate .bundled d .strict).1 = .ok p)
    (side : DefinitionContext) :
    (∃ t, load (p.artifacts.body side.artifact) p.identifier side = .ok t) ↔ d.KeepsRules side := by
  obtain ⟨hvalid, a, hrender, rfl⟩ := generate_strict_eq_ok_iff.mp h
  obtain ⟨text, hfill, hbody⟩ := fill_of_render hrender side.artifact
  rw [← (Schema.validate_bundled_eq_nil_iff.mp hvalid).loadable_iff, hbody]
  constructor
  · rintro ⟨t, ht⟩
    exact ((load_eq_ok_iff_loadable hfill).mp ht).1
  · intro hd
    exact ⟨_, (load_eq_ok_iff_loadable hfill).mpr ⟨hd, rfl⟩⟩

theorem exists_load_problem_iff {source expected : String} {side : DefinitionContext} :
    (∃ problem, load source expected side = .error problem) ↔ ¬∃ t, load source expected side = .ok t := by
  cases load source expected side with
  | error problem => simp
  | ok t => simp

/-- Strict generation with the bundled schema leaves four things to the rules for definitions: that the
    version is not blank, that neither the inputs nor the output files share an identifier, and, for the
    worker, that the command is not blank. They decide whether the definitions load and whether an
    integration fails to load, whatever store keeps the records. -/
theorem strict_plugin_loads_iff {d : Descriptor} {p : GeneratedPlugin}
    (h : (generate .bundled d .strict).1 = .ok p) :
    (∀ side : DefinitionContext,
      (∃ t, load (p.artifacts.body side.artifact) p.identifier side = .ok t) ↔ d.KeepsRules side) ∧
    ∀ {σ : Type} [ToolStore σ], ToolStore.OwnFailures σ →
      ∀ (w : Installation σ) (i : Integrator) (options : IntegrationOptions),
        (∃ problem, (w.integrate i p options).result = .error (.load problem)) ↔
          ¬d.KeepsRules i.context.definitionContext := by
  refine ⟨load_strict_iff h, fun hown w i options => ?_⟩
  simp only [Installation.integrate_load_error_iff hown, definitionKind_eq, exists_load_problem_iff, load_strict_iff h]

/-- A descriptor with no more than a name, a version and a command. -/
def bareDescriptor (version command : String) : Descriptor where
  fields := [("command-line", .string command), ("name", .string "a"), ("tool-version", .string version)]

theorem bareDescriptor_accepted {version command : String} (hv : version ≠ "") (hc : command ≠ "") :
    (bareDescriptor version command).Accepted where
  name := ⟨"a", rfl, by decide⟩
  version := ⟨version, rfl, hv⟩
  commandLine := ⟨command, rfl, hc⟩
  schemaVersion := by rintro v ⟨⟩
  description := by rintro v ⟨⟩
  dockerImage := by rintro v ⟨⟩
  container := by rintro v ⟨⟩
  inputs := by rintro v ⟨⟩
  outputs := by rintro v ⟨⟩

theorem generate_bareDescriptor {version command : String} (hv : version ≠ "") (hc : command ≠ "") :
    ∃ p, (generate .bundled (bareDescriptor version command) .strict).1 = .ok p := by
  obtain ⟨a, ha⟩ : ∃ a, render .bundled (bareDescriptor version command) = .ok a :=
    exists_render_of_fill fun kind => by cases kind <;> exact ⟨_, rfl⟩
  have hvalid := Schema.validate_bundled_eq_nil_iff.mpr (bareDescriptor_accepted hv hc)
  exact ⟨_, generate_strict_eq_ok_iff.mpr ⟨hvalid, a, ha, rfl⟩⟩

/-- A version that is blank but not empty: generated in strict mode, and loaded for neither side. -/
theorem strict_plugin_of_blank_version :
    ∃ p, (generate .bundled (bareDescriptor " " "x") .strict).1 = .ok p ∧
      (∀ side : DefinitionContext, ¬∃ t, load (p.artifacts.body side.artifact) p.identifier side = .ok t) ∧
      ∀ i : Integrator, ∃ problem, (({} : Installation).integrate i p {}).result = .error (.load problem) := by
  obtain ⟨p, hp⟩ := @generate_bareDescriptor " " "x" (by decide) (by decide)
  have hnot : ∀ side : DefinitionContext, ¬∃ t, load (p.artifacts.body side.artifact) p.identifier side = .ok t := by
    intro side hload
    obtain ⟨c, hc, hink⟩ := ((load_strict_iff hp side).mp hload).version
    obtain rfl := List.mem_singleton.mp hc
    exact absurd hink (by decide)
  refine ⟨p, hp, hnot, fun i => ?_⟩
  obtain ⟨problem, hproblem⟩ := exists_load_problem_iff.mpr (hnot i.context.definitionContext)
  rw [← definitionKind_eq] at hproblem
  exact ⟨problem, (Installation.integrate_load_error_iff RecordStore.ownFailures).mpr hproblem⟩

/-- A descriptor with two inputs and two output files. -/
def copyDescriptor : Descriptor where
  fields :=
    [("command-line", .string "copy [SOURCE] [MODE]"),
      ("inputs", .array
        [.object [("id", .string "source"), ("name", .string "Source"), ("type", .string "File"),
            ("value-key", .string "[SOURCE]")],
          .object [("id", .string "mode"), ("name", .string "Mode"), ("optional", .bool true), ("type", .string "String"),
            ("value-key", .string "[MODE]")]]),
      ("name", .string "copy"),
      ("output-files", .array
        [.object [("id", .string "copy"), ("name", .string "Copy"), ("path-template", .string "[SOURCE].copy")],
          .object [("id", .string "log"), ("name", .string "Log"), ("path-template", .string "copy.log")]]),
      ("tool-version", .string "1")]

theorem generate_copyDescriptor : ∃ p, (generate .bundled copyDescriptor .strict).1 = .ok p := by
  obtain ⟨a, ha⟩ : ∃ a, render .bundled copyDescriptor = .ok a :=
    exists_render_of_fill fun kind => by cases kind <;> exact ⟨_, rfl⟩
  have hvalid : Schema.bundled.validate copyDescriptor = [] := by decide +kernel
  exact ⟨_, generate_strict_eq_ok_iff.mpr ⟨hvalid, a, ha, rfl⟩⟩

theorem keepsRules_copyDescriptor (side : DefinitionContext) : copyDescriptor.KeepsRules side where
  version := ⟨'1', by decide, by decide⟩
  inputsDiffer := by
    have hids : copyDescriptor.inputs.map (Json.get? "id") = [some (.string "source"), some (.string "mode")] := rfl
    simp [hids]
  outputsDiffer := by
    have hids : copyDescriptor.outputs.map (Json.get? "id") = [some (.string "copy"), some (.string "log")] := rfl
    simp [hids]
  command := fun _ => ⟨_, rfl, 'c', by decide, by decide⟩

/-- Both definitions of the copying tool load, and no integration of it fails to load. -/
theorem strict_plugin_of_copyDescriptor :
    ∃ p, (generate .bundled copyDescriptor .strict).1 = .ok p ∧
      (∀ side : DefinitionContext, ∃ t, load (p.artifacts.body side.artifact) p.identifier side = .ok t) ∧
      ∀ (w : Installation) (i : Integrator) (options : IntegrationOptions),
        ¬∃ problem, (w.integrate i p options).result = .error (.load problem) := by
  obtain ⟨p, hp⟩ := generate_copyDescriptor
  obtain ⟨hload, hintegrate⟩ := strict_plugin_loads_iff hp
  refine ⟨p, hp, fun side => (hload side).mpr (keepsRules_copyDescriptor side), fun w i options hproblem => ?_⟩
  exact (hintegrate RecordStore.ownFailures w i options).mp hproblem (keepsRules_copyDescriptor _)

end Definition

end ToolPlugins
