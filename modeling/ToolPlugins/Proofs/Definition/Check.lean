import Mathlib
import ToolPlugins.Definition.Reader
import ToolPlugins.Proofs.Result
import ToolPlugins.Proofs.Definition.Directives

/-!
The definitions that keep the rules, and when a text is loaded.
-/

namespace ToolPlugins

/-- A text of 1 to 64 letters, digits and underscores. -/
def IsParameterId (id : String) : Prop :=
  1 ≤ id.toList.length ∧ id.toList.length ≤ 64 ∧
    ∀ c ∈ id.toList, ('0' ≤ c ∧ c ≤ '9') ∨ ('A' ≤ c ∧ c ≤ 'Z') ∨ ('a' ≤ c ∧ c ≤ 'z') ∨ c = '_'

/-- A text with a character that is not blank. -/
def HasInk (s : String) : Prop := ∃ c ∈ s.toList, Text.isBlank c = false

theorem isBlankText_eq_false_iff {s : String} : Text.isBlankText s.toList = false ↔ HasInk s := by
  rw [Text.isBlankText, List.all_eq_false]
  simp only [HasInk, Bool.not_eq_true]

instance (s : String) : Decidable (HasInk s) := decidable_of_iff _ isBlankText_eq_false_iff

theorem Text.isWord_iff {c : Char} :
    Text.isWord c = true ↔
      ('0' ≤ c ∧ c ≤ '9') ∨ ('A' ≤ c ∧ c ≤ 'Z') ∨ ('a' ≤ c ∧ c ≤ 'z') ∨ c = '_' := by
  simp only [Text.isWord, Char.isAlphanum, Char.isAlpha, Char.isUpper, Char.isLower, Char.isDigit, Bool.or_eq_true,
    Bool.and_eq_true, decide_eq_true_eq, beq_iff_eq, ge_iff_le]
  change _ ↔ (48 ≤ c.val ∧ c.val ≤ 57) ∨ (65 ≤ c.val ∧ c.val ≤ 90) ∨ (97 ≤ c.val ∧ c.val ≤ 122) ∨ c = '_'
  tauto

namespace TaskDefinition

theorem isId_iff {id : String} : isId id = true ↔ IsParameterId id := by
  simp only [isId, IsParameterId, Bool.and_eq_true, Bool.not_eq_true', List.isEmpty_eq_false_iff, decide_eq_true_eq,
    List.all_eq_true, Text.isWord_iff, Nat.one_le_iff_ne_zero, ne_eq, List.length_eq_zero_iff, and_assoc]
  exact Iff.rfl

/-- Identifiers have no problem when each can be one, and none repeats or was seen before. -/
theorem idProblem?_eq_none_iff {role : Role} {identifier : String} {seen ids : List String} :
    idProblem? role identifier seen ids = none ↔
      (∀ id ∈ ids, IsParameterId id ∧ id ∉ seen) ∧ ids.Nodup := by
  induction ids generalizing seen with
  | nil => simp [idProblem?]
  | cons id rest ih =>
    rw [idProblem?, List.forall_mem_cons, List.nodup_cons]
    split_ifs with hid hseen
    · have hnot : ¬IsParameterId id := fun h => by simp [isId_iff.mpr h] at hid
      simp [hnot]
    · have hmem : id ∈ seen := List.contains_iff_mem.mp hseen
      simp [hmem]
    · have hid' : IsParameterId id := isId_iff.mp (by simpa using hid)
      have hseen' : id ∉ seen := fun h => hseen (List.contains_iff_mem.mpr h)
      rw [ih]
      simp only [List.mem_cons, not_or, hid', hseen', not_false_eq_true, and_self, true_and]
      constructor
      · rintro ⟨hall, hnodup⟩
        exact ⟨fun x hx => ⟨(hall x hx).1, (hall x hx).2.2⟩, fun h => (hall id h).2.1 rfl, hnodup⟩
      · rintro ⟨hall, hnot, hnodup⟩
        exact ⟨fun x hx => ⟨(hall x hx).1, fun h => hnot (h ▸ hx), (hall x hx).2⟩, hnodup⟩

theorem hasCommand_iff {d : TaskDefinition} : d.hasCommand = true ↔ ∃ command, d.command = some command ∧ HasInk command := by
  rw [hasCommand]
  cases d.command with
  | none => simp
  | some command => simp [isBlankText_eq_false_iff]

theorem problem?_eq_none_iff {d : TaskDefinition} :
    d.problem? = none ↔
      Identifier.isCanonical d.identifier = true ∧ HasInk d.version ∧
        (d.context = .worker → ∃ command, d.command = some command ∧ HasInk command) ∧
        ((∀ id ∈ d.inputs.map (·.id), IsParameterId id) ∧ (d.inputs.map (·.id)).Nodup) ∧
        (∀ id ∈ d.outputs.map (·.id), IsParameterId id) ∧ (d.outputs.map (·.id)).Nodup := by
  have hids : ∀ role ids, idProblem? role d.identifier [] ids = none ↔
      (∀ id ∈ ids, IsParameterId id) ∧ ids.Nodup := by
    intro role ids
    simp [idProblem?_eq_none_iff]
  rw [problem?]
  split_ifs with hcanonical hversion hcommand
  · simp at hcanonical
    simp [hcanonical]
  · have hnot : ¬HasInk d.version := fun h => by simp [isBlankText_eq_false_iff.mpr h] at hversion
    simp [hnot]
  · simp only [Bool.and_eq_true, decide_eq_true_eq, Bool.not_eq_true', Bool.eq_false_iff, ne_eq, hasCommand_iff] at hcommand
    simp only [false_iff]
    rintro ⟨-, -, h, -⟩
    exact hcommand.2 (h hcommand.1)
  · have hink : HasInk d.version := isBlankText_eq_false_iff.mp (by simpa using hversion)
    have hcommand' : d.context = .worker → ∃ command, d.command = some command ∧ HasInk command := by
      intro hside
      refine hasCommand_iff.mp ?_
      simpa [hside] using hcommand
    rw [Option.or_eq_none_iff, hids, hids]
    simp only [Bool.not_eq_true', Bool.not_eq_false] at hcanonical
    exact ⟨fun h => ⟨hcanonical, hink, hcommand', h⟩, fun h => h.2.2.2⟩

end TaskDefinition

namespace Definition

/-- The draft that declares a definition. -/
def Draft.of (t : TaskDefinition) : Draft where
  identifier := some t.identifier
  context := some t.context
  tool := some t.tool
  version := some t.version
  description := t.description
  image := t.image
  command := t.command
  inputs := t.inputs
  outputs := t.outputs
  ended := true

theorem Draft.finish_eq_ok_iff {d : Draft} {t : TaskDefinition} : d.finish = .ok t ↔ d = Draft.of t := by
  obtain ⟨identifier, context, tool, version, description, image, command, inputs, outputs, ended⟩ := d
  obtain ⟨⟩ := t
  rw [finish]
  cases ended with
  | false => simp [Draft.of]
  | true =>
    cases identifier <;> cases context <;> cases tool <;> cases version <;>
      simp [Draft.of]

/-- A text is loaded when its lines are read to a complete draft of the expected task and side that keeps
    the rules. -/
theorem load_eq_ok_iff {source expected : String} {side : DefinitionContext} {t : TaskDefinition} :
    load source expected side = .ok t ↔
      Draft.Reads {} (source.toList.splitOn '\n') (Draft.of t) ∧ t.identifier = expected ∧ t.context = side ∧
        t.problem? = none := by
  rw [load, ← @Draft.lines_eq_ok_iff _ _ 1]
  constructor
  · intro h
    split at h
    · cases h
    · next draft hdraft =>
      split at h
      · cases h
      · next definition hfinish =>
        split_ifs at h with hid hside
        split at h
        · cases h
        · next hproblem =>
          cases h
          rw [← Draft.finish_eq_ok_iff.mp hfinish]
          exact ⟨hdraft, not_not.mp hid, not_not.mp hside, hproblem⟩
  · rintro ⟨hdraft, rfl, rfl, hproblem⟩
    have hfinish : (Draft.of t).finish = .ok t := Draft.finish_eq_ok_iff.mpr rfl
    simp [hdraft, hfinish, hproblem]

end Definition

end ToolPlugins
