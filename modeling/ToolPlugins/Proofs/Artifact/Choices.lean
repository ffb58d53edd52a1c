import Mathlib
import ToolPlugins.Proofs.Artifact.Views

/-!
Which of its choices an input begins with. The form marks the choices that have the text of the default. An input without
a default is treated as one whose default has no text, and so a choice without a text is marked for it.
-/

namespace ToolPlugins

open Text (HasTags Tag tags)

namespace Rows

/-- An option of the form is the one for a choice: it has the text of the choice, and it is marked exactly when that is the
    text of the default, or when it is empty and there is no default. -/
structure IsOptionOf (entry choice : Json) (tag : Tag) : Prop where
  value : tag.value? "value" = some (Text.escaped (String.ofList (valueText choice)))
  selected : tag.has "selected" = true ↔
    (∃ default, entry.get? "default-value" = some default ∧ valueText choice = valueText default) ∨
      (entry.get? "default-value" = none ∧ valueText choice = [])

/-- The options in a row of the form. -/
def options (row : List Char) : List Tag := (tags row).filter fun tag => tag.name == "option"

theorem defaultText_eq_iff {entry : Json} {text : List Char} :
    text = defaultText entry ↔ (∃ default, entry.get? "default-value" = some default ∧ text = valueText default) ∨
      (entry.get? "default-value" = none ∧ text = []) := by
  rw [defaultText]
  cases entry.get? "default-value" with
  | none => simp
  | some default => simp

theorem isOptionOf_choiceTag (entry choice : Json) : IsOptionOf entry choice (choiceTag (defaultText entry) choice) where
  value := Tag.value?_mark _ (by decide) _
  selected := by
    rw [choiceTag, Tag.has_mark, ← defaultText_eq_iff]
    simp [Tag.has]

theorem options_of_formRow {index : Nat} {entry : Json} {row : List Char} (h : formRow index entry = .ok row) :
    options row = ((choices? entry).getD []).map (choiceTag (defaultText entry)) := by
  obtain ⟨label, control, others, htags, hcontrol, -, hoptions⟩ := exists_hasTags_formRow h
  have hname : ¬(control.name == "option") = true := by
    intro heq
    have hcontrol := hcontrol.isControl
    rw [Tag.isControl, beq_iff_eq.mp heq] at hcontrol
    exact absurd hcontrol (by decide)
  rw [options, htags.tags_eq, List.filter_append, @List.filter_cons_of_neg _ _ control _ hname, List.filter_append,
    hoptions]
  exact List.append_nil _

end Rows

theorem Artifacts.options_of_render {schema : Schema} {d : Descriptor} {a : Artifacts} (h : render schema d = .ok a) :
    ∃ name version rows, d.get? "name" = some name ∧ d.get? "tool-version" = some version ∧
      a.params.toList =
        Template.formHead (Identifier.classify d.name).toList (Rows.valueText name) (Rows.valueText version) ++
          Rows.joinLines rows ++ Template.formEnd ∧
      List.Forall₂ (fun entry row => ∀ choices, Rows.choices? entry = some choices →
        List.Forall₂ (Rows.IsOptionOf entry) choices (Rows.options row)) d.inputs rows := by
  obtain ⟨name, version, rows, hname, hversion, hrows, hparams⟩ := Template.fill_params (exists_fill h .paramsTemplate)
  refine ⟨name, version, rows, hname, hversion, hparams, Definition.forall₂_of_each (fun index entry row hrow => ?_) hrows⟩
  intro choices hchoices
  rw [Rows.options_of_formRow hrow, hchoices, Option.getD_some, List.forall₂_map_right_iff, List.forall₂_same]
  exact fun choice _ => Rows.isOptionOf_choiceTag entry choice

theorem Artifacts.options_of_render_probe :
    ∃ a rows, render ⟨[], []⟩ .probe = .ok a ∧
      List.Forall₂ (fun entry row => ∀ choices, Rows.choices? entry = some choices →
        List.Forall₂ (Rows.IsOptionOf entry) choices (Rows.options row)) Descriptor.probe.inputs rows := by
  obtain ⟨a, ha⟩ : ∃ a, render ⟨[], []⟩ .probe = .ok a :=
    exists_render_of_fill fun kind => by cases kind <;> exact ⟨_, rfl⟩
  obtain ⟨_, _, rows, -, -, -, hrows⟩ := options_of_render ha
  exact ⟨a, rows, ha, hrows⟩

/-- A descriptor with an input that may be left blank, and has no default. -/
def Descriptor.blankChoice : Descriptor where
  fields :=
    [("command-line", .string "x"),
      ("inputs", .array [.object [("id", .string "mode"), ("type", .string "String"),
        ("value-choices", .array [.string "a", .string ""])]]),
      ("name", .string "a"), ("tool-version", .string "1")]

/-- An input without a default begins with a choice all the same. -/
theorem Artifacts.selected_without_default :
    ∃ a entry row, render ⟨[], []⟩ .blankChoice = .ok a ∧ Descriptor.blankChoice.inputs = [entry] ∧
      entry.get? "default-value" = none ∧ Rows.formRow 0 entry = .ok row ∧ row <:+: a.params.toList ∧
      (Rows.options row).filter (fun tag => tag.has "selected") =
        [⟨"option", [("value", some ""), ("selected", none)]⟩] := by
  obtain ⟨a, ha⟩ : ∃ a, render ⟨[], []⟩ .blankChoice = .ok a :=
    exists_render_of_fill fun kind => by cases kind <;> exact ⟨_, rfl⟩
  obtain ⟨_, _, rows, -, -, hrows, hparams⟩ := Template.fill_params (exists_fill ha .paramsTemplate)
  obtain ⟨row, others, hrow, hothers, rfl⟩ := Definition.each_cons_eq_ok_iff.mp hrows
  cases hothers
  refine ⟨a, _, row, ha, rfl, rfl, hrow, ?_, ?_⟩
  · change a.params.toList = _ at hparams
    rw [hparams, Rows.joinLines_singleton]
    exact List.infix_append _ row _
  · rw [Rows.options_of_formRow hrow]
    rfl

end ToolPlugins
