import Mathlib
import ToolPlugins.Proofs.Definition.Calls
import ToolPlugins.Proofs.Text.Tags

/-!
The control for an input in the form. It is named for the input, it has to be filled in exactly when the input is
required, and of its choices those are marked that are the default.
-/

namespace ToolPlugins.Rows

open Text (HasTags Reads Tag escapeMarkup tags)

/-- The items of the array of choices of an input. -/
def choices? (entry : Json) : Option (List Json) := (entry.get? "value-choices").bind Json.array?

/-- The name that an input goes by in the form. -/
def fieldName (id : String) : String := "params[" ++ Text.escaped id ++ "]"

/-- A tag begins the control for an input. A checkbox may be left as it is, so it never has to be filled in. -/
structure IsControlOf (spec : InputSpec) (choices : Option (List Json)) (tag : Tag) : Prop where
  isControl : tag.isControl = true
  name : tag.value? "name" = some (fieldName spec.id)
  required : tag.has "required" = true ↔ spec.optional = false ∧ tag.value? "type" ≠ some "checkbox"
  checkbox : tag.value? "type" = some "checkbox" ↔ spec.kind = "Flag" ∧ choices = none

/-- The tag of a choice, marked if it is the default. -/
def choiceTag (default : List Char) (choice : Json) : Tag :=
  Tag.mark ⟨"option", [("value", some (Text.escaped (String.ofList (valueText choice))))]⟩ "selected"
    (valueText choice = default)

theorem hasTags_choiceOption (default : List Char) (choice : Json) :
    HasTags (choiceOption default choice) [choiceTag default choice, ⟨"/option", []⟩] := by
  have hvalue := Text.quote_not_mem_escapeMarkup (valueText choice)
  rw [choiceTag, Text.escaped, String.toList_ofList]
  exact .congr (.append (.append (.append (.append (.quoted hvalue rfl) (.mark rfl)) (.close rfl)) (.escaped _))
    (.fixed rfl)) rfl

/-- The tags of a list of choices up to the end of the list. -/
def choiceTags (default : List Char) (choices : List Json) : List Tag :=
  (choices.flatMap fun choice => [choiceTag default choice, ⟨"/option", []⟩]) ++ [⟨"/select", []⟩]

theorem hasTags_choiceOptions (default : List Char) (choices : List Json) :
    HasTags (choices.flatMap (choiceOption default) ++ "</select>".toList) (choiceTags default choices) :=
  .append (.flatMap (hasTags_choiceOption default) choices) (.fixed rfl)

theorem name_of_mem_choiceTags {default : List Char} {choices : List Json} {other : Tag}
    (h : other ∈ choiceTags default choices) : other.name ∈ ["option", "/option", "/select"] := by
  rcases List.mem_append.mp h with h | h
  · obtain ⟨choice, -, h⟩ := List.mem_flatMap.mp h
    fin_cases h <;> simp [choiceTag, Tag.name_mark]
  · simp [List.mem_singleton.mp h]

theorem filter_choiceTags (default : List Char) (choices : List Json) :
    (choiceTags default choices).filter (fun other => other.name == "option") = choices.map (choiceTag default) := by
  rw [choiceTags]
  induction choices with
  | nil => rfl
  | cons choice choices ih =>
    rw [List.flatMap_cons, List.append_assoc, List.cons_append, List.cons_append, List.nil_append,
      List.filter_cons_of_pos (by simp [choiceTag, Tag.name_mark]), List.filter_cons_of_neg (by simp), ih, List.map_cons]

theorem toList_fieldName (id : String) :
    (fieldName id).toList = "params[".toList ++ escapeMarkup id.toList ++ "]".toList := by
  simp only [fieldName, String.toList_append, Text.escaped, String.toList_ofList]

theorem quote_not_mem_fieldName (id : String) : '"' ∉ (fieldName id).toList := by
  have hmem := Text.quote_not_mem_escapeMarkup id.toList
  simp only [toList_fieldName, List.mem_append, hmem, or_false]
  decide

theorem requiredMark_eq (entry : Json) :
    requiredMark entry = if flag entry "optional" = false then " required".toList else [] := by
  cases h : flag entry "optional" <;> simp [requiredMark, h]

section Control
variable {spec : InputSpec} {entry : Json} {choices : Option (List Json)} {field : List Char}

/-- A control that is not a checkbox is marked if the input is required. -/
theorem isControlOf_mark (hfield : String.ofList field = fieldName spec.id) {tag : Tag} (hcontrol : tag.isControl = true)
    (hname : tag.value? "name" = some (String.ofList field)) (hunmarked : tag.has "required" = false)
    (htype : tag.value? "type" ≠ some "checkbox") (hkind : spec.kind = "Flag" → choices ≠ none) :
    IsControlOf spec choices (tag.mark "required" (spec.optional = false)) := by
  have hvalue (key : String) (h : key ≠ "required") :
      (tag.mark "required" (spec.optional = false)).value? key = tag.value? key := tag.value?_mark h _
  constructor
  · rw [Tag.isControl, Tag.name_mark]
    exact hcontrol
  · rw [hvalue "name" (by decide), hname, hfield]
  · rw [Tag.has_mark, hvalue "type" (by decide), hunmarked]
    simp [htype]
  · rw [hvalue "type" (by decide)]
    exact iff_of_false htype fun h => hkind h.1 h.2

theorem isControlOf_checkbox (hfield : String.ofList field = fieldName spec.id) (hkind : spec.kind = "Flag") (p : Prop)
    [Decidable p] : IsControlOf spec none (Tag.mark ⟨"input", [("type", some "checkbox"),
      ("name", some (String.ofList field)), ("value", some "1")]⟩ "checked" p) where
  isControl := by
    rw [Tag.isControl, Tag.name_mark]
    rfl
  name := by
    rw [Tag.value?_mark _ (by decide), ← hfield]
    rfl
  required := by
    rw [Tag.value?_mark _ (by decide), Tag.has_mark]
    simp [Tag.has, Tag.value?]
  checkbox := by
    rw [Tag.value?_mark _ (by decide)]
    exact iff_of_true rfl ⟨hkind, rfl⟩

/-- The control for an input: one tag that begins it, and besides only its choices and the end of a list. -/
theorem exists_hasTags_control (hoptional : spec.optional = flag entry "optional") :
    ∃ tag others, HasTags (control entry spec.kind.toList (fieldName spec.id).toList) (tag :: others) ∧
      IsControlOf spec (choices? entry) tag ∧ (∀ other ∈ others, other.name ∈ ["option", "/option", "/select"]) ∧
      others.filter (fun other => other.name == "option") =
        ((choices? entry).getD []).map (choiceTag (defaultText entry)) := by
  have hquote := quote_not_mem_fieldName spec.id
  have hname : String.ofList (fieldName spec.id).toList = fieldName spec.id := String.ofList_toList
  generalize (fieldName spec.id).toList = field at hquote hname ⊢
  have hvalue := Text.quote_not_mem_escapeMarkup (defaultText entry)
  unfold control choices?
  rw [requiredMark_eq, ← hoptional]
  cases (entry.get? "value-choices").bind Json.array? with
  | some choices =>
    dsimp only
    rw [List.append_assoc]
    refine ⟨Tag.mark ⟨"select", [("name", some (String.ofList field))]⟩ "required" (spec.optional = false),
      choiceTags (defaultText entry) choices, ?_,
      isControlOf_mark hname rfl rfl rfl (by simp [Tag.value?]) fun _ => Option.some_ne_none _,
      fun _ => name_of_mem_choiceTags, filter_choiceTags _ choices⟩
    exact .congr (.append (.append (.append (.append (.fixed rfl) (.quoted hquote rfl)) (.mark rfl)) (.close rfl))
      (hasTags_choiceOptions _ choices)) rfl
  | none =>
    dsimp only
    by_cases hflag : spec.kind = "Flag"
    · rw [if_pos (congrArg _ hflag)]
      refine ⟨_, [], ?_, isControlOf_checkbox hname hflag (defaultText entry = "true".toList),
        List.forall_mem_nil _, rfl⟩
      exact .congr (.append (.append (.append (.append (.fixed rfl) (.quoted hquote rfl)) (.fixed rfl)) (.mark rfl))
        (.close rfl)) rfl
    rw [if_neg (mt String.toList_inj.mp hflag)]
    by_cases hnumber : spec.kind.toList = "Number".toList
    · rw [if_pos hnumber]
      refine ⟨Tag.mark ⟨"input", [("type", some "number"), ("step", some "any"),
        ("name", some (String.ofList field)),
        ("value", some (String.ofList (escapeMarkup (defaultText entry))))]⟩ "required" (spec.optional = false),
        [], ?_, isControlOf_mark hname rfl rfl rfl (by simp [Tag.value?]) fun h => absurd h hflag,
        List.forall_mem_nil _, rfl⟩
      exact .congr (.append (.append (.append (.append (.fixed rfl) (.quoted hquote rfl)) (.quoted hvalue rfl)) (.mark rfl))
        (.close rfl)) rfl
    rw [if_neg hnumber]
    by_cases hfile : spec.kind.toList = "File".toList
    · rw [if_pos hfile]
      refine ⟨Tag.mark ⟨"select", [("name", some (String.ofList field)), ("data-kind", some "file")]⟩
        "required" (spec.optional = false), [⟨"/select", []⟩], ?_,
        isControlOf_mark hname rfl rfl rfl (by simp [Tag.value?]) fun h => absurd h hflag, by simp, rfl⟩
      exact .congr (.append (.append (.append (.append (.fixed rfl) (.quoted hquote rfl)) (.fixed rfl)) (.mark rfl))
        (.close rfl)) rfl
    · rw [if_neg hfile]
      refine ⟨Tag.mark ⟨"input", [("type", some "text"), ("name", some (String.ofList field)),
        ("value", some (String.ofList (escapeMarkup (defaultText entry))))]⟩ "required" (spec.optional = false),
        [], ?_, isControlOf_mark hname rfl rfl rfl (by simp [Tag.value?]) fun h => absurd h hflag,
        List.forall_mem_nil _, rfl⟩
      exact .congr (.append (.append (.append (.append (.fixed rfl) (.quoted hquote rfl)) (.quoted hvalue rfl)) (.mark rfl))
        (.close rfl)) rfl

end Control

end ToolPlugins.Rows
