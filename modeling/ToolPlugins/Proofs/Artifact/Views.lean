import Mathlib
import ToolPlugins.Proofs.Artifact.Controls
import ToolPlugins.Proofs.Definition.RoundTrip

/-!
The views against the task that the definition declares. Around its rows a view says no more than the task does, and the
rows are one for each input or output file of the task, in order.
-/

namespace ToolPlugins

open Text (HasTags Reads Tag escapeMarkup tags)

namespace Rows

/-! ### Rows -/

/-- A row of the form for an input: one row of a table, which has one control. -/
def IsFormRow (spec : InputSpec) (choices : Option (List Json)) (row : List Char) : Prop :=
  ∃ inner control, HasTags row (⟨"tr", []⟩ :: inner ++ [⟨"/tr", []⟩]) ∧
    (∀ tag ∈ inner, tag.name ∉ ["tr", "/tr"]) ∧ inner.filter Tag.isControl = [control] ∧ IsControlOf spec choices control

/-- A row of the summary for an input: one row of a table, with a place for the value of the input. -/
def IsSummaryRow (id : String) (row : List Char) : Prop :=
  HasTags row [⟨"tr", []⟩, ⟨"th", []⟩, ⟨"/th", []⟩, ⟨"td", [("data-param", some (Text.escaped id))]⟩, ⟨"/td", []⟩,
    ⟨"/tr", []⟩]

/-- An entry of the help page: one term, in which a text is shown as code, with its description. -/
def IsHelpEntry (text : String) (row : List Char) : Prop :=
  ∃ front back, row = front ++ "<code>".toList ++ escapeMarkup text.toList ++ "</code>".toList ++ back ∧
    HasTags front [⟨"dt", []⟩] ∧ HasTags back [⟨"/dt", []⟩, ⟨"dd", []⟩, ⟨"/dd", []⟩]

theorem id_ofEntry {entry : Json} {id : String} (h : text? entry "id" = some id) : (InputSpec.ofEntry entry).id = id := by
  rw [InputSpec.ofEntry, h]
  rfl

theorem kind_ofEntry {entry : Json} {kind : String} (h : text? entry "type" = some kind) :
    (InputSpec.ofEntry entry).kind = kind := by
  rw [InputSpec.ofEntry, h]
  rfl

theorem pathTemplate_ofEntry (entry : Json) :
    (OutputSpec.ofEntry entry).pathTemplate.toList = textOr entry "path-template" [] := by
  rw [OutputSpec.ofEntry, textOr]
  cases text? entry "path-template" <;> rfl

section
variable {index : Nat} {entry : Json} {row : List Char}

/-- The tags of a row of the form: what stands around the control, and the control with its choices. -/
theorem exists_hasTags_formRow (h : formRow index entry = .ok row) :
    ∃ label control others, HasTags row ([⟨"tr", []⟩, ⟨"th", []⟩, ⟨"label", label⟩, ⟨"/label", []⟩, ⟨"/th", []⟩,
        ⟨"td", []⟩] ++ control :: (others ++ [⟨"/td", []⟩, ⟨"/tr", []⟩])) ∧
      IsControlOf (.ofEntry entry) (choices? entry) control ∧
      (∀ other ∈ others, other.name ∈ ["option", "/option", "/select"]) ∧
      others.filter (fun other => other.name == "option") =
        ((choices? entry).getD []).map (choiceTag (defaultText entry)) := by
  obtain ⟨_, hid', h⟩ := bind_eq_ok_iff.mp h
  obtain ⟨_, hkind', h⟩ := bind_eq_ok_iff.mp h
  obtain ⟨id, hid, rfl⟩ := Definition.required_eq_ok_iff.mp hid'
  obtain ⟨kind, hkind, rfl⟩ := Definition.required_eq_ok_iff.mp hkind'
  obtain rfl := pure_eq_ok_iff.mp h
  obtain rfl := id_ofEntry hid
  obtain rfl := kind_ofEntry hkind
  obtain ⟨control, others, htags, hcontrol, hothers, hoptions⟩ := @exists_hasTags_control (.ofEntry entry) entry rfl
  refine ⟨[("for", some (String.ofList (fieldName (InputSpec.ofEntry entry).id).toList))], control, others, ?_, hcontrol,
    hothers, hoptions⟩
  have hquote := quote_not_mem_fieldName (InputSpec.ofEntry entry).id
  rw [← toList_fieldName]
  generalize (fieldName (InputSpec.ofEntry entry).id).toList = field at hquote htags ⊢
  exact .congr (.append (.append (.append (.append (.append (.append (.fixed rfl) (.value hquote)) (.fixed rfl))
    (.escaped _)) (.fixed rfl)) htags) (.fixed rfl)) rfl

theorem isFormRow_of_formRow (h : formRow index entry = .ok row) :
    IsFormRow (.ofEntry entry) (choices? entry) row := by
  obtain ⟨label, control, others, htags, hcontrol, hothers, -⟩ := exists_hasTags_formRow h
  have hname : control.name ∉ ["tr", "/tr"] := by
    have hname := hcontrol.isControl
    simp only [Tag.isControl, List.contains_iff_mem, List.mem_cons, List.not_mem_nil, or_false] at hname
    rcases hname with hname | hname | hname | hname <;> simp [hname]
  have hother : ∀ other ∈ others, other.isControl = false ∧ other.name ∉ ["tr", "/tr"] := by
    intro other hother
    have hname := hothers other hother
    simp only [List.mem_cons, List.not_mem_nil, or_false] at hname
    rcases hname with hname | hname | hname <;> simp [Tag.isControl, hname]
  have hnone : others.filter Tag.isControl = [] :=
    List.filter_eq_nil_iff.mpr fun other h => by simp [(hother other h).1]
  refine ⟨[⟨"th", []⟩, ⟨"label", label⟩, ⟨"/label", []⟩, ⟨"/th", []⟩, ⟨"td", []⟩] ++ control :: (others ++ [⟨"/td", []⟩]),
    control, htags.congr (by simp), ?_, ?_, hcontrol⟩
  · simp only [List.forall_mem_append, List.forall_mem_cons]
    refine ⟨by simp, hname, fun other h => (hother other h).2, by simp⟩
  · rw [List.filter_append, List.filter_cons_of_pos hcontrol.isControl, List.filter_append, hnone]
    rfl

theorem isSummaryRow_of_showRow (h : showRow index entry = .ok row) : IsSummaryRow (InputSpec.ofEntry entry).id row := by
  obtain ⟨_, hid', h⟩ := bind_eq_ok_iff.mp h
  obtain ⟨id, hid, rfl⟩ := Definition.required_eq_ok_iff.mp hid'
  obtain rfl := pure_eq_ok_iff.mp h
  obtain rfl := id_ofEntry hid
  exact .congr (.append (.append (.append (.append (.fixed rfl) (.escaped _)) (.fixed rfl))
    (.value (Text.quote_not_mem_escapeMarkup _))) (.fixed rfl)) rfl

theorem toList_ofList_append (s t : List Char) :
    (String.ofList (s ++ t)).toList = (String.ofList s).toList ++ (String.ofList t).toList := by
  simp only [String.toList_ofList]

theorem code_front : " <code>".toList = " ".toList ++ "<code>".toList := toList_ofList_append [' '] _

theorem hasTags_term (entry : Json) (id : List Char) :
    HasTags ("    <dt>".toList ++ label entry id ++ " ".toList) [⟨"dt", []⟩] :=
  .congr (.append (.append (.fixed rfl) (.escaped _)) (.fixed rfl)) rfl

theorem isHelpEntry_of_helpInput (h : helpInput index entry = .ok row) :
    IsHelpEntry (InputSpec.ofEntry entry).id row := by
  obtain ⟨_, hid', h⟩ := bind_eq_ok_iff.mp h
  obtain ⟨id, hid, rfl⟩ := Definition.required_eq_ok_iff.mp hid'
  obtain rfl := pure_eq_ok_iff.mp h
  obtain rfl := id_ofEntry hid
  have hback : "</code> (".toList = "</code>".toList ++ " (".toList :=
    toList_ofList_append ['<', '/', 'c', 'o', 'd', 'e', '>'] _
  refine ⟨_, " (".toList ++ escapeMarkup (textOr entry "type" "String".toList) ++
    (if flag entry "optional" then ", optional".toList else []) ++ ")</dt>\n    <dd>".toList ++
    escapeMarkup (textOr entry "description" []) ++ "</dd>".toList, ?_,
    hasTags_term entry (InputSpec.ofEntry entry).id.toList, ?_⟩
  · rw [code_front, hback]
    simp only [List.append_assoc]
  · have hoptional : HasTags (if flag entry "optional" then ", optional".toList else []) [] := by
      split_ifs
      · exact .fixed rfl
      · exact Reads.nil _
    exact .congr (.append (.append (.append (.append (.append (.fixed rfl) (.escaped _)) hoptional) (.fixed rfl))
      (.escaped _)) (.fixed rfl)) rfl

theorem isHelpEntry_of_helpOutput (h : helpOutput index entry = .ok row) :
    IsHelpEntry (OutputSpec.ofEntry entry).pathTemplate row := by
  obtain ⟨id, -, h⟩ := bind_eq_ok_iff.mp h
  obtain rfl := pure_eq_ok_iff.mp h
  have hback : "</code></dt>\n    <dd>".toList = "</code>".toList ++ "</dt>\n    <dd>".toList :=
    toList_ofList_append ['<', '/', 'c', 'o', 'd', 'e', '>'] _
  rw [IsHelpEntry, pathTemplate_ofEntry]
  refine ⟨_, "</dt>\n    <dd>".toList ++ escapeMarkup (textOr entry "description" []) ++ "</dd>".toList, ?_,
    hasTags_term entry id, ?_⟩
  · rw [code_front, hback]
    simp only [List.append_assoc]
  · exact .congr (.append (.append (.fixed rfl) (.escaped _)) (.fixed rfl)) rfl

end

end Rows

namespace Template

open Rows (joinLines valueText)

/-! ### Pages -/

/-- The form up to its rows, for an identifier, a name and a version. -/
def formHead (identifier name version : List Char) : List Char :=
  "<!-- ".toList ++ identifier ++ " parameter form -->\n<div class=\"task-params\" data-task=\"".toList ++ identifier ++
    "\" data-version=\"".toList ++ escapeMarkup version ++
    "\">\n  <p class=\"task-params-help\">\n    <a href=\"/help/".toList ++ identifier ++
    "_help.html\" target=\"_blank\">Help for ".toList ++ escapeMarkup name ++
    "</a>\n  </p>\n  <table class=\"task-params-table\">\n".toList

def formEnd : List Char := "\n  </table>\n</div>\n".toList

/-- The summary up to the rows for the inputs. -/
def summaryHead (identifier name version image : List Char) : List Char :=
  "<!-- ".toList ++ identifier ++ " parameter summary -->\n<table class=\"task-show-params\" data-task=\"".toList ++
    identifier ++ "\">\n  <tr><th>Tool</th><td>".toList ++ escapeMarkup name ++ " ".toList ++ escapeMarkup version ++
    "</td></tr>\n  <tr><th>Image</th><td>".toList ++ escapeMarkup image ++ "</td></tr>\n".toList

def summaryEnd : List Char := "\n</table>\n".toList

/-- The help page up to the entries for the inputs. -/
def helpHead (name version description : List Char) : List Char :=
  "<!DOCTYPE html>\n<html>\n<head>\n  <meta charset=\"utf-8\">\n  <title>".toList ++ escapeMarkup name ++ " ".toList ++
    escapeMarkup version ++ "</title>\n</head>\n<body>\n  <h1>".toList ++ escapeMarkup name ++ " <small>".toList ++
    escapeMarkup version ++ "</small></h1>\n  <p class=\"description\">".toList ++ escapeMarkup description ++
    "</p>\n  <h2>Parameters</h2>\n  <dl class=\"parameters\">\n".toList

def helpMiddle : List Char := "\n  </dl>\n  <h2>Outputs</h2>\n  <dl class=\"outputs\">\n".toList

def helpEnd (image : List Char) : List Char :=
  "\n  </dl>\n  <p class=\"container\">Container image: <code>".toList ++ escapeMarkup image ++
    "</code></p>\n</body>\n</html>\n".toList

section
variable {schema : Schema} {d : Descriptor} {text : List Char}

theorem valueText_string (s : String) : valueText (.string s) = s.toList := rfl

theorem valueText_ofString? (o : Option String) : valueText (Json.ofString? o) = (o.getD "").toList := by
  cases o <;> rfl

theorem write_rows {line : Nat → Json → Except RenderProblem (List Char)} {entries : List Json} {value : Json}
    (h : ((Rows.each line 0 entries).map joinLines).map (fun text => Json.string (String.ofList text)) = .ok value) :
    ∃ rows, Rows.each line 0 entries = .ok rows ∧ write value .plain = joinLines rows := by
  obtain ⟨_, hlines, rfl⟩ := map_eq_ok_iff.mp h
  obtain ⟨rows, hrows, rfl⟩ := map_eq_ok_iff.mp hlines
  exact ⟨rows, hrows, String.toList_ofList⟩

theorem fill_params (h : fill schema d params = .ok text) :
    ∃ name version rows, d.get? "name" = some name ∧ d.get? "tool-version" = some version ∧
      Rows.each Rows.formRow 0 d.inputs = .ok rows ∧
      text = formHead (Identifier.classify d.name).toList (valueText name) (valueText version) ++ joinLines rows ++
        formEnd := by
  obtain ⟨_, _, hid, h₁, rfl⟩ := fill_pair_iff.mp h
  obtain ⟨_, _, hid', h₂, rfl⟩ := fill_pair_iff.mp h₁
  obtain ⟨version, _, hversion, h₃, rfl⟩ := fill_pair_iff.mp h₂
  obtain ⟨_, _, hid'', h₄, rfl⟩ := fill_pair_iff.mp h₃
  obtain ⟨name, _, hname, h₅, rfl⟩ := fill_pair_iff.mp h₄
  obtain ⟨_, _, hrows, h₆, rfl⟩ := fill_pair_iff.mp h₅
  obtain ⟨_, h₇, rfl⟩ := fill_text_iff.mp h₆
  obtain rfl := fill_nil_iff.mp h₇
  cases hid
  cases hid'
  cases hid''
  obtain ⟨rows, hrows, hwrite⟩ := write_rows hrows
  rw [slotValue_field_iff (by decide)] at hname hversion
  refine ⟨name, version, rows, hname, hversion, hrows, ?_⟩
  rw [hwrite]
  unfold formHead formEnd
  simp only [write, valueText_string, List.append_assoc, List.append_nil]

theorem fill_summary (h : fill schema d summary = .ok text) :
    ∃ name version rows, d.get? "name" = some name ∧ d.get? "tool-version" = some version ∧
      Rows.each Rows.showRow 0 d.inputs = .ok rows ∧
      text = summaryHead (Identifier.classify d.name).toList (valueText name) (valueText version)
          (d.image?.getD "").toList ++ joinLines rows ++ summaryEnd := by
  obtain ⟨_, _, hid, h₁, rfl⟩ := fill_pair_iff.mp h
  obtain ⟨_, _, hid', h₂, rfl⟩ := fill_pair_iff.mp h₁
  obtain ⟨name, _, hname, h₃, rfl⟩ := fill_pair_iff.mp h₂
  obtain ⟨version, _, hversion, h₄, rfl⟩ := fill_pair_iff.mp h₃
  obtain ⟨_, _, himage, h₅, rfl⟩ := fill_pair_iff.mp h₄
  obtain ⟨_, _, hrows, h₆, rfl⟩ := fill_pair_iff.mp h₅
  obtain ⟨_, h₇, rfl⟩ := fill_text_iff.mp h₆
  obtain rfl := fill_nil_iff.mp h₇
  cases hid
  cases hid'
  cases himage
  obtain ⟨rows, hrows, hwrite⟩ := write_rows hrows
  rw [slotValue_field_iff (by decide)] at hname hversion
  refine ⟨name, version, rows, hname, hversion, hrows, ?_⟩
  rw [hwrite]
  unfold summaryHead summaryEnd
  simp only [write, valueText_string, valueText_ofString?, List.append_assoc, List.append_nil]

theorem fill_help (h : fill schema d help = .ok text) :
    ∃ name version inputs outputs, d.get? "name" = some name ∧ d.get? "tool-version" = some version ∧
      Rows.each Rows.helpInput 0 d.inputs = .ok inputs ∧ Rows.each Rows.helpOutput 0 d.outputs = .ok outputs ∧
      text = helpHead (valueText name) (valueText version) (valueText (Json.ofOption (d.get? "description"))) ++
        joinLines inputs ++ helpMiddle ++ joinLines outputs ++ helpEnd (d.image?.getD "").toList := by
  obtain ⟨name, _, hname, h₁, rfl⟩ := fill_pair_iff.mp h
  obtain ⟨version, _, hversion, h₂, rfl⟩ := fill_pair_iff.mp h₁
  obtain ⟨name', _, hname', h₃, rfl⟩ := fill_pair_iff.mp h₂
  obtain ⟨version', _, hversion', h₄, rfl⟩ := fill_pair_iff.mp h₃
  obtain ⟨_, _, hdescription, h₅, rfl⟩ := fill_pair_iff.mp h₄
  obtain ⟨_, _, hinputs, h₆, rfl⟩ := fill_pair_iff.mp h₅
  obtain ⟨_, _, houtputs, h₇, rfl⟩ := fill_pair_iff.mp h₆
  obtain ⟨_, _, himage, h₈, rfl⟩ := fill_pair_iff.mp h₇
  obtain ⟨_, h₉, rfl⟩ := fill_text_iff.mp h₈
  obtain rfl := fill_nil_iff.mp h₉
  cases hdescription
  cases himage
  obtain ⟨inputs, hinputs, hwrite⟩ := write_rows hinputs
  obtain ⟨outputs, houtputs, hwrite'⟩ := write_rows houtputs
  rw [slotValue_field_iff (by decide)] at hname hversion hname' hversion'
  obtain rfl : name = name' := Option.some.inj (hname.symm.trans hname')
  obtain rfl : version = version' := Option.some.inj (hversion.symm.trans hversion')
  refine ⟨name, version, inputs, outputs, hname, hversion, hinputs, houtputs, ?_⟩
  rw [hwrite, hwrite', Descriptor.lookup?_eq_get? d (by decide)]
  unfold helpHead helpMiddle helpEnd
  simp only [write, valueText_ofString?, List.append_assoc, List.append_nil]

end

end Template

/-! ### Agreement -/

/-- The views of a descriptor agree with a task. Each is fixed by the identifier, the name, the version, the description
    and the image of the task except for its rows; a row of the form, of the summary and of the help page stands for each
    input of the task, and an entry of the help page for each output file, in order. -/
structure Artifacts.Shows (a : Artifacts) (d : Descriptor) (t : TaskDefinition) : Prop where
  inputs : d.inputs.length = t.inputs.length
  form : ∃ rows,
    a.params.toList =
      Template.formHead t.identifier.toList t.tool.toList t.version.toList ++ Rows.joinLines rows ++ Template.formEnd ∧
    List.Forall₂ (fun input row => Rows.IsFormRow input.1 (Rows.choices? input.2) row) (t.inputs.zip d.inputs) rows
  summary : ∃ rows,
    a.summary.toList =
      Template.summaryHead t.identifier.toList t.tool.toList t.version.toList (t.image.getD "").toList ++
        Rows.joinLines rows ++ Template.summaryEnd ∧
    List.Forall₂ (fun input row => Rows.IsSummaryRow input.id row) t.inputs rows
  help : ∃ inputs outputs,
    a.help.toList =
      Template.helpHead t.tool.toList t.version.toList (t.description.getD "").toList ++ Rows.joinLines inputs ++
        Template.helpMiddle ++ Rows.joinLines outputs ++ Template.helpEnd (t.image.getD "").toList ∧
    List.Forall₂ (fun input row => Rows.IsHelpEntry input.id row) t.inputs inputs ∧
    List.Forall₂ (fun output row => Rows.IsHelpEntry output.pathTemplate row) t.outputs outputs

/-- A definition is loaded under the identifier that its descriptor gives it and no other. -/
theorem Definition.identifier_eq_of_load {schema : Schema} {d : Descriptor} {side : DefinitionContext} {text : List Char}
    (h : Template.fill schema d (Template.ofKind side.artifact) = .ok text) {identifier : String} {t : TaskDefinition}
    (hload : load (String.ofList text) identifier side = .ok t) : identifier = Identifier.classify d.name := by
  obtain ⟨hreads, rfl, -, -⟩ := load_eq_ok_iff.mp hload
  obtain ⟨schemaId, name, version, _, _, -, -, -, hinputs, houtputs, rfl⟩ := Template.lines_of_fill h
  have hid := Identifier.isCanonicalChars_classifyChars d.name.toList
  have hcontrol := Template.noControl_definitionLines hid side schemaId name version
    (Json.ofOption (d.get? "description")) (Json.ofString? d.image?) (Json.ofOption (d.get? "command-line")) hinputs houtputs
  have hsplit := Template.splitOn_unlines (fun line hline => (hcontrol line hline).not_mem (by decide)) []
  rw [List.append_nil, List.splitOn_nil] at hsplit
  rw [String.toList_ofList, hsplit, Draft.reads_definitionLines_iff hid hinputs houtputs] at hreads
  obtain ⟨_, _, -, -, -, -, -, rfl⟩ := hreads
  rfl

theorem forall₂_zip_map {α β γ : Type} {f : α → β} {R : β × α → γ → Prop} {l : List α} {m : List γ}
    (h : List.Forall₂ (fun a c => R (f a, a) c) l m) : List.Forall₂ R ((l.map f).zip l) m := by
  induction h with
  | nil => exact .nil
  | cons hhead _ ih => exact .cons hhead ih

section
variable {schema : Schema} {d : Descriptor} {a : Artifacts} {t : TaskDefinition}

/-- What the views take from a descriptor whose definition is loaded, told by the task. -/
theorem Descriptor.Loadable.fields (hd : d.Loadable .client) (ht : t = .ofDescriptor d .client) :
    d.get? "name" = some (.string t.tool) ∧ d.get? "tool-version" = some (.string t.version) ∧
      Rows.valueText (Json.ofOption (d.get? "description")) = (t.description.getD "").toList := by
  obtain ⟨tool, htool⟩ := hd.name
  obtain ⟨v, hv, -⟩ := hd.version
  have hdescription : Json.ofOption (d.get? "description") = Json.ofString? d.description? :=
    Definition.ofOption_eq_ofString?_iff.mpr ⟨hd.description, rfl⟩
  subst ht
  refine ⟨?_, ?_, ?_⟩
  · rw [htool, TaskDefinition.ofDescriptor, Descriptor.name_eq htool]
  · rw [hv, TaskDefinition.ofDescriptor, Descriptor.version_eq hv]
  · rw [hdescription, Template.valueText_ofString?, TaskDefinition.ofDescriptor]

theorem Artifacts.exists_fill (h : render schema d = .ok a) (kind : ArtifactKind) :
    Template.fill schema d (Template.ofKind kind) = .ok (a.body kind).toList := by
  obtain ⟨text, hfill, hbody⟩ := Definition.fill_of_render h kind
  rw [hbody, String.toList_ofList, hfill]

/-- For every schema and every descriptor whose artifacts can be made, the views agree with the task that the client's
    definition is loaded as. -/
theorem Artifacts.shows_of_load {identifier : String} (h : render schema d = .ok a)
    (hload : Definition.load a.client identifier .client = .ok t) : a.Shows d t := by
  have hclient := exists_fill h .clientDefinition
  rw [← String.ofList_toList (s := a.client)] at hload
  obtain rfl := @Definition.identifier_eq_of_load _ _ .client _ hclient _ _ hload
  obtain ⟨hd, ht⟩ := (@Definition.load_eq_ok_iff_loadable _ _ .client _ hclient _).mp hload
  obtain ⟨hname, hversion, hdescription⟩ := hd.fields ht
  have hidentifier : t.identifier = Identifier.classify d.name := congrArg TaskDefinition.identifier ht
  have himage : t.image = d.image? := congrArg TaskDefinition.image ht
  have hinputs : t.inputs = d.inputs.map .ofEntry := congrArg TaskDefinition.inputs ht
  have houtputs : t.outputs = d.outputs.map .ofEntry := congrArg TaskDefinition.outputs ht
  obtain ⟨_, _, forms, hname₁, hversion₁, hforms, hparams⟩ := Template.fill_params (exists_fill h .paramsTemplate)
  obtain ⟨_, _, shown, hname₂, hversion₂, hshown, hsummary⟩ := Template.fill_summary (exists_fill h .showTemplate)
  obtain ⟨_, _, terms, files, hname₃, hversion₃, hterms, hfiles, hhelp⟩ :=
    Template.fill_help (exists_fill h .helpTemplate)
  cases hname.symm.trans hname₁
  cases hname.symm.trans hname₂
  cases hname.symm.trans hname₃
  cases hversion.symm.trans hversion₁
  cases hversion.symm.trans hversion₂
  cases hversion.symm.trans hversion₃
  have hforms' : List.Forall₂ (fun entry row => Rows.IsFormRow (.ofEntry entry) (Rows.choices? entry) row) d.inputs
      forms := Definition.forall₂_of_each (fun _ entry _ => @Rows.isFormRow_of_formRow _ entry _) hforms
  have hshown' : List.Forall₂ (fun entry row => Rows.IsSummaryRow (InputSpec.ofEntry entry).id row) d.inputs shown :=
    Definition.forall₂_of_each (fun _ entry _ => @Rows.isSummaryRow_of_showRow _ entry _) hshown
  have hterms' : List.Forall₂ (fun entry row => Rows.IsHelpEntry (InputSpec.ofEntry entry).id row) d.inputs terms :=
    Definition.forall₂_of_each (fun _ entry _ => @Rows.isHelpEntry_of_helpInput _ entry _) hterms
  have hfiles' : List.Forall₂ (fun entry row => Rows.IsHelpEntry (OutputSpec.ofEntry entry).pathTemplate row) d.outputs
      files := Definition.forall₂_of_each (fun _ entry _ => @Rows.isHelpEntry_of_helpOutput _ entry _) hfiles
  rw [hdescription] at hhelp
  constructor
  · rw [hinputs, List.length_map]
  · rw [hidentifier, hinputs]
    exact ⟨forms, hparams, forall₂_zip_map hforms'⟩
  · rw [hidentifier, hinputs, himage]
    exact ⟨shown, hsummary, List.forall₂_map_left_iff.mpr hshown'⟩
  · rw [hinputs, houtputs, himage]
    exact ⟨terms, files, hhelp, List.forall₂_map_left_iff.mpr hterms', List.forall₂_map_left_iff.mpr hfiles'⟩

end

/-- A descriptor with a text that has to be given, a flag, a list of choices, and an output file. -/
def Descriptor.probe : Descriptor where
  fields :=
    [("command-line", .string "probe [HOST]"),
      ("inputs", .array [.object [("id", .string "host"), ("type", .string "String")],
        .object [("id", .string "quiet"), ("type", .string "Flag")],
        .object [("default-value", .string "a"), ("id", .string "mode"), ("optional", .bool true), ("type", .string "Flag"),
          ("value-choices", .array [.string "a", .string "b"])]]),
      ("name", .string "probe"),
      ("output-files", .array [.object [("id", .string "log"), ("path-template", .string "<log>")]]),
      ("tool-version", .string "1")]

theorem Artifacts.shows_of_load_probe :
    ∃ a t, render ⟨[], []⟩ .probe = .ok a ∧
      Definition.load a.client (Identifier.classify Descriptor.probe.name) .client = .ok t ∧ a.Shows .probe t := by
  obtain ⟨a, ha⟩ : ∃ a, render ⟨[], []⟩ .probe = .ok a :=
    exists_render_of_fill fun kind => by cases kind <;> exact ⟨_, rfl⟩
  obtain ⟨text, hfill, hbody⟩ := Definition.fill_of_render ha .clientDefinition
  change a.client = String.ofList text at hbody
  have hload : Definition.load a.client (Identifier.classify Descriptor.probe.name) .client =
      .ok (.ofDescriptor .probe .client) := by
    rw [hbody]
    refine (@Definition.load_eq_ok_iff_loadable _ _ .client _ hfill _).mpr ⟨?_, rfl⟩
    exact {
      name := ⟨"probe", rfl⟩
      version := ⟨"1", rfl, '1', by decide, by decide⟩
      description := .inl rfl
      valueKeys := by
        intro entry hentry
        fin_cases hentry <;> exact .inl rfl
      inputIds := by
        intro entry hentry
        fin_cases hentry <;> exact ⟨_, rfl, TaskDefinition.isId_iff.mp rfl⟩
      outputIds := by
        intro entry hentry
        fin_cases hentry
        exact ⟨_, rfl, TaskDefinition.isId_iff.mp rfl⟩
      inputsDiffer := by
        change [some (Json.string "host"), some (Json.string "quiet"), some (Json.string "mode")].Nodup
        simp
      outputsDiffer := List.nodup_singleton _
      command := nofun }
  exact ⟨a, _, ha, hload, shows_of_load ha hload⟩

end ToolPlugins
