import Mathlib
import ToolPlugins.Proofs.Definition.RoundTrip
import ToolPlugins.Proofs.Text.Markup

/-!
The markup of the pages: the form, the summary and the help page. Every page is a skeleton with inert texts in it, and
the skeleton is made from the shape of the descriptor alone. So the marks of a page do not depend on what the texts of
the descriptor are, and no text of it ends a table.
-/

namespace ToolPlugins

open Text (EntitiesOnly Clears Inert marks)

/-! ### Shapes -/

/-- The control that an input gets in the form. -/
inductive Widget where
  | choices (count : Nat)
  | flag
  | number
  | file
  | text
  deriving DecidableEq, Repr

/-- The control for an input: choices if it has an array of them, or else what its type asks for. -/
def Widget.ofInput (entry : Json) : Widget :=
  match (entry.get? "value-choices").bind Json.array? with
  | some items => .choices items.length
  | none =>
    let kind := Rows.textOr entry "type" []
    if kind = "Flag".toList then .flag
    else if kind = "Number".toList then .number
    else if kind = "File".toList then .file
    else .text

/-- What the markup of the pages depends on: the controls of the inputs, and the number of the output files. -/
structure Shape where
  widgets : List Widget
  outputs : Nat
  deriving DecidableEq, Repr

def Descriptor.shape (d : Descriptor) : Shape where
  widgets := d.inputs.map Widget.ofInput
  outputs := d.outputs.length

/-! ### Texts in skeletons -/

def tableEnd : List Char := ['<', '/', 't', 'a', 'b', 'l', 'e', '>']

/-- A text is a skeleton with inert texts in it: it has the marks of the skeleton, its ampersands begin entities, and no
    table ends in it. -/
structure Draws (skeleton s : List Char) : Prop where
  marks : marks s = marks skeleton
  entities : EntitiesOnly s
  clears : Clears tableEnd s

namespace Draws

theorem congr {k l s : List Char} (h : Draws k s) (hmarks : Text.marks k = Text.marks l) : Draws l s :=
  ⟨h.marks.trans hmarks, h.entities, h.clears⟩

theorem append {k l s t : List Char} (hs : Draws k s) (ht : Draws l t) : Draws (k ++ l) (s ++ t) where
  marks := by rw [Text.marks_append, Text.marks_append, hs.marks, ht.marks]
  entities := hs.entities.append ht.entities
  clears := hs.clears.append ht.clears

theorem self {s : List Char} (h : '&' ∉ s ∧ Clears tableEnd s) : Draws s s :=
  ⟨rfl, Text.entitiesOnly_of_not_mem h.1, h.2⟩

theorem inert {s : List Char} (h : Inert s) : Draws [] s where
  marks := h.marks
  entities := h.entities
  clears := by
    refine Text.clears_of_not_mem fun hmem => ?_
    -- the end of a table would begin with a mark
    have hmark := List.filter_eq_nil_iff.mp h.marks _ hmem
    exact hmark (by decide)

theorem nil : Draws [] [] := inert Text.inert_nil

theorem escaped (s : List Char) : Draws [] (Text.escapeMarkup s) := inert (Text.inert_escapeMarkup s)

theorem ite {p : Prop} [Decidable p] {k s t : List Char} (hs : Draws k s) (ht : Draws k t) :
    Draws k (if p then s else t) := by
  split_ifs
  · exact hs
  · exact ht

/-! The texts of the templates are literals. They are compared by their characters: evaluating `toList` of a literal
takes long. -/

theorem fixed {s : List Char} (h : '&' ∉ s ∧ Clears tableEnd s) : Draws s (String.ofList s).toList := by
  rw [String.toList_ofList]
  exact self h

theorem plain {s : List Char} (h : Text.marks s = [] ∧ '&' ∉ s) : Draws [] (String.ofList s).toList := by
  rw [String.toList_ofList]
  exact inert ⟨h.1, Text.entitiesOnly_of_not_mem h.2⟩

theorem literal {k l s : List Char} (h : Draws k s) (hmarks : Text.marks k = Text.marks l) :
    Draws (String.ofList l).toList s := by
  rw [String.toList_ofList]
  exact h.congr hmarks

end Draws

/-! ### Rows

A skeleton is the markup of a control or a row with nothing in the places for texts. -/

def Widget.skeleton : Widget → List Char
  | .choices count =>
    "<select name=\"\">".toList ++ (List.replicate count "<option value=\"\"></option>".toList).flatten ++
      "</select>".toList
  | .flag => "<input type=\"checkbox\" name=\"\" value=\"1\">".toList
  | .number => "<input type=\"number\" step=\"any\" name=\"\" value=\"\">".toList
  | .file => "<select name=\"\" data-kind=\"file\"></select>".toList
  | .text => "<input type=\"text\" name=\"\" value=\"\">".toList

namespace Rows

theorem draws_choiceOption (default : List Char) (choice : Json) :
    Draws "<option value=\"\"></option>".toList (choiceOption default choice) := by
  have hmark : Draws [] (if valueText choice = default then " selected".toList else []) :=
    .ite (.plain (by decide)) .nil
  have htext := Draws.escaped (valueText choice)
  refine .literal (.append (.append (.append (.append (.append (.append (.fixed ?_) htext) (.fixed ?_)) hmark)
    (.fixed ?_)) htext) (.fixed ?_)) ?_ <;> decide

theorem draws_choices (default : List Char) (choices : List Json) :
    Draws (List.replicate choices.length "<option value=\"\"></option>".toList).flatten
      (choices.flatMap (choiceOption default)) := by
  induction choices with
  | nil => exact .nil
  | cons choice choices ih => exact (draws_choiceOption default choice).append ih

/-- Whatever an input says about itself, its control is the one for its widget. -/
theorem draws_control {entry : Json} {kind field : List Char} (hkind : textOr entry "type" [] = kind)
    (hfield : Draws [] field) : Draws (Widget.ofInput entry).skeleton (control entry kind field) := by
  have hnamed : Draws ['"', '"'] (" name=\"".toList ++ field ++ "\"".toList) := by
    refine .congr (.append (.append (.fixed ?_) hfield) (.fixed ?_)) ?_ <;> decide
  have hvalue : Draws ['"', '"'] (" value=\"".toList ++ Text.escapeMarkup (defaultText entry) ++ "\"".toList) := by
    refine .congr (.append (.append (.fixed ?_) (.escaped _)) (.fixed ?_)) ?_ <;> decide
  have hrequired : Draws [] (requiredMark entry) := .ite .nil (.plain (by decide))
  -- an array of choices goes before the type
  cases hchoices : (entry.get? "value-choices").bind Json.array? with
  | some choices =>
    have hopen : Draws "<select name=\"\">".toList
        ("<select".toList ++ (" name=\"".toList ++ field ++ "\"".toList) ++ requiredMark entry ++ ">".toList) := by
      refine .literal (.append (.append (.append (.fixed ?_) hnamed) hrequired) (.fixed ?_)) ?_ <;> decide
    have hclose : Draws "</select>".toList "</select>".toList := .literal (.fixed (by decide)) rfl
    simp only [control, Widget.ofInput, hchoices]
    exact (hopen.append (draws_choices _ choices)).append hclose
  | none =>
    simp only [control, Widget.ofInput, hchoices, hkind]
    by_cases hflag : kind = "Flag".toList
    · rw [if_pos hflag, if_pos hflag]
      have hchecked : Draws [] (if defaultText entry = "true".toList then " checked".toList else []) :=
        .ite (.plain (by decide)) .nil
      refine .literal (.append (.append (.append (.append (.fixed ?_) hnamed) (.fixed ?_)) hchecked) (.fixed ?_)) ?_ <;>
        decide
    rw [if_neg hflag, if_neg hflag]
    by_cases hnumber : kind = "Number".toList
    · rw [if_pos hnumber, if_pos hnumber]
      refine .literal (.append (.append (.append (.append (.fixed ?_) hnamed) hvalue) hrequired) (.fixed ?_)) ?_ <;>
        decide
    rw [if_neg hnumber, if_neg hnumber]
    by_cases hfile : kind = "File".toList
    · rw [if_pos hfile, if_pos hfile]
      refine .literal (.append (.append (.append (.append (.fixed ?_) hnamed) (.fixed ?_)) hrequired) (.fixed ?_)) ?_ <;>
        decide
    rw [if_neg hfile, if_neg hfile]
    refine .literal (.append (.append (.append (.append (.fixed ?_) hnamed) hvalue) hrequired) (.fixed ?_)) ?_ <;> decide

def formSkeleton (widget : Widget) : List Char :=
  "    <tr><th><label for=\"\"></label></th><td>".toList ++ widget.skeleton ++ "</td></tr>".toList

theorem draws_formRow {index : Nat} {entry : Json} {row : List Char} (h : formRow index entry = .ok row) :
    Draws (formSkeleton (Widget.ofInput entry)) row := by
  obtain ⟨id, -, h⟩ := bind_eq_ok_iff.mp h
  obtain ⟨_, hkind, h⟩ := bind_eq_ok_iff.mp h
  obtain ⟨kind, htext, rfl⟩ := Definition.required_eq_ok_iff.mp hkind
  obtain rfl := pure_eq_ok_iff.mp h
  have hkind : textOr entry "type" [] = kind.toList := by rw [textOr, htext]
  have hfield : Draws [] ("params[".toList ++ Text.escapeMarkup id ++ "]".toList) :=
    .append (.append (.plain (by decide)) (.escaped id)) (.plain (by decide))
  have hhead : Draws "    <tr><th><label for=\"\"></label></th><td>".toList
      ("    <tr><th><label for=\"".toList ++ ("params[".toList ++ Text.escapeMarkup id ++ "]".toList) ++ "\">".toList ++
        label entry id ++ "</label></th><td>".toList) := by
    refine .literal (.append (.append (.append (.append (.fixed ?_) hfield) (.fixed ?_)) (.escaped _)) (.fixed ?_)) ?_ <;>
      decide
  have hend : Draws "</td></tr>".toList "</td></tr>".toList := .literal (.fixed (by decide)) rfl
  exact (hhead.append (draws_control hkind hfield)).append hend

def showSkeleton : List Char := "  <tr><th></th><td data-param=\"\"></td></tr>".toList

theorem draws_showRow {index : Nat} {entry : Json} {row : List Char} (h : showRow index entry = .ok row) :
    Draws showSkeleton row := by
  obtain ⟨id, -, h⟩ := bind_eq_ok_iff.mp h
  obtain rfl := pure_eq_ok_iff.mp h
  refine .literal (.append (.append (.append (.append (.fixed ?_) (.escaped _)) (.fixed ?_)) (.escaped _)) (.fixed ?_))
    ?_ <;> decide

def helpInputSkeleton : List Char := "    <dt> <code></code> ()</dt>\n    <dd></dd>".toList

theorem draws_helpInput {index : Nat} {entry : Json} {row : List Char} (h : helpInput index entry = .ok row) :
    Draws helpInputSkeleton row := by
  obtain ⟨id, -, h⟩ := bind_eq_ok_iff.mp h
  obtain rfl := pure_eq_ok_iff.mp h
  have hoptional : Draws [] (if flag entry "optional" then ", optional".toList else []) :=
    .ite (.plain (by decide)) .nil
  refine .literal (.append (.append (.append (.append (.append (.append (.append (.append (.append (.fixed ?_)
    (.escaped _)) (.fixed ?_)) (.escaped _)) (.fixed ?_)) (.escaped _)) hoptional) (.fixed ?_)) (.escaped _))
    (.fixed ?_)) ?_ <;> decide

def helpOutputSkeleton : List Char := "    <dt> <code></code></dt>\n    <dd></dd>".toList

theorem draws_helpOutput {index : Nat} {entry : Json} {row : List Char} (h : helpOutput index entry = .ok row) :
    Draws helpOutputSkeleton row := by
  obtain ⟨id, -, h⟩ := bind_eq_ok_iff.mp h
  obtain rfl := pure_eq_ok_iff.mp h
  refine .literal (.append (.append (.append (.append (.append (.append (.fixed ?_) (.escaped _)) (.fixed ?_))
    (.escaped _)) (.fixed ?_)) (.escaped _)) (.fixed ?_)) ?_ <;> decide

theorem draws_joinLines {skeletons rows : List (List Char)} (h : List.Forall₂ Draws skeletons rows) :
    Draws (joinLines skeletons) (joinLines rows) := by
  induction h with
  | nil => exact .nil
  | cons hrow hrows ih =>
    cases hrows with
    | nil =>
      rw [joinLines_singleton, joinLines_singleton]
      exact hrow
    | cons hnext hrest =>
      rw [joinLines_cons_cons, joinLines_cons_cons]
      exact hrow.append (.append (s := ['\n']) (.self (by decide)) ih)

theorem draws_write {line : Nat → Json → Except RenderProblem (List Char)} (skeleton : Json → List Char)
    (hline : ∀ index entry row, line index entry = .ok row → Draws (skeleton entry) row) (entries : List Json)
    {value : Json}
    (h : ((each line 0 entries).map joinLines).map (fun text => Json.string (String.ofList text)) = .ok value) :
    Draws (joinLines (entries.map skeleton)) (Template.write value .plain) := by
  obtain ⟨_, hlines, rfl⟩ := map_eq_ok_iff.mp h
  obtain ⟨rows, hrows, rfl⟩ := map_eq_ok_iff.mp hlines
  rw [Template.write, valueText, String.toList_ofList]
  exact draws_joinLines (List.forall₂_map_left_iff.mpr (Definition.forall₂_of_each hline hrows))

end Rows

/-! ### Pages -/

/-- The rows for a place: one for every input, or one for every output file. -/
def Slot.skeleton (shape : Shape) : Slot → List Char
  | .formRows => Rows.joinLines (shape.widgets.map Rows.formSkeleton)
  | .showRows => Rows.joinLines (List.replicate shape.widgets.length Rows.showSkeleton)
  | .helpInputs => Rows.joinLines (List.replicate shape.widgets.length Rows.helpInputSkeleton)
  | .helpOutputs => Rows.joinLines (List.replicate shape.outputs Rows.helpOutputSkeleton)
  | _ => []

def Piece.skeleton (shape : Shape) : Piece → List Char
  | .text s => s.toList
  | .slot place .plain => place.skeleton shape
  | .slot _ _ => []

/-- The places of a page that are filled in as they are. -/
def pageSlots : List Slot := [.identifier, .formRows, .showRows, .helpInputs, .helpOutputs]

/-- A part of a page: a text without entities that ends no table, one of these places, or a place for a text that is
    escaped. -/
inductive Piece.OfPage : Piece → Prop
  | text {s : List Char} (hamp : '&' ∉ s) (hclears : Clears tableEnd s) : OfPage (.text (String.ofList s))
  | plain {slot : Slot} (hslot : slot ∈ pageSlots) : OfPage (.slot slot .plain)
  | markup {slot : Slot} : OfPage (.slot slot .markup)

namespace Template

section
variable {schema : Schema} {d : Descriptor}

theorem draws_slot {slot : Slot} (hslot : slot ∈ pageSlots) {value : Json}
    (h : slotValue schema d slot = .ok value) : Draws (slot.skeleton d.shape) (write value .plain) := by
  simp only [pageSlots, List.mem_cons, List.not_mem_nil, or_false] at hslot
  rcases hslot with rfl | rfl | rfl | rfl | rfl
  · cases h
    refine .inert (Text.inert_of_isAlphanum fun c hc => ?_)
    rw [write, Rows.valueText, Identifier.classify, String.toList_ofList] at hc
    exact Identifier.isAlphanum_of_isCanonicalChars (Identifier.isCanonicalChars_classifyChars _) c hc
  · have hrows := Rows.draws_write (fun entry => Rows.formSkeleton (Widget.ofInput entry))
      (fun _ _ _ => Rows.draws_formRow) d.inputs h
    simpa [Slot.skeleton, Descriptor.shape, Function.comp_def] using hrows
  · have hrows := Rows.draws_write (fun _ => Rows.showSkeleton) (fun _ _ _ => Rows.draws_showRow) d.inputs h
    simpa [Slot.skeleton, Descriptor.shape] using hrows
  · have hrows := Rows.draws_write (fun _ => Rows.helpInputSkeleton) (fun _ _ _ => Rows.draws_helpInput) d.inputs h
    simpa [Slot.skeleton, Descriptor.shape] using hrows
  · have hrows := Rows.draws_write (fun _ => Rows.helpOutputSkeleton) (fun _ _ _ => Rows.draws_helpOutput) d.outputs h
    simpa [Slot.skeleton, Descriptor.shape] using hrows

theorem draws_fill {pieces : List Piece} (hpieces : ∀ piece ∈ pieces, piece.OfPage) {text : List Char}
    (h : fill schema d pieces = .ok text) : Draws (pieces.flatMap (Piece.skeleton d.shape)) text := by
  induction pieces generalizing text with
  | nil =>
    obtain rfl := fill_nil_iff.mp h
    exact .nil
  | cons piece pieces ih =>
    obtain ⟨hpiece, hrest⟩ := List.forall_mem_cons.mp hpieces
    cases hpiece with
    | text hamp hclears =>
      obtain ⟨others, hothers, rfl⟩ := fill_text_iff.mp h
      rw [String.toList_ofList]
      exact .append (.literal (.self ⟨hamp, hclears⟩) rfl) (ih hrest hothers)
    | plain hslot =>
      obtain ⟨value, others, hvalue, hothers, rfl⟩ := fill_slot_iff.mp h
      exact (draws_slot hslot hvalue).append (ih hrest hothers)
    | markup =>
      obtain ⟨value, others, -, hothers, rfl⟩ := fill_slot_iff.mp h
      exact (Draws.escaped _).append (ih hrest hothers)

end

/-- What stands last in the template of a view. -/
def viewEnd : ViewKind → String
  | .taskParams => "\n  </table>\n</div>\n"
  | .showParams => "\n</table>\n"
  | .help => "</code></p>\n</body>\n</html>\n"

/-- The template of a view without what stands last in it. -/
def viewFront (view : ViewKind) : List Piece := (ofKind view.artifact).dropLast

theorem ofKind_artifact (view : ViewKind) : ofKind view.artifact = viewFront view ++ [.text (viewEnd view)] := by
  cases view <;> rfl

theorem ofPage_viewFront (view : ViewKind) : ∀ piece ∈ viewFront view, piece.OfPage := by
  intro piece hpiece
  cases view <;> fin_cases hpiece <;> constructor <;> decide

theorem exists_front_of_render {schema : Schema} {d : Descriptor} {a : Artifacts} (h : render schema d = .ok a)
    (view : ViewKind) :
    ∃ front, Draws ((viewFront view).flatMap (Piece.skeleton d.shape)) front ∧
      (a.body view.artifact).toList = front ++ (viewEnd view).toList := by
  obtain ⟨text, hfill, hbody⟩ := Definition.fill_of_render h view.artifact
  rw [ofKind_artifact, fill_append_iff] at hfill
  obtain ⟨front, last, hfront, hlast, rfl⟩ := hfill
  obtain ⟨_, hnil, rfl⟩ := fill_text_iff.mp hlast
  obtain rfl := fill_nil_iff.mp hnil
  refine ⟨front, draws_fill (ofPage_viewFront view) hfront, ?_⟩
  rw [hbody, String.toList_ofList, List.append_nil]

theorem entitiesOnly_viewEnd (view : ViewKind) : EntitiesOnly (viewEnd view).toList := by
  have hliteral : ∀ {s : List Char}, '&' ∉ s → EntitiesOnly (String.ofList s).toList := fun h => by
    rw [String.toList_ofList]
    exact Text.entitiesOnly_of_not_mem h
  cases view <;> exact hliteral (by decide)

end Template

/-- The texts of a descriptor inject no markup: of any two descriptors of one shape, and under whichever schemas, the form,
    the summary and the help page have the same marks in the same order, and every ampersand in them begins an entity. -/
theorem Artifacts.marks_eq_of_shape_eq {schema schema' : Schema} {d d' : Descriptor} {a a' : Artifacts}
    (h : render schema d = .ok a) (h' : render schema' d' = .ok a') (hshape : d.shape = d'.shape) (view : ViewKind) :
    marks (a.body view.artifact).toList = marks (a'.body view.artifact).toList ∧
      EntitiesOnly (a.body view.artifact).toList ∧ EntitiesOnly (a'.body view.artifact).toList := by
  obtain ⟨front, hdraws, hbody⟩ := Template.exists_front_of_render h view
  obtain ⟨front', hdraws', hbody'⟩ := Template.exists_front_of_render h' view
  have hend := Template.entitiesOnly_viewEnd view
  rw [hbody, hbody', Text.marks_append, Text.marks_append, hdraws.marks, hdraws'.marks, hshape]
  exact ⟨rfl, hdraws.entities.append hend, hdraws'.entities.append hend⟩

/-- A descriptor with an input of each of two kinds and an output file, of which the texts are given. -/
def Descriptor.ofTexts (name id choice path : String) : Descriptor where
  fields :=
    [("command-line", .string "x"),
      ("inputs", .array [.object [("id", .string id), ("name", .string name), ("type", .string "Number")],
        .object [("default-value", .string choice), ("id", .string "c"), ("type", .string "String"),
          ("value-choices", .array [.string choice, .string name])]]),
      ("name", .string name), ("output-files", .array [.object [("id", .string "o"), ("path-template", .string path)]]),
      ("tool-version", .string "1")]

/-- Texts that would close an attribute, a tag or a table, and texts that would not. -/
theorem Artifacts.marks_eq_of_shape_eq_ofTexts :
    ∃ a a', render ⟨[], []⟩ (.ofTexts "<script>" "\">" "&lt" "</table>") = .ok a ∧
      render ⟨[], []⟩ (.ofTexts "tool" "n" "yes" "out") = .ok a' ∧
      (Descriptor.ofTexts "<script>" "\">" "&lt" "</table>").shape = (Descriptor.ofTexts "tool" "n" "yes" "out").shape ∧
      ∀ view : ViewKind, marks (a.body view.artifact).toList = marks (a'.body view.artifact).toList ∧
        EntitiesOnly (a.body view.artifact).toList := by
  obtain ⟨a, ha⟩ : ∃ a, render ⟨[], []⟩ (.ofTexts "<script>" "\">" "&lt" "</table>") = .ok a :=
    exists_render_of_fill fun kind => by cases kind <;> exact ⟨_, rfl⟩
  obtain ⟨a', ha'⟩ : ∃ a', render ⟨[], []⟩ (.ofTexts "tool" "n" "yes" "out") = .ok a' :=
    exists_render_of_fill fun kind => by cases kind <;> exact ⟨_, rfl⟩
  refine ⟨a, a', ha, ha', by decide, fun view => ?_⟩
  have hpages := marks_eq_of_shape_eq ha ha' (by decide) view
  exact ⟨hpages.1, hpages.2.1⟩

end ToolPlugins
