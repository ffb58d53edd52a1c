import Mathlib
import ToolPlugins.Proofs.Definition.Strict

/-!
What keeps a descriptor from being rendered. The problems of a descriptor are listed in the order in which the
definition for the worker comes across them; the first of them is the one that is reported, and the other artifacts
have no problems of their own.
-/

namespace ToolPlugins

/-! ### The problem of a computation -/

/-- Why a computation has no result, if it has none. -/
def failure? {ε α : Type} : Except ε α → Option ε
  | .error e => some e
  | .ok _ => none

section
variable {ε α β : Type} {x : Except ε α}

theorem failure?_eq_some_iff {e : ε} : failure? x = some e ↔ x = .error e := by
  cases x <;> simp [failure?]

theorem failure?_eq_none_iff : failure? x = none ↔ ∃ a, x = .ok a := by
  cases x <;> simp [failure?]

theorem failure?_map (f : α → β) (x : Except ε α) : failure? (x.map f) = failure? x := by
  cases x <;> rfl

/-- If a second step has the same problem whatever the first one gives, the first problem counts. -/
theorem failure?_bind {f : α → Except ε β} {p : Option ε} (hf : ∀ a, failure? (f a) = p) :
    failure? (x >>= f) = (failure? x).or p := by
  cases x with
  | error e => rfl
  | ok a => exact hf a

theorem failure?_pure (a : α) : failure? (pure a : Except ε α) = none := rfl

theorem failure?_bind_pure (f : α → β) (x : Except ε α) : failure? (x >>= fun a => pure (f a)) = failure? x := by
  rw [failure?_bind fun a => failure?_pure (f a), Option.or_none]

end

namespace Rows

/-- The keys under which an entry should have a text and does not. -/
def lacks (what : String) (keys : List String) (index : Nat) (entry : Json) : List RenderProblem :=
  (keys.filter fun key => (text? entry key).isNone).map (.missingText what index)

/-- What is lacking in the entries of a list, entry by entry. -/
def allLacks (what : String) (keys : List String) (start : Nat) (entries : List Json) : List RenderProblem :=
  (entries.zipIdx start).flatMap fun entry => lacks what keys entry.2 entry.1

theorem lacks_cons (what key : String) (keys : List String) (index : Nat) (entry : Json) :
    (lacks what (key :: keys) index entry).head? =
      (failure? (required what index entry key)).or (lacks what keys index entry).head? := by
  rw [lacks, required, List.filter_cons]
  cases text? entry key with
  | some text => rfl
  | none => rfl

section
variable (index : Nat) (entry : Json)

theorem failure?_inputCells : failure? (inputCells index entry) = (lacks "input" ["id", "type"] index entry).head? := by
  rw [lacks_cons, lacks_cons]
  exact failure?_bind fun _ => failure?_bind fun _ => failure?_pure _

theorem failure?_formRow : failure? (formRow index entry) = (lacks "input" ["id", "type"] index entry).head? := by
  rw [lacks_cons, lacks_cons]
  exact failure?_bind fun _ => failure?_bind fun _ => failure?_pure _

theorem failure?_showRow : failure? (showRow index entry) = (lacks "input" ["id"] index entry).head? := by
  rw [lacks_cons]
  exact failure?_bind fun _ => failure?_pure _

theorem failure?_helpInput : failure? (helpInput index entry) = (lacks "input" ["id"] index entry).head? := by
  rw [lacks_cons]
  exact failure?_bind fun _ => failure?_pure _

theorem failure?_outputCells :
    failure? (outputCells index entry) = (lacks "output" ["id", "path-template"] index entry).head? := by
  rw [lacks_cons, lacks_cons]
  exact failure?_bind fun _ => failure?_bind fun _ => failure?_pure _

theorem failure?_helpOutput : failure? (helpOutput index entry) = (lacks "output" ["id"] index entry).head? := by
  rw [lacks_cons]
  exact failure?_bind fun _ => failure?_pure _

end

theorem allLacks_cons (what : String) (keys : List String) (start : Nat) (entry : Json) (rest : List Json) :
    allLacks what keys start (entry :: rest) = lacks what keys start entry ++ allLacks what keys (start + 1) rest := rfl

theorem failure?_each {α : Type} {line : Nat → Json → Except RenderProblem α} {what : String} {keys : List String}
    (hline : ∀ index entry, failure? (line index entry) = (lacks what keys index entry).head?) (start : Nat)
    (entries : List Json) : failure? (each line start entries) = (allLacks what keys start entries).head? := by
  induction entries generalizing start with
  | nil => rfl
  | cons entry rest ih =>
    rw [allLacks_cons, List.head?_append, ← hline, ← ih]
    exact failure?_bind fun first => failure?_bind_pure (first :: ·) _

/-- Where no entry lacks something, none lacks a part of it. -/
theorem allLacks_eq_nil {what : String} {keys more : List String} {start : Nat} {entries : List Json}
    (h : allLacks what keys start entries = []) (hkeys : more ⊆ keys) : allLacks what more start entries = [] := by
  refine List.flatMap_eq_nil_iff.mpr fun entry hentry => ?_
  have hnone := List.flatMap_eq_nil_iff.mp h entry hentry
  rw [lacks, List.map_eq_nil_iff, List.filter_eq_nil_iff] at hnone ⊢
  exact fun key hkey => hnone key (hkeys hkey)

theorem allLacks_eq_nil_iff {what : String} {keys : List String} (start : Nat) {entries : List Json} :
    allLacks what keys start entries = [] ↔
      ∀ entry ∈ entries, ∀ key ∈ keys, ∃ text : String, entry.get? key = some (.string text) := by
  have hlacks : ∀ index entry, lacks what keys index entry = [] ↔
      ∀ key ∈ keys, ∃ text : String, entry.get? key = some (.string text) := by
    intro index entry
    rw [lacks, List.map_eq_nil_iff, List.filter_eq_nil_iff]
    refine forall₂_congr fun key _ => ?_
    simp only [← Definition.text?_eq_some_iff]
    rw [Option.isNone_iff_eq_none, ← ne_eq, Option.ne_none_iff_exists']
  induction entries generalizing start with
  | nil => simp [allLacks]
  | cons entry rest ih =>
    rw [allLacks_cons, List.append_eq_nil_iff, List.forall_mem_cons]
    exact and_congr (hlacks start entry) (ih (start + 1))

end Rows

namespace Descriptor

/-- The problem of a field that has to be there. -/
def missing (d : Descriptor) (key : String) : List RenderProblem :=
  if (d.get? key).isSome then [] else [.missingField key]

/-- What is lacking in the inputs. -/
def inputLacks (d : Descriptor) : List RenderProblem := Rows.allLacks "input" ["id", "type"] 0 d.inputs

/-- What is lacking in the output files. -/
def outputLacks (d : Descriptor) : List RenderProblem := Rows.allLacks "output" ["id", "path-template"] 0 d.outputs

/-- The problems of a descriptor that both definitions have. -/
def sharedProblems (d : Descriptor) : List RenderProblem :=
  d.missing "name" ++ d.missing "tool-version" ++ d.inputLacks ++ d.outputLacks

/-- All problems of a descriptor, in order. -/
def problems (d : Descriptor) : List RenderProblem := d.sharedProblems ++ d.missing "command-line"

/-- What a descriptor has to have to be rendered. -/
structure Renderable (d : Descriptor) : Prop where
  name : ∃ v, d.get? "name" = some v
  version : ∃ v, d.get? "tool-version" = some v
  commandLine : ∃ v, d.get? "command-line" = some v
  inputs : ∀ entry ∈ d.inputs, (∃ id : String, entry.get? "id" = some (.string id)) ∧
    ∃ type : String, entry.get? "type" = some (.string type)
  outputs : ∀ entry ∈ d.outputs, (∃ id : String, entry.get? "id" = some (.string id)) ∧
    ∃ path : String, entry.get? "path-template" = some (.string path)

section
variable {d : Descriptor} {key : String}

theorem missing_eq_nil_iff : d.missing key = [] ↔ ∃ v, d.get? key = some v := by
  rw [missing, ← Option.isSome_iff_exists]
  split_ifs with h <;> simp [h]

theorem missing_of_ne_nil (h : d.missing key ≠ []) : d.missing key = [.missingField key] := by
  rw [missing] at h ⊢
  split_ifs at h ⊢
  · exact absurd rfl h
  · rfl

theorem sharedProblems_eq_nil_iff : d.sharedProblems = [] ↔
    d.missing "name" = [] ∧ d.missing "tool-version" = [] ∧ d.inputLacks = [] ∧ d.outputLacks = [] := by
  simp only [sharedProblems, List.append_eq_nil_iff, and_assoc]

theorem renderable_iff : d.Renderable ↔ d.problems = [] := by
  rw [problems, List.append_eq_nil_iff, sharedProblems_eq_nil_iff, inputLacks, outputLacks]
  simp only [missing_eq_nil_iff, Rows.allLacks_eq_nil_iff, List.forall_mem_cons,
    List.not_mem_nil, false_implies, implies_true, and_true]
  constructor
  · rintro ⟨hname, hversion, hcommand, hinputs, houtputs⟩
    exact ⟨⟨hname, hversion, hinputs, houtputs⟩, hcommand⟩
  · rintro ⟨⟨hname, hversion, hinputs, houtputs⟩, hcommand⟩
    exact ⟨hname, hversion, hcommand, hinputs, houtputs⟩

end

end Descriptor

namespace Template

/-- The problem of a piece of a template. -/
def pieceFailure? (schema : Schema) (d : Descriptor) : Piece → Option RenderProblem
  | .text _ => none
  | .slot slot _ => failure? (slotValue schema d slot)

section
variable (schema : Schema) (d : Descriptor)

theorem failure?_fill_nil : failure? (fill schema d []) = none := rfl

theorem failure?_fill_cons (piece : Piece) (rest : List Piece) :
    failure? (fill schema d (piece :: rest)) = (pieceFailure? schema d piece).or (failure? (fill schema d rest)) := by
  cases piece with
  | text s => exact failure?_bind_pure (s.toList ++ ·) _
  | slot slot style => exact failure?_bind fun value => failure?_bind_pure (write value style ++ ·) _

@[simp] theorem pieceFailure?_text (s : String) : pieceFailure? schema d (.text s) = none := rfl

@[simp] theorem pieceFailure?_identifier : pieceFailure? schema d identifier = none := rfl

@[simp] theorem pieceFailure?_optionalField (key : String) (style : Style) :
    pieceFailure? schema d (.slot (.optionalField key) style) = none := rfl

@[simp] theorem pieceFailure?_schemaKeyword (key : String) (style : Style) :
    pieceFailure? schema d (.slot (.schemaKeyword key) style) = none := rfl

@[simp] theorem pieceFailure?_image (style : Style) : pieceFailure? schema d (.slot .image style) = none := rfl

theorem pieceFailure?_field {key : String} (h : '.' ∉ key.toList) (style : Style) :
    pieceFailure? schema d (.slot (.field key) style) = (d.missing key).head? := by
  rw [pieceFailure?, slotValue, d.lookup?_eq_get? h, Descriptor.missing]
  cases d.get? key with
  | none => rfl
  | some v => rfl

theorem pieceFailure?_inputCalls (style : Style) :
    pieceFailure? schema d (.slot .inputCalls style) = d.inputLacks.head? := by
  rw [pieceFailure?, slotValue, failure?_map, Rows.inputCalls, failure?_bind_pure]
  exact Rows.failure?_each Rows.failure?_inputCells 0 d.inputs

theorem pieceFailure?_outputCalls (style : Style) :
    pieceFailure? schema d (.slot .outputCalls style) = d.outputLacks.head? := by
  rw [pieceFailure?, slotValue, failure?_map, Rows.outputCalls, failure?_bind_pure]
  exact Rows.failure?_each Rows.failure?_outputCells 0 d.outputs

theorem pieceFailure?_formRows (style : Style) :
    pieceFailure? schema d (.slot .formRows style) = d.inputLacks.head? := by
  rw [pieceFailure?, slotValue, failure?_map, Rows.formRows, failure?_map]
  exact Rows.failure?_each Rows.failure?_formRow 0 d.inputs

theorem pieceFailure?_name (style : Style) :
    pieceFailure? schema d (.slot (.field "name") style) = (d.missing "name").head? :=
  pieceFailure?_field schema d (by decide) style

theorem pieceFailure?_version (style : Style) :
    pieceFailure? schema d (.slot (.field "tool-version") style) = (d.missing "tool-version").head? :=
  pieceFailure?_field schema d (by decide) style

theorem pieceFailure?_commandLine (style : Style) :
    pieceFailure? schema d (.slot (.field "command-line") style) = (d.missing "command-line").head? :=
  pieceFailure?_field schema d (by decide) style

/-- The beginning of both definitions asks for the name and the version. -/
theorem failure?_fill_definitionHead (side : String) (rest : List Piece) :
    failure? (fill schema d (definitionHead side ++ rest)) =
      (d.missing "name").head?.or ((d.missing "tool-version").head?.or (failure? (fill schema d rest))) := by
  simp only [definitionHead, literal, List.cons_append, List.nil_append, failure?_fill_cons, pieceFailure?_text,
    pieceFailure?_identifier, pieceFailure?_optionalField, pieceFailure?_schemaKeyword, pieceFailure?_image,
    pieceFailure?_name, pieceFailure?_version, Option.none_or]
  rw [← Option.or_assoc, Option.or_self]

/-- The end of both definitions asks for what the calls are made of. -/
theorem failure?_fill_definitionTail :
    failure? (fill schema d definitionTail) = d.inputLacks.head?.or d.outputLacks.head? := by
  simp only [definitionTail, failure?_fill_cons, failure?_fill_nil, pieceFailure?_text, pieceFailure?_inputCalls,
    pieceFailure?_outputCalls, Option.none_or, Option.or_none]

theorem failure?_fill_client : failure? (fill schema d client) = d.sharedProblems.head? := by
  rw [client, failure?_fill_definitionHead, failure?_fill_definitionTail, Descriptor.sharedProblems]
  simp only [List.head?_append, Option.or_assoc]

/-- The definition for the worker is as the one for the client, but for the command. -/
theorem failure?_fill_worker (h : d.sharedProblems = []) :
    failure? (fill schema d worker) = (d.missing "command-line").head? := by
  obtain ⟨hname, hversion, hinputs, houtputs⟩ := Descriptor.sharedProblems_eq_nil_iff.mp h
  rw [worker, List.append_assoc, failure?_fill_definitionHead, List.cons_append, failure?_fill_cons,
    List.cons_append, failure?_fill_cons, List.nil_append, failure?_fill_definitionTail, hname, hversion, hinputs,
    houtputs, literal, pieceFailure?_text, pieceFailure?_commandLine]
  simp

theorem pieceFailure?_showRows (h : d.inputLacks = []) (style : Style) :
    pieceFailure? schema d (.slot .showRows style) = none := by
  rw [pieceFailure?, slotValue, failure?_map, Rows.showRows, failure?_map, Rows.failure?_each Rows.failure?_showRow,
    Rows.allLacks_eq_nil h (by simp), List.head?_nil]

theorem pieceFailure?_helpInputs (h : d.inputLacks = []) (style : Style) :
    pieceFailure? schema d (.slot .helpInputs style) = none := by
  rw [pieceFailure?, slotValue, failure?_map, Rows.helpInputs, failure?_map, Rows.failure?_each Rows.failure?_helpInput,
    Rows.allLacks_eq_nil h (by simp), List.head?_nil]

theorem pieceFailure?_helpOutputs (h : d.outputLacks = []) (style : Style) :
    pieceFailure? schema d (.slot .helpOutputs style) = none := by
  rw [pieceFailure?, slotValue, failure?_map, Rows.helpOutputs, failure?_map,
    Rows.failure?_each Rows.failure?_helpOutput, Rows.allLacks_eq_nil h (by simp), List.head?_nil]

/-- The pages for the user ask for nothing that the definitions do not ask for. -/
theorem failure?_fill_view (h : d.sharedProblems = []) (view : ViewKind) :
    failure? (fill schema d (ofKind view.artifact)) = none := by
  obtain ⟨hname, hversion, hinputs, houtputs⟩ := Descriptor.sharedProblems_eq_nil_iff.mp h
  cases view <;>
    simp only [ViewKind.artifact, ofKind, params, summary, help, markup, failure?_fill_cons, failure?_fill_nil,
      pieceFailure?_text, pieceFailure?_identifier, pieceFailure?_optionalField, pieceFailure?_image,
      pieceFailure?_name, pieceFailure?_version, pieceFailure?_formRows, pieceFailure?_showRows _ _ hinputs,
      pieceFailure?_helpInputs _ _ hinputs, pieceFailure?_helpOutputs _ _ houtputs, hname, hversion, hinputs,
      List.head?_nil, Option.none_or]

end

end Template

section
variable (schema : Schema) (d : Descriptor)

theorem failure?_renderKind (kind : ArtifactKind) :
    failure? (renderKind schema d kind) =
      (failure? (Template.fill schema d (Template.ofKind kind))).map (GenerationProblem.mk kind) := by
  rw [renderKind, evaluateAll_template]
  cases Template.fill schema d (Template.ofKind kind) <;> rfl

theorem failure?_render :
    failure? (render schema d) = (failure? (renderKind schema d .clientDefinition)).or
      ((failure? (renderKind schema d .workerDefinition)).or ((failure? (renderKind schema d .paramsTemplate)).or
        ((failure? (renderKind schema d .showTemplate)).or (failure? (renderKind schema d .helpTemplate))))) :=
  failure?_bind fun _ => failure?_bind fun _ => failure?_bind fun _ => failure?_bind fun _ => failure?_bind_pure _ _

end

namespace Descriptor

/-- The kind of artifact that the first problem of a descriptor is met in. -/
def failingKind (d : Descriptor) : ArtifactKind :=
  if d.problems = [.missingField "command-line"] then .workerDefinition else .clientDefinition

/-- Only the definition for the worker has a problem with the command. -/
theorem missing_commandLine_not_mem (d : Descriptor) : .missingField "command-line" ∉ d.sharedProblems := by
  have hmissing : ∀ key ≠ "command-line", .missingField "command-line" ∉ d.missing key := by
    intro key hkey
    rw [missing]
    split_ifs with h
    · exact List.not_mem_nil
    · exact fun hmem => hkey (RenderProblem.missingField.inj (List.mem_singleton.mp hmem)).symm
  have hlacks : ∀ what keys entries, .missingField "command-line" ∉ Rows.allLacks what keys 0 entries := by
    simp [Rows.allLacks, Rows.lacks]
  rw [sharedProblems, List.mem_append, List.mem_append, List.mem_append]
  rintro (((h | h) | h) | h)
  · exact hmissing "name" (by decide) h
  · exact hmissing "tool-version" (by decide) h
  · exact hlacks _ _ _ h
  · exact hlacks _ _ _ h

end Descriptor

/-- The first problem of a descriptor is the one that is reported. -/
theorem failure?_render_eq (schema : Schema) (d : Descriptor) :
    failure? (render schema d) = d.problems.head?.map (GenerationProblem.mk d.failingKind) := by
  have hclient := failure?_renderKind schema d .clientDefinition
  rw [Template.ofKind, Template.failure?_fill_client] at hclient
  rw [failure?_render, hclient, Descriptor.failingKind, Descriptor.problems]
  cases hshared : d.sharedProblems with
  | cons first rest =>
    have hne : first :: rest ++ d.missing "command-line" ≠ [.missingField "command-line"] := by
      intro heq
      have hfirst : first = .missingField "command-line" := (List.cons.inj heq).1
      exact d.missing_commandLine_not_mem (hshared ▸ hfirst ▸ List.mem_cons_self)
    rw [if_neg hne]
    rfl
  | nil =>
    have hworker := failure?_renderKind schema d .workerDefinition
    rw [Template.ofKind, Template.failure?_fill_worker schema d hshared] at hworker
    have hview (view : ViewKind) : failure? (renderKind schema d view.artifact) = none := by
      rw [failure?_renderKind, Template.failure?_fill_view schema d hshared]
      rfl
    have hparams : failure? (renderKind schema d .paramsTemplate) = none := hview .taskParams
    have hsummary : failure? (renderKind schema d .showTemplate) = none := hview .showParams
    have hhelp : failure? (renderKind schema d .helpTemplate) = none := hview .help
    rw [hworker, hparams, hsummary, hhelp]
    by_cases hcommand : d.missing "command-line" = []
    · rw [hcommand]
      rfl
    · rw [Descriptor.missing_of_ne_nil hcommand, List.nil_append, if_pos rfl]
      rfl

/-- The bundled schema asks for all that is needed. -/
theorem Descriptor.Accepted.renderable {d : Descriptor} (h : d.Accepted) : d.Renderable := by
  obtain ⟨name, hname, -⟩ := h.name
  obtain ⟨version, hversion, -⟩ := h.version
  obtain ⟨command, hcommand, -⟩ := h.commandLine
  refine ⟨⟨_, hname⟩, ⟨_, hversion⟩, ⟨_, hcommand⟩, fun entry hentry => ?_, fun entry hentry => ?_⟩
  · obtain ⟨id, hid, -⟩ := (h.input entry hentry).id
    obtain ⟨type, htype, -⟩ := (h.input entry hentry).type
    exact ⟨⟨id, hid⟩, type, htype⟩
  · obtain ⟨id, hid, -⟩ := (h.output entry hentry).id
    obtain ⟨path, hpath, -⟩ := (h.output entry hentry).pathTemplate
    exact ⟨⟨id, hid⟩, path, hpath⟩

/-- A descriptor is rendered, whatever the schema, exactly when it has all that the definitions ask for. Otherwise
    the first of its problems is reported, with the definition for the worker if the command is all that is missing
    and with the one for the client if not. With the bundled schema, strict generation has no such problem. -/
theorem render_eq_ok_iff (schema : Schema) (d : Descriptor) :
    ((∃ a, render schema d = .ok a) ↔ d.Renderable) ∧
      (¬d.Renderable → ∃ first rest, d.problems = first :: rest ∧
        render schema d = .error ⟨d.failingKind, first⟩) ∧
      (Schema.bundled.validate d = [] → ∃ a, render schema d = .ok a) ∧
      ∀ problem, (generate .bundled d .strict).1 ≠ .error (.generation problem) := by
  have hok (schema : Schema) : (∃ a, render schema d = .ok a) ↔ d.Renderable := by
    rw [← failure?_eq_none_iff, failure?_render_eq, Descriptor.renderable_iff, Option.map_eq_none_iff,
      List.head?_eq_none_iff]
  have hvalid (schema : Schema) (h : Schema.bundled.validate d = []) : ∃ a, render schema d = .ok a :=
    (hok schema).mpr (Schema.validate_bundled_eq_nil_iff.mp h).renderable
  refine ⟨hok schema, fun h => ?_, hvalid schema, fun problem h => ?_⟩
  · rw [Descriptor.renderable_iff] at h
    obtain ⟨first, rest, hproblems⟩ := List.exists_cons_of_ne_nil h
    have hfailure : failure? (render schema d) = some ⟨d.failingKind, first⟩ := by
      rw [failure?_render_eq, hproblems]
      rfl
    exact ⟨first, rest, hproblems, failure?_eq_some_iff.mp hfailure⟩
  · rw [generate] at h
    cases herrors : Schema.bundled.validate d with
    | cons e errors => simp [herrors] at h
    | nil =>
      obtain ⟨a, ha⟩ := hvalid .bundled herrors
      simp [herrors, ha, Except.map, Except.mapError] at h

/-- The command is missing as well, and the input has no type, but it is the version that is reported. -/
example (schema : Schema) :
    render schema ⟨[("name", .null), ("inputs", .array [.object [("id", .string "x")]])]⟩ =
      .error ⟨.clientDefinition, .missingField "tool-version"⟩ :=
  failure?_eq_some_iff.mp (failure?_render_eq _ _)

end ToolPlugins
