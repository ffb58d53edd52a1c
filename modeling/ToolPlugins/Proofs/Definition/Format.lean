import Mathlib
import ToolPlugins.Proofs.Definition.Check
import ToolPlugins.Proofs.Json.Lists

/-!
The format of definitions: what the lines of a text have to be for the text to be loaded, and which definition they
declare. The last directive of a kind counts; inputs and output files are taken in their order.
-/

namespace ToolPlugins.Definition
open Json

/-- What a line with a keyword declares about a task. -/
inductive Directive where
  | task (identifier : String)
  | context (side : DefinitionContext)
  | tool (name : String)
  | version (version : String)
  | description (text : Option String)
  | image (name : Option String)
  | command (command : Option String)
  | input (spec : InputSpec)
  | output (spec : OutputSpec)
  deriving DecidableEq, Repr

/-- A text in parentheses that has literals with commas between them. -/
def WritesCall (text : List Char) (arguments : List Json) : Prop :=
  ∃ inner, text = '(' :: inner ++ [')'] ∧ WritesItems inner arguments

namespace Directive

def key : Directive → String
  | task _ => "task"
  | context _ => "context"
  | tool _ => "tool"
  | version _ => "version"
  | description _ => "description"
  | image _ => "image"
  | command _ => "command"
  | input _ => "input"
  | output _ => "output"

/-- A text is what a directive has after its keyword, but for the blanks around the text. -/
def HasValue : Directive → List Char → Prop
  | task identifier, text => text = identifier.toList
  | context side, text => text.map Char.toLower = side.name.toList
  | tool name, text => WritesLiteral text (.string name)
  | version v, text => WritesLiteral text (.string v)
  | description s, text => WritesLiteral text (ofString? s)
  | image name, text => WritesLiteral text (ofString? name)
  | command c, text => WritesLiteral text (ofString? c)
  | input i, text => WritesCall text [.string i.id, .string i.kind, .bool i.optional, ofString? i.valueKey]
  | output o, text => WritesCall text [.string o.id, .string o.pathTemplate, .bool o.optional]

def task? : Directive → Option String
  | task identifier => some identifier
  | _ => none

def context? : Directive → Option DefinitionContext
  | context side => some side
  | _ => none

def tool? : Directive → Option String
  | tool name => some name
  | _ => none

def version? : Directive → Option String
  | version v => some v
  | _ => none

def description? : Directive → Option (Option String)
  | description text => some text
  | _ => none

def image? : Directive → Option (Option String)
  | image name => some name
  | _ => none

def command? : Directive → Option (Option String)
  | command c => some c
  | _ => none

def input? : Directive → Option InputSpec
  | input spec => some spec
  | _ => none

def output? : Directive → Option OutputSpec
  | output spec => some spec
  | _ => none

end Directive

/-- A line is cut behind its longest front of characters of keywords. -/
def Opens (line key rest : List Char) : Prop :=
  line = key ++ rest ∧ (∀ c ∈ key, isKeywordChar c = true) ∧ ∀ c more, rest = c :: more → isKeywordChar c = false

/-- A line is a directive, which is well formed for its keyword. -/
def Declares (line : List Char) (directive : Directive) : Prop :=
  ∃ rest, Opens line directive.key.toList rest ∧ directive.HasValue (Text.trim rest)

/-- The lines of a text without the blanks around them, but for empty ones and remarks. -/
def significant (source : String) : List (List Char) :=
  ((source.toList.splitOn '\n').map Text.trim).filter fun line => line ≠ [] ∧ line.head? ≠ some '#'

/-- The last of what some directives declare. -/
def last? {α : Type} (of : Directive → Option α) (directives : List Directive) : Option α :=
  (directives.filterMap of).getLast?

/-- Directives declare a definition. -/
structure Declared (directives : List Directive) (t : TaskDefinition) : Prop where
  identifier : last? Directive.task? directives = some t.identifier
  context : last? Directive.context? directives = some t.context
  tool : last? Directive.tool? directives = some t.tool
  version : last? Directive.version? directives = some t.version
  description : (last? Directive.description? directives).join = t.description
  image : (last? Directive.image? directives).join = t.image
  command : (last? Directive.command? directives).join = t.command
  inputs : directives.filterMap Directive.input? = t.inputs
  outputs : directives.filterMap Directive.output? = t.outputs

/-- A definition is of an identifier and a side, and keeps the rules. -/
structure Meets (t : TaskDefinition) (expected : String) (side : DefinitionContext) : Prop where
  identifier : t.identifier = expected
  canonical : Identifier.isCanonical t.identifier = true
  context : t.context = side
  version : HasInk t.version
  command : t.context = .worker → ∃ command, t.command = some command ∧ HasInk command
  inputs : (∀ i ∈ t.inputs, IsParameterId i.id) ∧ (t.inputs.map InputSpec.id).Nodup
  outputs : (∀ o ∈ t.outputs, IsParameterId o.id) ∧ (t.outputs.map OutputSpec.id).Nodup

/-! ### The value of a directive -/

section
variable {text : List Char}

theorem isLiteral_ofString? (s : Option String) : IsLiteral (ofString? s) := by
  cases s <;> trivial

theorem readText_eq_ok_iff {s : String} : readText text = .ok s ↔ WritesLiteral text (.string s) := by
  rw [← Json.readText_eq_ok_iff (show IsLiteral (.string s) from trivial), readText]
  cases Json.readText text with
  | error fault => simp
  | ok read => cases read <;> simp

theorem readOptional_eq_ok_iff {s : Option String} : readOptional text = .ok s ↔ WritesLiteral text (ofString? s) := by
  rw [← Json.readText_eq_ok_iff (isLiteral_ofString? s), readOptional]
  cases Json.readText text with
  | error fault => simp
  | ok read => cases read <;> cases s <;> simp [ofString?, ofOption]

theorem unwrap?_eq_some_iff {inner : List Char} : unwrap? text = some inner ↔ text = '(' :: inner ++ [')'] := by
  constructor
  · intro h
    rw [unwrap?.eq_def] at h
    split at h
    · next rest =>
      split at h
      · next hlast =>
        cases h
        rw [List.cons_append, List.dropLast_append_getLast? _ hlast]
      · cases h
    · cases h
  · rintro rfl
    simp [unwrap?]

theorem readArguments_eq_ok_iff {arguments : List Json} {count : Nat} :
    readArguments text count = .ok arguments ↔
      ∃ inner, text = '(' :: inner ++ [')'] ∧ readArray ('[' :: inner ++ [']']) = .ok arguments ∧
        arguments.length = count := by
  rw [readArguments]
  simp only [← unwrap?_eq_some_iff]
  cases unwrap? text with
  | none => simp
  | some inner =>
    simp only [Option.some.injEq, exists_eq_left']
    cases readArray ('[' :: inner ++ [']']) with
    | error fault => simp
    | ok args =>
      simp only [Except.ok.injEq]
      split_ifs with hlength
      · rw [Except.ok.injEq]
        exact ⟨fun h => ⟨h, h ▸ hlength⟩, And.left⟩
      · simp only [false_iff]
        rintro ⟨rfl, h⟩
        exact hlength h

theorem readArguments_literals_iff {v : Json} {literals : List Json} (h : ∀ w ∈ v :: literals, IsLiteral w) :
    readArguments text (literals.length + 1) = .ok (v :: literals) ↔ WritesCall text (v :: literals) := by
  rw [readArguments_eq_ok_iff]
  simp only [readArray_eq_ok_iff h (List.cons_ne_nil _ _), List.length_cons, and_true]
  rfl

theorem textArgument_eq_ok_iff {arguments : List Json} {index : Nat} {s : String} :
    textArgument arguments index = .ok s ↔ arguments[index]? = some (.string s) := by
  rw [textArgument]
  split
  · next h => simp [h]
  · next h =>
    simp only [reduceCtorEq, false_iff]
    exact h s

theorem booleanArgument_eq_ok_iff {arguments : List Json} {index : Nat} {b : Bool} :
    booleanArgument arguments index = .ok b ↔ arguments[index]? = some (.bool b) := by
  rw [booleanArgument]
  split
  · next h => simp [h]
  · next h =>
    simp only [reduceCtorEq, false_iff]
    exact h b

theorem optionalArgument_eq_ok_iff {arguments : List Json} {index : Nat} {s : Option String} :
    optionalArgument arguments index = .ok s ↔ arguments[index]? = some (ofString? s) := by
  rw [optionalArgument]
  split
  · next h => cases s <;> simp [h, ofString?, ofOption]
  · next h => cases s <;> simp [h, ofString?, ofOption]
  · next hnull hstring =>
    simp only [reduceCtorEq, false_iff]
    cases s with
    | none => exact hnull
    | some s => exact hstring s

theorem readInput_eq_ok_iff {i : InputSpec} : readInput text = .ok i ↔
    WritesCall text [.string i.id, .string i.kind, .bool i.optional, ofString? i.valueKey] := by
  have hliteral : ∀ v ∈ [.string i.id, .string i.kind, .bool i.optional, ofString? i.valueKey], IsLiteral v := by
    simp only [List.forall_mem_cons]
    exact ⟨trivial, trivial, trivial, isLiteral_ofString? _, List.forall_mem_nil _⟩
  have hcall : readArguments text 4 = .ok _ ↔ _ := readArguments_literals_iff hliteral
  constructor
  · intro h
    obtain ⟨args, hargs, h⟩ := bind_eq_ok_iff.mp h
    obtain ⟨valueKey, hkey, h⟩ := bind_eq_ok_iff.mp h
    obtain ⟨id, hid, h⟩ := bind_eq_ok_iff.mp h
    obtain ⟨kind, hkind, h⟩ := bind_eq_ok_iff.mp h
    obtain ⟨optional, hoptional, h⟩ := bind_eq_ok_iff.mp h
    cases pure_eq_ok_iff.mp h
    obtain ⟨-, -, -, hlength⟩ := readArguments_eq_ok_iff.mp hargs
    rw [optionalArgument_eq_ok_iff] at hkey
    rw [textArgument_eq_ok_iff] at hid hkind
    rw [booleanArgument_eq_ok_iff] at hoptional
    obtain ⟨a, b, c, d, rfl⟩ := List.length_eq_four.mp hlength
    cases hid
    cases hkind
    cases hoptional
    cases hkey
    exact hcall.mp hargs
  · intro h
    rw [readInput, hcall.mpr h]
    obtain ⟨id, kind, optional, valueKey⟩ := i
    cases valueKey <;> rfl

theorem readOutput_eq_ok_iff {o : OutputSpec} : readOutput text = .ok o ↔
    WritesCall text [.string o.id, .string o.pathTemplate, .bool o.optional] := by
  have hliteral : ∀ v ∈ [.string o.id, .string o.pathTemplate, .bool o.optional], IsLiteral v := by
    simp only [List.forall_mem_cons]
    exact ⟨trivial, trivial, trivial, List.forall_mem_nil _⟩
  have hcall : readArguments text 3 = .ok _ ↔ _ := readArguments_literals_iff hliteral
  constructor
  · intro h
    obtain ⟨args, hargs, h⟩ := bind_eq_ok_iff.mp h
    obtain ⟨id, hid, h⟩ := bind_eq_ok_iff.mp h
    obtain ⟨path, hpath, h⟩ := bind_eq_ok_iff.mp h
    obtain ⟨optional, hoptional, h⟩ := bind_eq_ok_iff.mp h
    cases pure_eq_ok_iff.mp h
    obtain ⟨-, -, -, hlength⟩ := readArguments_eq_ok_iff.mp hargs
    rw [textArgument_eq_ok_iff] at hid hpath
    rw [booleanArgument_eq_ok_iff] at hoptional
    obtain ⟨a, b, c, rfl⟩ := List.length_eq_three.mp hlength
    cases hid
    cases hpath
    cases hoptional
    exact hcall.mp hargs
  · intro h
    rw [readOutput, hcall.mpr h]
    rfl

theorem readContext_eq_ok_iff (htrim : Text.trim text = text) {side : DefinitionContext} :
    readContext text = .ok side ↔ text.map Char.toLower = side.name.toList := by
  have hkey : Text.lowered (Text.trimmed (String.ofList text)) = String.ofList (text.map Char.toLower) := by
    rw [Text.trimmed, String.toList_ofList, htrim, Text.lowered, String.toList_ofList]
  rw [readContext, DefinitionContext.ofText?]
  simp only [hkey, ← String.toList_inj, String.toList_ofList]
  split_ifs with hclient hworker
  · rw [hclient]
    cases side <;> simp [DefinitionContext.name]
  · rw [hworker]
    cases side <;> simp [DefinitionContext.name]
  · cases side with
    | client => simpa [DefinitionContext.name] using hclient
    | worker => simpa [DefinitionContext.name] using hworker

end

/-! ### One line -/

section
variable {line : List Char} {d e : Draft}

theorem opens_iff {key rest : List Char} :
    Opens line key rest ↔ keyword line = key ∧ line.dropWhile isKeywordChar = rest := by
  constructor
  · rintro ⟨rfl, hkey, hrest⟩
    have htake : rest.takeWhile isKeywordChar = [] ∧ rest.dropWhile isKeywordChar = rest := by
      cases rest with
      | nil => exact ⟨rfl, rfl⟩
      | cons c more =>
        have hc := hrest c more rfl
        simp [hc]
    refine ⟨?_, ?_⟩
    · change List.takeWhile isKeywordChar (key ++ rest) = key
      rw [List.takeWhile_append_of_pos hkey, htake.1, List.append_nil]
    · rw [List.dropWhile_append_of_pos hkey, htake.2]
  · rintro ⟨rfl, rfl⟩
    refine ⟨(List.takeWhile_append_dropWhile (p := isKeywordChar)).symm, fun _ hc => List.mem_takeWhile_imp hc, ?_⟩
    intro c more h
    have hhead := List.head?_dropWhile_not isKeywordChar line
    rw [h] at hhead
    exact hhead

example : Opens "tool\"x\"".toList "tool".toList "\"x\"".toList := opens_iff.mpr (by decide)

theorem declares_iff {directive : Directive} :
    Declares line directive ↔ keyword line = directive.key.toList ∧ directive.HasValue (value line) := by
  constructor
  · rintro ⟨rest, hopens, hvalue⟩
    obtain ⟨hkey, rfl⟩ := opens_iff.mp hopens
    exact ⟨hkey, hvalue⟩
  · rintro ⟨hkey, hvalue⟩
    exact ⟨_, opens_iff.mpr ⟨hkey, rfl⟩, hvalue⟩

/-- The draft after a directive. -/
def Draft.put (d : Draft) : Directive → Draft
  | .task identifier => { d with identifier := some identifier }
  | .context side => { d with context := some side }
  | .tool name => { d with tool := some name }
  | .version version => { d with version := some version }
  | .description description => { d with description }
  | .image image => { d with image }
  | .command command => { d with command }
  | .input input => { d with inputs := d.inputs ++ [input] }
  | .output output => { d with outputs := d.outputs ++ [output] }

theorem Draft.ended_put (d : Draft) (directive : Directive) : (d.put directive).ended = d.ended := by
  cases directive <;> rfl

theorem Draft.directive_of_declares {directive : Directive} (h : Declares line directive) :
    d.directive line = .ok (d.put directive) := by
  obtain ⟨hkey, hvalue⟩ := declares_iff.mp h
  rw [Draft.directive, hkey, String.ofList_toList]
  cases directive with
  | task identifier =>
    rw [show value line = _ from hvalue, String.ofList_toList]
    rfl
  | context side =>
    have hread := (readContext_eq_ok_iff (Text.trim_trim _)).mpr hvalue
    exact map_eq_ok_iff.mpr ⟨_, hread, rfl⟩
  | tool name => exact map_eq_ok_iff.mpr ⟨_, readText_eq_ok_iff.mpr hvalue, rfl⟩
  | version version => exact map_eq_ok_iff.mpr ⟨_, readText_eq_ok_iff.mpr hvalue, rfl⟩
  | description text => exact map_eq_ok_iff.mpr ⟨_, readOptional_eq_ok_iff.mpr hvalue, rfl⟩
  | image name => exact map_eq_ok_iff.mpr ⟨_, readOptional_eq_ok_iff.mpr hvalue, rfl⟩
  | command command => exact map_eq_ok_iff.mpr ⟨_, readOptional_eq_ok_iff.mpr hvalue, rfl⟩
  | input spec => exact map_eq_ok_iff.mpr ⟨_, readInput_eq_ok_iff.mpr hvalue, rfl⟩
  | output spec => exact map_eq_ok_iff.mpr ⟨_, readOutput_eq_ok_iff.mpr hvalue, rfl⟩

theorem Draft.directive_end : d.directive "end".toList = .ok { d with ended := true } := rfl

/-- Behind the end a line has nothing, not even blanks, which would be at the end of the line. -/
theorem eq_end_of_value_eq_nil (htrim : Text.trim line = line) (hkey : keyword line = "end".toList)
    (hvalue : value line = []) : line = "end".toList := by
  obtain ⟨hline, -, -⟩ := opens_iff.mpr ⟨hkey, rfl⟩
  have hblank := Text.isBlank_of_trim_eq_nil hvalue
  cases hrest : line.dropWhile isKeywordChar using List.reverseRecOn with
  | nil => rw [hline, hrest, List.append_nil]
  | append_singleton more c =>
    rcases Text.trim_cases line with h | ⟨first, rest, front, last, -, he, -, hlast⟩
    · rw [← htrim, h] at hrest
      simp at hrest
    · have hc : last = c := by
        rw [htrim, hline, hrest, ← List.append_assoc] at he
        exact (List.append_inj' he rfl).2 |> List.singleton_inj.mp |>.symm
      have := hblank c (hrest ▸ List.mem_concat_self)
      rw [← hc, hlast] at this
      cases this

theorem Draft.directive_cases (htrim : Text.trim line = line) (h : d.directive line = .ok e) :
    line = "end".toList ∨ ∃ directive, Declares line directive := by
  have hdeclares : ∀ {key} (directive : Directive), String.ofList (keyword line) = key → directive.key = key →
      directive.HasValue (value line) → ∃ directive, Declares line directive := by
    rintro key directive hkey rfl hvalue
    exact ⟨directive, declares_iff.mpr ⟨by rw [← hkey, String.toList_ofList], hvalue⟩⟩
  rw [Draft.directive] at h
  split at h
  · next hkey => exact .inr (hdeclares (.task (String.ofList (value line))) hkey rfl String.toList_ofList.symm)
  · next hkey =>
    obtain ⟨side, hread, -⟩ := map_eq_ok_iff.mp h
    exact .inr (hdeclares (.context side) hkey rfl ((readContext_eq_ok_iff (Text.trim_trim _)).mp hread))
  · next hkey =>
    obtain ⟨name, hread, -⟩ := map_eq_ok_iff.mp h
    exact .inr (hdeclares (.tool name) hkey rfl (readText_eq_ok_iff.mp hread))
  · next hkey =>
    obtain ⟨version, hread, -⟩ := map_eq_ok_iff.mp h
    exact .inr (hdeclares (.version version) hkey rfl (readText_eq_ok_iff.mp hread))
  · next hkey =>
    obtain ⟨text, hread, -⟩ := map_eq_ok_iff.mp h
    exact .inr (hdeclares (.description text) hkey rfl (readOptional_eq_ok_iff.mp hread))
  · next hkey =>
    obtain ⟨name, hread, -⟩ := map_eq_ok_iff.mp h
    exact .inr (hdeclares (.image name) hkey rfl (readOptional_eq_ok_iff.mp hread))
  · next hkey =>
    obtain ⟨command, hread, -⟩ := map_eq_ok_iff.mp h
    exact .inr (hdeclares (.command command) hkey rfl (readOptional_eq_ok_iff.mp hread))
  · next hkey =>
    obtain ⟨spec, hread, -⟩ := map_eq_ok_iff.mp h
    exact .inr (hdeclares (.input spec) hkey rfl (readInput_eq_ok_iff.mp hread))
  · next hkey =>
    obtain ⟨spec, hread, -⟩ := map_eq_ok_iff.mp h
    exact .inr (hdeclares (.output spec) hkey rfl (readOutput_eq_ok_iff.mp hread))
  · next hkey =>
    split_ifs at h with hempty
    exact .inl (eq_end_of_value_eq_nil htrim (by rw [← hkey, String.toList_ofList]) (List.isEmpty_iff.mp hempty))
  · cases h

end

/-! ### All lines -/

section
variable {d e : Draft}

theorem isPassedOver_eq_false_iff {line : List Char} :
    isPassedOver line = false ↔ line ≠ [] ∧ line.head? ≠ some '#' := by
  cases line with
  | nil => simp [isPassedOver]
  | cons c rest => simp [isPassedOver]

/-- Lines are read as they are without blanks around them, and empty lines and remarks are not read. -/
theorem Draft.reads_iff_filter {raws : List (List Char)} :
    d.Reads raws e ↔
      ((raws.map Text.trim).filter fun line => line ≠ [] ∧ line.head? ≠ some '#').foldlM Draft.line d = .ok e := by
  induction raws generalizing d with
  | nil => rw [reads_nil_iff, List.map_nil, List.filter_nil, List.foldlM_nil, pure_eq_ok_iff]
  | cons raw raws ih =>
    rw [reads_cons_iff, List.map_cons]
    by_cases hline : Text.trim raw ≠ [] ∧ (Text.trim raw).head? ≠ some '#'
    · rw [List.filter_cons_of_pos (by simpa using hline), List.foldlM_cons, bind_eq_ok_iff]
      simp only [ih]
    · have hpass : isPassedOver (Text.trim raw) = true := by
        rw [← Bool.not_eq_false, isPassedOver_eq_false_iff]
        exact hline
      rw [List.filter_cons_of_neg (by simpa using hline), Draft.line, if_pos hpass]
      simp [ih]

/-- Nothing may stand behind the end. -/
theorem Draft.foldlM_line_ended_iff {lines : List (List Char)} (hd : d.ended = true)
    (hlines : ∀ line ∈ lines, isPassedOver line = false) :
    lines.foldlM Draft.line d = .ok e ↔ lines = [] ∧ d = e := by
  cases lines with
  | nil => simp [pure_eq_ok_iff]
  | cons next lines =>
    have hafter : d.line next = .error .afterEnd := by
      rw [Draft.line, hlines next List.mem_cons_self, hd]
      rfl
    rw [List.foldlM_cons, bind_eq_ok_iff, hafter]
    simp

/-- Lines that are read to their end are directives, and the end after them. -/
theorem Draft.foldlM_line_iff {lines : List (List Char)} (hd : d.ended = false)
    (hlines : ∀ line ∈ lines, isPassedOver line = false ∧ Text.trim line = line) :
    (lines.foldlM Draft.line d = .ok e ∧ e.ended = true) ↔
      ∃ front directives, lines = front ++ ["end".toList] ∧ List.Forall₂ Declares front directives ∧
        e = { directives.foldl Draft.put d with ended := true } := by
  induction lines generalizing d with
  | nil =>
    rw [List.foldlM_nil, pure_eq_ok_iff]
    constructor
    · rintro ⟨rfl, he⟩
      rw [hd] at he
      cases he
    · rintro ⟨front, directives, h, -⟩
      simp at h
  | cons line lines ih =>
    obtain ⟨⟨hpass, htrim⟩, hrest⟩ := List.forall_mem_cons.mp hlines
    have hline : d.line line = d.directive line := by
      rw [Draft.line, hpass, hd]
      rfl
    rw [List.foldlM_cons, bind_eq_ok_iff, hline]
    constructor
    · rintro ⟨⟨m, hm, hread⟩, he⟩
      rcases directive_cases htrim hm with rfl | ⟨directive, hdeclares⟩
      -- after the end the draft takes no line, so the end is the last one
      · rw [directive_end] at hm
        cases hm
        obtain ⟨rfl, rfl⟩ := (foldlM_line_ended_iff rfl fun line hline => (hrest line hline).1).mp hread
        exact ⟨[], [], rfl, .nil, rfl⟩
      · rw [directive_of_declares hdeclares] at hm
        cases hm
        obtain ⟨front, directives, rfl, hfront, rfl⟩ :=
          (ih ((ended_put d directive).trans hd) hrest).mp ⟨hread, he⟩
        exact ⟨line :: front, directive :: directives, rfl, .cons hdeclares hfront, rfl⟩
    · rintro ⟨front, directives, h, hfront, rfl⟩
      cases hfront with
      | nil =>
        cases h
        exact ⟨⟨_, directive_end, rfl⟩, rfl⟩
      | @cons _ directive front directives hdeclares hfront =>
        cases h
        refine ⟨⟨d.put directive, directive_of_declares hdeclares, ?_⟩, rfl⟩
        exact ((ih ((ended_put d directive).trans hd) hrest).mpr ⟨front, directives, rfl, hfront, rfl⟩).1

theorem last?_append_singleton {α : Type} (of : Directive → Option α) (directives : List Directive)
    (directive : Directive) :
    last? of (directives ++ [directive]) = (of directive).or (last? of directives) := by
  rw [last?, List.filterMap_append, List.getLast?_append]
  cases h : of directive with
  | none => simp [h, last?]
  | some a => simp [h]

theorem Draft.foldl_put (directives : List Directive) :
    directives.foldl Draft.put {} =
      { identifier := last? Directive.task? directives
        context := last? Directive.context? directives
        tool := last? Directive.tool? directives
        version := last? Directive.version? directives
        description := (last? Directive.description? directives).join
        image := (last? Directive.image? directives).join
        command := (last? Directive.command? directives).join
        inputs := directives.filterMap Directive.input?
        outputs := directives.filterMap Directive.output? } := by
  induction directives using List.reverseRecOn with
  | nil => rfl
  | append_singleton directives directive ih =>
    rw [List.foldl_append, List.foldl_cons, List.foldl_nil, ih]
    simp only [last?_append_singleton, List.filterMap_append]
    cases directive <;> simp [Draft.put, Directive.task?, Directive.context?, Directive.tool?, Directive.version?,
      Directive.description?, Directive.image?, Directive.command?, Directive.input?, Directive.output?]

theorem draftOf_eq_iff {directives : List Directive} {t : TaskDefinition} :
    Draft.of t = { directives.foldl Draft.put {} with ended := true } ↔ Declared directives t := by
  rw [Draft.foldl_put, Draft.of, Draft.mk.injEq]
  constructor
  · rintro ⟨h1, h2, h3, h4, h5, h6, h7, h8, h9, -⟩
    exact ⟨h1.symm, h2.symm, h3.symm, h4.symm, h5.symm, h6.symm, h7.symm, h8.symm, h9.symm⟩
  · intro h
    exact ⟨h.identifier.symm, h.context.symm, h.tool.symm, h.version.symm, h.description.symm, h.image.symm,
      h.command.symm, h.inputs.symm, h.outputs.symm, rfl⟩

theorem meets_iff {t : TaskDefinition} {expected : String} {side : DefinitionContext} :
    t.identifier = expected ∧ t.context = side ∧ t.problem? = none ↔ Meets t expected side := by
  rw [TaskDefinition.problem?_eq_none_iff, List.forall_mem_map, List.forall_mem_map]
  constructor
  · rintro ⟨hid, hside, hcanonical, hversion, hcommand, hinputs, houtputs⟩
    exact ⟨hid, hcanonical, hside, hversion, hcommand, hinputs, houtputs⟩
  · intro h
    exact ⟨h.identifier, h.context, h.canonical, h.version, h.command, h.inputs, h.outputs⟩

theorem mem_significant {source : String} {line : List Char} (h : line ∈ significant source) :
    isPassedOver line = false ∧ Text.trim line = line := by
  obtain ⟨hmem, hpass⟩ := List.mem_filter.mp h
  obtain ⟨raw, -, rfl⟩ := List.mem_map.mp hmem
  exact ⟨isPassedOver_eq_false_iff.mpr (by simpa using hpass), Text.trim_trim raw⟩

end

/-- A text is loaded, as a definition, exactly when its lines are directives and an end, these declare the definition,
    and the definition is of the identifier and the side that are asked for and keeps the rules. -/
theorem load_eq_ok_iff_declared (source expected : String) (side : DefinitionContext) (t : TaskDefinition) :
    load source expected side = .ok t ↔
      ∃ lines directives, significant source = lines ++ ["end".toList] ∧ List.Forall₂ Declares lines directives ∧
        Declared directives t ∧ Meets t expected side := by
  have hread := @Draft.foldlM_line_iff {} (Draft.of t) (significant source) rfl fun _ => mem_significant
  rw [load_eq_ok_iff, Draft.reads_iff_filter, meets_iff]
  constructor
  · rintro ⟨hlines, hmeets⟩
    obtain ⟨lines, directives, hsource, hdeclares, hdraft⟩ := hread.mp ⟨hlines, rfl⟩
    exact ⟨lines, directives, hsource, hdeclares, draftOf_eq_iff.mp hdraft, hmeets⟩
  · rintro ⟨lines, directives, hsource, hdeclares, hdeclared, hmeets⟩
    exact ⟨(hread.mpr ⟨lines, directives, hsource, hdeclares, draftOf_eq_iff.mpr hdeclared⟩).1, hmeets⟩

end ToolPlugins.Definition
