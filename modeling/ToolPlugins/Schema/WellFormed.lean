import ToolPlugins.Schema.Form

/-!
Which documents are schemas. Every keyword of the dialect has a value of its form, and schemas stand in
schemas. The first offence against the forms is reported, by the groups of the keywords and then in
the order of their keys.
-/

namespace ToolPlugins.Schema

/-- The first of the offences of keywords, by groups. -/
def firstOffence? (dialect : Dialect) (found : List (String × Offence)) : Option Offence :=
  dialect.keywords.findSome? fun group =>
    (found.find? fun entry => (group.lookup entry.1).isSome).map (·.2)

/-- Where one of several forms is asked for, an offence is one of the whole value. -/
def asWhole (value : Json) (offence : Option Offence) : Option Offence :=
  offence.map fun _ => (value, .noAlternative)

/-- An offence if the key of a field is not an expression that can be read. -/
def keyOffence? (patterns : PatternReader) (field : String × Json) : Option Offence :=
  Form.expression.offence? patterns (.string field.1)

mutual

/-- The first offence of a document, if it is no schema. -/
def offence? (patterns : PatternReader) (dialect : Dialect) : Json → Option Offence
  | .object fields => firstOffence? dialect (fieldOffences patterns dialect fields)
  | .bool _ => none
  | value => some (value, .notTypes [.boolean, .object])

/-- The offence of each keyword that has one. -/
def fieldOffences (patterns : PatternReader) (dialect : Dialect) : List (String × Json) → List (String × Offence)
  | [] => []
  | (key, value) :: rest =>
    let offence := match value with
      | .object inner =>
        match dialect.form? key with
        | some .schema => offence? patterns dialect (.object inner)
        | some .schemaOrSchemas => asWhole (.object inner) (offence? patterns dialect (.object inner))
        | some .schemaMap => firstInFields? patterns dialect inner
        | some .expressionMap => (firstInFields? patterns dialect inner).or (inner.findSome? (keyOffence? patterns))
        | some .schemaOrNamesMap => firstInEither? patterns dialect inner
        | some form => form.offence? patterns (.object inner)
        | none => none
      | .array items =>
        match dialect.form? key with
        | some .schemas =>
          if items.isEmpty then some (.array items, .fewItems 1) else firstInItems? patterns dialect items
        | some .schemaOrSchemas =>
          if items.isEmpty then some (.array items, .noAlternative)
          else asWhole (.array items) (firstInItems? patterns dialect items)
        | some form => form.offence? patterns (.array items)
        | none => none
      | .bool b =>
        match dialect.form? key with
        | some .schema => none
        | some .schemaOrSchemas => none
        | some form => form.offence? patterns (.bool b)
        | none => none
      | other => (dialect.form? key).bind fun form => form.offence? patterns other
    (offence.map fun o => (key, o)).toList ++ fieldOffences patterns dialect rest

/-- The first offence of the schemas in the fields of an object. -/
def firstInFields? (patterns : PatternReader) (dialect : Dialect) : List (String × Json) → Option Offence
  | [] => none
  | (_, value) :: rest => (offence? patterns dialect value).or (firstInFields? patterns dialect rest)

/-- The first offence of the fields of an object whose values are schemas or lists of names. -/
def firstInEither? (patterns : PatternReader) (dialect : Dialect) : List (String × Json) → Option Offence
  | [] => none
  | (_, value) :: rest =>
    (if (offenceOfNames? value).isNone then none else asWhole value (offence? patterns dialect value)).or
      (firstInEither? patterns dialect rest)

/-- The first offence of the schemas of a list. -/
def firstInItems? (patterns : PatternReader) (dialect : Dialect) : List Json → Option Offence
  | [] => none
  | value :: rest => (offence? patterns dialect value).or (firstInItems? patterns dialect rest)

end

end ToolPlugins.Schema
