import Intake.Schema.Basic
import Intake.Value.Text

/-!
# Reading schemas

A field schema is read from an object or an array of objects. Of the keys of the schema language
each may occur once, and a null means the same as its absence; all other entries are parameters of
rules, the last one of a repeated key counting. Nested fields keep their order and their repeated
names.
-/

set_option autoImplicit false

namespace Intake

/-- What one entry of a schema object says. -/
inductive SchemaPart (field : Type)
  /-- The declared type, or its absence. -/
  | type (value : Option TypeSpec)
  /-- The default, or its absence. -/
  | default (value : Option Value)
  /-- The element schema, or its absence. -/
  | items (value : Option field)
  /-- The nested fields, or their absence. -/
  | properties (value : Option (List (String × field)))
  /-- The parameter of a rule. -/
  | rule (key : String) (param : Value)

/-- Sets what an entry says. -/
def SchemaOver.withPart {field : Type} (schema : SchemaOver field) :
    SchemaPart field → SchemaOver field
  | .type value => { schema with type := value }
  | .default value => { schema with default := value }
  | .items value => { schema with items := value }
  | .properties value => { schema with properties := value }
  | .rule key param => { schema with rules := schema.rules.insert key param }

/-- The schema of the parts of an object. -/
def SchemaOver.ofParts {field : Type} (parts : List (SchemaPart field)) : SchemaOver field :=
  parts.foldl SchemaOver.withPart {}

/-- Whether each key of the schema language occurs at most once. -/
def reservedOnce (entries : List (String × Json)) : Bool :=
  Schema.reservedKeys.all fun key => (entries.map Prod.fst).count key ≤ 1

/-- The strings of a list of JSON strings. -/
def stringsOfJson? : List Json → Option (List String)
  | [] => some []
  | .string s :: rest => (stringsOfJson? rest).map (s :: ·)
  | _ => none

/-- The declared type that a JSON tree gives: null for none, a name or a list of names. -/
def TypeSpec.ofJson? : Json → Option (Option TypeSpec)
  | .null => some none
  | .string name => some (some (.one name))
  | .array names => (stringsOfJson? names).map fun names => some (.union names)
  | _ => none

/-- The default that a JSON tree gives: null for none. -/
def defaultOfJson : Json → Option Value
  | .null => none
  | tree => some (Value.ofJson tree)

mutual

/-- The field schema of a JSON tree. -/
def FieldSchema.ofJson? : Json → Option FieldSchema
  | .object entries =>
    if reservedOnce entries then
      (partsOfEntries? entries).map fun parts => .single (SchemaOver.ofParts parts)
    else none
  | .array elements => (schemasOfElements? elements).map .union
  | _ => none

/-- The schema of a JSON tree. -/
def schemaOfJson? : Json → Option (SchemaOver FieldSchema)
  | .object entries =>
    if reservedOnce entries then (partsOfEntries? entries).map SchemaOver.ofParts else none
  | _ => none

/-- The schemas of the elements of a JSON array. -/
def schemasOfElements? : List Json → Option (List (SchemaOver FieldSchema))
  | [] => some []
  | element :: rest =>
    match schemaOfJson? element, schemasOfElements? rest with
    | some schema, some schemas => some (schema :: schemas)
    | _, _ => none

/-- What the entries of a schema object say. -/
def partsOfEntries? : List (String × Json) → Option (List (SchemaPart FieldSchema))
  | [] => some []
  | (key, tree) :: rest =>
    let part? : Option (SchemaPart FieldSchema) :=
      if key = "type" then (TypeSpec.ofJson? tree).map .type
      else if key = "default" then some (.default (defaultOfJson tree))
      else if key = "items" then
        if tree.isNull then some (.items none)
        else (FieldSchema.ofJson? tree).map fun field => .items (some field)
      else if key = "properties" then (propertiesOfJson? tree).map .properties
      else some (.rule key (Value.ofJson tree))
    match part?, partsOfEntries? rest with
    | some part, some parts => some (part :: parts)
    | _, _ => none

/-- The nested fields that a JSON tree gives: null for none. -/
def propertiesOfJson? : Json → Option (Option (List (String × FieldSchema)))
  | .null => some none
  | .object entries => (fieldsOfEntries? entries).map some
  | _ => none

/-- The named field schemas of the entries of a JSON object. -/
def fieldsOfEntries? : List (String × Json) → Option (List (String × FieldSchema))
  | [] => some []
  | (name, tree) :: rest =>
    match FieldSchema.ofJson? tree, fieldsOfEntries? rest with
    | some field, some fields => some ((name, field) :: fields)
    | _, _ => none

end

/-- The schema of a JSON tree. -/
def Schema.ofJson? (tree : Json) : Option Schema :=
  schemaOfJson? tree

/-- The named fields of a JSON tree, which must be an object. -/
def Properties.ofJson? : Json → Option Properties
  | .object entries => fieldsOfEntries? entries
  | _ => none

end Intake
