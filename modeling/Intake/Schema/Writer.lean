import Intake.Schema.Basic
import Intake.Value.Text

/-!
# Writing schemas

The JSON tree of a schema: an object with its type, default, element schema and nested fields,
each only if it has one, and then the parameters of its rules in the order of their keys. A field
with alternatives is an array of such objects.
-/

set_option autoImplicit false

namespace Intake

/-- The JSON tree of a declared type. -/
def TypeSpec.toJson : TypeSpec → Json
  | .one name => .string name
  | .union names => .array (names.map Json.string)

/-- The entry of an optional part. -/
def optionalEntry (key : String) : Option Json → List (String × Json)
  | some tree => [(key, tree)]
  | none => []

mutual

/-- The JSON tree of a field schema. -/
def FieldSchema.toJson : FieldSchema → Json
  | .single schema => schemaToJson schema
  | .union schemas => .array (schemasToJson schemas)

/-- The JSON tree of a schema. -/
def schemaToJson : SchemaOver FieldSchema → Json
  | ⟨type, default, items, properties, rules⟩ =>
    .object (optionalEntry "type" (type.map TypeSpec.toJson)
      ++ optionalEntry "default" (default.map Value.toJson)
      ++ optionalEntry "items" (itemsToJson items)
      ++ optionalEntry "properties" (propertiesToJson properties)
      ++ rules.entries.map fun (key, param) => (key, param.toJson))

/-- The JSON trees of the alternatives of a field. -/
def schemasToJson : List (SchemaOver FieldSchema) → List Json
  | [] => []
  | schema :: rest => schemaToJson schema :: schemasToJson rest

/-- The JSON tree of an element schema. -/
def itemsToJson : Option FieldSchema → Option Json
  | none => none
  | some field => some field.toJson

/-- The JSON tree of nested fields. -/
def propertiesToJson : Option (List (String × FieldSchema)) → Option Json
  | none => none
  | some fields => some (.object (fieldsToJson fields))

/-- The JSON entries of named fields. -/
def fieldsToJson : List (String × FieldSchema) → List (String × Json)
  | [] => []
  | (name, field) :: rest => (name, field.toJson) :: fieldsToJson rest

end

/-- The JSON tree of a schema. -/
def Schema.toJson (schema : Schema) : Json :=
  schemaToJson schema

/-- The JSON tree of named fields. -/
def Properties.toJson (fields : Properties) : Json :=
  .object (fieldsToJson fields)

end Intake
