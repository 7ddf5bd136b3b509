import Intake.Schema.RuleTable
import Intake.Value.Equality

/-!
# Field schemas

How one field of a record is to be sanitized: its type or types, a default, the schema of its
elements, the fields nested in it, and the parameters of its rules. A field has one schema or
several alternatives.
-/

set_option autoImplicit false

namespace Intake

/-- The declared type of a schema. -/
inductive TypeSpec
  /-- One type. -/
  | one (name : String)
  /-- Types to be tried in order. -/
  | union (names : List String)
deriving DecidableEq

/-- The type names in order. -/
def TypeSpec.names : TypeSpec → List String
  | .one name => [name]
  | .union names => names

/-- A schema over the schemas of the fields nested in it. -/
structure SchemaOver (field : Type) where
  /-- The declared type; without one nothing is coerced. -/
  type : Option TypeSpec := none
  /-- What a missing or null value is replaced by. -/
  default : Option Value := none
  /-- The schema of the elements of an array. -/
  items : Option field := none
  /-- The fields of a nested record, in order. -/
  properties : Option (List (String × field)) := none
  /-- The parameters of the rules. -/
  rules : RuleTable := RuleTable.empty

/-- How the values of one field are sanitized. -/
inductive FieldSchema
  /-- One schema. -/
  | single (schema : SchemaOver FieldSchema)
  /-- Alternatives to be tried in order. -/
  | union (schemas : List (SchemaOver FieldSchema))

/-- One schema of a field. -/
abbrev Schema := SchemaOver FieldSchema

/-- Named field schemas in order; a name may occur more than once. -/
abbrev Properties := List (String × FieldSchema)

namespace Schema

/-- The declared type names; none for an untyped schema. -/
def typeNames (schema : Schema) : List String :=
  match schema.type with
  | some type => type.names
  | none => []

/-- The keys of the schema language that are no rules. -/
def reservedKeys : List String := ["type", "default", "items", "properties"]

/-- Whether a key is one of the schema language. -/
def isReserved (key : String) : Bool :=
  reservedKeys.contains key

end Schema

/-- The alternatives of a field in order. -/
def FieldSchema.alternatives : FieldSchema → List Schema
  | .single schema => [schema]
  | .union schemas => schemas

/-- Whether two defaults agree. -/
def sameDefaults : Option Value → Option Value → Bool
  | none, none => true
  | some a, some b => a.same b
  | _, _ => false

/-- Whether two lists of rule parameters agree. -/
def sameRules : List (String × Value) → List (String × Value) → Bool
  | [], [] => true
  | (m, a) :: as, (n, b) :: bs => m == n && a.same b && sameRules as bs
  | _, _ => false

mutual

/-- Whether two field schemas agree; their values are compared up to the order of entries. -/
def FieldSchema.same : FieldSchema → FieldSchema → Bool
  | .single a, .single b => sameSchema a b
  | .union as, .union bs => sameSchemas as bs
  | _, _ => false
termination_by structural a => a

/-- Whether two schemas agree. -/
def sameSchema : SchemaOver FieldSchema → SchemaOver FieldSchema → Bool
  | ⟨type, default, items, properties, rules⟩, b =>
    type == b.type && sameDefaults default b.default && sameItems items b.items
      && sameProperties properties b.properties && sameRules rules.entries b.rules.entries
termination_by structural a => a

/-- Whether two lists of schemas agree. -/
def sameSchemas : List (SchemaOver FieldSchema) → List (SchemaOver FieldSchema) → Bool
  | [], [] => true
  | a :: as, b :: bs => sameSchema a b && sameSchemas as bs
  | _, _ => false
termination_by structural a => a

/-- Whether two element schemas agree. -/
def sameItems : Option FieldSchema → Option FieldSchema → Bool
  | none, none => true
  | some a, some b => a.same b
  | _, _ => false
termination_by structural a => a

/-- Whether two collections of nested fields agree. -/
def sameProperties :
    Option (List (String × FieldSchema)) → Option (List (String × FieldSchema)) → Bool
  | none, none => true
  | some as, some bs => sameFields as bs
  | _, _ => false
termination_by structural a => a

/-- Whether two lists of named schemas agree, in order. -/
def sameFields : List (String × FieldSchema) → List (String × FieldSchema) → Bool
  | [], [] => true
  | (m, a) :: as, (n, b) :: bs => m == n && a.same b && sameFields as bs
  | _, _ => false
termination_by structural a => a

end

end Intake
