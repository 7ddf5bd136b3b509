import Intake.Proofs.SchemaReading
import Intake.Proofs.DeadParts

/-!
# Annotations

A schema may hold parameters under keys that stand for no rule: titles, descriptions and examples, and
keys of the schema language that were stored as rules. They are annotations. Compiling passes over them,
and where the factories do not look at the schema around a parameter, nothing else can see them either: to
drop them is an unseen change. Without its annotations a field fails with the same error, or it compiles to
the very same plan, and so all values are attempted and sanitized as before (`annotations_inert`).
-/

set_option autoImplicit false

namespace Intake

namespace Compiler

variable {compiler : Compiler}

/-- A schema without its annotations, which are the parameters of keys that stand for no rule. -/
def dropAnnotations (compiler : Compiler) (schema : Schema) : Schema :=
  { schema with rules := schema.rules.filter compiler.isRule }

/-- All parameters of a schema belong to rules. -/
def IsBare (compiler : Compiler) (schema : Schema) : Prop :=
  ∀ entry ∈ schema.rules.entries, compiler.isRule entry.1 = true

/-! ## What is left without annotations -/

/-- Without annotations a schema is bare. -/
theorem isBare_dropAnnotations (schema : Schema) : compiler.IsBare (compiler.dropAnnotations schema) :=
  fun _ member => (List.mem_filter.mp member).2

mutual

/-- Without annotations all schemas of a field are bare: by recursion on the schema. -/
theorem every_bareField : (field : FieldSchema) →
    (field.mapSchemas compiler.dropAnnotations).Every compiler.IsBare
  | .single schema => by
    rw [FieldSchema.every_iff]
    intro bare member
    obtain rfl : bare = mapSchema compiler.dropAnnotations schema := List.mem_singleton.mp member
    exact every_bareSchema schema
  | .union schemas => FieldSchema.every_iff.mpr (every_bareAlternatives schemas)

/-- Without annotations a schema is bare at every depth. -/
theorem every_bareSchema : (schema : SchemaOver FieldSchema) →
    Schema.Every compiler.IsBare (mapSchema compiler.dropAnnotations schema)
  | ⟨_, _, items, properties, _⟩ =>
    ⟨isBare_dropAnnotations _, every_bareItems items, every_bareProperties properties⟩

/-- Without annotations all alternatives are bare. -/
theorem every_bareAlternatives : (schemas : List (SchemaOver FieldSchema)) →
    ∀ bare ∈ mapAlternatives compiler.dropAnnotations schemas, Schema.Every compiler.IsBare bare
  | [] => nofun
  | schema :: rest => List.forall_mem_cons.mpr ⟨every_bareSchema schema, every_bareAlternatives rest⟩

/-- Without annotations an element schema is bare. -/
theorem every_bareItems : (items : Option FieldSchema) →
    ∀ element, mapItems compiler.dropAnnotations items = some element → element.Every compiler.IsBare
  | none => nofun
  | some field => by
    rintro _ ⟨⟩
    exact every_bareField field

/-- Without annotations all nested fields are bare. -/
theorem every_bareProperties : (properties : Option (List (String × FieldSchema))) →
    ∀ fields : Properties, mapProperties compiler.dropAnnotations properties = some fields →
      fields.Every compiler.IsBare
  | none => nofun
  | some fields => by
    rintro _ ⟨⟩
    exact every_bareFields fields

/-- No annotation is left at any depth. -/
theorem every_bareFields : (fields : List (String × FieldSchema)) →
    Properties.Every compiler.IsBare (mapFields compiler.dropAnnotations fields)
  | [] => nofun
  | (_, field) :: rest => List.forall_mem_cons.mpr ⟨every_bareField field, every_bareFields rest⟩

end

/-! ## Compiling without annotations -/

/-- Compiling does not see that annotations are dropped. -/
theorem unseen_dropAnnotations : compiler.Unseen compiler.dropAnnotations where
  type _ := rfl
  default _ := rfl
  properties _ := rfl
  rules _ := liveRules_filter _
  items _ _ := rfl

end Compiler

open Compiler (builtin)

/-- **Annotations are inert.** Without the parameters of all keys that stand for no rule, at every depth,
the fields of a record fail with the same error, or they compile to plans that attempt and sanitize
everything alike. -/
theorem annotations_inert [Engines] (fields : Properties) :
    let bare := mapFields builtin.dropAnnotations fields
    Properties.Every builtin.IsBare bare ∧
      (builtin.compile bare).value = (builtin.compile fields).value ∧
      ∀ form form', (builtin.compile fields).value = .ok form → (builtin.compile bare).value = .ok form' →
        (∀ input : Option Record, form'.sanitizeOptional input = form.sanitizeOptional input) ∧
          List.Forall₂ (fun planned planned' => planned'.1 = planned.1 ∧
            ∀ (input : Option Value) (key : String) (record : Record),
              planned'.2.attempt input key record = planned.2.attempt input key record) form form' := by
  intro bare
  have same : (builtin.compile bare).value = (builtin.compile fields).value :=
    Compiler.compile_map Compiler.isBlind_builtin Compiler.unseen_dropAnnotations fields
  refine ⟨Compiler.every_bareFields fields, same, ?_⟩
  intro form form' compiled compiled'
  obtain rfl : form' = form := by
    rw [same, compiled] at compiled'
    exact (Except.ok.inj compiled').symm
  exact ⟨fun _ => rfl, List.forall₂_same.mpr fun _ _ => ⟨rfl, fun _ _ _ => rfl⟩⟩

/-- At most two short tags, with a title and a description, and with a parameter that is stored under a
key of the schema language. -/
def tagsFields : Properties :=
  [("tags", .single
    { type := some (.one "array")
      items := some (.single
        { type := some (.one "string")
          rules := RuleTable.ofList
            [("description", .string "one word"), ("maxLength", Value.ofInt 8)] })
      rules := RuleTable.ofList
        [("default", .string "none"), ("maxItems", Value.ofInt 2),
          ("title", .null)] })]

/-- The plan of at most two short tags. -/
def tagsPlan : FieldPlan :=
  .mk [⟨some "array", some Coercion.array, [Rule.ofConstraint "maxItems" (.count .atMost 2)],
    .items (.mk [⟨some "string", some Coercion.string,
      [Rule.ofConstraint "maxLength" (.length .atMost 8)], .scalar⟩] none)⟩] none

/-- Tags are sanitized in the same way without what is written around their rules. -/
theorem tags_bare :
    let bare := mapFields builtin.dropAnnotations tagsFields
    let input : Record := [("tags", .array [.string "red", Value.ofInt 4])]
    (builtin.compile tagsFields).value = .ok [("tags", tagsPlan)] ∧
      (builtin.compile bare).value = .ok [("tags", tagsPlan)] ∧
      (FormPlan.sanitize [("tags", tagsPlan)] input).value
        = [("tags", .array [.string "red", .string "4"])] := by
  intro bare input
  obtain ⟨-, same, -⟩ := annotations_inert tagsFields
  have compiled : (builtin.compile tagsFields).value = .ok [("tags", tagsPlan)] := rfl
  exact ⟨compiled, same.trans compiled, by cbv⟩

end Intake
