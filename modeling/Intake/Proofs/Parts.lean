import Intake.Plan.Basic
import Mathlib

/-!
# The parts of schemas and plans

Schemas and plans are trees: below a field stand the schema of its elements and the fields nested in
it, for each of its alternatives. `FieldSchema.Part` and `FieldPlan.Part` are these one-step
relations, and a schema or plan stands `Within` another if such steps lead to it. Schemas are finite, so
what passes from all parts to the whole holds everywhere (`FieldSchema.induction`); later inductions over
plans go by the schemas that these were compiled from.
-/

set_option autoImplicit false

namespace Intake

/-! ## Schemas -/

/-- The field schemas that stand directly below a field schema. -/
inductive FieldSchema.Part : FieldSchema → FieldSchema → Prop
  /-- The schema of the elements of one of the alternatives. -/
  | element {field element : FieldSchema} {schema : Schema}
      (alternative : schema ∈ field.alternatives) (items : schema.items = some element) :
      Part element field
  /-- A field nested in one of the alternatives. -/
  | nested {field : FieldSchema} {schema : Schema} {fields : Properties}
      {declared : String × FieldSchema} (alternative : schema ∈ field.alternatives)
      (properties : schema.properties = some fields) (member : declared ∈ fields) :
      Part declared.2 field

/-- A schema stands within another: below it at some depth, or it is the other itself. -/
def FieldSchema.Within : FieldSchema → FieldSchema → Prop :=
  Relation.ReflTransGen FieldSchema.Part

/-- **Induction over field schemas**: what holds of a field schema whenever it holds of all its parts
holds of every field schema. -/
theorem FieldSchema.induction {motive : FieldSchema → Prop}
    (step : ∀ field, (∀ part : FieldSchema, part.Part field → motive part) → motive field)
    (field : FieldSchema) : motive field := by
  -- What is known of one schema: the motive of its element schema and of its nested fields.
  let below (schema : Schema) : Prop :=
    (∀ element, schema.items = some element → motive element) ∧
      ∀ fields : Properties, schema.properties = some fields →
        ∀ declared ∈ fields, motive declared.2
  have whole : ∀ field : FieldSchema, (∀ schema ∈ field.alternatives, below schema) →
      motive field := by
    intro field known
    apply step
    intro part h
    cases h with
    | element alternative items => exact (known _ alternative).1 _ items
    | nested alternative properties member => exact (known _ alternative).2 _ properties _ member
  apply FieldSchema.rec
    (motive_1 := motive)
    (motive_2 := below)
    (motive_3 := fun schemas => ∀ schema ∈ schemas, below schema)
    (motive_4 := fun items => ∀ element, items = some element → motive element)
    (motive_5 := fun properties => ∀ fields : Properties, properties = some fields →
      ∀ declared ∈ fields, motive declared.2)
    (motive_6 := fun fields => ∀ declared ∈ fields, motive declared.2)
    (motive_7 := fun declared => motive declared.2)
  case single =>
    intro schema ih
    exact whole _ (by simpa [FieldSchema.alternatives] using ih)
  case union =>
    intro schemas ih
    exact whole _ (by simpa [FieldSchema.alternatives] using ih)
  case mk =>
    intro type default items properties rules ihItems ihProperties
    exact ⟨ihItems, ihProperties⟩
  all_goals simp_all

/-! ## Plans -/

/-- The field plans that stand directly below a field plan. -/
inductive FieldPlan.Part : FieldPlan → FieldPlan → Prop
  /-- The plan of the elements of one of the alternatives. -/
  | element {plan element : FieldPlan} {alternative : Alternative}
      (member : alternative ∈ plan.alternatives) (shape : alternative.shape = .items element) :
      Part element plan
  /-- The plan of a field nested in one of the alternatives. -/
  | nested {plan : FieldPlan} {alternative : Alternative} {fields : FormPlan}
      {planned : String × FieldPlan} (member : alternative ∈ plan.alternatives)
      (shape : alternative.shape = .record fields) (field : planned ∈ fields) :
      Part planned.2 plan

/-- A plan stands within another: below it at some depth, or it is the other itself. -/
def FieldPlan.Within : FieldPlan → FieldPlan → Prop :=
  Relation.ReflTransGen FieldPlan.Part

/-- A plan stands within the plans of a record, at any depth. -/
def FormPlan.Holds (form : FormPlan) (plan : FieldPlan) : Prop :=
  ∃ planned ∈ form, plan.Within planned.2

end Intake
