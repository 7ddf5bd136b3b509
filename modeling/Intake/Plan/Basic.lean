import Intake.Rule.Registry
import Intake.Types.Registry

/-!
# Plans

A plan is what a schema compiles to: for each alternative of a field its coercion, its rules, and what
happens to the parts of the value. Plans hold all that sanitizing needs; registries are not looked at
again.
-/

set_option autoImplicit false

namespace Intake

/-- What happens to the parts of a coerced value. -/
inductive Shape (plan : Type)
  /-- Nothing. -/
  | scalar
  /-- Each element of an array is sanitized by the plan. -/
  | items (element : plan)
  /-- The value is a record and is sanitized field by field. -/
  | record (fields : List (String × plan))

/-- One way to sanitize a value. -/
structure AlternativeOver (plan : Type) where
  /-- The type name that the alternative stands for, if it has one. -/
  typeName : Option String
  /-- The coercion that comes first, if there is one. -/
  coercion : Option Coercion
  /-- The rules, in the order in which they are applied. -/
  rules : List Rule
  /-- What happens to the parts. -/
  shape : Shape plan

/-- How the values of a field are sanitized: by the first of several alternatives that succeeds, and,
where a value is missing or null, from a default. -/
inductive FieldPlan
  /-- The plan of some alternatives and an optional default. -/
  | mk (alternatives : List (AlternativeOver FieldPlan)) (default : Option Value)

/-- One way to sanitize the values of a field. -/
abbrev Alternative := AlternativeOver FieldPlan

/-- The plans of the fields of a record, in order; a name may occur more than once. -/
abbrev FormPlan := List (String × FieldPlan)

namespace FieldPlan

/-- The alternatives in the order in which they are tried. -/
def alternatives : FieldPlan → List Alternative
  | .mk alternatives _ => alternatives

/-- The declared default. -/
def default : FieldPlan → Option Value
  | .mk _ default => default

end FieldPlan

/-- The alternative that takes every value as it is. -/
def Alternative.passthrough : Alternative :=
  { typeName := none, coercion := none, rules := [], shape := .scalar }

namespace FormPlan

/-- The declared names in order. -/
def names (form : FormPlan) : List String :=
  form.map Prod.fst

/-- The plan of a name; of several declarations the first. -/
def get? (form : FormPlan) (name : String) : Option FieldPlan :=
  form.lookup name

end FormPlan

end Intake
