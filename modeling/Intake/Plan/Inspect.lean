import Intake.Plan.Basic
import Intake.Value.Inspect

/-!
# Inspecting plans and registries

Texts that show the types and the default of each field of a plan, and the names in a registry.
-/

set_option autoImplicit false

namespace Intake.Inspect

/-- A field plan: the type names of its alternatives and its default. -/
def fieldPlan (plan : FieldPlan) : String :=
  "FieldSanitizer \x7b types: ["
    ++ row (plan.alternatives.map fun alternative => optional (alternative.typeName.map quoted))
    ++ "], default: " ++ optional (plan.default.map value) ++ " \x7d"

/-- The plans of the fields of a record, by name. -/
def formPlan (form : FormPlan) : String :=
  "\x7b" ++ row (form.map fun (name, plan) => quoted name ++ ": " ++ fieldPlan plan) ++ "\x7d"

/-- The plan of a record. -/
def recordPlan (form : FormPlan) : String :=
  "RecordSanitizer \x7b fields: " ++ formPlan form ++ " \x7d"

/-- A registry of types: its names. -/
def typeRegistry (registry : TypeRegistry) : String :=
  "TypeRegistry \x7b types: [" ++ row (registry.names.map quoted) ++ "] \x7d"

/-- A registry of rules: its names. -/
def ruleRegistry (registry : RuleRegistry) : String :=
  "RuleRegistry \x7b rules: [" ++ row (registry.names.map quoted) ++ "] \x7d"

end Intake.Inspect
