import Intake.Registry
import Intake.Rule.Basic

/-!
# Registries of rules

The rules that schemas may name. The keys of the schema language cannot be names of rules.
-/

set_option autoImplicit false

namespace Intake

/-- Rule factories by name. -/
abbrev RuleRegistry := Registry RuleFactory

namespace RuleRegistry

/-- The built-in rules. -/
def builtin [Engines] : RuleRegistry :=
  ⟨Keyword.all.map fun keyword => (keyword.name, RuleFactory.builtin keyword)⟩

/-- No rules. -/
def empty : RuleRegistry := {}

/-- Sets the factory of a name, unless the name is a key of the schema language. -/
def register (registry : RuleRegistry) (name : String) (factory : RuleFactory) :
    Except SchemaError RuleRegistry :=
  if Schema.isReserved name then .error (.reservedRuleName name)
  else .ok (Registry.insert registry name factory)

end RuleRegistry

end Intake
