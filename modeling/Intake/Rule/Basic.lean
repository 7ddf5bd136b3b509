import Intake.Event
import Intake.Rule.Keyword
import Intake.Schema.Basic

/-!
# Rules

A rule looks at a coerced value, together with the key and the record that it stands under, and gives
a value or a rejection. Rules are made from their parameter in a schema by a factory, which may refuse
the parameter and may look at the whole schema. The built-in rules are filters: they give the value
itself or reject it.
-/

set_option autoImplicit false

namespace Intake

/-- Gives a value for a value at a key of a record, or rejects it. -/
abbrev Rule := Value → String → Record → Except Rejection Value

/-- Makes a rule of a parameter, the name of the rule and the schema that they stand in. -/
abbrev RuleFactory := Value → String → Schema → Reported (Except SchemaError Rule)

namespace Rule

/-- The rule of a constraint: it lets through the values that meet it. -/
def ofConstraint (name : String) (constraint : Constraint) : Rule :=
  fun value _ _ =>
    if constraint.accepts value then .ok value else .error (.rule name constraint.reason)

end Rule

namespace RuleFactory

variable [Engines]

/-- What making a built-in rule reports: a format that is unknown. -/
def warnings (keyword : Keyword) (param : Value) : List Event :=
  match keyword, param with
  | .format, .string name =>
    match Format.ofName name with
    | .ok none => [.unknownFormat name]
    | _ => []
  | _, _ => []

/-- The factory of a built-in rule, which may be registered under any name. -/
def builtin (keyword : Keyword) : RuleFactory := fun param name _ =>
  { value :=
      match keyword.constraint param with
      | .ok constraint => .ok (Rule.ofConstraint name constraint)
      | .error reason => .error (.invalidRule name reason)
    events := warnings keyword param }

end RuleFactory

end Intake
