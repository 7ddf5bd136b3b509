import Intake.Rule.Constraint

/-!
# Keywords

The names of the built-in rules, and the constraint that each makes of its parameter.
-/

set_option autoImplicit false

namespace Intake

/-- The name of a built-in rule. -/
inductive Keyword
  | minimum
  | maximum
  | exclusiveMinimum
  | exclusiveMaximum
  | multipleOf
  | minLength
  | maxLength
  | minItems
  | maxItems
  | uniqueItems
  | pattern
  | format
  | enum
  | const
deriving DecidableEq

namespace Keyword

/-- All keywords. -/
def all : List Keyword :=
  [.minimum, .maximum, .exclusiveMinimum, .exclusiveMaximum, .multipleOf, .minLength, .maxLength,
    .minItems, .maxItems, .uniqueItems, .pattern, .format, .enum, .const]

/-- The keyword as it is written in schemas. -/
def name : Keyword → String
  | .minimum => "minimum"
  | .maximum => "maximum"
  | .exclusiveMinimum => "exclusiveMinimum"
  | .exclusiveMaximum => "exclusiveMaximum"
  | .multipleOf => "multipleOf"
  | .minLength => "minLength"
  | .maxLength => "maxLength"
  | .minItems => "minItems"
  | .maxItems => "maxItems"
  | .uniqueItems => "uniqueItems"
  | .pattern => "pattern"
  | .format => "format"
  | .enum => "enum"
  | .const => "const"

/-- The complaint about a parameter of the wrong kind. -/
def wrongKind {α : Type} (expected : String) (param : Value) : Except String α :=
  .error ("expected " ++ expected ++ ", found " ++ param.kind.name)

/-- A parameter that must be a number, as a double. -/
def numberParam (param : Value) : Except String Double :=
  match param.double? with
  | some d => .ok d
  | none => wrongKind "a number" param

/-- A parameter that must be a whole number and not negative. -/
def countParam (param : Value) : Except String Nat :=
  match param with
  | .number n =>
    match n.toNat? with
    | some count => .ok count
    | none => .error "expected a non-negative integer"
  | other => wrongKind "a non-negative integer" other

/-- A parameter that must be a truth value. -/
def boolParam (param : Value) : Except String Bool :=
  match param with
  | .bool b => .ok b
  | other => wrongKind "a boolean" other

/-- A parameter that must be a string. -/
def stringParam (param : Value) : Except String String :=
  match param with
  | .string s => .ok s
  | other => wrongKind "a string" other

/-- A parameter that must be an array. -/
def arrayParam (param : Value) : Except String (List Value) :=
  match param with
  | .array elements => .ok elements
  | other => wrongKind "an array" other

/-- The constraint of a step, which must be positive. -/
def multipleOfStep (step : Double) : Except String Constraint :=
  if step.units ≤ 0 then .error "must be greater than 0" else .ok (.multiple step)

variable [Engines]

/-- The constraint of a pattern, which must be readable. -/
def matchingPattern (source : String) : Except String Constraint :=
  (Engines.search source).map (.pattern source)

/-- The constraint of a format; unknown formats accept everything. -/
def havingFormat (name : String) : Except String Constraint :=
  (Format.ofName name).map fun format? =>
    match format? with
    | some required => .format name required
    | none => .anything

/-- The constraint that a keyword makes of its parameter, or what is wrong with the parameter. -/
def constraint (keyword : Keyword) (param : Value) : Except String Constraint :=
  match keyword with
  | .minimum => (numberParam param).map (.bound .atLeast)
  | .maximum => (numberParam param).map (.bound .atMost)
  | .exclusiveMinimum => (numberParam param).map (.bound .greaterThan)
  | .exclusiveMaximum => (numberParam param).map (.bound .lessThan)
  | .multipleOf => (numberParam param).bind multipleOfStep
  | .minLength => (countParam param).map (.length .atLeast)
  | .maxLength => (countParam param).map (.length .atMost)
  | .minItems => (countParam param).map (.count .atLeast)
  | .maxItems => (countParam param).map (.count .atMost)
  | .uniqueItems => (boolParam param).map .distinct
  | .pattern => (stringParam param).bind matchingPattern
  | .format => (stringParam param).bind havingFormat
  | .enum => (arrayParam param).map .oneOf
  | .const => .ok (.equal param)

end Keyword

end Intake
