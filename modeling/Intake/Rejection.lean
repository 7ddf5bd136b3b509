import Intake.Value.Basic

/-!
# Rejections

Why a value could not be sanitized. A rejection names kinds of values, types and rules, and never
holds any part of the value itself.
-/

set_option autoImplicit false

namespace Intake

/-- Why a value could not be sanitized. -/
inductive Rejection
  /-- A value of this kind is no value of the type and cannot be turned into one. -/
  | coercion (expected : String) (found : Kind)
  /-- An array or a record was needed and a value of another kind was found. -/
  | shape (expected : String) (found : Kind)
  /-- A rule refused the value. -/
  | rule (name reason : String)
  /-- None of several alternatives took the value. -/
  | unionExhausted (tried : Nat)
  /-- The element at a position of an array was refused. -/
  | item (index : Nat) (cause : Rejection)
deriving DecidableEq

/-- The wording of a rejection. -/
def Rejection.message : Rejection → String
  | .coercion expected found => "cannot coerce " ++ found.name ++ " to " ++ expected
  | .shape expected found => "expected " ++ expected ++ ", found " ++ found.name
  | .rule name reason => "rule '" ++ name ++ "' rejected the value: " ++ reason
  | .unionExhausted tried => "none of " ++ Text.numeral tried ++ " union alternatives matched"
  | .item index cause => "array item " ++ Text.numeral index ++ ": " ++ cause.message

/-- A schema or a registry that cannot be used. -/
inductive SchemaError
  /-- A key of the schema language was given as the name of a rule. -/
  | reservedRuleName (name : String)
  /-- The parameter of a rule is unusable. -/
  | invalidRule (rule reason : String)
deriving DecidableEq

/-- The wording of a schema error. -/
def SchemaError.message : SchemaError → String
  | .reservedRuleName name =>
    "'" ++ name ++ "' is a reserved schema key and cannot be registered as a rule"
  | .invalidRule rule reason => "invalid value for rule '" ++ rule ++ "': " ++ reason

end Intake
