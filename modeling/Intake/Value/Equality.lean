import Intake.Value.Record

/-!
# Equality of values

There are two. Values are the `same` if they agree in every detail except the order of the entries
of records and the sign of zero. They are `equivalent` if, besides, numbers that denote the same
quantity count as equal whatever their representation.

Scalars also have a key, which is equal for two scalars exactly if they are equivalent.
-/

set_option autoImplicit false

namespace Intake

mutual

/-- Whether two values agree, up to the order of the entries of records. -/
def Value.same : Value → Value → Bool
  | .null, .null => true
  | .bool a, .bool b => a == b
  | .number a, .number b => a.same b
  | .string a, .string b => a == b
  | .date a, .date b => a == b
  | .array xs, .array ys => sameElements xs ys
  | .object xs, .object ys => xs.length == ys.length && sameEntries xs ys
  | _, _ => false

/-- Whether two lists agree element by element. -/
def sameElements : List Value → List Value → Bool
  | [], [] => true
  | x :: xs, y :: ys => x.same y && sameElements xs ys
  | _, _ => false

/-- Whether every entry of the first record agrees with the entry of its key in the second. -/
def sameEntries : List (String × Value) → Record → Bool
  | [], _ => true
  | (key, x) :: xs, ys =>
    (match Record.get? ys key with
      | some y => x.same y
      | none => false) && sameEntries xs ys

end

mutual

/-- Whether two values agree when numbers are compared by the quantity that they denote. -/
def Value.equivalent : Value → Value → Bool
  | .number a, .number b => a.key == b.key
  | .array xs, .array ys => equivalentElements xs ys
  | .object xs, .object ys => xs.length == ys.length && equivalentEntries xs ys
  | a, b => a.same b

/-- Whether two lists are equivalent element by element. -/
def equivalentElements : List Value → List Value → Bool
  | [], [] => true
  | x :: xs, y :: ys => x.equivalent y && equivalentElements xs ys
  | _, _ => false

/-- Whether every entry of the first record is equivalent to the entry of its key in the second. -/
def equivalentEntries : List (String × Value) → Record → Bool
  | [], _ => true
  | (key, x) :: xs, ys =>
    (match Record.get? ys key with
      | some y => x.equivalent y
      | none => false) && equivalentEntries xs ys

end

/-- The identity of a scalar under equivalence. -/
inductive ScalarKey
  | null
  | bool (value : Bool)
  | number (key : QuantityKey)
  | string (value : String)
  | date (value : Instant)
deriving DecidableEq, Hashable

/-- The key of a scalar; arrays and records have none. -/
def Value.scalarKey? : Value → Option ScalarKey
  | .null => some .null
  | .bool b => some (.bool b)
  | .number n => some (.number n.key)
  | .string s => some (.string s)
  | .date t => some (.date t)
  | .array _ => none
  | .object _ => none

end Intake
