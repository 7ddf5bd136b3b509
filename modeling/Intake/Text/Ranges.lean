/-!
# Ranges of characters

Classes of characters are tables of ranges of code points in rising order.
-/

set_option autoImplicit false

namespace Intake.Text

/-- Whether a code point lies in one of the ranges, which must be in rising order. -/
def inRanges : List (Nat × Nat) → Nat → Bool
  | [], _ => false
  | (low, high) :: rest, n => if n < low then false else n ≤ high || inRanges rest n

/-- Whether a code point lies in one of the ranges of several tables. -/
def inTables (tables : List (List (Nat × Nat))) (n : Nat) : Bool :=
  tables.any fun ranges => inRanges ranges n

end Intake.Text
