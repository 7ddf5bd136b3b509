import Intake.Value.Equality
import Std.Data.HashSet

/-!
# Repeated elements

Whether a list holds two equivalent values. Scalars are looked up by their keys; only arrays and
records are compared with one another, one by one.
-/

set_option autoImplicit false

namespace Intake

/-- Whether a list repeats one of the scalars or composites seen before it, or an element of its
own. -/
def hasRepeatsAfter (seen : Std.HashSet ScalarKey) (composites : List Value) : List Value → Bool
  | [] => false
  | element :: rest =>
    match element.scalarKey? with
    | some key => seen.contains key || hasRepeatsAfter (seen.insert key) composites rest
    | none =>
      composites.any (fun other => other.equivalent element)
        || hasRepeatsAfter seen (element :: composites) rest

/-- Whether a list holds two equivalent values. -/
def hasRepeats (elements : List Value) : Bool :=
  hasRepeatsAfter {} [] elements

end Intake
