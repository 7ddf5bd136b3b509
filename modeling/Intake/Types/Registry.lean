import Intake.Registry
import Intake.Types.Coercion

/-!
# Registries of types

The coercions that schemas may name. A registry may start from the built-in types or from none.
-/

set_option autoImplicit false

namespace Intake

/-- Coercions by the name of their type. -/
abbrev TypeRegistry := Registry Coercion

namespace TypeRegistry

/-- The built-in types. -/
def builtin : TypeRegistry :=
  ⟨[ ("string", Coercion.string)
   , ("number", Coercion.number)
   , ("integer", Coercion.integer)
   , ("boolean", Coercion.boolean)
   , ("date", Coercion.date)
   , ("dateTime", Coercion.date)
   , ("array", Coercion.array)
   , ("object", Coercion.object) ]⟩

/-- No types. -/
def empty : TypeRegistry := {}

end TypeRegistry

end Intake
