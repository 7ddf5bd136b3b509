import Intake.Number.Basic

/-!
# JSON trees

A JSON document as a tree. Objects are lists of entries in document order, and a key may occur
more than once: what a repeated key means is for the reader of the tree to say.
-/

set_option autoImplicit false

namespace Intake

/-- A JSON document. -/
inductive Json
  /-- The null literal. -/
  | null
  /-- A boolean literal. -/
  | bool (value : Bool)
  /-- A number. -/
  | number (value : Number)
  /-- A string. -/
  | string (value : String)
  /-- An array. -/
  | array (elements : List Json)
  /-- An object: its entries in document order. -/
  | object (entries : List (String × Json))

instance : Inhabited Json := ⟨.null⟩

/-- Whether the document is the null literal. -/
def Json.isNull : Json → Bool
  | .null => true
  | _ => false

end Intake
