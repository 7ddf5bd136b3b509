/-!
# Registries

Entries by name, such as coercions by the name of their type. A later entry of a name replaces an
earlier one.
-/

set_option autoImplicit false

namespace Intake

/-- Entries by name. -/
structure Registry (α : Type) where
  /-- The names with their entries; the first entry of a name counts. -/
  entries : List (String × α) := []

namespace Registry

variable {α : Type}

/-- The entry of a name. -/
def get? (registry : Registry α) (name : String) : Option α :=
  registry.entries.lookup name

/-- Whether the name has an entry. -/
def contains (registry : Registry α) (name : String) : Bool :=
  (registry.get? name).isSome

/-- Sets the entry of a name. -/
def insert (registry : Registry α) (name : String) (entry : α) : Registry α :=
  ⟨(name, entry) :: registry.entries⟩

/-- The names that have an entry, sorted. -/
def names (registry : Registry α) : List String :=
  ((registry.entries.map Prod.fst).eraseDups).mergeSort fun a b => a ≤ b

/-- The entry just set is found under its name. -/
@[simp] theorem get?_insert_self (registry : Registry α) (name : String) (entry : α) :
    (registry.insert name entry).get? name = some entry := by
  simp [get?, insert]

/-- Setting an entry changes no other name. -/
theorem get?_insert_of_ne (registry : Registry α) {name other : String} (entry : α)
    (h : other ≠ name) : (registry.insert name entry).get? other = registry.get? other := by
  have : (other == name) = false := by simpa using h
  rw [get?, insert, List.lookup_cons, this, get?]

end Registry

end Intake
