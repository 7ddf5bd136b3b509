import Intake.Proofs.Filters
import Intake.Proofs.Quantities

/-!
# What the built-in coercions give

Each built-in coercion gives values of its type and never null, and a value that a coercion has given
is left alone by the same coercion (`TypeRegistry.coerced`). The type `integer` holds the numbers that
denote whole quantities, in either representation.
-/

set_option autoImplicit false

namespace Intake

/-! ## Types of values -/

/-- A number that denotes a whole quantity, whatever its representation. -/
def Number.DenotesWhole (n : Number) : Prop :=
  ∃ z : Int, n.units = z * Double.unitsPerOne

/-- The values of a built-in type. A name that is none of a built-in type says nothing. -/
def Value.HasType (value : Value) (typeName : String) : Prop :=
  match typeName with
  | "string" => value.kind = .string
  | "number" => value.kind = .number
  | "integer" => ∃ n, value = .number n ∧ n.DenotesWhole
  | "boolean" => value.kind = .boolean
  | "date" => value.kind = .date
  | "dateTime" => value.kind = .date
  | "array" => value.kind = .array
  | "object" => value.kind = .object
  | _ => True

/-- A name that is not registered says nothing about values. -/
theorem Value.hasType_of_unknown {value : Value} {typeName : String}
    (unknown : TypeRegistry.builtin.get? typeName = none) : value.HasType typeName := by
  unfold Value.HasType
  split
  -- The names of the built-in types are registered.
  all_goals try contradiction
  trivial

/-! ## Whole numbers -/

/-- The preferred representation of a whole number is its own preferred representation. -/
theorem Number.integral?_idempotent {n m : Number} (h : n.integral? = some m) :
    m.integral? = some m := by
  cases n with
  | integer z fits =>
    cases h
    rfl
  | float d =>
    simp only [integral?, ofInt?] at h
    split at h
    · rename_i whole
      by_cases fits : -0x8000000000000000 ≤ d.truncate ∧ d.truncate < 0x10000000000000000
      · rw [dif_pos fits] at h
        cases h
        rfl
      · rw [dif_neg fits] at h
        cases h
        simp [integral?, whole, ofInt?, fits]
    · cases h

/-- A number in its preferred representation as a whole number denotes a whole quantity. -/
theorem Number.denotesWhole_of_integral? {n : Number} (h : n.integral? = some n) :
    n.DenotesWhole := by
  cases n with
  | integer z fits => exact ⟨z, rfl⟩
  | float d =>
    have whole : d.isWhole = true := by
      by_contra fraction
      simp [integral?, fraction] at h
    exact ⟨d.truncate, Double.units_of_isWhole whole⟩

/-! ## Each coercion -/

namespace Coercion

variable {value result : Value}

/-- What is not rejected was there. -/
theorem orReject_ok {expected : String} {found : Value} {option : Option Value}
    (h : orReject expected found option = .ok result) : option = some result := by
  cases option with
  | none => cases h
  | some value => exact congrArg some (Except.ok.inj h)

/-- The coercion to strings gives strings. -/
theorem string_ok (h : string value = .ok result) : ∃ s, result = .string s := by
  cases value with
  | string s => exact ⟨s, (Except.ok.inj h).symm⟩
  | _ => exact ⟨_, (Except.ok.inj h).symm⟩

/-- The coercion to numbers gives numbers. -/
theorem number_ok (h : number value = .ok result) : ∃ n, result = .number n := by
  obtain ⟨n, -, rfl⟩ := Option.map_eq_some_iff.mp (orReject_ok h)
  exact ⟨n, rfl⟩

/-- The coercion to integers gives whole numbers in their preferred representation. -/
theorem integer_ok (h : integer value = .ok result) :
    ∃ n, result = .number n ∧ n.integral? = some n := by
  obtain ⟨n, read, rfl⟩ := Option.map_eq_some_iff.mp (orReject_ok h)
  obtain ⟨m, -, integral⟩ := Option.bind_eq_some_iff.mp read
  exact ⟨n, rfl, Number.integral?_idempotent integral⟩

/-- The coercion to truth values gives truth values. -/
theorem boolean_ok (h : boolean value = .ok result) : ∃ b, result = .bool b :=
  ⟨_, (Except.ok.inj h).symm⟩

/-- The coercion to points in time gives points in time. -/
theorem date_ok (h : date value = .ok result) : ∃ t, result = .date t := by
  obtain ⟨t, -, rfl⟩ := Option.map_eq_some_iff.mp (orReject_ok h)
  exact ⟨t, rfl⟩

/-- The coercion to arrays gives arrays. -/
theorem array_ok (h : array value = .ok result) : ∃ elements, result = .array elements := by
  unfold array at h
  split at h
  · exact ⟨_, (Except.ok.inj h).symm⟩
  · cases h

/-- The coercion to records gives records. -/
theorem object_ok (h : object value = .ok result) : ∃ entries, result = .object entries := by
  unfold object at h
  split at h
  · exact ⟨_, (Except.ok.inj h).symm⟩
  · cases h

/-- Arrays are arrays already. -/
theorem array_array (elements : List Value) : array (.array elements) = .ok (.array elements) := rfl

/-- Records are records already. -/
theorem object_object (entries : Record) : object (.object entries) = .ok (.object entries) := rfl

end Coercion

/-! ## The built-in registry -/

namespace TypeRegistry

variable {typeName : String} {coercion : Coercion} {value result : Value}

/-- **What coercions give** is of their type, is not null, and is left alone by the same coercion. -/
theorem coerced (registered : TypeRegistry.builtin.get? typeName = some coercion)
    (h : coercion value = .ok result) :
    result.HasType typeName ∧ result ≠ .null ∧ coercion result = .ok result := by
  have entry := Registry.mem_of_get? registered
  simp only [builtin, List.mem_cons, Prod.mk.injEq, List.not_mem_nil, or_false] at entry
  rcases entry with ⟨rfl, rfl⟩ | ⟨rfl, rfl⟩ | ⟨rfl, rfl⟩ | ⟨rfl, rfl⟩ | ⟨rfl, rfl⟩ | ⟨rfl, rfl⟩ |
    ⟨rfl, rfl⟩ | ⟨rfl, rfl⟩
  · obtain ⟨s, rfl⟩ := Coercion.string_ok h
    exact ⟨rfl, nofun, rfl⟩
  · obtain ⟨n, rfl⟩ := Coercion.number_ok h
    exact ⟨rfl, nofun, rfl⟩
  · obtain ⟨n, rfl, integral⟩ := Coercion.integer_ok h
    refine ⟨⟨n, rfl, Number.denotesWhole_of_integral? integral⟩, nofun, ?_⟩
    simp [Coercion.integer, Coercion.number?, Coercion.orReject, integral]
  · obtain ⟨b, rfl⟩ := Coercion.boolean_ok h
    refine ⟨rfl, nofun, ?_⟩
    cases b <;> rfl
  · obtain ⟨t, rfl⟩ := Coercion.date_ok h
    exact ⟨rfl, nofun, rfl⟩
  · obtain ⟨t, rfl⟩ := Coercion.date_ok h
    exact ⟨rfl, nofun, rfl⟩
  · obtain ⟨elements, rfl⟩ := Coercion.array_ok h
    exact ⟨rfl, nofun, rfl⟩
  · obtain ⟨entries, rfl⟩ := Coercion.object_ok h
    exact ⟨rfl, nofun, rfl⟩

end TypeRegistry

end Intake
