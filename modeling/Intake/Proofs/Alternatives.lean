import Intake.Proofs.Outputs

/-!
# What one alternative gives

With the built-in types and rules an attempt at an alternative that succeeds has three steps: the
coercion gives a value of its type, the rules accept that value as it is, and then the parts of the
value are sanitized (`Sanitizes`). The coercion leaves alone what the attempt gives in the end
(`Yields.coerce_result`), and nothing but null becomes null (`resolve_ne_null`).
-/

set_option autoImplicit false

namespace Intake

open Compiler (builtin)

/-- The array that a value becomes where elements are sanitized one by one: its elements, if it is an
array or the text of one, and else the value alone. -/
def Value.normalized (value : Value) : List Value :=
  match Coercion.unpacked value with
  | .array elements => elements
  | _ => [value]

/-- What sanitizing the parts makes of a coerced value: elements are attempted one by one, an element
that is found missing becoming null, and a record is sanitized field by field. -/
inductive Sanitizes (key : String) (record : Record) : Shape FieldPlan → Value → Value → Prop
  /-- A value without parts stays as it is. -/
  | scalar (value : Value) : Sanitizes key record .scalar value value
  /-- The elements of an array. -/
  | items {plan : FieldPlan} {elements results : List Value}
      (each : List.Forall₂ (fun element result => ∃ sanitized,
        (plan.attempt (some element) key record).value = .ok sanitized ∧
          sanitized.getD .null = result) elements results) :
      Sanitizes key record (.items plan) (.array elements) (.array results)
  /-- The fields of a record. -/
  | record {fields : FormPlan} (entries : Record) :
      Sanitizes key record (.record fields) (.object entries)
        (.object (fields.sanitize entries).value)

namespace Compiler

variable {schema : Schema} {typeName : Option String} {alternative : Alternative}
  {value coerced result : Value} {key : String} {record : Record}

/-! ## Coercions -/

/-- The alternative for arrays of elements coerces to arrays. -/
theorem Yields.coercion_items [Engines] {element : FieldPlan}
    (yields : Yields builtin schema typeName alternative) (shape : alternative.shape = .items element) :
    alternative.coercion = some Coercion.array := by
  have shapes := yields.shape
  rw [yields.coercion, shape] at *
  cases shapes with
  | items type items compiled =>
    rw [type]
    rfl

/-- The alternative for records with nested fields coerces to records. -/
theorem Yields.coercion_record [Engines] {fields : FormPlan}
    (yields : Yields builtin schema typeName alternative) (shape : alternative.shape = .record fields) :
    alternative.coercion = some Coercion.object := by
  rw [yields.coercion, shape]
  rfl

/-- An alternative without parts has the coercion of its type name, if that is built in. -/
theorem Yields.coercion_scalar [Engines] (yields : Yields builtin schema typeName alternative)
    (shape : alternative.shape = .scalar) :
    alternative.coercion = typeName.bind TypeRegistry.builtin.get? := by
  rw [yields.coercion, shape]
  cases typeName with
  | none => rfl
  | some name =>
    have registry : builtin.types.get? name = TypeRegistry.builtin.get? name := rfl
    cases registered : TypeRegistry.builtin.get? name with
    | none => simp [coercionFor, registry, registered]
    | some coercion => simp [coercionFor, registry, registered]

/-- Where elements are sanitized one by one, no value is refused for its kind. -/
theorem Yields.coerce_normalized [Engines] {element : FieldPlan}
    (yields : Yields builtin schema typeName alternative) (shape : alternative.shape = .items element) :
    alternative.coerce value = .ok (.array value.normalized) := by
  simp only [Alternative.coerce, yields.coercion_items shape, shape, Coercion.array, Value.normalized]
  cases Coercion.unpacked value <;> rfl

/-- Where elements are to be sanitized, a coerced value is an array. -/
theorem Yields.coerce_items [Engines] {element : FieldPlan}
    (yields : Yields builtin schema typeName alternative) (shape : alternative.shape = .items element)
    (h : alternative.coerce value = .ok coerced) : ∃ elements, coerced = .array elements := by
  rw [yields.coerce_normalized shape] at h
  exact ⟨value.normalized, (Except.ok.inj h).symm⟩

/-- Where nested fields are to be sanitized, a coerced value is a record. -/
theorem Yields.coerce_record [Engines] {fields : FormPlan}
    (yields : Yields builtin schema typeName alternative) (shape : alternative.shape = .record fields)
    (h : alternative.coerce value = .ok coerced) : ∃ entries, coerced = .object entries := by
  simp only [Alternative.coerce, yields.coercion_record shape, shape] at h
  exact Coercion.object_ok h

/-- A value without parts is coerced by the coercion of a built-in type, or not at all. -/
theorem Yields.coerce_scalar [Engines] (yields : Yields builtin schema typeName alternative)
    (shape : alternative.shape = .scalar) (h : alternative.coerce value = .ok coerced) :
    (typeName.bind TypeRegistry.builtin.get? = none ∧ coerced = value) ∨
      ∃ name coercion, typeName = some name ∧ TypeRegistry.builtin.get? name = some coercion ∧
        coercion value = .ok coerced := by
  simp only [Alternative.coerce, yields.coercion_scalar shape, shape] at h
  cases typeName with
  | none => exact Or.inl ⟨rfl, (Except.ok.inj h).symm⟩
  | some name =>
    simp only [Option.bind_some] at h ⊢
    cases registered : TypeRegistry.builtin.get? name with
    | none =>
      rw [registered] at h
      exact Or.inl ⟨rfl, (Except.ok.inj h).symm⟩
    | some coercion =>
      rw [registered] at h
      exact Or.inr ⟨name, coercion, rfl, registered, h⟩

/-! ## Attempts -/

/-- **What a successful attempt at an alternative has done**: the coercion gave a value, all rules
accepted it, and the result is what sanitizing its parts makes of it. -/
theorem Yields.attempt_ok [Engines] (yields : Yields builtin schema typeName alternative)
    (h : (attemptAlternative alternative value key record).value = .ok result) :
    ∃ coerced, alternative.coerce value = .ok coerced ∧
      (∀ rule ∈ alternative.rules, rule coerced key record = .ok coerced) ∧
      Sanitizes key record alternative.shape coerced result := by
  obtain ⟨coerced, coerce_ok, accepted, parts⟩ := attemptAlternative_ok yields.isFilter h
  refine ⟨coerced, coerce_ok, accepted, ?_⟩
  rw [parts] at h
  cases shape : alternative.shape with
  | scalar =>
    rw [shape] at h
    cases h
    exact .scalar _
  | items plan =>
    obtain ⟨elements, rfl⟩ := yields.coerce_items shape coerce_ok
    rw [shape, attemptShape] at h
    obtain ⟨results, each, rfl⟩ := map_eq_ok h
    exact .items (attemptEach_ok each)
  | record fields =>
    obtain ⟨entries, rfl⟩ := yields.coerce_record shape coerce_ok
    rw [shape, attemptShape] at h
    cases h
    exact .record entries

/-- The coercion leaves alone what the attempt has made of a coerced value. -/
theorem Yields.coerce_result [Engines] (yields : Yields builtin schema typeName alternative)
    (coerce_ok : alternative.coerce value = .ok coerced)
    (parts : Sanitizes key record alternative.shape coerced result) :
    alternative.coerce result = .ok result := by
  generalize shape : alternative.shape = parting at parts
  cases parts with
  | scalar =>
    have coercion := yields.coercion_scalar shape
    rcases yields.coerce_scalar shape coerce_ok with ⟨none, rfl⟩ | ⟨name, f, rfl, registered, first⟩
    · simp [Alternative.coerce, coercion, none]
    · have again := (TypeRegistry.coerced registered first).2.2
      simp [Alternative.coerce, coercion, registered, shape, again]
  | items each =>
    simp [Alternative.coerce, yields.coercion_items shape, shape, Coercion.array_array]
  | record entries =>
    simp [Alternative.coerce, yields.coercion_record shape, shape, Coercion.object_object]

/-- An alternative gives null for null only. -/
theorem Yields.ne_null [Engines] (yields : Yields builtin schema typeName alternative)
    (nonnull : value ≠ .null)
    (h : (attemptAlternative alternative value key record).value = .ok result) :
    result ≠ .null := by
  obtain ⟨coerced, coerce_ok, -, parts⟩ := yields.attempt_ok h
  generalize shape : alternative.shape = parting at parts
  cases parts with
  | scalar =>
    rcases yields.coerce_scalar shape coerce_ok with ⟨-, rfl⟩ | ⟨name, f, -, registered, first⟩
    · exact nonnull
    · exact (TypeRegistry.coerced registered first).2.1
  | items each => exact nofun
  | record entries => exact nofun

/-- **A compiled field makes null of null only.** -/
theorem resolve_ne_null [Engines] {field : FieldSchema} {plan : FieldPlan}
    (compiled : (builtin.compileField field).value = .ok plan) (nonnull : value ≠ .null)
    (h : plan.resolve value key record = .ok result) : result ≠ .null := by
  obtain ⟨alternative, member, succeeds⟩ := FieldPlan.exists_alternative h
  obtain ⟨choice, -, yields⟩ := exists_choice compiled member
  exact yields.ne_null nonnull succeeds

end Compiler

end Intake
