import Intake.Proofs.Alternatives

/-!
# Why values are refused

With the built-in types and rules, what a rejection says can be read off the schema: which type was
wanted, which rule refused and in what words, how many alternatives were tried.
`FieldSchema.Refuses` and `Schema.Refuses` list these rejections. The value decides only which of them it
is, what kind of value was found and at which place of an array, so nothing else of the value is in a
rejection. That a compiled field refuses values in no other way (`Compiler.refusesLike`) is by induction on
the schema, since the rejection of an element holds that of the element schema.
-/

set_option autoImplicit false

namespace Intake

open Compiler (builtin)

/-! ## The rejections of a schema -/

/-- The rejections of the built-in coercions, which name a type and the kind of a value. -/
inductive Coercion.Rejects : Rejection → Prop
  | coercion {expected : String} (fixed : expected ∈ ["number", "integer", "date"]) (found : Kind) :
      Rejects (.coercion expected found)
  | shape {expected : String} (fixed : expected ∈ ["array", "object"]) (found : Kind) :
      Rejects (.shape expected found)

/-- The words in which the rule of a keyword refuses values, if the parameter makes a rule. -/
def Keyword.reason? [Engines] (keyword : Keyword) (param : Value) : Option String :=
  match keyword.constraint param with
  | .ok constraint => some constraint.reason
  | .error _ => none

/-- The default of a field: the first that its schemas declare. -/
def FieldSchema.default? (field : FieldSchema) : Option Value :=
  field.alternatives.findSome? fun schema => schema.default

mutual

/-- The rejections with which a field may refuse a value. -/
inductive FieldSchema.Refuses [Engines] : FieldSchema → Value → Rejection → Prop
  /-- A field with only one choice refuses as that does. -/
  | only {field : FieldSchema} {choice : Schema × Option String} {value : Value} {cause : Rejection}
      (single : field.choices = [choice]) (refuses : Schema.Refuses choice.1 choice.2 value cause) :
      FieldSchema.Refuses field value cause
  /-- A field with several choices says how many they are. -/
  | exhausted {field : FieldSchema} {value : Value} (several : 1 < field.choices.length) :
      FieldSchema.Refuses field value (.unionExhausted field.choices.length)

/-- The rejections with which a schema may refuse a value for one of its type names. -/
inductive Schema.Refuses [Engines] : Schema → Option String → Value → Rejection → Prop
  /-- The value cannot be coerced. -/
  | coerced {schema : Schema} {typeName : Option String} {value : Value} {cause : Rejection}
      (rejects : Coercion.Rejects cause) : Schema.Refuses schema typeName value cause
  /-- A rule of the schema refuses, in the words that its name and its parameter determine. -/
  | rule {schema : Schema} {typeName : Option String} {value : Value} {keyword : Keyword}
      {param : Value} {reason : String} (declared : (keyword.name, param) ∈ schema.rules.entries)
      (words : keyword.reason? param = some reason) :
      Schema.Refuses schema typeName value (.rule keyword.name reason)
  /-- An element of an array is refused. -/
  | item {schema : Schema} {element : FieldSchema} {value inner : Value} {index : Nat}
      {cause : Rejection} (items : schema.items = some element)
      (inRange : index < value.normalized.length)
      (effective : effectiveInput element.default? (some value.normalized[index]) = some inner)
      (refuses : FieldSchema.Refuses element inner cause) :
      Schema.Refuses schema (some "array") value (.item index cause)

end

/-- A field has one choice at least. -/
theorem FieldSchema.choices_ne_nil (field : FieldSchema) : field.choices ≠ [] := by
  unfold FieldSchema.choices
  split
  · simp
  · rename_i some
    exact Schema.choices_ne_nil some

/-! ## Coercions and rules -/

/-- What is coerced or refused is refused with the expected type and the kind of the value. -/
theorem Coercion.orReject_error {expected : String} {found : Value} {option : Option Value}
    {cause : Rejection} (h : orReject expected found option = .error cause) :
    cause = .coercion expected found.kind := by
  cases option with
  | none => exact (Except.error.inj h).symm
  | some value => cases h

/-- The coercion to arrays refuses a value for its shape. -/
theorem Coercion.array_error {value : Value} {cause : Rejection}
    (h : Coercion.array value = .error cause) : ∃ found, cause = .shape "array" found := by
  unfold Coercion.array at h
  split at h
  · cases h
  · exact ⟨_, (Except.error.inj h).symm⟩

/-- The coercion to objects refuses a value for its shape. -/
theorem Coercion.object_error {value : Value} {cause : Rejection}
    (h : Coercion.object value = .error cause) : ∃ found, cause = .shape "object" found := by
  unfold Coercion.object at h
  split at h
  · cases h
  · exact ⟨_, (Except.error.inj h).symm⟩

/-- The coercions to strings and to truth values reject nothing, and each of the others names one
type. -/
theorem TypeRegistry.rejects {typeName : String} {coercion : Coercion} {value : Value}
    {cause : Rejection} (registered : TypeRegistry.builtin.get? typeName = some coercion)
    (h : coercion value = .error cause) : Coercion.Rejects cause := by
  have entry := Registry.mem_of_get? registered
  simp only [builtin, List.mem_cons, Prod.mk.injEq, List.not_mem_nil, or_false] at entry
  rcases entry with ⟨rfl, rfl⟩ | ⟨rfl, rfl⟩ | ⟨rfl, rfl⟩ | ⟨rfl, rfl⟩ | ⟨rfl, rfl⟩ | ⟨rfl, rfl⟩ |
    ⟨rfl, rfl⟩ | ⟨rfl, rfl⟩
  · cases value <;> cases h
  · rw [Coercion.orReject_error h]
    exact .coercion (by simp) _
  · rw [Coercion.orReject_error h]
    exact .coercion (by simp) _
  · cases h
  · rw [Coercion.orReject_error h]
    exact .coercion (by simp) _
  · rw [Coercion.orReject_error h]
    exact .coercion (by simp) _
  · obtain ⟨found, rfl⟩ := Coercion.array_error h
    exact .shape (by simp) found
  · obtain ⟨found, rfl⟩ := Coercion.object_error h
    exact .shape (by simp) found

/-- A constraint refuses with its own name and reason. -/
theorem Rule.ofConstraint_error {name : String} {constraint : Constraint} {value : Value}
    {key : String} {record : Record} {cause : Rejection}
    (h : Rule.ofConstraint name constraint value key record = .error cause) :
    cause = .rule name constraint.reason := by
  unfold Rule.ofConstraint at h
  split at h
  · cases h
  · exact (Except.error.inj h).symm

/-- A plan refuses values in no other way than a field may. -/
def FieldPlan.RefusesLike [Engines] (plan : FieldPlan) (field : FieldSchema) : Prop :=
  ∀ (value : Value) (key : String) (record : Record) (cause : Rejection),
    plan.resolve value key record = .error cause → field.Refuses value cause

namespace Compiler

variable {schema : Schema} {typeName : Option String} {alternative : Alternative} {value : Value}
  {key : String} {record : Record} {cause : Rejection}

/-- The rejection of a coercion names a type and a kind. -/
theorem Yields.coerce_error [Engines] (yields : Yields builtin schema typeName alternative)
    (h : alternative.coerce value = .error cause) : Coercion.Rejects cause := by
  cases shape : alternative.shape with
  | items element =>
    rw [yields.coerce_normalized shape] at h
    cases h
  | record fields =>
    have registered : TypeRegistry.builtin.get? "object" = some Coercion.object := rfl
    simp only [Alternative.coerce, yields.coercion_record shape, shape] at h
    exact TypeRegistry.rejects registered h
  | scalar =>
    simp only [Alternative.coerce, yields.coercion_scalar shape, shape] at h
    cases registered : typeName.bind TypeRegistry.builtin.get? with
    | none => simp [registered] at h
    | some coercion =>
      obtain ⟨name, rfl, registered'⟩ := Option.bind_eq_some_iff.mp registered
      simp only [registered] at h
      exact TypeRegistry.rejects registered' h

/-- The rejection of a rule names a rule of the schema, in its own words. -/
theorem Yields.rules_error [Engines] (yields : Yields builtin schema typeName alternative)
    (h : applyRules key record alternative.rules value = .error cause) :
    ∃ keyword param reason, (Keyword.name keyword, param) ∈ schema.rules.entries ∧
      keyword.reason? param = some reason ∧ cause = .rule keyword.name reason := by
  obtain ⟨rule, member, seen, fails⟩ := exists_of_applyRules_eq_error h
  obtain ⟨keyword, param, constraint, declared, made, rfl⟩ := yields.exists_keyword rule member
  refine ⟨keyword, param, constraint.reason, declared, ?_, Rule.ofConstraint_error fails⟩
  simp [Keyword.reason?, made]

/-! ## Fields -/

/-- The default of a compiled field is that of its schema. -/
theorem default_eq [Engines] {field : FieldSchema} {plan : FieldPlan}
    (compiled : (builtin.compileField field).value = .ok plan) : plan.default = field.default? :=
  (compileField_ok compiled).2

/-- A compiled field has one alternative for each choice of its schema. -/
theorem length_alternatives [Engines] {field : FieldSchema} {plan : FieldPlan}
    (compiled : (builtin.compileField field).value = .ok plan) :
    plan.alternatives.length = field.choices.length :=
  (compileField_ok compiled).1.length_eq.symm

/-- **An alternative refuses values as its schema does**, if elements are refused as the element schema
does. -/
theorem Yields.refuses [Engines] (yields : Yields builtin schema typeName alternative)
    (elements : ∀ (element : FieldSchema) (plan : FieldPlan), schema.items = some element →
      (builtin.compileField element).value = .ok plan → plan.RefusesLike element)
    (h : (attemptAlternative alternative value key record).value = .error cause) :
    schema.Refuses typeName value cause := by
  rcases attemptAlternative_error yields.isFilter h with coercion | ⟨coerced, coerce_ok, rules | parts⟩
  · exact .coerced (yields.coerce_error coercion)
  · obtain ⟨keyword, param, reason, declared, words, rfl⟩ := yields.rules_error rules
    exact .rule declared words
  · have shapes := yields.shape
    generalize shape : alternative.shape = parting at parts shapes
    cases shapes with
    | scalar noFields noElements => cases parts
    | record properties type compiled =>
      -- What is coerced is a record already, and its fields keep what they refuse.
      obtain ⟨entries, rfl⟩ := yields.coerce_record shape coerce_ok
      cases parts
    | @items element plan type items compiled =>
      rw [yields.coerce_normalized shape] at coerce_ok
      cases coerce_ok
      rw [attemptShape] at parts
      obtain ⟨index, inRange, inner, rfl, fails⟩ := attemptEach_error (map_eq_error parts)
      obtain ⟨value', effective, refused⟩ := FieldPlan.attempt_error fails
      rw [default_eq compiled] at effective
      have refuses := elements element plan items compiled value' key record inner refused
      rw [type, Nat.zero_add]
      exact .item items inRange effective refuses

/-- **A compiled field refuses values as its schema says**: by induction on the schema, since the
rejection of an element holds one by the element schema. -/
theorem refusesLike [Engines] {field : FieldSchema} {plan : FieldPlan}
    (compiled : (builtin.compileField field).value = .ok plan) : plan.RefusesLike field := by
  induction field using FieldSchema.induction generalizing plan with
  | step field ih =>
    intro value key record cause h
    have yields := (compileField_ok compiled).1
    rcases FieldPlan.resolve_error h with ⟨alternative, listed, fails⟩ | ⟨several, rfl⟩
    · rw [listed] at yields
      obtain ⟨choice, rest, first, others, single⟩ := List.forall₂_cons_right_iff.mp yields
      rw [List.forall₂_nil_right_iff.mp others] at single
      have offered : choice ∈ field.choices := by simp [single]
      refine .only single (first.refuses ?_ fails)
      intro element plan' items plan_ok
      have schema := FieldSchema.mem_alternatives_of_items offered items
      exact ih element (.element schema items) plan_ok
    · have some : 0 < field.choices.length := List.length_pos_of_ne_nil field.choices_ne_nil
      rw [length_alternatives compiled] at several ⊢
      exact .exhausted (by omega)

end Compiler

end Intake
