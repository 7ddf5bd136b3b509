import Intake.Proofs.Filters

/-!
# Which parameters compiling judges

Compiling looks at some of the rule parameters in a schema and not at others. The live ones stand under
keys with a factory, in a schema that is visited: nested fields always are, an element schema only where
one of the types is `array`, and then once for each time that type is named. `Compiler.liveInFields`
lists them in the order in which they are judged. A field fails to compile exactly with the error of the
first live parameter that its factory rejects (`compileField_failure?`): the recursions of the compiler
and of the list go side by side, since the list names what the compiler judges at each step.
-/

set_option autoImplicit false

namespace Intake

/-! ## Failures -/

/-- The error of a result, if it is one. -/
def failure? {ε α : Type} : Except ε α → Option ε
  | .ok _ => none
  | .error e => some e

/-- What fails with an error is this error. -/
theorem failure?_eq_some_iff {ε α : Type} {x : Except ε α} {e : ε} :
    failure? x = some e ↔ x = .error e := by
  cases x <;> simp [failure?]

/-- What does not fail has a result. -/
theorem failure?_eq_none_iff {ε α : Type} {x : Except ε α} :
    failure? x = none ↔ ∃ a, x = .ok a := by
  cases x <;> simp [failure?]

/-- A function of the result does not change the failure. -/
@[simp] theorem failure?_map {ε α β : Type} (f : α → β) (x : Except ε α) :
    failure? (x.map f) = failure? x := by
  cases x <;> rfl

/-- Two computations that follow each other fail as the first does, and else as the second. -/
theorem failure?_onSuccess {ε α β : Type} {first : Reported (Except ε α)}
    {next : α → Reported (Except ε β)} (later : Option ε)
    (h : ∀ a, first.value = .ok a → failure? (next a).value = later) :
    failure? (first.onSuccess next).value = (failure? first.value).or later := by
  unfold Reported.onSuccess
  cases result : first.value with
  | error e => rfl
  | ok a => exact h a result

namespace Compiler

variable {compiler : Compiler} {schema : Schema}

/-! ## Live parameters -/

/-- A rule parameter that compiling looks at, with the schema in which it stands. -/
structure LiveParameter extends LiveRule where
  /-- The schema. -/
  schema : Schema

/-- What its factory makes of a live parameter. -/
def LiveParameter.judged (live : LiveParameter) : Except SchemaError Rule :=
  (live.factory live.param live.key live.schema).value

/-- The live parameters among the rules of a schema, in the order of their keys. -/
def liveInRules (compiler : Compiler) (schema : Schema) : List LiveParameter :=
  (compiler.liveRules schema.rules.entries).map fun rule => { rule with schema }

mutual

/-- The live parameters of a field, in the order in which they are judged. -/
def liveInField (compiler : Compiler) : FieldSchema → List LiveParameter
  | .single schema => liveInSchema compiler schema
  | .union schemas => liveInSchemas compiler schemas

/-- The live parameters of the alternatives of a field, one alternative after the other. -/
def liveInSchemas (compiler : Compiler) : List (SchemaOver FieldSchema) → List LiveParameter
  | [] => []
  | schema :: rest => liveInSchema compiler schema ++ liveInSchemas compiler rest

/-- The live parameters of a schema: first those of its nested fields, and then for each of its type
names those of the element schema, if the type is `array`, and those of its own rules. -/
def liveInSchema (compiler : Compiler) : SchemaOver FieldSchema → List LiveParameter
  | ⟨type, default, items, properties, rules⟩ =>
    let schema : Schema := ⟨type, default, items, properties, rules⟩
    let elements := liveInItems compiler items
    liveInProperties compiler properties ++ (alternativeTypes schema).flatMap fun typeName =>
      (if typeName = some "array" then elements else []) ++ liveInRules compiler schema

/-- The live parameters of an element schema, in the order in which they are judged. -/
def liveInItems (compiler : Compiler) : Option FieldSchema → List LiveParameter
  | none => []
  | some field => liveInField compiler field

/-- The live parameters of nested fields, in the order in which they are judged. -/
def liveInProperties (compiler : Compiler) :
    Option (List (String × FieldSchema)) → List LiveParameter
  | none => []
  | some fields => liveInFields compiler fields

/-- The live parameters of named fields, one field after the other. -/
def liveInFields (compiler : Compiler) : List (String × FieldSchema) → List LiveParameter
  | [] => []
  | (_, field) :: rest => liveInField compiler field ++ liveInFields compiler rest

end

/-- Nested fields come before the rules, which are judged again for each type, as the elements are for
each array; the title is no rule. -/
example :
    (builtin.liveInFields [("tags", .single
      { type := some (.union ["array", "string", "array"])
        items := some (.single { rules := RuleTable.ofList [("pattern", .string "a")] })
        properties := some
          [("id", .single { rules := RuleTable.ofList [("minimum", .bool true)] })]
        rules := RuleTable.ofList [("title", .null), ("maxItems", .bool true)] })]).map (·.key)
      = ["minimum", "pattern", "maxItems", "maxItems", "pattern", "maxItems"] := rfl

/-- The first error with which one of several live parameters is rejected. -/
def firstRejection (parameters : List LiveParameter) : Option SchemaError :=
  parameters.findSome? fun live => failure? live.judged

/-- No parameters, no rejection. -/
@[simp] theorem firstRejection_nil : firstRejection [] = none := rfl

/-- The first of the parameters is judged before the others. -/
theorem firstRejection_cons (live : LiveParameter) (rest : List LiveParameter) :
    firstRejection (live :: rest) = (failure? live.judged).or (firstRejection rest) := by
  unfold firstRejection
  rw [List.findSome?_cons]
  cases failure? live.judged <;> rfl

/-- Parameters that come before others are judged before them. -/
theorem firstRejection_append (before after : List LiveParameter) :
    firstRejection (before ++ after) = (firstRejection before).or (firstRejection after) :=
  List.findSome?_append

/-- No rejection comes first exactly where all parameters are accepted. -/
theorem firstRejection_eq_none_iff {parameters : List LiveParameter} :
    firstRejection parameters = none ↔ ∀ live ∈ parameters, ∃ rule, live.judged = .ok rule := by
  simp [firstRejection, failure?_eq_none_iff]

/-- The first rejection is that of a parameter before which all others are accepted. -/
theorem firstRejection_eq_some_iff {parameters : List LiveParameter} {error : SchemaError} :
    firstRejection parameters = some error ↔ ∃ before live after,
      parameters = before ++ live :: after ∧ (∀ earlier ∈ before, ∃ rule, earlier.judged = .ok rule) ∧
        live.judged = .error error := by
  unfold firstRejection
  rw [List.findSome?_eq_some_iff]
  simp only [failure?_eq_some_iff, failure?_eq_none_iff]
  constructor
  · rintro ⟨before, live, after, split, rejected, accepted⟩
    exact ⟨before, live, after, split, accepted, rejected⟩
  · rintro ⟨before, live, after, split, accepted, rejected⟩
    exact ⟨before, live, after, split, rejected, accepted⟩

/-! ## How compiling fails -/

/-- The rules of a schema fail at the first live parameter that is rejected. -/
theorem compileRules_failure? (schema : Schema) (entries : List (String × Value)) :
    failure? (compileRules compiler schema entries).value
      = firstRejection ((compiler.liveRules entries).map fun rule => { rule with schema }) := by
  rw [compileRules_value]
  generalize compiler.liveRules entries = lives
  induction lives with
  | nil => rfl
  | cons live rest ih =>
    rw [makeRules, List.map_cons, firstRejection_cons, ← ih, LiveParameter.judged]
    cases (live.factory live.param live.key schema).value with
    | error error => rfl
    | ok rule => exact failure?_map _ _

/-- The shape of an alternative fails only where it needs an element schema that fails. -/
theorem shapeFor_failure? (nested : Option FormPlan) (element : Compiled (Option FieldPlan))
    (typeName : Option String) :
    failure? (shapeFor nested element typeName).value
      = if typeName = some "array" then failure? element.value else none := by
  unfold shapeFor
  split
  · -- A record needs no element schema, and its type is not `array`.
    rename_i type
    have other : typeName ≠ some "array" := by
      rintro rfl
      cases type
    rw [if_neg other]
    rfl
  · by_cases array : typeName = some "array"
    · rw [if_pos array, if_pos array, Reported.value_map, failure?_map]
    · rw [if_neg array, if_neg array]
      rfl

/-- An alternative fails with its element schema, and else with its rules. -/
theorem compileAlternative_failure? {nested : Option FormPlan}
    {element : Compiled (Option FieldPlan)} {typeName : Option String} :
    failure? (compileAlternative compiler schema nested element typeName).value
      = (if typeName = some "array" then failure? element.value else none).or
        (firstRejection (compiler.liveInRules schema)) := by
  unfold compileAlternative
  rw [failure?_onSuccess (firstRejection (compiler.liveInRules schema)),
    shapeFor_failure?]
  intro shape _
  simp only [Reported.value_andThen, Reported.value_map, failure?_map, compileRules_failure?]
  rfl

/-- The alternatives of a schema fail with the first rejection: for each type name the elements come before
the schema's own rules. -/
theorem compileAlternatives_failure? {nested : Option FormPlan}
    {element : Compiled (Option FieldPlan)} {elements : List LiveParameter}
    (items : failure? element.value = firstRejection elements) (typeNames : List (Option String)) :
    failure? (compileAlternatives compiler schema nested element typeNames).value
      = firstRejection (typeNames.flatMap fun typeName =>
        (if typeName = some "array" then elements else []) ++ compiler.liveInRules schema) := by
  induction typeNames with
  | nil => rfl
  | cons typeName rest ih =>
    unfold compileAlternatives
    rw [failure?_onSuccess _ fun _ _ => (failure?_map _ _).trans ih, compileAlternative_failure?, items,
      List.flatMap_cons, firstRejection_append, firstRejection_append]
    by_cases array : typeName = some "array"
    · rw [if_pos array, if_pos array]
    · rw [if_neg array, if_neg array, firstRejection_nil]

mutual

/-- **A field fails at the first live parameter that is rejected**: by recursion on the schema, as it is
compiled. -/
theorem compileField_failure? : (field : FieldSchema) →
    failure? (compileField compiler field).value = firstRejection (compiler.liveInField field)
  | .single schema => by
    rw [compileField, Reported.value_map, failure?_map, compileSchema_failure? schema, liveInField]
  | .union schemas => by
    rw [compileField, Reported.value_map, failure?_map, compileSchemas_failure? schemas, liveInField]

/-- Alternatives fail with the first rejection among them. -/
theorem compileSchemas_failure? : (schemas : List (SchemaOver FieldSchema)) →
    failure? (compileSchemas compiler schemas).value = firstRejection (compiler.liveInSchemas schemas)
  | [] => rfl
  | schema :: rest => by
    have others := compileSchemas_failure? rest
    rw [compileSchemas, failure?_onSuccess _ fun _ _ => (failure?_map _ _).trans others,
      compileSchema_failure? schema, liveInSchemas, firstRejection_append]

/-- A schema fails with the first rejection in it. -/
theorem compileSchema_failure? : (schema : SchemaOver FieldSchema) →
    failure? (compileSchema compiler schema).value = firstRejection (compiler.liveInSchema schema)
  | ⟨type, default, items, properties, rules⟩ => by
    have element := compileItems_failure? items
    rw [compileSchema, failure?_onSuccess _ fun _ _ => compileAlternatives_failure? element _,
      compileProperties_failure? properties, liveInSchema, firstRejection_append]

/-- An element schema fails with the first rejection in it. -/
theorem compileItems_failure? : (items : Option FieldSchema) →
    failure? (compileItems compiler items).value = firstRejection (compiler.liveInItems items)
  | none => rfl
  | some field => by
    rw [compileItems, Reported.value_map, failure?_map, compileField_failure? field, liveInItems]

/-- Nested fields fail with the first rejection among them. -/
theorem compileProperties_failure? : (properties : Option (List (String × FieldSchema))) →
    failure? (compileProperties compiler properties).value
      = firstRejection (compiler.liveInProperties properties)
  | none => rfl
  | some fields => by
    rw [compileProperties, Reported.value_map, failure?_map,
      failure?_onSuccess none fun _ _ => rfl, compileFields_failure? fields,
      liveInProperties, Option.or_none]

/-- Fields fail with the first rejection among them. -/
theorem compileFields_failure? : (fields : List (String × FieldSchema)) →
    failure? (compileFields compiler fields).value = firstRejection (compiler.liveInFields fields)
  | [] => rfl
  | (name, field) :: rest => by
    have others := compileFields_failure? rest
    rw [compileFields, failure?_onSuccess _ fun _ _ => (failure?_map _ _).trans others,
      compileField_failure? field, liveInFields, firstRejection_append]

end

end Compiler

end Intake
