import Intake.Proofs.UnseenChanges

/-!
# Lists of types

A schema with a list of types is short for alternatives: one copy of the schema for each name in the
list, with that name as its type. The copies compile to the very plan of the schema, although each of
them compiles its nested fields again, and they fail with the same error where the schema fails
(`typeList_eq_alternatives`). A list without names is like no type at all.
-/

set_option autoImplicit false

namespace Intake

namespace Compiler

variable {compiler : Compiler} {schema : Schema}

/-! ## Several schemas -/

/-- Alternatives are compiled one after the other. -/
theorem compileSchemas_append (schemas others : List Schema) :
    (compileSchemas compiler (schemas ++ others)).value
      = (compileSchemas compiler schemas).value.bind fun alternatives =>
        (compileSchemas compiler others).value.map (alternatives ++ ·) := by
  induction schemas with
  | nil =>
    cases result : (compileSchemas compiler others).value <;>
      simp [compileSchemas, result, Except.bind, Except.map]
  | cons schema rest ih =>
    rw [List.cons_append, compileSchemas_cons, compileSchemas_cons, ih]
    cases (compileSchema compiler schema).value with
    | error error => rfl
    | ok first =>
      cases (compileSchemas compiler rest).value with
      | error error => rfl
      | ok more =>
        cases (compileSchemas compiler others).value with
        | error error => rfl
        | ok last => simp [Except.bind, Except.map]

/-! ## One schema for each type -/

/-- The copies of a schema that have one of its type names each, in order. -/
def eachType (schema : Schema) (names : List String) : List Schema :=
  names.map fun name => { schema with type := some (.one name) }

/-- The copies of a schema whose nested fields are compiled give the alternatives of its type names. -/
theorem compileSchemas_eachType {nested : Option FormPlan} (blind : compiler.IsBlind)
    (properties : (compileProperties compiler schema.properties).value = .ok nested)
    (names : List String) :
    (compileSchemas compiler (eachType schema names)).value
      = (compileAlternatives compiler schema nested (compileItems compiler schema.items)
        (names.map some)).value := by
  induction names with
  | nil => rfl
  | cons name rest ih =>
    have first : (compileSchema compiler { schema with type := some (.one name) }).value
        = (compileAlternatives compiler schema nested (compileItems compiler schema.items)
          [some name]).value := by
      have rules := compileRules_congr blind { schema with type := some (.one name) } schema
        (rfl : compiler.liveRules schema.rules.entries = _)
      rw [compileSchema_value, properties]
      exact compileAlternatives_congr rules (fun _ => rfl) nested
    have others : eachType schema (name :: rest)
        = { schema with type := some (.one name) } :: eachType schema rest := rfl
    rw [others, compileSchemas_cons, first, ih, List.map_cons, compileAlternatives_cons,
      compileAlternatives_cons]
    cases (compileAlternative compiler schema nested (compileItems compiler schema.items)
      (some name)).value with
    | error error => rfl
    | ok alternative =>
      cases (compileAlternatives compiler schema nested (compileItems compiler schema.items)
        (rest.map some)).value <;> rfl

/-- **A schema with a list of types compiles like its copies**: where its nested fields fail, the first
copy fails already, and else each copy gives the alternative of its name. -/
theorem compileSchema_eq_eachType (blind : compiler.IsBlind) {names : List String}
    (listed : schema.type = some (.union names)) (some : names ≠ []) :
    (compileSchemas compiler (eachType schema names)).value = (compileSchema compiler schema).value := by
  cases properties : (compileProperties compiler schema.properties).value with
  | error error =>
    obtain ⟨name, rest, rfl⟩ := List.exists_cons_of_ne_nil some
    have others : eachType schema (name :: rest)
        = { schema with type := Option.some (.one name) } :: eachType schema rest := rfl
    rw [others, compileSchemas_cons, compileSchema_value, compileSchema_value, properties]
    rfl
  | ok nested =>
    have types : alternativeTypes schema = names.map Option.some := by
      unfold alternativeTypes Schema.typeNames
      rw [listed]
      obtain ⟨name, rest, rfl⟩ := List.exists_cons_of_ne_nil some
      rfl
    rw [compileSchemas_eachType blind properties, compileSchema_value, properties, types]
    rfl

/-- A schema with an empty list of types compiles like one without a type. -/
theorem compileSchema_eq_untyped (blind : compiler.IsBlind) (listed : schema.type = some (.union [])) :
    (compileSchema compiler { schema with type := none }).value
      = (compileSchema compiler schema).value := by
  have types : alternativeTypes schema = alternativeTypes { schema with type := none } := by
    unfold alternativeTypes Schema.typeNames
    rw [listed]
    rfl
  have rules := compileRules_congr blind { schema with type := none } schema
    (rfl : compiler.liveRules schema.rules.entries = _)
  rw [compileSchema_value, compileSchema_value, types]
  congr 1
  funext nested
  exact compileAlternatives_congr rules (fun _ => rfl) nested

/-- An alternative of a field may be replaced by others that compile like it and have its default. -/
theorem compileField_replace {field : FieldSchema} {before after others : List Schema}
    (alternatives : field.alternatives = before ++ schema :: after)
    (same : (compileSchemas compiler others).value = (compileSchema compiler schema).value)
    (default : others.findSome? (fun other => other.default) = schema.default) :
    (compileField compiler (.union (before ++ others ++ after))).value
      = (compileField compiler field).value := by
  have compiled : (compileSchemas compiler (before ++ others ++ after)).value
      = (compileSchemas compiler field.alternatives).value := by
    have single : before ++ schema :: after = before ++ [schema] ++ after := by simp
    rw [alternatives, single, compileSchemas_append, compileSchemas_append, compileSchemas_append,
      compileSchemas_append, same, compileSchemas_singleton]
  have plans : fieldPlan (.union (before ++ others ++ after)) = fieldPlan field := by
    funext alternatives'
    have defaults : (before ++ others ++ after).findSome? (fun other => other.default)
        = field.alternatives.findSome? fun other => other.default := by
      rw [alternatives, List.findSome?_append, List.findSome?_append, List.findSome?_append, default,
        List.findSome?_cons]
      cases before.findSome? (fun other => other.default) <;> cases schema.default <;> rfl
    unfold fieldPlan
    rw [FieldSchema.alternatives, defaults]
  rw [compileField_eq_map, compileField_eq_map, plans]
  exact congrArg _ compiled

end Compiler

open Compiler (builtin)

/-- **Lists of types are short for alternatives.** Where a schema of a field has a list of type names,
it may be replaced by its copies with one of the names each: the field then fails with the same error or
compiles to the same plan, so that all values are attempted and sanitized alike. A schema with an empty
list may be replaced by one without a type. -/
theorem typeList_eq_alternatives [Engines] {field : FieldSchema} {before after : List Schema}
    {schema : Schema} {names : List String} (alternatives : field.alternatives = before ++ schema :: after)
    (listed : schema.type = some (.union names)) :
    let others : List Schema :=
      if names = [] then [{ schema with type := none }]
      else names.map fun name => { schema with type := some (.one name) }
    (builtin.compileField (.union (before ++ others ++ after))).value
        = (builtin.compileField field).value ∧
      ∀ plan other, (builtin.compileField field).value = .ok plan →
        (builtin.compileField (.union (before ++ others ++ after))).value = .ok other →
          other.default = plan.default ∧
            ∀ (input : Option Value) (key : String) (record : Record),
              other.attempt input key record = plan.attempt input key record ∧
                other.sanitize input key record = plan.sanitize input key record := by
  intro others
  have same : (builtin.compileField (.union (before ++ others ++ after))).value
      = (builtin.compileField field).value := by
    apply Compiler.compileField_replace alternatives
    · by_cases empty : names = []
      · subst empty
        exact (Compiler.compileSchemas_singleton _).trans
          (Compiler.compileSchema_eq_untyped Compiler.isBlind_builtin listed)
      · have copies : others = Compiler.eachType schema names := if_neg empty
        rw [copies]
        exact Compiler.compileSchema_eq_eachType Compiler.isBlind_builtin listed empty
    · by_cases empty : names = []
      · have untyped : others = [{ schema with type := none }] := if_pos empty
        cases default : schema.default <;> simp [untyped, default]
      · have copies : others = Compiler.eachType schema names := if_neg empty
        obtain ⟨name, rest, rfl⟩ := List.exists_cons_of_ne_nil empty
        cases default : schema.default <;> simp [copies, Compiler.eachType, default]
  refine ⟨same, ?_⟩
  intro plan other compiled replaced
  obtain rfl : other = plan := by
    rw [same, compiled] at replaced
    exact (Except.ok.inj replaced).symm
  exact ⟨rfl, fun input key record => ⟨rfl, rfl⟩⟩

/-- A size: a whole number, or at most two of them, seven being the usual one. -/
def sizeSchema : Schema where
  type := some (.union ["integer", "array"])
  default := some (.string "7")
  items := some (.single { type := some (.one "integer") })
  rules := RuleTable.ofList [("maxItems", .number (.integer 2 (by decide)))]

/-- A date, or else a size. -/
def entryField : FieldSchema := .union [{ type := some (.one "date") }, sizeSchema]

/-- The plan of a date or size, which has three alternatives. -/
def entryPlan : FieldPlan :=
  .mk [⟨some "date", some Coercion.date, [], .scalar⟩,
    ⟨some "integer", some Coercion.integer, [Rule.ofConstraint "maxItems" (.count .atMost 2)], .scalar⟩,
    ⟨some "array", some Coercion.array, [Rule.ofConstraint "maxItems" (.count .atMost 2)],
      .items (.mk [⟨some "integer", some Coercion.integer, [], .scalar⟩] none)⟩]
    (some (.string "7"))

/-- The second schema of an entry is short for two: written out, they compile to the plan of three
alternatives, all of which are tried on what is none of them. -/
theorem entry_eachType :
    entryField.alternatives = [{ type := some (.one "date") }] ++ sizeSchema :: [] ∧
      sizeSchema.type = some (.union ["integer", "array"]) ∧
      (builtin.compileField entryField).value = .ok entryPlan ∧
      (builtin.compileField (.union [{ type := some (.one "date") },
        { sizeSchema with type := some (.one "integer") },
        { sizeSchema with type := some (.one "array") }])).value = .ok entryPlan ∧
      (entryPlan.attempt (some (.string "none")) "entry" []).value = .error (.unionExhausted 3) := by
  have compiled : (builtin.compileField entryField).value = .ok entryPlan := rfl
  have alternatives : entryField.alternatives = [{ type := some (.one "date") }] ++ sizeSchema :: [] :=
    rfl
  have listed : sizeSchema.type = some (.union ["integer", "array"]) := rfl
  obtain ⟨same, -⟩ := typeList_eq_alternatives alternatives listed
  exact ⟨alternatives, listed, compiled, same.trans compiled, by cbv⟩

end Intake
