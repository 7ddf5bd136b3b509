import Intake.Proofs.Outputs

/-!
# Fields are isolated

With the built-in rules, the key and the record around a value are handed down to every alternative,
element and rule, and none of them looks at either: an attempt at a field depends on the value alone
(`Compiler.attempt_congr`). What a record holds at a name therefore depends on the entry of that name
alone, whatever the other entries are and in whatever order they stand.
-/

set_option autoImplicit false

namespace Intake

open Compiler (builtin)

variable {field : FieldSchema} {plan : FieldPlan} {key₁ key₂ : String} {record₁ record₂ : Record}

/-- The coercion and the rules of an alternative do not look at the key and the record. -/
theorem Alternative.check_congr {alternative : Alternative}
    (filters : ∀ rule ∈ alternative.rules, rule.IsFilter) (value : Value) :
    alternative.check value key₁ record₁ = alternative.check value key₂ record₂ := by
  unfold Alternative.check
  cases alternative.coerce value with
  | error cause => rfl
  | ok coerced => exact applyRules_congr filters coerced key₁ key₂ record₁ record₂

/-- An attempt at an alternative does not look at the key and the record if the attempts at elements
do not. Nested fields never see them: each is attempted under its own name and in its own record. -/
theorem attemptAlternative_congr {alternative : Alternative}
    (filters : ∀ rule ∈ alternative.rules, rule.IsFilter)
    (elements : ∀ plan, alternative.shape = .items plan → ∀ input,
      (plan.attempt input key₁ record₁).value = (plan.attempt input key₂ record₂).value)
    (value : Value) :
    (attemptAlternative alternative value key₁ record₁).value
      = (attemptAlternative alternative value key₂ record₂).value := by
  have checked : alternative.check value key₁ record₁ = alternative.check value key₂ record₂ :=
    Alternative.check_congr filters value
  obtain ⟨typeName, coercion, rules, shape⟩ := alternative
  rw [attemptAlternative, attemptAlternative, checked]
  cases Alternative.check ⟨typeName, coercion, rules, shape⟩ value key₂ record₂ with
  | error cause => rfl
  | ok coerced =>
    cases shape with
    | scalar => rfl
    | record fields => rfl
    | items plan =>
      have each : (attemptEach (fun element => plan.attempt (some element) key₁ record₁) 0
          coerced.elementsOrSelf).value
            = (attemptEach (fun element => plan.attempt (some element) key₂ record₂) 0
              coerced.elementsOrSelf).value := by
        apply attemptEach_congr
        intro element _
        exact elements plan rfl (some element)
      simp only [attemptShape, Reported.value_map, each]

/-- **A compiled field resolves a value alike under all keys and in all records**: by induction on the
schema, since the elements of an array are resolved by a part of it. -/
theorem Compiler.resolve_congr [Engines] (compiled : (builtin.compileField field).value = .ok plan)
    (value : Value) : plan.resolve value key₁ record₁ = plan.resolve value key₂ record₂ := by
  induction field using FieldSchema.induction generalizing plan value with
  | step field ih =>
    apply FieldPlan.resolve_congr
    intro alternative member
    obtain ⟨choice, offered, yields⟩ := Compiler.exists_choice compiled member
    refine attemptAlternative_congr yields.isFilter ?_ value
    intro element shape
    obtain ⟨source, part, source_ok⟩ := Compiler.compiled_of_part compiled (.element member shape)
    apply FieldPlan.attempt_congr
    intro value
    exact ih source part source_ok value

/-- An attempt at a compiled field depends on the value alone. -/
theorem Compiler.attempt_congr [Engines] (compiled : (builtin.compileField field).value = .ok plan)
    (input : Option Value) :
    (plan.attempt input key₁ record₁).value = (plan.attempt input key₂ record₂).value :=
  FieldPlan.attempt_congr (Compiler.resolve_congr compiled) input

/-- What a compiled field becomes depends on the value alone. -/
theorem Compiler.sanitize_congr [Engines] (compiled : (builtin.compileField field).value = .ok plan)
    (input : Option Value) :
    (plan.sanitize input key₁ record₁).value = (plan.sanitize input key₂ record₂).value := by
  rw [FieldPlan.sanitize_value, FieldPlan.sanitize_value, Compiler.attempt_congr compiled input]

/-- What a compiled field writes depends on the entry of its name alone. -/
theorem Compiler.entry_congr [Engines] (compiled : (builtin.compileField field).value = .ok plan)
    {name : String} {input₁ input₂ : Record}
    (agree : Record.get? input₁ name = Record.get? input₂ name) :
    plan.entry name input₁ = plan.entry name input₂ := by
  unfold FieldPlan.entry
  rw [agree, Compiler.sanitize_congr compiled]

/-- **Fields are isolated.** Two records that agree at a name are sanitized to records that agree at
that name, whatever else they hold; and an attempt at any field of the form, at any depth, gives the
same result under every key and in every record. -/
theorem fields_isolated [Engines] {fields : Properties} {form : FormPlan}
    (compiled : (builtin.compile fields).value = .ok form) :
    (∀ (record₁ record₂ : Record) (name : String),
      Record.get? record₁ name = Record.get? record₂ name →
        Record.get? (form.sanitize record₁).value name
          = Record.get? (form.sanitize record₂).value name) ∧
      ∀ plan, form.Holds plan → ∀ (input : Option Value) (key₁ key₂ : String)
        (record₁ record₂ : Record),
        (plan.attempt input key₁ record₁).value = (plan.attempt input key₂ record₂).value := by
  have fields_ok := Compiler.finishForm_ok compiled
  refine ⟨?_, ?_⟩
  · intro record₁ record₂ name agree
    refine get?_sanitizeFields_congr ?_ rfl
    intro plan member
    obtain ⟨declared, -, -, plan_ok⟩ := Compiler.exists_declared fields_ok member
    exact Compiler.entry_congr plan_ok agree
  · intro plan holds input key₁ key₂ record₁ record₂
    obtain ⟨source, plan_ok⟩ := Compiler.compiled_of_holds fields_ok holds
    exact Compiler.attempt_congr plan_ok input

/-- The fields of an order: a list of article numbers, and a customer with a nested age. -/
def orderFields : Properties :=
  [("articles", .single
      { type := some (.one "array")
        items := some (.single { type := some (.one "integer") })
        rules := RuleTable.ofList [("uniqueItems", .bool true)] }),
    ("customer", .single
      { properties := some
          [("age", .single { type := some (.one "integer"), default := some (.string "18") })] })]

/-- The plan of the age of a customer. -/
def agePlan : FieldPlan :=
  .mk [⟨some "integer", some Coercion.integer, [], .scalar⟩] (some (.string "18"))

/-- The plans of the fields of an order. -/
def orderForm : FormPlan :=
  [("articles", .mk
      [⟨some "array", some Coercion.array, [Rule.ofConstraint "uniqueItems" (.distinct true)],
        .items (.mk [⟨some "integer", some Coercion.integer, [], .scalar⟩] none)⟩] none),
    ("customer", .mk [⟨none, some Coercion.object, [], .record [("age", agePlan)]⟩] none)]

/-- The plan of an order holds that of the age of its customer. -/
theorem orderForm_holds_agePlan : orderForm.Holds agePlan := by
  refine ⟨_, List.mem_cons_of_mem _ List.mem_cons_self, Relation.ReflTransGen.single ?_⟩
  have declared : ("age", agePlan) ∈ [("age", agePlan)] := List.mem_cons_self
  exact .nested List.mem_cons_self rfl declared

/-- The customer of an order does not depend on the articles, on what else is there, or on the order of
the entries; nor does the age depend on the key. -/
theorem order_isolated :
    (builtin.compile orderFields).value = .ok orderForm ∧ orderForm.Holds agePlan ∧
      Record.get? (orderForm.sanitize
          [("articles", .string "7"), ("customer", .object [("age", .string "41")])]).value "customer"
        = Record.get? (orderForm.sanitize
          [("admin", .bool true), ("customer", .object [("age", .string "41")])]).value "customer" ∧
      (agePlan.attempt (some (.string "x")) "age" []).value
        = (agePlan.attempt (some (.string "x")) "admin" [("admin", .bool true)]).value := by
  have compiled : (builtin.compile orderFields).value = .ok orderForm := rfl
  have isolated := fields_isolated compiled
  exact ⟨compiled, orderForm_holds_agePlan, isolated.1 _ _ "customer" rfl,
    isolated.2 agePlan orderForm_holds_agePlan _ _ _ _ _⟩

end Intake
