import Intake.Plan.Compiler
import Intake.Proofs.Parts

/-!
# What schemas compile to

The results of compiling, without the events on the way. A field compiles to one alternative for each
of its choices, a choice being one of its schemas with one of the type names of that schema, in
order; `Compiler.Yields` says all there is to know about such an alternative. Main statements:
`compileField_ok` for fields, `compileFields_ok` for the fields of a record, and that whatever stands
within a compiled field has been compiled from a schema itself (`compiled_of_within`).
-/

set_option autoImplicit false

namespace Intake

/-! ## Results -/

/-- A result that is no error after a change was none before it. -/
theorem map_eq_ok {ε α β : Type} {f : α → β} {x : Except ε α} {b : β} (h : x.map f = .ok b) :
    ∃ a, x = .ok a ∧ f a = b := by
  cases x with
  | error e => cases h
  | ok a => exact ⟨a, rfl, Except.ok.inj h⟩

/-- A result that is an error after a change was the same error before it. -/
theorem map_eq_error {ε α β : Type} {f : α → β} {x : Except ε α} {e : ε} (h : x.map f = .error e) :
    x = .error e := by
  cases x with
  | error e' => exact congrArg _ (Except.error.inj h)
  | ok a => cases h

/-- Where two steps follow each other and the result is no error, neither of them failed. -/
theorem bind_eq_ok {ε α β : Type} {f : α → Except ε β} {x : Except ε α} {b : β}
    (h : x.bind f = .ok b) : ∃ a, x = .ok a ∧ f a = .ok b := by
  cases x with
  | error e => cases h
  | ok a => exact ⟨a, rfl, h⟩

/-- In lists that correspond, each element on the right has a partner on the left. -/
theorem exists_mem_of_forall₂ {α β : Type} {r : α → β → Prop} {as : List α} {bs : List β} {b : β}
    (h : List.Forall₂ r as bs) (member : b ∈ bs) : ∃ a ∈ as, r a b := by
  induction h with
  | nil => cases member
  | cons related _ ih =>
    rcases List.mem_cons.mp member with rfl | later
    · exact ⟨_, List.mem_cons_self, related⟩
    · obtain ⟨a, here, partner⟩ := ih later
      exact ⟨a, List.mem_cons_of_mem _ here, partner⟩

namespace Reported

/-- Where two computations follow each other and the result is no error, neither of them failed. -/
theorem onSuccess_eq_ok {ε α β : Type} {first : Reported (Except ε α)}
    {next : α → Reported (Except ε β)} {b : β} (h : (first.onSuccess next).value = .ok b) :
    ∃ a, first.value = .ok a ∧ (next a).value = .ok b := by
  unfold onSuccess at h
  cases result : first.value with
  | error e => simp [result] at h
  | ok a =>
    refine ⟨a, rfl, ?_⟩
    simpa [result] using h

/-- The result of two computations that follow each other. -/
theorem value_onSuccess {ε α β : Type} (first : Reported (Except ε α))
    (next : α → Reported (Except ε β)) :
    (first.onSuccess next).value = first.value.bind fun a => (next a).value := by
  unfold onSuccess
  cases first.value <;> rfl

/-- A computation that first reports and then adds to the result of another one. -/
theorem onSuccess_map_eq_ok {ε α β γ : Type} {first : Reported (Except ε α)}
    {next : Reported (Except ε β)} {f : α → β → γ} {c : γ}
    (h : (first.onSuccess fun a => next.map (Except.map (f a))).value = .ok c) :
    ∃ a b, first.value = .ok a ∧ next.value = .ok b ∧ f a b = c := by
  obtain ⟨a, first_ok, rest⟩ := onSuccess_eq_ok h
  obtain ⟨b, next_ok, same⟩ := map_eq_ok rest
  exact ⟨a, b, first_ok, next_ok, same⟩

end Reported

namespace Compiler

variable {compiler : Compiler} {schema : Schema}

/-! ## Rules -/

/-- A rule of a schema that compiling looks at: its key, its parameter and the factory of the key. -/
structure LiveRule where
  /-- The key. -/
  key : String
  /-- The parameter. -/
  param : Value
  /-- The factory that is registered for the key. -/
  factory : RuleFactory

/-- The rules of a schema that compiling looks at, in the order of their keys: keys of the schema
language and keys without a factory are no rules. -/
def liveRules (compiler : Compiler) (entries : List (String × Value)) : List LiveRule :=
  entries.filterMap fun (key, param) =>
    if Schema.isReserved key then none
    else (compiler.rules.get? key).map fun factory => { key, param, factory }

/-- A rule is live if its key stands in the entries, is none of the schema language and has a factory. -/
theorem mem_liveRules_iff {entries : List (String × Value)} {live : LiveRule} :
    live ∈ compiler.liveRules entries ↔ (live.key, live.param) ∈ entries ∧
      Schema.isReserved live.key = false ∧ compiler.rules.get? live.key = some live.factory := by
  unfold liveRules
  rw [List.mem_filterMap]
  constructor
  · rintro ⟨⟨key, param⟩, member, found⟩
    by_cases reserved : Schema.isReserved key
    · simp [reserved] at found
    · simp only [reserved, Bool.false_eq_true, if_false, Option.map_eq_some_iff] at found
      obtain ⟨factory, registered, rfl⟩ := found
      exact ⟨member, by simpa using reserved, registered⟩
  · rintro ⟨member, unreserved, registered⟩
    exact ⟨_, member, by simp [unreserved, registered]⟩

/-- What the factories make of live rules, in order and up to the first error. -/
def makeRules (schema : Schema) : List LiveRule → Except SchemaError (List Rule)
  | [] => .ok []
  | live :: rest =>
    (live.factory live.param live.key schema).value.bind fun rule =>
      (makeRules schema rest).map (rule :: ·)

/-- **Compiling the rules of a schema** makes its live rules and passes over everything else. -/
theorem compileRules_value (schema : Schema) (entries : List (String × Value)) :
    (compileRules compiler schema entries).value = makeRules schema (compiler.liveRules entries) := by
  induction entries with
  | nil => rfl
  | cons entry rest ih =>
    obtain ⟨key, param⟩ := entry
    unfold compileRules
    by_cases reserved : Schema.isReserved key
    · simpa [liveRules, reserved] using ih
    · cases found : compiler.rules.get? key with
      | none => simpa [liveRules, reserved, found] using ih
      | some factory =>
        have live : compiler.liveRules ((key, param) :: rest)
            = { key, param, factory } :: compiler.liveRules rest := by
          simp [liveRules, reserved, found]
        simp only [reserved, Bool.false_eq_true, if_false]
        rw [live, makeRules, ← ih, Reported.value_onSuccess]
        rfl

/-- Every live rule compiles to what its factory makes of its parameter. -/
theorem makeRules_ok {lives : List LiveRule} {rules : List Rule} (h : makeRules schema lives = .ok rules) :
    List.Forall₂ (fun live rule => (live.factory live.param live.key schema).value = .ok rule)
      lives rules := by
  induction lives generalizing rules with
  | nil =>
    cases h
    exact .nil
  | cons live rest ih =>
    obtain ⟨rule, rule_ok, others⟩ := bind_eq_ok h
    obtain ⟨later, later_ok, rfl⟩ := map_eq_ok others
    exact .cons rule_ok (ih later_ok)

/-! ## Alternatives -/

/-- The shapes that a schema can give to the alternative of one of its type names. -/
inductive Shapes (compiler : Compiler) (schema : Schema) (typeName : Option String) :
    Shape FieldPlan → Prop
  /-- Nested fields count for records and untyped values. -/
  | record {fields : Properties} {form : FormPlan} (properties : schema.properties = some fields)
      (type : isRecordType typeName = true)
      (compiled : (compileFields compiler fields).value = .ok form) :
      Shapes compiler schema typeName (.record form)
  /-- An element schema counts for arrays. -/
  | items {element : FieldSchema} {plan : FieldPlan} (type : typeName = some "array")
      (items : schema.items = some element)
      (compiled : (compileField compiler element).value = .ok plan) :
      Shapes compiler schema typeName (.items plan)
  /-- Where neither counts, values have no parts. -/
  | scalar (noFields : isRecordType typeName = true → schema.properties = none)
      (noElements : typeName = some "array" → schema.items = none) :
      Shapes compiler schema typeName .scalar

/-- What a schema compiles to for one of its type names. -/
structure Yields (compiler : Compiler) (schema : Schema) (typeName : Option String)
    (alternative : Alternative) : Prop where
  /-- The alternative is known by the type name. -/
  named : alternative.typeName = typeName
  /-- Its coercion is that of the type name, or that of records. -/
  coercion : alternative.coercion = (coercionFor compiler alternative.shape typeName).value
  /-- Its rules are made by the factories of the live rules. -/
  rules : List.Forall₂ (fun live rule => (live.factory live.param live.key schema).value = .ok rule)
    (compiler.liveRules schema.rules.entries) alternative.rules
  /-- Its parts are sanitized by what the nested schemas compile to. -/
  shape : Shapes compiler schema typeName alternative.shape

/-- Completing the plans of a record changes nothing about them. -/
theorem finishForm_ok {fields : Compiled FormPlan} {form : FormPlan}
    (h : (fields.onSuccess finishForm).value = .ok form) : fields.value = .ok form := by
  obtain ⟨plans, fields_ok, same⟩ := Reported.onSuccess_eq_ok h
  rw [fields_ok]
  exact same

/-- Nested fields compile to plans exactly where there are any. -/
theorem compileProperties_ok {properties : Option Properties} {nested : Option FormPlan}
    (h : (compileProperties compiler properties).value = .ok nested) :
    (properties = none ∧ nested = none) ∨
      ∃ fields form, properties = some fields ∧ nested = some form ∧
        (compileFields compiler fields).value = .ok form := by
  cases properties with
  | none =>
    cases h
    exact Or.inl ⟨rfl, rfl⟩
  | some fields =>
    obtain ⟨form, form_ok, rfl⟩ := map_eq_ok h
    exact Or.inr ⟨fields, form, rfl, rfl, finishForm_ok form_ok⟩

/-- An element schema compiles to a plan exactly where there is one. -/
theorem compileItems_ok {items : Option FieldSchema} {element : Option FieldPlan}
    (h : (compileItems compiler items).value = .ok element) :
    (items = none ∧ element = none) ∨
      ∃ field plan, items = some field ∧ element = some plan ∧
        (compileField compiler field).value = .ok plan := by
  cases items with
  | none =>
    cases h
    exact Or.inl ⟨rfl, rfl⟩
  | some field =>
    obtain ⟨plan, plan_ok, rfl⟩ := map_eq_ok h
    exact Or.inr ⟨field, plan, rfl, rfl, plan_ok⟩

/-- The shape of an alternative is one that its schema can give. -/
theorem shapeFor_ok {nested : Option FormPlan} {typeName : Option String} {shape : Shape FieldPlan}
    (properties : (compileProperties compiler schema.properties).value = .ok nested)
    (h : (shapeFor nested (compileItems compiler schema.items) typeName).value = .ok shape) :
    Shapes compiler schema typeName shape := by
  -- Where the value is no record with nested fields, only the element schema matters.
  have parts (noFields : isRecordType typeName = true → schema.properties = none)
      (h : (shapeFor none (compileItems compiler schema.items) typeName).value = .ok shape) :
      Shapes compiler schema typeName shape := by
    unfold shapeFor at h
    by_cases array : typeName = some "array"
    · rw [if_pos array] at h
      obtain ⟨plan?, element_ok, rfl⟩ := map_eq_ok h
      rcases compileItems_ok element_ok with ⟨noElements, rfl⟩ | ⟨element, plan, items, rfl, compiled⟩
      · exact .scalar noFields fun _ => noElements
      · exact .items array items compiled
    · rw [if_neg array] at h
      cases h
      exact .scalar noFields fun is => absurd is array
  rcases compileProperties_ok properties with ⟨none, rfl⟩ | ⟨fields, form, some, rfl, compiled⟩
  · exact parts (fun _ => none) h
  · cases type : isRecordType typeName with
    | true =>
      simp only [shapeFor, type] at h
      cases h
      exact .record some type compiled
    | false =>
      have alike : shapeFor (.some form) (compileItems compiler schema.items) typeName
          = shapeFor .none (compileItems compiler schema.items) typeName := by
        simp only [shapeFor, type]
      rw [alike] at h
      exact parts (fun is => absurd is (by simp [type])) h

/-- An alternative is what its schema yields for the type name. -/
theorem compileAlternative_ok {nested : Option FormPlan} {typeName : Option String}
    {alternative : Alternative}
    (properties : (compileProperties compiler schema.properties).value = .ok nested)
    (h : (compileAlternative compiler schema nested (compileItems compiler schema.items)
      typeName).value = .ok alternative) :
    Yields compiler schema typeName alternative := by
  obtain ⟨shape, shape_ok, rest⟩ := Reported.onSuccess_eq_ok h
  obtain ⟨rules, rules_ok, rfl⟩ := map_eq_ok rest
  exact ⟨rfl, rfl, makeRules_ok (compileRules_value _ _ ▸ rules_ok), shapeFor_ok properties shape_ok⟩

/-- Type names compile to one alternative each, in order. -/
theorem compileAlternatives_ok {nested : Option FormPlan} {typeNames : List (Option String)}
    {alternatives : List Alternative}
    (properties : (compileProperties compiler schema.properties).value = .ok nested)
    (h : (compileAlternatives compiler schema nested (compileItems compiler schema.items)
      typeNames).value = .ok alternatives) :
    List.Forall₂ (Yields compiler schema) typeNames alternatives := by
  induction typeNames generalizing alternatives with
  | nil =>
    cases h
    exact .nil
  | cons typeName rest ih =>
    obtain ⟨alternative, others, alternative_ok, others_ok, rfl⟩ := Reported.onSuccess_map_eq_ok h
    exact .cons (compileAlternative_ok properties alternative_ok) (ih others_ok)

/-- A schema compiles to one alternative for each of its type names. -/
theorem compileSchema_ok {alternatives : List Alternative}
    (h : (compileSchema compiler schema).value = .ok alternatives) :
    List.Forall₂ (Yields compiler schema) (alternativeTypes schema) alternatives := by
  obtain ⟨type, default, items, properties, rules⟩ := schema
  unfold compileSchema at h
  obtain ⟨nested, nested_ok, rest⟩ := Reported.onSuccess_eq_ok h
  exact compileAlternatives_ok nested_ok rest

/-! ## Fields -/

end Compiler

/-- The choices that schemas offer: each schema with each of its type names, in order. -/
def Schema.choices (schemas : List Schema) : List (Schema × Option String) :=
  schemas.flatMap fun schema => (Compiler.alternativeTypes schema).map (schema, ·)

/-- The choices that a field offers. A field without schemas is like one with an untyped schema that
says nothing. -/
def FieldSchema.choices (field : FieldSchema) : List (Schema × Option String) :=
  match field.alternatives with
  | [] => [({}, none)]
  | schemas => Schema.choices schemas

/-- Every schema offers a choice. -/
theorem Schema.choices_ne_nil {schemas : List Schema} (some : schemas ≠ []) :
    Schema.choices schemas ≠ [] := by
  obtain ⟨schema, rest, rfl⟩ := List.exists_cons_of_ne_nil some
  unfold Schema.choices Compiler.alternativeTypes
  rw [List.flatMap_cons]
  cases schema.typeNames <;> simp

/-- A choice comes from one of the schemas of its field, or from the schema that says nothing. -/
theorem FieldSchema.mem_alternatives_of_mem_choices {field : FieldSchema}
    {choice : Schema × Option String} (h : choice ∈ field.choices) :
    choice.1 ∈ field.alternatives ∨ choice.1 = {} := by
  unfold FieldSchema.choices at h
  split at h
  · rw [List.mem_singleton] at h
    exact Or.inr (by rw [h])
  · obtain ⟨schema, member, h⟩ := List.mem_flatMap.mp h
    obtain ⟨typeName, -, rfl⟩ := List.mem_map.mp h
    exact Or.inl member

/-- A choice with an element schema comes from one of the schemas of its field. -/
theorem FieldSchema.mem_alternatives_of_items {field element : FieldSchema}
    {choice : Schema × Option String} (member : choice ∈ field.choices)
    (items : choice.1.items = some element) : choice.1 ∈ field.alternatives := by
  rcases mem_alternatives_of_mem_choices member with schema | empty
  · exact schema
  · rw [empty] at items
    cases items

/-- A choice with nested fields comes from one of the schemas of its field. -/
theorem FieldSchema.mem_alternatives_of_properties {field : FieldSchema} {fields : Properties}
    {choice : Schema × Option String} (member : choice ∈ field.choices)
    (properties : choice.1.properties = some fields) : choice.1 ∈ field.alternatives := by
  rcases mem_alternatives_of_mem_choices member with schema | empty
  · exact schema
  · rw [empty] at properties
    cases properties

namespace Compiler

variable {compiler : Compiler} {field : FieldSchema}

/-- Schemas compile to one alternative for each of their choices. -/
theorem compileSchemas_ok {schemas : List Schema} {alternatives : List Alternative}
    (h : (compileSchemas compiler schemas).value = .ok alternatives) :
    List.Forall₂ (fun choice => Yields compiler choice.1 choice.2) (Schema.choices schemas)
      alternatives := by
  induction schemas generalizing alternatives with
  | nil =>
    cases h
    exact .nil
  | cons schema rest ih =>
    unfold compileSchemas at h
    obtain ⟨first, others, first_ok, others_ok, rfl⟩ := Reported.onSuccess_map_eq_ok h
    refine List.rel_append ?_ (ih others_ok)
    rw [List.forall₂_map_left_iff]
    exact compileSchema_ok first_ok

/-- A single schema and a list of one schema compile to the same alternatives. -/
theorem compileSchemas_singleton (schema : Schema) :
    (compileSchemas compiler [schema]).value = (compileSchema compiler schema).value := by
  unfold compileSchemas Reported.onSuccess
  cases result : (compileSchema compiler schema).value with
  | error e => rfl
  | ok alternatives => simp [compileSchemas, Except.map]

/-- The alternatives of a field compile in order, and with its default they make its plan. -/
theorem compileField_eq_map :
    (compileField compiler field).value
      = (compileSchemas compiler field.alternatives).value.map (fieldPlan field) := by
  cases field with
  | single schema => rw [FieldSchema.alternatives, compileSchemas_singleton]; rfl
  | union schemas => rfl

/-- The alternative that takes every value is what the schema that says nothing yields. -/
theorem yields_passthrough : Yields compiler {} none Alternative.passthrough where
  named := rfl
  coercion := rfl
  rules := .nil
  shape := .scalar (fun _ => rfl) (fun _ => rfl)

/-- **What a field compiles to**: one alternative for each of its choices, and the first default that
its schemas declare. -/
theorem compileField_ok {plan : FieldPlan} (h : (compileField compiler field).value = .ok plan) :
    List.Forall₂ (fun choice => Yields compiler choice.1 choice.2) field.choices plan.alternatives ∧
      plan.default = field.alternatives.findSome? fun schema => schema.default := by
  rw [compileField_eq_map] at h
  obtain ⟨alternatives, compiled, rfl⟩ := map_eq_ok h
  refine ⟨?_, rfl⟩
  have yields := compileSchemas_ok compiled
  unfold FieldSchema.choices
  split
  · rename_i none
    rw [none] at yields
    cases yields
    exact .cons yields_passthrough .nil
  · rename_i some
    -- A field with schemas has choices, so its alternatives are not replaced by the one for all values.
    have nonempty : alternatives ≠ [] := by
      rintro rfl
      exact Schema.choices_ne_nil some (List.forall₂_nil_right_iff.mp yields)
    simpa [fieldPlan, FieldPlan.alternatives, nonempty] using yields

/-- The named fields of a record compile in order. -/
theorem compileFields_ok {fields : Properties} {form : FormPlan}
    (h : (compileFields compiler fields).value = .ok form) :
    List.Forall₂ (fun declared planned => declared.1 = planned.1 ∧
      (compileField compiler declared.2).value = .ok planned.2) fields form := by
  induction fields generalizing form with
  | nil =>
    cases h
    exact .nil
  | cons declared rest ih =>
    obtain ⟨name, field⟩ := declared
    unfold compileFields at h
    obtain ⟨plan, others, plan_ok, others_ok, rfl⟩ := Reported.onSuccess_map_eq_ok h
    exact .cons ⟨rfl, plan_ok⟩ (ih others_ok)

/-- Every alternative of a compiled field is what one of its choices yields. -/
theorem exists_choice {plan : FieldPlan} {alternative : Alternative}
    (h : (compileField compiler field).value = .ok plan) (member : alternative ∈ plan.alternatives) :
    ∃ choice ∈ field.choices, Yields compiler choice.1 choice.2 alternative :=
  exists_mem_of_forall₂ (compileField_ok h).1 member

/-- Every plan of a compiled record is that of a field declared under the same name. -/
theorem exists_declared {fields : Properties} {form : FormPlan} {planned : String × FieldPlan}
    (h : (compileFields compiler fields).value = .ok form) (member : planned ∈ form) :
    ∃ declared ∈ fields, declared.1 = planned.1 ∧
      (compileField compiler declared.2).value = .ok planned.2 :=
  exists_mem_of_forall₂ (compileFields_ok h) member

/-- Every declared field has a plan under its name. -/
theorem exists_planned {fields : Properties} {form : FormPlan} {name : String}
    (h : (compileFields compiler fields).value = .ok form) (declared : (name, field) ∈ fields) :
    ∃ plan, (name, plan) ∈ form ∧ (compileField compiler field).value = .ok plan := by
  obtain ⟨⟨_, plan⟩, listed, rfl, plan_ok⟩ :=
    exists_mem_of_forall₂ (compileFields_ok h).flip declared
  exact ⟨plan, listed, plan_ok⟩

/-- The names of a compiled record are those that were declared, in order. -/
theorem names_eq {fields : Properties} {form : FormPlan}
    (h : (compileFields compiler fields).value = .ok form) : form.names = fields.map Prod.fst := by
  have correspond := compileFields_ok h
  clear h
  induction correspond with
  | nil => rfl
  | cons declared _ ih => exact congrArg₂ List.cons declared.1.symm ih

/-- Distinct names stay distinct. -/
theorem nodup_names {fields : Properties} {form : FormPlan}
    (h : (compileFields compiler fields).value = .ok form)
    (distinct : (fields.map Prod.fst).Nodup) : form.names.Nodup := by
  rw [names_eq h]
  exact distinct

/-! ## Everything within a compiled field is compiled -/

/-- The parts of a compiled field are compiled from parts of its schema. -/
theorem compiled_of_part {plan part : FieldPlan} (h : (compileField compiler field).value = .ok plan)
    (below : part.Part plan) :
    ∃ source : FieldSchema, source.Part field ∧ (compileField compiler source).value = .ok part := by
  cases below with
  | element member shape =>
    obtain ⟨choice, offered, yields⟩ := exists_choice h member
    have shapes := yields.shape
    rw [shape] at shapes
    cases shapes with
    | items type items compiled =>
      have schema := FieldSchema.mem_alternatives_of_items offered items
      exact ⟨_, .element schema items, compiled⟩
  | nested member shape planned =>
    obtain ⟨choice, offered, yields⟩ := exists_choice h member
    have shapes := yields.shape
    rw [shape] at shapes
    cases shapes with
    | record properties type compiled =>
      obtain ⟨declared, nested, -, source⟩ := exists_declared compiled planned
      have schema := FieldSchema.mem_alternatives_of_properties offered properties
      exact ⟨_, .nested schema properties nested, source⟩

/-- Whatever stands within a compiled field is compiled from a schema itself. -/
theorem compiled_of_within {plan inner : FieldPlan}
    (h : (compileField compiler field).value = .ok plan) (within : inner.Within plan) :
    ∃ source : FieldSchema, (compileField compiler source).value = .ok inner := by
  induction within using Relation.ReflTransGen.head_induction_on with
  | refl => exact ⟨field, h⟩
  | head part _ ih =>
    obtain ⟨source, compiled⟩ := ih
    obtain ⟨deeper, -, compiled⟩ := compiled_of_part compiled part
    exact ⟨deeper, compiled⟩

/-- Whatever stands within a compiled record is compiled from a schema itself. -/
theorem compiled_of_holds {fields : Properties} {form : FormPlan} {plan : FieldPlan}
    (h : (compileFields compiler fields).value = .ok form) (holds : form.Holds plan) :
    ∃ source : FieldSchema, (compileField compiler source).value = .ok plan := by
  obtain ⟨planned, member, within⟩ := holds
  obtain ⟨declared, -, -, compiled⟩ := exists_declared h member
  exact compiled_of_within compiled within

end Compiler

end Intake
