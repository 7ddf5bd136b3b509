import Intake.Proofs.Alternatives
import Intake.Proofs.Reports

/-!
# Conforming values

What the values of a declared field look like, read off the schema alone: `FieldSchema.Conforms` says it
of a value at every depth, without a word about plans, coercions or rules. A run that keeps no refused
value gives conforming values only (`sanitized_conforms`). The induction follows the schema: what an
attempt gives has been sanitized part by part, by what the parts of the schema compile to.
-/

set_option autoImplicit false

namespace Intake

open Compiler (builtin)

/-! ## Conforming values -/

mutual

/-- The values of a declared field. -/
inductive FieldSchema.Conforms : FieldSchema → Value → Prop
  /-- Null is allowed everywhere. -/
  | null {field : FieldSchema} : FieldSchema.Conforms field .null
  /-- Other values fit one of the choices. -/
  | choice {field : FieldSchema} {choice : Schema × Option String} {value : Value}
      (offered : choice ∈ field.choices) (fits : Schema.Fits choice.1 choice.2 value) :
      FieldSchema.Conforms field value

/-- The values that fit a schema with one of its type names. -/
inductive Schema.Fits : Schema → Option String → Value → Prop
  /-- Where nested fields count, a record of declared entries. -/
  | record {schema : Schema} {typeName : Option String} {fields : Properties} {entries : Record}
      (properties : schema.properties = some fields)
      (type : typeName = none ∨ typeName = some "object")
      (declared : ∀ entry ∈ entries, Properties.Declares fields entry.1 entry.2) :
      Schema.Fits schema typeName (.object entries)
  /-- Where an element schema counts, an array of conforming elements. -/
  | array {schema : Schema} {element : FieldSchema} {elements : List Value}
      (items : schema.items = some element)
      (each : ∀ value ∈ elements, FieldSchema.Conforms element value) :
      Schema.Fits schema (some "array") (.array elements)
  /-- Where neither counts, a value of the type. -/
  | scalar {schema : Schema} {typeName : Option String} {value : Value}
      (noFields : typeName = none ∨ typeName = some "object" → schema.properties = none)
      (noElements : typeName = some "array" → schema.items = none)
      (typed : ∀ name, typeName = some name → value.HasType name) :
      Schema.Fits schema typeName value

/-- The entries that a record of named fields may have: a value of some field of that name. -/
inductive Properties.Declares : Properties → String → Value → Prop
  /-- An entry of a declared name with a conforming value. -/
  | intro {fields : Properties} {declared : String × FieldSchema} {value : Value}
      (member : declared ∈ fields) (conforms : FieldSchema.Conforms declared.2 value) :
      Properties.Declares fields declared.1 value

end

/-- Nested fields count for records and untyped values. -/
theorem Compiler.isRecordType_iff {typeName : Option String} :
    isRecordType typeName = true ↔ typeName = none ∨ typeName = some "object" := by
  simp [isRecordType]

/-! ## Runs that keep nothing -/

variable {field : FieldSchema} {plan : FieldPlan} {value result : Value} {key : String}
  {record : Record}

/-- Attempts by a plan that succeed and keep nothing give values of a field. -/
def FieldPlan.Gives (plan : FieldPlan) (field : FieldSchema) : Prop :=
  ∀ (input : Option Value) (key : String) (record : Record) (result : Value),
    (plan.attempt input key record).value = .ok (some result) →
      NothingKept (plan.attempt input key record).events → field.Conforms result

/-- A record that keeps nothing has declared entries only, if its plans give values of their fields. -/
theorem FormPlan.declares [Engines] {fields : Properties} {form : FormPlan} {input : Record}
    (compiled : (builtin.compileFields fields).value = .ok form)
    (gives : ∀ declared ∈ fields, ∀ plan,
      (builtin.compileField declared.2).value = .ok plan → plan.Gives declared.2)
    (quiet : NothingKept (form.sanitize input).events) :
    ∀ entry ∈ (form.sanitize input).value, Properties.Declares fields entry.1 entry.2 := by
  intro entry member
  obtain ⟨planned, listed, named, given⟩ := FormPlan.mem_sanitize_of_nothingKept quiet member
  obtain ⟨declared, source, same, plan_ok⟩ := Compiler.exists_declared compiled listed
  rw [← named, ← same]
  refine .intro source ?_
  rcases given with null | ⟨succeeds, kept⟩
  · rw [null]
    exact .null
  · exact gives declared source planned.2 plan_ok _ _ _ _ succeeds kept

/-- Elements that are attempted with success, keeping nothing, conform. -/
theorem FieldPlan.Gives.elements (gives : plan.Gives field) {elements results : List Value}
    (succeeds : (attemptEach (fun element => plan.attempt (some element) key record) 0
      elements).value = .ok results)
    (quiet : NothingKept (attemptEach (fun element => plan.attempt (some element) key record) 0
      elements).events) :
    ∀ result ∈ results, field.Conforms result := by
  intro result member
  obtain ⟨element, listed, sanitized, element_ok, rfl⟩ :=
    exists_mem_of_forall₂ (attemptEach_ok succeeds) member
  rw [attemptEach_events succeeds] at quiet
  cases sanitized with
  | none => exact .null
  | some result => exact gives _ _ _ _ element_ok (quiet.of_flatMap listed)

/-- **What an alternative gives fits its schema**, if the plans of its parts give values of theirs. -/
theorem Compiler.Yields.fits [Engines] {schema : Schema} {typeName : Option String}
    {alternative : Alternative} (yields : Yields builtin schema typeName alternative)
    (elements : ∀ element plan, schema.items = some element →
      (builtin.compileField element).value = .ok plan → plan.Gives element)
    (nested : ∀ fields : Properties, schema.properties = some fields → ∀ declared ∈ fields,
      ∀ plan, (builtin.compileField declared.2).value = .ok plan → plan.Gives declared.2)
    (h : (attemptAlternative alternative value key record).value = .ok result)
    (quiet : NothingKept (attemptAlternative alternative value key record).events) :
    schema.Fits typeName result := by
  obtain ⟨coerced, coerce_ok, -, parts⟩ := attemptAlternative_ok yields.isFilter h
  rw [parts] at h quiet
  -- The shape of the alternative tells which parts of the schema count.
  have shapes := yields.shape
  generalize shape : alternative.shape = parting at h quiet shapes
  cases shapes with
  | scalar noFields noElements =>
    cases h
    refine .scalar ?_ noElements ?_
    · intro type
      exact noFields (isRecordType_iff.mpr type)
    intro name named
    rcases yields.coerce_scalar shape coerce_ok with ⟨unknown, -⟩ | ⟨other, f, rfl, registered, first⟩
    · rw [named] at unknown
      exact Value.hasType_of_unknown unknown
    · cases named
      exact (TypeRegistry.coerced registered first).1
  | items type items compiled =>
    obtain ⟨values, rfl⟩ := yields.coerce_items shape coerce_ok
    obtain ⟨results, each, rfl⟩ := map_eq_ok h
    rw [type]
    exact .array items ((elements _ _ items compiled).elements each quiet)
  | record properties type compiled =>
    obtain ⟨entries, rfl⟩ := yields.coerce_record shape coerce_ok
    cases h
    have declared := FormPlan.declares compiled (nested _ properties) quiet
    exact .record properties (isRecordType_iff.mp type) declared

/-- **A compiled field gives values of its schema**: by induction on the schema, since a value is
sanitized part by part. -/
theorem Compiler.gives [Engines] (compiled : (builtin.compileField field).value = .ok plan) :
    plan.Gives field := by
  induction field using FieldSchema.induction generalizing plan with
  | step field ih =>
    intro input key record result succeeds quiet
    rcases FieldPlan.attempt_ok succeeds with rfl | ⟨alternative, member, value, given, reported⟩
    · exact .null
    · obtain ⟨choice, offered, yields⟩ := Compiler.exists_choice compiled member
      refine .choice offered (yields.fits ?_ ?_ given (quiet.mono reported))
      · intro element plan items plan_ok
        have schema := FieldSchema.mem_alternatives_of_items offered items
        exact ih element (.element schema items) plan_ok
      · intro fields properties declared listed plan plan_ok
        have schema := FieldSchema.mem_alternatives_of_properties offered properties
        exact ih declared.2 (.nested schema properties listed) plan_ok

/-- **A run that keeps nothing gives conforming values only.** If no field, at whatever depth, has kept a
value that it refused, then every entry of the sanitized record is declared, and its value conforms at
every depth. Fields may offer choices and names may be repeated. -/
theorem sanitized_conforms [Engines] {fields : Properties} {form : FormPlan}
    (compiled : (builtin.compile fields).value = .ok form) (input : Record)
    (quiet : NothingKept (form.sanitize input).events) :
    ∀ entry ∈ (form.sanitize input).value, Properties.Declares fields entry.1 entry.2 := by
  have fields_ok := Compiler.finishForm_ok compiled
  apply FormPlan.declares fields_ok
  · intro declared _ plan plan_ok
    exact Compiler.gives plan_ok
  · exact quiet

/-- The alternative of whole numbers. -/
def integerAlternative : Alternative := ⟨some "integer", some Coercion.integer, [], .scalar⟩

/-- The fields of a booking: a seat, by number or by name, and guests, each known by a number or by
an age. -/
def bookingFields : Properties :=
  [("seat", .single { type := some (.union ["integer", "string"]) }),
    ("guests", .single
      { type := some (.one "array")
        items := some (.union [{ type := some (.one "integer") },
          { properties := some [("age", .single { type := some (.one "integer") })] }]) })]

/-- The plans of the fields of a booking. -/
def bookingForm : FormPlan :=
  [("seat", .mk [integerAlternative, ⟨some "string", some Coercion.string, [], .scalar⟩] none),
    ("guests", .mk
      [⟨some "array", some Coercion.array, [], .items (.mk [integerAlternative,
        ⟨none, some Coercion.object, [], .record [("age", .mk [integerAlternative] none)]⟩] none)⟩]
      none)]

/-- A booking whose second guest is described by a record: two alternatives refuse their values, no
field does, and what is not declared is left out. -/
theorem booking_conforms :
    let input : Record := [("seat", .string "window"), ("guests", .array [.string "3",
      .object [("age", .string "41"), ("admin", .bool true)]])]
    let guests : Value := .array [.number (.integer 3 (by decide)),
      .object [("age", .number (.integer 41 (by decide)))]]
    (builtin.compile bookingFields).value = .ok bookingForm ∧
      NothingKept (bookingForm.sanitize input).events ∧
      (bookingForm.sanitize input).value = [("seat", .string "window"), ("guests", guests)] ∧
      Properties.Declares bookingFields "guests" guests := by
  intro input guests
  have compiled : (builtin.compile bookingFields).value = .ok bookingForm := rfl
  have levels : (bookingForm.sanitize input).events.map Event.level = [.trace, .trace] := by cbv
  have quiet : NothingKept (bookingForm.sanitize input).events := by
    intro field cause member
    have kept : Level.debug ∈ (bookingForm.sanitize input).events.map Event.level :=
      List.mem_map.mpr ⟨_, member, rfl⟩
    rw [levels] at kept
    simp at kept
  have output : (bookingForm.sanitize input).value
      = [("seat", .string "window"), ("guests", guests)] := by cbv
  have conforms := sanitized_conforms compiled input quiet
  rw [output] at conforms
  exact ⟨compiled, quiet, output, conforms _ (List.mem_cons_of_mem _ List.mem_cons_self)⟩

end Intake
