import Intake.Proofs.Refusals
import Intake.Proofs.Reports

/-!
# What rejections and reports disclose

Values come from outside and may be secret, while rejections are shown and events are logged. Every event
of a run has a source: an alternative that has refused a value, or a field that has kept one. Its texts are
therefore the key of the caller or a declared name, a declared type name, and the wording of a rejection
that the schema lists (`FieldSchema.Logs`). The main statement, `disclosures_follow_schema`, is for
rejections and for events, of fields and of records.
-/

set_option autoImplicit false

namespace Intake

open Compiler (builtin)

/-! ## Where events come from -/

variable {event : Event} {plan : FieldPlan} {value : Value} {key : String} {record : Record}

/-- An event of several alternatives comes from within one of them, or says that it was rejected. -/
theorem mem_attemptAlternatives_events {alternatives : List Alternative} {last : Option Rejection}
    (h : event ∈ (attemptAlternatives alternatives last value key record).events) :
    ∃ alternative ∈ alternatives, event ∈ (attemptAlternative alternative value key record).events ∨
      ∃ cause, (attemptAlternative alternative value key record).value = .error cause ∧
        event = .alternativeRejected key alternative.typeName cause := by
  induction alternatives generalizing last with
  | nil => cases h
  | cons alternative rest ih =>
    rw [attemptAlternatives] at h
    cases first : (attemptAlternative alternative value key record).value with
    | ok sanitized =>
      simp only [first] at h
      exact ⟨alternative, List.mem_cons_self, Or.inl h⟩
    | error cause =>
      simp only [first, List.mem_append, List.mem_cons] at h
      rcases h with within | rejected | later
      · exact ⟨alternative, List.mem_cons_self, Or.inl within⟩
      · exact ⟨alternative, List.mem_cons_self, Or.inr ⟨cause, first, rejected⟩⟩
      · obtain ⟨other, member, source⟩ := ih later
        exact ⟨other, List.mem_cons_of_mem _ member, source⟩

/-- The events of a field are those of its alternatives on some value. -/
theorem FieldPlan.mem_attempt_events {input : Option Value}
    (h : event ∈ (plan.attempt input key record).events) :
    ∃ value, event ∈ (attemptAlternatives plan.alternatives none value key record).events := by
  obtain ⟨alternatives, default⟩ := plan
  unfold FieldPlan.attempt at h
  cases effective : effectiveInput default input with
  | none =>
    rw [effective] at h
    cases h
  | some value =>
    simp only [effective] at h
    split at h
    · cases h
    · exact ⟨value, h⟩

/-- An event of a field comes from the attempt, or says that the value was kept. -/
theorem FieldPlan.mem_sanitize_events {input : Option Value}
    (h : event ∈ (plan.sanitize input key record).events) :
    event ∈ (plan.attempt input key record).events ∨
      ∃ cause, (plan.attempt input key record).value = .error cause ∧
        event = .valueKept key cause := by
  unfold FieldPlan.sanitize settle at h
  cases outcome : (plan.attempt input key record).value with
  | ok sanitized =>
    rw [outcome] at h
    exact Or.inl h
  | error cause =>
    simp only [outcome, List.mem_append, List.mem_singleton] at h
    rcases h with within | kept
    · exact Or.inl within
    · exact Or.inr ⟨cause, rfl, kept⟩

/-- The events of elements are those of one of them. -/
theorem mem_attemptEach_events {attempt : Value → Attempt (Option Value)} {index : Nat}
    {elements : List Value} (h : event ∈ (attemptEach attempt index elements).events) :
    ∃ element ∈ elements, event ∈ (attempt element).events := by
  induction elements generalizing index with
  | nil => cases h
  | cons element rest ih =>
    rw [attemptEach] at h
    cases first : (attempt element).value with
    | error cause =>
      simp only [first] at h
      exact ⟨element, List.mem_cons_self, h⟩
    | ok sanitized =>
      simp only [first, List.mem_append] at h
      rcases h with here | later
      · exact ⟨element, List.mem_cons_self, here⟩
      · obtain ⟨other, member, source⟩ := ih later
        exact ⟨other, List.mem_cons_of_mem _ member, source⟩

/-- Coercions and rules report nothing: an event of an alternative comes from the parts of the value. -/
theorem mem_attemptAlternative_events {alternative : Alternative}
    (h : event ∈ (attemptAlternative alternative value key record).events) :
    (∃ element part, alternative.shape = .items element ∧
        event ∈ (element.attempt (some part) key record).events) ∨
      ∃ fields entries, alternative.shape = .record fields ∧
        event ∈ (FormPlan.sanitize fields entries).events := by
  obtain ⟨typeName, coercion, rules, shape⟩ := alternative
  unfold attemptAlternative at h
  split at h
  · rename_i checked _
    cases shape with
    | scalar => cases h
    | items element =>
      obtain ⟨part, -, within⟩ := mem_attemptEach_events h
      exact Or.inl ⟨element, part, rfl, within⟩
    | record fields =>
      cases checked with
      | object entries => exact Or.inr ⟨fields, entries, rfl, h⟩
      | _ => cases h
  · cases h

/-- An event of a record comes from one of its fields, under the name of that field. -/
theorem FormPlan.mem_sanitize_events {form : FormPlan} {input : Record}
    (h : event ∈ (form.sanitize input).events) :
    ∃ planned ∈ form, ∃ input' record',
      event ∈ (planned.2.sanitize input' planned.1 record').events := by
  have events : (form.sanitize input).events = _ := sanitizeFields_events form input []
  rw [events] at h
  obtain ⟨planned, member, within⟩ := List.mem_flatMap.mp h
  exact ⟨planned, member, _, _, within⟩

/-! ## What events say -/

/-- The texts of the events that a field may report under a key. -/
inductive FieldSchema.Logs [Engines] : FieldSchema → String → List (String × String) → Prop
  /-- One of the choices has been rejected. -/
  | rejected {field : FieldSchema} {key : String} {choice : Schema × Option String} {value : Value}
      {cause : Rejection} (offered : choice ∈ field.choices)
      (refuses : choice.1.Refuses choice.2 value cause) :
      Logs field key [("field", key), ("alternative", Inspect.optional (choice.2.map Inspect.quoted)),
        ("error", cause.message)]
  /-- The value has been kept. -/
  | kept {field : FieldSchema} {key : String} {value : Value} {cause : Rejection}
      (refuses : field.Refuses value cause) :
      Logs field key [("field", key), ("error", cause.message)]
  /-- Elements are reported under the key of their array. -/
  | element {field element : FieldSchema} {schema : Schema} {key : String}
      {texts : List (String × String)} (alternative : schema ∈ field.alternatives)
      (items : schema.items = some element) (logs : Logs element key texts) : Logs field key texts
  /-- Nested fields are reported under their own names. -/
  | nested {field : FieldSchema} {schema : Schema} {fields : Properties}
      {declared : String × FieldSchema} {key : String} {texts : List (String × String)}
      (alternative : schema ∈ field.alternatives) (properties : schema.properties = some fields)
      (member : declared ∈ fields) (logs : Logs declared.2 declared.1 texts) : Logs field key texts

/-- The events of attempts by a plan say no more than a field may report. -/
def FieldPlan.LogsLike [Engines] (plan : FieldPlan) (field : FieldSchema) : Prop :=
  ∀ (input : Option Value) (key : String) (record : Record),
    ∀ event ∈ (plan.attempt input key record).events, field.Logs key event.fields

namespace Compiler

variable {field : FieldSchema} {fields : Properties} {form : FormPlan}

/-- Sanitizing adds at most the rejection of the value to what the attempt reports. -/
theorem logs_sanitize [Engines] (compiled : (builtin.compileField field).value = .ok plan)
    (attempts : plan.LogsLike field) {input : Option Value}
    (h : event ∈ (plan.sanitize input key record).events) : field.Logs key event.fields := by
  rcases FieldPlan.mem_sanitize_events h with within | ⟨cause, fails, rfl⟩
  · exact attempts input key record event within
  · obtain ⟨value, -, refused⟩ := FieldPlan.attempt_error fails
    exact .kept (refusesLike compiled value key record cause refused)

/-- **A compiled field reports what its schema allows**: by induction on the schema, since the events of
elements and of nested fields are reported with those of the field. -/
theorem logsLike [Engines] (compiled : (builtin.compileField field).value = .ok plan) :
    plan.LogsLike field := by
  induction field using FieldSchema.induction generalizing plan with
  | step field ih =>
    intro input key record event member
    obtain ⟨value, reported⟩ := FieldPlan.mem_attempt_events member
    obtain ⟨alternative, listed, source⟩ := mem_attemptAlternatives_events reported
    obtain ⟨choice, offered, yields⟩ := exists_choice compiled listed
    rcases source with within | ⟨cause, fails, rfl⟩
    · have shapes := yields.shape
      rcases mem_attemptAlternative_events within with
        ⟨part, element, shape, deeper⟩ | ⟨parts, entries, shape, deeper⟩
      · rw [shape] at shapes
        cases shapes with
        | items type items part_ok =>
          have schema := FieldSchema.mem_alternatives_of_items offered items
          have logs := ih _ (.element schema items) part_ok
          exact .element schema items (logs _ key record event deeper)
      · rw [shape] at shapes
        cases shapes with
        | record properties type parts_ok =>
          have schema := FieldSchema.mem_alternatives_of_properties offered properties
          obtain ⟨planned, present, input', record', kept⟩ := FormPlan.mem_sanitize_events deeper
          obtain ⟨declared, nested, named, planned_ok⟩ := exists_declared parts_ok present
          have logs := ih declared.2 (.nested schema properties nested) planned_ok
          refine .nested schema properties nested ?_
          rw [named]
          exact logs_sanitize planned_ok logs kept
    · -- Elements of any kind are refused as their schema says.
      have refuses : choice.1.Refuses choice.2 value cause :=
        yields.refuses (fun _ _ _ part_ok => refusesLike part_ok) fails
      rw [Event.fields, yields.named]
      exact .rejected offered refuses

/-- A compiled record reports what one of its fields may report under its own name. -/
theorem logs_form [Engines] (compiled : (builtin.compileFields fields).value = .ok form) {input : Record}
    (h : event ∈ (form.sanitize input).events) :
    ∃ declared ∈ fields, declared.2.Logs declared.1 event.fields := by
  obtain ⟨planned, present, input', record', reported⟩ := FormPlan.mem_sanitize_events h
  obtain ⟨declared, member, named, planned_ok⟩ := exists_declared compiled present
  rw [← named] at reported
  exact ⟨declared, member, logs_sanitize planned_ok (logsLike planned_ok) reported⟩

end Compiler

/-- **Rejections and reports disclose nothing of the input.** Where an attempt at a field is rejected, the
rejection is one that the schema lists for the effective input, which contributes only the kinds that are
found and the places in arrays. All events of a field, and all those of a record, are made of the key of
the caller or a declared name, of a declared type name, and of the wording of such a rejection. -/
theorem disclosures_follow_schema [Engines] {field : FieldSchema} {plan : FieldPlan} {fields : Properties}
    {form : FormPlan} (field_ok : (builtin.compileField field).value = .ok plan)
    (form_ok : (builtin.compile fields).value = .ok form) :
    (∀ (input : Option Value) (key : String) (record : Record),
      (∀ cause, (plan.attempt input key record).value = .error cause →
        ∃ value, effectiveInput field.default? input = some value ∧ field.Refuses value cause) ∧
      ∀ event ∈ (plan.sanitize input key record).events, field.Logs key event.fields) ∧
    ∀ input : Record, ∀ event ∈ (form.sanitize input).events,
      ∃ declared ∈ fields, declared.2.Logs declared.1 event.fields := by
  refine ⟨?_, ?_⟩
  · intro input key record
    constructor
    · intro cause fails
      obtain ⟨value, effective, refused⟩ := FieldPlan.attempt_error fails
      rw [Compiler.default_eq field_ok] at effective
      exact ⟨value, effective, Compiler.refusesLike field_ok value key record cause refused⟩
    · intro event member
      exact Compiler.logs_sanitize field_ok (Compiler.logsLike field_ok) member
  · intro input event member
    exact Compiler.logs_form (Compiler.finishForm_ok form_ok) member

/-- Codes of an account, which are whole numbers. -/
def codesField : FieldSchema :=
  .single { type := some (.one "array"), items := some (.single { type := some (.one "integer") }) }

/-- The plan of codes. -/
def codesPlan : FieldPlan :=
  .mk [⟨some "array", some Coercion.array, [],
    .items (.mk [⟨some "integer", some Coercion.integer, [], .scalar⟩] none)⟩] none

/-- An account whose holder has to agree. -/
def accountFields : Properties :=
  [("account", .single
    { properties := some [("agrees", .single
        { rules := RuleTable.ofList [("const", .bool true)] })] })]

/-- The plan of an account. -/
def accountForm : FormPlan :=
  [("account", .mk [⟨none, some Coercion.object, [], .record [("agrees", .mk
    [⟨none, none, [Rule.ofConstraint "const" (.equal (.bool true))], .scalar⟩] none)]⟩] none)]

/-- A secret among the codes and another one in the place of an agreement are refused, and neither is
shown. -/
theorem secrets_undisclosed :
    let codes : Value := .array [.string "7", .string "secret"]
    let input : Record := [("account", .object [("agrees", .string "secret")])]
    let differs := "rule 'const' rejected the value: value differs from the constant"
    (builtin.compileField codesField).value = .ok codesPlan ∧
      (builtin.compile accountFields).value = .ok accountForm ∧
      (codesPlan.attempt (some codes) "codes" []).value
        = .error (.item 1 (.coercion "integer" .string)) ∧
      codesField.Refuses codes (.item 1 (.coercion "integer" .string)) ∧
      (accountForm.sanitize input).events.map Event.fields
        = [[("field", "agrees"), ("alternative", "None"), ("error", differs)],
          [("field", "agrees"), ("error", differs)]] ∧
      ∀ event ∈ (accountForm.sanitize input).events,
        ∃ declared ∈ accountFields, declared.2.Logs declared.1 event.fields := by
  intro codes input differs
  have codes_ok : (builtin.compileField codesField).value = .ok codesPlan := rfl
  have account_ok : (builtin.compile accountFields).value = .ok accountForm := rfl
  have fails : (codesPlan.attempt (some codes) "codes" []).value
      = .error (.item 1 (.coercion "integer" .string)) := by cbv
  have texts : (accountForm.sanitize input).events.map Event.fields
      = [[("field", "agrees"), ("alternative", "None"), ("error", differs)],
        [("field", "agrees"), ("error", differs)]] := rfl
  obtain ⟨fieldOnly, formOnly⟩ := disclosures_follow_schema codes_ok account_ok
  obtain ⟨value, effective, refuses⟩ := (fieldOnly (some codes) "codes" []).1 _ fails
  obtain rfl : codes = value := Option.some.inj effective
  exact ⟨codes_ok, account_ok, fails, refuses, texts, formOnly input⟩

end Intake
