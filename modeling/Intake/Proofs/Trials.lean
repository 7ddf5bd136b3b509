import Intake.Proofs.Refusals

/-!
# Trials of alternatives

The alternatives of a field are tried one after the other. A trial reports what the attempt at the
alternative reports, and then, if it was refused, that it was (`Alternative.trial`). Refused alternatives at
the front leave the result to those after them and put their own trials before the events of these
(`attemptAlternatives_append`), so the first alternative that succeeds gives the result, and its trial is
the last one (`attemptAlternatives_first`).

A field has one alternative for each type name of each of its schemas, and never none
(`FieldSchema.length_choices`). So it passes on the rejection of its only alternative or says how many have
refused, at least two (`Trials`). An attempt at a compiled field comes to that, with all events
(`trials_in_order`).
-/

set_option autoImplicit false

namespace Intake

variable {alternative : Alternative} {alternatives refused rest : List Alternative}
  {last : Option Rejection} {value result : Value} {cause : Rejection} {key : String} {record : Record}

/-! ## Trials -/

namespace Reported

variable {α : Type}

/-- A computation whose events follow the given ones. -/
def after (x : Reported α) (events : List Event) : Reported α :=
  ⟨x.value, events ++ x.events⟩

/-- Events put before a report twice are put before it in a row. -/
theorem after_after (x : Reported α) (events events' : List Event) :
    (x.after events').after events = x.after (events ++ events') := by
  simp only [after, List.append_assoc]

end Reported

namespace Alternative

/-- An alternative refuses a value. -/
def Refuses (alternative : Alternative) (value : Value) (key : String) (record : Record) : Prop :=
  ∃ cause, (attemptAlternative alternative value key record).value = .error cause

/-- The events of a trial: those of the attempt, and one more if the value is refused. -/
def trial (value : Value) (key : String) (record : Record) (alternative : Alternative) : List Event :=
  let outcome := attemptAlternative alternative value key record
  match outcome.value with
  | .ok _ => outcome.events
  | .error cause => outcome.events ++ [.alternativeRejected key alternative.typeName cause]

end Alternative

/-- An alternative that succeeds ends the trials. -/
theorem attemptAlternatives_cons_ok
    (succeeds : (attemptAlternative alternative value key record).value = .ok result) :
    attemptAlternatives (alternative :: rest) last value key record
      = ⟨.ok result, alternative.trial value key record⟩ := by
  simp only [attemptAlternatives, Alternative.trial, succeeds]

/-- After an alternative that fails the others are tried. -/
theorem attemptAlternatives_cons_error
    (fails : (attemptAlternative alternative value key record).value = .error cause) :
    attemptAlternatives (alternative :: rest) last value key record
      = (attemptAlternatives rest (some cause) value key record).after
          (alternative.trial value key record) := by
  simp only [attemptAlternatives, Alternative.trial, Reported.after, fails, List.append_assoc,
    List.singleton_append]

/-- Refused alternatives leave the result to the others, and are reported before them. -/
theorem attemptAlternatives_append (rest : List Alternative) (last : Option Rejection)
    (fail : ∀ alternative ∈ refused, alternative.Refuses value key record) :
    ∃ last', attemptAlternatives (refused ++ rest) last value key record
      = (attemptAlternatives rest last' value key record).after
          (refused.flatMap (Alternative.trial value key record)) := by
  induction refused generalizing last with
  | nil => exact ⟨last, rfl⟩
  | cons alternative later ih =>
    obtain ⟨cause, fails⟩ := fail alternative List.mem_cons_self
    obtain ⟨last', others⟩ := ih (some cause) fun other member =>
      fail other (List.mem_cons_of_mem _ member)
    refine ⟨last', ?_⟩
    rw [List.cons_append, attemptAlternatives_cons_error fails, others, Reported.after_after,
      List.flatMap_cons]

/-- Some alternative is the first that does not refuse the value, or all of them refuse it. -/
theorem exists_first (alternatives : List Alternative) (value : Value) (key : String)
    (record : Record) :
    (∃ refused first rest result, alternatives = refused ++ first :: rest ∧
        (∀ alternative ∈ refused, Alternative.Refuses alternative value key record) ∧
        (attemptAlternative first value key record).value = .ok result) ∨
      ∀ alternative ∈ alternatives, alternative.Refuses value key record := by
  induction alternatives with
  | nil => exact Or.inr fun alternative member => absurd member List.not_mem_nil
  | cons alternative later ih =>
    cases outcome : (attemptAlternative alternative value key record).value with
    | ok result => exact Or.inl ⟨[], alternative, later, result, rfl, nofun, outcome⟩
    | error cause =>
      have fails : alternative.Refuses value key record := ⟨cause, outcome⟩
      rcases ih with ⟨refused, first, rest, result, split, fail, succeeds⟩ | fail
      · refine Or.inl ⟨alternative :: refused, first, rest, result, ?_, ?_, succeeds⟩
        · rw [split, List.cons_append]
        · exact List.forall_mem_cons.mpr ⟨fails, fail⟩
      · exact Or.inr (List.forall_mem_cons.mpr ⟨fails, fail⟩)

/-- **The first alternative that succeeds** gives the result, and is the last one that is tried. -/
theorem attemptAlternatives_first {first : Alternative} (rest : List Alternative)
    (last : Option Rejection)
    (fail : ∀ alternative ∈ refused, alternative.Refuses value key record)
    (succeeds : (attemptAlternative first value key record).value = .ok result) :
    attemptAlternatives (refused ++ first :: rest) last value key record
      = ⟨.ok result, (refused ++ [first]).flatMap (Alternative.trial value key record)⟩ := by
  obtain ⟨last', split⟩ := attemptAlternatives_append (first :: rest) last fail
  rw [split, attemptAlternatives_cons_ok succeeds, List.flatMap_append, List.flatMap_singleton]
  rfl

/-- If all alternatives refuse the value, all of them are tried. -/
theorem attemptAlternatives_refused (last : Option Rejection)
    (fail : ∀ alternative ∈ refused, alternative.Refuses value key record) :
    ∃ last', attemptAlternatives refused last value key record
      = ⟨.error last', refused.flatMap (Alternative.trial value key record)⟩ := by
  obtain ⟨last', split⟩ := attemptAlternatives_append [] last fail
  refine ⟨last', ?_⟩
  rw [List.append_nil] at split
  rw [split, attemptAlternatives, Reported.after, Reported.value_quiet, Reported.events_quiet,
    List.append_nil]

/-! ## Fields -/

namespace FieldPlan

variable {plan : FieldPlan} {input : Option Value} {sanitized : Option Value} {events : List Event}

/-- An attempt at a field tries its alternatives on the effective input. -/
theorem attempt_eq (effective : effectiveInput plan.default input = some value)
    (nonnull : value ≠ .null) (key : String) (record : Record) :
    plan.attempt input key record = ⟨(plan.resolve value key record).map some,
      (attemptAlternatives plan.alternatives none value key record).events⟩ := by
  have null : value.isNull = false := eq_false_of_ne_true (mt isNull_iff.mp nonnull)
  obtain ⟨alternatives, default⟩ := plan
  rw [FieldPlan.attempt, show effectiveInput default input = some value from effective]
  simp only [null, Bool.false_eq_true, if_false, FieldPlan.resolve, FieldPlan.alternatives,
    Reported.map]
  cases (attemptAlternatives alternatives none value key record).value <;> rfl

/-- What is attempted with success is kept. -/
theorem sanitize_of_ok (outcome : plan.attempt input key record = ⟨.ok sanitized, events⟩) :
    plan.sanitize input key record = ⟨sanitized, events⟩ := by
  rw [sanitize, settle, outcome]

/-- What fails leaves the input or the default, and is reported. -/
theorem sanitize_of_error (outcome : plan.attempt input key record = ⟨.error cause, events⟩) :
    plan.sanitize input key record
      = ⟨effectiveInput plan.default input, events ++ [.valueKept key cause]⟩ := by
  rw [sanitize, settle, outcome]

end FieldPlan

/-- How many alternatives a field has: one for each type name, and one for each schema without any. A field
without schemas has one as well. -/
def FieldSchema.ways (field : FieldSchema) : ℕ :=
  match field.alternatives with
  | [] => 1
  | schemas => (schemas.map fun schema => max 1 schema.typeNames.length).sum

/-- The choices of a field are its ways to be tried. -/
theorem FieldSchema.length_choices (field : FieldSchema) : field.choices.length = field.ways := by
  have names (schema : Schema) :
      (Compiler.alternativeTypes schema).length = max 1 schema.typeNames.length := by
    unfold Compiler.alternativeTypes
    cases schema.typeNames with
    | nil => rfl
    | cons name names => simp
  unfold FieldSchema.choices FieldSchema.ways
  cases field.alternatives with
  | nil => rfl
  | cons schema schemas => simp [Schema.choices, List.length_flatMap, names]

/-- There is one way at least. -/
theorem FieldSchema.ways_pos (field : FieldSchema) : 0 < field.ways := by
  rw [← length_choices]
  exact List.length_pos_of_ne_nil field.choices_ne_nil

/-- What trying the alternatives of a field in order comes to, a result and events. -/
inductive Trials (alternatives : List Alternative) (value : Value) (key : String) (record : Record) :
    Except Rejection Value → List Event → Prop
  /-- An alternative takes the value, and all before it refuse. -/
  | taken {refused rest : List Alternative} {first : Alternative} {result : Value}
      (split : alternatives = refused ++ first :: rest)
      (fail : ∀ alternative ∈ refused, alternative.Refuses value key record)
      (succeeds : (attemptAlternative first value key record).value = .ok result) :
      Trials alternatives value key record (.ok result)
        ((refused ++ [first]).flatMap (Alternative.trial value key record))
  /-- The only alternative refuses the value. -/
  | refused {alternative : Alternative} {cause : Rejection} (single : alternatives = [alternative])
      (fails : (attemptAlternative alternative value key record).value = .error cause) :
      Trials alternatives value key record (.error cause) (alternative.trial value key record)
  /-- Several alternatives all refuse the value. -/
  | exhausted (several : 2 ≤ alternatives.length)
      (fail : ∀ alternative ∈ alternatives, alternative.Refuses value key record) :
      Trials alternatives value key record (.error (.unionExhausted alternatives.length))
        (alternatives.flatMap (Alternative.trial value key record))

/-- Resolving a value tries the alternatives of the field, of which there is at least one. -/
theorem FieldPlan.resolve_trials {plan : FieldPlan} (nonempty : plan.alternatives ≠ []) (value : Value)
    (key : String) (record : Record) :
    Trials plan.alternatives value key record (plan.resolve value key record)
      (attemptAlternatives plan.alternatives none value key record).events := by
  rcases exists_first plan.alternatives value key record with
    ⟨refused, first, rest, result, split, fail, succeeds⟩ | fail
  · have tried := attemptAlternatives_first rest none fail succeeds
    rw [FieldPlan.resolve, split, tried]
    exact .taken rfl fail succeeds
  · obtain ⟨last, tried⟩ := attemptAlternatives_refused none fail
    obtain ⟨cause, refuses⟩ : ∃ cause, plan.resolve value key record = .error cause := by
      rw [FieldPlan.resolve, tried]
      exact ⟨_, rfl⟩
    rw [refuses, tried]
    rcases FieldPlan.resolve_error refuses with ⟨alternative, single, fails⟩ | ⟨several, rfl⟩
    · rw [single, List.flatMap_singleton]
      exact .refused rfl fails
    · have positive := List.length_pos_of_ne_nil nonempty
      exact .exhausted (by omega) fail

/-- **The alternatives of a field are tried in order.** There is one for each of its choices. An attempt at
an effective input other than null comes to what trying them comes to. Sanitizing adds an event exactly if
the attempt is rejected, and then keeps the effective input. -/
theorem trials_in_order {compiler : Compiler} {field : FieldSchema} {plan : FieldPlan}
    (compiled : (compiler.compileField field).value = .ok plan) {input : Option Value} {value : Value}
    (effective : effectiveInput field.default? input = some value) (nonnull : value ≠ .null)
    (key : String) (record : Record) :
    List.Forall₂ (fun choice => compiler.Yields choice.1 choice.2) field.choices plan.alternatives ∧
      plan.alternatives.length = field.ways ∧
      ∃ outcome events, Trials plan.alternatives value key record outcome events ∧
        plan.attempt input key record = ⟨outcome.map some, events⟩ ∧
        (∀ result, outcome = .ok result → plan.sanitize input key record = ⟨some result, events⟩) ∧
        ∀ cause, outcome = .error cause →
          plan.sanitize input key record = ⟨some value, events ++ [.valueKept key cause]⟩ := by
  obtain ⟨yields, default⟩ := Compiler.compileField_ok compiled
  have length : plan.alternatives.length = field.ways := by
    rw [← yields.length_eq, field.length_choices]
  have nonempty : plan.alternatives ≠ [] := by
    intro empty
    rw [empty] at length
    exact field.ways_pos.ne length
  rw [FieldSchema.default?, ← default] at effective
  have attempted := FieldPlan.attempt_eq effective nonnull key record
  refine ⟨yields, length, _, _, FieldPlan.resolve_trials nonempty value key record, attempted, ?_, ?_⟩
  · intro result taken
    rw [taken] at attempted
    exact FieldPlan.sanitize_of_ok attempted
  · intro cause refuses
    rw [refuses] at attempted
    rw [FieldPlan.sanitize_of_error attempted, effective]

/-- Due dates: integers, one or several, or points in time. -/
def dueField : FieldSchema :=
  .union [{ type := some (.one "array"), items := some (.single { type := some (.one "integer") }) },
    { type := some (.union ["integer", "date"]) }]

/-- What due dates compile to. -/
def duePlan : FieldPlan :=
  let integers : FieldPlan := .mk [⟨some "integer", some Coercion.integer, [], .scalar⟩] none
  .mk [⟨some "array", some Coercion.array, [], .items integers⟩,
    ⟨some "integer", some Coercion.integer, [], .scalar⟩,
    ⟨some "date", some Coercion.date, [], .scalar⟩] none

/-- A word is refused as a list, after its only element has been, and then by both type names of the second
schema. -/
theorem due_word_refused :
    let word := Value.string "soon"
    (Compiler.builtin.compileField dueField).value = .ok duePlan ∧
      effectiveInput dueField.default? (some word) = some word ∧ word ≠ .null ∧
      dueField.ways = 3 ∧
      duePlan.sanitize (some word) "due" [] = ⟨some word,
        [.alternativeRejected "due" (some "integer") (.coercion "integer" .string),
          .alternativeRejected "due" (some "array") (.item 0 (.coercion "integer" .string)),
          .alternativeRejected "due" (some "integer") (.coercion "integer" .string),
          .alternativeRejected "due" (some "date") (.coercion "date" .string),
          .valueKept "due" (.unionExhausted 3)]⟩ := by
  intro word
  have compiled : (Compiler.builtin.compileField dueField).value = .ok duePlan := rfl
  have effective : effectiveInput dueField.default? (some word) = some word := rfl
  have refusal : (duePlan.attempt (some word) "due" []).value = .error (.unionExhausted 3) := rfl
  have reported : (duePlan.attempt (some word) "due" []).events =
      [.alternativeRejected "due" (some "integer") (.coercion "integer" .string),
        .alternativeRejected "due" (some "array") (.item 0 (.coercion "integer" .string)),
        .alternativeRejected "due" (some "integer") (.coercion "integer" .string),
        .alternativeRejected "due" (some "date") (.coercion "date" .string)] := by decide +kernel
  obtain ⟨-, count, outcome, events, -, attempted, -, kept⟩ :=
    trials_in_order compiled effective nofun "due" []
  rw [attempted] at refusal reported
  have refuses := kept _ (map_eq_error refusal)
  rw [show events = _ from reported] at refuses
  exact ⟨compiled, effective, nofun, count.symm, refuses⟩

end Intake
