import Intake.Proofs.Alternatives
import Intake.Proofs.Isolation

/-!
# Sanitizing twice

Where every field has one alternative and the names of fields are distinct, at every depth, sanitizing
a record again changes nothing. The reason is the same at every depth: if a field has resolved a value,
it either refuses the result, which then is kept, or resolves it to itself (`FieldPlan.Stable`). Rules
may refuse in the second run what they accepted in the first, since they see the elements of an array
after these have been sanitized; the array is kept as it is then.
-/

set_option autoImplicit false

namespace Intake

open Compiler (builtin)

variable {field : FieldSchema} {plan : FieldPlan} {value result again : Value} {key : String}
  {record : Record}

/-! ## Schemas without choices -/

/-- A field schema that leaves no choice at any depth: it has one alternative at most, each with one
type name at most, and the names of nested fields are distinct. -/
inductive FieldSchema.Unambiguous : FieldSchema → Prop
  /-- What holds of the field itself, and the same for its parts. -/
  | intro {field : FieldSchema} (alternatives : field.alternatives.length ≤ 1)
      (types : ∀ schema ∈ field.alternatives, (Schema.typeNames schema).length ≤ 1)
      (names : ∀ schema ∈ field.alternatives, ∀ fields : Properties,
        schema.properties = some fields → (fields.map Prod.fst).Nodup)
      (parts : ∀ part : FieldSchema, part.Part field → Unambiguous part) :
      Unambiguous field

/-- Named fields that leave no choice: their names are distinct, and so it is at every depth. -/
structure Properties.Unambiguous (fields : Properties) : Prop where
  /-- The names are distinct. -/
  names : (fields.map Prod.fst).Nodup
  /-- No field leaves a choice. -/
  fields : ∀ declared ∈ fields, declared.2.Unambiguous

/-- A single schema leaves no choice if it has one type name at most and neither its elements nor its
nested fields leave a choice. -/
theorem FieldSchema.Unambiguous.single {schema : Schema} (types : schema.typeNames.length ≤ 1)
    (items : ∀ element, schema.items = some element → element.Unambiguous)
    (properties : ∀ fields : Properties, schema.properties = some fields → fields.Unambiguous) :
    (FieldSchema.single schema).Unambiguous := by
  have only : ∀ other ∈ (FieldSchema.single schema).alternatives, other = schema :=
    fun other member => List.mem_singleton.mp member
  refine .intro (Nat.le_refl 1) ?_ ?_ ?_
  · intro other member
    rw [only other member]
    exact types
  · intro other member fields nested
    rw [only other member] at nested
    exact (properties fields nested).names
  · intro part below
    cases below with
    | element alternative found =>
      rw [only _ alternative] at found
      exact items _ found
    | nested alternative found member =>
      rw [only _ alternative] at found
      exact (properties _ found).fields _ member

/-- A field that leaves no choice offers a single one. -/
theorem FieldSchema.exists_choices_eq (alternatives : field.alternatives.length ≤ 1)
    (types : ∀ schema ∈ field.alternatives, (Schema.typeNames schema).length ≤ 1) :
    ∃ choice, field.choices = [choice] := by
  unfold FieldSchema.choices
  match listed : field.alternatives with
  | [] => exact ⟨_, rfl⟩
  | [schema] =>
    have few := types schema (by simp [listed])
    unfold Schema.choices Compiler.alternativeTypes
    match names : schema.typeNames with
    | [] => exact ⟨(schema, none), by simp [names]⟩
    | [name] => exact ⟨(schema, some name), by simp [names]⟩
    | _ :: _ :: _ => simp [names] at few
  | _ :: _ :: _ => simp [listed] at alternatives

/-! ## A second run of one field -/

/-- What a field has resolved a value to, it refuses or resolves to itself. -/
def FieldPlan.Stable (plan : FieldPlan) : Prop :=
  ∀ (value result again : Value) (key : String) (record : Record),
    plan.resolve value key record = .ok result → plan.resolve result key record = .ok again →
      again = result

/-- What becomes of a value that is not null is not null. -/
theorem become_ne_null [Engines] (compiled : (builtin.compileField field).value = .ok plan)
    (nonnull : value ≠ .null) : plan.become value key record ≠ .null := by
  unfold FieldPlan.become
  rw [if_neg fun null => nonnull (isNull_iff.mp null)]
  cases outcome : plan.resolve value key record with
  | ok result => exact Compiler.resolve_ne_null compiled nonnull outcome
  | error cause => exact nonnull

/-- **What becomes of a value stays as it is**: a stable field keeps it or resolves it to itself. -/
theorem become_become [Engines] (compiled : (builtin.compileField field).value = .ok plan)
    (stable : plan.Stable) (value : Value) (key₁ key₂ : String) (record₁ record₂ : Record) :
    plan.become (plan.become value key₁ record₁) key₂ record₂ = plan.become value key₁ record₁ := by
  by_cases null : value.isNull
  · simp [FieldPlan.become, null]
  · -- The keys and the records do not matter, so the first run may be read under those of the second.
    have congr (value : Value) :
        plan.resolve value key₁ record₁ = plan.resolve value key₂ record₂ :=
      Compiler.resolve_congr compiled value
    cases first : plan.resolve value key₁ record₁ with
    | error cause =>
      simp [FieldPlan.become, null, first, ← congr]
    | ok result =>
      have became : plan.become value key₁ record₁ = result := by
        simp [FieldPlan.become, null, first]
      rw [became]
      unfold FieldPlan.become
      split
      · rfl
      · cases second : plan.resolve result key₂ record₂ with
        | error cause => rfl
        | ok again => exact stable value result again key₁ record₁ first (congr result ▸ second)

/-- What becomes of an effective input is an effective input itself. -/
theorem effectiveInput_become [Engines] (compiled : (builtin.compileField field).value = .ok plan)
    {input : Option Value} (effective : effectiveInput plan.default input = some value) :
    effectiveInput plan.default (some (plan.become value key record))
      = some (plan.become value key record) := by
  by_cases null : value = .null
  · have kept : plan.become value key record = value := by simp [FieldPlan.become, null, Value.isNull]
    rw [kept]
    exact effectiveInput_again effective
  · exact effectiveInput_of_ne_null _ (become_ne_null compiled null)

/-- What a field has been sanitized to is sanitized to itself, under any key and in any record. -/
theorem sanitize_become [Engines] (compiled : (builtin.compileField field).value = .ok plan)
    (stable : plan.Stable) {input : Option Value}
    (effective : effectiveInput plan.default input = some value) (key₁ key₂ : String)
    (record₁ record₂ : Record) :
    (plan.sanitize (some (plan.become value key₁ record₁)) key₂ record₂).value
      = some (plan.become value key₁ record₁) := by
  rw [FieldPlan.sanitize_eq_map, effectiveInput_become compiled effective, Option.map_some,
    become_become compiled stable]

/-- An element that has been sanitized is attempted again with the same result, if that succeeds. -/
theorem attempt_again [Engines] (compiled : (builtin.compileField field).value = .ok plan)
    (stable : plan.Stable) {element : Value} {first second : Option Value}
    (h : (plan.attempt (some element) key record).value = .ok first)
    (h' : (plan.attempt (some (first.getD .null)) key record).value = .ok second) :
    second.getD .null = first.getD .null := by
  -- An attempt that succeeds gives what sanitizing gives.
  obtain ⟨value, effective⟩ := exists_effectiveInput plan.default element
  have first_eq := FieldPlan.sanitize_value plan (some element) key record
  rw [h, FieldPlan.sanitize_eq_map, effective, Option.map_some] at first_eq
  subst first_eq
  have second_eq := FieldPlan.sanitize_value plan (some (plan.become value key record)) key record
  rw [Option.getD_some] at h'
  rw [h', sanitize_become compiled stable effective] at second_eq
  exact congrArg (Option.getD · .null) second_eq.symm

/-- **A field writes again what it has written**: where a record holds at the name of a field what that
field has written, the field writes the same once more. -/
theorem entry_again [Engines] (compiled : (builtin.compileField field).value = .ok plan)
    (stable : plan.Stable) {name : String} {input output : Record}
    (held : Record.get? output name = plan.entry name input) :
    plan.entry name output = plan.entry name input := by
  cases wrote : plan.entry name input with
  | none =>
    -- A field that has written nothing was missing, and so it is now.
    rw [← wrote]
    exact Compiler.entry_congr compiled
      ((held.trans wrote).trans (FieldPlan.get?_of_entry_eq_none wrote).symm)
  | some result =>
    obtain ⟨value, effective, rfl⟩ := FieldPlan.entry_eq_some wrote
    unfold FieldPlan.entry
    rw [held, wrote, sanitize_become compiled stable effective]
    rfl

/-- **A second run of a form changes nothing** if its names are distinct and its fields stable. -/
theorem sanitize_again [Engines] {form : FormPlan} (distinct : form.names.Nodup)
    (fields : ∀ planned ∈ form, planned.2.Stable ∧
      ∃ field, (builtin.compileField field).value = .ok planned.2) (input : Record) :
    (form.sanitize (form.sanitize input).value).value = (form.sanitize input).value := by
  rw [FormPlan.sanitize_eq_entries distinct, FormPlan.sanitize_eq_entries distinct]
  apply List.filterMap_congr
  intro planned member
  obtain ⟨stable, field, compiled⟩ := fields planned member
  have held : Record.get? (form.entries input) planned.1 = planned.2.entry planned.1 input := by
    rw [← FormPlan.sanitize_eq_entries distinct]
    have found : Record.get? (form.sanitize input).value planned.1
        = (planned.2.entry planned.1 input).or none := get?_sanitizeFields_of_mem distinct member
    exact found.trans Option.or_none
  have again := entry_again compiled stable held
  exact congrArg (Option.map (planned.1, ·)) again

/-! ## A second run at every depth -/

/-- Elements that have been sanitized are sanitized to themselves. -/
theorem elements_again [Engines] (compiled : (builtin.compileField field).value = .ok plan)
    (stable : plan.Stable) {elements results agains : List Value}
    (first : List.Forall₂ (fun element result => ∃ sanitized,
      (plan.attempt (some element) key record).value = .ok sanitized ∧
        sanitized.getD .null = result) elements results)
    (second : List.Forall₂ (fun element result => ∃ sanitized,
      (plan.attempt (some element) key record).value = .ok sanitized ∧
        sanitized.getD .null = result) results agains) : agains = results := by
  induction first generalizing agains with
  | nil =>
    cases second
    rfl
  | cons one _ ih =>
    cases second with
    | cons again others =>
      obtain ⟨before, first_ok, rfl⟩ := one
      obtain ⟨after, second_ok, rfl⟩ := again
      rw [attempt_again compiled stable first_ok second_ok, ih others]

/-- Sanitizing the parts of a value once more gives the same if it does so for elements and for nested
fields. -/
theorem Sanitizes.twice [Engines] {shape : Shape FieldPlan} {coerced : Value}
    (elements : ∀ plan, shape = .items plan → plan.Stable ∧
      ∃ field, (builtin.compileField field).value = .ok plan)
    (nested : ∀ fields, shape = .record fields → ∀ input : Record,
      (FormPlan.sanitize fields (FormPlan.sanitize fields input).value).value
        = (FormPlan.sanitize fields input).value)
    (first : Sanitizes key record shape coerced result)
    (second : Sanitizes key record shape result again) : again = result := by
  cases first with
  | scalar =>
    cases second
    rfl
  | items each =>
    cases second with
    | items eachAgain =>
      obtain ⟨stable, field, compiled⟩ := elements _ rfl
      rw [elements_again compiled stable each eachAgain]
  | record entries =>
    cases second
    rw [nested _ rfl]

/-- **A field that leaves no choice is stable**: by induction on the schema, for its elements and its
nested fields are. -/
theorem Compiler.stable [Engines] (unambiguous : field.Unambiguous)
    (compiled : (builtin.compileField field).value = .ok plan) : plan.Stable := by
  induction unambiguous generalizing plan with
  | @intro field alternatives types names parts ih =>
    obtain ⟨choice, choices⟩ := FieldSchema.exists_choices_eq alternatives types
    have yielded := (Compiler.compileField_ok compiled).1
    rw [choices] at yielded
    obtain ⟨alternative, _, yields, rest, single⟩ := List.forall₂_cons_left_iff.mp yielded
    cases rest
    intro value result again key record first second
    rw [FieldPlan.resolve_singleton single] at first second
    obtain ⟨coerced, coerce_ok, -, parts_first⟩ := yields.attempt_ok first
    obtain ⟨coercedAgain, coerce_again, -, parts_second⟩ := yields.attempt_ok second
    -- The second coercion has nothing to do, so both runs sanitize the parts of the same value.
    have kept := yields.coerce_result coerce_ok parts_first
    obtain rfl : coercedAgain = result := Except.ok.inj (coerce_again.symm.trans kept)
    have member : alternative ∈ plan.alternatives := by rw [single]; exact List.mem_cons_self
    refine Sanitizes.twice ?_ ?_ parts_first parts_second
    · intro element shape
      obtain ⟨source, part, source_ok⟩ := Compiler.compiled_of_part compiled (.element member shape)
      exact ⟨ih source part source_ok, source, source_ok⟩
    · intro fields shape input
      have shapes := yields.shape
      rw [shape] at shapes
      cases shapes with
      | record properties type fields_ok =>
        have offered : choice ∈ field.choices := by rw [choices]; exact List.mem_cons_self
        have declared := FieldSchema.mem_alternatives_of_properties offered properties
        have distinct : (FormPlan.names fields).Nodup := by
          rw [Compiler.names_eq fields_ok]
          exact names _ declared _ properties
        apply sanitize_again distinct
        intro planned nested
        obtain ⟨source, part, source_ok⟩ :=
          Compiler.compiled_of_part compiled (.nested member shape nested)
        exact ⟨ih source part source_ok, source, source_ok⟩

/-- **Sanitizing is idempotent.** If every field has one alternative at most and names are distinct, at
every depth, then a record that has been sanitized is sanitized to itself, with the same entries in the
same order; and so is what a missing record is sanitized to. -/
theorem sanitize_idempotent [Engines] {fields : Properties} {form : FormPlan}
    (unambiguous : fields.Unambiguous) (compiled : (builtin.compile fields).value = .ok form)
    (input : Option Record) :
    (form.sanitizeOptional (some (form.sanitizeOptional input).value)).value
      = (form.sanitizeOptional input).value := by
  have fields_ok := Compiler.finishForm_ok compiled
  have distinct : form.names.Nodup := by
    rw [Compiler.names_eq fields_ok]
    exact unambiguous.names
  apply sanitize_again distinct
  intro planned member
  obtain ⟨declared, listed, -, plan_ok⟩ := Compiler.exists_declared fields_ok member
  have stable := Compiler.stable (unambiguous.fields declared listed) plan_ok
  exact ⟨stable, declared.2, plan_ok⟩

/-- The fields of an order leave no choice. -/
theorem orderFields_unambiguous : Properties.Unambiguous orderFields := by
  have integer (default : Option Value) :
      (FieldSchema.single { type := some (.one "integer"), default }).Unambiguous :=
    .single (Nat.le_refl 1) nofun nofun
  refine ⟨by decide, ?_⟩
  simp only [orderFields, List.mem_cons, List.not_mem_nil, or_false, forall_eq_or_imp, forall_eq]
  refine ⟨.single (Nat.le_refl 1) ?_ nofun, .single (Nat.zero_le 1) nofun ?_⟩
  · rintro element ⟨⟩
    exact integer none
  · rintro fields ⟨⟩
    refine ⟨by decide, ?_⟩
    simpa using integer (some (.string "18"))

/-- An order in which the same article stands twice, once as a text, and the customer is a text without
an age: the second run refuses the articles, which then stay, and finds nothing to do elsewhere. -/
theorem order_idempotent :
    let input : Record := [("customer", .string "{}"),
      ("articles", .array [.string "1", .number (.integer 1 (by decide))])]
    let output : Record := [("articles", .array [.number (.integer 1 (by decide)),
        .number (.integer 1 (by decide))]),
      ("customer", .object [("age", .number (.integer 18 (by decide)))])]
    Properties.Unambiguous orderFields ∧ (builtin.compile orderFields).value = .ok orderForm ∧
      (orderForm.sanitizeOptional (some input)).value = output ∧
      (orderForm.sanitizeOptional (some output)).value = output := by
  intro input output
  have compiled : (builtin.compile orderFields).value = .ok orderForm := rfl
  have first : (orderForm.sanitizeOptional (some input)).value = output := by cbv
  have twice := sanitize_idempotent orderFields_unambiguous compiled (some input)
  rw [first] at twice
  exact ⟨orderFields_unambiguous, compiled, first, twice⟩

end Intake
