import Intake.Proofs.Idempotence
import Intake.Proofs.Refusals

/-!
# Filling in defaults

A declared field that is missing or null takes its default, and so one may write the defaults into a
record before it is sanitized (`Properties.fill`). With the built-in types and rules and distinct names
that makes no difference (`sanitize_fill`). A field whose default has been filled in is present now and
is written whatever becomes of it, while before it was written only if something other than null became
of the default; but nothing other than null becomes null. What is filled in also changes the record that
the rules of all fields are given, which built-in rules do not look at.
-/

set_option autoImplicit false

namespace Intake

open Compiler (builtin)

variable {field : FieldSchema} {plan : FieldPlan} {fields : Properties} {form : FormPlan}
  {name : String} {record filled : Record} {input : Option Value} {default : Value}

/-! ## Records with their defaults -/

/-- What is filled in for a field: its default, where the input is missing or null and the default is
not null. -/
def FieldSchema.filling (field : FieldSchema) (input : Option Value) : Option Value :=
  if (input.getD .null).isNull then field.default?.filter fun default => !default.isNull else none

/-- The record with the defaults of the declared fields filled in. -/
def Properties.fill : Properties → Record → Record
  | [], record => record
  | (name, field) :: rest, record =>
    fill rest (Record.write record name (field.filling (Record.get? record name)))

/-- A default is filled in for an input that is missing or null, unless the default is null as well. -/
theorem FieldSchema.filling_eq_some (h : field.filling input = some default) :
    (input = none ∨ input = some .null) ∧ field.default? = some default ∧ default ≠ .null := by
  unfold FieldSchema.filling at h
  split at h
  · rename_i empty
    obtain ⟨declared, nonnull⟩ := Option.filter_eq_some_iff.mp h
    have missing : input = none ∨ input = some .null := by
      cases input with
      | none => exact Or.inl rfl
      | some value => exact Or.inr (congrArg some (isNull_iff.mp empty))
    refine ⟨missing, declared, ?_⟩
    rintro rfl
    simp [Value.isNull] at nonnull
  · cases h

/-- A name that is not declared keeps what it has. -/
theorem Properties.get?_fill_of_not_mem (undeclared : name ∉ fields.map Prod.fst) :
    Record.get? (fields.fill record) name = Record.get? record name := by
  induction fields generalizing record with
  | nil => rfl
  | cons declared rest ih =>
    obtain ⟨key, field⟩ := declared
    simp only [List.map_cons, List.mem_cons, not_or] at undeclared
    rw [Properties.fill, ih undeclared.2, Record.get?_write_of_ne _ _ undeclared.1]

/-- A declared name has its default now, if that is filled in, and else what it had. -/
theorem Properties.get?_fill_of_mem (distinct : (fields.map Prod.fst).Nodup)
    (declared : (name, field) ∈ fields) :
    Record.get? (fields.fill record) name
      = (field.filling (Record.get? record name)).or (Record.get? record name) := by
  induction fields generalizing record with
  | nil => cases declared
  | cons first rest ih =>
    obtain ⟨key, other⟩ := first
    obtain ⟨new, later⟩ := List.nodup_cons.mp distinct
    rw [Properties.fill]
    rcases List.mem_cons.mp declared with here | there
    · -- No field after it has the name, so what is filled in here stays.
      obtain ⟨rfl, rfl⟩ := Prod.mk.inj here
      rw [Properties.get?_fill_of_not_mem new, Record.get?_write_self]
    · have different : name ≠ key := by
        rintro rfl
        exact new (List.mem_map.mpr ⟨_, there, rfl⟩)
      rw [ih later there, Record.get?_write_of_ne _ _ different]

/-! ## Sanitizing them -/

/-- A default that is filled in is the effective input before and after. -/
theorem Compiler.effectiveInput_filling [Engines] (compiled : (builtin.compileField field).value = .ok plan)
    (fills : field.filling input = some default) :
    effectiveInput plan.default input = some default ∧
      effectiveInput plan.default (some default) = some default := by
  obtain ⟨missing, declared, nonnull⟩ := FieldSchema.filling_eq_some fills
  have has : plan.default = some default := (Compiler.default_eq compiled).trans declared
  refine ⟨?_, effectiveInput_of_ne_null _ nonnull⟩
  rcases missing with rfl | rfl
  · exact has
  · rw [effectiveInput_null, has]
    rfl

/-- **A field writes the same whether or not its default has been filled in**, also if it refuses the
default and keeps it, for no default but null becomes null. -/
theorem Compiler.entry_filled [Engines] (compiled : (builtin.compileField field).value = .ok plan)
    (held : Record.get? filled name
      = (field.filling (Record.get? record name)).or (Record.get? record name)) :
    plan.entry name filled = plan.entry name record := by
  cases fills : field.filling (Record.get? record name) with
  | none =>
    rw [fills, Option.none_or] at held
    exact Compiler.entry_congr compiled held
  | some default =>
    rw [fills, Option.some_or] at held
    obtain ⟨missing, -, nonnull⟩ := FieldSchema.filling_eq_some fills
    obtain ⟨before, after⟩ := Compiler.effectiveInput_filling compiled fills
    have became : plan.become default name record ≠ .null := become_ne_null compiled nonnull
    have notNull : (plan.become default name record).isNull = false := by
      simpa [← isNull_iff] using became
    have alike : (plan.sanitize (some default) name filled).value
        = (plan.sanitize (some default) name record).value := Compiler.sanitize_congr compiled _
    unfold FieldPlan.entry
    rw [held, alike, FieldPlan.sanitize_eq_map, after, FieldPlan.sanitize_eq_map, before]
    rcases missing with missing | null
    · simp [missing, written, notNull]
    · simp [null, written]

/-- A record in which the defaults of distinct names have been filled in, in whatever places, is
sanitized to the same record. -/
theorem sanitize_filled [Engines] (distinct : (fields.map Prod.fst).Nodup)
    (compiled : (builtin.compileFields fields).value = .ok form)
    (held : ∀ name field, (name, field) ∈ fields → Record.get? filled name
      = (field.filling (Record.get? record name)).or (Record.get? record name)) :
    (form.sanitize filled).value = (form.sanitize record).value := by
  have names : form.names.Nodup := Compiler.nodup_names compiled distinct
  rw [FormPlan.sanitize_eq_entries names, FormPlan.sanitize_eq_entries names]
  apply List.filterMap_congr
  intro planned member
  obtain ⟨⟨_, field⟩, declared, rfl, plan_ok⟩ := Compiler.exists_declared compiled member
  have wrote := Compiler.entry_filled plan_ok (held _ field declared)
  exact congrArg (Option.map (planned.1, ·)) wrote

/-- **Defaults may be filled in first.** If names are distinct, then a record is sanitized to the same
entries in the same order whether or not its defaults have been filled in before, also where a default is
refused by its own field and kept; and a missing record is sanitized like the defaults alone. -/
theorem sanitize_fill [Engines] (distinct : (fields.map Prod.fst).Nodup)
    (compiled : (builtin.compile fields).value = .ok form) :
    (∀ record : Record, (form.sanitizeOptional (some (fields.fill record))).value
        = (form.sanitizeOptional (some record)).value) ∧
      (form.sanitizeOptional none).value = (form.sanitizeOptional (some (fields.fill []))).value := by
  have fields_ok := Compiler.finishForm_ok compiled
  have same (record : Record) :
      (form.sanitize (fields.fill record)).value = (form.sanitize record).value := by
    apply sanitize_filled distinct fields_ok
    intro name field declared
    exact Properties.get?_fill_of_mem distinct declared
  exact ⟨same, (same []).symm⟩

/-- The fields of a reservation: a number of guests with a default that is none, rooms in one of two
forms with a default for both, and a note. -/
def reservationFields : Properties :=
  [("guests", .single { type := some (.one "integer"), default := some (.string "some") }),
    ("rooms", .union [{ type := some (.one "integer") },
      { type := some (.one "array"), default := some (.string "2") }]),
    ("note", .single { type := some (.one "string"), default := some .null })]

/-- The plans of the fields of a reservation. -/
def reservationForm : FormPlan :=
  [("guests", .mk [⟨some "integer", some Coercion.integer, [], .scalar⟩] (some (.string "some"))),
    ("rooms", .mk [⟨some "integer", some Coercion.integer, [], .scalar⟩,
      ⟨some "array", some Coercion.array, [], .scalar⟩] (some (.string "2"))),
    ("note", .mk [⟨some "string", some Coercion.string, [], .scalar⟩] (some .null))]

/-- A reservation without guests and rooms, with the defaults filled in and without: the guests stay as
the text that they have for their default, although it is no number, the rooms are read as one, and the
note stays null. -/
theorem reservation_filled :
    let record : Record := [("note", .null), ("guests", .null)]
    let filled : Record := [("note", .null), ("guests", .string "some"), ("rooms", .string "2")]
    let output : Record := [("guests", .string "some"), ("rooms", .number (.integer 2 (by decide))),
      ("note", .null)]
    (builtin.compile reservationFields).value = .ok reservationForm ∧
      reservationFields.fill record = filled ∧
      (reservationForm.sanitizeOptional (some record)).value = output ∧
      (reservationForm.sanitizeOptional (some filled)).value = output := by
  intro record filled output
  have compiled : (builtin.compile reservationFields).value = .ok reservationForm := rfl
  have fills : reservationFields.fill record = filled := by cbv
  have sanitized : (reservationForm.sanitizeOptional (some record)).value = output := by cbv
  have same := (sanitize_fill (by decide) compiled).1 record
  rw [fills, sanitized] at same
  exact ⟨compiled, fills, sanitized, same⟩

end Intake
