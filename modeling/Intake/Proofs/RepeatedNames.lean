import Intake.Proofs.Idempotence
import Intake.Proofs.Refusals
import Intake.Proofs.Reports

/-!
# Repeated names

A form may declare a name more than once. Its fields are sanitized one after the other, each from the
given record, and write into one output, where a later entry of a key replaces an earlier one. So of
several fields of a name the last that writes decides (`get?_sanitizeFields_of_last`). A field that is
present is always written; for a missing one only a field counts that supplies a value
(`FieldPlan.Supplies`). With the built-in types and rules that is a field with a default other than
null, whatever its rules make of that default.

The output only ever grows (`keys_sanitizeFields_isPrefix`): what has been written stays written, at its
place, and at most its value changes.
-/

set_option autoImplicit false

namespace Intake

open Compiler (builtin)

variable {plan : FieldPlan} {fields before after : FormPlan} {input output record : Record}
  {name key : String} {given value : Value}

/-! ## Records that grow -/

/-- A key is in a record if something is found under it. -/
theorem Record.mem_keys_iff : key ∈ Record.keys record ↔ ∃ value, Record.get? record key = some value := by
  induction record with
  | nil => simp [Record.keys, Record.get?]
  | cons entry rest ih =>
    obtain ⟨k, v⟩ := entry
    rw [Record.get?_cons, Record.keys, List.map_cons, List.mem_cons, ← Record.keys, ih]
    by_cases same : k = key
    · simp [same]
    · simp [same, Ne.symm same]

/-- A key is not in a record if nothing is found under it. -/
theorem Record.not_mem_keys_iff : key ∉ Record.keys record ↔ Record.get? record key = none := by
  rw [Record.mem_keys_iff]
  cases Record.get? record key <;> simp

/-- To write moves no key that is there. -/
theorem Record.keys_write_isPrefix (record : Record) (key : String) (value : Option Value) :
    Record.keys record <+: Record.keys (Record.write record key value) := by
  cases value with
  | none => exact List.prefix_rfl
  | some value =>
    rw [Record.write, Record.keys_insert]
    split
    · exact List.prefix_rfl
    · exact List.prefix_append _ _

/-- **Fields keep what is there**: they add keys after those of the output and move none of these. -/
theorem keys_sanitizeFields_isPrefix (fields : FormPlan) (input output : Record) :
    Record.keys output <+: Record.keys (sanitizeFields fields input output).value := by
  induction fields generalizing output with
  | nil => exact List.prefix_rfl
  | cons planned rest ih =>
    obtain ⟨name, plan⟩ := planned
    rw [sanitizeFields_cons]
    have first := Record.keys_write_isPrefix output name (plan.entry name input)
    exact first.trans (ih _)

/-- Fields in two parts: the second part goes on with the output of the first. -/
theorem sanitizeFields_append (before after : FormPlan) (input output : Record) :
    (sanitizeFields (before ++ after) input output).value
      = (sanitizeFields after input (sanitizeFields before input output).value).value := by
  induction before generalizing output with
  | nil => rfl
  | cons planned rest ih =>
    obtain ⟨name, plan⟩ := planned
    rw [List.cons_append, sanitizeFields_cons, sanitizeFields_cons, ih]

/-! ## What a field writes -/

/-- A field supplies a value for a record in which it is missing: what it sanitizes the missing value
to, if that is something other than null. -/
def FieldPlan.Supplies (plan : FieldPlan) (name : String) (input : Record) (value : Value) : Prop :=
  (plan.sanitize none name input).value = some value ∧ value ≠ .null

/-- What is given under a name is sanitized. -/
theorem FieldPlan.entry_of_present (present : Record.get? input name = some given) :
    plan.entry name input = (plan.sanitize (some given) name input).value := by
  obtain ⟨value, effective⟩ := exists_effectiveInput plan.default given
  rw [FieldPlan.entry, present, FieldPlan.sanitize_eq_map, effective]
  rfl

/-- Where nothing is given under a name, its entry is what the field supplies. -/
theorem FieldPlan.entry_of_missing_iff (missing : Record.get? input name = none) :
    plan.entry name input = some value ↔ plan.Supplies name input value := by
  unfold FieldPlan.entry FieldPlan.Supplies
  rw [missing]
  cases sanitized : (plan.sanitize none name input).value with
  | none => simp [written]
  | some result =>
    have null : result.isNull = true ↔ result = .null := isNull_iff
    simp only [written, Option.ite_none_left_eq_some, Option.some.injEq, null]
    constructor
    · rintro ⟨nonnull, rfl⟩
      exact ⟨rfl, nonnull⟩
    · rintro ⟨rfl, nonnull⟩
      exact ⟨nonnull, rfl⟩

/-- A field writes if it is present or supplies a value. -/
theorem FieldPlan.exists_entry_iff : (∃ value, plan.entry name input = some value) ↔
    name ∈ Record.keys input ∨ ∃ value, plan.Supplies name input value := by
  cases found : Record.get? input name with
  | none =>
    have missing := Record.not_mem_keys_iff.mpr found
    simp only [FieldPlan.entry_of_missing_iff found, missing, false_or]
  | some given =>
    have present : name ∈ Record.keys input := Record.mem_keys_iff.mpr ⟨given, found⟩
    obtain ⟨value, effective⟩ := exists_effectiveInput plan.default given
    rw [FieldPlan.entry_of_present found, FieldPlan.sanitize_eq_map, effective]
    simp [present]

/-! ## Fields of one name -/

/-- **Of several fields of a name the last that writes decides.** -/
theorem get?_sanitizeFields_of_last (wrote : plan.entry name input = some value)
    (silent : ∀ later, (name, later) ∈ after → later.entry name input = none) :
    Record.get? (sanitizeFields (before ++ (name, plan) :: after) input output).value name
      = some value := by
  rw [sanitizeFields_append, sanitizeFields_cons, get?_sanitizeFields_of_silent silent,
    Record.get?_write_self, wrote]
  rfl

/-- The output has the keys of the fields that write. -/
theorem mem_keys_sanitize_iff {form : FormPlan} : key ∈ Record.keys (form.sanitize input).value ↔
    ∃ plan, (key, plan) ∈ form ∧ ∃ value, plan.entry key input = some value := by
  constructor
  · intro held
    obtain ⟨entry, member, rfl⟩ := List.mem_map.mp held
    rcases mem_sanitizeFields member with before | ⟨⟨name, plan⟩, listed, rfl, wrote⟩
    · cases before
    · exact ⟨plan, listed, entry.2, wrote⟩
  · rintro ⟨plan, listed, value, wrote⟩
    obtain ⟨before, after, rfl⟩ := List.append_of_mem listed
    unfold FormPlan.sanitize
    rw [sanitizeFields_append, sanitizeFields_cons, wrote]
    -- The key is there once its field has written, and the fields after it remove nothing.
    have written : key ∈ Record.keys
        (Record.write (sanitizeFields before input []).value key (some value)) :=
      Record.mem_keys_iff.mpr ⟨value, Record.get?_insert_self _ _ _⟩
    exact (keys_sanitizeFields_isPrefix after input _).mem written

/-! ## What the output holds -/

/-- What an output holds at a key, for a form that may declare the key more than once. -/
structure FormPlan.HoldsAt (form : FormPlan) (input output : Record) (key : String) : Prop where
  /-- The keys are those declared names that are present or for which a declaration supplies a value. -/
  mem_keys_iff : key ∈ Record.keys output ↔ key ∈ form.names ∧ (key ∈ Record.keys input ∨
    ∃ plan value, (key, plan) ∈ form ∧ plan.Supplies key input value)
  /-- The value of a key that is present is what its last declaration makes of it. -/
  present : ∀ (before after : FormPlan) (plan : FieldPlan) (given : Value),
    form = before ++ (key, plan) :: after → key ∉ FormPlan.names after →
      Record.get? input key = some given →
        Record.get? output key = (plan.sanitize (some given) key input).value
  /-- The value of a key that is missing is what the last declaration supplies that supplies one. -/
  missing : ∀ (before after : FormPlan) (plan : FieldPlan) (value : Value),
    form = before ++ (key, plan) :: after →
      (∀ later other, (key, later) ∈ after → ¬ later.Supplies key input other) →
        Record.get? input key = none → plan.Supplies key input value →
          Record.get? output key = some value

/-- The output holds at every key what the last writer of this key has written. -/
theorem FormPlan.holdsAt_sanitize (form : FormPlan) (input : Record) (key : String) :
    form.HoldsAt input (form.sanitize input).value key where
  mem_keys_iff := by
    rw [mem_keys_sanitize_iff]
    simp only [FieldPlan.exists_entry_iff]
    constructor
    · rintro ⟨plan, listed, writes⟩
      have declared : key ∈ form.names := List.mem_map.mpr ⟨_, listed, rfl⟩
      rcases writes with present | ⟨value, supplies⟩
      · exact ⟨declared, Or.inl present⟩
      · exact ⟨declared, Or.inr ⟨plan, value, listed, supplies⟩⟩
    · rintro ⟨declared, present | ⟨plan, value, listed, supplies⟩⟩
      · obtain ⟨⟨name, plan⟩, listed, rfl⟩ := List.mem_map.mp declared
        exact ⟨plan, listed, Or.inl present⟩
      · exact ⟨plan, listed, Or.inr ⟨value, supplies⟩⟩
  present := by
    rintro before after plan given rfl last found
    obtain ⟨value, effective⟩ := exists_effectiveInput plan.default given
    have wrote : plan.entry key input = some (plan.become value key input) := by
      rw [FieldPlan.entry_of_present found, FieldPlan.sanitize_eq_map, effective]
      rfl
    rw [← FieldPlan.entry_of_present found, wrote]
    apply get?_sanitizeFields_of_last wrote
    intro later member
    exact absurd (List.mem_map.mpr ⟨_, member, rfl⟩) last
  missing := by
    rintro before after plan value rfl last found supplies
    apply get?_sanitizeFields_of_last ((FieldPlan.entry_of_missing_iff found).mpr supplies)
    intro later member
    cases wrote : later.entry key input with
    | none => rfl
    | some other => exact absurd ((FieldPlan.entry_of_missing_iff found).mp wrote) (last later other member)

/-! ## Built-in types and rules -/

/-- With the built-in types and rules, an effective input other than null becomes something other than
null. -/
theorem Compiler.exists_sanitized [Engines] {field : FieldSchema} {source : Option Value}
    (compiled : (builtin.compileField field).value = .ok plan)
    (effective : effectiveInput plan.default source = some value) (nonnull : value ≠ .null) :
    ∃ result, (plan.sanitize source key record).value = some result ∧ result ≠ .null := by
  refine ⟨plan.become value key record, ?_, become_ne_null compiled nonnull⟩
  rw [FieldPlan.sanitize_eq_map, effective]
  rfl

/-- A compiled field supplies a value exactly if it has a default other than null. -/
theorem Compiler.supplies_iff [Engines] {field : FieldSchema}
    (compiled : (builtin.compileField field).value = .ok plan) :
    (∃ value, plan.Supplies name input value) ↔
      ∃ default, field.default? = some default ∧ default ≠ .null := by
  have defaults : plan.default = field.default? := Compiler.default_eq compiled
  unfold FieldPlan.Supplies
  rw [FieldPlan.sanitize_eq_map, effectiveInput, defaults]
  constructor
  · rintro ⟨value, sanitized, nonnull⟩
    obtain ⟨default, declared, rfl⟩ := Option.map_eq_some_iff.mp sanitized
    refine ⟨default, declared, ?_⟩
    rintro rfl
    exact nonnull rfl
  · rintro ⟨default, declared, nonnull⟩
    rw [declared]
    exact ⟨_, rfl, become_ne_null compiled nonnull⟩

/-- A name that is missing is written exactly if one of its declarations has a default other than
null. -/
theorem Compiler.mem_keys_of_missing_iff [Engines] {declared : Properties} {form : FormPlan}
    (compiled : (builtin.compileFields declared).value = .ok form) (missing : key ∉ Record.keys input) :
    key ∈ Record.keys (form.sanitize input).value ↔
      ∃ field default, (key, field) ∈ declared ∧ field.default? = some default ∧ default ≠ .null := by
  rw [mem_keys_sanitize_iff]
  simp only [FieldPlan.exists_entry_iff, missing, false_or]
  constructor
  · rintro ⟨plan, listed, supplies⟩
    obtain ⟨⟨_, field⟩, source, rfl, plan_ok⟩ := Compiler.exists_declared compiled listed
    obtain ⟨default, has, nonnull⟩ := (Compiler.supplies_iff plan_ok).mp supplies
    exact ⟨field, default, source, has, nonnull⟩
  · rintro ⟨field, default, source, has, nonnull⟩
    obtain ⟨plan, listed, plan_ok⟩ := Compiler.exists_planned compiled source
    exact ⟨plan, listed, (Compiler.supplies_iff plan_ok).mpr ⟨default, has, nonnull⟩⟩

/-- **What a sanitized record holds**, where names may be declared more than once. The keys are the
declared names that are present, and those for which a declaration supplies a value; the value of a name
that is present is what its last declaration makes of it, and that of a missing one what the last
declaration supplies that supplies one. Every declaration looks at the given record and never at the
output: the run reports what each of them reports for that record, in order. With the built-in types and
rules an effective input other than null becomes something other than null, at every depth, so a missing
name is written exactly if one of its declarations has a default other than null. -/
theorem repeated_names_hold [Engines] {compiler : Compiler} {fields : Properties} {form : FormPlan}
    (compiled : (compiler.compile fields).value = .ok form) (input : Record) (key : String) :
    form.names = fields.map Prod.fst ∧
      form.HoldsAt input (form.sanitize input).value key ∧
      (form.sanitize input).events = form.flatMap (fun planned =>
        (planned.2.sanitize (Record.get? input planned.1) planned.1 input).events) ∧
      (compiler = builtin →
        (∀ plan, form.Holds plan → ∀ (source : Option Value) (name : String) (record : Record)
          (value : Value), effectiveInput plan.default source = some value → value ≠ .null →
            ∃ result, (plan.sanitize source name record).value = some result ∧ result ≠ .null) ∧
        (key ∉ Record.keys input → (key ∈ Record.keys (form.sanitize input).value ↔
          ∃ field default, (key, field) ∈ fields ∧ field.default? = some default ∧
            default ≠ .null))) := by
  have fields_ok := Compiler.finishForm_ok compiled
  refine ⟨Compiler.names_eq fields_ok, form.holdsAt_sanitize input key,
    sanitizeFields_events form input [], ?_⟩
  rintro rfl
  constructor
  · intro plan holds source name record value effective nonnull
    obtain ⟨field, plan_ok⟩ := Compiler.compiled_of_holds fields_ok holds
    exact Compiler.exists_sanitized plan_ok effective nonnull
  · exact Compiler.mem_keys_of_missing_iff fields_ok

/-- The fields of a profile: a name that is declared once more with null for its default, and a size
that is declared with a default only the second time. -/
def profileFields : Properties :=
  [("name", .single { default := some (.string "anonymous") }),
    ("size", .single { type := some (.one "integer") }),
    ("name", .single { type := some (.one "string"), default := some .null }),
    ("size", .single { type := some (.one "integer"), default := some (.string "3") })]

/-- The plans of the fields of a profile. -/
def profileForm : FormPlan :=
  [("name", .mk [⟨none, none, [], .scalar⟩] (some (.string "anonymous"))),
    ("size", .mk [⟨some "integer", some Coercion.integer, [], .scalar⟩] none),
    ("name", .mk [⟨some "string", some Coercion.string, [], .scalar⟩] (some .null)),
    ("size", .mk [⟨some "integer", some Coercion.integer, [], .scalar⟩] (some (.string "3")))]

/-- A profile with a size and no name: the size is what its second declaration makes of it, and the name
the default of its first declaration, for the second has none but null. -/
theorem profile_holds :
    let input : Record := [("admin", .bool true), ("size", .string "12")]
    let output := (profileForm.sanitize input).value
    (builtin.compile profileFields).value = .ok profileForm ∧
      Record.get? output "size" = some (.number (.integer 12 (by decide))) ∧
      Record.get? output "name" = some (.string "anonymous") ∧
      "admin" ∉ Record.keys output ∧
      ("name" ∈ Record.keys output ↔ ∃ field default, ("name", field) ∈ profileFields ∧
        field.default? = some default ∧ default ≠ .null) := by
  intro input output
  have compiled : (builtin.compile profileFields).value = .ok profileForm := rfl
  obtain ⟨-, size, -, -⟩ := repeated_names_hold compiled input "size"
  obtain ⟨-, admin, -, -⟩ := repeated_names_hold compiled input "admin"
  obtain ⟨-, name, -, builtins⟩ := repeated_names_hold compiled input "name"
  refine ⟨compiled, ?_, ?_, ?_, (builtins rfl).2 (by decide)⟩
  · have last := size.present (profileForm.take 3) [] _ (.string "12") rfl (by decide) rfl
    rw [last]
    cbv
  · apply name.missing [] (profileForm.drop 1) _ (.string "anonymous") rfl
    · intro later other member supplies
      obtain rfl : later = .mk [⟨some "string", some Coercion.string, [], .scalar⟩] (some .null) := by
        simpa [profileForm] using member
      exact supplies.2 (Option.some.inj supplies.1).symm
    · rfl
    · exact ⟨rfl, by simp⟩
  · intro held
    have declared := (admin.mem_keys_iff.mp held).1
    exact absurd declared (by decide)

end Intake
