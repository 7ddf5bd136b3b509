import Intake.Proofs.Attempts

/-!
# What a sanitized record holds

Each field looks at the entry of its name in the given record and writes at most one entry into the
output (`FieldPlan.entry`). So every entry of the output was written by a field of that name
(`mem_sanitizeFields`), a name that no field has stays as it was, and where the names are distinct the
output lists what each field writes, in the order of the fields (`sanitizeFields_eq_append`).
-/

set_option autoImplicit false

namespace Intake

/-! ## Records -/

namespace Record

variable {record : Record} {key name : String} {value : Value}

/-- An entry after a value has been set is the one set or was there before. -/
theorem mem_insert {entry : String × Value} (h : entry ∈ insert record key value) :
    entry = (key, value) ∨ entry ∈ record := by
  induction record with
  | nil => exact Or.inl (List.mem_singleton.mp h)
  | cons head rest ih =>
    obtain ⟨k, v⟩ := head
    unfold insert at h
    split at h
    · rcases List.mem_cons.mp h with here | later
      · exact Or.inl here
      · exact Or.inr (List.mem_cons_of_mem _ later)
    · rcases List.mem_cons.mp h with here | later
      · exact Or.inr (here ▸ List.mem_cons_self)
      · exact (ih later).imp id (List.mem_cons_of_mem _)

/-- A value at a new key goes to the end. -/
theorem insert_eq_append (new : key ∉ keys record) :
    insert record key value = record ++ [(key, value)] := by
  induction record with
  | nil => rfl
  | cons head rest ih =>
    obtain ⟨k, v⟩ := head
    simp only [keys, List.map_cons, List.mem_cons, not_or] at new
    have rest_eq := ih new.2
    rw [insert, if_neg (Ne.symm new.1), rest_eq]
    rfl

/-- Sets the value at a key, if there is one. -/
def write (record : Record) (key : String) : Option Value → Record
  | some value => insert record key value
  | none => record

/-- What is found at a key that has been written. -/
theorem get?_write_self (record : Record) (key : String) (value : Option Value) :
    get? (write record key value) key = value.or (get? record key) := by
  cases value with
  | none => rfl
  | some value => exact get?_insert_self record key value

/-- Writing at a key changes no other one. -/
theorem get?_write_of_ne (record : Record) (value : Option Value) (different : name ≠ key) :
    get? (write record key value) name = get? record name := by
  cases value with
  | none => rfl
  | some value => exact get?_insert_of_ne record value different

end Record

/-! ## What one field writes -/

/-- The value that is written for a field, if any: a field that is present is always written, and a
missing one only if it has become something other than null. -/
def written (input sanitized : Option Value) : Option Value :=
  match input, sanitized with
  | some _, sanitized => some (sanitized.getD .null)
  | none, some value => if value.isNull then none else some value
  | none, none => none

/-- A field writes its value into the output and changes nothing else. -/
theorem writeField_eq_write (output : Record) (name : String) (input sanitized : Option Value) :
    writeField output name input sanitized = Record.write output name (written input sanitized) := by
  unfold writeField written
  cases input with
  | some _ => rfl
  | none =>
    cases sanitized with
    | none => rfl
    | some value => cases null : value.isNull <;> simp [null, Record.write]

/-- The value that a field writes for a record. -/
def FieldPlan.entry (plan : FieldPlan) (name : String) (input : Record) : Option Value :=
  written (Record.get? input name) (plan.sanitize (Record.get? input name) name input).value

/-- A field that writes nothing is missing. -/
theorem FieldPlan.get?_of_entry_eq_none {plan : FieldPlan} {name : String} {input : Record}
    (h : plan.entry name input = none) : Record.get? input name = none := by
  unfold FieldPlan.entry at h
  cases found : Record.get? input name with
  | none => rfl
  | some value =>
    rw [found] at h
    cases h

/-- What a field writes is what becomes of its effective input. -/
theorem FieldPlan.entry_eq_some {plan : FieldPlan} {name : String} {input : Record} {result : Value}
    (h : plan.entry name input = some result) :
    ∃ value, effectiveInput plan.default (Record.get? input name) = some value ∧
      plan.become value name input = result := by
  unfold FieldPlan.entry at h
  rw [FieldPlan.sanitize_eq_map] at h
  cases found : Record.get? input name with
  | some given =>
    obtain ⟨value, effective⟩ := exists_effectiveInput plan.default given
    rw [found, effective] at h
    exact ⟨value, effective, Option.some.inj h⟩
  | none =>
    rw [found] at h
    cases effective : effectiveInput plan.default none with
    | none => simp [effective, written] at h
    | some value =>
      simp only [effective, Option.map_some, written, Option.ite_none_left_eq_some,
        Option.some.injEq] at h
      exact ⟨value, rfl, h.2⟩

/-! ## What all fields write -/

variable {fields : FormPlan} {input input₁ input₂ output output₁ output₂ : Record} {name : String}

/-- The first field writes its value, and the others go on with the output. -/
theorem sanitizeFields_cons (name : String) (plan : FieldPlan) (rest : FormPlan)
    (input output : Record) :
    (sanitizeFields ((name, plan) :: rest) input output).value
      = (sanitizeFields rest input (Record.write output name (plan.entry name input))).value := by
  rw [sanitizeFields, writeField_eq_write]
  rfl

/-- Every entry of the output has been written by a field of its name. -/
theorem mem_sanitizeFields {entry : String × Value}
    (h : entry ∈ (sanitizeFields fields input output).value) :
    entry ∈ output ∨
      ∃ planned ∈ fields, planned.1 = entry.1 ∧ planned.2.entry planned.1 input = some entry.2 := by
  induction fields generalizing output with
  | nil => exact Or.inl h
  | cons planned rest ih =>
    obtain ⟨name, plan⟩ := planned
    rw [sanitizeFields_cons] at h
    rcases ih h with before | ⟨planned, member, named, wrote⟩
    · cases value : plan.entry name input with
      | none =>
        rw [value] at before
        exact Or.inl before
      | some value' =>
        rw [value] at before
        rcases Record.mem_insert before with rfl | before
        · exact Or.inr ⟨(name, plan), List.mem_cons_self, rfl, value⟩
        · exact Or.inl before
    · exact Or.inr ⟨planned, List.mem_cons_of_mem _ member, named, wrote⟩

/-- Two outputs agree at a name if they did before and the fields of that name write the same. -/
theorem get?_sanitizeFields_congr
    (same : ∀ plan, (name, plan) ∈ fields → plan.entry name input₁ = plan.entry name input₂)
    (agree : Record.get? output₁ name = Record.get? output₂ name) :
    Record.get? (sanitizeFields fields input₁ output₁).value name
      = Record.get? (sanitizeFields fields input₂ output₂).value name := by
  induction fields generalizing output₁ output₂ with
  | nil => exact agree
  | cons planned rest ih =>
    obtain ⟨key, plan⟩ := planned
    rw [sanitizeFields_cons, sanitizeFields_cons]
    apply ih
    · intro plan member
      exact same plan (List.mem_cons_of_mem _ member)
    · by_cases here : name = key
      · subst here
        have wrote := same plan List.mem_cons_self
        rw [Record.get?_write_self, Record.get?_write_self, wrote, agree]
      · rw [Record.get?_write_of_ne _ _ here, Record.get?_write_of_ne _ _ here, agree]

/-- Fields of a name that write nothing leave its value alone. -/
theorem get?_sanitizeFields_of_silent
    (silent : ∀ plan, (name, plan) ∈ fields → plan.entry name input = none) :
    Record.get? (sanitizeFields fields input output).value name = Record.get? output name := by
  induction fields generalizing output with
  | nil => rfl
  | cons planned rest ih =>
    obtain ⟨key, plan⟩ := planned
    rw [sanitizeFields_cons, ih fun other member => silent other (List.mem_cons_of_mem _ member)]
    by_cases here : name = key
    · subst here
      rw [Record.get?_write_self, silent plan List.mem_cons_self]
      rfl
    · exact Record.get?_write_of_ne _ _ here

/-- A name that no field has stays as it was. -/
theorem get?_sanitizeFields_of_not_mem (h : name ∉ FormPlan.names fields) :
    Record.get? (sanitizeFields fields input output).value name = Record.get? output name := by
  apply get?_sanitizeFields_of_silent
  intro plan member
  exact absurd (List.mem_map.mpr ⟨_, member, rfl⟩) h

/-- Where the names are distinct, the output holds at each name what its field has written. -/
theorem get?_sanitizeFields_of_mem {plan : FieldPlan} (distinct : (FormPlan.names fields).Nodup)
    (member : (name, plan) ∈ fields) :
    Record.get? (sanitizeFields fields input output).value name
      = (plan.entry name input).or (Record.get? output name) := by
  induction fields generalizing output with
  | nil => cases member
  | cons planned rest ih =>
    obtain ⟨key, other⟩ := planned
    obtain ⟨new, later⟩ := List.nodup_cons.mp distinct
    rw [sanitizeFields_cons]
    rcases List.mem_cons.mp member with here | there
    · -- No later field has the name, so what is written here stays.
      obtain ⟨rfl, rfl⟩ := Prod.mk.inj here
      rw [get?_sanitizeFields_of_not_mem new, Record.get?_write_self]
    · have different : name ≠ key := by
        rintro rfl
        exact new (List.mem_map.mpr ⟨_, there, rfl⟩)
      rw [ih later there, Record.get?_write_of_ne _ _ different]

/-- The entries that fields write for a record, in the order of the fields. -/
def FormPlan.entries (form : FormPlan) (input : Record) : Record :=
  form.filterMap fun (name, plan) => (plan.entry name input).map (name, ·)

/-- **Where the names are distinct, the output lists what each field writes**, in the order of the
fields. -/
theorem sanitizeFields_eq_append (distinct : (FormPlan.names fields).Nodup)
    (new : ∀ name ∈ FormPlan.names fields, name ∉ Record.keys output) :
    (sanitizeFields fields input output).value = output ++ FormPlan.entries fields input := by
  induction fields generalizing output with
  | nil => exact (List.append_nil output).symm
  | cons planned rest ih =>
    obtain ⟨name, plan⟩ := planned
    obtain ⟨fresh, later⟩ := List.nodup_cons.mp distinct
    rw [sanitizeFields_cons]
    cases value : plan.entry name input with
    | none =>
      have others : ∀ other ∈ FormPlan.names rest, other ∉ Record.keys output := by
        intro other member
        exact new other (List.mem_cons_of_mem _ member)
      rw [Record.write, ih later others]
      simp [FormPlan.entries, value]
    | some value' =>
      rw [Record.write, Record.insert_eq_append (new name List.mem_cons_self), ih later ?_]
      · simp [FormPlan.entries, value]
      · intro other member present
        simp only [Record.keys, List.map_append, List.map_cons, List.map_nil, List.mem_append,
          List.mem_singleton] at present
        rcases present with before | rfl
        · exact new other (List.mem_cons_of_mem _ member) before
        · exact fresh member

/-- A form with distinct names gives the entries that its fields write. -/
theorem FormPlan.sanitize_eq_entries {form : FormPlan} (distinct : form.names.Nodup)
    (input : Record) : (form.sanitize input).value = form.entries input :=
  sanitizeFields_eq_append distinct fun _ _ => List.not_mem_nil

end Intake
