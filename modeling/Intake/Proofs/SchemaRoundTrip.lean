import Intake.Proofs.SchemaReading

/-!
# Writing schemas and reading them back

A schema is read back from its JSON tree as an equal one exactly if JSON can say all that stands in it,
and then it is read back as the very same: the order of the fields, repeated names, and the difference
between one schema and a list of one are kept. `schemas_round_trip` says so for fields of records, for
field schemas and for single schemas. Records in values are taken to repeat no key, as records do; schemas
are equal up to the order of the entries of such records.
-/

set_option autoImplicit false

namespace Intake

/-! ## Schemas that agree -/

/-- Rules are the same if they have the same keys and the same parameters, one by one. -/
theorem sameRules_iff {rules others : List (String × Value)} :
    sameRules rules others = true
      ↔ List.Forall₂ (fun a b => a.1 = b.1 ∧ a.2.same b.2 = true) rules others := by
  induction rules generalizing others with
  | nil => cases others <;> simp [sameRules]
  | cons entry rest ih => cases others <;> simp [sameRules, ih]

/-- Alternatives are the same if they are the same one by one. -/
theorem sameSchemas_iff {schemas others : List Schema} :
    sameSchemas schemas others = true
      ↔ List.Forall₂ (fun a b => sameSchema a b = true) schemas others := by
  induction schemas generalizing others with
  | nil => cases others <;> simp [sameSchemas]
  | cons schema rest ih => cases others <;> simp [sameSchemas, ih]

/-- Fields are the same if they have the same names and are the same one by one. -/
theorem sameFields_iff {fields others : Properties} :
    sameFields fields others = true
      ↔ List.Forall₂ (fun a b => a.1 = b.1 ∧ a.2.same b.2 = true) fields others := by
  induction fields generalizing others with
  | nil => cases others <;> simp [sameFields]
  | cons declared rest ih => cases others <;> simp [sameFields, ih]

/-- Schemas are the same if their parts are. -/
theorem sameSchema_iff {schema other : Schema} :
    sameSchema schema other = true ↔ schema.type = other.type ∧
      sameDefaults schema.default other.default = true ∧ sameItems schema.items other.items = true ∧
      sameProperties schema.properties other.properties = true ∧
      sameRules schema.rules.entries other.rules.entries = true := by
  cases schema
  simp [sameSchema, and_assoc]

/-- Fields that agree have alternatives that agree, one by one. -/
theorem FieldSchema.forall₂_of_same {field other : FieldSchema} (agree : field.same other = true) :
    List.Forall₂ (fun a b => sameSchema a b = true) field.alternatives other.alternatives := by
  cases field with
  | single schema =>
    cases other with
    | single schema' => exact .cons agree .nil
    | union schemas' => cases agree
  | union schemas =>
    cases other with
    | single schema' => cases agree
    | union schemas' => exact sameSchemas_iff.mp agree

/-- JSON can say what a schema says if it can say what a schema says that agrees with it. -/
theorem Schema.IsRepresentable.of_same {schema other : Schema} (representable : other.IsRepresentable)
    (agree : sameSchema schema other = true) : schema.IsRepresentable := by
  obtain ⟨-, defaults, -, -, rules⟩ := sameSchema_iff.mp agree
  have partner : ∀ entry ∈ schema.rules.entries, ∃ entry' ∈ other.rules.entries,
      entry.1 = entry'.1 ∧ entry.2.same entry'.2 = true := by
    intro entry member
    exact exists_mem_of_forall₂ (sameRules_iff.mp rules).flip member
  constructor
  · intro null
    cases found : other.default with
    | none => simp [sameDefaults, null, found] at defaults
    | some value =>
      -- Nothing but null agrees with null.
      rw [null, found] at defaults
      cases value with
      | null => exact representable.default_ne_null found
      | _ => cases defaults
  · intro value default
    cases found : other.default with
    | none => simp [sameDefaults, default, found] at defaults
    | some value' =>
      rw [default, found] at defaults
      exact (representable.dateless_default value' found).of_same defaults
  · intro entry member
    obtain ⟨entry', listed, -, agree⟩ := partner entry member
    exact (representable.dateless_rules entry' listed).of_same agree
  · intro entry member
    obtain ⟨entry', listed, key, -⟩ := partner entry member
    rw [key]
    exact representable.unreserved entry' listed

/-- Fields that agree are representable together. -/
theorem FieldSchema.every_of_same {field other : FieldSchema}
    (every : other.Every Schema.IsRepresentable) (agree : field.same other = true) :
    field.Every Schema.IsRepresentable := by
  induction field using FieldSchema.induction generalizing other with
  | step field ih =>
    rw [every_iff] at every ⊢
    intro schema member
    obtain ⟨schema', listed, same⟩ := exists_mem_of_forall₂ (forall₂_of_same agree).flip member
    obtain ⟨here, items, properties⟩ := every schema' listed
    obtain ⟨-, -, sameItems', sameProperties', -⟩ := sameSchema_iff.mp same
    refine ⟨here.of_same same, ?_, ?_⟩
    · intro element found
      cases found' : schema'.items with
      | none => simp [sameItems, found, found'] at sameItems'
      | some element' =>
        rw [found, found', sameItems] at sameItems'
        exact ih element (.element member found) (items element' found') sameItems'
    · intro fields found declared listed'
      cases found' : schema'.properties with
      | none => simp [sameProperties, found, found'] at sameProperties'
      | some fields' =>
        rw [found, found', sameProperties, sameFields_iff] at sameProperties'
        obtain ⟨declared', there, -, agree'⟩ := exists_mem_of_forall₂ sameProperties'.flip listed'
        exact ih declared.2 (.nested member found listed')
          (properties fields' found' declared' there) agree'

/-- A field that repeats no key agrees with itself. -/
theorem FieldSchema.same_refl {field : FieldSchema} (keyed : field.Every Schema.IsKeyed) :
    field.same field = true := by
  induction field using FieldSchema.induction with
  | step field ih =>
    rw [every_iff] at keyed
    have each : ∀ schema ∈ field.alternatives, sameSchema schema schema = true := by
      intro schema member
      obtain ⟨here, items, properties⟩ := keyed schema member
      rw [sameSchema_iff]
      refine ⟨rfl, ?_, ?_, ?_, ?_⟩
      · cases default : schema.default with
        | none => rfl
        | some value => exact Value.same_refl (here.default value default)
      · cases found : schema.items with
        | none => rfl
        | some element => exact ih element (.element member found) (items element found)
      · cases found : schema.properties with
        | none => rfl
        | some fields =>
          rw [sameProperties, sameFields_iff, List.forall₂_same]
          intro declared listed
          exact ⟨rfl, ih declared.2 (.nested member found listed)
            (properties fields found declared listed)⟩
      · rw [sameRules_iff, List.forall₂_same]
        intro entry listed
        exact ⟨rfl, Value.same_refl (here.rules entry listed)⟩
    cases field with
    | single schema => exact each schema List.mem_cons_self
    | union schemas =>
      rw [same, sameSchemas_iff, List.forall₂_same]
      exact each

/-! ## Round trips -/

/-- The laws of writing and reading back. -/
structure RoundTrips {α : Type} (write : α → Json) (read? : Json → Option α) (same : α → α → Bool)
    (Keyed Representable : α → Prop) : Prop where
  /-- Exactly what is representable is read back as an equal one. -/
  equal_iff : ∀ a, Keyed a →
    ((∃ b, read? (write a) = some b ∧ same a b = true) ↔ Representable a)
  /-- What is representable is read back as it was. -/
  exact : ∀ a, Keyed a → Representable a → read? (write a) = some a
  /-- What has been read is representable. -/
  read : ∀ tree a, read? tree = some a → Keyed a ∧ Representable a
  /-- What has been read, written and read again is as it was. -/
  read_again : ∀ tree a, read? tree = some a → read? (write a) = some a

/-- The laws follow from what is known of reading and of agreement. -/
theorem RoundTrips.of {α : Type} {write : α → Json} {read? : Json → Option α}
    {same : α → α → Bool} {Keyed Representable : α → Prop}
    (exact : ∀ a, Keyed a → Representable a → read? (write a) = some a)
    (read : ∀ tree a, read? tree = some a → Keyed a ∧ Representable a)
    (refl : ∀ a, Keyed a → same a a = true)
    (of_same : ∀ a b, Representable b → same a b = true → Representable a) :
    RoundTrips write read? same Keyed Representable where
  equal_iff := by
    intro a keyed
    constructor
    · rintro ⟨b, back, agree⟩
      obtain ⟨-, representable⟩ := read _ b back
      exact of_same a b representable agree
    · intro representable
      exact ⟨a, exact a keyed representable, refl a keyed⟩
  exact := exact
  read := read
  read_again := by
    intro tree a found
    obtain ⟨keyed, representable⟩ := read tree a found
    exact exact a keyed representable

/-- Two properties hold of every schema in a field if each of them does. -/
theorem FieldSchema.Every.and_iff {p q : Schema → Prop} {field : FieldSchema} :
    field.Every (fun schema => p schema ∧ q schema) ↔ field.Every p ∧ field.Every q := by
  constructor
  · intro every
    refine ⟨?_, ?_⟩
    · exact fun inner within schema member => (every inner within schema member).1
    · exact fun inner within schema member => (every inner within schema member).2
  · rintro ⟨first, second⟩ inner within schema member
    exact ⟨first inner within schema member, second inner within schema member⟩

/-- Fields survive being written and read. -/
theorem FieldSchema.roundTrips :
    RoundTrips FieldSchema.toJson FieldSchema.ofJson? FieldSchema.same
      (FieldSchema.Every Schema.IsKeyed) (FieldSchema.Every Schema.IsRepresentable) := by
  apply RoundTrips.of
  · intro field keyed representable
    exact FieldSchema.ofJson?_toJson representable keyed
  · intro tree field read
    have readable := (FieldSchema.every_of_ofJson? tree).1 field read
    exact (Every.and_iff.mp readable).symm
  · exact fun field => FieldSchema.same_refl
  · exact fun field other => FieldSchema.every_of_same

/-- A schema is read exactly where a field with that schema alone is. -/
theorem FieldSchema.ofJson?_eq_single_iff {tree : Json} {schema : Schema} :
    FieldSchema.ofJson? tree = some (.single schema) ↔ Schema.ofJson? tree = some schema := by
  simp [FieldSchema.ofJson?_eq_some_iff, Schema.ofJson?]

/-- A field of one schema holds the schemas that this schema holds. -/
theorem FieldSchema.every_single_iff {p : Schema → Prop} {schema : Schema} :
    (FieldSchema.single schema).Every p ↔ schema.Every p := by
  simp [every_iff, alternatives]

/-- Schemas survive being written and read, as fields of one schema. -/
theorem Schema.roundTrips :
    RoundTrips Schema.toJson Schema.ofJson? sameSchema (Schema.Every Schema.IsKeyed)
      (Schema.Every Schema.IsRepresentable) := by
  apply RoundTrips.of
  · intro schema keyed representable
    rw [← FieldSchema.every_single_iff] at keyed representable
    have back := FieldSchema.roundTrips.exact _ keyed representable
    exact FieldSchema.ofJson?_eq_single_iff.mp back
  · intro tree schema read
    have single := FieldSchema.ofJson?_eq_single_iff.mpr read
    obtain ⟨keyed, representable⟩ := FieldSchema.roundTrips.read tree _ single
    exact ⟨FieldSchema.every_single_iff.mp keyed, FieldSchema.every_single_iff.mp representable⟩
  · intro schema keyed
    exact FieldSchema.same_refl (FieldSchema.every_single_iff.mpr keyed)
  · intro schema other representable agree
    have every := FieldSchema.every_single_iff.mpr representable
    have single : (FieldSchema.single schema).same (.single other) = true := agree
    exact FieldSchema.every_single_iff.mp (FieldSchema.every_of_same every single)

/-- Lists of fields survive being written and read. -/
theorem Properties.roundTrips :
    RoundTrips Properties.toJson Properties.ofJson? sameFields (Properties.Every Schema.IsKeyed)
      (Properties.Every Schema.IsRepresentable) := by
  apply RoundTrips.of
  · intro fields keyed representable
    apply Properties.ofJson?_toJson_of_fields
    intro declared member
    exact FieldSchema.roundTrips.exact _ (keyed declared member) (representable declared member)
  · intro tree fields read
    have nested : propertiesOfJson? tree = some (some fields) := by
      cases tree with
      | object entries => exact congrArg (Option.map some) read
      | _ => cases read
    have readable := (FieldSchema.every_of_ofJson? tree).2 fields nested
    constructor
    · exact fun declared member => (FieldSchema.Every.and_iff.mp (readable declared member)).2
    · exact fun declared member => (FieldSchema.Every.and_iff.mp (readable declared member)).1
  · intro fields keyed
    rw [sameFields_iff, List.forall₂_same]
    exact fun declared member => ⟨rfl, FieldSchema.same_refl (keyed declared member)⟩
  · intro fields others representable agree declared member
    obtain ⟨declared', listed, -, same⟩ := exists_mem_of_forall₂ (sameFields_iff.mp agree).flip member
    exact FieldSchema.every_of_same (representable declared' listed) same

/-- **Schemas are read back as they were, where JSON can say what they say.** Fields of a record, field
schemas and single schemas are read back as equal ones exactly if no schema in them, at whatever depth,
has null for a default, a point in time in its default or its parameters, or a rule with the name of a key
of the schema language. All that is read is of this kind, and so stays as it is when it is written and read
again. -/
theorem schemas_round_trip :
    RoundTrips Properties.toJson Properties.ofJson? sameFields (Properties.Every Schema.IsKeyed)
        (Properties.Every Schema.IsRepresentable) ∧
      RoundTrips FieldSchema.toJson FieldSchema.ofJson? FieldSchema.same
        (FieldSchema.Every Schema.IsKeyed) (FieldSchema.Every Schema.IsRepresentable) ∧
      RoundTrips Schema.toJson Schema.ofJson? sameSchema (Schema.Every Schema.IsKeyed)
        (Schema.Every Schema.IsRepresentable) :=
  ⟨Properties.roundTrips, FieldSchema.roundTrips, Schema.roundTrips⟩

/-- A name that is declared twice stays so, and a list of one schema or of one type stays a list. -/
example :
    let fields : Properties :=
      [("size", .single { type := some (.union ["integer"]) }), ("name", .union [{}]),
        ("size", .single { rules := RuleTable.ofList [("title", .null), ("minimum", .bool true)] })]
    Properties.toJson fields = .object
        [("size", .object [("type", .array [.string "integer"])]), ("name", .array [.object []]),
          ("size", .object [("minimum", .bool true), ("title", .null)])] ∧
      Properties.ofJson? (Properties.toJson fields) = some fields :=
  ⟨rfl, rfl⟩

end Intake
