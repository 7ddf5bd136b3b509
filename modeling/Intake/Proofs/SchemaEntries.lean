import Intake.Proofs.ByteOrder
import Intake.Proofs.SchemaReading

/-!
# What the entries of a schema object give

The reader sets one part of a schema after the other, in the order of the entries. The schema that comes out
can be said without this order (`Schema.IsGivenBy`): each part is what the last entry of its key gives,
where null gives nothing, and the parameters of the rules are those of the other keys
(`RuleTable.Collects`). One entry more keeps this (`Schema.IsGivenBy.append`), and there is one such schema
only (`Schema.IsGivenBy.unique`); so it is what a schema that has been read is, and if each key of the
schema language is given once, what can be read (`schemaOfJson?_iff_isGivenBy`).
-/

set_option autoImplicit false

namespace Intake

variable {entries : List (String × Json)} {key k : String} {tree : Json}

/-! ## Entries -/

namespace Json

/-- The tree of the last entry of a key. -/
def last? (entries : List (String × Json)) (key : String) : Option Json :=
  entries.reverse.lookup key

/-- What an object gives under a key. -/
def given? (entries : List (String × Json)) (key : String) : Option Json :=
  (last? entries key).bind nonNull?

/-- One more entry is the last one under its key, and under no other key. -/
theorem last?_append :
    last? (entries ++ [(key, tree)]) k = if k = key then some tree else last? entries k := by
  simp only [last?, List.reverse_append, List.reverse_singleton, List.singleton_append, List.lookup_cons]
  split_ifs with same
  · rw [same, beq_self_eq_true]
  · rw [beq_false_of_ne same]

/-- One more entry is the last one under its key. -/
theorem last?_append_self : last? (entries ++ [(key, tree)]) key = some tree := by
  rw [last?_append, if_pos rfl]

/-- One more entry changes nothing under other keys. -/
theorem last?_append_of_ne (other : k ≠ key) : last? (entries ++ [(key, tree)]) k = last? entries k := by
  rw [last?_append, if_neg other]

/-- One more entry gives its tree under its key, unless it is null. -/
theorem given?_append_self : given? (entries ++ [(key, tree)]) key = tree.nonNull? := by
  rw [given?, last?_append_self, Option.bind_some]

/-- One more entry changes nothing that is given under other keys. -/
theorem given?_append_of_ne (other : k ≠ key) :
    given? (entries ++ [(key, tree)]) k = given? entries k := by
  rw [given?, last?_append_of_ne other, given?]

/-- What is given stands in the object. -/
theorem mem_of_given? (found : given? entries key = some tree) : (key, tree) ∈ entries := by
  obtain ⟨last, last_ok, given⟩ := Option.bind_eq_some_iff.mp found
  obtain rfl : last = tree := by
    cases last with
    | null => cases given
    | _ => exact Option.some.inj given
  obtain ⟨before, after, split, -⟩ := List.lookup_eq_some_iff.mp last_ok
  rw [← List.mem_reverse, split]
  exact List.mem_append_right _ List.mem_cons_self

/-- The entry of a key that occurs once is the last one. -/
theorem last?_eq_of_mem (once : (entries.map Prod.fst).count key ≤ 1) (member : (key, tree) ∈ entries) :
    last? entries key = some tree := by
  obtain ⟨before, after, rfl⟩ := List.append_of_mem member
  rw [List.map_append, List.map_cons, List.count_append, List.count_cons_self] at once
  have absent : key ∉ after.map Prod.fst := List.count_eq_zero.mp (by omega)
  refine List.lookup_eq_some_iff.mpr ⟨after.reverse, before.reverse, by simp, ?_⟩
  intro entry later
  have listed : entry.1 ∈ after.map Prod.fst := List.mem_map_of_mem (List.mem_reverse.mp later)
  exact bne_iff_ne.mpr (ne_of_mem_of_not_mem listed absent).symm

end Json

/-! ## Rules -/

namespace RuleTable

variable {table other : RuleTable} {param : Value}

/-- The table has the parameters of the keys that are none of the schema language, each from its last
entry. -/
structure Collects (table : RuleTable) (entries : List (String × Json)) : Prop where
  /-- The keys are in the order of their bytes. -/
  sorted : table.entries.Pairwise fun a b => Text.bytes a.1 < Text.bytes b.1
  /-- The parameters are the last ones of their keys. -/
  mem_iff : ∀ key param, (key, param) ∈ table.entries ↔
    key ∉ Schema.reservedKeys ∧ (Json.last? entries key).map Value.ofJson = some param

/-- The rules of a table are sorted by the bytes of their keys. -/
theorem sorted_bytes (table : RuleTable) :
    table.entries.Pairwise fun a b => Text.bytes a.1 < Text.bytes b.1 :=
  table.sorted.imp Text.bytes_lt_iff.mpr

/-- A rule takes the place of the one under its key and leaves all others. -/
theorem mem_insertSorted_iff {rules : List (String × Value)}
    (sorted : rules.Pairwise fun a b => a.1 < b.1) {entry : String × Value} :
    entry ∈ insertSorted key param rules ↔ entry = (key, param) ∨ entry.1 ≠ key ∧ entry ∈ rules := by
  induction rules with
  | nil => simp [insertSorted]
  | cons first rest ih =>
    obtain ⟨k, p⟩ := first
    obtain ⟨least, others⟩ := List.pairwise_cons.mp sorted
    rw [insertSorted]
    split_ifs with before after
    · have other : ∀ entry ∈ (k, p) :: rest, entry.1 ≠ key := by
        intro entry member
        rcases List.mem_cons.mp member with rfl | later
        · exact (String.ne_of_lt before).symm
        · exact (String.ne_of_lt (String.lt_trans before (least entry later))).symm
      rw [List.mem_cons, and_iff_right_of_imp (other entry)]
    · have other : entry = (k, p) → entry.1 ≠ key := by
        rintro rfl
        exact String.ne_of_lt after
      rw [List.mem_cons, ih others, List.mem_cons, and_or_left, and_iff_right_of_imp other, or_left_comm]
    · obtain rfl : k = key := String.le_antisymm before after
      have other : entry ∈ rest → entry.1 ≠ k := fun later => (String.ne_of_lt (least entry later)).symm
      have here : ¬(entry.1 ≠ k ∧ entry = (k, p)) := by
        rintro ⟨ne, rfl⟩
        exact ne rfl
      rw [List.mem_cons, List.mem_cons, and_or_left, or_iff_right here, and_iff_right_of_imp other]

/-- Tables of the same parameters are the same. -/
theorem ext_mem (same : ∀ entry, entry ∈ table.entries ↔ entry ∈ other.entries) : table = other := by
  apply ext_entries
  have irrefl : Std.Irrefl fun a b : String × Value => a.1 < b.1 := ⟨fun a => String.lt_irrefl a.1⟩
  have antisymm : Std.Antisymm fun a b : String × Value => a.1 < b.1 :=
    ⟨fun a b less greater => absurd greater (String.lt_asymm less)⟩
  exact table.sorted.eq_of_mem_iff other.sorted same

/-- Entries are collected in one table only. -/
theorem Collects.unique (collects : table.Collects entries) (collects' : other.Collects entries) :
    table = other := by
  apply ext_mem
  rintro ⟨key, param⟩
  rw [collects.mem_iff, collects'.mem_iff]

/-- One more entry under a key of the schema language adds no rule. -/
theorem Collects.append_reserved (collects : table.Collects entries) (reserved : key ∈ Schema.reservedKeys) :
    table.Collects (entries ++ [(key, tree)]) where
  sorted := collects.sorted
  mem_iff := by
    intro k param
    rw [collects.mem_iff]
    refine and_congr_right fun unreserved => ?_
    rw [Json.last?_append_of_ne (ne_of_mem_of_not_mem reserved unreserved).symm]

/-- One more entry under another key is one more rule. -/
theorem Collects.append_rule (collects : table.Collects entries) (unreserved : key ∉ Schema.reservedKeys) :
    (table.insert key (Value.ofJson tree)).Collects (entries ++ [(key, tree)]) where
  sorted := sorted_bytes _
  mem_iff := by
    intro k param
    have member : (k, param) ∈ (table.insert key (Value.ofJson tree)).entries ↔
        (k, param) = (key, Value.ofJson tree) ∨ k ≠ key ∧ (k, param) ∈ table.entries :=
      mem_insertSorted_iff table.sorted
    rw [member, collects.mem_iff, Json.last?_append]
    split_ifs with same
    · subst same
      simp [unreserved, eq_comm]
    · simp [same]

end RuleTable

/-! ## Schemas -/

/-- What is related to an option by a function is unique. -/
theorem rel_unique {α β : Type} {r : α → β → Prop} {option : Option α} {first second : Option β}
    (functional : ∀ a b c, r a b → r a c → b = c) (h₁ : Option.Rel r option first)
    (h₂ : Option.Rel r option second) : first = second := by
  cases h₁ with
  | none =>
    cases h₂
    rfl
  | some first =>
    cases h₂ with
    | some second => rw [functional _ _ _ first second]

/-- Lists correspond to others if each of their elements has a partner. -/
theorem exists_forall₂_iff {α β : Type} {r : α → β → Prop} {as : List α} :
    (∃ bs, List.Forall₂ r as bs) ↔ ∀ a ∈ as, ∃ b, r a b := by
  induction as with
  | nil => simp
  | cons a as ih =>
    rw [List.forall_mem_cons, ← ih]
    constructor
    · rintro ⟨_, _ | ⟨first, others⟩⟩
      exact ⟨⟨_, first⟩, _, others⟩
    · rintro ⟨⟨b, first⟩, bs, others⟩
      exact ⟨b :: bs, .cons first others⟩

/-- The schema is what the entries of an object give, where field schemas and named fields are read from
trees in a given way. -/
structure Schema.IsGivenBy (reads : Json → FieldSchema → Prop) (readsFields : Json → Properties → Prop)
    (entries : List (String × Json)) (schema : Schema) : Prop where
  /-- The type is the one that is given. -/
  type : Option.Rel Json.DenotesType (Json.given? entries "type") schema.type
  /-- The default is the value that is given. -/
  default : schema.default = (Json.given? entries "default").map Value.ofJson
  /-- The element schema is read from the tree that is given. -/
  items : Option.Rel reads (Json.given? entries "items") schema.items
  /-- The nested fields are read from the tree that is given. -/
  properties : Option.Rel readsFields (Json.given? entries "properties") schema.properties
  /-- The parameters are those of the other keys. -/
  rules : schema.rules.Collects entries

namespace Schema.IsGivenBy

variable {reads : Json → FieldSchema → Prop} {readsFields : Json → Properties → Prop} {schema : Schema}

/-- No entries give the empty schema. -/
theorem start : Schema.IsGivenBy reads readsFields [] {} where
  type := .none
  default := rfl
  items := .none
  properties := .none
  rules := ⟨.nil, by simp [RuleTable.empty, Json.last?]⟩

/-- **One entry more**: the part that it says is set. -/
theorem append {part : SchemaPart FieldSchema}
    (given : schema.IsGivenBy FieldSchema.IsReadFrom Properties.IsReadFrom entries)
    (said : EntrySays key tree part) :
    Schema.IsGivenBy FieldSchema.IsReadFrom Properties.IsReadFrom (entries ++ [(key, tree)])
      (schema.withPart part) := by
  obtain ⟨type, default, items, properties, rules⟩ := given
  -- The part of the key is set to what the entry gives, and the others are kept.
  cases said with
  | type read =>
    constructor
    case type => rwa [Json.given?_append_self]
    case rules => exact rules.append_reserved (by decide)
    all_goals rwa [Json.given?_append_of_ne (by decide)]
  | default tree =>
    constructor
    case default =>
      rw [Json.given?_append_self]
      rfl
    case rules => exact rules.append_reserved (by decide)
    all_goals rwa [Json.given?_append_of_ne (by decide)]
  | items read =>
    constructor
    case items => rwa [Json.given?_append_self]
    case rules => exact rules.append_reserved (by decide)
    all_goals rwa [Json.given?_append_of_ne (by decide)]
  | properties read =>
    constructor
    case properties => rwa [Json.given?_append_self]
    case rules => exact rules.append_reserved (by decide)
    all_goals rwa [Json.given?_append_of_ne (by decide)]
  | rule unreserved tree =>
    constructor
    case rules => exact rules.append_rule unreserved
    all_goals rwa [Json.given?_append_of_ne (ne_of_mem_of_not_mem (by decide) unreserved)]

/-- The entries of an object, one after the other. -/
theorem foldl {done : List (String × Json)} {parts : List (SchemaPart FieldSchema)}
    (given : schema.IsGivenBy FieldSchema.IsReadFrom Properties.IsReadFrom done)
    (said : List.Forall₂ (fun entry part => EntrySays entry.1 entry.2 part) entries parts) :
    Schema.IsGivenBy FieldSchema.IsReadFrom Properties.IsReadFrom (done ++ entries)
      (parts.foldl SchemaOver.withPart schema) := by
  induction said generalizing done schema with
  | nil => rwa [List.append_nil]
  | cons first _ ih =>
    rw [List.append_cons]
    exact ih (given.append first)

/-- There is one such schema. -/
theorem unique {other : Schema}
    (given : schema.IsGivenBy FieldSchema.IsReadFrom Properties.IsReadFrom entries)
    (given' : other.IsGivenBy FieldSchema.IsReadFrom Properties.IsReadFrom entries) : schema = other := by
  have type : schema.type = other.type :=
    rel_unique (fun _ _ _ denoted denoted' =>
      Option.some.inj (Option.some.inj (denoted.ofJson?.symm.trans denoted'.ofJson?))) given.type given'.type
  have default : schema.default = other.default := given.default.trans given'.default.symm
  have items : schema.items = other.items :=
    rel_unique (fun _ _ _ read read' => Option.some.inj (read.symm.trans read')) given.items given'.items
  have properties : schema.properties = other.properties :=
    rel_unique (fun _ _ _ read read' => Option.some.inj (Option.some.inj (read.symm.trans read')))
      given.properties given'.properties
  have rules : schema.rules = other.rules := given.rules.unique given'.rules
  cases schema
  cases other
  simp only at type default items properties rules
  subst type default items properties rules
  rfl

end Schema.IsGivenBy

/-- If no key of the schema language is repeated, each entry says a part of a schema that is given, and this
schema is put together from these parts. -/
theorem Schema.isGivenBy_iff {schema : Schema} (once : reservedOnce entries = true) :
    schema.IsGivenBy FieldSchema.IsReadFrom Properties.IsReadFrom entries ↔
      ∃ parts, List.Forall₂ (fun entry part => EntrySays entry.1 entry.2 part) entries parts ∧
        SchemaOver.ofParts parts = schema := by
  constructor
  · intro given
    have each : ∀ entry ∈ entries, ∃ part, EntrySays entry.1 entry.2 part := by
      rintro ⟨key, tree⟩ member
      by_cases reserved : key ∈ Schema.reservedKeys
      · have last := Json.last?_eq_of_mem (reservedOnce_iff.mp once key reserved) member
        have only : Json.given? entries key = tree.nonNull? := by rw [Json.given?, last, Option.bind_some]
        simp only [Schema.reservedKeys, List.mem_cons, List.not_mem_nil, or_false] at reserved
        obtain ⟨type, -, items, properties, -⟩ := given
        rcases reserved with rfl | rfl | rfl | rfl
        · exact ⟨_, .type (only ▸ type)⟩
        · exact ⟨_, .default tree⟩
        · exact ⟨_, .items (only ▸ items)⟩
        · exact ⟨_, .properties (only ▸ properties)⟩
      · exact ⟨_, .rule reserved tree⟩
    obtain ⟨parts, said⟩ := exists_forall₂_iff.mpr each
    exact ⟨parts, said, (IsGivenBy.start.foldl said).unique given⟩
  · rintro ⟨parts, said, rfl⟩
    exact IsGivenBy.start.foldl said

/-- **Reading a schema**: the tree is an object that does not repeat the keys of the schema language, and the
schema is what its entries give. -/
theorem schemaOfJson?_iff_isGivenBy {schema : Schema} :
    schemaOfJson? tree = some schema ↔ ∃ entries, tree = .object entries ∧ reservedOnce entries = true ∧
      schema.IsGivenBy FieldSchema.IsReadFrom Properties.IsReadFrom entries := by
  rw [schemaOfJson?_eq_some_iff]
  refine exists_congr fun entries => ?_
  simp only [entryPart?_eq_some_iff, exists_and_left]
  refine and_congr_right fun _ => and_congr_right fun once => ?_
  exact (Schema.isGivenBy_iff once).symm

end Intake
