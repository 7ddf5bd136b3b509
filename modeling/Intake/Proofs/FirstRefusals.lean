import Intake.Proofs.Trials
import Intake.Proofs.ValueTrees

/-!
# The rule that refuses first

A built-in rule gives the very value that it was given, or a rejection in its own name
(`RuleRegistry.filters`). So the rules of a schema all judge the same value, the coerced one, whatever the
order in which they are applied: they let it through if each of them accepts it (`Yields.applyRules_ok_iff`),
and otherwise the rule that refuses it and has the least name gives the rejection
(`Yields.applyRules_error_iff`), since rules are applied in the order of their names.

What a schema without parts makes of a value can then be read off the schema (`scalars_judged`).
-/

set_option autoImplicit false

namespace Intake

open Compiler (builtin)

variable {schema : Schema} {typeName : Option String} {alternative : Alternative} {field : FieldSchema}
  {plan : FieldPlan} {value result coerced : Value} {cause : Rejection} {name key : String}
  {record : Record} {rule : Rule}

/-! ## The rules that a schema imposes -/

/-- A rule accepts a value at a key of a record. -/
def Rule.Accepts (rule : Rule) (value : Value) (key : String) (record : Record) : Prop :=
  ∃ result, rule value key record = .ok result

/-- What a rule accepts it does not refuse. -/
theorem Rule.Accepts.not_error (accepts : rule.Accepts value key record) :
    rule value key record ≠ .error cause := by
  obtain ⟨result, accepts⟩ := accepts
  rw [accepts]
  exact nofun

namespace Schema

/-- A schema imposes a rule by a name: the factory that is registered for the name makes the rule of the
parameter that the schema has for it. -/
def Imposes [Engines] (schema : Schema) (name : String) (rule : Rule) : Prop :=
  ∃ param factory, (name, param) ∈ schema.rules.entries ∧
    RuleRegistry.builtin.get? name = some factory ∧ (factory param name schema).value = .ok rule

/-- All rules that a schema imposes accept a value, each on its own. -/
def Accepts [Engines] (schema : Schema) (value : Value) (key : String) (record : Record) : Prop :=
  ∀ name rule, schema.Imposes name rule → rule.Accepts value key record

/-- Of the rules that a schema imposes, the one that refuses a value and has the least name refuses it
with this rejection. Names are ordered by their characters, which is the order of their bytes. -/
def FirstRefusal [Engines] (schema : Schema) (value : Value) (key : String) (record : Record)
    (cause : Rejection) : Prop :=
  ∃ name rule, schema.Imposes name rule ∧ rule value key record = .error cause ∧
    ∀ earlier other, schema.Imposes earlier other → earlier < name → other.Accepts value key record

end Schema

/-- A table has one parameter for each of its keys. -/
theorem RuleTable.unique {table : RuleTable} {param other : Value} (here : (name, param) ∈ table.entries)
    (there : (name, other) ∈ table.entries) : param = other := by
  have distinct : (Record.keys table.entries).Nodup :=
    List.pairwise_map.mpr (table.sorted.imp fun less => less.ne)
  have found := Record.get?_of_mem distinct here
  rw [Record.get?_of_mem distinct there] at found
  exact (Option.some.inj found).symm

/-- A schema imposes one rule at most under a name. -/
theorem Schema.Imposes.unique [Engines] {other : Rule} (here : schema.Imposes name rule)
    (there : schema.Imposes name other) : rule = other := by
  obtain ⟨param, factory, listed, registered, made⟩ := here
  obtain ⟨param', factory', listed', registered', made'⟩ := there
  obtain rfl := RuleTable.unique listed listed'
  obtain rfl := Option.some.inj (registered.symm.trans registered')
  exact Except.ok.inj (made.symm.trans made')

/-- There is one first refusal at most. -/
theorem Schema.FirstRefusal.unique [Engines] {other : Rejection}
    (here : schema.FirstRefusal value key record cause)
    (there : schema.FirstRefusal value key record other) : cause = other := by
  obtain ⟨name, rule, imposed, refuses, before⟩ := here
  obtain ⟨name', rule', imposed', refuses', before'⟩ := there
  rcases lt_trichotomy name name' with less | rfl | greater
  · exact absurd refuses (before' name rule imposed less).not_error
  · obtain rfl := imposed.unique imposed'
    exact Except.error.inj (refuses.symm.trans refuses')
  · exact absurd refuses' (before name' rule' imposed' greater).not_error

/-- What is refused first is not accepted. -/
theorem Schema.FirstRefusal.not_accepts [Engines] (first : schema.FirstRefusal value key record cause) :
    ¬schema.Accepts value key record := by
  intro accepts
  obtain ⟨name, rule, imposed, refuses, -⟩ := first
  exact absurd refuses (accepts name rule imposed).not_error

/-! ## Rows of rules -/

namespace RuleRegistry

/-- **Built-in rules are filters**: each gives the value itself or a rejection in its own name. -/
theorem filters [Engines] {factory : RuleFactory} {param : Value}
    (registered : builtin.get? name = some factory)
    (made : (factory param name schema).value = .ok rule) (value : Value) (key : String)
    (record : Record) :
    rule value key record = .ok value ∨
      ∃ reason, rule value key record = .error (.rule name reason) := by
  obtain ⟨keyword, rfl, rfl⟩ := exists_keyword registered
  obtain ⟨constraint, -, rfl⟩ := RuleFactory.builtin_ok schema made
  unfold Rule.ofConstraint
  split
  · exact Or.inl rfl
  · exact Or.inr ⟨_, rfl⟩

end RuleRegistry

/-- A filter accepts exactly what it hands back. -/
theorem Rule.IsFilter.accepts_iff (filter : rule.IsFilter) :
    rule.Accepts value key record ↔ rule value key record = .ok value := by
  constructor
  · rintro ⟨result, accepts⟩
    rw [accepts, filter.eq_of_ok accepts]
  · intro accepts
    exact ⟨value, accepts⟩

namespace Compiler

/-- Rules in a row refuse by one of them, and none that stands before it in the order of keys refuses. -/
theorem exists_first_error {lives : List LiveRule} {rules : List Rule}
    (row : List.Forall₂ (fun live rule => (live.factory live.param live.key schema).value = .ok rule)
      lives rules)
    (increasing : lives.Pairwise fun a b => a.key < b.key)
    (filters : ∀ rule ∈ rules, rule.IsFilter)
    (h : applyRules key record rules value = .error cause) :
    ∃ live ∈ lives, ∃ rule, (live.factory live.param live.key schema).value = .ok rule ∧
      rule value key record = .error cause ∧
      ∀ earlier ∈ lives, earlier.key < live.key → ∀ other,
        (earlier.factory earlier.param earlier.key schema).value = .ok other →
          other.Accepts value key record := by
  induction row with
  | nil => cases h
  | @cons live rule lives rules made _ ih =>
    obtain ⟨least, increasing⟩ := List.pairwise_cons.mp increasing
    obtain ⟨filter, filters⟩ := List.forall_mem_cons.mp filters
    unfold applyRules at h
    cases judged : rule value key record with
    | error other =>
      -- The row is in the order of keys, so what stands after the first rule has no lesser key.
      rw [judged] at h
      refine ⟨live, List.mem_cons_self, rule, made, judged.trans h, ?_⟩
      intro earlier member less
      rcases List.mem_cons.mp member with rfl | later
      · exact absurd less (lt_irrefl _)
      · exact absurd less (least earlier later).not_gt
    | ok next =>
      obtain rfl : next = value := filter.eq_of_ok judged
      rw [judged] at h
      obtain ⟨first, member, refusing, made', refuses, before⟩ := ih increasing filters h
      refine ⟨first, List.mem_cons_of_mem _ member, refusing, made', refuses, ?_⟩
      intro earlier member' less other makes
      rcases List.mem_cons.mp member' with rfl | later
      · obtain rfl : rule = other := Except.ok.inj (made.symm.trans makes)
        exact ⟨next, judged⟩
      · exact before earlier later less other makes

/-- The live rules are in the order of their keys. -/
theorem pairwise_liveRules [Engines] (table : RuleTable) :
    (builtin.liveRules table.entries).Pairwise fun a b => a.key < b.key := by
  refine List.Pairwise.filterMap _ ?_ table.sorted
  have keyed {entry : String × Value} {live : LiveRule} (h : (if Schema.isReserved entry.1 then none
      else (builtin.rules.get? entry.1).map fun factory => LiveRule.mk entry.1 entry.2 factory)
        = some live) : live.key = entry.1 := by
    rw [Option.ite_none_left_eq_some] at h
    obtain ⟨factory, -, rfl⟩ := Option.map_eq_some_iff.mp h.2
    rfl
  intro entry entry' less live found live' found'
  rw [keyed found, keyed found']
  exact less

/-- A schema imposes the rules that its live parameters are made into. -/
theorem imposes_iff [Engines] : schema.Imposes name rule ↔
    ∃ live ∈ builtin.liveRules schema.rules.entries, live.key = name ∧
      (live.factory live.param live.key schema).value = .ok rule := by
  constructor
  · rintro ⟨param, factory, declared, registered, made⟩
    obtain ⟨keyword, rfl, -⟩ := RuleRegistry.exists_keyword registered
    exact ⟨⟨_, param, factory⟩,
      mem_liveRules_iff.mpr ⟨declared, keyword.not_isReserved, registered⟩, rfl, made⟩
  · rintro ⟨live, listed, rfl, made⟩
    obtain ⟨declared, -, registered⟩ := mem_liveRules_iff.mp listed
    exact ⟨live.param, live.factory, declared, registered, made⟩

variable [Engines] (yields : Yields builtin schema typeName alternative)

include yields

/-- The rules of an alternative are those that its schema imposes. -/
theorem Yields.accepts_iff : schema.Accepts value key record ↔
    ∀ rule ∈ alternative.rules, rule value key record = .ok value := by
  constructor
  · intro accepts rule member
    obtain ⟨live, listed, made⟩ := exists_mem_of_forall₂ yields.rules member
    have imposed := imposes_iff.mpr ⟨live, listed, rfl, made⟩
    exact (yields.isFilter rule member).accepts_iff.mp (accepts _ rule imposed)
  · intro each name rule imposed
    obtain ⟨live, listed, -, made⟩ := imposes_iff.mp imposed
    obtain ⟨other, member, made'⟩ := exists_mem_of_forall₂ yields.rules.flip listed
    obtain rfl : other = rule := Except.ok.inj (made'.symm.trans made)
    exact ⟨value, each other member⟩

/-- **The rules of an alternative let a value through** if each rule of the schema accepts it, and do not
change it. -/
theorem Yields.applyRules_ok_iff : applyRules key record alternative.rules value = .ok result ↔
    result = value ∧ schema.Accepts value key record := by
  rw [yields.accepts_iff]
  exact applyRules_eq_ok_iff yields.isFilter

/-- **The rules of an alternative refuse a value** as the one does that refuses it and has the least
name. -/
theorem Yields.applyRules_error_iff : applyRules key record alternative.rules value = .error cause ↔
    schema.FirstRefusal value key record cause := by
  have refusal {cause : Rejection} (h : applyRules key record alternative.rules value = .error cause) :
      schema.FirstRefusal value key record cause := by
    obtain ⟨live, listed, rule, made, refuses, before⟩ :=
      exists_first_error yields.rules (pairwise_liveRules schema.rules) yields.isFilter h
    refine ⟨live.key, rule, imposes_iff.mpr ⟨live, listed, rfl, made⟩, refuses, ?_⟩
    intro name other imposed less
    obtain ⟨earlier, listed', rfl, made'⟩ := imposes_iff.mp imposed
    exact before earlier listed' less other made'
  constructor
  · exact refusal
  · -- Any other outcome of the row contradicts the refusal, of which there is one at most.
    intro first
    cases outcome : applyRules key record alternative.rules value with
    | ok result => exact absurd (yields.applyRules_ok_iff.mp outcome).2 first.not_accepts
    | error other => rw [(refusal outcome).unique first]

omit [Engines] yields

/-! ## Fields of one schema -/

/-- An attempt at an alternative goes through its coercion, its rules and the parts of the value. -/
theorem attemptAlternative_value (alternative : Alternative) (value : Value) (key : String)
    (record : Record) :
    (attemptAlternative alternative value key record).value =
      ((alternative.coerce value).bind (applyRules key record alternative.rules)).bind fun checked =>
        (attemptShape alternative.shape checked key record).value := by
  obtain ⟨typeName, coercion, rules, shape⟩ := alternative
  unfold attemptAlternative Alternative.check
  cases Alternative.coerce ⟨typeName, coercion, rules, shape⟩ value with
  | error cause => rfl
  | ok coerced => cases applied : applyRules key record rules coerced <;> simp [Except.bind, applied]

/-- A field with one schema of one type name at most has the alternative of that schema. -/
theorem exists_only [Engines] (only : field.alternatives = [schema]) (types : schema.typeNames.length ≤ 1)
    (compiled : (builtin.compileField field).value = .ok plan) :
    ∃ alternative, plan.alternatives = [alternative] ∧
      Yields builtin schema schema.typeNames.head? alternative := by
  have choices : field.choices = [(schema, schema.typeNames.head?)] := by
    rw [FieldSchema.choices, only]
    simp only [Schema.choices, List.flatMap_singleton, alternativeTypes]
    cases names : schema.typeNames with
    | nil => rfl
    | cons name others =>
      have none : others = [] := by simpa [names] using types
      rw [none]
      rfl
  have yields := (compileField_ok compiled).1
  rw [choices] at yields
  obtain ⟨alternative, rest, first, others, single⟩ := List.forall₂_cons_left_iff.mp yields
  rw [List.forall₂_nil_left_iff.mp others] at single
  exact ⟨alternative, single, first⟩

end Compiler

/-- An attempt at a value other than null resolves it. -/
theorem FieldPlan.attempt_of_ne_null (nonnull : value ≠ .null) (key : String) (record : Record) :
    (plan.attempt (some value) key record).value = (plan.resolve value key record).map some := by
  rw [FieldPlan.attempt_eq (effectiveInput_of_ne_null plan.default nonnull) nonnull]

/-! ## Schemas without parts -/

/-- A schema of one type at most that says nothing about elements or nested fields. -/
structure Schema.IsScalar (schema : Schema) : Prop where
  /-- It has one type name or none. -/
  types : schema.typeNames.length ≤ 1
  /-- It has no element schema. -/
  items : schema.items = none
  /-- It has no nested fields. -/
  properties : schema.properties = none

/-- A value in the type of a schema. Without a type, and with an unknown one, it stays as it is. -/
def Schema.coerce (schema : Schema) (value : Value) : Except Rejection Value :=
  match schema.typeNames.head?.bind TypeRegistry.builtin.get? with
  | some coercion => coercion value
  | none => .ok value

/-- A field with a schema without parts coerces a value and applies the rules to it. -/
theorem Compiler.exists_resolve_eq [Engines] (only : field.alternatives = [schema])
    (scalar : schema.IsScalar) (compiled : (builtin.compileField field).value = .ok plan) :
    ∃ alternative, Yields builtin schema schema.typeNames.head? alternative ∧
      ∀ value key record, plan.resolve value key record
        = (schema.coerce value).bind (applyRules key record alternative.rules) := by
  obtain ⟨alternative, single, yields⟩ := exists_only only scalar.types compiled
  refine ⟨alternative, yields, ?_⟩
  intro value key record
  have shape : alternative.shape = .scalar := by
    generalize parting : alternative.shape = shape
    have shapes := yields.shape
    rw [parting] at shapes
    cases shapes with
    | record some => rw [scalar.properties] at some; cases some
    | items _ some => rw [scalar.items] at some; cases some
    | scalar => rfl
  have coerced : alternative.coerce value = schema.coerce value := by
    simp only [Alternative.coerce, Schema.coerce, yields.coercion_scalar shape, shape]
    cases schema.typeNames.head?.bind TypeRegistry.builtin.get? <;> rfl
  rw [FieldPlan.resolve_singleton single, attemptAlternative_value, coerced, shape]
  cases (schema.coerce value).bind (applyRules key record alternative.rules) <;> rfl

/-- **Built-in rules judge the coerced value.** Each gives the value that it was given, or a rejection in its
own name. So a field with a schema without parts takes a value exactly if its coercion does and each rule of
the schema accepts the coerced value, which then is the result. The field refuses a value as the coercion
does, or as the rule does that refuses the coerced value and has the least name. -/
theorem scalars_judged [Engines] :
    (∀ (name : String) (factory : RuleFactory), RuleRegistry.builtin.get? name = some factory →
      ∀ (param : Value) (schema : Schema) (rule : Rule), (factory param name schema).value = .ok rule →
        ∀ (value : Value) (key : String) (record : Record), rule value key record = .ok value ∨
          ∃ reason, rule value key record = .error (.rule name reason)) ∧
      ∀ (field : FieldSchema) (schema : Schema) (plan : FieldPlan), field.alternatives = [schema] →
        schema.IsScalar → (builtin.compileField field).value = .ok plan →
          ∀ value : Value, value ≠ .null → ∀ (key : String) (record : Record),
            (∀ result, (plan.attempt (some value) key record).value = .ok result ↔
              ∃ coerced, schema.coerce value = .ok coerced ∧ schema.Accepts coerced key record ∧
                result = some coerced) ∧
            ∀ cause, (plan.attempt (some value) key record).value = .error cause ↔
              schema.coerce value = .error cause ∨
                ∃ coerced, schema.coerce value = .ok coerced ∧
                  schema.FirstRefusal coerced key record cause := by
  refine ⟨fun name factory registered param schema rule made => RuleRegistry.filters registered made, ?_⟩
  intro field schema plan only scalar compiled value nonnull key record
  obtain ⟨alternative, yields, resolved⟩ := Compiler.exists_resolve_eq only scalar compiled
  rw [FieldPlan.attempt_of_ne_null nonnull, resolved]
  cases schema.coerce value with
  | error other => simp [Except.bind, Except.map]
  | ok coerced =>
    have accepted : schema.Accepts coerced key record
        ↔ applyRules key record alternative.rules coerced = .ok coerced := by
      rw [yields.applyRules_ok_iff]
      exact (and_iff_right rfl).symm
    simp only [Except.bind, Except.ok.injEq, exists_eq_left', reduceCtorEq, false_or, accepted,
      ← yields.applyRules_error_iff]
    cases outcome : applyRules key record alternative.rules coerced with
    | ok judged =>
      obtain ⟨rfl, -⟩ := yields.applyRules_ok_iff.mp outcome
      simp [Except.map, eq_comm]
    | error other => simp [Except.map]

/-- The sizes that are sold. -/
def shoeSizes : List Value :=
  [.number (.integer 36 (by decide)), .number (.integer 38 (by decide)), .number (.integer 40 (by decide))]

/-- The least size. -/
def leastShoe : Number := .integer 37 (by decide)

/-- A size: an integer that is sold and not too small. -/
def shoeSchema : Schema where
  type := some (.one "integer")
  rules := RuleTable.ofList [("minimum", .number leastShoe), ("enum", .array shoeSizes)]

/-- The plan of a size. -/
def shoePlan : FieldPlan :=
  .mk [⟨some "integer", some Coercion.integer, [Rule.ofConstraint "enum" (.oneOf shoeSizes),
    Rule.ofConstraint "minimum" (.bound .atLeast leastShoe.toDouble)], .scalar⟩] none

/-- The rules of a size, in the order of their names. -/
theorem shoeSchema_imposes (imposed : shoeSchema.Imposes name rule) :
    (name = "enum" ∧ rule = Rule.ofConstraint "enum" (.oneOf shoeSizes)) ∨
      (name = "minimum" ∧
        rule = Rule.ofConstraint "minimum" (.bound .atLeast leastShoe.toDouble)) := by
  obtain ⟨param, factory, listed, registered, made⟩ := imposed
  have entries : shoeSchema.rules.entries
      = [("enum", .array shoeSizes), ("minimum", .number leastShoe)] := rfl
  simp only [entries, List.mem_cons, List.not_mem_nil, or_false, Prod.mk.injEq] at listed
  rcases listed with ⟨rfl, rfl⟩ | ⟨rfl, rfl⟩
  · obtain rfl := Option.some.inj ((RuleRegistry.get?_name .enum).symm.trans registered)
    exact Or.inl ⟨rfl, (Except.ok.inj made).symm⟩
  · obtain rfl := Option.some.inj ((RuleRegistry.get?_name .minimum).symm.trans registered)
    exact Or.inr ⟨rfl, (Except.ok.inj made).symm⟩

/-- A size that both rules refuse is refused by `enum`, whose name is less; one that both accept is read as
an integer. -/
theorem shoes_judged :
    (builtin.compileField (.single shoeSchema)).value = .ok shoePlan ∧ shoeSchema.IsScalar ∧
      (∃ reason, Rule.ofConstraint "minimum" (.bound .atLeast leastShoe.toDouble)
        (.number (.integer 35 (by decide))) "shoe" [] = .error (.rule "minimum" reason)) ∧
      (shoePlan.attempt (some (.string "35")) "shoe" []).value
        = .error (.rule "enum" "value is not one of 3 allowed values") ∧
      (shoePlan.attempt (some (.string "38")) "shoe" []).value
        = .ok (some (.number (.integer 38 (by decide)))) ∧
      (shoePlan.attempt (some (.string "big")) "shoe" []).value
        = .error (.coercion "integer" .string) := by
  have compiled : (builtin.compileField (.single shoeSchema)).value = .ok shoePlan := rfl
  have scalar : shoeSchema.IsScalar := ⟨by decide, rfl, rfl⟩
  have small : Constraint.accepts (.bound .atLeast leastShoe.toDouble)
      (.number (.integer 35 (by decide))) = false := by decide +kernel
  have large : Constraint.accepts (.bound .atLeast leastShoe.toDouble)
      (.number (.integer 38 (by decide))) = true := by decide +kernel
  have unsold : Constraint.accepts (.oneOf shoeSizes) (.number (.integer 35 (by decide))) = false := by
    decide +kernel
  have sold : Constraint.accepts (.oneOf shoeSizes) (.number (.integer 38 (by decide))) = true := by
    decide +kernel
  obtain ⟨filters, judged⟩ := scalars_judged
  have judges := judged (.single shoeSchema) shoeSchema shoePlan rfl scalar compiled
  have nonnull (text : String) : Value.string text ≠ .null := by rintro ⟨⟩
  refine ⟨compiled, scalar, ?_, ?_, ?_, ?_⟩
  · rcases filters "minimum" _ (RuleRegistry.get?_name .minimum) (.number leastShoe) shoeSchema _ rfl
      (.number (.integer 35 (by decide))) "shoe" [] with accepts | refuses
    · simp [Rule.ofConstraint, small] at accepts
    · exact refuses
  · have coerced : shoeSchema.coerce (.string "35") = .ok (.number (.integer 35 (by decide))) := by cbv
    refine ((judges (.string "35") (nonnull _) "shoe" []).2 _).mpr (Or.inr ⟨_, coerced, "enum", _,
      ⟨.array shoeSizes, _, List.mem_cons_self, RuleRegistry.get?_name .enum, rfl⟩, ?_, ?_⟩)
    · have words : Constraint.reason (.oneOf shoeSizes) = "value is not one of 3 allowed values" := by
        decide +kernel
      simp [Rule.ofConstraint, unsold, words]
    · intro earlier other imposed less
      rcases shoeSchema_imposes imposed with ⟨rfl, -⟩ | ⟨rfl, -⟩
      · exact absurd less (by decide)
      · exact absurd less (by decide)
  · have coerced : shoeSchema.coerce (.string "38") = .ok (.number (.integer 38 (by decide))) := by cbv
    refine ((judges (.string "38") (nonnull _) "shoe" []).1 _).mpr ⟨_, coerced, ?_, rfl⟩
    intro name rule imposed
    rcases shoeSchema_imposes imposed with ⟨-, rfl⟩ | ⟨-, rfl⟩
    · exact ⟨_, if_pos sold⟩
    · exact ⟨_, if_pos large⟩
  · exact ((judges (.string "big") (nonnull _) "shoe" []).2 _).mpr (Or.inl (by cbv))

end Intake
