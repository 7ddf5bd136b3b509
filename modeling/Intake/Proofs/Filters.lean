import Intake.Plan.Sanitize
import Intake.Proofs.Compiling

/-!
# Built-in rules are filters

Whatever a built-in rule is made of, it gives the value itself or a rejection, and it looks neither at
the key nor at the record around the value (`Rule.IsFilter`). So a row of such rules gives the value
itself exactly if each of them accepts it (`applyRules_eq_ok_iff`), for every key and record alike
(`applyRules_congr`). All rules that the built-in registry makes are of this kind
(`Yields.isFilter`), and each rule of a schema is there (`Yields.exists_constraint`).
-/

set_option autoImplicit false

namespace Intake

/-! ## Rows of filters -/

/-- A rule that is made of a constraint. -/
def Rule.IsFilter (rule : Rule) : Prop :=
  ∃ name constraint, rule = Rule.ofConstraint name constraint

/-- A filter that accepts a value gives that value. -/
theorem Rule.IsFilter.eq_of_ok {rule : Rule} {value result : Value} {key : String} {record : Record}
    (filter : rule.IsFilter) (h : rule value key record = .ok result) : result = value := by
  obtain ⟨name, constraint, rfl⟩ := filter
  unfold Rule.ofConstraint at h
  split at h
  · exact (Except.ok.inj h).symm
  · cases h

/-- A filter does not look at the key and the record. -/
theorem Rule.IsFilter.congr {rule : Rule} (filter : rule.IsFilter) (value : Value)
    (key₁ key₂ : String) (record₁ record₂ : Record) :
    rule value key₁ record₁ = rule value key₂ record₂ := by
  obtain ⟨name, constraint, rfl⟩ := filter
  rfl

/-- **A row of filters is a filter**: it gives the value itself, and only if each filter accepts it. -/
theorem applyRules_eq_ok_iff {rules : List Rule} {value result : Value} {key : String}
    {record : Record} (filters : ∀ rule ∈ rules, rule.IsFilter) :
    applyRules key record rules value = .ok result ↔
      result = value ∧ ∀ rule ∈ rules, rule value key record = .ok value := by
  induction rules with
  | nil =>
    simp only [applyRules, List.not_mem_nil, false_implies, implies_true, and_true]
    constructor
    · intro h
      exact (Except.ok.inj h).symm
    · intro h
      rw [h]
  | cons rule rest ih =>
    have here := filters rule List.mem_cons_self
    have later := ih fun other member => filters other (List.mem_cons_of_mem _ member)
    unfold applyRules
    cases first : rule value key record with
    | error cause => simp [first]
    | ok next =>
      obtain rfl : next = value := here.eq_of_ok first
      simp [first, later]

/-- A row of rules fails by one of them. -/
theorem exists_of_applyRules_eq_error {rules : List Rule} {value : Value} {key : String}
    {record : Record} {cause : Rejection} (h : applyRules key record rules value = .error cause) :
    ∃ rule ∈ rules, ∃ seen, rule seen key record = .error cause := by
  induction rules generalizing value with
  | nil => cases h
  | cons rule rest ih =>
    unfold applyRules at h
    cases first : rule value key record with
    | error other =>
      rw [first] at h
      exact ⟨rule, List.mem_cons_self, value, first.trans (congrArg _ (Except.error.inj h))⟩
    | ok next =>
      rw [first] at h
      obtain ⟨later, member, seen, fails⟩ := ih h
      exact ⟨later, List.mem_cons_of_mem _ member, seen, fails⟩

/-- A row of filters does not look at the key and the record. -/
theorem applyRules_congr {rules : List Rule} (filters : ∀ rule ∈ rules, rule.IsFilter)
    (value : Value) (key₁ key₂ : String) (record₁ record₂ : Record) :
    applyRules key₁ record₁ rules value = applyRules key₂ record₂ rules value := by
  induction rules generalizing value with
  | nil => rfl
  | cons rule rest ih =>
    have here := filters rule List.mem_cons_self
    have later := ih fun other member => filters other (List.mem_cons_of_mem _ member)
    unfold applyRules
    rw [here.congr value key₁ key₂ record₁ record₂]
    cases rule value key₂ record₂ with
    | error cause => rfl
    | ok next => exact later next

/-! ## The built-in registry -/

/-- An entry that is found stands in the registry. -/
theorem Registry.mem_of_get? {α : Type} {registry : Registry α} {name : String} {entry : α}
    (h : registry.get? name = some entry) : (name, entry) ∈ registry.entries := by
  obtain ⟨before, after, split, -⟩ := List.lookup_eq_some_iff.mp h
  rw [split]
  exact List.mem_append_right _ List.mem_cons_self

/-- Each keyword is registered under its name. -/
theorem RuleRegistry.get?_name [Engines] (keyword : Keyword) :
    RuleRegistry.builtin.get? keyword.name = some (RuleFactory.builtin keyword) := by
  cases keyword <;> rfl

/-- Nothing but keywords is registered. -/
theorem RuleRegistry.exists_keyword [Engines] {name : String} {factory : RuleFactory}
    (h : RuleRegistry.builtin.get? name = some factory) :
    ∃ keyword : Keyword, keyword.name = name ∧ factory = RuleFactory.builtin keyword := by
  have member := Registry.mem_of_get? h
  obtain ⟨keyword, -, entry⟩ := List.mem_map.mp member
  exact ⟨keyword, (Prod.ext_iff.mp entry).1, (Prod.ext_iff.mp entry).2.symm⟩

/-- No keyword is a key of the schema language. -/
theorem Keyword.not_isReserved (keyword : Keyword) : Schema.isReserved keyword.name = false := by
  cases keyword <;> rfl

/-- A built-in factory makes the rule of the constraint of its parameter. -/
theorem RuleFactory.builtin_ok [Engines] {keyword : Keyword} {param : Value} {name : String} {rule : Rule}
    (schema : Schema) (h : (RuleFactory.builtin keyword param name schema).value = .ok rule) :
    ∃ constraint, keyword.constraint param = .ok constraint ∧
      rule = Rule.ofConstraint name constraint := by
  unfold RuleFactory.builtin at h
  cases made : keyword.constraint param with
  | error reason => simp [made] at h
  | ok constraint =>
    simp only [made] at h
    exact ⟨constraint, rfl, (Except.ok.inj h).symm⟩

/-- The built-in rule of a keyword, made with a parameter in any schema, lets a value through if the
verdict holds, and refuses it if not, at any key of any record. -/
def Keyword.Decides [Engines] (keyword : Keyword) (param value : Value) (verdict : Prop) : Prop :=
  ∃ factory, RuleRegistry.builtin.get? keyword.name = some factory ∧ ∀ schema : Schema,
    ∃ rule, (factory param keyword.name schema).value = .ok rule ∧
      ∀ (key : String) (record : Record),
        (verdict → rule value key record = .ok value) ∧
          (¬verdict → ∃ reason, rule value key record = .error (.rule keyword.name reason))

/-- The verdict of a rule is whether its constraint accepts the value. -/
theorem Keyword.decides_iff [Engines] {keyword : Keyword} {param value : Value} {constraint : Constraint}
    {verdict : Prop} (made : keyword.constraint param = .ok constraint) :
    keyword.Decides param value verdict ↔ (constraint.accepts value = true ↔ verdict) := by
  have rule_ok (schema : Schema) : (RuleFactory.builtin keyword param keyword.name schema).value
      = .ok (Rule.ofConstraint keyword.name constraint) := by
    simp only [RuleFactory.builtin, made]
  constructor
  · rintro ⟨factory, registered, makes⟩
    obtain rfl : RuleFactory.builtin keyword = factory :=
      Option.some.inj ((RuleRegistry.get?_name keyword).symm.trans registered)
    obtain ⟨rule, rule_ok', judges⟩ := makes {}
    obtain rfl : Rule.ofConstraint keyword.name constraint = rule :=
      Except.ok.inj ((rule_ok {}).symm.trans rule_ok')
    obtain ⟨accepts, refuses⟩ := judges "" []
    by_cases holds : verdict
    · have accepted := accepts holds
      unfold Rule.ofConstraint at accepted
      split at accepted
      · simp_all
      · cases accepted
    · obtain ⟨reason, refused⟩ := refuses holds
      unfold Rule.ofConstraint at refused
      split at refused
      · cases refused
      · simp_all
  · intro same
    refine ⟨_, RuleRegistry.get?_name keyword, fun schema => ⟨_, rule_ok schema, fun key record => ?_⟩⟩
    unfold Rule.ofConstraint
    constructor
    · intro holds
      rw [if_pos (same.mpr holds)]
    · intro fails
      rw [if_neg (mt same.mp fails)]
      exact ⟨_, rfl⟩

namespace Compiler

variable {schema : Schema} {typeName : Option String} {alternative : Alternative}

/-- Each rule of an alternative is made of the parameter that its schema has for one of the keywords. -/
theorem Yields.exists_keyword [Engines] (yields : Yields builtin schema typeName alternative) :
    ∀ rule ∈ alternative.rules, ∃ keyword param constraint,
      (Keyword.name keyword, param) ∈ schema.rules.entries ∧
        Keyword.constraint keyword param = .ok constraint ∧
        rule = Rule.ofConstraint keyword.name constraint := by
  intro rule member
  obtain ⟨⟨key, param, factory⟩, listed, made⟩ := exists_mem_of_forall₂ yields.rules member
  obtain ⟨declared, -, registered⟩ := mem_liveRules_iff.mp listed
  obtain ⟨keyword, rfl, rfl⟩ := RuleRegistry.exists_keyword registered
  obtain ⟨constraint, accepted, rfl⟩ := RuleFactory.builtin_ok schema made
  exact ⟨keyword, param, constraint, declared, accepted, rfl⟩

/-- All rules of an alternative of built-in rules are filters. -/
theorem Yields.isFilter [Engines] (yields : Yields builtin schema typeName alternative) :
    ∀ rule ∈ alternative.rules, rule.IsFilter := by
  intro rule member
  obtain ⟨keyword, -, constraint, -, -, made⟩ := yields.exists_keyword rule member
  exact ⟨keyword.name, constraint, made⟩

/-- Each built-in rule of a schema is among the rules of its alternatives. -/
theorem Yields.exists_constraint [Engines] (yields : Yields builtin schema typeName alternative)
    {keyword : Keyword} {param : Value} (member : (keyword.name, param) ∈ schema.rules.entries) :
    ∃ constraint, keyword.constraint param = .ok constraint ∧
      Rule.ofConstraint keyword.name constraint ∈ alternative.rules := by
  have listed : ⟨keyword.name, param, RuleFactory.builtin keyword⟩
      ∈ liveRules builtin schema.rules.entries :=
    mem_liveRules_iff.mpr ⟨member, keyword.not_isReserved, RuleRegistry.get?_name keyword⟩
  obtain ⟨rule, present, made⟩ := exists_mem_of_forall₂ yields.rules.flip listed
  obtain ⟨constraint, accepted, rfl⟩ := RuleFactory.builtin_ok schema made
  exact ⟨constraint, accepted, present⟩

end Compiler

end Intake
