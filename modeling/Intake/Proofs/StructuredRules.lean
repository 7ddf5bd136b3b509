import Intake.Proofs.Alternatives

/-!
# Rules and the parts of a value

An alternative applies its rules to the coerced value and sanitizes the elements or nested fields of
that value afterwards. So every rule accepts the coerced value (`rules_accept`), but what is handed back
may differ from it inside. Most rules do not look that deep and accept the result as well; those that do
may refuse it (`looking_inside_refuses`).
-/

set_option autoImplicit false

namespace Intake

open Compiler (builtin)

variable {key : String} {record : Record} {value coerced result : Value}

/-! ## Rules that look inside -/

/-- The keywords whose rules look at the elements of arrays or at the entries of records, where an
alternative sanitizes these. -/
def Keyword.LooksInside (keyword : Keyword) : Shape FieldPlan → Prop
  | .scalar => False
  | .items _ => keyword ∈ [Keyword.uniqueItems, .enum, .const]
  | .record _ => keyword ∈ [Keyword.enum, .const]

/-- The constraints that do not look at the parts of a value. -/
def Constraint.IsShallow : Constraint → Prop
  | .distinct _ => False
  | .oneOf _ => False
  | .equal _ => False
  | _ => True

/-- All keywords but three make shallow constraints. -/
theorem Keyword.isShallow [Engines] {keyword : Keyword} {param : Value} {constraint : Constraint}
    (made : keyword.constraint param = .ok constraint)
    (other : keyword ∉ [Keyword.uniqueItems, .enum, .const]) : constraint.IsShallow := by
  unfold Keyword.constraint at made
  cases keyword with
  | minimum | maximum | exclusiveMinimum | exclusiveMaximum =>
    obtain ⟨limit, -, rfl⟩ := map_eq_ok made
    trivial
  | minLength | maxLength | minItems | maxItems =>
    obtain ⟨limit, -, rfl⟩ := map_eq_ok made
    trivial
  | multipleOf =>
    obtain ⟨step, -, made⟩ := bind_eq_ok made
    unfold multipleOfStep at made
    split at made <;> cases made
    trivial
  | pattern =>
    obtain ⟨source, -, made⟩ := bind_eq_ok made
    obtain ⟨isFound, -, rfl⟩ := map_eq_ok made
    trivial
  | format =>
    obtain ⟨name, -, made⟩ := bind_eq_ok made
    obtain ⟨format?, -, rfl⟩ := map_eq_ok made
    cases format? <;> trivial
  | uniqueItems | enum | const => simp at other

/-- A shallow constraint sees the number of elements of an array and nothing else. -/
theorem Constraint.IsShallow.accepts_array {constraint : Constraint} (shallow : constraint.IsShallow)
    {elements results : List Value} (count : elements.length = results.length) :
    constraint.accepts (.array elements) = constraint.accepts (.array results) := by
  cases constraint with
  | distinct | oneOf | equal => cases shallow
  | count => simp only [accepts, count]
  | _ => rfl

/-- A shallow constraint accepts every record. -/
theorem Constraint.IsShallow.accepts_object {constraint : Constraint} (shallow : constraint.IsShallow)
    (entries : Record) : constraint.accepts (.object entries) = true := by
  cases constraint with
  | distinct | oneOf | equal => cases shallow
  | _ => rfl

/-- A rule that does not look inside does not see that parts have been sanitized. -/
theorem Sanitizes.accepts_congr [Engines] {shape : Shape FieldPlan} {keyword : Keyword} {param : Value}
    {constraint : Constraint} (parts : Sanitizes key record shape coerced result)
    (made : keyword.constraint param = .ok constraint) (outside : ¬ keyword.LooksInside shape) :
    constraint.accepts result = constraint.accepts coerced := by
  cases parts with
  | scalar => rfl
  | items each => exact (Keyword.isShallow made outside).accepts_array each.length_eq.symm
  | record entries =>
    by_cases unique : keyword = .uniqueItems
    · -- Records have no elements that could be alike.
      subst unique
      obtain ⟨required, -, rfl⟩ := map_eq_ok made
      rfl
    · have other : keyword ∉ [Keyword.uniqueItems, .enum, .const] := by
        intro listed
        exact (List.mem_cons.mp listed).elim unique outside
      have shallow := Keyword.isShallow made other
      rw [shallow.accepts_object, shallow.accepts_object]

/-! ## What rules accept -/

/-- A rule that gives the value itself accepts it. -/
theorem Rule.accepts_of_ofConstraint {name : String} {constraint : Constraint}
    (h : Rule.ofConstraint name constraint value key record = .ok value) :
    constraint.accepts value = true := by
  unfold Rule.ofConstraint at h
  split at h
  · assumption
  · cases h

/-- **What the rules of a schema accept.** Where an alternative of a schema succeeds, all rules of the
schema accept the coerced value, of which the result is made by sanitizing elements or nested fields.
The rules that do not look inside accept the result too. -/
theorem rules_accept [Engines] {schema : Schema} {alternatives : List Alternative}
    {alternative : Alternative} (compiled : (builtin.compileSchema schema).value = .ok alternatives)
    (member : alternative ∈ alternatives)
    (succeeds : (attemptAlternative alternative value key record).value = .ok result) :
    ∃ coerced, alternative.coerce value = .ok coerced ∧
      Sanitizes key record alternative.shape coerced result ∧
      ∀ (keyword : Keyword) (param : Value), (keyword.name, param) ∈ schema.rules.entries →
        ∃ constraint, keyword.constraint param = .ok constraint ∧
          constraint.accepts coerced = true ∧
          (¬ keyword.LooksInside alternative.shape → constraint.accepts result = true) := by
  obtain ⟨typeName, -, yields⟩ := exists_mem_of_forall₂ (Compiler.compileSchema_ok compiled) member
  obtain ⟨coerced, coerce_ok, accepted, parts⟩ := yields.attempt_ok succeeds
  refine ⟨coerced, coerce_ok, parts, ?_⟩
  intro keyword param entry
  obtain ⟨constraint, made, present⟩ := yields.exists_constraint entry
  have first : constraint.accepts coerced = true :=
    Rule.accepts_of_ofConstraint (accepted _ present)
  refine ⟨constraint, made, first, ?_⟩
  intro outside
  rw [parts.accepts_congr made outside]
  exact first

/-! ## What rules may refuse -/

/-- Two tickets with the same number, once as a text. -/
def mixedTickets : Value := .array [.string "1", .number (.integer 1 (by decide))]

/-- Two tickets with the same number. -/
def equalTickets : Value :=
  .array [.number (.integer 1 (by decide)), .number (.integer 1 (by decide))]

/-- Two is an integer of sixty-four bits. -/
theorem two_fits : -0x8000000000000000 ≤ (2 : Int) ∧ (2 : Int) < 0x10000000000000000 := by decide

/-- The schema of two tickets with different numbers, which allows the mixed ones only. -/
def ticketSchema : Schema where
  type := some (.one "array")
  items := some (.single { type := some (.one "integer") })
  rules := RuleTable.ofList [("const", mixedTickets), ("enum", .array [mixedTickets]),
    ("maxItems", .number (.integer 2 two_fits)), ("uniqueItems", .bool true)]

/-- What the schema of tickets compiles to. -/
def ticketAlternative : Alternative where
  typeName := some "array"
  coercion := some Coercion.array
  rules := [Rule.ofConstraint "const" (.equal mixedTickets),
    Rule.ofConstraint "enum" (.oneOf [mixedTickets]),
    Rule.ofConstraint "maxItems" (.count .atMost 2),
    Rule.ofConstraint "uniqueItems" (.distinct true)]
  shape := .items (.mk [⟨some "integer", some Coercion.integer, [], .scalar⟩] none)

/-- The schema of tickets has one alternative. -/
theorem ticketSchema_ok : (builtin.compileSchema ticketSchema).value = .ok [ticketAlternative] := rfl

/-- Mixed tickets become equal ones. -/
theorem ticketAlternative_ok :
    (attemptAlternative ticketAlternative mixedTickets "tickets" []).value = .ok equalTickets := by
  cbv

/-- There are not too many tickets after their numbers have been read. -/
theorem tickets_accepted :
    (builtin.compileSchema ticketSchema).value = .ok [ticketAlternative] ∧
      (attemptAlternative ticketAlternative mixedTickets "tickets" []).value = .ok equalTickets ∧
      ∃ constraint, Keyword.maxItems.constraint (.number (.integer 2 (by decide))) = .ok constraint ∧
        constraint.accepts equalTickets = true := by
  refine ⟨ticketSchema_ok, ticketAlternative_ok, ?_⟩
  obtain ⟨coerced, -, -, rules⟩ :=
    rules_accept ticketSchema_ok List.mem_cons_self ticketAlternative_ok
  have listed : ("maxItems", .number (.integer 2 (by decide))) ∈ ticketSchema.rules.entries :=
    List.mem_cons_of_mem _ (List.mem_cons_of_mem _ List.mem_cons_self)
  obtain ⟨constraint, made, -, accepts⟩ := rules .maxItems _ listed
  have outside : Keyword.maxItems ∉ [Keyword.uniqueItems, .enum, .const] := by decide
  exact ⟨constraint, made, accepts outside⟩

/-- A badge whose number is a text. -/
def textBadge : Value := .object [("number", .string "1")]

/-- A badge with a number. -/
def numberBadge : Value := .object [("number", .number (.integer 1 (by decide)))]

/-- The schema of badges, which allows only the one whose number is a text. -/
def badgeSchema : Schema where
  properties := some [("number", .single { type := some (.one "integer") })]
  rules := RuleTable.ofList [("const", textBadge), ("enum", .array [textBadge])]

/-- What the schema of badges compiles to. -/
def badgeAlternative : Alternative where
  typeName := none
  coercion := some Coercion.object
  rules := [Rule.ofConstraint "const" (.equal textBadge),
    Rule.ofConstraint "enum" (.oneOf [textBadge])]
  shape := .record [("number", .mk [⟨some "integer", some Coercion.integer, [], .scalar⟩] none)]

/-- Whatever alternatives of some shape give, the rule of the keyword in their schema accepts it. -/
def Keyword.AcceptsResults [Engines] (keyword : Keyword) (structured : Shape FieldPlan → Prop) : Prop :=
  ∀ (schema : Schema) (alternatives : List Alternative) (alternative : Alternative)
    (value result param : Value) (key : String) (record : Record) (constraint : Constraint),
    (builtin.compileSchema schema).value = .ok alternatives → alternative ∈ alternatives →
      structured alternative.shape → value ≠ .null →
      (attemptAlternative alternative value key record).value = .ok result →
      (keyword.name, param) ∈ schema.rules.entries → keyword.constraint param = .ok constraint →
      constraint.accepts result = true

/-- One refused result is enough. -/
theorem Keyword.not_acceptsResults [Engines] {keyword : Keyword} {structured : Shape FieldPlan → Prop}
    {schema : Schema} {alternative : Alternative} {param : Value} {constraint : Constraint}
    (compiled : (builtin.compileSchema schema).value = .ok [alternative])
    (shape : structured alternative.shape) (nonnull : value ≠ .null)
    (succeeds : (attemptAlternative alternative value key record).value = .ok result)
    (entry : (keyword.name, param) ∈ schema.rules.entries)
    (made : keyword.constraint param = .ok constraint)
    (refused : constraint.accepts result = false) : ¬ keyword.AcceptsResults structured := by
  intro accepts
  have accepted := accepts schema [alternative] alternative value result param key record constraint
    compiled List.mem_cons_self shape nonnull succeeds entry made
  rw [refused] at accepted
  cases accepted

/-- **Rules that look inside may refuse the result.** The tickets are distinct, and are those allowed,
until their numbers are read; and so is the badge the one allowed. -/
theorem looking_inside_refuses :
    (∀ keyword ∈ [Keyword.uniqueItems, .enum, .const],
      ¬ keyword.AcceptsResults fun shape => ∃ plan, shape = .items plan) ∧
      ∀ keyword ∈ [Keyword.enum, .const],
        ¬ keyword.AcceptsResults fun shape => ∃ fields, shape = .record fields := by
  constructor
  · have items : ∃ plan, ticketAlternative.shape = .items plan := ⟨_, rfl⟩
    have nonnull : mixedTickets ≠ .null := by simp [mixedTickets]
    have const : ("const", mixedTickets) ∈ ticketSchema.rules.entries := List.mem_cons_self
    have enum : ("enum", .array [mixedTickets]) ∈ ticketSchema.rules.entries :=
      List.mem_cons_of_mem _ List.mem_cons_self
    have uniqueItems : ("uniqueItems", .bool true) ∈ ticketSchema.rules.entries :=
      List.mem_cons_of_mem _ (List.mem_cons_of_mem _ (List.mem_cons_of_mem _ List.mem_cons_self))
    simp only [List.mem_cons, List.not_mem_nil, or_false, forall_eq_or_imp, forall_eq]
    refine ⟨?_, ?_, ?_⟩
    · exact Keyword.not_acceptsResults ticketSchema_ok items nonnull ticketAlternative_ok uniqueItems
        rfl (by cbv)
    · exact Keyword.not_acceptsResults ticketSchema_ok items nonnull ticketAlternative_ok enum
        rfl (by cbv)
    · exact Keyword.not_acceptsResults ticketSchema_ok items nonnull ticketAlternative_ok const
        rfl (by cbv)
  · have fields : ∃ fields, badgeAlternative.shape = .record fields := ⟨_, rfl⟩
    have nonnull : textBadge ≠ .null := by simp [textBadge]
    have const : ("const", textBadge) ∈ badgeSchema.rules.entries := List.mem_cons_self
    have enum : ("enum", .array [textBadge]) ∈ badgeSchema.rules.entries :=
      List.mem_cons_of_mem _ List.mem_cons_self
    have compiled : (builtin.compileSchema badgeSchema).value = .ok [badgeAlternative] := rfl
    have succeeds : (attemptAlternative badgeAlternative textBadge "badge" []).value
        = .ok numberBadge := by cbv
    simp only [List.mem_cons, List.not_mem_nil, or_false, forall_eq_or_imp, forall_eq]
    refine ⟨?_, ?_⟩
    · exact Keyword.not_acceptsResults compiled fields nonnull succeeds enum rfl (by cbv)
    · exact Keyword.not_acceptsResults compiled fields nonnull succeeds const rfl (by cbv)

end Intake
