import Intake.Proofs.TypedResults

/-!
# The results of attempts

What attempts give, without the events on the way. An attempt at a field resolves the effective input
by the first alternative that succeeds (`attempt_value`, `exists_alternative`); an attempt at an
alternative coerces the value, applies the rules and then sanitizes the parts
(`attemptAlternative_ok`); an attempt at an array goes through its elements one by one
(`attemptEach_ok`).
-/

set_option autoImplicit false

namespace Intake

variable {key key₁ key₂ : String} {record record₁ record₂ : Record} {value result : Value}

/-! ## Fields -/

/-- A null input counts as missing where there is a default. -/
@[simp] theorem effectiveInput_null (default : Option Value) :
    effectiveInput default (some .null) = default.or (some .null) := rfl

/-- An input other than null is the effective one. -/
theorem effectiveInput_of_ne_null (default : Option Value) (nonnull : value ≠ .null) :
    effectiveInput default (some value) = some value := by
  cases value with
  | null => exact absurd rfl nonnull
  | _ => rfl

/-- A value is the explicit null exactly if it is recognised as null. -/
theorem isNull_iff : value.isNull = true ↔ value = .null := by
  cases value <;> simp [Value.isNull]

/-- What the alternatives of a plan make of a value. -/
def FieldPlan.resolve (plan : FieldPlan) (value : Value) (key : String) (record : Record) :
    Except Rejection Value :=
  match (attemptAlternatives plan.alternatives none value key record).value with
  | .ok result => .ok result
  | .error last => .error (exhausted plan.alternatives.length last)

/-- **An attempt resolves the effective input**, unless that is missing or null. -/
theorem FieldPlan.attempt_value (plan : FieldPlan) (input : Option Value) (key : String)
    (record : Record) :
    (plan.attempt input key record).value =
      match effectiveInput plan.default input with
      | none => .ok none
      | some value =>
        if value.isNull then .ok (some value) else (plan.resolve value key record).map some := by
  obtain ⟨alternatives, default⟩ := plan
  unfold FieldPlan.attempt FieldPlan.resolve FieldPlan.default FieldPlan.alternatives
  cases effectiveInput default input with
  | none => rfl
  | some value =>
    by_cases null : value.isNull
    · simp only [null, if_true]
      rfl
    · simp only [null, Bool.false_eq_true, if_false, Reported.value_map]
      cases (attemptAlternatives alternatives none value key record).value <;> rfl

/-- Under two keys an attempt gives the same if all values are resolved alike. -/
theorem FieldPlan.attempt_congr {plan : FieldPlan}
    (same : ∀ value, plan.resolve value key₁ record₁ = plan.resolve value key₂ record₂)
    (input : Option Value) :
    (plan.attempt input key₁ record₁).value = (plan.attempt input key₂ record₂).value := by
  rw [FieldPlan.attempt_value, FieldPlan.attempt_value]
  cases effectiveInput plan.default input with
  | none => rfl
  | some value => simp only [same]

/-- **Sanitizing keeps the effective input** where the attempt at it is rejected. -/
theorem FieldPlan.sanitize_value (plan : FieldPlan) (input : Option Value) (key : String)
    (record : Record) :
    (plan.sanitize input key record).value =
      match (plan.attempt input key record).value with
      | .ok sanitized => sanitized
      | .error _ => effectiveInput plan.default input := by
  unfold FieldPlan.sanitize settle
  cases (plan.attempt input key record).value <;> rfl

/-- What becomes of an effective input: what the field resolves it to, and the input itself where it is
null or refused. -/
def FieldPlan.become (plan : FieldPlan) (value : Value) (key : String) (record : Record) : Value :=
  if value.isNull then value
  else match plan.resolve value key record with
    | .ok result => result
    | .error _ => value

/-- **What a field is sanitized to** is what becomes of its effective input. -/
theorem FieldPlan.sanitize_eq_map (plan : FieldPlan) (input : Option Value) (key : String)
    (record : Record) :
    (plan.sanitize input key record).value
      = (effectiveInput plan.default input).map (plan.become · key record) := by
  rw [FieldPlan.sanitize_value, FieldPlan.attempt_value]
  cases effective : effectiveInput plan.default input with
  | none => rfl
  | some value =>
    simp only [Option.map_some, FieldPlan.become]
    cases null : value.isNull with
    | true => rfl
    | false => cases plan.resolve value key record <;> rfl

/-- An effective input is effective itself. -/
theorem effectiveInput_again {default input : Option Value}
    (h : effectiveInput default input = some value) :
    effectiveInput default (some value) = some value := by
  by_cases nonnull : value = .null
  · subst nonnull
    cases input with
    | none => rw [effectiveInput_null, show default = some .null from h]; rfl
    | some other =>
      by_cases null : other = .null
      · rw [null] at h
        exact h
      · rw [effectiveInput_of_ne_null default null] at h
        exact absurd (Option.some.inj h) null
  · exact effectiveInput_of_ne_null default nonnull

/-- Where there is an input, there is an effective one. -/
theorem exists_effectiveInput (default : Option Value) (input : Value) :
    ∃ value, effectiveInput default (some input) = some value := by
  by_cases null : input = .null
  · rw [null, effectiveInput_null]
    cases default with
    | none => exact ⟨.null, rfl⟩
    | some value => exact ⟨value, rfl⟩
  · exact ⟨input, effectiveInput_of_ne_null default null⟩

/-! ## Alternatives -/

/-- The first alternative decides if it succeeds, and else the others do. -/
theorem attemptAlternatives_cons (alternative : Alternative) (rest : List Alternative)
    (last : Option Rejection) (value : Value) (key : String) (record : Record) :
    (attemptAlternatives (alternative :: rest) last value key record).value =
      match (attemptAlternative alternative value key record).value with
      | .ok sanitized => .ok sanitized
      | .error cause => (attemptAlternatives rest (some cause) value key record).value := by
  rw [attemptAlternatives]
  cases (attemptAlternative alternative value key record).value <;> rfl

/-- An attempt at several alternatives that succeeds does so by one of them, and reports what that one
reports. -/
theorem attemptAlternatives_ok {alternatives : List Alternative} {last : Option Rejection}
    (h : (attemptAlternatives alternatives last value key record).value = .ok result) :
    ∃ alternative ∈ alternatives,
      (attemptAlternative alternative value key record).value = .ok result ∧
        (attemptAlternative alternative value key record).events
          ⊆ (attemptAlternatives alternatives last value key record).events := by
  induction alternatives generalizing last with
  | nil => cases h
  | cons alternative rest ih =>
    rw [attemptAlternatives] at h ⊢
    cases first : (attemptAlternative alternative value key record).value with
    | ok sanitized =>
      simp only [first] at h ⊢
      exact ⟨alternative, List.mem_cons_self, first.trans (congrArg _ (Except.ok.inj h)),
        List.Subset.refl _⟩
    | error cause =>
      simp only [first] at h ⊢
      obtain ⟨other, member, succeeds, reported⟩ := ih h
      refine ⟨other, List.mem_cons_of_mem _ member, succeeds, ?_⟩
      intro event found
      exact List.mem_append_right _ (List.mem_cons_of_mem _ (reported found))

/-- A field resolves a value by one of its alternatives. -/
theorem FieldPlan.exists_alternative {plan : FieldPlan}
    (h : plan.resolve value key record = .ok result) :
    ∃ alternative ∈ plan.alternatives,
      (attemptAlternative alternative value key record).value = .ok result := by
  unfold FieldPlan.resolve at h
  cases outcome : (attemptAlternatives plan.alternatives none value key record).value with
  | error last => simp [outcome] at h
  | ok sanitized =>
    simp only [outcome] at h
    cases h
    obtain ⟨alternative, member, succeeds, -⟩ := attemptAlternatives_ok outcome
    exact ⟨alternative, member, succeeds⟩

/-- Under two keys several alternatives give the same if each of them does. -/
theorem attemptAlternatives_congr {alternatives : List Alternative} (last : Option Rejection)
    (same : ∀ alternative ∈ alternatives,
      (attemptAlternative alternative value key₁ record₁).value
        = (attemptAlternative alternative value key₂ record₂).value) :
    (attemptAlternatives alternatives last value key₁ record₁).value
      = (attemptAlternatives alternatives last value key₂ record₂).value := by
  induction alternatives generalizing last with
  | nil => rfl
  | cons alternative rest ih =>
    have first := same alternative List.mem_cons_self
    rw [attemptAlternatives_cons, attemptAlternatives_cons, first]
    cases (attemptAlternative alternative value key₂ record₂).value with
    | ok sanitized => rfl
    | error cause =>
      apply ih
      intro other member
      exact same other (List.mem_cons_of_mem _ member)

/-- Under two keys a field resolves a value alike if each alternative gives the same. -/
theorem FieldPlan.resolve_congr {plan : FieldPlan}
    (same : ∀ alternative ∈ plan.alternatives,
      (attemptAlternative alternative value key₁ record₁).value
        = (attemptAlternative alternative value key₂ record₂).value) :
    plan.resolve value key₁ record₁ = plan.resolve value key₂ record₂ := by
  unfold FieldPlan.resolve
  rw [attemptAlternatives_congr none same]

/-- With a single alternative, a field resolves a value as that alternative does. -/
theorem FieldPlan.resolve_singleton {plan : FieldPlan} {alternative : Alternative}
    (single : plan.alternatives = [alternative]) (value : Value) (key : String) (record : Record) :
    plan.resolve value key record = (attemptAlternative alternative value key record).value := by
  unfold FieldPlan.resolve
  rw [single, attemptAlternatives_cons]
  cases (attemptAlternative alternative value key record).value <;> rfl

/-- If not just one alternative has been tried, all are exhausted. -/
theorem exhausted_of_ne_one {tried : Nat} (several : tried ≠ 1) (last : Option Rejection) :
    exhausted tried last = .unionExhausted tried := by
  cases last with
  | none => rfl
  | some cause => simp [exhausted, several]

/-- **How a field refuses a value**: as its only alternative does, or because it has exhausted several. -/
theorem FieldPlan.resolve_error {plan : FieldPlan} {cause : Rejection}
    (h : plan.resolve value key record = .error cause) :
    (∃ alternative, plan.alternatives = [alternative] ∧
        (attemptAlternative alternative value key record).value = .error cause) ∨
      (plan.alternatives.length ≠ 1 ∧ cause = .unionExhausted plan.alternatives.length) := by
  match listed : plan.alternatives with
  | [alternative] =>
    rw [FieldPlan.resolve_singleton listed] at h
    exact Or.inl ⟨alternative, rfl, h⟩
  | [] =>
    simp only [FieldPlan.resolve, listed] at h
    exact Or.inr ⟨by simp, (Except.error.inj h).symm⟩
  | first :: second :: rest =>
    have several : (first :: second :: rest).length ≠ 1 := by simp
    refine Or.inr ⟨several, ?_⟩
    unfold FieldPlan.resolve at h
    rw [listed] at h
    cases outcome : (attemptAlternatives (first :: second :: rest) none value key record).value with
    | ok sanitized => simp [outcome] at h
    | error last =>
      simp only [outcome] at h
      cases h
      exact exhausted_of_ne_one several last

/-- An attempt that is rejected has an effective input, which the field refuses. -/
theorem FieldPlan.attempt_error {plan : FieldPlan} {input : Option Value} {cause : Rejection}
    (h : (plan.attempt input key record).value = .error cause) :
    ∃ value, effectiveInput plan.default input = some value ∧
      plan.resolve value key record = .error cause := by
  rw [FieldPlan.attempt_value] at h
  cases effective : effectiveInput plan.default input with
  | none => simp [effective] at h
  | some value =>
    refine ⟨value, rfl, ?_⟩
    simp only [effective] at h
    cases null : value.isNull with
    | true => simp [null] at h
    | false =>
      simp only [null, Bool.false_eq_true, if_false] at h
      exact map_eq_error h

/-! ## Elements -/

/-- The first element ends the attempt if it is rejected, and else the others follow. -/
theorem attemptEach_cons (attempt : Value → Attempt (Option Value)) (index : Nat) (element : Value)
    (rest : List Value) :
    (attemptEach attempt index (element :: rest)).value =
      match (attempt element).value with
      | .error cause => .error (.item index cause)
      | .ok sanitized =>
        (attemptEach attempt (index + 1) rest).value.map (sanitized.getD .null :: ·) := by
  rw [attemptEach]
  cases (attempt element).value <;> rfl

/-- An attempt at an array that succeeds has attempted each element; an element that is found
missing becomes null. -/
theorem attemptEach_ok {attempt : Value → Attempt (Option Value)} {index : Nat}
    {elements results : List Value} (h : (attemptEach attempt index elements).value = .ok results) :
    List.Forall₂ (fun element result => ∃ sanitized, (attempt element).value = .ok sanitized ∧
      sanitized.getD .null = result) elements results := by
  induction elements generalizing index results with
  | nil =>
    cases h
    exact .nil
  | cons element rest ih =>
    rw [attemptEach_cons] at h
    cases first : (attempt element).value with
    | error cause => simp [first] at h
    | ok sanitized =>
      simp only [first] at h
      obtain ⟨others, others_ok, rfl⟩ := map_eq_ok h
      exact .cons ⟨sanitized, first, rfl⟩ (ih others_ok)

/-- An attempt at an array that is rejected has found an element that is, and has taken those before it. -/
theorem attemptEach_first_error {attempt : Value → Attempt (Option Value)} {index : Nat}
    {elements : List Value} {cause : Rejection}
    (h : (attemptEach attempt index elements).value = .error cause) :
    ∃ position, ∃ inRange : position < elements.length, ∃ inner,
      cause = .item (index + position) inner ∧ (attempt elements[position]).value = .error inner ∧
        ∀ earlier ∈ elements.take position, ∃ sanitized, (attempt earlier).value = .ok sanitized := by
  induction elements generalizing index with
  | nil => cases h
  | cons element rest ih =>
    rw [attemptEach_cons] at h
    cases first : (attempt element).value with
    | error inner =>
      simp only [first] at h
      refine ⟨0, Nat.succ_pos _, inner, (Except.error.inj h).symm, first, ?_⟩
      exact fun earlier member => absurd member List.not_mem_nil
    | ok sanitized =>
      simp only [first] at h
      obtain ⟨position, inRange, inner, same, fails, before⟩ := ih (map_eq_error h)
      refine ⟨position + 1, Nat.succ_lt_succ inRange, inner, ?_, fails, ?_⟩
      · rw [same, Nat.add_assoc, Nat.add_comm 1 position]
      · rw [List.take_succ_cons]
        exact List.forall_mem_cons.mpr ⟨⟨sanitized, first⟩, before⟩

/-- An attempt at an array that is rejected has found an element that is. -/
theorem attemptEach_error {attempt : Value → Attempt (Option Value)} {index : Nat}
    {elements : List Value} {cause : Rejection}
    (h : (attemptEach attempt index elements).value = .error cause) :
    ∃ position, ∃ inRange : position < elements.length, ∃ inner,
      cause = .item (index + position) inner ∧ (attempt elements[position]).value = .error inner := by
  obtain ⟨position, inRange, inner, same, fails, -⟩ := attemptEach_first_error h
  exact ⟨position, inRange, inner, same, fails⟩

/-- Attempts at an array give the same if they do for each element. -/
theorem attemptEach_congr {attempt₁ attempt₂ : Value → Attempt (Option Value)} (index : Nat)
    (elements : List Value)
    (same : ∀ element ∈ elements, (attempt₁ element).value = (attempt₂ element).value) :
    (attemptEach attempt₁ index elements).value = (attemptEach attempt₂ index elements).value := by
  induction elements generalizing index with
  | nil => rfl
  | cons element rest ih =>
    have first := same element List.mem_cons_self
    have later : (attemptEach attempt₁ (index + 1) rest).value
        = (attemptEach attempt₂ (index + 1) rest).value := by
      apply ih
      intro other member
      exact same other (List.mem_cons_of_mem _ member)
    rw [attemptEach_cons, attemptEach_cons, first, later]

/-! ## One alternative -/

/-- An attempt at an alternative that is rejected fails in its coercion, in its rules, or in the parts of
the value. -/
theorem attemptAlternative_error {alternative : Alternative} {cause : Rejection}
    (filters : ∀ rule ∈ alternative.rules, rule.IsFilter)
    (h : (attemptAlternative alternative value key record).value = .error cause) :
    alternative.coerce value = .error cause ∨
      ∃ coerced, alternative.coerce value = .ok coerced ∧
        (applyRules key record alternative.rules coerced = .error cause ∨
          (attemptShape alternative.shape coerced key record).value = .error cause) := by
  obtain ⟨typeName, coercion, rules, shape⟩ := alternative
  unfold attemptAlternative Alternative.check at h
  cases first : Alternative.coerce ⟨typeName, coercion, rules, shape⟩ value with
  | error other =>
    simp only [first] at h
    cases h
    exact Or.inl rfl
  | ok coerced =>
    refine Or.inr ⟨coerced, rfl, ?_⟩
    simp only [first] at h
    cases ruled : applyRules key record rules coerced with
    | error other =>
      simp only [ruled] at h
      cases h
      exact Or.inl rfl
    | ok checked =>
      obtain ⟨rfl, -⟩ := (applyRules_eq_ok_iff filters).mp ruled
      simp only [ruled] at h
      exact Or.inr h

/-- An attempt at an alternative that succeeds has coerced the value, found it accepted by the rules,
and then attempted its parts. -/
theorem attemptAlternative_ok {alternative : Alternative}
    (filters : ∀ rule ∈ alternative.rules, rule.IsFilter)
    (h : (attemptAlternative alternative value key record).value = .ok result) :
    ∃ coerced, alternative.coerce value = .ok coerced ∧
      (∀ rule ∈ alternative.rules, rule coerced key record = .ok coerced) ∧
      attemptAlternative alternative value key record
        = attemptShape alternative.shape coerced key record := by
  obtain ⟨typeName, coercion, rules, shape⟩ := alternative
  unfold attemptAlternative at h ⊢
  cases checked : Alternative.check ⟨typeName, coercion, rules, shape⟩ value key record with
  | error cause => simp [checked] at h
  | ok coerced =>
    unfold Alternative.check at checked
    cases first : Alternative.coerce ⟨typeName, coercion, rules, shape⟩ value with
    | error cause => simp [first] at checked
    | ok value' =>
      simp only [first] at checked
      obtain ⟨rfl, accepted⟩ := (applyRules_eq_ok_iff filters).mp checked
      exact ⟨coerced, rfl, accepted, rfl⟩

end Intake
