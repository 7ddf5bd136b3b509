import Intake.Proofs.DistinctElements
import Intake.Proofs.Multiples
import Intake.Proofs.Normalization

/-!
# Representations of quantities

Whether a quantity arrives as an integer or as a whole double changes no verdict
(`equivalent_judged_alike`). A built-in constraint looks at a number in one of three ways: through its
double, which is decided by the quantity up to the sign of zero (`Number.units_toDouble_congr`), as one of
the elements that it compares with one another, or as the value that it compares with its parameter, and
comparisons are by equivalence. The coercions to integers, truth values and points in time look at a number
through its preferred representation or ask whether it is zero, and both are decided by the quantity too
(`Number.integral?_congr`, `Number.isZero_iff`).
-/

set_option autoImplicit false

namespace Intake

/-! ## What depends on the quantity only -/

namespace Double

variable {d e : Double}

/-- Zero of either sign is a multiple of every step. -/
theorem isMultipleOf_of_units_eq_zero (zero : d.units = 0) (step : Double) :
    d.isMultipleOf step = true := by
  have magnitude : d.magnitude = 0 := by rw [← natAbs_units, zero, Int.natAbs_zero]
  obtain ⟨quotient, divided, cancelled⟩ :=
    exists_nearest?_zero (d.negative != step.negative) step.magnitude
  rw [← magnitude] at divided
  have quantity : quotient.quantity = 0 := by
    have scale := unitsPerOne_cast_pos.ne'
    rw [← abs_eq_zero, abs_quantity, ← mul_eq_zero_iff_right scale, ← magnitude_eq, cancelled,
      Nat.cast_zero]
  have near := quotient.abs_sub_round_le 0
  rw [quantity, Int.cast_zero, sub_zero, abs_zero] at near
  rw [isMultipleOf_iff_round divided, quantity]
  exact near.trans (div_nonneg (Nat.cast_nonneg _) (Nat.cast_nonneg _))

/-- Whether a double is a multiple is decided by its units. -/
theorem isMultipleOf_congr (same : d.units = e.units) (step : Double) :
    d.isMultipleOf step = e.isMultipleOf step := by
  by_cases zero : d.units = 0
  · rw [isMultipleOf_of_units_eq_zero zero, isMultipleOf_of_units_eq_zero (same.symm.trans zero)]
  · rw [eq_of_units_eq zero same]

/-- A double is zero if its units are. -/
theorem isZero_iff : d.isZero = true ↔ d.units = 0 := by
  rw [isZero, beq_iff_eq, ← natAbs_units, Int.natAbs_eq_zero]

end Double

namespace Number

variable {m n : Number}

/-- A number is zero if its units are. -/
theorem isZero_iff : n.isZero = true ↔ n.units = 0 := by
  cases n with
  | integer z fits =>
    have cancel := Double.mul_unitsPerOne_inj (y := z) (z := 0)
    rw [Int.zero_mul] at cancel
    rw [isZero, beq_iff_eq, units, cancel]
  | float d => exact Double.isZero_iff

/-- The preferred representation of a whole number is decided by its quantity. -/
theorem integral?_congr (same : m.units = n.units) : m.integral? = n.integral? := by
  rcases m.normalize_cases with ⟨z, fits, count, -⟩ | ⟨d, rfl, -, large⟩
  · rw [integral?_of_fits fits count, integral?_of_fits fits (same.symm.trans count)]
  · rcases n.normalize_cases with ⟨z, fits, count, -⟩ | ⟨e, rfl, -, -⟩
    · exact absurd fits (large z (same.trans count))
    · -- Zero is an integer, so the two doubles are not zeros of different signs.
      have nonzero : d.units ≠ 0 := by
        intro zero
        exact large 0 (by rw [units, zero, Int.zero_mul]) (by decide)
      rw [Double.eq_of_units_eq nonzero same]

end Number

namespace Value

variable {a b : Value}

/-! ## Comparisons -/

/-- Equivalent values are numbers of the same quantity, arrays, records or the same scalar. -/
theorem equivalent_cases (same : a.equivalent b = true) :
    (∃ m n, a = number m ∧ b = number n ∧ m.units = n.units) ∨
      (∃ xs ys, a = array xs ∧ b = array ys ∧ xs.length = ys.length) ∨
      (∃ xs ys, a = object xs ∧ b = object ys) ∨ a = b := by
  cases a with
  | number m =>
    cases b with
    | number n => exact Or.inl ⟨m, n, rfl, rfl, Number.key_eq_iff.mp (beq_iff_eq.mp same)⟩
    | _ => cases same
  | array xs =>
    obtain ⟨ys, rfl, length, -⟩ := equivalent_array_iff.mp same
    exact Or.inr (Or.inl ⟨xs, ys, rfl, rfl, length⟩)
  | object xs =>
    obtain ⟨ys, rfl, -⟩ := equivalent_object_iff.mp same
    exact Or.inr (Or.inr (Or.inl ⟨xs, ys, rfl, rfl⟩))
  | _ => cases b <;> simp_all [equivalent, Value.same]

/-- Equivalent values are equivalent to the same values. -/
theorem equivalent_congr_right (keyed : a.Keyed) (keyed' : b.Keyed) (same : a.equivalent b = true)
    (c : Value) : c.equivalent a = c.equivalent b := by
  rw [Bool.eq_iff_iff]
  constructor
  · exact fun first => equivalent_trans first same
  · exact fun first => equivalent_trans first (equivalent_symm keyed keyed' same)

end Value

/-- Repeated elements are found in an equivalent array as well. -/
theorem hasRepeats_of_equivalent {xs ys : List Value} (keyed : (Value.array xs).Keyed)
    (keyed' : (Value.array ys).Keyed) (same : (Value.array xs).equivalent (.array ys) = true)
    (repeats : hasRepeats xs = true) : hasRepeats ys = true := by
  obtain ⟨i, j, left, right, order, twice⟩ :=
    not_pairwise_iff.mp (hasRepeats_eq_true_iff.mp repeats)
  have back := Value.equivalent_symm keyed keyed' same
  obtain ⟨_, ⟨⟩, length, there⟩ := Value.equivalent_array_iff.mp same
  obtain ⟨_, ⟨⟩, -, here⟩ := Value.equivalent_array_iff.mp back
  have left' : i < ys.length := length ▸ left
  have right' : j < ys.length := length ▸ right
  have twice' : ys[i].equivalent ys[j] = true :=
    Value.equivalent_trans (Value.equivalent_trans (here i left' left) twice) (there j right right')
  exact hasRepeats_eq_true_iff.mpr (not_pairwise_iff.mpr ⟨i, j, left', right', order, twice'⟩)

/-- Equivalent arrays both have repeated elements or both have none. -/
theorem hasRepeats_congr {xs ys : List Value} (keyed : (Value.array xs).Keyed)
    (keyed' : (Value.array ys).Keyed) (same : (Value.array xs).equivalent (.array ys) = true) :
    hasRepeats xs = hasRepeats ys := by
  rw [Bool.eq_iff_iff]
  constructor
  · exact hasRepeats_of_equivalent keyed keyed' same
  · exact hasRepeats_of_equivalent keyed' keyed (Value.equivalent_symm keyed keyed' same)

/-! ## Constraints -/

/-- **No constraint tells equivalent values apart.** -/
theorem Constraint.accepts_congr (constraint : Constraint) {a b : Value} (keyed : a.Keyed)
    (keyed' : b.Keyed) (same : a.equivalent b = true) :
    constraint.accepts a = constraint.accepts b := by
  have compared (c : Value) : c.equivalent a = c.equivalent b :=
    Value.equivalent_congr_right keyed keyed' same c
  rcases Value.equivalent_cases same with ⟨m, n, rfl, rfl, units⟩ | ⟨xs, ys, rfl, rfl, length⟩ |
    ⟨xs, ys, rfl, rfl⟩ | rfl
  · have doubles := Number.units_toDouble_congr units
    cases constraint with
    | bound comparison limit => simp only [accepts, doubles]
    | multiple step => exact Double.isMultipleOf_congr doubles step
    | oneOf allowed => simp only [accepts, compared]
    | equal expected => exact compared expected
    | _ => rfl
  · cases constraint with
    | count comparison limit => simp only [accepts, length]
    | distinct required => simp only [accepts, hasRepeats_congr keyed keyed' same]
    | oneOf allowed => simp only [accepts, compared]
    | equal expected => exact compared expected
    | _ => rfl
  · cases constraint with
    | oneOf allowed => simp only [accepts, compared]
    | equal expected => exact compared expected
    | _ => rfl
  · rfl

/-! ## Coercions -/

namespace Coercion

variable {m n : Number}

/-- What is coerced or refused depends on the result and on the kind of the value. -/
theorem orReject_congr {option option' : Option Value} {found found' : Value} (expected : String)
    (kinds : found.kind = found'.kind) (same : option = option') :
    orReject expected found option = orReject expected found' option' := by
  subst same
  cases option <;> simp [orReject, kinds]

/-- Whether and how a number is coerced to an integer is decided by its units. -/
theorem integer_congr (same : m.units = n.units) :
    integer (.number m) = integer (.number n) := by
  apply orReject_congr _ rfl
  simp only [number?, Option.bind_some, Number.integral?_congr same]

/-- Whether and how a number is coerced to a date is decided by its units. -/
theorem date_congr (same : m.units = n.units) : date (.number m) = date (.number n) := by
  apply orReject_congr _ rfl
  simp only [instant?, instantOfNumber?, Number.integral?_congr same]

/-- Whether and how a number is coerced to a boolean is decided by its units. -/
theorem boolean_congr (same : m.units = n.units) :
    boolean (.number m) = boolean (.number n) := by
  have zero : m.isZero = n.isZero := by
    rw [Bool.eq_iff_iff, Number.isZero_iff, Number.isZero_iff, same]
  simp only [boolean, isFalsy, zero]

end Coercion

/-- **Equivalent values are judged alike**: by every built-in rule, whatever it is made of, which lets both
through or refuses both for the same cause, and, if they are numbers, by the coercions to integers, truth
values and points in time, which give the same result. -/
theorem equivalent_judged_alike [Engines] (a b : KeyedValue) (same : a.1.equivalent b.1 = true) :
    (∀ (name : String) (factory : RuleFactory), RuleRegistry.builtin.get? name = some factory →
        ∀ (param : Value) (schema : Schema) (rule : Rule),
          (factory param name schema).value = .ok rule →
            ∀ (key : String) (record : Record),
              (rule a.1 key record = .ok a.1 ∧ rule b.1 key record = .ok b.1) ∨
                ∃ cause, rule a.1 key record = .error cause ∧ rule b.1 key record = .error cause) ∧
      ∀ m n : Number, a.1 = .number m → b.1 = .number n →
        ∀ typeName ∈ ["integer", "boolean", "date", "dateTime"], ∃ coercion,
          TypeRegistry.builtin.get? typeName = some coercion ∧ coercion a.1 = coercion b.1 := by
  constructor
  · intro name factory registered param schema rule made key record
    obtain ⟨keyword, rfl, rfl⟩ := RuleRegistry.exists_keyword registered
    obtain ⟨constraint, -, rfl⟩ := RuleFactory.builtin_ok schema made
    unfold Rule.ofConstraint
    rw [constraint.accepts_congr a.2 b.2 same]
    by_cases accepted : constraint.accepts b.1 = true
    · exact Or.inl ⟨if_pos accepted, if_pos accepted⟩
    · exact Or.inr ⟨_, if_neg accepted, if_neg accepted⟩
  · intro m n numberA numberB typeName listed
    rw [numberA, numberB] at same
    have units : m.units = n.units := Number.key_eq_iff.mp (beq_iff_eq.mp same)
    rw [numberA, numberB]
    simp only [List.mem_cons, List.not_mem_nil, or_false] at listed
    rcases listed with rfl | rfl | rfl | rfl
    · exact ⟨_, rfl, Coercion.integer_congr units⟩
    · exact ⟨_, rfl, Coercion.boolean_congr units⟩
    · exact ⟨_, rfl, Coercion.date_congr units⟩
    · exact ⟨_, rfl, Coercion.date_congr units⟩

/-- A number has no keys to repeat. -/
theorem Value.keyed_number (n : Number) : (Value.number n).Keyed :=
  everywhere_iff.mpr ⟨nofun, nofun⟩

/-- The integer zero. -/
def integerZero : KeyedValue := ⟨.number .zero, Value.keyed_number _⟩

/-- The double zero with a negative sign. -/
def negativeZero : KeyedValue := ⟨.number (.float Double.zero.negate), Value.keyed_number _⟩

/-- Zero is zero in an enumeration and as a date, whatever its representation. -/
theorem zeros_judged_alike :
    integerZero.1.equivalent negativeZero.1 = true ∧
      (∃ factory rule, RuleRegistry.builtin.get? "enum" = some factory ∧
        (factory (.array [Value.ofInt 0]) "enum" {}).value = .ok rule ∧
        ((rule integerZero.1 "" [] = .ok integerZero.1 ∧
            rule negativeZero.1 "" [] = .ok negativeZero.1) ∨
          ∃ cause, rule integerZero.1 "" [] = .error cause ∧
            rule negativeZero.1 "" [] = .error cause)) ∧
      ∃ coercion, TypeRegistry.builtin.get? "date" = some coercion ∧
        coercion integerZero.1 = coercion negativeZero.1 := by
  have same : integerZero.1.equivalent negativeZero.1 = true := by decide +kernel
  obtain ⟨rules, coercions⟩ := equivalent_judged_alike integerZero negativeZero same
  have registered := RuleRegistry.get?_name .enum
  refine ⟨same, ⟨_, _, registered, rfl, ?_⟩, ?_⟩
  · exact rules "enum" _ registered (.array [Value.ofInt 0]) {} _ rfl "" []
  · exact coercions _ _ rfl rfl "date" (by simp)

end Intake
