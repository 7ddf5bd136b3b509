import Intake.Proofs.Representations
import Intake.Proofs.TypedResults

/-!
# Whole numbers

The coercion to integers changes how a number is represented and never what it denotes. A number is
taken exactly if it denotes a whole quantity, and it becomes an integer exactly if that quantity lies
between the ends -2^63 and 2^64 of what integers there are (`integers_keep_quantities`). Nothing is lost at
the ends, since a number either denotes one of these integers or stays what it is
(`Number.normalize_cases`).
-/

set_option autoImplicit false

namespace Intake

namespace Number

variable {n m : Number}

/-- A number with an integral form has this form as its normal form. -/
theorem normalize_of_integral? (whole : n.integral? = some m) : n.normalize = m := by
  rw [normalize, whole, Option.getD_some]

/-- A number has a preferred representation as a whole number if it denotes one. -/
theorem exists_integral?_iff : (∃ m, n.integral? = some m) ↔ ∃ z : ℤ, n.quantity = z := by
  constructor
  · rintro ⟨m, whole⟩
    by_contra fraction
    have counted (z : ℤ) : n.units ≠ z * Double.unitsPerOne :=
      fun count => fraction ⟨z, quantity_eq_intCast_iff.mpr count⟩
    rw [integral?_of_fraction counted] at whole
    cases whole
  · rintro ⟨z, denotes⟩
    have count := quantity_eq_intCast_iff.mp denotes
    by_cases fits : Fits z
    · exact ⟨_, integral?_of_fits fits count⟩
    · exact ⟨_, integral?_of_not_fits fits count⟩

/-- The integral form of a number has the same units. -/
theorem units_of_integral? (whole : n.integral? = some m) : m.units = n.units := by
  rcases n.normalize_cases with ⟨z, fits, count, normal⟩ | ⟨d, -, normal, -⟩ <;>
    rw [normalize_of_integral? whole] at normal <;> rw [normal]
  exact count.symm

/-- An integer fits in a representation exactly if it is at least -2^63 and less than 2^64. -/
theorem fits_iff {z : ℤ} (denotes : n.quantity = z) :
    Fits z ↔ -2 ^ 63 ≤ n.quantity ∧ n.quantity < 2 ^ 64 := by
  have low : (-2 ^ 63 : ℚ) ≤ z ↔ -0x8000000000000000 ≤ z := by
    have cast : (-2 ^ 63 : ℚ) = (-0x8000000000000000 : ℤ) := by norm_num
    rw [cast, Int.cast_le]
  have high : (z : ℚ) < 2 ^ 64 ↔ z < 0x10000000000000000 := by
    have cast : (2 ^ 64 : ℚ) = (0x10000000000000000 : ℤ) := by norm_num
    rw [cast, Int.cast_lt]
  rw [denotes, low, high]

/-- It is an integer exactly for the quantities of integers. -/
theorem isInteger_of_integral?_iff (whole : n.integral? = some m) :
    (∃ z fits, m = integer z fits) ↔ -2 ^ 63 ≤ n.quantity ∧ n.quantity < 2 ^ 64 := by
  obtain ⟨y, denotes⟩ := exists_integral?_iff.mp ⟨m, whole⟩
  have count := quantity_eq_intCast_iff.mp denotes
  rw [← fits_iff denotes]
  constructor
  · rintro ⟨z, fits, rfl⟩
    have same : (integer z fits).units = y * Double.unitsPerOne :=
      (units_of_integral? whole).trans count
    rwa [Double.mul_unitsPerOne_inj.mp same] at fits
  · intro fits
    rw [integral?_of_fits fits count] at whole
    exact ⟨y, fits, (Option.some.inj whole).symm⟩

end Number

namespace Coercion

variable {value result : Value} {n m : Number}

/-- What is coerced or refused succeeds exactly with the value that is there. -/
theorem orReject_eq_ok_iff {expected : String} {option : Option Value} :
    orReject expected value option = .ok result ↔ option = some result := by
  constructor
  · exact orReject_ok
  · rintro rfl
    rfl

/-- A number is coerced to an integer exactly if it has an integral form, which is the result. -/
theorem integer_number_eq_ok_iff :
    integer (.number n) = .ok result ↔ ∃ m, n.integral? = some m ∧ result = .number m := by
  rw [integer, orReject_eq_ok_iff, Option.map_eq_some_iff, number?, Option.bind_some]
  simp only [eq_comm]

/-- What is taken as an integer is taken as a number, and both results denote the same. -/
theorem number_of_integer_ok (taken : integer value = .ok result) :
    ∃ n m, number value = .ok (.number n) ∧ result = .number m ∧ m.units = n.units := by
  obtain ⟨m, read, rfl⟩ := Option.map_eq_some_iff.mp (orReject_ok taken)
  obtain ⟨n, given, whole⟩ := Option.bind_eq_some_iff.mp read
  refine ⟨n, m, ?_, rfl, Number.units_of_integral? whole⟩
  rw [number, given]
  rfl

end Coercion

/-- **The coercion to integers keeps quantities.** It takes a number exactly if the quantity is whole. The
result denotes the same quantity, is an integer exactly if there is one for it, and is left alone by the
coercion; numbers that denote the same quantity have the same result. Any value that it takes is also
taken by the coercion to numbers, with an equivalent result. -/
theorem integers_keep_quantities :
    (∀ n : Number, (∃ result, Coercion.integer (.number n) = .ok result) ↔ ∃ z : ℤ, n.quantity = z) ∧
      (∀ (n : Number) (result : Value), Coercion.integer (.number n) = .ok result →
        ∃ m, result = .number m ∧ m.quantity = n.quantity ∧
          ((∃ z fits, m = .integer z fits) ↔ -2 ^ 63 ≤ n.quantity ∧ n.quantity < 2 ^ 64) ∧
          Coercion.integer result = .ok result) ∧
      (∀ m n : Number, m.quantity = n.quantity →
        Coercion.integer (.number m) = Coercion.integer (.number n)) ∧
      ∀ value result : Value, Coercion.integer value = .ok result →
        ∃ other, Coercion.number value = .ok other ∧ result.equivalent other = true := by
  refine ⟨?_, ?_, ?_, ?_⟩
  · intro n
    rw [← Number.exists_integral?_iff]
    constructor
    · rintro ⟨result, taken⟩
      obtain ⟨m, whole, -⟩ := Coercion.integer_number_eq_ok_iff.mp taken
      exact ⟨m, whole⟩
    · rintro ⟨m, whole⟩
      exact ⟨_, Coercion.integer_number_eq_ok_iff.mpr ⟨m, whole, rfl⟩⟩
  · intro n result taken
    obtain ⟨m, whole, rfl⟩ := Coercion.integer_number_eq_ok_iff.mp taken
    have again := Number.integral?_idempotent whole
    have same := Number.quantity_eq_iff.mpr (Number.units_of_integral? whole)
    exact ⟨m, rfl, same, Number.isInteger_of_integral?_iff whole,
      Coercion.integer_number_eq_ok_iff.mpr ⟨m, again, rfl⟩⟩
  · intro m n same
    exact Coercion.integer_congr (Number.quantity_eq_iff.mp same)
  · intro value result taken
    obtain ⟨n, m, number, rfl, same⟩ := Coercion.number_of_integer_ok taken
    refine ⟨_, number, ?_⟩
    rw [Value.equivalent, beq_iff_eq]
    exact Number.key_eq_iff.mpr same

/-- The double 10^20, which is whole and larger than every integer. -/
def hundredQuintillion : Number := .float ⟨false, ⟨0x441, by decide⟩, ⟨0x5AF1D78B58C40, by decide⟩⟩

/-- The double 2^63 becomes an integer and the double 2^64 stays one, both zeros become the same integer,
and the text of 10^20 is taken as the double. -/
theorem powers_keep_quantities :
    let integer : Number := .integer 0x8000000000000000 (by decide)
    Coercion.integer (.number largePower) = .ok (.number integer) ∧
      -2 ^ 63 ≤ largePower.quantity ∧ largePower.quantity < 2 ^ 64 ∧
      Coercion.integer (.number hugePower) = .ok (.number hugePower) ∧
      ¬(-2 ^ 63 ≤ hugePower.quantity ∧ hugePower.quantity < 2 ^ 64) ∧
      Coercion.integer (.number .zero) = Coercion.integer (.number (.float Double.zero.negate)) ∧
      Coercion.integer (.string "1e20") = .ok (.number hundredQuintillion) ∧
      ∃ other, Coercion.number (.string "1e20") = .ok other ∧
        (Value.number hundredQuintillion).equivalent other = true := by
  intro integer
  have large : Coercion.integer (.number largePower) = .ok (.number integer) :=
    Coercion.integer_number_eq_ok_iff.mpr ⟨integer, by decide +kernel, rfl⟩
  have huge : Coercion.integer (.number hugePower) = .ok (.number hugePower) :=
    Coercion.integer_number_eq_ok_iff.mpr ⟨hugePower, by decide +kernel, rfl⟩
  have zeros : Number.zero.quantity = (Number.float Double.zero.negate).quantity :=
    Number.quantity_eq_iff.mpr (by decide +kernel)
  have read : Number.ofText? "1e20" = some hundredQuintillion := by decide +kernel
  have whole : hundredQuintillion.integral? = some hundredQuintillion := by decide +kernel
  have text : Coercion.integer (.string "1e20") = .ok (.number hundredQuintillion) := by
    rw [Coercion.integer, Coercion.number?, read, Option.bind_some, whole]
    rfl
  obtain ⟨-, kept, alike, numbers⟩ := integers_keep_quantities
  obtain ⟨m, same, -, inRange, -⟩ := kept largePower _ large
  obtain ⟨m', same', -, outOfRange, -⟩ := kept hugePower _ huge
  obtain rfl : integer = m := Value.number.inj same
  obtain rfl : hugePower = m' := Value.number.inj same'
  obtain ⟨low, high⟩ := inRange.mp ⟨_, _, rfl⟩
  refine ⟨large, low, high, huge, ?_, alike _ _ zeros, text, numbers _ _ text⟩
  intro bounds
  obtain ⟨z, fits, integer⟩ := outOfRange.mpr bounds
  simp only [hugePower, reduceCtorEq] at integer

end Intake
