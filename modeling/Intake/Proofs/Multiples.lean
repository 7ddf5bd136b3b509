import Intake.Proofs.Filters
import Intake.Proofs.NearestDoubles

/-!
# Multiples

The rule on multiples divides the double of a number by the double of the step, rounds the quotient, and
accepts if it is near a whole number, where near is one part in a thousand million of the quotient. All
roundings together move the quotient by a few parts in 2^53 (`quotient_error`), and the tolerance by less
(`tolerance_error`). So the rule decides whether a number is a multiple of the step up to one part in a
thousand million (`isMultipleOf_iff`), which for integers is divisibility as long as neither of the two is
that large (`multiples_up_to_tolerance`). Beyond, it accepts what it should refuse
(`multiples_not_divisible`).
-/

set_option autoImplicit false

namespace Intake

open Double (unitsPerOne)

namespace Double

variable {a b d : Double}

/-! ## The whole number nearest to a double -/

/-- The nearest whole number, halves away from zero, by the size and the sign. -/
theorem round_eq (d : Double) :
    d.round = if d.negative then -(⌊d.size + 1 / 2⌋₊ : ℤ) else ⌊d.size + 1 / 2⌋₊ := by
  have scale := unitsPerOne_cast_pos.ne'
  have half : ((2 * d.magnitude + unitsPerOne : ℕ) : ℚ) / (2 * unitsPerOne : ℕ) = d.size + 1 / 2 := by
    rw [Nat.cast_add, Nat.cast_mul, Nat.cast_mul, magnitude_eq]
    generalize (unitsPerOne : ℚ) = unit at scale
    field_simp
    push_cast
    ring
  have whole : (2 * d.magnitude + unitsPerOne) / (2 * unitsPerOne) = ⌊d.size + 1 / 2⌋₊ := by
    rw [← Nat.floor_div_eq_div (K := ℚ), half]
  unfold round
  simp only [whole]

/-- The nearest whole number is half away at most. -/
theorem round_error (d : Double) : |d.quantity - d.round| ≤ 1 / 2 := by
  have signed : (d.round : ℚ)
      = if d.negative then -(⌊d.size + 1 / 2⌋₊ : ℚ) else ⌊d.size + 1 / 2⌋₊ := by
    rw [round_eq]
    split <;> simp
  have half : 0 ≤ d.size + 1 / 2 := add_nonneg d.size_nonneg (by norm_num)
  have low := Nat.floor_le half
  have high := Nat.lt_floor_add_one (d.size + 1 / 2)
  rw [signed, abs_quantity_sub, abs_le]
  constructor <;> linarith

/-- No whole number is nearer to a double than the one that it is rounded to. -/
theorem abs_sub_round_le (d : Double) (z : ℤ) : |d.quantity - d.round| ≤ |d.quantity - z| := by
  rcases eq_or_ne d.round z with rfl | other
  · rfl
  · have apart : (1 : ℚ) ≤ |(d.round : ℚ) - z| := by
      exact_mod_cast Int.one_le_abs (sub_ne_zero.mpr other)
    have split : |(d.round : ℚ) - z| ≤ |d.quantity - d.round| + |d.quantity - z| := by
      rw [abs_sub_comm d.quantity]
      exact abs_sub_le _ _ _
    have error := d.round_error
    linarith

/-! ## Quotients and products -/

/-- Division errs by half of the least double or by a relative 2^-53 at most. -/
theorem div?_error (nonzero : 0 < b.magnitude) (divided : a.div? b = some d) :
    |d.quantity - a.quantity / b.quantity|
      ≤ max (2 ^ (-1075 : ℤ)) (|a.quantity / b.quantity| / 2 ^ 53) := by
  have scale := unitsPerOne_cast_pos.ne'
  have sign : d.negative = (a.negative != b.negative) := (nearest?_eq_some divided).1
  have quotient : a.quantity / b.quantity
      = if d.negative then -(a.size / b.size) else a.size / b.size := by
    rw [sign]
    unfold quantity
    cases a.negative <;> cases b.negative <;> simp [neg_div, div_neg]
  have sizes : (a.magnitude : ℚ) / b.magnitude = a.size / b.size := by
    rw [magnitude_eq, magnitude_eq, mul_div_mul_right _ _ scale]
  have error := nearest?_error nonzero divided
  rw [sizes] at error
  rw [abs_div, abs_quantity, abs_quantity, quotient, abs_quantity_sub]
  exact error

/-- Division has a result as long as the quotient is not too large. -/
theorem exists_div? (small : a.size < b.size * 2 ^ 100) : ∃ d, a.div? b = some d := by
  have scale := unitsPerOne_cast_pos
  have bounded : (a.magnitude : ℚ) < (b.magnitude * 2 ^ 100 : ℕ) := by
    push_cast
    rw [magnitude_eq, magnitude_eq, mul_right_comm]
    exact mul_lt_mul_of_pos_right small scale
  exact exists_nearest? _ (by exact_mod_cast bounded)

/-- Multiplication errs by half of the least double or by a relative 2^-53 at most. -/
theorem mul?_error (product : a.mul? b = some d) :
    |d.size - a.size * b.size| ≤ max (2 ^ (-1075 : ℤ)) (a.size * b.size / 2 ^ 53) := by
  have scale := unitsPerOne_cast_pos.ne'
  have sizes : ((a.magnitude * b.magnitude : ℕ) : ℚ) / (unitsPerOne * unitsPerOne : ℕ)
      = a.size * b.size := by
    push_cast
    rw [magnitude_eq, magnitude_eq]
    field_simp
  have error := nearest?_error (Nat.mul_pos unitsPerOne_pos unitsPerOne_pos) product
  rw [sizes] at error
  exact error

/-- Multiplication has a result as long as the product is not too large. -/
theorem exists_mul? (small : a.size * b.size < 2 ^ 100) : ∃ d, a.mul? b = some d := by
  have scale := unitsPerOne_cast_pos
  have bounded : ((a.magnitude * b.magnitude : ℕ) : ℚ)
      < (unitsPerOne * unitsPerOne * 2 ^ 100 : ℕ) := by
    push_cast
    rw [magnitude_eq, magnitude_eq]
    calc a.size * unitsPerOne * (b.size * unitsPerOne)
        = a.size * b.size * (unitsPerOne * unitsPerOne) := by ring
      _ < 2 ^ 100 * (unitsPerOne * unitsPerOne) :=
        mul_lt_mul_of_pos_right small (mul_pos scale scale)
      _ = unitsPerOne * unitsPerOne * 2 ^ 100 := by ring
  exact exists_nearest? _ (by exact_mod_cast bounded)

/-! ## The tolerance -/

/-- The double nearest to 10^-9 is that close to it. -/
theorem billionth_error : |billionth.size - 1 / 10 ^ 9| ≤ 1 / 2 ^ 83 := by
  have normal : billionth.size = (1 + 0x12E0BE826D695 / 2 ^ 52) * 2 ^ (-30 : ℤ) := by
    norm_num [size, billionth]
  rw [normal, abs_le]
  constructor <;> norm_num

/-- The tolerance is one part in a thousand million, but for the rounding of this part and of the
product. -/
theorem tolerance_error (small : d.size < 2 ^ 99) :
    |(d.tolerance : ℚ) / unitsPerOne - 1 / 10 ^ 9 * max d.size 1| ≤ max d.size 1 / 2 ^ 80 := by
  have scale := unitsPerOne_cast_pos
  have unit (e : Double) : (e.magnitude : ℚ) / unitsPerOne = e.size := by
    rw [magnitude_eq, mul_div_cancel_right₀ _ scale.ne']
  have part := abs_le.mp billionth_error
  have large : d.magnitude ≤ unitsPerOne ↔ d.size ≤ 1 := by
    have counts : (d.magnitude : ℚ) ≤ unitsPerOne ↔ d.magnitude ≤ unitsPerOne := Nat.cast_le
    rw [← counts, magnitude_eq, mul_le_iff_le_one_left scale]
  unfold tolerance
  simp only [large]
  by_cases below : d.size ≤ 1
  · rw [if_pos below, unit, max_eq_right below, abs_le]
    constructor <;> linarith
  · have above : 1 < d.size := not_le.mp below
    have upper : billionth.size ≤ 1 := by linarith
    have product : billionth.size * ({ d with negative := false } : Double).size < 2 ^ 100 := by
      have : billionth.size * d.size ≤ 1 * d.size := mul_le_mul_of_nonneg_right upper d.size_nonneg
      exact this.trans_lt (by linarith)
    obtain ⟨bound, bound_eq⟩ := exists_mul? product
    have error := mul?_error bound_eq
    have unsigned : ({ d with negative := false } : Double).size = d.size := rfl
    rw [unsigned] at error
    have relative : (2 : ℚ) ^ (-1075 : ℤ) ≤ billionth.size * d.size / 2 ^ 53 := by
      have least : (2 : ℚ) ^ (-1075 : ℤ) ≤ 2 ^ (-100 : ℤ) :=
        zpow_le_zpow_right₀ (by norm_num) (by norm_num)
      have : (1 / 10 ^ 9 - 1 / 2 ^ 83) * 1 ≤ billionth.size * d.size :=
        mul_le_mul (by linarith) above.le (by norm_num) (by linarith)
      refine least.trans ?_
      norm_num at this ⊢
      linarith
    have low : (1 / 10 ^ 9 - 1 / 2 ^ 83) * d.size ≤ billionth.size * d.size :=
      mul_le_mul_of_nonneg_right (by linarith) d.size_nonneg
    have high : billionth.size * d.size ≤ (1 / 10 ^ 9 + 1 / 2 ^ 83) * d.size :=
      mul_le_mul_of_nonneg_right (by linarith) d.size_nonneg
    rw [max_eq_right relative, abs_le] at error
    rw [if_neg below, bound_eq]
    simp only [unit]
    rw [max_eq_left above.le, abs_le]
    constructor <;> linarith

/-- The definition, as an equation of functions: of two doubles it would be checked by computing their
quotient. -/
theorem isMultipleOf_def : isMultipleOf = fun d step =>
    match d.div? step with
    | some quotient =>
      decide ((quotient.units - quotient.round * unitsPerOne).natAbs ≤ quotient.tolerance)
    | none => false := by
  delta isMultipleOf
  rfl

/-- The test for a multiple measures how far the quotient is from the nearest whole number. -/
theorem isMultipleOf_of_div? (divided : a.div? b = some d) :
    a.isMultipleOf b = decide ((d.units - d.round * unitsPerOne).natAbs ≤ d.tolerance) := by
  rw [isMultipleOf_def]
  beta_reduce
  rw [divided]

/-- A number passes for a multiple exactly if the quotient is within its tolerance of a whole number. -/
theorem isMultipleOf_iff_round (divided : a.div? b = some d) :
    a.isMultipleOf b = true ↔ |d.quantity - d.round| ≤ (d.tolerance : ℚ) / unitsPerOne := by
  have scale := unitsPerOne_cast_pos
  have distance : (((d.units - d.round * unitsPerOne).natAbs : ℕ) : ℚ)
      = |d.quantity - d.round| * unitsPerOne := by
    rw [Nat.cast_natAbs, Int.cast_abs, Int.cast_sub, Int.cast_mul, Int.cast_natCast, units_eq,
      ← sub_mul, abs_mul, abs_of_pos scale]
  rw [isMultipleOf_of_div? divided, decide_eq_true_iff, le_div_iff₀ scale, ← distance, Nat.cast_le]

end Double

/-! ## Quotients of numbers -/

namespace Number

variable {n step : Number} {d : Double}

/-- The double of a positive step is not much less than the step. -/
theorem le_quantity_toDouble (positive : 0 < step.quantity) :
    step.quantity * (1 - 1 / 2 ^ 53) ≤ step.toDouble.quantity := by
  have error := step.toDouble_error
  rw [abs_of_pos positive, abs_le] at error
  linarith

/-- The double of a positive step is positive. -/
theorem quantity_toDouble_pos (positive : 0 < step.quantity) : 0 < step.toDouble.quantity :=
  (mul_pos positive (by norm_num)).trans_le (le_quantity_toDouble positive)

/-- Taking the doubles of the two numbers changes their quotient by a few parts in 2^53. -/
theorem quotient_toDouble_error (positive : 0 < step.quantity) :
    |n.toDouble.quantity / step.toDouble.quantity - n.quantity / step.quantity|
      ≤ |n.quantity / step.quantity| * (5 / 2 / 2 ^ 53) := by
  have doublePositive := quantity_toDouble_pos positive
  have low := le_quantity_toDouble positive
  have errorN := n.toDouble_error
  have errorStep := step.toDouble_error
  obtain ⟨x, x_eq⟩ : ∃ x, x = n.quantity / step.quantity := ⟨_, rfl⟩
  obtain ⟨y, y_eq⟩ : ∃ y, y = n.toDouble.quantity / step.toDouble.quantity := ⟨_, rfl⟩
  have product : n.quantity = x * step.quantity := by
    rw [x_eq, div_mul_cancel₀ _ positive.ne']
  have product' : n.toDouble.quantity = y * step.toDouble.quantity := by
    rw [y_eq, div_mul_cancel₀ _ doublePositive.ne']
  have split : (y - x) * step.toDouble.quantity
      = (n.toDouble.quantity - n.quantity) - x * (step.toDouble.quantity - step.quantity) := by
    rw [product, product']
    ring
  have absolute : |y - x| * step.toDouble.quantity
      = |(n.toDouble.quantity - n.quantity) - x * (step.toDouble.quantity - step.quantity)| := by
    rw [← split, abs_mul, abs_of_pos doublePositive]
  have sum : |y - x| * step.toDouble.quantity ≤ |x| * step.quantity * (2 / 2 ^ 53) := by
    rw [absolute]
    calc |(n.toDouble.quantity - n.quantity) - x * (step.toDouble.quantity - step.quantity)|
        ≤ |n.toDouble.quantity - n.quantity| + |x| * |step.toDouble.quantity - step.quantity| := by
          rw [← abs_mul]
          exact abs_sub _ _
      _ ≤ |n.quantity| / 2 ^ 53 + |x| * (|step.quantity| / 2 ^ 53) :=
          add_le_add errorN (mul_le_mul_of_nonneg_left errorStep (abs_nonneg x))
      _ = |x| * step.quantity * (2 / 2 ^ 53) := by
          rw [product, abs_mul, abs_of_pos positive]
          ring
  have lower : |y - x| * (step.quantity * (1 - 1 / 2 ^ 53)) ≤ |y - x| * step.toDouble.quantity :=
    mul_le_mul_of_nonneg_left low (abs_nonneg _)
  have scaled : |y - x| * (1 - 1 / 2 ^ 53) ≤ |x| * (2 / 2 ^ 53) := by
    refine le_of_mul_le_mul_right ?_ positive
    linarith
  have size := abs_nonneg x
  rw [← x_eq, ← y_eq]
  linarith

/-- **The quotient that the rule looks at** is near the exact one. -/
theorem quotient_error (positive : 0 < step.quantity)
    (divided : n.toDouble.div? step.toDouble = some d) :
    |d.quantity - n.quantity / step.quantity| ≤ max |n.quantity / step.quantity| 1 / 2 ^ 51 := by
  have doublePositive := quantity_toDouble_pos positive
  have nonzero : 0 < step.toDouble.magnitude := by
    have counted : (step.toDouble.magnitude : ℚ) ≠ 0 := by
      rw [Double.magnitude_eq, ← Double.abs_quantity, abs_of_pos doublePositive]
      have scale := Double.unitsPerOne_cast_pos.ne'
      exact mul_ne_zero doublePositive.ne' scale
    exact Nat.pos_of_ne_zero (by exact_mod_cast counted)
  have rounding := Double.div?_error nonzero divided
  have doubles := quotient_toDouble_error (n := n) positive
  generalize n.quantity / step.quantity = x at *
  generalize n.toDouble.quantity / step.toDouble.quantity = y at *
  have sizeY : |y| - |x| ≤ |y - x| := abs_sub_abs_le_abs_sub y x
  have triangle : |d.quantity - x| ≤ |d.quantity - y| + |y - x| := abs_sub_le _ _ _
  have least : (2 : ℚ) ^ (-1075 : ℤ) ≤ 2 ^ (-53 : ℤ) :=
    zpow_le_zpow_right₀ (by norm_num) (by norm_num)
  have least : (2 : ℚ) ^ (-1075 : ℤ) ≤ 1 / 2 ^ 53 := least.trans_eq (by norm_num)
  have size := le_max_left |x| 1
  have one := le_max_right |x| 1
  rcases le_max_iff.mp rounding with underflow | relative
  · linarith
  · linarith

/-- The quotient by a step exists as long as the number holds at most 2^90 of these steps. -/
theorem exists_quotient (positive : 0 < step.quantity)
    (small : |n.quantity| ≤ step.quantity * 2 ^ 90) :
    ∃ d, n.toDouble.div? step.toDouble = some d := by
  apply Double.exists_div?
  have low := le_quantity_toDouble positive
  have errorN := n.toDouble_error
  have sizeN : |n.toDouble.quantity| - |n.quantity| ≤ |n.toDouble.quantity - n.quantity| :=
    abs_sub_abs_le_abs_sub _ _
  rw [← Double.abs_quantity, ← Double.abs_quantity, abs_of_pos (quantity_toDouble_pos positive)]
  linarith

/-- **Multiples up to a tolerance.** A number is accepted if the quotient is one part in a thousand
million from a whole number, or less, and refused if it is more than that, but for a margin of one part
in 2^50. -/
theorem isMultipleOf_iff (positive : 0 < step.quantity)
    (small : |n.quantity| ≤ step.quantity * 2 ^ 90) :
    (n.toDouble.isMultipleOf step.toDouble = true → ∃ k : ℤ,
        |n.quantity / step.quantity - k|
          ≤ (1 / 10 ^ 9 + 1 / 2 ^ 50) * max |n.quantity / step.quantity| 1) ∧
      ∀ k : ℤ, |n.quantity / step.quantity - k|
          ≤ (1 / 10 ^ 9 - 1 / 2 ^ 50) * max |n.quantity / step.quantity| 1 →
        n.toDouble.isMultipleOf step.toDouble = true := by
  obtain ⟨d, divided⟩ := exists_quotient positive small
  have quotient := quotient_error positive divided
  rw [Double.isMultipleOf_iff_round divided]
  have bounded : |n.quantity / step.quantity| ≤ 2 ^ 90 := by
    rw [abs_div, abs_of_pos positive, div_le_iff₀ positive, mul_comm]
    exact small
  generalize n.quantity / step.quantity = x at *
  have sizes : |max d.size 1 - max |x| 1| ≤ max |x| 1 / 2 ^ 51 := by
    rw [← Double.abs_quantity]
    exact (abs_max_sub_max_le_abs _ _ _).trans ((abs_abs_sub_abs_le_abs_sub _ _).trans quotient)
  have sizes := abs_le.mp sizes
  have large := le_max_right |x| 1
  have near : max |x| 1 ≤ 2 ^ 90 := max_le bounded (by norm_num)
  have tolerance := Double.tolerance_error (d := d) (by linarith [le_max_left d.size 1])
  have tolerance := abs_le.mp tolerance
  constructor
  · intro accepted
    refine ⟨d.round, ?_⟩
    have triangle : |x - d.round| ≤ |d.quantity - x| + |d.quantity - d.round| := by
      rw [abs_sub_comm d.quantity x]
      exact abs_sub_le _ _ _
    linarith
  · intro k close
    have nearest := d.abs_sub_round_le k
    have triangle : |d.quantity - k| ≤ |d.quantity - x| + |x - k| := abs_sub_le _ _ _
    linarith

end Number

/-! ## The rule -/

/-- The rule on multiples of a positive number decides as the test on the two doubles does. -/
theorem multipleOf_decides_iff [Engines] {n step : Number} (positive : 0 < step.quantity) {verdict : Prop} :
    Keyword.multipleOf.Decides (.number step) (.number n) verdict
      ↔ (n.toDouble.isMultipleOf step.toDouble = true ↔ verdict) := by
  have doublePositive : ¬step.toDouble.units ≤ 0 := by
    have scale := Double.unitsPerOne_cast_pos
    have counted : (0 : ℚ) < step.toDouble.units := by
      rw [Double.units_eq]
      exact mul_pos (Number.quantity_toDouble_pos positive) scale
    exact not_le.mpr (by exact_mod_cast counted)
  have made : Keyword.multipleOf.constraint (.number step) = .ok (.multiple step.toDouble) :=
    if_neg doublePositive
  rw [Keyword.decides_iff made]
  rfl

/-- **Integers are multiples of a step up to one part in a thousand million** of the integer, or of the
step if it is larger, but for a margin of one part in 2^50. So a multiple of the step is always accepted,
and as long as neither of the two is that large nothing else is. -/
theorem multiples_up_to_tolerance [Engines] {z : ℤ}
    (fits : -0x8000000000000000 ≤ z ∧ z < 0x10000000000000000) {step : Number} {m : ℕ}
    (positive : 0 < m) (whole : step.quantity = m) :
    ∃ accepted : Prop,
      Keyword.multipleOf.Decides (.number step) (.number (.integer z fits)) accepted ∧
        ((m : ℤ) ∣ z → accepted) ∧
        (|z| ≤ 999999000 → m ≤ 999999000 → (accepted ↔ (m : ℤ) ∣ z)) ∧
        (∀ k : ℤ, |(z : ℚ) - k * m| ≤ (1 / 10 ^ 9 - 1 / 2 ^ 50) * max |(z : ℚ)| m → accepted) ∧
        (accepted → ∃ k : ℤ, |(z : ℚ) - k * m| ≤ (1 / 10 ^ 9 + 1 / 2 ^ 50) * max |(z : ℚ)| m) := by
  have denominator : (0 : ℚ) < m := by exact_mod_cast positive
  have one : (1 : ℚ) ≤ m := by exact_mod_cast positive
  have stepPositive : 0 < step.quantity := whole ▸ denominator
  have bounded : |((Number.integer z fits).quantity)| ≤ step.quantity * 2 ^ 90 := by
    have size : |z| ≤ 2 ^ 64 := by
      rw [abs_le]
      omega
    have size : |(z : ℚ)| ≤ 2 ^ 64 := by exact_mod_cast size
    rw [whole, Number.quantity]
    linarith
  -- Distances from quotients become distances from multiples when they are counted in steps.
  have distance (k : ℤ) : |(z : ℚ) / m - k| * m = |(z : ℚ) - k * m| := by
    rw [← abs_of_pos denominator, ← abs_mul, abs_of_pos denominator, sub_mul,
      div_mul_cancel₀ _ denominator.ne']
  have size : max |(z : ℚ) / m| 1 * m = max |(z : ℚ)| m := by
    rw [max_mul_of_nonneg _ _ denominator.le, one_mul, abs_div, abs_of_pos denominator,
      div_mul_cancel₀ _ denominator.ne']
  have counted (k : ℤ) (part : ℚ) : |(z : ℚ) / m - k| ≤ part * max |(z : ℚ) / m| 1 ↔
      |(z : ℚ) - k * m| ≤ part * max |(z : ℚ)| m := by
    rw [← mul_le_mul_iff_left₀ denominator, distance, mul_assoc, size]
  have judged := Number.isMultipleOf_iff stepPositive bounded
  rw [whole, Number.quantity] at judged
  simp only [counted] at judged
  obtain ⟨near, close⟩ := judged
  have multiple (divides : (m : ℤ) ∣ z) :
      (Number.integer z fits).toDouble.isMultipleOf step.toDouble = true := by
    obtain ⟨k, rfl⟩ := divides
    refine close k ?_
    push_cast
    rw [mul_comm (k : ℚ), sub_self, abs_zero]
    positivity
  refine ⟨_, (multipleOf_decides_iff stepPositive).mpr Iff.rfl, multiple, ?_, close, near⟩
  intro smallZ smallM
  refine ⟨?_, multiple⟩
  intro accepted
  obtain ⟨k, within⟩ := near accepted
  have large : max |(z : ℚ)| m ≤ 999999000 :=
    max_le (by exact_mod_cast smallZ) (by exact_mod_cast smallM)
  have less : |(z : ℚ) - k * m| < 1 := by linarith
  have less : |z - k * m| < 1 := by exact_mod_cast less
  exact ⟨k, by linarith [Int.abs_lt_one_iff.mp less]⟩

/-- The integer 3. -/
def three : Number := .integer 3 (by decide)

/-- The largest integer, which is a multiple of 3 and no double, is accepted as one. -/
theorem largest_multiple_of_three :
    three.quantity = (3 : ℕ) ∧ ((3 : ℕ) : ℤ) ∣ 0xFFFFFFFFFFFFFFFF ∧
      Keyword.multipleOf.Decides (.number three)
        (.number (.integer 0xFFFFFFFFFFFFFFFF (by decide))) True := by
  have whole : three.quantity = (3 : ℕ) := by norm_num [three, Number.quantity]
  have divides : ((3 : ℕ) : ℤ) ∣ 0xFFFFFFFFFFFFFFFF := by decide
  obtain ⟨accepted, decides, multiple, -⟩ :=
    multiples_up_to_tolerance (z := 0xFFFFFFFFFFFFFFFF) (by decide) (by decide) whole
  refine ⟨whole, divides, ?_⟩
  rw [← eq_true (multiple divides)]
  exact decides

/-- **Beyond the tolerance multiples are not told apart.** An odd integer of a thousand million is
accepted as a multiple of 2. -/
theorem multiples_not_divisible :
    ¬∀ (z m : ℤ) (fits : -0x8000000000000000 ≤ z ∧ z < 0x10000000000000000)
        (fits' : -0x8000000000000000 ≤ m ∧ m < 0x10000000000000000), 0 < m →
      Keyword.multipleOf.Decides (.number (.integer m fits')) (.number (.integer z fits)) (m ∣ z) := by
  intro exactly
  have positive : 0 < (Number.integer 2 (by decide)).quantity := by norm_num [Number.quantity]
  have judged := (multipleOf_decides_iff positive).mp
    (exactly 1000000001 2 (by decide) (by decide) (by decide))
  have accepted : (Number.integer 1000000001 (by decide)).toDouble.isMultipleOf
      (Number.integer 2 (by decide)).toDouble = true := by decide +kernel
  exact absurd (judged.mp accepted) (by decide)

end Intake
