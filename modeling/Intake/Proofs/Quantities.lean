import Intake.Value.Equality
import Mathlib

/-!
# What numbers denote

A number denotes a quantity, which is a rational number: an integer denotes itself, and a double its
significand times a power of two (`Double.quantity`). The units of a number count its quantity in
multiples of the least positive double (`Number.units_eq`), so equal quantities are equal counts.

A quantity other than zero is that of one double only, since doubles of a larger exponent are larger and
doubles of the same exponent have different significands. Hence the key of a number, an integer for whole
quantities of moderate size and a bit pattern for all others, is decided by the quantity and decides it
(`Number.key_eq_iff`): two numbers are equivalent exactly if they denote the same quantity
(`numbers_equivalent_iff`).
-/

set_option autoImplicit false

namespace Intake

namespace Double

/-- The absolute value of what a double denotes. The fraction bits follow a leading one, or a zero if
the exponent is the smallest one; the exponent is biased by 1023. -/
def size (d : Double) : ℚ :=
  if d.exponent.val = 0 then d.fraction.val / 2 ^ 52 * 2 ^ (-1022 : ℤ)
  else (1 + d.fraction.val / 2 ^ 52) * 2 ^ ((d.exponent.val : ℤ) - 1023)

/-- The quantity that a double denotes. -/
def quantity (d : Double) : ℚ :=
  if d.negative then -d.size else d.size

/-- The size of a double is not negative. -/
theorem size_nonneg (d : Double) : 0 ≤ d.size := by
  unfold size
  split <;> positivity

/-- The size of a double is the absolute value of its quantity. -/
theorem abs_quantity (d : Double) : |d.quantity| = d.size := by
  unfold quantity
  split
  · rw [abs_neg, abs_of_nonneg d.size_nonneg]
  · exact abs_of_nonneg d.size_nonneg

/-- The distance of a double to a number of the same sign is the distance of the sizes. -/
theorem abs_quantity_sub (d : Double) (x : ℚ) :
    |d.quantity - (if d.negative then -x else x)| = |d.size - x| := by
  unfold quantity
  split
  · rw [neg_sub_neg, abs_sub_comm]
  · rfl

end Double

/-- The quantity that a number denotes. -/
def Number.quantity : Number → ℚ
  | .integer z _ => z
  | .float d => d.quantity

/-! ## Units -/

namespace Double

/-- Powers of two are the same as whole and as rational numbers. -/
theorem cast_pow_two (exponent : ℕ) : (Nat.pow 2 exponent : ℚ) = 2 ^ (exponent : ℤ) := by
  simp

/-- Powers of two are positive. -/
theorem pow_two_pos (exponent : ℕ) : 0 < Nat.pow 2 exponent :=
  Nat.two_pow_pos exponent

/-- One is 2^1074 times the least positive double. -/
theorem unitsPerOne_cast : (unitsPerOne : ℚ) = 2 ^ ((1074 : ℕ) : ℤ) := by
  unfold unitsPerOne
  apply cast_pow_two

/-- One holds the least positive double at least once. -/
theorem unitsPerOne_pos : 0 < unitsPerOne := by
  unfold unitsPerOne
  apply pow_two_pos

/-- One holds the least positive double at least once, as a rational number. -/
theorem unitsPerOne_cast_pos : (0 : ℚ) < unitsPerOne := by
  exact_mod_cast unitsPerOne_pos

/-- Integers are equal if they count equally many of the least double. -/
theorem mul_unitsPerOne_inj {y z : ℤ} : y * unitsPerOne = z * unitsPerOne ↔ y = z := by
  have nonzero : (unitsPerOne : ℤ) ≠ 0 := by exact_mod_cast unitsPerOne_pos.ne'
  exact mul_left_inj' nonzero

/-- The magnitude of a double counts its size in multiples of the least double. -/
theorem magnitude_eq (d : Double) : (d.magnitude : ℚ) = d.size * unitsPerOne := by
  unfold magnitude significand size
  rw [unitsPerOne_cast, Nat.pow_eq]
  by_cases small : d.exponent.val = 0
  · have scale : (2 : ℚ) ^ (-1022 : ℤ) * 2 ^ ((1074 : ℕ) : ℤ) = 2 ^ 52 := by
      rw [← zpow_add₀ (by norm_num), ← zpow_natCast]
      norm_num
    rw [if_pos small, if_pos small, mul_assoc, scale]
    simp [small]
  · have scale : (2 : ℚ) ^ ((d.exponent.val : ℤ) - 1023) * 2 ^ ((1074 : ℕ) : ℤ)
        = 2 ^ 52 * 2 ^ (d.exponent.val - 1) := by
      rw [← zpow_add₀ (by norm_num), ← zpow_natCast, ← zpow_natCast, ← zpow_add₀ (by norm_num)]
      congr 1
      omega
    rw [if_neg small, if_neg small, mul_assoc, scale]
    push_cast
    ring

/-- The units of a double count its quantity in multiples of the least double. -/
theorem units_eq (d : Double) : (d.units : ℚ) = d.quantity * unitsPerOne := by
  unfold units quantity
  cases d.negative with
  | true => rw [if_pos rfl, if_pos rfl, Int.cast_neg, Int.cast_natCast, magnitude_eq, neg_mul]
  | false => simp only [Bool.false_eq_true, if_false, Int.cast_natCast, magnitude_eq]

end Double

/-- **The units of a number count its quantity.** -/
theorem Number.units_eq (n : Number) : (n.units : ℚ) = n.quantity * Double.unitsPerOne := by
  cases n with
  | integer z fits => rw [units, quantity, Int.cast_mul, Int.cast_natCast]
  | float d => exact d.units_eq

/-- Numbers have one quantity exactly if they have the same units. -/
theorem Number.quantity_eq_iff {a b : Number} : a.quantity = b.quantity ↔ a.units = b.units := by
  have nonzero := Double.unitsPerOne_cast_pos.ne'
  have counts : (a.units : ℚ) = b.units ↔ a.units = b.units := Int.cast_inj
  rw [← counts, units_eq, units_eq, mul_left_inj' nonzero]

/-! ## The double of a quantity -/

namespace Double

variable {d e : Double} {z : ℤ}

/-- The exponent bounds the magnitude of a double from above. -/
theorem magnitude_lt (d : Double) :
    d.magnitude < 0x10000000000000 * Nat.pow 2 d.exponent.val := by
  have fraction := d.fraction.isLt
  unfold magnitude significand
  by_cases small : d.exponent.val = 0
  · simp [small]
  · obtain ⟨exponent, next⟩ := Nat.exists_eq_succ_of_ne_zero small
    rw [if_neg small, next, Nat.succ_sub_one, Nat.pow_eq, Nat.pow_eq, Nat.pow_succ]
    calc (0x10000000000000 + d.fraction.val) * 2 ^ exponent
        < 0x20000000000000 * 2 ^ exponent :=
          Nat.mul_lt_mul_of_pos_right (by omega) (Nat.two_pow_pos exponent)
      _ = 0x10000000000000 * (2 ^ exponent * 2) := by ring

/-- The exponent of a normal double bounds its magnitude from below. -/
theorem le_magnitude (normal : d.exponent.val ≠ 0) :
    0x10000000000000 * Nat.pow 2 (d.exponent.val - 1) ≤ d.magnitude := by
  unfold magnitude significand
  rw [if_neg normal]
  exact Nat.mul_le_mul_right _ (Nat.le_add_right _ _)

/-- A double of a larger exponent is larger. -/
theorem magnitude_lt_magnitude (lower : d.exponent < e.exponent) : d.magnitude < e.magnitude := by
  have normal : e.exponent.val ≠ 0 := Nat.ne_zero_of_lt lower
  have step : d.exponent.val ≤ e.exponent.val - 1 := Nat.le_sub_one_of_lt lower
  calc d.magnitude < 0x10000000000000 * Nat.pow 2 d.exponent.val := magnitude_lt d
    _ ≤ 0x10000000000000 * Nat.pow 2 (e.exponent.val - 1) :=
      Nat.mul_le_mul_left _ (Nat.pow_le_pow_right (by decide) step)
    _ ≤ e.magnitude := le_magnitude normal

/-- A double is decided by its sign and its magnitude. -/
theorem eq_of_magnitude_eq (sign : d.negative = e.negative) (same : d.magnitude = e.magnitude) :
    d = e := by
  have exponent : d.exponent = e.exponent := by
    rcases lt_trichotomy d.exponent e.exponent with lower | equal | higher
    · exact absurd same (magnitude_lt_magnitude lower).ne
    · exact equal
    · exact absurd same (magnitude_lt_magnitude higher).ne'
  have fraction : d.fraction = e.fraction := by
    unfold magnitude significand at same
    rw [exponent] at same
    have significands := Nat.eq_of_mul_eq_mul_right (pow_two_pos _) same
    apply Fin.ext
    split at significands <;> omega
  cases d
  cases e
  simp_all

/-- The units of a double are its magnitude with a sign. -/
theorem natAbs_units (d : Double) : d.units.natAbs = d.magnitude := by
  unfold units
  split <;> simp

/-- Except for the two zeros, the sign of a double is that of its units. -/
theorem negative_eq (nonzero : d.units ≠ 0) : d.negative = decide (d.units < 0) := by
  have positive : d.magnitude ≠ 0 := by
    rw [← natAbs_units]
    exact Int.natAbs_ne_zero.mpr nonzero
  unfold units
  cases d.negative with
  | true => simpa using Nat.pos_of_ne_zero positive
  | false => simp

/-- **A quantity other than zero is that of one double only.** -/
theorem eq_of_units_eq (nonzero : d.units ≠ 0) (same : d.units = e.units) : d = e := by
  have magnitudes : d.magnitude = e.magnitude := by rw [← natAbs_units, ← natAbs_units, same]
  have signs : d.negative = e.negative := by
    rw [negative_eq nonzero, negative_eq (same ▸ nonzero), same]
  exact eq_of_magnitude_eq signs magnitudes

/-- A whole double is equal to its integral part. -/
theorem units_of_isWhole (whole : d.isWhole = true) : d.units = d.truncate * unitsPerOne := by
  have divided : d.magnitude / unitsPerOne * unitsPerOne = d.magnitude :=
    Nat.div_mul_cancel (Nat.dvd_of_mod_eq_zero (by simpa [isWhole] using whole))
  have counted : ((d.magnitude / unitsPerOne : ℕ) : ℤ) * unitsPerOne = d.magnitude := by
    exact_mod_cast divided
  unfold units truncate
  split
  · rw [Int.neg_mul, counted]
  · rw [counted]

/-- A double that denotes a whole number is recognised, and that number is its integer part. -/
theorem isWhole_of_units (count : d.units = z * unitsPerOne) :
    d.isWhole = true ∧ d.truncate = z := by
  have whole : d.isWhole = true := by
    have divides : (unitsPerOne : ℤ) ∣ d.units := ⟨z, by rw [count, Int.mul_comm]⟩
    rw [isWhole, beq_iff_eq, ← natAbs_units]
    exact Nat.mod_eq_zero_of_dvd (Int.natCast_dvd.mp divides)
  refine ⟨whole, ?_⟩
  exact mul_unitsPerOne_inj.mp ((units_of_isWhole whole).symm.trans count)

end Double

/-! ## Keys -/

namespace Number

variable {a b : Number}

/-- A whole quantity that is small enough to be identified as an integer. -/
def IsModerate (z : ℤ) : Prop :=
  -wholeLimit ≤ z ∧ z < wholeLimit

/-- The key of a number is the integer that it denotes, if it is a moderate one, and else a double that
denotes no moderate integer. -/
theorem key_cases (n : Number) :
    (∃ z, n.key = .integer z ∧ n.units = z * Double.unitsPerOne ∧ IsModerate z) ∨
      ∃ d, n.key = .float d ∧ n.units = d.units ∧
        ∀ z, d.units = z * Double.unitsPerOne → ¬IsModerate z := by
  cases n with
  | integer z fits =>
    have moderate : IsModerate z := by
      unfold IsModerate wholeLimit
      omega
    exact Or.inl ⟨z, rfl, rfl, moderate⟩
  | float d =>
    simp only [key, units]
    split
    · rename_i integer
      simp only [Bool.and_eq_true, decide_eq_true_eq] at integer
      obtain ⟨⟨whole, low⟩, high⟩ := integer
      exact Or.inl ⟨d.truncate, rfl, Double.units_of_isWhole whole, low, high⟩
    · rename_i other
      refine Or.inr ⟨d, rfl, rfl, ?_⟩
      rintro z count ⟨low, high⟩
      obtain ⟨whole, rfl⟩ := Double.isWhole_of_units count
      exact other (by simp [whole, low, high])

/-- **The key of a number is decided by the quantity, and decides it.** -/
theorem key_eq_iff : a.key = b.key ↔ a.units = b.units := by
  rcases key_cases a with ⟨y, keyA, unitsA, moderate⟩ | ⟨d, keyA, unitsA, immoderate⟩ <;>
    rcases key_cases b with ⟨z, keyB, unitsB, moderate'⟩ | ⟨e, keyB, unitsB, immoderate'⟩ <;>
    rw [keyA, keyB, unitsA, unitsB]
  · rw [QuantityKey.integer.injEq, Double.mul_unitsPerOne_inj]
  · refine iff_of_false nofun ?_
    intro same
    exact immoderate' y same.symm moderate
  · refine iff_of_false nofun ?_
    intro same
    exact immoderate z same moderate'
  · rw [QuantityKey.float.injEq]
    refine ⟨congrArg Double.units, ?_⟩
    -- Zero is a moderate integer, so the doubles that are keys are not zero.
    have nonzero : d.units ≠ 0 := by
      intro zero
      exact immoderate 0 (by rw [zero, Int.zero_mul]) (by unfold IsModerate wholeLimit; omega)
    exact Double.eq_of_units_eq nonzero

end Number

/-- **Numbers are equivalent exactly if they denote the same quantity**, whatever their representations:
integers, signed or unsigned, and doubles of any size and sign. -/
theorem numbers_equivalent_iff (a b : Number) :
    (Value.number a).equivalent (.number b) = true ↔ a.quantity = b.quantity := by
  rw [Value.equivalent, beq_iff_eq, Number.key_eq_iff, Number.quantity_eq_iff]

/-- Next to the double 2^53 there is an integer that no double denotes. -/
example : (Value.number (.integer 0x20000000000001 (by decide))).equivalent
    (.number (.float ⟨false, 1076, 0⟩)) = false := by decide +kernel

end Intake
