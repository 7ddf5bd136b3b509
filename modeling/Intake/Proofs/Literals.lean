import Intake.Proofs.Nearness
import Intake.Proofs.Numerals

/-!
# Decimal literals

A decimal literal denotes its digits times a power of ten, which is a rational number
(`DecimalLiteral.quantity`). Its value is the double nearest to that number, whatever the number of digits
(`DecimalLiteral.rounded?_isRounded`). No power of ten beyond 10^400 is formed: a literal with more digits
than that before the point is larger than every double (`DecimalLiteral.lt_size_of_huge`), and one with as
many zeros after it is nearer to zero than to any other (`DecimalLiteral.size_lt_of_tiny`).
-/

set_option autoImplicit false

namespace Intake

open Intake.Text

namespace DecimalLiteral

/-- The absolute value of what a literal denotes. -/
def size (l : DecimalLiteral) : ℚ :=
  ofDigits l.digits * 10 ^ l.exponent

/-- The rational number that a literal denotes. -/
def quantity (l : DecimalLiteral) : ℚ :=
  if l.negative then -l.size else l.size

/-- The size of a literal is the absolute value of its quantity. -/
theorem abs_quantity (l : DecimalLiteral) : |l.quantity| = l.size := by
  have nonneg : 0 ≤ l.size := mul_nonneg (Nat.cast_nonneg _) (by positivity)
  rw [quantity, apply_ite abs, abs_neg, ite_self, abs_of_nonneg nonneg]

/-- The digits from the first one on that is not zero. -/
def significant (l : DecimalLiteral) : List Char :=
  l.digits.dropWhile (· == '0')

/-- The power of ten that the literal is smaller than. -/
def leading (l : DecimalLiteral) : ℤ :=
  l.significant.length + l.exponent

/-- The double that a literal is read as, if there is one. -/
def rounded? (l : DecimalLiteral) : Option Double :=
  if l.significant = [] ∨ l.leading < -extremeExponent then Double.ofMagnitude? l.negative 0
  else if extremeExponent < l.leading then none
  else if 0 ≤ l.exponent then
    Double.nearest? l.negative (ofDigits l.significant * Nat.pow 10 l.exponent.toNat) 1
  else Double.nearest? l.negative (ofDigits l.significant) (Nat.pow 10 (-l.exponent).toNat)

/-- A literal is a finite double or, if its size is out of range, an infinity of its sign. -/
theorem value_eq (l : DecimalLiteral) :
    l.value = match l.rounded? with
      | some d => .finite d
      | none => .infinite l.negative := rfl

variable {l : DecimalLiteral}

/-- Zeros before the first other digit do not count. -/
theorem ofDigits_significant (l : DecimalLiteral) : ofDigits l.significant = ofDigits l.digits := by
  unfold significant
  induction l.digits with
  | nil => rfl
  | cons c cs ih =>
    by_cases zero : c = '0'
    · rw [List.dropWhile_cons_of_pos (by simpa using zero), ih, zero, ofDigits_cons]
      simp [digitValue]
    · rw [List.dropWhile_cons_of_neg (by simpa using zero)]

/-- The significant characters of a literal are digits if all are. -/
theorem isDigit_of_mem_significant {c : Char} (digits : ∀ c ∈ l.digits, isDigit c = true)
    (member : c ∈ l.significant) : isDigit c = true :=
  digits c ((List.dropWhile_suffix _).mem member)

/-- A literal is smaller than the power of ten before its first digit. -/
theorem size_lt (digits : ∀ c ∈ l.digits, isDigit c = true) : l.size < 10 ^ l.leading := by
  have positive : (0 : ℚ) < 10 ^ l.exponent := by positivity
  have bounded : (ofDigits l.significant : ℚ) < 10 ^ l.significant.length := by
    exact_mod_cast ofDigits_lt fun c => isDigit_of_mem_significant digits
  rw [size, leading, zpow_add₀ (by norm_num), zpow_natCast, ← ofDigits_significant]
  exact mul_lt_mul_of_pos_right bounded positive

/-- A literal is no smaller than the power of ten of its first digit. -/
theorem le_size (digits : ∀ c ∈ l.digits, isDigit c = true) (nonzero : l.significant ≠ []) :
    10 ^ (l.leading - 1) ≤ l.size := by
  obtain ⟨c, cs, split⟩ := List.exists_cons_of_ne_nil nonzero
  have digit := isDigit_of_mem_significant digits (split ▸ List.mem_cons_self)
  have first : c ≠ '0' := by
    have head := List.head?_dropWhile_not (· == '0') l.digits
    rw [← significant, split] at head
    simpa using head
  have counted : (10 : ℚ) ^ cs.length ≤ ofDigits l.significant := by
    have value := Nat.le_mul_of_pos_left (10 ^ cs.length) (digitValue_pos digit first)
    rw [split, ofDigits_cons]
    exact_mod_cast le_add_of_le_of_nonneg value (Nat.zero_le _)
  have exponent : l.leading - 1 = cs.length + l.exponent := by
    rw [leading, split, List.length_cons]
    push_cast
    ring
  rw [size, exponent, zpow_add₀ (by norm_num), zpow_natCast, ← ofDigits_significant]
  exact mul_le_mul_of_nonneg_right counted (by positivity)

/-! ## Extreme literals -/

/-- The extreme exponent is far beyond the range of doubles. -/
theorem two_pow_le_extreme : (2 : ℚ) ^ (1200 : ℤ) ≤ 10 ^ extremeExponent := by
  -- Powers of eight and of ten are compared, as 2^1200 itself is too large to write out.
  have cubes : (1200 : ℤ) = 3 * extremeExponent := rfl
  rw [cubes, zpow_mul]
  exact zpow_le_zpow_left₀ (by decide) (by norm_num) (by norm_num)

/-- A literal without a first digit, or with one far behind the point, is nearest to zero. -/
theorem size_lt_of_tiny (digits : ∀ c ∈ l.digits, isDigit c = true)
    (tiny : l.significant = [] ∨ l.leading < -extremeExponent) : l.size < 2 ^ (-1075 : ℤ) := by
  rcases tiny with none | behind
  · have zero : l.size = 0 := by
      rw [size, ← ofDigits_significant, none]
      exact zero_mul _
    rw [zero]
    positivity
  · have least : (10 : ℚ) ^ (-extremeExponent) ≤ 2 ^ (-1200 : ℤ) := by
      rw [zpow_neg, zpow_neg]
      exact inv_anti₀ (by positivity) two_pow_le_extreme
    calc l.size < 10 ^ l.leading := size_lt digits
      _ ≤ 10 ^ (-extremeExponent) := zpow_le_zpow_right₀ (by norm_num) behind.le
      _ ≤ 2 ^ (-1200 : ℤ) := least
      _ ≤ 2 ^ (-1075 : ℤ) := zpow_le_zpow_right₀ (by norm_num) (by norm_num)

/-- A literal with a first digit far before the point is larger than every double. -/
theorem lt_size_of_huge (digits : ∀ c ∈ l.digits, isDigit c = true) (nonzero : l.significant ≠ [])
    (huge : extremeExponent < l.leading) : 2 ^ (1024 : ℤ) < l.size :=
  calc (2 : ℚ) ^ (1024 : ℤ) < 2 ^ (1200 : ℤ) := zpow_lt_zpow_right₀ (by norm_num) (by norm_num)
    _ ≤ 10 ^ extremeExponent := two_pow_le_extreme
    _ ≤ 10 ^ (l.leading - 1) := zpow_le_zpow_right₀ (by norm_num) (by omega)
    _ ≤ l.size := le_size digits nonzero

/-! ## Rounding -/

/-- **A literal is rounded to nearest**, also where its first digit decides. -/
theorem rounded?_isRounded (digits : ∀ c ∈ l.digits, isDigit c = true) :
    Double.IsRounded l.quantity l.rounded? := by
  unfold rounded?
  split_ifs with tiny huge whole
  · obtain ⟨d, made⟩ := Double.exists_ofMagnitude? l.negative (by decide : Nat.log2 0 < 2098)
    have zero : d.quantity = 0 := by
      have none := (Double.magnitude_of_ofMagnitude? (dvd_zero _) made).2
      rw [← abs_eq_zero, Double.abs_quantity, ← mul_left_inj' Double.unitsPerOne_cast_pos.ne',
        ← Double.magnitude_eq, none, zero_mul, Nat.cast_zero]
    rw [made]
    apply Double.isNearest_of_small zero
    rw [abs_quantity]
    exact size_lt_of_tiny digits tiny
  · intro e
    rw [abs_quantity, Double.abs_quantity]
    exact (Double.size_lt e).trans (lt_size_of_huge digits (not_or.mp tiny).1 huge)
  · have size : ((ofDigits l.significant * Nat.pow 10 l.exponent.toNat : ℕ) : ℚ) / (1 : ℕ) = l.size := by
      obtain ⟨places, exponent⟩ := Int.eq_ofNat_of_zero_le whole
      simp [ofDigits_significant, DecimalLiteral.size, exponent]
    have rounded := Double.nearest?_isRounded one_pos
      (ofDigits l.significant * Nat.pow 10 l.exponent.toNat) l.negative
    rwa [size] at rounded
  · have size : (ofDigits l.significant : ℚ) / (Nat.pow 10 (-l.exponent).toNat : ℕ) = l.size := by
      obtain ⟨places, exponent⟩ := Int.exists_eq_neg_ofNat (not_le.mp whole).le
      simp [ofDigits_significant, DecimalLiteral.size, exponent, div_eq_mul_inv]
    have rounded := Double.nearest?_isRounded
      (Nat.pow_pos (n := (-l.exponent).toNat) (by decide : 0 < 10)) (ofDigits l.significant) l.negative
    rwa [← Nat.pow_eq, size] at rounded

end DecimalLiteral

end Intake
