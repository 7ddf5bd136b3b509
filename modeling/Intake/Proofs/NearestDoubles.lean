import Intake.Proofs.Quantities

/-!
# Nearest doubles

Rounding gives the double nearest to an exact quotient. A magnitude is counted in multiples of the least
positive double, and the doubles about it are `spacing` apart, so the magnitudes of doubles are those that
their own spacing divides (`FitsSignificand`). Rounding leaves them alone (`roundMagnitude_eq_self`), never
turns the order of two magnitudes round (`roundMagnitude_mono`), and errs by half the spacing at most
(`nearest?_error`).

An integer is taken as the nearest double, and a double as itself. In units both are the same rounding
(`Number.units_toDouble`), so the double of a number is decided by its quantity, and two numbers are in
order if their doubles are.
-/

set_option autoImplicit false

namespace Intake

namespace Double

variable {negative : Bool} {num den magnitude : ℕ} {d : Double}

/-! ## Nearest whole numbers -/

/-- A quotient is rounded down if its remainder is at most half the divisor, and up if it is at least half.
-/
theorem roundEven_cases (num den : ℕ) :
    (roundEven num den = num / den ∧ 2 * (num % den) ≤ den) ∨
      (roundEven num den = num / den + 1 ∧ den ≤ 2 * (num % den)) := by
  simp only [roundEven]
  split_ifs <;> omega

/-- Rounding does not fall below the quotient rounded down. -/
theorem le_roundEven (num den : ℕ) : num / den ≤ roundEven num den := by
  rcases roundEven_cases num den with ⟨down, -⟩ | ⟨up, -⟩ <;> omega

/-- Rounding goes one above the quotient rounded down at most. -/
theorem roundEven_le (num den : ℕ) : roundEven num den ≤ num / den + 1 := by
  rcases roundEven_cases num den with ⟨down, -⟩ | ⟨up, -⟩ <;> omega

/-- A rounded quotient is off by half at most. -/
theorem roundEven_error (positive : 0 < den) (num : ℕ) :
    |(roundEven num den : ℚ) * den - num| ≤ den / 2 := by
  have divided : (den : ℚ) * (num / den : ℕ) + (num % den : ℕ) = num := by
    exact_mod_cast Nat.div_add_mod num den
  have remainder : ((num % den : ℕ) : ℚ) ≥ 0 := Nat.cast_nonneg _
  rw [abs_le]
  rcases roundEven_cases num den with ⟨down, small⟩ | ⟨up, large⟩
  · have small : 2 * ((num % den : ℕ) : ℚ) ≤ den := by exact_mod_cast small
    rw [down]
    constructor <;> linarith
  · have large : (den : ℚ) ≤ 2 * (num % den : ℕ) := by exact_mod_cast large
    have below : ((num % den : ℕ) : ℚ) ≤ den := by exact_mod_cast (Nat.mod_lt num positive).le
    rw [up]
    push_cast
    constructor <;> linarith

/-- A greater numerator does not give a lesser rounded quotient. -/
theorem roundEven_mono {num' : ℕ} (le : num ≤ num') : roundEven num den ≤ roundEven num' den := by
  rcases (Nat.div_le_div_right le : num / den ≤ num' / den).lt_or_eq with less | same
  · have low := roundEven_le num den
    have high := le_roundEven num' den
    omega
  · have here := Nat.div_add_mod num den
    have there := Nat.div_add_mod num' den
    have remainders : num % den ≤ num' % den := by
      rw [same] at here
      omega
    simp only [roundEven, same]
    split_ifs <;> omega

/-- A quotient without remainder is not changed by rounding. -/
theorem roundEven_mul (positive : 0 < den) (k : ℕ) : roundEven (k * den) den = k := by
  simp [roundEven, Nat.mul_div_cancel k positive, positive]

/-! ## Magnitudes of doubles -/

/-- How far apart the doubles about a magnitude are. Those with a significand of fifty-three bits are a
unit of its last bit apart. -/
def spacing (magnitude : ℕ) : ℕ :=
  2 ^ (magnitude.log2 - 52)

/-- A magnitude has at most fifty-three significant bits. -/
def FitsSignificand (magnitude : ℕ) : Prop :=
  spacing magnitude ∣ magnitude

/-- Neighbouring doubles are apart. -/
theorem spacing_pos (magnitude : ℕ) : 0 < spacing magnitude :=
  Nat.two_pow_pos _

/-- Magnitudes of a bounded number of bits have a bounded spacing. -/
theorem spacing_le {exponent : ℕ} (bits : magnitude.log2 ≤ 52 + exponent) :
    spacing magnitude ≤ 2 ^ exponent :=
  Nat.pow_le_pow_right (by decide) (by omega)

/-- A magnitude is less than 2^53 of its own spacings. -/
theorem lt_mul_spacing (magnitude : ℕ) : magnitude < 2 ^ 53 * spacing magnitude := by
  unfold spacing
  rw [← pow_add]
  calc magnitude < 2 ^ (magnitude.log2 + 1) := Nat.lt_log2_self
    _ ≤ 2 ^ (53 + (magnitude.log2 - 52)) := Nat.pow_le_pow_right (by decide) (by omega)

/-- Where doubles are further apart than the least of them, a magnitude holds at least 2^52 of its own
spacings. -/
theorem spacing_cases (magnitude : ℕ) :
    spacing magnitude = 1 ∨ 2 ^ 52 * spacing magnitude ≤ magnitude := by
  unfold spacing
  rcases Nat.lt_or_ge 52 magnitude.log2 with large | small
  · right
    have nonzero : magnitude ≠ 0 := by
      rintro rfl
      simp at large
    rw [← pow_add, Nat.add_sub_cancel' large.le]
    exact Nat.log2_self_le nonzero
  · left
    rw [Nat.sub_eq_zero_of_le small, pow_zero]

/-- From one spacing to the next larger one the distance doubles. -/
theorem spacing_steps {magnitude' : ℕ} (le : magnitude ≤ magnitude') :
    spacing magnitude = spacing magnitude' ∨ 2 * spacing magnitude ≤ spacing magnitude' := by
  have logs : magnitude.log2 ≤ magnitude'.log2 := by
    rw [Nat.log2_eq_log_two, Nat.log2_eq_log_two]
    exact Nat.log_mono_right le
  unfold spacing
  rcases (Nat.sub_le_sub_right logs 52).lt_or_eq with less | same
  · right
    rw [← pow_succ']
    exact Nat.pow_le_pow_right (by decide) less
  · left
    rw [same]

/-- At most 2^53, shifted by any number of bits, fits in a significand. -/
theorem fitsSignificand_mul_pow {significand : ℕ} (small : significand ≤ 2 ^ 53) (exponent : ℕ) :
    FitsSignificand (significand * Nat.pow 2 exponent) := by
  have fits {short : ℕ} (small : short < 2 ^ 53) (exponent : ℕ) :
      FitsSignificand (short * 2 ^ exponent) := by
    unfold FitsSignificand spacing
    have bits : (short * 2 ^ exponent).log2 - 52 ≤ exponent := by
      rcases Nat.eq_zero_or_pos short with rfl | positive
      · simp
      · have nonzero : short * 2 ^ exponent ≠ 0 := by positivity
        have below : short * 2 ^ exponent < 2 ^ (53 + exponent) := by
          rw [pow_add]
          exact Nat.mul_lt_mul_of_pos_right small (Nat.two_pow_pos _)
        have := (Nat.log2_lt nonzero).mpr below
        omega
    exact (pow_dvd_pow 2 bits).mul_left short
  rw [Nat.pow_eq]
  rcases small.lt_or_eq with less | rfl
  · exact fits less exponent
  · have halved : 2 ^ 53 * 2 ^ exponent = 2 ^ 52 * 2 ^ (exponent + 1) := by ring
    rw [halved]
    exact fits (by decide) (exponent + 1)

/-- The magnitude of a double fits in a significand. -/
theorem fitsSignificand_magnitude (d : Double) : FitsSignificand d.magnitude := by
  have fraction := d.fraction.isLt
  have small : d.significand ≤ 2 ^ 53 := by
    unfold significand
    split <;> omega
  exact fitsSignificand_mul_pow small _

/-- Whole numbers up to 2^53 fit in a significand. -/
theorem fitsSignificand_mul_unitsPerOne {whole : ℕ} (small : whole ≤ 2 ^ 53) :
    FitsSignificand (whole * unitsPerOne) := by
  unfold unitsPerOne
  apply fitsSignificand_mul_pow small

/-- A magnitude that has a double is found again in it. -/
theorem magnitude_of_ofMagnitude? (fits : FitsSignificand magnitude)
    (made : ofMagnitude? negative magnitude = some d) :
    d.negative = negative ∧ d.magnitude = magnitude := by
  unfold ofMagnitude? at made
  simp only [Option.dite_none_right_eq_some, Option.some.injEq] at made
  obtain ⟨finite, rfl⟩ := made
  refine ⟨rfl, ?_⟩
  unfold FitsSignificand spacing at fits
  obtain ⟨significand, split⟩ := fits
  simp only [Double.magnitude, Double.significand, Nat.pow_eq]
  rcases Nat.lt_or_ge magnitude.log2 52 with small | large
  · have below : magnitude < 2 ^ 52 := by
      rcases Nat.eq_zero_or_pos magnitude with rfl | positive
      · decide
      · exact (Nat.log2_lt positive.ne').mp small
    have least : magnitude.log2 - 51 = 0 := by omega
    simp only [least, if_true, Nat.zero_sub, pow_zero, Nat.div_one, Nat.mul_one]
    exact Nat.mod_eq_of_lt below
  · have normal : magnitude.log2 - 51 ≠ 0 := by omega
    have exponent : magnitude.log2 - 51 - 1 = magnitude.log2 - 52 := by omega
    have nonzero : magnitude ≠ 0 := by
      rintro rfl
      simp at large
    have positive : 0 < 2 ^ (magnitude.log2 - 52) := Nat.two_pow_pos _
    have quotient : magnitude / 2 ^ (magnitude.log2 - 52) = significand := by
      exact Nat.div_eq_of_eq_mul_right positive split
    have low : 2 ^ 52 ≤ significand := by
      rw [← quotient, Nat.le_div_iff_mul_le positive, ← pow_add, Nat.add_sub_cancel' large]
      exact Nat.log2_self_le nonzero
    have high : significand < 2 ^ 53 := by
      rw [← quotient, Nat.div_lt_iff_lt_mul positive]
      exact lt_mul_spacing magnitude
    rw [if_neg normal, exponent, quotient]
    have leading : 0x10000000000000 + significand % 0x10000000000000 = significand := by omega
    rw [leading, Nat.mul_comm]
    exact split.symm

/-- Magnitudes of at most 2098 bits are in the range of doubles. -/
theorem exists_ofMagnitude? (negative : Bool) (small : magnitude.log2 < 2098) :
    ∃ d, ofMagnitude? negative magnitude = some d := by
  have finite : magnitude.log2 - 51 < 2047 := by omega
  unfold ofMagnitude?
  exact ⟨_, dif_pos finite⟩

/-! ## Rounding -/

/-- Rounding to a double is rounding to a multiple of the spacing at the quotient. -/
theorem roundMagnitude_eq (num den : ℕ) :
    roundMagnitude num den
      = roundEven num (den * spacing (num / den)) * spacing (num / den) := rfl

/-- Nothing is rounded to nothing. -/
theorem roundMagnitude_zero (den : ℕ) : roundMagnitude 0 den = 0 := by
  simp [roundMagnitude, roundEven]

/-- A whole magnitude is rounded to a multiple of its own spacing. -/
theorem roundMagnitude_one (magnitude : ℕ) :
    roundMagnitude magnitude 1
      = roundEven magnitude (spacing magnitude) * spacing magnitude := by
  rw [roundMagnitude_eq, Nat.div_one, Nat.one_mul]

/-- A rounded quotient holds at most 2^53 spacings. -/
theorem roundEven_spacing_le (num den : ℕ) :
    roundEven num (den * spacing (num / den)) ≤ 2 ^ 53 := by
  have quotient : num / (den * spacing (num / den)) < 2 ^ 53 := by
    rw [← Nat.div_div_eq_div_mul, Nat.div_lt_iff_lt_mul (spacing_pos _)]
    exact lt_mul_spacing _
  have := roundEven_le num (den * spacing (num / den))
  omega

/-- A rounded quotient fits in a significand. -/
theorem fitsSignificand_roundMagnitude (num den : ℕ) : FitsSignificand (roundMagnitude num den) :=
  fitsSignificand_mul_pow (roundEven_spacing_le num den) _

/-- The magnitudes of doubles are not rounded. -/
theorem roundMagnitude_eq_self (fits : FitsSignificand magnitude) :
    roundMagnitude magnitude 1 = magnitude := by
  have divided : magnitude / spacing magnitude * spacing magnitude = magnitude :=
    Nat.div_mul_cancel fits
  have exact : roundEven magnitude (spacing magnitude) = magnitude / spacing magnitude := by
    nth_rewrite 1 [← divided]
    exact roundEven_mul (spacing_pos magnitude) _
  rw [roundMagnitude_one, exact, divided]

/-- A whole magnitude is rounded with a relative error of at most 2^-53. -/
theorem roundMagnitude_one_error (magnitude : ℕ) :
    |(roundMagnitude magnitude 1 : ℚ) - magnitude| ≤ magnitude / 2 ^ 53 := by
  rcases spacing_cases magnitude with one | large
  · have fits : FitsSignificand magnitude := by
      rw [FitsSignificand, one]
      exact one_dvd magnitude
    rw [roundMagnitude_eq_self fits, sub_self, abs_zero]
    positivity
  · have error := roundEven_error (spacing_pos magnitude) magnitude
    have large : 2 ^ 52 * (spacing magnitude : ℚ) ≤ magnitude := by exact_mod_cast large
    rw [roundMagnitude_one, Nat.cast_mul]
    linarith

/-- **Rounding keeps the order.** -/
theorem roundMagnitude_mono : Monotone (roundMagnitude · 1) := by
  intro magnitude magnitude' le
  simp only [roundMagnitude_one]
  rcases spacing_steps le with same | wider
  · rw [same]
    exact Nat.mul_le_mul_right _ (roundEven_mono le)
  -- The smaller magnitude rounds to the end of its range of exponents at most.
  · have positive := spacing_pos magnitude
    have large : 2 ^ 52 * spacing magnitude' ≤ magnitude' :=
      (spacing_cases magnitude').resolve_left (by omega)
    have up : roundEven magnitude (spacing magnitude) ≤ 2 ^ 53 := by
      simpa using roundEven_spacing_le magnitude 1
    have down : 2 ^ 52 ≤ roundEven magnitude' (spacing magnitude') :=
      ((Nat.le_div_iff_mul_le (spacing_pos magnitude')).mpr large).trans (le_roundEven _ _)
    calc roundEven magnitude (spacing magnitude) * spacing magnitude
        ≤ 2 ^ 53 * spacing magnitude := Nat.mul_le_mul_right _ up
      _ ≤ 2 ^ 52 * spacing magnitude' := by omega
      _ ≤ roundEven magnitude' (spacing magnitude') * spacing magnitude' :=
        Nat.mul_le_mul_right _ down

/-- Rounding errs by half a unit, or by one part in 2^53 where that is more. -/
theorem roundMagnitude_error (positive : 0 < den) (num : ℕ) :
    |(roundMagnitude num den : ℚ) - num / den| ≤ max (1 / 2) ((num : ℚ) / den / 2 ^ 53) := by
  obtain ⟨width, width_eq⟩ : ∃ width, width = spacing (num / den) := ⟨_, rfl⟩
  have widthPositive : 0 < width := width_eq ▸ spacing_pos _
  have denPositive : (0 : ℚ) < den := by exact_mod_cast positive
  have half : (width : ℚ) / 2 ≤ max (1 / 2) ((num : ℚ) / den / 2 ^ 53) := by
    rcases spacing_cases (num / den) with one | large
    · rw [width_eq, one]
      simp
    · refine le_max_of_le_right ?_
      have quotient : 2 ^ 52 * (width : ℚ) ≤ (num / den : ℕ) := by
        rw [width_eq]
        exact_mod_cast large
      have whole : ((num / den : ℕ) : ℚ) ≤ num / den := Nat.cast_div_le
      linarith
  have error : |(roundEven num (den * width) : ℚ) * (den * width : ℕ) - num| ≤ (den * width : ℕ) / 2 :=
    roundEven_error (Nat.mul_pos positive widthPositive) num
  have scaled : ((roundMagnitude num den : ℚ) - num / den) * den
      = (roundEven num (den * width) : ℚ) * (den * width : ℕ) - num := by
    rw [roundMagnitude_eq, ← width_eq]
    push_cast
    field_simp
  have counted : |(roundMagnitude num den : ℚ) - num / den| * den ≤ width / 2 * den := by
    rw [← abs_of_pos denPositive, ← abs_mul, abs_of_pos denPositive, scaled]
    refine error.trans_eq ?_
    push_cast
    ring
  exact (le_of_mul_le_mul_right counted denPositive).trans half

/-! ## The nearest double -/

/-- The nearest double has the sign that is asked for and the rounded magnitude. -/
theorem nearest?_eq_some (rounded : nearest? negative num den = some d) :
    d.negative = negative ∧ d.magnitude = roundMagnitude (num * unitsPerOne) den :=
  magnitude_of_ofMagnitude? (fitsSignificand_roundMagnitude _ _) rounded

/-- A magnitude up to a power of two has no more bits than this power. -/
theorem log2_le_of_le {exponent : ℕ} (small : magnitude ≤ 2 ^ exponent) :
    magnitude.log2 ≤ exponent := by
  rcases Nat.eq_zero_or_pos magnitude with rfl | positive
  · simp
  · have below : magnitude < 2 ^ (exponent + 1) := small.trans_lt (Nat.pow_lt_pow_succ (by decide))
    exact Nat.le_of_lt_succ ((Nat.log2_lt positive.ne').mpr below)

/-- Powers of two are multiplied by adding their exponents, in either way of writing powers. -/
theorem mul_pow_two (left right : ℕ) : 2 ^ left * Nat.pow 2 right = 2 ^ (left + right) :=
  (pow_add 2 left right).symm

/-- A power of two, counted in multiples of the least double, is a power of two. -/
theorem mul_unitsPerOne (exponent : ℕ) : 2 ^ exponent * unitsPerOne = 2 ^ (exponent + 1074) := by
  unfold unitsPerOne
  apply mul_pow_two

/-- A quotient of moderate size has a nearest double. -/
theorem exists_nearest? (negative : Bool) (small : num < den * 2 ^ 100) :
    ∃ d, nearest? negative num den = some d := by
  have units : num * unitsPerOne / den < 2 ^ (100 + 1074) := by
    apply Nat.div_lt_of_lt_mul
    calc num * unitsPerOne < den * 2 ^ 100 * unitsPerOne :=
          Nat.mul_lt_mul_of_pos_right small unitsPerOne_pos
      _ = den * 2 ^ (100 + 1074) := by rw [Nat.mul_assoc, mul_unitsPerOne]
  have bits : (num * unitsPerOne / den).log2 ≤ 100 + 1074 := log2_le_of_le units.le
  have width : spacing (num * unitsPerOne / den) ≤ 2 ^ 1122 := spacing_le (by omega)
  have rounded : roundMagnitude (num * unitsPerOne) den ≤ 2 ^ (53 + 1122) := by
    rw [roundMagnitude_eq, pow_add]
    exact Nat.mul_le_mul (roundEven_spacing_le _ _) width
  have := log2_le_of_le rounded
  exact exists_ofMagnitude? negative (by omega)

/-- Zero has a nearest double of either sign. -/
theorem exists_nearest?_zero (negative : Bool) (den : ℕ) :
    ∃ d, nearest? negative 0 den = some d ∧ d.magnitude = 0 := by
  have rounded : roundMagnitude (0 * unitsPerOne) den = 0 := by rw [Nat.zero_mul, roundMagnitude_zero]
  have small : (roundMagnitude (0 * unitsPerOne) den).log2 < 2098 := by
    rw [rounded]
    decide
  obtain ⟨d, made⟩ := exists_ofMagnitude? negative small
  exact ⟨d, made, (nearest?_eq_some made).2.trans rounded⟩

/-- **A double nearest to a quotient** differs from it by one part in 2^53 at most, or by half the least
positive double where that is more. -/
theorem nearest?_error (positive : 0 < den) (rounded : nearest? negative num den = some d) :
    |d.size - num / den| ≤ max (2 ^ (-1075 : ℤ)) ((num : ℚ) / den / 2 ^ 53) := by
  have scale := unitsPerOne_cast_pos
  have error := roundMagnitude_error positive (num * unitsPerOne)
  rw [← (nearest?_eq_some rounded).2, magnitude_eq] at error
  have units : d.size * unitsPerOne - ((num * unitsPerOne : ℕ) : ℚ) / den
      = (d.size - num / den) * unitsPerOne := by
    push_cast
    ring
  have least : (1 / 2 : ℚ) = 2 ^ (-1075 : ℤ) * unitsPerOne := by
    rw [unitsPerOne_cast, ← zpow_add₀ (by norm_num)]
    norm_num
  have part : ((num * unitsPerOne : ℕ) : ℚ) / den / 2 ^ 53 = num / den / 2 ^ 53 * unitsPerOne := by
    push_cast
    ring
  rw [units, abs_mul, abs_of_pos scale, least, part, ← max_mul_of_nonneg _ _ scale.le] at error
  exact le_of_mul_le_mul_right error scale

/-- The units of the double nearest to a quantity of so many units. -/
def roundUnits (units : ℤ) : ℤ :=
  units.sign * roundMagnitude units.natAbs 1

/-- Magnitudes that are not negative are rounded as magnitudes. -/
theorem roundUnits_natCast (magnitude : ℕ) :
    roundUnits magnitude = roundMagnitude magnitude 1 := by
  rcases Nat.eq_zero_or_pos magnitude with rfl | positive
  · rfl
  · have sign : (magnitude : ℤ).sign = 1 := Int.sign_eq_one_of_pos (by omega)
    rw [roundUnits, sign, Int.one_mul, Int.natAbs_natCast]

/-- Rounding looks at the magnitude alone: it commutes with the sign. -/
theorem roundUnits_neg (units : ℤ) : roundUnits (-units) = -roundUnits units := by
  simp [roundUnits]

/-- Rounding keeps the order of integers. -/
theorem roundUnits_mono : Monotone roundUnits := by
  apply monotone_of_odd_of_monotoneOn_nonneg roundUnits_neg
  intro a positive b positive' le
  lift a to ℕ using positive
  lift b to ℕ using positive'
  rw [roundUnits_natCast, roundUnits_natCast]
  exact_mod_cast roundMagnitude_mono (by exact_mod_cast le)

/-- Rounding leaves alone what fits in a significand. -/
theorem roundUnits_eq_self {units : ℤ} (fits : FitsSignificand units.natAbs) :
    roundUnits units = units := by
  rw [roundUnits, roundMagnitude_eq_self fits, Int.sign_mul_natAbs]

/-- Rounding has a relative error of at most 2^-53. -/
theorem roundUnits_error (units : ℤ) : |(roundUnits units : ℚ) - units| ≤ |(units : ℚ)| / 2 ^ 53 := by
  have natural (magnitude : ℕ) :
      |(roundUnits magnitude : ℚ) - (magnitude : ℤ)| ≤ |((magnitude : ℤ) : ℚ)| / 2 ^ 53 := by
    rw [roundUnits_natCast, Int.cast_natCast, Int.cast_natCast, Nat.abs_cast]
    exact roundMagnitude_one_error magnitude
  rcases Int.eq_nat_or_neg units with ⟨magnitude, rfl | rfl⟩
  · exact natural magnitude
  · rw [roundUnits_neg, Int.cast_neg, Int.cast_neg, abs_neg, ← abs_neg]
    convert natural magnitude using 2
    ring

end Double

namespace Number

open Double (unitsPerOne roundUnits)

variable {a b : Number}

/-- An integer of sixty-four bits has a nearest double, of its own sign. -/
theorem toDouble_integer {z : ℤ} (fits : -0x8000000000000000 ≤ z ∧ z < 0x10000000000000000) :
    Double.nearest? (decide (z < 0)) z.natAbs 1 = some (integer z fits).toDouble := by
  have small : z.natAbs < 1 * 2 ^ 100 := by omega
  obtain ⟨d, rounded⟩ := Double.exists_nearest? (decide (z < 0)) small
  rw [toDouble, Double.ofInt?, rounded]
  rfl

/-- **The double of a number is decided by its quantity**: in units it is the quantity rounded. -/
theorem units_toDouble (n : Number) : n.toDouble.units = roundUnits n.units := by
  cases n with
  | integer z fits =>
    obtain ⟨sign, magnitude⟩ := Double.nearest?_eq_some (toDouble_integer fits)
    rw [Double.units, sign, magnitude, ← Double.roundUnits_natCast]
    rcases lt_or_ge z 0 with negative | positive
    · have count : z * unitsPerOne = -((z.natAbs * unitsPerOne : ℕ) : ℤ) := by
        rw [Int.natCast_mul, Int.ofNat_natAbs_of_nonpos negative.le, Int.neg_mul, Int.neg_neg]
      rw [decide_eq_true negative, if_pos rfl, units, count, Double.roundUnits_neg]
    · have count : z * unitsPerOne = ((z.natAbs * unitsPerOne : ℕ) : ℤ) := by
        rw [Int.natCast_mul, Int.natAbs_of_nonneg positive]
      rw [decide_eq_false positive.not_gt, if_neg Bool.false_ne_true, units, count]
  | float d =>
    have fits : Double.FitsSignificand d.units.natAbs := by
      rw [Double.natAbs_units]
      exact d.fitsSignificand_magnitude
    exact (Double.roundUnits_eq_self fits).symm

/-- Numbers of one quantity are taken as doubles of one quantity. -/
theorem units_toDouble_congr (same : a.units = b.units) : a.toDouble.units = b.toDouble.units := by
  rw [units_toDouble, units_toDouble, same]

/-- Numbers are in order if their doubles are. -/
theorem units_lt_of_toDouble (less : a.toDouble.units < b.toDouble.units) : a.units < b.units := by
  rw [units_toDouble, units_toDouble] at less
  exact Double.roundUnits_mono.reflect_lt less

/-- A number is taken as a double with a relative error of at most 2^-53. -/
theorem toDouble_error (n : Number) :
    |n.toDouble.quantity - n.quantity| ≤ |n.quantity| / 2 ^ 53 := by
  have positive := Double.unitsPerOne_cast_pos
  have error := Double.roundUnits_error n.units
  rw [← units_toDouble, Double.units_eq, units_eq, ← sub_mul, abs_mul, abs_mul, abs_of_pos positive,
    mul_div_right_comm] at error
  exact le_of_mul_le_mul_right error positive

end Number

end Intake
