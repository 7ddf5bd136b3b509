import Intake.Proofs.Bounds
import Intake.Proofs.Literals
import Intake.Proofs.WholeNumbers

/-!
# Decimals in writing

A decimal is written as digits with a point or with an exponent, and denotes a rational number by the
places of its digits (`DecimalText`). It is read as the literal of that number (`DecimalText.read?_text`),
and so as the double nearest to it (`DecimalText.ofText?_cases`).

The coercion to integers looks at the double. So it decides whether the double is whole, not the decimal
(`decimals_read_as_nearest`), and gives the integer that the double denotes. It is right about decimals that
are doubles themselves, such as all whole ones up to 2^53, and about those that lie farther from every whole
number than rounding reaches. For others it may give an integer that is not the number written
(`decimals_not_exact`).
-/

set_option autoImplicit false

namespace Intake

open Intake.Text

/-! ## Notation -/

/-- The digits after a point, if there is a point, and what follows them. -/
def DecimalLiteral.spanFraction (cs : List Char) : List Char × List Char :=
  match cs with
  | '.' :: rest => spanDigits rest
  | _ => ([], cs)

/-- The reader of decimals, with the split at the point as a function of its own. -/
theorem DecimalLiteral.read?_eq (cs : List Char) :
    read? cs =
      let (negative, unsigned) := splitSign cs
      let (whole, afterWhole) := spanDigits unsigned
      let (fraction, afterFraction) := spanFraction afterWhole
      if whole = [] ∧ fraction = [] then none
      else (readExponent? afterFraction).map fun exponent =>
        { negative, digits := whole ++ fraction, exponent := exponent - fraction.length } := by
  unfold read? spanFraction
  rfl

/-- An exponent in writing: a letter in either case and a power of ten. -/
structure ExponentText where
  /-- Whether the letter is a capital. -/
  capital : Bool
  /-- The power of ten. -/
  power : IntegerText

/-- The characters of an exponent. -/
def ExponentText.text (e : ExponentText) : List Char :=
  (if e.capital then 'E' else 'e') :: e.power.text

/-- A decimal in writing: a sign, which may be missing, digits, a point with further digits, and an
exponent. There is a digit, and there is a point or an exponent. -/
structure DecimalText where
  /-- The sign. -/
  sign : Sign
  /-- The digits before the point. -/
  whole : List (Fin 10)
  /-- The digits after the point, if there is one. -/
  fraction : Option (List (Fin 10))
  /-- The exponent, if there is one. -/
  exponent : Option ExponentText
  /-- There is a digit. -/
  nonempty : whole ++ fraction.getD [] ≠ []
  /-- There is a point or an exponent. -/
  marked : fraction.isSome ∨ exponent.isSome

namespace DecimalText

/-- The digits after the point. -/
def places (t : DecimalText) : List (Fin 10) :=
  t.fraction.getD []

/-- The power of ten. -/
def power (t : DecimalText) : ℤ :=
  match t.exponent with
  | some e => e.power.value
  | none => 0

/-- The characters of the point and the digits after it. -/
def fractionText (t : DecimalText) : List Char :=
  match t.fraction with
  | some ds => '.' :: figures ds
  | none => []

/-- The characters of the exponent. -/
def exponentText (t : DecimalText) : List Char :=
  match t.exponent with
  | some e => e.text
  | none => []

/-- The characters of a decimal in writing. -/
def text (t : DecimalText) : List Char :=
  t.sign.text ++ (figures t.whole ++ (t.fractionText ++ t.exponentText))

/-- The rational number that is written. -/
def quantity (t : DecimalText) : ℚ :=
  t.sign.factor * (placeValue t.whole + placeValue t.places / 10 ^ t.places.length) * 10 ^ t.power

/-- What is read from a decimal in writing. -/
def literal (t : DecimalText) : DecimalLiteral :=
  { negative := t.sign.isMinus
    digits := figures (t.whole ++ t.places)
    exponent := t.power - t.places.length }

/-! ## Reading -/

/-- After the digits before the point there is a point or the letter of an exponent. -/
theorem exists_mark (t : DecimalText) :
    ∃ c cs, t.fractionText ++ t.exponentText = c :: cs ∧ (c = '.' ∨ c = 'e' ∨ c = 'E') := by
  unfold fractionText exponentText ExponentText.text
  cases fraction : t.fraction with
  | some ds => exact ⟨_, _, rfl, Or.inl rfl⟩
  | none =>
    cases exponent : t.exponent with
    | some e => exact ⟨_, _, rfl, Or.inr (by cases e.capital <;> simp)⟩
    | none => simpa [fraction, exponent] using t.marked

/-- An exponent begins with its letter. -/
theorem head_exponentText (t : DecimalText) :
    ∀ c ∈ t.exponentText.head?, c = 'e' ∨ c = 'E' := by
  unfold exponentText ExponentText.text
  cases t.exponent with
  | none => simp
  | some e => cases e.capital <;> simp

/-- The marks within a decimal are no digits. -/
theorem isDigit_of_mark {c : Char} (mark : c = '.' ∨ c = 'e' ∨ c = 'E') : isDigit c = false := by
  rcases mark with rfl | rfl | rfl <;> rfl

/-- The sign of a decimal is split off. -/
theorem splitSign_text (t : DecimalText) :
    splitSign t.text = (t.sign.isMinus, figures t.whole ++ (t.fractionText ++ t.exponentText)) := by
  obtain ⟨mark, cs, rest, kind⟩ := t.exists_mark
  have minus : (t.fractionText ++ t.exponentText).head? ≠ some '-' := by
    rw [rest]
    rcases kind with rfl | rfl | rfl <;> simp
  have plus : (t.fractionText ++ t.exponentText).head? ≠ some '+' := by
    rw [rest]
    rcases kind with rfl | rfl | rfl <;> simp
  apply t.sign.splitSign_text
  · exact head?_append_ne (fun d => isDigit_of_mem_figures) rfl minus
  · exact head?_append_ne (fun d => isDigit_of_mem_figures) rfl plus

/-- A decimal with a point or an exponent is no text of an integer. -/
theorem readInteger?_text (t : DecimalText) : readInteger? t.text = none := by
  obtain ⟨mark, cs, rest, kind⟩ := t.exists_mark
  have other : ¬(figures t.whole ++ (t.fractionText ++ t.exponentText)).all isDigit = true := by
    rw [rest, List.all_append, List.all_cons, isDigit_of_mark kind, Bool.false_and, Bool.and_false]
    exact Bool.false_ne_true
  rw [readInteger?, splitSign_text]
  exact if_neg fun digits => other digits.2

/-- The exponent of a decimal is read. -/
theorem readExponent?_exponentText (t : DecimalText) :
    DecimalLiteral.readExponent? t.exponentText = some t.power := by
  unfold exponentText power ExponentText.text
  cases t.exponent with
  | none => rfl
  | some e =>
    have letter : ((if e.capital then 'E' else 'e') == 'e' ||
        (if e.capital then 'E' else 'e') == 'E') = true := by
      cases e.capital <;> rfl
    rw [DecimalLiteral.readExponent?, if_pos letter, e.power.readInteger?_text]

/-- The places after the point of a decimal are read. -/
theorem spanFraction_fractionText (t : DecimalText) :
    DecimalLiteral.spanFraction (t.fractionText ++ t.exponentText)
      = (figures t.places, t.exponentText) := by
  unfold fractionText places
  cases t.fraction with
  | some ds =>
    apply spanDigits_append fun c => isDigit_of_mem_figures
    exact fun c head => isDigit_of_mark (Or.inr (t.head_exponentText c head))
  | none =>
    rw [List.nil_append]
    unfold DecimalLiteral.spanFraction
    split
    case h_1 cs exponent =>
      have letter := t.head_exponentText '.' (by rw [exponent]; rfl)
      simp at letter
    case h_2 => rfl

/-- **A decimal is read from its characters.** -/
theorem read?_text (t : DecimalText) : DecimalLiteral.read? t.text = some t.literal := by
  obtain ⟨mark, cs, rest, kind⟩ := t.exists_mark
  have whole : spanDigits (figures t.whole ++ (t.fractionText ++ t.exponentText))
      = (figures t.whole, t.fractionText ++ t.exponentText) := by
    apply spanDigits_append fun c => isDigit_of_mem_figures
    rw [rest]
    rintro c ⟨⟩
    exact isDigit_of_mark kind
  have digits : ¬(figures t.whole = [] ∧ figures t.places = []) := by
    have nonempty := figures_ne_nil t.nonempty
    rwa [figures_append, ne_eq, List.append_eq_nil_iff] at nonempty
  simp only [DecimalLiteral.read?_eq, splitSign_text, whole, spanFraction_fractionText, if_neg digits,
    readExponent?_exponentText, Option.map_some, literal, figures_append, length_figures]

/-- The literal that is read has the quantity of the decimal. -/
theorem quantity_literal (t : DecimalText) : t.literal.quantity = t.quantity := by
  have scale : (10 : ℚ) ^ t.literal.exponent = 10 ^ t.power / 10 ^ t.places.length := by
    rw [literal, zpow_sub₀ (by norm_num), zpow_natCast]
  have digits : (ofDigits t.literal.digits : ℚ)
      = placeValue t.whole * 10 ^ t.places.length + placeValue t.places := by
    rw [literal, ofDigits_figures, placeValue_append]
    push_cast
    rfl
  have size : t.literal.size
      = (placeValue t.whole + placeValue t.places / 10 ^ t.places.length) * 10 ^ t.power := by
    rw [DecimalLiteral.size, scale, digits]
    field_simp
  rw [DecimalLiteral.quantity, quantity, size, literal]
  cases t.sign <;> simp only [Sign.isMinus, Sign.factor, Bool.false_eq_true, if_true, if_false] <;>
    push_cast <;> ring

/-- **A decimal is read as the double nearest to it**, and as no number if it is larger than every one. -/
theorem ofText?_cases {t : DecimalText} {s : String} (written : trim s.toList = t.text) :
    (∃ d : Double, d.IsNearest t.quantity ∧ Number.ofText? s = some (.float d)) ∨
      (∀ e : Double, |e.quantity| < |t.quantity|) ∧ Number.ofText? s = none := by
  have rounded := t.literal.rounded?_isRounded fun c => isDigit_of_mem_figures
  rw [quantity_literal] at rounded
  have read : Number.ofText? s = t.literal.rounded?.map .float := by
    rw [Number.ofText?, written]
    simp only [readInteger?_text, Option.bind_none, FloatReading.ofText?, read?_text,
      DecimalLiteral.value_eq]
    cases t.literal.rounded? <;> rfl
  cases double : t.literal.rounded? with
  | some d =>
    rw [double] at rounded read
    exact Or.inl ⟨d, rounded, read⟩
  | none =>
    rw [double] at rounded read
    exact Or.inr ⟨rounded, read⟩

end DecimalText

/-! ## Integers -/

namespace Coercion

/-- The coercion to integers takes a text for a quantity: it rejects the text if the quantity has a
fraction, and gives the integer that is the quantity if there is one. -/
structure TakenFor (s : String) (q : ℚ) : Prop where
  /-- A quantity with a fraction is rejected. -/
  fraction : (∀ z : ℤ, q ≠ z) → integer (.string s) = .error (.coercion "integer" .string)
  /-- A whole quantity of sixty-four bits is given exactly. -/
  whole : ∀ (z : ℤ) (fits : Number.Fits z), q = z →
    integer (.string s) = .ok (.number (.integer z fits))

variable {s : String} {n : Number} {q : ℚ}

/-- A text that is given for a number is coerced to the integral form of this number. -/
theorem integer_text (given : Number.ofText? s = some n) :
    integer (.string s) = orReject "integer" (.string s) (n.integral?.map .number) := by
  rw [integer, number?, given, Option.bind_some]

/-- A text that is given for a number is taken for its quantity. -/
theorem takenFor_quantity (given : Number.ofText? s = some n) : TakenFor s n.quantity := by
  constructor
  · intro fraction
    have none : n.integral? = none :=
      Number.integral?_of_fraction fun z count => fraction z (Number.quantity_eq_intCast_iff.mpr count)
    rw [integer_text given, none]
    rfl
  · intro z fits whole
    rw [integer_text given, Number.integral?_of_fits fits (Number.quantity_eq_intCast_iff.mp whole)]
    rfl

/-- A text of a number is taken for another quantity if it is the same one, as far as integers are told
apart. -/
theorem takenFor_iff (given : Number.ofText? s = some n) :
    TakenFor s q ↔ (∀ z : ℤ, Number.Fits z → q = z → n.quantity = q) ∧
      ((∀ z : ℤ, q ≠ z) → ∀ z : ℤ, n.quantity ≠ z) := by
  constructor
  · intro taken
    constructor
    · intro z fits whole
      have result := taken.whole z fits whole
      rw [integer_text given] at result
      obtain ⟨m, exactly, same⟩ := Option.map_eq_some_iff.mp (orReject_eq_ok_iff.mp result)
      obtain rfl := Value.number.inj same
      rw [whole, ← Number.quantity_eq_iff.mpr (Number.units_of_integral? exactly)]
      rfl
    · intro fraction z whole
      obtain ⟨m, exactly⟩ := Number.exists_integral?_iff.mpr ⟨z, whole⟩
      have result := taken.fraction fraction
      rw [integer_text given, exactly] at result
      cases result
  · rintro ⟨whole, fraction⟩
    have taken := takenFor_quantity given
    exact ⟨fun fractional => taken.fraction (fraction fractional),
      fun z fits exactly => taken.whole z fits ((whole z fits exactly).trans exactly)⟩

/-- A text that denotes no number is taken for any quantity that is no integer of sixty-four bits. -/
theorem takenFor_of_none (given : Number.ofText? s = none) (large : ∀ z : ℤ, Number.Fits z → q ≠ z) :
    TakenFor s q := by
  constructor
  · intro
    rw [integer, number?, given]
    rfl
  · intro z fits whole
    exact absurd whole (large z fits)

end Coercion

/-- Every integer up to 2^53 is the quantity of a double. -/
theorem Double.exists_quantity_eq {z : ℤ} (small : |z| ≤ 2 ^ 53) : ∃ e : Double, e.quantity = z := by
  have bounds := abs_le.mp small
  have fits : Number.Fits z := by
    unfold Number.Fits
    omega
  have bits : (Number.integer z fits).units.natAbs ≤ 2 ^ 53 * unitsPerOne := by
    rw [Number.units, Int.natAbs_mul, Int.natAbs_natCast]
    exact Nat.mul_le_mul_right _ (by omega)
  exact ⟨_, Number.quantity_eq_iff (a := .float _).mpr (Number.units_toDouble_eq_self bits)⟩

/-- A quantity larger than every double is no integer of sixty-four bits. -/
theorem Double.ne_of_larger {q : ℚ} (larger : ∀ e : Double, |e.quantity| < |q|) (z : ℤ)
    (fits : Number.Fits z) : q ≠ z := by
  rintro rfl
  have power : |({ Double.zero with exponent := ⟨1087, by decide⟩ } : Double).quantity|
      = (0x10000000000000000 : ℤ) := by
    norm_num [Double.zero, Double.quantity, Double.size]
  have bounded := larger { Double.zero with exponent := ⟨1087, by decide⟩ }
  rw [power, ← Int.cast_abs, Int.cast_lt, lt_abs] at bounded
  unfold Number.Fits at fits
  omega

namespace DecimalText

variable {t : DecimalText} {s : String}

/-- A decimal that is a double itself is taken for what it denotes. -/
theorem takenFor_of_double (written : trim s.toList = t.text) {e : Double}
    (exactly : e.quantity = t.quantity) : Coercion.TakenFor s t.quantity := by
  rcases ofText?_cases written with ⟨d, nearest, given⟩ | ⟨larger, -⟩
  · exact nearest.quantity_eq exactly ▸ Coercion.takenFor_quantity given
  · have itself := larger e
    rw [exactly] at itself
    exact absurd itself (lt_irrefl _)

/-- A decimal farther from every whole number than rounding reaches is taken for what it denotes. -/
theorem takenFor_of_far (written : trim s.toList = t.text)
    (far : ∀ z : ℤ, max (2 ^ (-1075 : ℤ)) (|t.quantity| / 2 ^ 53) < |t.quantity - z|) :
    Coercion.TakenFor s t.quantity := by
  rcases ofText?_cases written with ⟨d, nearest, given⟩ | ⟨larger, given⟩
  -- Some whole number is half a unit away at most, so the decimal is not large.
  · have small : |t.quantity| < 2 ^ 100 := by
      have part := (le_max_right _ _).trans_lt (far (round t.quantity))
      have half := part.trans_le (abs_sub_round t.quantity)
      rw [div_lt_iff₀ (by positivity)] at half
      exact half.trans (by norm_num)
    rw [Coercion.takenFor_iff given]
    constructor
    · intro z fits whole
      have apart := far z
      rw [whole, sub_self, abs_zero] at apart
      exact absurd apart (not_lt.mpr (le_max_of_le_left (by positivity)))
    · intro fraction z whole
      have error := nearest.error small
      rw [abs_sub_comm, show d.quantity = z from whole] at error
      exact absurd (far z) error.not_gt
  · exact Coercion.takenFor_of_none given (Double.ne_of_larger larger)

end DecimalText

/-- **Decimals are read as the nearest doubles.** The coercion to numbers gives the double nearest to the
decimal, and the one to integers takes the decimal for what this double denotes. So it takes the decimal
for what it denotes itself exactly if the double is the same integer, or has a fraction as well; this is so
for whole decimals up to 2^53 and for those that rounding does not bring to a whole number. A decimal that
is larger than every double is rejected by both. -/
theorem decimals_read_as_nearest (t : DecimalText) (s : String) (written : trim s.toList = t.text) :
    ((∃ d : Double, d.IsNearest t.quantity ∧ Coercion.number (.string s) = .ok (.number (.float d)) ∧
          Coercion.TakenFor s d.quantity ∧
          (∀ z : ℤ, ¬Number.Fits z → d.quantity = z →
            Coercion.integer (.string s) = .ok (.number (.float d))) ∧
          (Coercion.TakenFor s t.quantity ↔
            (∀ z : ℤ, Number.Fits z → t.quantity = z → d.quantity = t.quantity) ∧
              ((∀ z : ℤ, t.quantity ≠ z) → ∀ z : ℤ, d.quantity ≠ z))) ∨
        (∀ d : Double, |d.quantity| < |t.quantity|) ∧
          Coercion.number (.string s) = .error (.coercion "number" .string) ∧
          Coercion.integer (.string s) = .error (.coercion "integer" .string) ∧
          Coercion.TakenFor s t.quantity) ∧
      (∀ z : ℤ, |z| ≤ 2 ^ 53 → t.quantity = z → Coercion.TakenFor s t.quantity) ∧
      ((∀ z : ℤ, max (2 ^ (-1075 : ℤ)) (|t.quantity| / 2 ^ 53) < |t.quantity - z|) →
        Coercion.TakenFor s t.quantity) := by
  refine ⟨?_, ?_, DecimalText.takenFor_of_far written⟩
  · rcases DecimalText.ofText?_cases written with ⟨d, nearest, given⟩ | ⟨larger, given⟩
    · left
      refine ⟨d, nearest, ?_, Coercion.takenFor_quantity given, ?_, Coercion.takenFor_iff given⟩
      · rw [Coercion.number, Coercion.number?, given]
        rfl
      · intro z large whole
        have count := Number.quantity_eq_intCast_iff (n := .float d).mp whole
        rw [Coercion.integer_text given, Number.integral?_of_not_fits large count]
        rfl
    · right
      refine ⟨larger, ?_, ?_, Coercion.takenFor_of_none given (Double.ne_of_larger larger)⟩
      · rw [Coercion.number, Coercion.number?, given]
        rfl
      · rw [Coercion.integer, Coercion.number?, given]
        rfl
  · intro z small whole
    obtain ⟨e, exactly⟩ := Double.exists_quantity_eq small
    exact DecimalText.takenFor_of_double written (exactly.trans whole.symm)

/-- The decimal -12.50E+2, which is a whole number. -/
def twelveHundredText : DecimalText where
  sign := .minus
  whole := [1, 2]
  fraction := some [5, 0]
  exponent := some ⟨true, ⟨.plus, [2], List.cons_ne_nil _ _⟩⟩
  nonempty := List.cons_ne_nil _ _
  marked := Or.inl rfl

/-- The decimal is taken for the integer that it denotes. -/
theorem twelveHundred_read :
    let written := " -12.50E+2\n"
    trim written.toList = twelveHundredText.text ∧ twelveHundredText.quantity = (-1250 : ℤ) ∧
      Coercion.integer (.string written) = .ok (.number (.integer (-1250) (by decide))) := by
  intro written
  have trimmed : trim written.toList = twelveHundredText.text := by decide +kernel
  have quantity : twelveHundredText.quantity = (-1250 : ℤ) := by
    have places : placeValue [1, 2] = 12 ∧ placeValue [5, 0] = 50 ∧ placeValue [2] = 2 := by decide
    norm_num [twelveHundredText, DecimalText.quantity, DecimalText.places, DecimalText.power,
      IntegerText.value, Sign.factor, places]
  obtain ⟨-, moderate, -⟩ := decimals_read_as_nearest twelveHundredText written trimmed
  exact ⟨trimmed, quantity, (moderate _ (by decide) quantity).whole _ _ quantity⟩

/-- The decimal 9007199254740993.0, which is the whole number after 2^53. -/
def oddSuccessorText : DecimalText where
  sign := .absent
  whole := [9, 0, 0, 7, 1, 9, 9, 2, 5, 4, 7, 4, 0, 9, 9, 3]
  fraction := some [0]
  exponent := none
  nonempty := List.cons_ne_nil _ _
  marked := Or.inl rfl

/-- **Decimals are not read exactly.** The decimal of the whole number after 2^53 is taken as 2^53. -/
theorem decimals_not_exact :
    ¬∀ (t : DecimalText) (s : String), trim s.toList = t.text → Coercion.TakenFor s t.quantity := by
  intro exactly
  have trimmed : trim "9007199254740993.0".toList = oddSuccessorText.text := by decide +kernel
  have quantity : oddSuccessorText.quantity = (9007199254740993 : ℤ) := by
    have places : placeValue [9, 0, 0, 7, 1, 9, 9, 2, 5, 4, 7, 4, 0, 9, 9, 3] = 9007199254740993 ∧
        placeValue [0] = 0 := by decide
    norm_num [oddSuccessorText, DecimalText.quantity, DecimalText.places, DecimalText.power,
      Sign.factor, places]
  have read : Number.ofText? "9007199254740993.0" = some (.float ⟨false, 1076, 0⟩) := by decide +kernel
  have merged := (Coercion.takenFor_iff read).mp (exactly oddSuccessorText _ trimmed)
  have same := merged.1 _ (by decide) quantity
  rw [quantity] at same
  norm_num [Number.quantity, Double.quantity, Double.size] at same

end Intake
