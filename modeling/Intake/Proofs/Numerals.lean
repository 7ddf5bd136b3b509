import Intake.Proofs.Normalization
import Intake.Types.Coercion

/-!
# Integers in writing

An integer is written as a sign, which may be missing, and a run of digits of any length, which has a value
by its places (`IntegerText`). Reading such a text gives its value (`readInteger?_text`), and where that
value is an integer of sixty-four bits the coercions to numbers and to integers both give that integer and
never a double (`integers_read_exactly`). The text that a number of this kind is shown as is one of these,
so it reads back as the number.
-/

set_option autoImplicit false

namespace Intake

/-! ## Runs of digits -/

namespace Text

variable {c : Char}

/-- Numerals below ten denote digits. -/
instance neZeroTen : NeZero 10 :=
  ⟨by decide⟩

/-- The characters of a run of digits. -/
def figures (ds : List (Fin 10)) : List Char :=
  ds.map fun d : Fin 10 => digitChar d

/-- The value of a run of digits by their places, the last one counting ones. -/
def placeValue (ds : List (Fin 10)) : ℕ :=
  Nat.ofDigits 10 (ds.reverse.map Fin.val)

/-- Digits before others count as many tens more as there are others. -/
theorem placeValue_append (ds es : List (Fin 10)) :
    placeValue (ds ++ es) = placeValue ds * 10 ^ es.length + placeValue es := by
  simp only [placeValue, List.reverse_append, List.map_append, Nat.ofDigits_append, List.length_map,
    List.length_reverse]
  ring

/-- A run of characters denotes the value of its digits by their places. -/
theorem ofDigits_eq (cs : List Char) : ofDigits cs = Nat.ofDigits 10 (cs.reverse.map digitValue) := by
  induction cs using List.reverseRecOn with
  | nil => rfl
  | append_singleton cs c ih =>
    have added : ofDigits (cs ++ [c]) = 10 * ofDigits cs + digitValue c := by
      simp [ofDigits]
    rw [added, ih, List.reverse_append, List.reverse_singleton, List.singleton_append, List.map_cons,
      Nat.ofDigits_cons, Nat.add_comm]

/-- A first character counts as many tens as there are others. -/
theorem ofDigits_cons (c : Char) (cs : List Char) :
    ofDigits (c :: cs) = digitValue c * 10 ^ cs.length + ofDigits cs := by
  rw [ofDigits_eq, ofDigits_eq, List.reverse_cons, List.map_append, Nat.ofDigits_append,
    List.length_map, List.length_reverse, List.map_singleton, Nat.ofDigits_singleton]
  ring

/-- A digit is less than ten. -/
theorem digitValue_lt (digit : isDigit c = true) : digitValue c < 10 := by
  simp only [isDigit, Bool.and_eq_true, decide_eq_true_eq] at digit
  unfold digitValue
  omega

/-- A digit other than zero is positive. -/
theorem digitValue_pos (digit : isDigit c = true) (other : c ≠ '0') : 0 < digitValue c := by
  have other : c.toNat ≠ 48 := mt (Char.toNat_inj (d := '0')).mp other
  simp only [isDigit, Bool.and_eq_true, decide_eq_true_eq] at digit
  unfold digitValue
  omega

/-- A run of digits denotes less than the power of ten with one place more. -/
theorem ofDigits_lt {cs : List Char} (digits : ∀ c ∈ cs, isDigit c = true) :
    ofDigits cs < 10 ^ cs.length := by
  have small : ∀ d ∈ cs.reverse.map digitValue, d < 10 := by
    intro d member
    obtain ⟨c, found, rfl⟩ := List.mem_map.mp member
    exact digitValue_lt (digits c (List.mem_reverse.mp found))
  have bounded := Nat.ofDigits_lt_base_pow_length (by decide : 1 < 10) small
  rwa [← ofDigits_eq, List.length_map, List.length_reverse] at bounded

/-- Figures are read as the digits they show. -/
theorem ofDigits_figures (ds : List (Fin 10)) : ofDigits (figures ds) = placeValue ds := by
  have values : digitValue ∘ (fun d : Fin 10 => digitChar d) = Fin.val :=
    funext fun d => digitValue_digitChar d.isLt
  rw [ofDigits_eq, figures, placeValue, ← List.map_reverse, List.map_map, values]

/-- The figures of two rows of digits follow each other. -/
theorem figures_append (ds es : List (Fin 10)) : figures (ds ++ es) = figures ds ++ figures es :=
  List.map_append

/-- There are as many figures as digits. -/
theorem length_figures (ds : List (Fin 10)) : (figures ds).length = ds.length :=
  List.length_map _

/-- Figures are digits. -/
theorem isDigit_of_mem_figures {ds : List (Fin 10)} (member : c ∈ figures ds) :
    isDigit c = true := by
  obtain ⟨d, -, rfl⟩ := List.mem_map.mp member
  exact isDigit_digitChar d.isLt

/-- There are figures if there are digits. -/
theorem figures_ne_nil {ds : List (Fin 10)} (nonempty : ds ≠ []) : figures ds ≠ [] :=
  mt List.map_eq_nil_iff.mp nonempty

/-- A text that begins with digits, if there are any, begins with no other character than what follows. -/
theorem head?_append_ne {cs rest : List Char} (digits : ∀ d ∈ cs, isDigit d = true)
    (other : isDigit c = false) (stop : rest.head? ≠ some c) : (cs ++ rest).head? ≠ some c := by
  cases cs with
  | nil => exact stop
  | cons d ds =>
    intro head
    rw [List.cons_append, List.head?_cons, Option.some.injEq] at head
    have digit := digits d List.mem_cons_self
    rw [head, other] at digit
    cases digit

/-- No digit is a blank. -/
theorem isBlank_of_isDigit (digit : isDigit c = true) : isBlank c = false := by
  simp only [isDigit, Bool.and_eq_true, decide_eq_true_eq] at digit
  simp only [isBlank, Bool.or_eq_false_iff, Bool.and_eq_false_imp, beq_eq_false_iff_ne, ne_eq,
    decide_eq_true_eq, decide_eq_false_iff_not]
  omega

end Text

open Intake.Text

/-! ## Signs -/

/-- The sign before a number in writing. -/
inductive Sign
  /-- There is none. -/
  | absent
  | plus
  | minus

namespace Sign

/-- The characters of a sign. -/
def text : Sign → List Char
  | absent => []
  | plus => ['+']
  | minus => ['-']

/-- Whether a sign is a minus. -/
def isMinus : Sign → Bool
  | absent => false
  | plus => false
  | minus => true

/-- What a sign multiplies by. -/
def factor : Sign → ℤ
  | absent => 1
  | plus => 1
  | minus => -1

/-- To take a number with a sign is to multiply it by the factor of the sign. -/
theorem withSign_eq (sign : Sign) (n : ℕ) : withSign sign.isMinus n = sign.factor * n := by
  cases sign <;> simp [withSign, isMinus, factor]

/-- A sign is split off from text that does not begin with another one. -/
theorem splitSign_text (sign : Sign) {rest : List Char} (minus : rest.head? ≠ some '-')
    (plus : rest.head? ≠ some '+') : splitSign (sign.text ++ rest) = (sign.isMinus, rest) := by
  cases sign with
  | absent =>
    cases rest with
    | nil => rfl
    | cons c cs =>
      rw [List.head?_cons, ne_eq, Option.some.injEq] at minus plus
      simp [text, isMinus, splitSign, minus, plus]
  | plus => rfl
  | minus => rfl

end Sign

/-! ## Integers -/

/-- A sign and digits are read as an integer. -/
theorem readInteger?_sign_append {cs : List Char} (sign : Sign) (nonempty : cs ≠ [])
    (digits : ∀ c ∈ cs, isDigit c = true) :
    readInteger? (sign.text ++ cs) = some (sign.factor * ofDigits cs) := by
  have unsigned (c : Char) (sign : isDigit c = false) : cs.head? ≠ some c := by
    have begins : (cs ++ []).head? ≠ some c := head?_append_ne digits sign nofun
    rwa [List.append_nil] at begins
  have split := sign.splitSign_text (unsigned '-' rfl) (unsigned '+' rfl)
  have read : cs ≠ [] ∧ cs.all isDigit = true := ⟨nonempty, List.all_eq_true.mpr digits⟩
  rw [readInteger?, split]
  simp only [if_pos read, sign.withSign_eq]

/-- An integer in writing: a sign, which may be missing, and at least one digit. -/
structure IntegerText where
  /-- The sign. -/
  sign : Sign
  /-- The digits; the first ones may be zeros. -/
  digits : List (Fin 10)
  /-- There is a digit. -/
  nonempty : digits ≠ []

namespace IntegerText

/-- The characters of an integer in writing. -/
def text (t : IntegerText) : List Char :=
  t.sign.text ++ figures t.digits

/-- The integer that is written. -/
def value (t : IntegerText) : ℤ :=
  t.sign.factor * placeValue t.digits

/-- **An integer is read from its text**, with or without a sign and with any zeros before it. -/
theorem readInteger?_text (t : IntegerText) : readInteger? t.text = some t.value := by
  rw [text, readInteger?_sign_append t.sign (figures_ne_nil t.nonempty) fun c =>
    isDigit_of_mem_figures, ofDigits_figures, value]

end IntegerText

namespace Coercion

/-- Text of an integer of sixty-four bits is taken as that integer, as a number and as an integer. -/
theorem read_integer {s : String} {z : ℤ} (fits : Number.Fits z)
    (read : readInteger? (trim s.toList) = some z) :
    number (.string s) = .ok (.number (.integer z fits)) ∧
      integer (.string s) = .ok (.number (.integer z fits)) := by
  have given : number? (.string s) = some (.integer z fits) := by
    rw [number?, Number.ofText?]
    simp only [read, Option.bind_some, Number.ofInt?, dif_pos fits]
  constructor
  · rw [number, given]
    rfl
  · rw [integer, given]
    rfl

end Coercion

/-! ## Numbers as they are shown -/

/-- The text of an integer is a sign and a numeral. -/
theorem signedDigits_eq (z : ℤ) :
    ∃ sign : Sign, signedDigits z = sign.text ++ digits z.natAbs ∧ sign.factor * z.natAbs = z := by
  rcases lt_or_ge z 0 with negative | positive
  · refine ⟨.minus, if_pos negative, ?_⟩
    rw [Sign.factor]
    omega
  · refine ⟨.absent, if_neg positive.not_gt, ?_⟩
    rw [Sign.factor]
    omega

/-- An integer is read back from its text. -/
theorem readInteger?_signedDigits (z : ℤ) : readInteger? (signedDigits z) = some z := by
  obtain ⟨sign, shown, value⟩ := signedDigits_eq z
  have read := readInteger?_sign_append sign (digits_ne_nil z.natAbs) fun c => isDigit_of_mem_digits
  rw [shown, read, ofDigits_digits, value]

/-- There are no blanks around the text of an integer. -/
theorem trim_signedDigits (z : ℤ) : trim (signedDigits z) = signedDigits z := by
  obtain ⟨sign, shown, -⟩ := signedDigits_eq z
  have solid (c : Char) (member : c ∈ signedDigits z) : isBlank c = false := by
    rw [shown, List.mem_append] at member
    rcases member with sign' | digit
    · cases sign <;> simp_all [Sign.text, isBlank]
    · exact isBlank_of_isDigit (isDigit_of_mem_digits digit)
  exact trim_eq_self (fun c head => solid c (List.mem_of_head? head))
    fun c last => solid c (List.mem_of_getLast? last)

/-- **Integers are read exactly.** A text that is an integer in writing, after the blanks around it are
removed, is taken as that integer by the coercions to numbers and to integers, if it is one of sixty-four
bits. The text that the coercion to strings makes of such an integer is taken as the integer again. -/
theorem integers_read_exactly :
    (∀ (t : IntegerText) (s : String), trim s.toList = t.text → ∀ fits : Number.Fits t.value,
        Coercion.number (.string s) = .ok (.number (.integer t.value fits)) ∧
          Coercion.integer (.string s) = .ok (.number (.integer t.value fits))) ∧
      ∀ (z : ℤ) (fits : Number.Fits z), ∃ s,
        Coercion.string (.number (.integer z fits)) = .ok (.string s) ∧
          Coercion.number (.string s) = .ok (.number (.integer z fits)) ∧
          Coercion.integer (.string s) = .ok (.number (.integer z fits)) := by
  constructor
  · intro t s written fits
    apply Coercion.read_integer fits
    rw [written, t.readInteger?_text]
  · intro z fits
    refine ⟨String.ofList (signedDigits z), rfl, ?_⟩
    apply Coercion.read_integer fits
    rw [String.toList_ofList, trim_signedDigits, readInteger?_signedDigits]

/-- The greatest integer of sixty-four bits, with a sign and with zeros before its first digit. -/
def greatestText : IntegerText :=
  ⟨.plus, [0, 0, 1, 8, 4, 4, 6, 7, 4, 4, 0, 7, 3, 7, 0, 9, 5, 5, 1, 6, 1, 5], by decide⟩

/-- The greatest integer is read exactly between blanks, and the least one as it is shown. -/
theorem greatest_read_exactly :
    let written := "\u2003+0018446744073709551615\n"
    let least : Number := .integer (-0x8000000000000000) (by decide)
    trim written.toList = greatestText.text ∧ greatestText.value = 0xFFFFFFFFFFFFFFFF ∧
      (∃ fits, Coercion.number (.string written) = .ok (.number (.integer greatestText.value fits)) ∧
        Coercion.integer (.string written) = .ok (.number (.integer greatestText.value fits))) ∧
      ∃ s, Coercion.string (.number least) = .ok (.string s) ∧
        Coercion.number (.string s) = .ok (.number least) ∧
        Coercion.integer (.string s) = .ok (.number least) := by
  intro written least
  have trimmed : trim written.toList = greatestText.text := by decide +kernel
  have value : greatestText.value = 0xFFFFFFFFFFFFFFFF := by decide +kernel
  have fits : Number.Fits greatestText.value := by
    rw [value]
    decide
  obtain ⟨texts, shown⟩ := integers_read_exactly
  exact ⟨trimmed, value, ⟨fits, texts greatestText written trimmed fits⟩, shown _ _⟩

end Intake
