/-!
# Digits

Numerals in base ten as lists of characters: the digits of a natural number, the number that a
run of digits denotes, the split of text into its leading run of digits and the rest, and the values of
hexadecimal digits. Main statements: reading the digits of a number gives the number back
(`ofDigits_digits`), and they are digits only (`isDigit_of_mem_digits`).
-/

set_option autoImplicit false

namespace Intake.Text

/-- Whether the character is one of the ten digits of ASCII. -/
def isDigit (c : Char) : Bool :=
  48 ≤ c.toNat && c.toNat ≤ 57

/-- The value of a digit. -/
def digitValue (c : Char) : Nat :=
  c.toNat - 48

/-- The digit of a value below ten. -/
def digitChar (n : Nat) : Char :=
  Char.ofNat (48 + n)

/-- The decimal digits of a number, the most significant one first and without leading zeros. -/
def digits (n : Nat) : List Char :=
  if n < 10 then [digitChar n] else digits (n / 10) ++ [digitChar (n % 10)]
termination_by n

/-- The number that a run of digits denotes. -/
def ofDigits (cs : List Char) : Nat :=
  cs.foldl (fun n c => 10 * n + digitValue c) 0

/-- The decimal text of a number. -/
def numeral (n : Nat) : String :=
  String.ofList (digits n)

/-- The digits of a number, filled with zeros at the front up to the given width. -/
def padded (width n : Nat) : List Char :=
  let ds := digits n
  List.replicate (width - ds.length) '0' ++ ds

/-- The decimal digits of an integer after its sign, which only negative numbers have. -/
def signedDigits (z : Int) : List Char :=
  if z < 0 then '-' :: digits z.natAbs else digits z.natAbs

/-- The value of a hexadecimal digit of either case. -/
def hexValue? (c : Char) : Option Nat :=
  let n := c.toNat
  if 48 ≤ n ∧ n ≤ 57 then some (n - 48)
  else if 97 ≤ n ∧ n ≤ 102 then some (n - 87)
  else if 65 ≤ n ∧ n ≤ 70 then some (n - 55)
  else none

/-- The leading run of digits and what follows it. -/
def spanDigits (cs : List Char) : List Char × List Char :=
  (cs.takeWhile isDigit, cs.dropWhile isDigit)

/-- The digits come in a row of characters. -/
theorem toNat_digitChar {n : Nat} (h : n < 10) : (digitChar n).toNat = 48 + n := by
  have all : ∀ k < 10, (digitChar k).toNat = 48 + k := by decide
  exact all n h

/-- The character of a digit is a digit. -/
theorem isDigit_digitChar {n : Nat} (h : n < 10) : isDigit (digitChar n) = true := by
  simp only [isDigit, toNat_digitChar h, Bool.and_eq_true, decide_eq_true_eq]
  omega

/-- The character of a digit has its value. -/
theorem digitValue_digitChar {n : Nat} (h : n < 10) : digitValue (digitChar n) = n := by
  rw [digitValue, toNat_digitChar h]
  omega

/-- Every character of a numeral is a digit. -/
theorem isDigit_of_mem_digits {n : Nat} {c : Char} (h : c ∈ digits n) : isDigit c = true := by
  fun_induction digits n with
  | case1 n small =>
    rw [List.mem_singleton.1 h]
    exact isDigit_digitChar small
  | case2 n large ih =>
    rcases List.mem_append.1 h with h | h
    · exact ih h
    · rw [List.mem_singleton.1 h]
      exact isDigit_digitChar (Nat.mod_lt _ (by decide))

/-- A numeral has at least one digit. -/
theorem digits_ne_nil (n : Nat) : digits n ≠ [] := by
  rw [digits]
  split <;> simp

/-- Reading a numeral gives its number back. -/
theorem ofDigits_digits (n : Nat) : ofDigits (digits n) = n := by
  fun_induction digits n with
  | case1 n small => simp [ofDigits, digitValue_digitChar small]
  | case2 n large ih =>
    rw [ofDigits, List.foldl_append, ← ofDigits, ih, List.foldl_cons, List.foldl_nil,
      digitValue_digitChar (Nat.mod_lt _ (by decide))]
    omega

/-- A run of digits is split off whole from text that goes on with no digit. -/
theorem spanDigits_append {ds rest : List Char} (all : ∀ c ∈ ds, isDigit c = true)
    (stop : ∀ c ∈ rest.head?, isDigit c = false) : spanDigits (ds ++ rest) = (ds, rest) := by
  induction ds with
  | nil =>
    cases rest with
    | nil => rfl
    | cons c cs => simp [spanDigits, stop c (by simp)]
  | cons d ds ih =>
    have tail := ih fun c h => all c (List.mem_cons_of_mem _ h)
    have head := all d (by simp)
    simp only [spanDigits, Prod.mk.injEq] at tail ⊢
    simp [head, tail]

end Intake.Text
