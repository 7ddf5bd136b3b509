/-!
# Blank characters

The characters that separate words: those with the Unicode property White_Space. Numeric and
calendar text is read after the blanks at both of its ends have been removed, and the class
`\s` of search patterns is the same set.
-/

set_option autoImplicit false

namespace Intake.Text

/-- Whether the character has the Unicode property White_Space. -/
def isBlank (c : Char) : Bool :=
  let n := c.toNat
  (9 ≤ n && n ≤ 13) || n == 32 || n == 0x85 || n == 0xA0 || n == 0x1680
    || (0x2000 ≤ n && n ≤ 0x200A) || n == 0x2028 || n == 0x2029 || n == 0x202F
    || n == 0x205F || n == 0x3000

/-- Removes the blanks at the front. -/
def trimStart (cs : List Char) : List Char :=
  cs.dropWhile isBlank

/-- Removes the blanks at the end. -/
def trimEnd (cs : List Char) : List Char :=
  (trimStart cs.reverse).reverse

/-- Removes the blanks at both ends. -/
def trim (cs : List Char) : List Char :=
  trimEnd (trimStart cs)

/-- Text that begins with a character that is no blank keeps its front. -/
theorem trimStart_cons {c : Char} (h : isBlank c = false) (cs : List Char) :
    trimStart (c :: cs) = c :: cs := by
  simp [trimStart, h]

/-- Trimming removes nothing from text that neither begins nor ends with a blank. -/
theorem trim_eq_self {cs : List Char} (first : ∀ c ∈ cs.head?, isBlank c = false)
    (last : ∀ c ∈ cs.getLast?, isBlank c = false) : trim cs = cs := by
  have start : trimStart cs = cs := by
    cases cs with
    | nil => rfl
    | cons c rest => exact trimStart_cons (first c (by simp)) rest
  have finish : trimStart cs.reverse = cs.reverse := by
    cases h : cs.reverse with
    | nil => rfl
    | cons c rest =>
      refine trimStart_cons (last c ?_) rest
      rw [← List.head?_reverse, h]
      simp
  rw [trim, trimEnd, start, finish, List.reverse_reverse]

end Intake.Text
