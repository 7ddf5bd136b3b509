import Intake.Text.Blank
import Intake.Text.CaseForms
import Intake.Text.WordChars

/-!
# Sets of characters

The sets of characters that search patterns are made of: ranges, classes of Unicode, and what set
operations and indifference to case make of them.
-/

set_option autoImplicit false

namespace Intake.Pattern

/-- A set of characters. -/
inductive CharSet
  /-- No character. -/
  | nothing
  /-- The characters from one code point to another. -/
  | range (low high : Nat)
  /-- Decimal digits of all scripts. -/
  | digit
  /-- Word characters of all scripts. -/
  | wordChar
  /-- Blanks. -/
  | blank
  /-- Letters of all scripts. -/
  | letter
  /-- Combining marks. -/
  | mark
  /-- The characters of either set. -/
  | union (a b : CharSet)
  /-- The characters of both sets. -/
  | intersection (a b : CharSet)
  /-- All other characters. -/
  | complement (a : CharSet)
  /-- The characters that differ from one of the set by case alone. -/
  | caseless (a : CharSet)

namespace CharSet

/-- Whether the character belongs to the set. -/
def contains : CharSet → Char → Bool
  | .nothing, _ => false
  | .range low high, c => low ≤ c.toNat && c.toNat ≤ high
  | .digit, c => Text.isDecimalDigit c
  | .wordChar, c => Text.isWordChar c
  | .blank, c => Text.isBlank c
  | .letter, c => Text.isLetter c
  | .mark, c => Text.inTables Text.marks c.toNat
  | .union a b, c => a.contains c || b.contains c
  | .intersection a b, c => a.contains c && b.contains c
  | .complement a, c => !a.contains c
  | .caseless a, c => (Text.caseForms c.toNat).any fun n => a.contains (Char.ofNat n)

/-- The set of one character. -/
def single (c : Char) : CharSet :=
  .range c.toNat c.toNat

/-- The characters of ASCII. -/
def ascii : CharSet :=
  .range 0 127

/-- All characters. -/
def any : CharSet :=
  .complement .nothing

/-- The union of several sets. -/
def unions (sets : List CharSet) : CharSet :=
  sets.foldr .union .nothing

/-- The characters of the first set that are not in the second. -/
def difference (a b : CharSet) : CharSet :=
  .intersection a (.complement b)

/-- The characters of exactly one of the two sets. -/
def symmetricDifference (a b : CharSet) : CharSet :=
  .union (difference a b) (difference b a)

/-- About how many bytes the transitions of an automaton over the bytes of UTF-8 take up that
recognises the set. -/
def transitions : CharSet → Nat
  | .nothing => 0
  | .range low high => if high < 128 then 8 else if low < 128 then 370 else 100
  | .digit => 4472
  | .wordChar => 47068
  | .blank => 648
  | .letter => 40000
  | .mark => 18000
  | .union a b => a.transitions + b.transitions
  | .intersection a b => a.transitions + b.transitions
  | .complement a => a.transitions + 960
  | .caseless a => a.transitions

/-- About how many bytes an automaton takes up that recognises the set: a state, and its transitions
unless there is only one. -/
def memory (set : CharSet) : Nat :=
  if set.transitions ≤ 8 then 32 else 32 + set.transitions

end CharSet

end Intake.Pattern
