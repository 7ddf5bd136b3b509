import Intake.Json.Reader
import Intake.Json.Writer
import Intake.Proofs.Normalization

/-!
# JSON trees and their texts

The compact text of a tree is read back as that tree, if the numbers in it are integers and its arrays and
objects stand no deeper inside one another than the reader goes (`Json.read?_text`). A string is read one
character at a time, and the text of each character gives that character and nothing else. A number is
read to its last digit because no digit, point or exponent follows a complete value: what follows is a
comma, a closing bracket or brace, or nothing (`Json.Ended`). The text of an array is longer than the
array, so the length of the whole text is bound enough for every array and object in it.
-/

set_option autoImplicit false

namespace Intake.Json

open Intake.Text

/-! ## Strings -/

/-- A hexadecimal digit is read as what it was written for. -/
theorem hexValue?_hexDigit {n : ℕ} (small : n < 16) : hexValue? (hexDigit n) = some n := by
  have all : ∀ k < 16, hexValue? (hexDigit k) = some k := by decide
  exact all n small

/-- An escape of four hexadecimal digits, the first two of them zeros, is the character of the last two. -/
theorem stringRest?_hex {n : ℕ} (small : n < 256) (cs : List Char) :
    stringRest? .plain ('\\' :: 'u' :: '0' :: '0' :: hexDigit (n / 16) :: hexDigit (n % 16) :: cs)
      = (stringRest? .plain cs).map fun (content, after) => (Char.ofNat n :: content, after) := by
  have zero : hexValue? '0' = some 0 := rfl
  have high : hexValue? (hexDigit (n / 16)) = some (n / 16) := hexValue?_hexDigit (by omega)
  have low : hexValue? (hexDigit (n % 16)) = some (n % 16) := hexValue?_hexDigit (by omega)
  have value : 16 * (n / 16) + n % 16 = n := Nat.div_add_mod n 16
  have complete : completeHex? n none = some (.inl (Char.ofNat n)) := by
    rw [completeHex?, if_neg (by omega), if_neg (by omega)]
  simp [stringRest?, zero, high, low, value, complete]

/-- **One character.** The text of a character in a string is read as that character. -/
theorem stringRest?_escape (c : Char) (cs : List Char) :
    stringRest? .plain (escape c ++ cs)
      = (stringRest? .plain cs).map fun (content, after) => (c :: content, after) := by
  have named {d : Char} (code : c.toNat = d.toNat) : c = d := Char.toNat_inj.mp code
  unfold escape
  split_ifs with quote backslash control backspace tab newline formFeed return'
  · subst quote
    rfl
  · subst backslash
    rfl
  · rw [named (d := '\x08') backspace]
    rfl
  · rw [named (d := '\t') tab]
    rfl
  · rw [named (d := '\n') newline]
    rfl
  · rw [named (d := '\x0c') formFeed]
    rfl
  · rw [named (d := '\r') return']
    rfl
  · have read := stringRest?_hex (n := c.toNat) (by omega) cs
    rwa [Char.ofNat_toNat] at read
  · simp [stringRest?, quote, backslash, control]

/-- **Strings.** An escaped text is read up to the quotation mark after it. -/
theorem stringRest?_flatMap_escape (content rest : List Char) :
    stringRest? .plain (content.flatMap escape ++ '"' :: rest) = some (content, rest) := by
  induction content with
  | nil => rfl
  | cons c cs ih => rw [List.flatMap_cons, List.append_assoc, stringRest?_escape, ih, Option.map_some]

/-- A string in quotes is read back, whatever its characters are. -/
theorem string?_quoted (s : String) (rest : List Char) :
    string? (s.toList.flatMap escape ++ '"' :: rest) = some (s, rest) := by
  simp [string?, stringRest?_flatMap_escape]

/-- A quoted text before anything else, character by character. -/
theorem quoted_append (s : String) (rest : List Char) :
    quoted s ++ rest = '"' :: (s.toList.flatMap escape ++ '"' :: rest) := by
  simp [quoted]

/-! ## Numbers -/

/-- What may follow a complete value in a compact text. -/
def Ended (rest : List Char) : Prop :=
  ∀ c ∈ rest.head?, c = ',' ∨ c = ']' ∨ c = '}'

namespace Ended

variable {rest : List Char}

/-- No blanks follow a complete value. -/
theorem skipSpace_eq (ended : Ended rest) : skipSpace rest = rest := by
  cases rest with
  | nil => rfl
  | cons c cs => rcases ended c rfl with rfl | rfl | rfl <;> rfl

/-- No digits follow a complete value. -/
theorem not_digit (ended : Ended rest) : ∀ c ∈ rest.head?, isDigit c = false := by
  intro c head
  rcases ended c head with rfl | rfl | rfl <;> rfl

/-- No fraction follows a complete value. -/
theorem fractionPart?_eq (ended : Ended rest) : fractionPart? rest = some (none, rest) := by
  cases rest with
  | nil => rfl
  | cons c cs => rcases ended c rfl with rfl | rfl | rfl <;> rfl

/-- No exponent follows a complete value. -/
theorem exponentPart?_eq (ended : Ended rest) : exponentPart? rest = some (none, rest) := by
  cases rest with
  | nil => rfl
  | cons c cs => rcases ended c rfl with rfl | rfl | rfl <;> rfl

end Ended

/-- A numeral begins with a digit. -/
theorem digits_eq_cons (n : ℕ) : ∃ d ds, digits n = d :: ds ∧ isDigit d = true := by
  obtain ⟨d, ds, shown⟩ := List.exists_cons_of_ne_nil (digits_ne_nil n)
  exact ⟨d, ds, shown, isDigit_of_mem_digits (shown ▸ List.mem_cons_self)⟩

/-- Only the numeral of zero begins with a zero. -/
theorem head?_digits_ne_zero {n : ℕ} (positive : 0 < n) : (digits n).head? ≠ some '0' := by
  fun_induction digits n with
  | case1 n small =>
    intro head
    rw [List.head?_cons, Option.some.injEq] at head
    have code := toNat_digitChar small
    rw [head] at code
    have zero : 48 = 48 + n := code
    omega
  | case2 n large ih =>
    rw [List.head?_append_of_ne_nil _ (digits_ne_nil _)]
    exact ih (by omega)

/-- A numeral of more than one digit does not begin with a zero. -/
theorem no_leading_zero (n : ℕ) : ¬((digits n).head? = some '0' ∧ (digits n).length ≠ 1) := by
  rintro ⟨zero, long⟩
  rcases Nat.eq_zero_or_pos n with rfl | positive
  · exact long (by simp [digits])
  · exact head?_digits_ne_zero positive zero

/-- The digits of a number and a sign before them give the number, if it is not the zero of a minus. -/
theorem toNumber?_digits {z : ℤ} (fits : Number.Fits z) {negative : Bool}
    (value : withSign negative z.natAbs = z) (zero : negative = true → z ≠ 0) :
    NumberParts.toNumber? ⟨negative, digits z.natAbs, none, none⟩ = some (.integer z fits) := by
  have nonzero : ¬(negative = true ∧ z.natAbs = 0) := by
    rintro ⟨minus, same⟩
    exact zero minus (Int.natAbs_eq_zero.mp same)
  simp only [NumberParts.toNumber?, ofDigits_digits, if_neg nonzero, value, Number.ofInt?, dif_pos fits]

/-- Where no point and no exponent follows, the digits are the whole number. -/
theorem parts_of_ended {negative : Bool} {whole rest : List Char} {number : Number} (ended : Ended rest)
    (denoted : NumberParts.toNumber? ⟨negative, whole, none, none⟩ = some number) :
    (do
      let (fraction, cs) ← fractionPart? rest
      let (exponent, cs) ← exponentPart? cs
      let number ← NumberParts.toNumber? { negative, whole, fraction, exponent }
      some (number, cs)) = some (number, rest) := by
  -- One step at a time, for reducing the whole would compute with the limits of the integers.
  refine Option.bind_eq_some_iff.mpr ⟨_, ended.fractionPart?_eq, ?_⟩
  refine Option.bind_eq_some_iff.mpr ⟨_, ended.exponentPart?_eq, ?_⟩
  exact Option.bind_eq_some_iff.mpr ⟨_, denoted, rfl⟩

/-- **Integers** are read to the last digit and as integers. -/
theorem number?_signedDigits {z : ℤ} (fits : Number.Fits z) {rest : List Char} (ended : Ended rest) :
    number? (signedDigits z ++ rest) = some (.integer z fits, rest) := by
  have span : spanDigits (digits z.natAbs ++ rest) = (digits z.natAbs, rest) :=
    spanDigits_append (fun c => isDigit_of_mem_digits) ended.not_digit
  have proper : ¬(digits z.natAbs = [] ∨
      (digits z.natAbs).head? = some '0' ∧ (digits z.natAbs).length ≠ 1) :=
    not_or.mpr ⟨digits_ne_nil _, no_leading_zero _⟩
  rcases lt_or_ge z 0 with negative | positive
  · have value : withSign true z.natAbs = z := by
      rw [withSign, if_pos rfl]
      omega
    rw [signedDigits, if_pos negative, List.cons_append, number?]
    simp only [span, if_neg proper]
    exact parts_of_ended ended (toNumber?_digits fits value fun _ => negative.ne)
  · have value : withSign false z.natAbs = z := by
      rw [withSign, if_neg Bool.false_ne_true]
      omega
    have unsigned : ∀ cs, digits z.natAbs ++ rest ≠ '-' :: cs := by
      intro cs minus
      obtain ⟨d, ds, shown, digit⟩ := digits_eq_cons z.natAbs
      rw [shown, List.cons_append, List.cons.injEq] at minus
      rw [minus.1] at digit
      cases digit
    rw [signedDigits, if_neg positive.not_gt, number?]
    · simp only [span, if_neg proper]
      exact parts_of_ended ended (toNumber?_digits fits value (absurd · Bool.false_ne_true))
    · exact unsigned

/-- The characters that a text of an integer begins with. -/
def BeginsInteger (c : Char) : Prop :=
  c = '-' ∨ isDigit c = true

/-- An integer begins with no character other than a minus and the digits. -/
theorem BeginsInteger.ne {c d : Char} (begins : BeginsInteger c) (minus : d ≠ '-')
    (other : isDigit d = false) : c ≠ d := by
  rintro rfl
  rcases begins with same | digit
  · exact minus same
  · rw [other] at digit
    cases digit

/-- An integer does not begin with a blank. -/
theorem BeginsInteger.isSpace {c : Char} (begins : BeginsInteger c) : isSpace c = false := by
  have blank : c ≠ ' ' := begins.ne (by decide) rfl
  have tab : c ≠ '\t' := begins.ne (by decide) rfl
  have newline : c ≠ '\n' := begins.ne (by decide) rfl
  have return' : c ≠ '\r' := begins.ne (by decide) rfl
  simp [Json.isSpace, blank, tab, newline, return']

/-- The text of an integer has a first character. -/
theorem signedDigits_eq_cons (z : ℤ) : ∃ c cs, signedDigits z = c :: cs ∧ BeginsInteger c := by
  unfold signedDigits
  split
  · exact ⟨_, _, rfl, Or.inl rfl⟩
  · obtain ⟨d, ds, shown, digit⟩ := digits_eq_cons z.natAbs
    exact ⟨d, ds, shown, Or.inr digit⟩

/-! ## Values without parts -/

/-- A character that is no blank is not skipped. -/
theorem skipSpace_cons {c : Char} {cs : List Char} (solid : isSpace c = false) :
    skipSpace (c :: cs) = c :: cs :=
  List.dropWhile_cons_of_neg (by simp [solid])

section Scalars

variable {bound depth : ℕ} {rest : List Char}

/-- What begins neither with a blank nor with a bracket is a value without parts. -/
theorem value?_eq_scalar? {c : Char} {cs : List Char} (solid : isSpace c = false) (bracket : c ≠ '[')
    (brace : c ≠ '{') : value? bound depth (c :: cs) = scalar? (c :: cs) := by
  cases depth with
  | zero => rw [value?, skipSpace_cons solid]
  | succ depth =>
    rw [value?, skipSpace_cons solid]
    split
    · rename_i same
      cases same
      exact absurd rfl bracket
    · rename_i same
      cases same
      exact absurd rfl brace
    · rfl

/-- What begins as an integer does is a number. -/
theorem scalar?_eq_number? {c : Char} {cs : List Char} (begins : BeginsInteger c) :
    scalar? (c :: cs) = (number? (c :: cs)).map fun (n, after) => (.number n, after) := by
  have quote : c ≠ '"' := begins.ne (by decide) rfl
  have null : c ≠ 'n' := begins.ne (by decide) rfl
  have true' : c ≠ 't' := begins.ne (by decide) rfl
  have false' : c ≠ 'f' := begins.ne (by decide) rfl
  unfold scalar?
  split <;> simp_all

/-- The text of an integer is read as this integer. -/
theorem value?_integer {z : ℤ} (fits : Number.Fits z) (ended : Ended rest) :
    value? bound depth (signedDigits z ++ rest) = some (.number (.integer z fits), rest) := by
  obtain ⟨c, cs, shown, begins⟩ := signedDigits_eq_cons z
  have bracket : c ≠ '[' := begins.ne (by decide) rfl
  have brace : c ≠ '{' := begins.ne (by decide) rfl
  have read := number?_signedDigits fits ended
  rw [shown, List.cons_append] at read ⊢
  rw [value?_eq_scalar? begins.isSpace bracket brace, scalar?_eq_number? begins, read, Option.map_some]

/-- A quoted text is read as this text. -/
theorem value?_quoted (s : String) :
    value? bound depth (quoted s ++ rest) = some (.string s, rest) := by
  rw [quoted_append, value?_eq_scalar? rfl (by decide) (by decide), scalar?, string?_quoted,
    Option.map_some]

end Scalars

/-! ## Arrays and objects -/

/-- A reader gives a tree back from its text, before anything that may follow a value. -/
def ReadsBack (read? : List Char → Option (Json × List Char)) (tree : Json) : Prop :=
  ∀ rest, Ended rest → read? (tree.render ++ rest) = some (tree, rest)

section Parts

variable {part? : List Char → Option (Json × List Char)} {bound : ℕ}

/-- The texts of elements that are each read back, with commas between them, are read as the elements in
order. -/
theorem elements?_commaSeparated {elements : List Json} (nonempty : elements ≠ [])
    (enough : elements.length ≤ bound) (each : ∀ element ∈ elements, ReadsBack part? element)
    (rest : List Char) :
    elements? part? bound (commaSeparated (renderAll elements) ++ ']' :: rest)
      = some (elements, rest) := by
  induction elements generalizing bound with
  | nil => exact absurd rfl nonempty
  | cons element others ih =>
    obtain ⟨bound, rfl⟩ := Nat.exists_eq_add_one_of_ne_zero (Nat.ne_zero_of_lt enough)
    have first := each element List.mem_cons_self
    -- The last element is followed by the bracket, any other by a comma and a text of the same sort.
    cases others with
    | nil =>
      have ended : Ended (']' :: rest) := by simp [Ended]
      simp [renderAll, commaSeparated, elements?, first _ ended, ended.skipSpace_eq]
    | cons next others =>
      have later := ih (List.cons_ne_nil _ _) (Nat.le_of_succ_le_succ enough)
        fun other member => each other (List.mem_cons_of_mem _ member)
      have ended : Ended (',' :: (commaSeparated (renderAll (next :: others)) ++ ']' :: rest)) := by
        simp [Ended]
      have text : commaSeparated (renderAll (element :: next :: others))
          = element.render ++ ',' :: commaSeparated (renderAll (next :: others)) := rfl
      simp [text, elements?, first _ ended, ended.skipSpace_eq, later]

/-- The same of the texts of entries whose values are each read back. -/
theorem entries?_commaSeparated {entries : List (String × Json)} (nonempty : entries ≠ [])
    (enough : entries.length ≤ bound) (each : ∀ entry ∈ entries, ReadsBack part? entry.2)
    (rest : List Char) :
    entries? part? bound (commaSeparated (renderEntries entries) ++ '}' :: rest)
      = some (entries, rest) := by
  have quote (cs : List Char) : skipSpace ('"' :: cs) = '"' :: cs := rfl
  have colon (cs : List Char) : skipSpace (':' :: cs) = ':' :: cs := rfl
  induction entries generalizing bound with
  | nil => exact absurd rfl nonempty
  | cons entry others ih =>
    obtain ⟨bound, rfl⟩ := Nat.exists_eq_add_one_of_ne_zero (Nat.ne_zero_of_lt enough)
    have first := each entry List.mem_cons_self
    cases others with
    | nil =>
      have ended : Ended ('}' :: rest) := by simp [Ended]
      simp [renderEntries, commaSeparated, entries?, quoted_append, quote, string?_quoted, colon,
        first _ ended, ended.skipSpace_eq]
    | cons next others =>
      have later := ih (List.cons_ne_nil _ _) (Nat.le_of_succ_le_succ enough)
        fun other member => each other (List.mem_cons_of_mem _ member)
      have ended : Ended (',' :: (commaSeparated (renderEntries (next :: others)) ++ '}' :: rest)) := by
        simp [Ended]
      have text : commaSeparated (renderEntries (entry :: next :: others))
          = quoted entry.1 ++ ':' :: entry.2.render
            ++ ',' :: commaSeparated (renderEntries (next :: others)) := rfl
      simp [text, entries?, quoted_append, quote, string?_quoted, colon, first _ ended,
        ended.skipSpace_eq, later]

/-- Texts joined by commas begin as the first of them does. -/
theorem commaSeparated_eq_cons {c : Char} (cs : List Char) (texts : List (List Char)) :
    ∃ ds, commaSeparated ((c :: cs) :: texts) = c :: ds := by
  cases texts with
  | nil => exact ⟨_, rfl⟩
  | cons => exact ⟨_, rfl⟩

/-- An array is read back from its text. The first element has to begin with another character than the
bracket that closes an array. -/
theorem array?_render {elements : List Json} (enough : elements.length ≤ bound)
    (each : ∀ element ∈ elements, ReadsBack part? element)
    (begins : ∀ element ∈ elements, ∃ c cs, element.render = c :: cs ∧ isSpace c = false ∧ c ≠ ']')
    (rest : List Char) :
    array? part? bound (commaSeparated (renderAll elements) ++ ']' :: rest)
      = some (.array elements, rest) := by
  cases elements with
  | nil => rfl
  | cons element others =>
    have read := elements?_commaSeparated (List.cons_ne_nil element others) enough each rest
    obtain ⟨c, cs, first, solid, other⟩ := begins element List.mem_cons_self
    obtain ⟨ds, text⟩ := commaSeparated_eq_cons cs (renderAll others)
    rw [renderAll, first, text, List.cons_append] at read ⊢
    rw [array?, skipSpace_cons solid]
    split
    · -- The text of the first element does not close the array.
      rename_i same
      cases same
      exact absurd rfl other
    · rw [read, Option.map_some]

/-- An object is read back from its text, which begins with the quote of its first key if it has one. -/
theorem object?_render {entries : List (String × Json)} (enough : entries.length ≤ bound)
    (each : ∀ entry ∈ entries, ReadsBack part? entry.2) (rest : List Char) :
    object? part? bound (commaSeparated (renderEntries entries) ++ '}' :: rest)
      = some (.object entries, rest) := by
  cases entries with
  | nil => rfl
  | cons entry others =>
    have read := entries?_commaSeparated (List.cons_ne_nil entry others) enough each rest
    obtain ⟨ds, text⟩ := commaSeparated_eq_cons
      (entry.1.toList.flatMap escape ++ ['"'] ++ ':' :: entry.2.render) (renderEntries others)
    rw [renderEntries, quoted, List.cons_append, text, List.cons_append] at read ⊢
    simp [object?, skipSpace_cons, isSpace, read]

end Parts

/-- The elements of an array are written one by one. -/
theorem renderAll_eq_map (elements : List Json) : renderAll elements = elements.map render := by
  induction elements with
  | nil => rfl
  | cons element rest ih => rw [renderAll, ih, List.map_cons]

/-- The entries of an object are written one by one, each with its key in quotation marks. -/
theorem renderEntries_eq_map (entries : List (String × Json)) :
    renderEntries entries = entries.map fun entry => quoted entry.1 ++ ':' :: entry.2.render := by
  induction entries with
  | nil => rfl
  | cons entry rest ih => rw [renderEntries, ih, List.map_cons]

/-- Each of the texts that are joined is no longer than all together. -/
theorem length_le_commaSeparated {text : List Char} {texts : List (List Char)} (member : text ∈ texts) :
    text.length ≤ (commaSeparated texts).length := by
  fun_induction commaSeparated texts with
  | case1 => cases member
  | case2 single => rw [List.mem_singleton.mp member]
  | case3 first others _ ih =>
    rw [List.length_append, List.length_cons]
    rcases List.mem_cons.mp member with rfl | later
    · omega
    · have shorter := ih later
      omega

/-- There are no more texts than characters and one, for there is a comma before each but the first. -/
theorem length_texts_le (texts : List (List Char)) :
    texts.length ≤ (commaSeparated texts).length + 1 := by
  fun_induction commaSeparated texts with
  | case1 => simp
  | case2 single => simp
  | case3 first others _ ih =>
    rw [List.length_append, List.length_cons, List.length_cons]
    omega

/-! ## Trees and documents -/

/-- A tree of integers: its numbers are integers, and its arrays and objects stand at most so many levels
inside one another. -/
inductive Plain : ℕ → Json → Prop
  | null {depth : ℕ} : Plain depth .null
  | bool {depth : ℕ} (b : Bool) : Plain depth (.bool b)
  | integer {depth : ℕ} {z : ℤ} (fits : Number.Fits z) : Plain depth (.number (.integer z fits))
  | string {depth : ℕ} (s : String) : Plain depth (.string s)
  /-- The elements are one level deeper. -/
  | array {depth : ℕ} {elements : List Json} (parts : ∀ element ∈ elements, Plain depth element) :
      Plain (depth + 1) (.array elements)
  /-- The values of the entries are one level deeper. -/
  | object {depth : ℕ} {entries : List (String × Json)} (parts : ∀ entry ∈ entries, Plain depth entry.2) :
      Plain (depth + 1) (.object entries)

namespace Plain

variable {bound depth : ℕ} {tree : Json}

/-- The text of a tree begins with a character that is no blank and closes no array. -/
theorem render_eq_cons (plain : Plain depth tree) :
    ∃ c cs, tree.render = c :: cs ∧ isSpace c = false ∧ c ≠ ']' := by
  cases plain with
  | null => exact ⟨_, _, rfl, rfl, by decide⟩
  | bool b => cases b <;> exact ⟨_, _, rfl, rfl, by decide⟩
  | integer fits =>
    obtain ⟨c, cs, shown, begins⟩ := signedDigits_eq_cons _
    exact ⟨c, cs, shown, begins.isSpace, begins.ne (by decide) rfl⟩
  | string s => exact ⟨_, _, rfl, rfl, by decide⟩
  | array parts => exact ⟨_, _, rfl, rfl, by decide⟩
  | object parts => exact ⟨_, _, rfl, rfl, by decide⟩

/-- **Trees.** The text of a tree of integers is read back as the tree, with a bound of its length on the
elements of each array and object in it. -/
theorem readsBack (plain : Plain depth tree) (enough : tree.render.length ≤ bound) :
    ReadsBack (value? bound depth) tree := by
  induction plain with
  | null => exact fun rest _ => value?_eq_scalar? rfl (by decide) (by decide)
  | bool b =>
    intro rest _
    cases b <;> exact value?_eq_scalar? rfl (by decide) (by decide)
  | integer fits => exact fun rest => value?_integer fits
  | string s => exact fun rest _ => value?_quoted s
  | @array depth elements parts ih =>
    rw [render, List.length_cons, List.length_append, List.length_singleton] at enough
    have texts := length_texts_le (renderAll elements)
    have count : (renderAll elements).length = elements.length := by
      rw [renderAll_eq_map, List.length_map]
    have few : elements.length ≤ bound := by omega
    have each : ∀ element ∈ elements, ReadsBack (value? bound depth) element := by
      intro element member
      have listed : element.render ∈ renderAll elements := by
        rw [renderAll_eq_map]
        exact List.mem_map_of_mem member
      have part := length_le_commaSeparated listed
      exact ih element member (by omega)
    intro rest _
    have shape : (Json.array elements).render ++ rest
        = '[' :: (commaSeparated (renderAll elements) ++ ']' :: rest) := by simp [render]
    rw [shape, value?, skipSpace_cons rfl]
    exact array?_render few each (fun element member => (parts element member).render_eq_cons) rest
  | @object depth entries parts ih =>
    rw [render, List.length_cons, List.length_append, List.length_singleton] at enough
    have texts := length_texts_le (renderEntries entries)
    have count : (renderEntries entries).length = entries.length := by
      rw [renderEntries_eq_map, List.length_map]
    have few : entries.length ≤ bound := by omega
    have each : ∀ entry ∈ entries, ReadsBack (value? bound depth) entry.2 := by
      intro entry member
      have listed : quoted entry.1 ++ ':' :: entry.2.render ∈ renderEntries entries := by
        rw [renderEntries_eq_map]
        exact List.mem_map_of_mem member
      have part := length_le_commaSeparated listed
      rw [List.length_append, List.length_cons] at part
      exact ih entry member (by omega)
    intro rest _
    have shape : (Json.object entries).render ++ rest
        = '{' :: (commaSeparated (renderEntries entries) ++ '}' :: rest) := by simp [render]
    rw [shape, value?, skipSpace_cons rfl]
    exact object?_render few each rest

end Plain

/-- **Documents.** The text of a tree of integers that is no deeper than the reader goes is read back as
the tree. -/
theorem read?_text {tree : Json} (plain : Plain maxDepth tree) : read? tree.text = some tree := by
  have read := plain.readsBack (Nat.le_refl _) [] nofun
  rw [List.append_nil] at read
  simp only [read?, text, String.toList_ofList, read]
  rfl

end Intake.Json
