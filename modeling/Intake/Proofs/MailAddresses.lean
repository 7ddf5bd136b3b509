import Intake.Proofs.Filters
import Intake.Proofs.PatternSearch

/-!
# Mail addresses

The format of mail addresses is a search for a pattern with overlapping repetitions: the text around the
point may contain points as well. What it accepts can be said without any pattern (`IsMailAddress`), and
the rule `format` accepts exactly this (`format_email_decides`).

Since the pattern is bound to both ends of the text, a search for it is a question about the whole text
(`isFoundIn_mailShape`): whether it can be cut at an at sign and, behind that, at a point into three texts
that are not empty and have neither blanks nor at signs. Such a cut is there exactly if the only at sign
and some inner point of the text after it are (`isMailAddress_iff_cuts`).
-/

set_option autoImplicit false

namespace Intake

/-! ## The pattern -/

namespace Pattern

open Meaning

variable {A : Meaning} {set : CharSet} {least : ℕ} {before : Option Char} {text rest : List Char}

/-- So many characters of a set in a row. -/
theorem times_chars {n : ℕ} : (chars set).meaning.times n before text rest ↔
    text.length = n ∧ ∀ c ∈ text, set.contains c = true := by
  induction n generalizing before text with
  | zero =>
    rw [List.length_eq_zero_iff]
    exact (and_iff_left_of_imp fun (none : text = []) => by simp [none]).symm
  | succ n ih =>
    constructor
    · rintro ⟨_, others, rfl, ⟨c, first, rfl⟩, row⟩
      obtain ⟨rfl, others⟩ := ih.mp row
      exact ⟨rfl, List.forall_mem_cons.mpr ⟨first, others⟩⟩
    · rintro ⟨size, members⟩
      obtain ⟨c, others, rfl⟩ := List.exists_cons_of_length_eq_add_one size
      obtain ⟨first, later⟩ := List.forall_mem_cons.mp members
      exact ⟨[c], others, rfl, ⟨c, first, rfl⟩, ih.mpr ⟨Nat.succ.inj size, later⟩⟩

/-- Whether a text is one of characters of a set, and has any. -/
def CharSet.Fills (set : CharSet) (text : List Char) : Prop :=
  text ≠ [] ∧ ∀ c ∈ text, set.contains c = true

/-- Characters of a set, once or more, stand for the texts that are filled by the set. -/
theorem meaning_repeated_chars :
    (repeated 1 none (chars set)).meaning before text rest ↔ set.Fills text := by
  constructor
  · rintro ⟨n, lower, -, row⟩
    obtain ⟨rfl, members⟩ := times_chars.mp row
    exact ⟨List.ne_nil_of_length_pos lower, members⟩
  · rintro ⟨some, members⟩
    refine ⟨text.length, List.length_pos_of_ne_nil some, ?_, times_chars.mpr ⟨rfl, members⟩⟩
    intro bound given
    cases given

/-- The set of one character holds this character. -/
theorem contains_single {c d : Char} : (CharSet.single c).contains d = true ↔ c = d := by
  rw [CharSet.single, CharSet.contains, Bool.and_eq_true, decide_eq_true_eq, decide_eq_true_eq,
    ← le_antisymm_iff, Char.toNat_inj]

/-- Characters of a set up to a given character, and what comes after it. -/
theorem repeated_single_seq_iff {c : Char} :
    (repeated 1 none (chars set)).meaning.seq ((chars (.single c)).meaning.seq A) before text rest ↔
      ∃ first others, text = first ++ c :: others ∧ set.Fills first ∧ A (some c) others rest := by
  constructor
  · rintro ⟨first, _, rfl, first_h, _, others, rfl, ⟨d, same, rfl⟩, h⟩
    obtain rfl := contains_single.mp same
    exact ⟨first, others, rfl, meaning_repeated_chars.mp first_h, h⟩
  · rintro ⟨first, others, rfl, first_h, h⟩
    exact ⟨first, c :: others, rfl, meaning_repeated_chars.mpr first_h, [c], others, rfl,
      ⟨c, contains_single.mpr rfl, rfl⟩, h⟩

/-- A mail address as a pattern, whatever its characters are: text, an at sign, text, a point and text,
with nothing around them. -/
def mailShape (set : CharSet) : Pattern :=
  seqs
    [ .assertion .textStart
    , .repeated 1 none (.chars set)
    , .chars (.single '@')
    , .repeated 1 none (.chars set)
    , .chars (.single '.')
    , .repeated 1 none (.chars set)
    , .assertion .textEnd ]

/-- A text cut at an at sign and, behind that, at a point into three texts of characters of a set. -/
def CharSet.Cuts (set : CharSet) (text : List Char) : Prop :=
  ∃ user host domain, text = user ++ '@' :: (host ++ '.' :: domain) ∧
    set.Fills user ∧ set.Fills host ∧ set.Fills domain

/-- Something at the beginning of the whole text. -/
theorem textStart_seq_iff : (assertion .textStart).meaning.seq A before text rest ↔
    before = none ∧ A before text rest := by
  constructor
  · rintro ⟨_, text, rfl, ⟨rfl, start⟩, h⟩
    exact ⟨Option.isNone_iff_eq_none.mp start, h⟩
  · rintro ⟨rfl, h⟩
    exact ⟨[], text, rfl, ⟨rfl, rfl⟩, h⟩

/-- Characters of a set up to the end of the whole text. -/
theorem repeated_seq_textEnd_iff :
    (repeated 1 none (chars set)).meaning.seq (assertion .textEnd).meaning before text rest ↔
      rest = [] ∧ set.Fills text := by
  constructor
  · rintro ⟨text, _, rfl, text_h, rfl, finish⟩
    rw [List.append_nil]
    exact ⟨List.head?_eq_none_iff.mp (Option.isNone_iff_eq_none.mp finish),
      meaning_repeated_chars.mp text_h⟩
  · rintro ⟨rfl, text_h⟩
    exact ⟨text, [], (List.append_nil text).symm, meaning_repeated_chars.mpr text_h, rfl, rfl⟩

/-- The shape of mail addresses stands for whole texts that can be cut at the two signs. -/
theorem meaning_mailShape : (mailShape set).meaning before text rest ↔
    before = none ∧ rest = [] ∧ set.Cuts text := by
  change (assertion .textStart).meaning.seq ((repeated 1 none (chars set)).meaning.seq
    ((chars (.single '@')).meaning.seq ((repeated 1 none (chars set)).meaning.seq
      ((chars (.single '.')).meaning.seq ((repeated 1 none (chars set)).meaning.seq
        (assertion .textEnd).meaning))))) before text rest ↔ _
  rw [textStart_seq_iff, repeated_single_seq_iff]
  simp only [repeated_single_seq_iff, repeated_seq_textEnd_iff]
  refine and_congr_right fun _ => ?_
  constructor
  · rintro ⟨user, _, rfl, user_h, host, domain, rfl, host_h, rfl, domain_h⟩
    exact ⟨rfl, user, host, domain, rfl, user_h, host_h, domain_h⟩
  · rintro ⟨rfl, user, host, domain, rfl, user_h, host_h, domain_h⟩
    exact ⟨user, _, rfl, user_h, host, domain, rfl, host_h, rfl, domain_h⟩

/-- A search for a mail address is a question about the whole text. -/
theorem isFoundIn_mailShape (set : CharSet) (s : String) :
    (mailShape set).isFoundIn s = true ↔ set.Cuts s.toList := by
  have bounded : (mailShape set).Bounded := by simp [mailShape, seqs, Bounded]
  rw [isFoundIn_iff bounded]
  simp only [meaning_mailShape]
  constructor
  · rintro ⟨past, text, rest, split, start, rfl, cut⟩
    obtain rfl := List.getLast?_eq_none_iff.mp start
    rw [split, List.nil_append, List.append_nil]
    exact cut
  · intro cut
    exact ⟨[], s.toList, [], (List.append_nil _).symm, rfl, rfl, cut⟩

end Pattern

/-! ## The texts -/

/-- What counts as a mail address: no blanks, one at sign, something before it, and after it a point that
is neither the first nor the last character. -/
structure IsMailAddress (text : List Char) : Prop where
  /-- There are no blanks. -/
  noBlank : ∀ c ∈ text, Text.isBlank c = false
  /-- There is one at sign. -/
  oneSign : text.count '@' = 1
  /-- Something is before the sign, and a point is within what is after it. -/
  parts : ∃ user domain, text = user ++ '@' :: domain ∧ user ≠ [] ∧
    ∃ i, 0 < i ∧ i + 1 < domain.length ∧ domain[i]? = some '.'

/-- An inner character of a text cuts it into two texts that are not empty. -/
theorem exists_inner_iff {c : Char} {text : List Char} :
    (∃ i, 0 < i ∧ i + 1 < text.length ∧ text[i]? = some c) ↔
      ∃ before after, text = before ++ c :: after ∧ before ≠ [] ∧ after ≠ [] := by
  constructor
  · rintro ⟨i, first, last, found⟩
    obtain ⟨inside, found⟩ := List.getElem?_eq_some_iff.mp found
    refine ⟨text.take i, text.drop (i + 1), ?_, ?_, ?_⟩
    · rw [← found, List.getElem_cons_drop, List.take_append_drop]
    · exact List.ne_nil_of_length_pos (by rw [List.length_take]; omega)
    · exact List.ne_nil_of_length_pos (by rw [List.length_drop]; omega)
  · rintro ⟨before, after, rfl, some_before, some_after⟩
    refine ⟨before.length, List.length_pos_of_ne_nil some_before, ?_, by simp⟩
    have := List.length_pos_of_ne_nil some_after
    simpa using this

/-- A character occurs once if it occurs neither before nor after this place. -/
theorem count_append_cons_eq_one {c : Char} {before after : List Char} :
    (before ++ c :: after).count c = 1 ↔ c ∉ before ∧ c ∉ after := by
  rw [List.count_append, List.count_cons_self, ← List.count_eq_zero, ← List.count_eq_zero]
  omega

/-- A text is a mail address exactly if it can be cut as the pattern says, provided that the pattern has the
right characters. -/
theorem isMailAddress_iff_cuts {set : Pattern.CharSet} {text : List Char}
    (chars : ∀ c, set.contains c = true ↔ Text.isBlank c = false ∧ c ≠ '@') :
    IsMailAddress text ↔ set.Cuts text := by
  simp only [Pattern.CharSet.Cuts, Pattern.CharSet.Fills, chars]
  constructor
  · rintro ⟨noBlank, oneSign, user, domain, rfl, some_user, point⟩
    obtain ⟨host, domain, rfl, some_host, some_domain⟩ := exists_inner_iff.mp point
    obtain ⟨noSign_user, noSign⟩ := count_append_cons_eq_one.mp oneSign
    have inside {part : List Char} (sub : part ⊆ user ++ '@' :: (host ++ '.' :: domain))
        (noSign : '@' ∉ part) : ∀ c ∈ part, Text.isBlank c = false ∧ c ≠ '@' :=
      fun c member => ⟨noBlank c (sub member), ne_of_mem_of_not_mem member noSign⟩
    refine ⟨user, host, domain, rfl, ⟨some_user, inside ?_ noSign_user⟩,
      ⟨some_host, inside ?_ ?_⟩, some_domain, inside ?_ ?_⟩
    all_goals grind
  · rintro ⟨user, host, domain, rfl, ⟨some_user, user_h⟩, ⟨some_host, host_h⟩, some_domain, domain_h⟩
    refine ⟨?_, ?_, user, _, rfl, some_user, ?_⟩
    · have sign : Text.isBlank '@' = false := rfl
      have point : Text.isBlank '.' = false := rfl
      grind
    · rw [count_append_cons_eq_one]
      grind
    · exact exists_inner_iff.mpr ⟨host, domain, rfl, some_host, some_domain⟩

/-! ## The rule -/

/-- The characters that a mail address has around its signs: any but blanks and the at sign. -/
def mailChar : Pattern.CharSet :=
  .complement (.union (.union .nothing (.single '@')) .blank)

/-- The characters around the signs are neither blanks nor at signs. -/
theorem contains_mailChar (c : Char) :
    mailChar.contains c = true ↔ Text.isBlank c = false ∧ c ≠ '@' := by
  have members : mailChar.contains c = !((Pattern.CharSet.single '@').contains c || Text.isBlank c) := rfl
  rw [members, Bool.not_eq_true', Bool.or_eq_false_iff, ← Bool.not_eq_true, Pattern.contains_single,
    and_comm, ne_comm]

/-- The pattern of mail addresses is read as their shape. -/
theorem Format.mailPattern_read? :
    Pattern.read? Format.mailPattern = some (Pattern.mailShape mailChar) :=
  rfl

/-- The format `email` decides as the search for its pattern does, with any engine. -/
theorem Keyword.email_decides_isFound [Engines] {isFound : String → Bool}
    (search : Engines.search Format.mailPattern = .ok isFound) (s : String) :
    Keyword.format.Decides (.string "email") (.string s) (isFound s = true) := by
  have made : Keyword.format.constraint (.string "email") = .ok (.format "email" (.email isFound)) := by
    simp [Keyword.constraint, Keyword.stringParam, Except.bind, Keyword.havingFormat, Format.ofName,
      search, Except.map]
  rw [Keyword.decides_iff made]
  exact Iff.rfl

/-- **Mail addresses are accepted, and nothing else.** The rule `format`, made with the parameter `email` in
any schema, lets a string through if it is a mail address, and otherwise refuses it. -/
theorem format_email_decides (s : String) :
    Keyword.format.Decides (.string "email") (.string s) (IsMailAddress s.toList) := by
  have search : Engines.search Format.mailPattern = .ok (Pattern.mailShape mailChar).isFoundIn := by
    simp only [Engines.search, Format.mailPattern_read?]
  rw [isMailAddress_iff_cuts contains_mailChar, ← Pattern.isFoundIn_mailShape]
  exact Keyword.email_decides_isFound search s

end Intake
