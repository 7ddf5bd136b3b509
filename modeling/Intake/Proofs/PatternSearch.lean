import Intake.Pattern.Search
import Mathlib.Tactic

/-!
# What a search finds

A pattern stands for texts at places: what it stands for depends on the character before the text and on
the text after it, since assertions look at both (`Pattern.meaning`). A search finds a pattern in a text
exactly if the pattern stands for some part of the text where it is (`Pattern.isFoundIn_iff`).

The search keeps marks in the pattern. Marks stand for what is still missing from the matches in progress
(`Marked.resumed`), and the one thing to know of a step is what it does to this: after one more character,
what is missing is what followed that character in what was missing before, or in a match that begins with
it (`Marked.resumed_step`). For a repetition this needs that copies of the body which take no text can be
left out (`Meaning.star_cons`).
-/

set_option autoImplicit false

namespace Intake.Pattern

/-- The character before the place that a text leads to, given the one before the text. -/
def lastOr (before : Option Char) (text : List Char) : Option Char :=
  text.getLast?.or before

/-- The empty text leads nowhere. -/
@[simp] theorem lastOr_nil (before : Option Char) : lastOr before [] = before := rfl

/-- A text leads on from its first character. -/
@[simp] theorem lastOr_cons (before : Option Char) (c : Char) (text : List Char) :
    lastOr before (c :: text) = lastOr (some c) text := by
  cases text <;> simp [lastOr, List.getLast?_cons]

/-- Two texts in a row lead where the second one does from the end of the first one. -/
@[simp] theorem lastOr_append (before : Option Char) (text more : List Char) :
    lastOr before (text ++ more) = lastOr (lastOr before text) more := by
  induction text generalizing before with
  | nil => rfl
  | cons c text ih => rw [List.cons_append, lastOr_cons, lastOr_cons, ih]

/-! ## What patterns stand for -/

/-- The texts that something stands for, each between the character before it and the text after it. -/
abbrev Meaning := Option Char → List Char → List Char → Prop

namespace Meaning

variable {A B C D : Meaning} {before : Option Char} {text rest : List Char} {c : Char} {n : ℕ}

/-- What stands for the same texts at all places is the same. -/
theorem ext (h : ∀ before text rest, A before text rest ↔ B before text rest) : A = B :=
  funext fun before => funext fun text => funext fun rest => propext (h before text rest)

/-- Not even the empty text. -/
def nothing : Meaning := fun _ _ _ => False

/-- The empty text only. -/
def empty : Meaning := fun _ text _ => text = []

/-- One text after the other. -/
def seq (A B : Meaning) : Meaning := fun before text rest =>
  ∃ u v, text = u ++ v ∧ A before u (v ++ rest) ∧ B (lastOr before u) v rest

/-- So many texts in a row. -/
def times (A : Meaning) : ℕ → Meaning
  | 0 => empty
  | n + 1 => A.seq (A.times n)

/-- Texts in a row, so many at least and, possibly, so many at most. -/
def repeated (A : Meaning) (least : ℕ) (most : Option ℕ) : Meaning := fun before text rest =>
  ∃ n, least ≤ n ∧ (∀ bound, most = some bound → n ≤ bound) ∧ A.times n before text rest

/-- Any number of texts in a row. -/
def star (A : Meaning) : Meaning :=
  A.repeated 0 none

/-- What comes after a first character in the texts that have one. -/
def derivative (A : Meaning) (before : Option Char) (c : Char) : Meaning := fun _ text rest =>
  A before (c :: text) rest

/-- Two texts in a row are empty if both are. -/
theorem seq_nil : A.seq B before [] rest ↔ A before [] rest ∧ B before [] rest := by
  simp [seq]

/-- The first text begins with the first character, or it is empty and the second one does. -/
theorem seq_cons : A.seq B before (c :: text) rest ↔
    (A.derivative before c).seq B (some c) text rest ∨
      A before [] (c :: (text ++ rest)) ∧ B before (c :: text) rest := by
  constructor
  · rintro ⟨u, v, split, first, second⟩
    cases u with
    | nil =>
      rw [List.nil_append] at split
      subst split
      exact Or.inr ⟨first, second⟩
    | cons d u =>
      obtain ⟨rfl, rfl⟩ := List.cons.inj split
      rw [lastOr_cons] at second
      exact Or.inl ⟨u, v, rfl, first, second⟩
  · rintro (⟨u, v, rfl, first, second⟩ | ⟨first, second⟩)
    · refine ⟨c :: u, v, rfl, first, ?_⟩
      rwa [lastOr_cons]
    · exact ⟨[], c :: text, rfl, first, second⟩

/-- What comes first in one of two ways comes first in one of two rows. -/
theorem seq_or {condition : Prop}
    (either : ∀ text rest, A before text rest ↔ B before text rest ∨ condition ∧ C before text rest) :
    A.seq D before text rest ↔ B.seq D before text rest ∨ condition ∧ C.seq D before text rest := by
  simp only [seq, either]
  grind

/-- It does not matter which two of three are put in a row first. -/
theorem seq_assoc : (A.seq B).seq C = A.seq (B.seq C) := by
  apply ext
  intro before text rest
  constructor
  · rintro ⟨-, w, rfl, ⟨u, v, rfl, first, second⟩, third⟩
    refine ⟨u, v ++ w, List.append_assoc .., ?_, v, w, rfl, second, ?_⟩
    · rwa [List.append_assoc]
    · rwa [lastOr_append] at third
  · rintro ⟨u, -, rfl, first, v, w, rfl, second, third⟩
    refine ⟨u ++ v, w, (List.append_assoc ..).symm, ⟨u, v, rfl, ?_, second⟩, ?_⟩
    · rwa [List.append_assoc] at first
    · rwa [lastOr_append]

/-- After nothing comes nothing. -/
theorem nothing_seq : nothing.seq A = nothing := by
  apply ext
  simp [seq, nothing]

/-- The empty text before something adds nothing. -/
theorem empty_seq : empty.seq A = A := by
  apply ext
  simp [seq, empty]

/-- The empty text after something adds nothing. -/
theorem seq_empty : A.seq empty = A := by
  apply ext
  simp [seq, empty]

/-- One text in a row is that text. -/
theorem times_one (A : Meaning) : A.times 1 = A :=
  seq_empty

/-- A row is made of two shorter ones. -/
theorem times_add (A : Meaning) (m n : ℕ) : A.times (m + n) = (A.times m).seq (A.times n) := by
  induction m with
  | zero => rw [Nat.zero_add, times, empty_seq]
  | succ m ih => rw [Nat.succ_add, times, times, seq_assoc, ih]

/-- Any number of texts in a row are so many of them, for some number. -/
theorem star_iff : A.star before text rest ↔ ∃ n, A.times n before text rest := by
  simp [star, repeated]

/-- The empty text is a row of no texts. -/
theorem star_nil : A.star before [] rest :=
  star_iff.mpr ⟨0, rfl⟩

/-- **Copies that take no text can be left out**: the first text in a row that is not empty begins with the
first character. -/
theorem star_cons : A.star before (c :: text) rest ↔
    (A.derivative before c).seq A.star (some c) text rest := by
  constructor
  · intro row
    obtain ⟨n, row⟩ := star_iff.mp row
    induction n with
    | zero => cases row
    | succ n ih =>
      rcases seq_cons.mp row with ⟨u, v, split, first, others⟩ | ⟨-, others⟩
      · exact ⟨u, v, split, first, star_iff.mpr ⟨n, others⟩⟩
      · exact ih others
  · rintro ⟨u, v, rfl, first, others⟩
    obtain ⟨n, others⟩ := star_iff.mp others
    exact star_iff.mpr ⟨n + 1, c :: u, v, rfl, first, by rwa [lastOr_cons]⟩

/-- Once or more, where there is text: the same as any number of times. -/
theorem seq_star_cons : A.seq A.star before (c :: text) rest ↔ A.star before (c :: text) rest := by
  rw [seq_cons, star_cons]
  exact or_iff_left_of_imp And.right

/-- Copies before a repetition add to its bounds. -/
theorem times_seq_repeated (A : Meaning) (count least : ℕ) (most : Option ℕ) :
    (A.times count).seq (A.repeated least most) = A.repeated (count + least) (most.map (count + ·)) := by
  apply ext
  intro before text rest
  constructor
  · rintro ⟨u, v, split, first, n, lower, upper, others⟩
    refine ⟨count + n, Nat.add_le_add_left lower count, ?_, ?_⟩
    · intro bound found
      obtain ⟨bound, given, rfl⟩ := Option.map_eq_some_iff.mp found
      exact Nat.add_le_add_left (upper bound given) count
    · rw [times_add]
      exact ⟨u, v, split, first, others⟩
  · rintro ⟨n, lower, upper, row⟩
    obtain ⟨n, rfl⟩ := Nat.exists_eq_add_of_le (Nat.le_of_add_right_le lower)
    rw [times_add] at row
    obtain ⟨u, v, split, first, others⟩ := row
    refine ⟨u, v, split, first, n, Nat.le_of_add_le_add_left lower, ?_, others⟩
    intro bound given
    exact Nat.le_of_add_le_add_left (upper (count + bound) (Option.map_eq_some_iff.mpr ⟨bound, given, rfl⟩))

/-- A repetition that may be left out is left out or has one copy at least. -/
theorem repeated_zero {most : Option ℕ} :
    A.repeated 0 most before text rest ↔ text = [] ∨ A.repeated 1 most before text rest := by
  constructor
  · rintro ⟨n, -, upper, row⟩
    cases n with
    | zero => exact Or.inl row
    | succ n => exact Or.inr ⟨n + 1, Nat.le_add_left 1 n, upper, row⟩
  · rintro (none | ⟨n, -, upper, row⟩)
    · exact ⟨0, le_rfl, fun _ _ => Nat.zero_le _, none⟩
    · exact ⟨n, n.zero_le, upper, row⟩

/-- Rows of empty texts are empty. -/
theorem times_eq_nil (silent : ∀ before text rest, A before text rest → text = [])
    (row : A.times n before text rest) : text = [] := by
  induction n generalizing before text with
  | zero => exact row
  | succ n ih =>
    obtain ⟨u, v, rfl, first, others⟩ := row
    rw [silent _ _ _ first, ih others]
    rfl

/-- Rows of empty texts, however many, are empty. -/
theorem repeated_eq_nil (silent : ∀ before text rest, A before text rest → text = []) {least : ℕ}
    {most : Option ℕ} (row : A.repeated least most before text rest) : text = [] :=
  have ⟨_, _, _, row⟩ := row
  times_eq_nil silent row

/-- A row of empty texts at a place is as good as one of them. -/
theorem times_nil_iff : A.times n before [] rest ↔ n = 0 ∨ A before [] rest := by
  induction n with
  | zero => simp [times, empty]
  | succ n ih =>
    simp only [times, seq_nil, ih, Nat.succ_ne_zero, false_or]
    exact and_iff_left_of_imp Or.inr

end Meaning

/-! ## Patterns -/

open Meaning

/-- The texts that a pattern stands for. -/
def meaning : Pattern → Meaning
  | .empty => Meaning.empty
  | .chars set => fun _ text _ => ∃ c, set.contains c = true ∧ text = [c]
  | .assertion condition => fun before text rest =>
    text = [] ∧ condition.holds ⟨before, rest.head?⟩ = true
  | .seq first second => first.meaning.seq second.meaning
  | .alt first second => fun before text rest =>
    first.meaning before text rest ∨ second.meaning before text rest
  | .repeated least most body => body.meaning.repeated least most

/-- In no repetition does the least number of copies exceed the greatest. -/
def Bounded : Pattern → Prop
  | .seq first second => first.Bounded ∧ second.Bounded
  | .alt first second => first.Bounded ∧ second.Bounded
  | .repeated least most body => (∀ bound, most = some bound → least ≤ bound) ∧ body.Bounded
  | _ => True

/-- A pattern that does not consume stands for the empty text only. -/
theorem eq_nil_of_meaning {pattern : Pattern} (silent : pattern.consumes = false)
    {before : Option Char} {text rest : List Char} (h : pattern.meaning before text rest) :
    text = [] := by
  induction pattern generalizing before text rest with
  | empty => exact h
  | chars set => cases silent
  | assertion condition => exact h.1
  | seq first second ih₁ ih₂ =>
    obtain ⟨silent₁, silent₂⟩ := Bool.or_eq_false_iff.mp silent
    obtain ⟨u, v, rfl, h₁, h₂⟩ := h
    rw [ih₁ silent₁ h₁, ih₂ silent₂ h₂]
    rfl
  | alt first second ih₁ ih₂ =>
    obtain ⟨silent₁, silent₂⟩ := Bool.or_eq_false_iff.mp silent
    exact h.elim (ih₁ silent₁) (ih₂ silent₂)
  | repeated least most body ih =>
    obtain ⟨n, -, upper, row⟩ := h
    rcases Bool.and_eq_false_iff.mp silent with none | silent
    · have zero : n = 0 := Nat.le_zero.mp (upper 0 (by simpa using none))
      rw [zero] at row
      exact row
    · exact times_eq_nil (fun _ _ _ => ih silent) row

/-! ## Marked patterns -/

namespace Marked

/-- The texts that a pattern stands for, whatever its marks are. -/
def meaning : Marked → Meaning
  | .empty => Meaning.empty
  | .chars set _ => fun _ text _ => ∃ c, set.contains c = true ∧ text = [c]
  | .assertion condition => fun before text rest =>
    text = [] ∧ condition.holds ⟨before, rest.head?⟩ = true
  | .seq first second => first.meaning.seq second.meaning
  | .alt first second => fun before text rest =>
    first.meaning before text rest ∨ second.meaning before text rest
  | .plus body => body.meaning.seq body.meaning.star

/-- What is missing from the matches in progress: the texts that lead from a mark to the end of the
pattern. -/
def resumed : Marked → Meaning
  | .empty => nothing
  | .chars _ marked => fun _ text _ => marked = true ∧ text = []
  | .assertion _ => nothing
  | .seq first second => fun before text rest =>
    first.resumed.seq second.meaning before text rest ∨ second.resumed before text rest
  | .alt first second => fun before text rest =>
    first.resumed before text rest ∨ second.resumed before text rest
  | .plus body => body.resumed.seq body.meaning.star

variable {before : Option Char} {text rest : List Char} {c : Char}

/-- **What ends at a place**: whether the pattern stands for the empty text there, and whether nothing is
missing from a match in progress. -/
theorem ends_iff (marked : Marked) (before : Option Char) (rest : List Char) :
    ((ends ⟨before, rest.head?⟩ marked).1 = true ↔ marked.meaning before [] rest) ∧
      ((ends ⟨before, rest.head?⟩ marked).2 = true ↔ marked.resumed before [] rest) := by
  induction marked with
  | empty => simp [ends, meaning, resumed, Meaning.empty, nothing]
  | chars set marked => simp [ends, meaning, resumed]
  | assertion condition => simp [ends, meaning, resumed, nothing]
  | seq first second ih₁ ih₂ =>
    simp only [ends, meaning, resumed, seq_nil, Bool.and_eq_true, Bool.or_eq_true, ih₁, ih₂, true_and]
    exact or_comm
  | alt first second ih₁ ih₂ =>
    simp only [ends, meaning, resumed, Bool.or_eq_true, ih₁, ih₂, and_self]
  | plus body ih =>
    simp only [ends, meaning, resumed, seq_nil, ih, star_nil, and_true, and_self]

/-- A step moves marks and nothing else. -/
theorem meaning_step (marked : Marked) (place : Place) (c : Char) (begins : Bool) :
    (step place c begins marked).meaning = marked.meaning := by
  induction marked generalizing begins with
  | empty => rfl
  | chars set marked => rfl
  | assertion condition => rfl
  | seq first second ih₁ ih₂ => simp only [step, meaning, ih₁, ih₂]
  | alt first second ih₁ ih₂ => simp only [step, meaning, ih₁, ih₂]
  | plus body ih => simp only [step, meaning, ih]

/-- **One step**: after a character, what is missing is what followed it before, in a match in progress or,
if a match may begin with it, in the pattern itself. -/
theorem resumed_step (marked : Marked) (begins : Bool) :
    (step ⟨before, some c⟩ c begins marked).resumed (some c) text rest ↔
      marked.resumed before (c :: text) rest ∨
        begins = true ∧ marked.meaning before (c :: text) rest := by
  have ends_at (marked : Marked) (text rest : List Char) :=
    marked.ends_iff before (c :: (text ++ rest))
  simp only [List.head?_cons] at ends_at
  induction marked generalizing begins text rest with
  | empty => simp [step, resumed, meaning, Meaning.empty, nothing]
  | chars set marked => simp [step, resumed, meaning, and_assoc]
  | assertion condition => simp [step, resumed, meaning, nothing]
  | seq first second ih₁ ih₂ =>
    have first' : (step ⟨before, some c⟩ c begins first).resumed.seq second.meaning (some c) text rest ↔
        (first.resumed.derivative before c).seq second.meaning (some c) text rest ∨
          begins = true ∧ (first.meaning.derivative before c).seq second.meaning (some c) text rest :=
      seq_or fun _ _ => ih₁ begins
    obtain ⟨empty, ended⟩ := ends_at first text rest
    simp only [step, resumed, meaning, seq_cons, meaning_step, ih₂, first', Bool.or_eq_true,
      Bool.and_eq_true, empty, ended]
    grind
  | alt first second ih₁ ih₂ =>
    simp only [step, resumed, meaning, ih₁, ih₂]
    grind
  | plus body ih =>
    obtain ⟨-, ended⟩ := ends_at body text rest
    have body' (copies : Bool) :
        (step ⟨before, some c⟩ c copies body).resumed.seq body.meaning.star (some c) text rest ↔
          (body.resumed.derivative before c).seq body.meaning.star (some c) text rest ∨
            copies = true ∧ body.meaning.star before (c :: text) rest := by
      rw [star_cons]
      exact seq_or fun _ _ => ih copies
    simp only [step, resumed, meaning, meaning_step, body', Bool.or_eq_true, ended]
    rw [seq_star_cons, seq_cons]
    grind

/-- Where a text with a first character is split, it is split before this character or after it. -/
theorem exists_split_cons {p : List Char → List Char → Prop} {cs : List Char} :
    (∃ u v, c :: cs = u ++ v ∧ p u v) ↔ p [] (c :: cs) ∨ ∃ u v, cs = u ++ v ∧ p (c :: u) v := by
  constructor
  · rintro ⟨u, v, split, holds⟩
    rcases List.cons_eq_append_iff.mp split with ⟨rfl, rfl⟩ | ⟨u, rfl, rfl⟩
    · exact Or.inl holds
    · exact Or.inr ⟨u, v, rfl, holds⟩
  · rintro (here | ⟨u, v, rfl, later⟩)
    · exact ⟨[], c :: cs, rfl, here⟩
    · exact ⟨c :: u, v, rfl, later⟩

/-- **A search** completes a match in progress or finds a match that begins later. -/
theorem search_iff (marked : Marked) (before : Option Char) (cs : List Char) :
    search marked before cs = true ↔
      (∃ text rest, cs = text ++ rest ∧ marked.resumed before text rest) ∨
        ∃ past others, cs = past ++ others ∧ ∃ text rest, others = text ++ rest ∧
          marked.meaning (lastOr before past) text rest := by
  induction cs generalizing marked before with
  | nil =>
    obtain ⟨empty, ended⟩ := marked.ends_iff before []
    simp [search, ← empty, ← ended, or_comm]
  | cons c cs ih =>
    obtain ⟨empty, ended⟩ := marked.ends_iff before (c :: cs)
    rw [List.head?_cons] at empty ended
    simp only [search, Bool.or_eq_true, empty, ended, ih, resumed_step, meaning_step, true_and,
      exists_split_cons, lastOr_nil, lastOr_cons, and_or_left, exists_or]
    apply Iff.of_eq
    ac_rfl

/-! ## Repetitions -/

section Repetitions

variable {body last : Marked} {count least : ℕ} {most : Option ℕ}

/-- Copies before a pattern stand for a row of so many texts and one of the pattern. -/
theorem meaning_copiesThen :
    (copiesThen body count last).meaning = (body.meaning.times count).seq last.meaning := by
  induction count with
  | zero => exact empty_seq.symm
  | succ count ih => rw [copiesThen, meaning, ih, times, seq_assoc]

/-- A pattern so many times at most stands for rows of so many texts at most. -/
theorem meaning_upTo : (upTo body count).meaning = body.meaning.repeated 0 (some count) := by
  induction count with
  | zero =>
    apply Meaning.ext
    simp [upTo, meaning, Meaning.repeated, times]
  | succ count ih =>
    have once := times_seq_repeated body.meaning 1 0 (some count)
    rw [times_one, Nat.add_zero, Option.map_some, Nat.add_comm 1 count] at once
    apply Meaning.ext
    intro before text rest
    rw [repeated_zero, ← once, ← ih]
    rfl

/-- A pattern once or more stands for rows of one text at least. -/
theorem meaning_plus : (plus body).meaning = body.meaning.repeated 1 none := by
  have one := times_seq_repeated body.meaning 1 0 none
  rwa [times_one] at one

/-- A repetition with a body that consumes stands for as many copies as it says. -/
theorem meaning_repeated_consuming (bounded : ∀ bound, most = some bound → least ≤ bound) :
    (Marked.repeated least most true body).meaning = body.meaning.repeated least most := by
  cases most with
  | some most =>
    have exceeds : least + (most - least) = most := Nat.add_sub_of_le (bounded most rfl)
    rw [Marked.repeated, if_pos rfl, meaning_copiesThen, meaning_upTo, times_seq_repeated,
      Nat.add_zero, Option.map_some, exceeds]
  | none =>
    cases least with
    | zero =>
      apply Meaning.ext
      intro before text rest
      rw [repeated_zero, ← meaning_plus]
      rfl
    | succ before =>
      rw [Marked.repeated, if_pos rfl, meaning_copiesThen, meaning_plus, times_seq_repeated,
        Option.map_none]

/-- A body that takes no text is needed once at most. -/
theorem meaning_repeated_silent (bounded : ∀ bound, most = some bound → least ≤ bound)
    (silent : ∀ before text rest, body.meaning before text rest → text = []) :
    (Marked.repeated least most false body).meaning = body.meaning.repeated least most := by
  apply Meaning.ext
  intro before text rest
  rw [Marked.repeated.eq_def, if_neg Bool.false_ne_true]
  split_ifs with never optional
  · subst never
    obtain rfl : least = 0 := Nat.le_zero.mp (bounded 0 rfl)
    exact ⟨fun none => repeated_zero.mpr (Or.inl none), repeated_eq_nil silent⟩
  · subst optional
    constructor
    · rintro (none | once)
      · exact repeated_zero.mpr (Or.inl none)
      · exact repeated_zero.mpr (Or.inl (silent _ _ _ once))
    · exact fun row => Or.inl (repeated_eq_nil silent row)
  · constructor
    · intro once
      obtain rfl := silent _ _ _ once
      exact ⟨least, le_rfl, bounded, times_nil_iff.mpr (Or.inr once)⟩
    · intro row
      obtain rfl := repeated_eq_nil silent row
      obtain ⟨n, lower, -, row⟩ := row
      have some : n ≠ 0 := Nat.ne_of_gt (Nat.lt_of_lt_of_le (Nat.pos_of_ne_zero optional) lower)
      exact (times_nil_iff.mp row).resolve_left some

end Repetitions

/-! ## Patterns without marks -/

section Unmarked

variable {first second body last : Marked} {count least : ℕ} {most : Option ℕ} {consuming : Bool}

/-- Nothing is missing in a row of two patterns if nothing is missing in either. -/
theorem resumed_seq (h₁ : first.resumed = nothing) (h₂ : second.resumed = nothing) :
    (seq first second).resumed = nothing := by
  simp only [resumed, h₁, h₂, nothing_seq, nothing, or_false]
  rfl

/-- Nothing is missing in a choice of two patterns if nothing is missing in either. -/
theorem resumed_alt (h₁ : first.resumed = nothing) (h₂ : second.resumed = nothing) :
    (alt first second).resumed = nothing := by
  simp only [resumed, h₁, h₂, nothing, or_false]
  rfl

/-- Nothing is missing in a pattern once or more if nothing is missing in its body. -/
theorem resumed_plus (h : body.resumed = nothing) : (plus body).resumed = nothing := by
  rw [resumed, h, nothing_seq]

/-- Nothing is missing in copies before a pattern if nothing is missing in what is copied and in the
pattern. -/
theorem resumed_copiesThen (h : body.resumed = nothing) (h' : last.resumed = nothing) :
    (copiesThen body count last).resumed = nothing := by
  induction count with
  | zero => exact h'
  | succ count ih => exact resumed_seq h ih

/-- Nothing is missing in a bounded repetition if nothing is missing in its body. -/
theorem resumed_upTo (h : body.resumed = nothing) : (upTo body count).resumed = nothing := by
  induction count with
  | zero => rfl
  | succ count ih => exact resumed_alt rfl (resumed_seq h ih)

/-- Nothing is missing in a repetition if nothing is missing in its body. -/
theorem resumed_repeated (h : body.resumed = nothing) :
    (Marked.repeated least most consuming body).resumed = nothing := by
  rw [Marked.repeated.eq_def]
  split_ifs
  · cases most with
    | some most => exact resumed_copiesThen h (resumed_upTo h)
    | none =>
      cases least with
      | zero => exact resumed_alt rfl (resumed_plus h)
      | succ before => exact resumed_copiesThen h (resumed_plus h)
  · rfl
  · exact resumed_alt rfl h
  · exact h

end Unmarked

end Marked

/-! ## Searches -/

/-- A pattern whose bounds are in order stands for the same texts without marks. -/
theorem meaning_unmarked {pattern : Pattern} (bounded : pattern.Bounded) :
    pattern.unmarked.meaning = pattern.meaning := by
  induction pattern with
  | empty => rfl
  | chars set => rfl
  | assertion condition => rfl
  | seq first second ih₁ ih₂ => rw [unmarked, Marked.meaning, meaning, ih₁ bounded.1, ih₂ bounded.2]
  | alt first second ih₁ ih₂ => rw [unmarked, Marked.meaning, meaning, ih₁ bounded.1, ih₂ bounded.2]
  | repeated least most body ih =>
    rw [unmarked, meaning, ← ih bounded.2]
    cases consuming : body.consumes with
    | true => exact Marked.meaning_repeated_consuming bounded.1
    | false =>
      apply Marked.meaning_repeated_silent bounded.1
      rw [ih bounded.2]
      exact fun _ _ _ => eq_nil_of_meaning consuming

/-- No match is in progress in a pattern without marks. -/
theorem resumed_unmarked (pattern : Pattern) : pattern.unmarked.resumed = nothing := by
  induction pattern with
  | empty => rfl
  | chars set =>
    apply Meaning.ext
    simp [unmarked, Marked.resumed, nothing]
  | assertion condition => rfl
  | seq first second ih₁ ih₂ => exact Marked.resumed_seq ih₁ ih₂
  | alt first second ih₁ ih₂ => exact Marked.resumed_alt ih₁ ih₂
  | repeated least most body ih => exact Marked.resumed_repeated ih

/-- **A search finds a pattern exactly if the pattern stands for a part of the text**, at the place where
this part is. -/
theorem isFoundIn_iff {pattern : Pattern} (bounded : pattern.Bounded) (s : String) :
    pattern.isFoundIn s = true ↔ ∃ past text rest, s.toList = past ++ (text ++ rest) ∧
      pattern.meaning past.getLast? text rest := by
  have place (past : List Char) : lastOr none past = past.getLast? := by simp [lastOr]
  rw [isFoundIn, Marked.search_iff]
  simp only [resumed_unmarked, nothing, and_false, exists_false, false_or, meaning_unmarked bounded, place]
  grind

end Intake.Pattern
