import Intake.Pattern.Basic

/-!
# Searching a text

Whether some part of a text matches a pattern. The search reads the text once and keeps, for each
character set of the pattern, a mark that says whether a match in progress has just taken a character
there. Reading one character moves the marks on: a set is marked next if it holds the character and a
match in progress could have reached it. The work for one character is bounded by the size of the
pattern, whatever the text.
-/

set_option autoImplicit false

namespace Intake.Pattern

/-- A pattern whose character sets carry marks. Repetition is that of once or more; all others are
made from it. -/
inductive Marked
  /-- No text at all. -/
  | empty
  /-- One character of a set, and whether a match in progress has just taken it. -/
  | chars (set : CharSet) (marked : Bool)
  /-- No text, at a place that meets a condition. -/
  | assertion (condition : Assertion)
  /-- One pattern after the other. -/
  | seq (first second : Marked)
  /-- Either of two patterns. -/
  | alt (first second : Marked)
  /-- A pattern once or more. -/
  | plus (body : Marked)

namespace Marked

/-- So many copies of a pattern, and another pattern after them. -/
def copiesThen (body : Marked) : Nat → Marked → Marked
  | 0, last => last
  | count + 1, last => .seq body (copiesThen body count last)

/-- A pattern so many times at most. -/
def upTo (body : Marked) : Nat → Marked
  | 0 => .empty
  | count + 1 => .alt .empty (.seq body (upTo body count))

/-- A pattern so many times at least and, possibly, so many at most. A pattern that stands only for
the empty text is needed once at most. -/
def repeated (least : Nat) (most : Option Nat) (consuming : Bool) (body : Marked) : Marked :=
  if consuming then
    match most with
    | some most => copiesThen body least (upTo body (most - least))
    | none =>
      match least with
      | 0 => .alt .empty (.plus body)
      | before + 1 => copiesThen body before (.plus body)
  else if most = some 0 then .empty
  else if least = 0 then .alt .empty body
  else body

end Marked

/-- The pattern without any mark. -/
def unmarked : Pattern → Marked
  | .empty => .empty
  | .chars set => .chars set false
  | .assertion condition => .assertion condition
  | .seq first second => .seq first.unmarked second.unmarked
  | .alt first second => .alt first.unmarked second.unmarked
  | .repeated least most body => Marked.repeated least most body.consumes body.unmarked

namespace Marked

/-- Two facts about a place: whether the pattern stands for the empty text there, and whether a match
in progress can end there. -/
def ends (place : Place) : Marked → Bool × Bool
  | .empty => (true, false)
  | .chars _ marked => (false, marked)
  | .assertion condition => (condition.holds place, false)
  | .seq first second =>
    let (firstEmpty, firstEnds) := ends place first
    let (secondEmpty, secondEnds) := ends place second
    (firstEmpty && secondEmpty, secondEnds || (firstEnds && secondEmpty))
  | .alt first second =>
    let (firstEmpty, firstEnds) := ends place first
    let (secondEmpty, secondEnds) := ends place second
    (firstEmpty || secondEmpty, firstEnds || secondEnds)
  | .plus body => ends place body

/-- The marks after one more character, read at a place. The Boolean says whether a match may begin
with it. -/
def step (place : Place) (c : Char) : Bool → Marked → Marked
  | _, .empty => .empty
  | begins, .chars set _ => .chars set (begins && set.contains c)
  | _, .assertion condition => .assertion condition
  | begins, .seq first second =>
    let (firstEmpty, firstEnds) := ends place first
    .seq (step place c begins first)
      (step place c (firstEnds || (begins && firstEmpty)) second)
  | begins, .alt first second =>
    .alt (step place c begins first) (step place c begins second)
  | begins, .plus body => .plus (step place c (begins || (ends place body).2) body)

/-- Whether a match ends at the place before the given text or later; matches may begin anywhere from
there on. -/
def search (marked : Marked) (before : Option Char) : List Char → Bool
  | [] =>
    let (isEmpty, isEnd) := ends ⟨before, none⟩ marked
    isEmpty || isEnd
  | c :: rest =>
    let place : Place := ⟨before, some c⟩
    let (isEmpty, isEnd) := ends place marked
    isEmpty || isEnd || search (step place c true marked) (some c) rest

end Marked

/-- Whether some part of the text matches the pattern. -/
def isFoundIn (pattern : Pattern) (s : String) : Bool :=
  pattern.unmarked.search none s.toList

end Intake.Pattern
