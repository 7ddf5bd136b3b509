import Intake.Pattern.CharSet

/-!
# Search patterns

The tree of a search pattern, and the assertions that it may make about the place between two
characters of a text.
-/

set_option autoImplicit false

namespace Intake

namespace Pattern

/-- A place in a text: the character before it and the one after it. -/
structure Place where
  /-- The character before the place; none at the beginning of the text. -/
  before : Option Char
  /-- The character after the place; none at the end of the text. -/
  after : Option Char

/-- A condition on a place. -/
inductive Assertion
  /-- The beginning of the text. -/
  | textStart
  /-- The end of the text. -/
  | textEnd
  /-- The beginning of a line; lines end in a line feed. -/
  | lineStart
  /-- The end of a line. -/
  | lineEnd
  /-- The beginning of a line; lines end in a carriage return, a line feed, or both. -/
  | crlfStart
  /-- The end of such a line. -/
  | crlfEnd
  /-- The edge of a word of the given characters. -/
  | wordEdge (word : CharSet)
  /-- Not the edge of a word. -/
  | noWordEdge (word : CharSet)
  /-- The beginning of a word. -/
  | wordStart (word : CharSet)
  /-- The end of a word. -/
  | wordEnd (word : CharSet)
  /-- No word character comes before. -/
  | noWordBefore (word : CharSet)
  /-- No word character comes after. -/
  | noWordAfter (word : CharSet)

/-- Whether an optional character belongs to a set. -/
def CharSet.containsSome (set : CharSet) : Option Char → Bool
  | some c => set.contains c
  | none => false

/-- Whether the condition holds at a place. -/
def Assertion.holds (assertion : Assertion) (place : Place) : Bool :=
  match assertion with
  | .textStart => place.before.isNone
  | .textEnd => place.after.isNone
  | .lineStart => place.before.isNone || place.before == some '\n'
  | .lineEnd => place.after.isNone || place.after == some '\n'
  | .crlfStart =>
    place.before.isNone || place.before == some '\n'
      || (place.before == some '\r' && place.after != some '\n')
  | .crlfEnd =>
    place.after.isNone || place.after == some '\r'
      || (place.after == some '\n' && place.before != some '\r')
  | .wordEdge word => word.containsSome place.before != word.containsSome place.after
  | .noWordEdge word => word.containsSome place.before == word.containsSome place.after
  | .wordStart word => !word.containsSome place.before && word.containsSome place.after
  | .wordEnd word => word.containsSome place.before && !word.containsSome place.after
  | .noWordBefore word => !word.containsSome place.before
  | .noWordAfter word => !word.containsSome place.after

end Pattern

/-- A search pattern. -/
inductive Pattern
  /-- No text at all. -/
  | empty
  /-- One character of a set. -/
  | chars (set : Pattern.CharSet)
  /-- No text, at a place that meets a condition. -/
  | assertion (condition : Pattern.Assertion)
  /-- One pattern after the other. -/
  | seq (first second : Pattern)
  /-- Either of two patterns. -/
  | alt (first second : Pattern)
  /-- A pattern so many times at least and, possibly, so many at most. -/
  | repeated (least : Nat) (most : Option Nat) (body : Pattern)

namespace Pattern

/-- Patterns one after the other. -/
def seqs : List Pattern → Pattern
  | [] => .empty
  | [pattern] => pattern
  | pattern :: rest => .seq pattern (seqs rest)

/-- Any one of several patterns. -/
def alts : List Pattern → Pattern
  | [] => .empty
  | [pattern] => pattern
  | pattern :: rest => .alt pattern (alts rest)

/-- Whether the pattern can stand for more than the empty text. -/
def consumes : Pattern → Bool
  | .empty => false
  | .chars _ => true
  | .assertion _ => false
  | .seq first second => first.consumes || second.consumes
  | .alt first second => first.consumes || second.consumes
  | .repeated _ most body => most != some 0 && body.consumes

/-- The copies of its body that a repetition is made of: those that are always taken, and those that
may be left out. The last copy of an unbounded repetition is taken again and again. A body that stands
only for the empty text is needed once at most. -/
def copies (least : Nat) (most : Option Nat) (consuming : Bool) : Nat × Nat :=
  let always := if consuming then least else min least 1
  let optional := match most with
    | some most => most - least
    | none => 1 - least
  (always, if consuming then optional else min optional 1)

/-- About how many bytes an automaton for the pattern takes up. -/
def memory : Pattern → Nat
  | .empty => 32
  | .chars set => set.memory
  | .assertion _ => 32
  | .seq first second => first.memory + second.memory
  | .alt first second => 40 + first.memory + second.memory
  | .repeated least most body =>
    let (always, optional) := copies least most body.consumes
    always * body.memory + optional * (40 + body.memory)

/-- The largest automaton that a pattern may need, in bytes. -/
def maxMemory : Nat := 10 * 1024 * 1024

end Pattern

end Intake
