import Intake.Pattern.Escape

/-!
# Bracketed classes

The sets of characters in brackets: characters, ranges, classes by name, nested brackets, and the
set operations between them. The reader keeps a stack of the brackets that are open.
-/

set_option autoImplicit false

namespace Intake.Pattern

/-- An operation between two sets. -/
inductive SetOperation
  | intersection
  | difference
  | symmetricDifference

/-- The result of an operation. -/
def SetOperation.apply : SetOperation → CharSet → CharSet → CharSet
  | .intersection => .intersection
  | .difference => .difference
  | .symmetricDifference => .symmetricDifference

/-- A bracket that is open. -/
structure OpenClass where
  /-- Whether the class is that of all other characters. -/
  negated : Bool
  /-- The characters since the last operation. -/
  set : CharSet
  /-- An operation that waits for its second set. -/
  pending : Option (SetOperation × CharSet) := none

namespace OpenClass

/-- Adds characters. -/
def add (bracket : OpenClass) (set : CharSet) : OpenClass :=
  { bracket with set := .union bracket.set set }

/-- The characters so far, the waiting operation applied. -/
def combined (options : Options) (bracket : OpenClass) : CharSet :=
  match bracket.pending with
  | none => bracket.set
  | some (operation, first) => operation.apply (options.fold first) (options.fold bracket.set)

/-- Begins the second set of an operation. -/
def operate (options : Options) (bracket : OpenClass) (operation : SetOperation) : OpenClass :=
  { bracket with set := .nothing, pending := some (operation, combined options bracket) }

/-- The class when its bracket closes. Without the characters of all scripts no class may be that
of all others. -/
def close? (options : Options) (bracket : OpenClass) : Option CharSet :=
  let set := options.fold (combined options bracket)
  if bracket.negated then (if options.unicode then some (.complement set) else none) else some set

end OpenClass

/-- The characters of a class of ASCII by its name. -/
def asciiClass? (name : String) : Option CharSet :=
  match name with
  | "alnum" => some (.unions [.range 48 57, .range 65 90, .range 97 122])
  | "alpha" => some (.union (.range 65 90) (.range 97 122))
  | "ascii" => some .ascii
  | "blank" => some (.union (.single '\t') (.single ' '))
  | "cntrl" => some (.union (.range 0 31) (.range 127 127))
  | "digit" => some (.range 48 57)
  | "graph" => some (.range 33 126)
  | "lower" => some (.range 97 122)
  | "print" => some (.range 32 126)
  | "punct" => some (.unions [.range 33 47, .range 58 64, .range 91 96, .range 123 126])
  | "space" => some (.union (.range 9 13) (.single ' '))
  | "upper" => some (.range 65 90)
  | "word" => some (.unions [.range 48 57, .range 65 90, .single '_', .range 97 122])
  | "xdigit" => some (.unions [.range 48 57, .range 65 70, .range 97 102])
  | _ => none

/-- A class of ASCII by its name between colons, after the bracket before the first colon. Its negation is
no set unless classes hold the characters of all scripts. -/
def namedClass? (options : Options) (cs : List Char) : Option (Option CharSet × List Char) :=
  match cs with
  | ':' :: rest =>
    let (negated, rest) := match rest with
      | '^' :: rest => (true, rest)
      | _ => (false, rest)
    let name := rest.takeWhile (· != ':')
    match rest.drop name.length with
    | ':' :: ']' :: after =>
      (asciiClass? (String.ofList name)).map fun set =>
        (if !negated then some set else if options.unicode then some (options.outside set) else none,
          after)
    | _ => none
  | _ => none

/-- Whether an atom may stand within brackets: characters beyond ASCII only where classes hold the
characters of all scripts. -/
def Atom.fitsClass (options : Options) : Atom → Bool
  | .literal c => options.unicode || c.toNat < 128
  | _ => true

/-- One atom within brackets. -/
def classAtom? (options : Options) (cs : List Char) : Option (Atom × List Char) :=
  let read := match cs with
    | [] => none
    | '\\' :: rest => escape? options rest
    | c :: rest => some (.literal c, rest)
  read.filter fun (atom, _) => atom.fitsClass options

/-- Hyphens at the beginning of a class stand for themselves. -/
def leadingHyphens (options : Options) : Nat → List Char → Nat × List Char
  | 0, cs => (0, cs)
  | bound + 1, cs =>
    match cs with
    | '-' :: rest =>
      let (count, after) := leadingHyphens options bound (skip options rest)
      (count + 1, after)
    | _ => (0, cs)

/-- Opens a class after its bracket: a caret negates it, and hyphens and then a closing bracket that
come first stand for themselves. -/
def openClass? (options : Options) (cs : List Char) : Option (OpenClass × List Char) :=
  let (negated, cs) := match skip options cs with
    | '^' :: rest => (true, skip options rest)
    | cs => (false, cs)
  let (hyphens, cs) := leadingHyphens options cs.length cs
  if 0 < hyphens then some ({ negated, set := .single '-' }, cs)
  else match cs with
    | [] => none
    | ']' :: rest => some ({ negated, set := .single ']' }, skip options rest)
    | _ => some ({ negated, set := .nothing }, cs)

/-- A character, a class or a range within brackets. A hyphen before a closing bracket or another
hyphen makes no range. -/
def classItem? (options : Options) (cs : List Char) : Option (CharSet × List Char) := do
  let (first, cs) ← classAtom? options cs
  let cs := skip options cs
  let alone : Option (CharSet × List Char) :=
    match first with
    | .literal c => some (.single c, cs)
    | .set set => some (set, cs)
    | .assertion _ => none
  match cs with
  | [] => none
  | '-' :: rest =>
    match skip options rest with
    | ']' :: _ => alone
    | '-' :: _ => alone
    | rest => do
      let (last, cs) ← classAtom? options rest
      match first, last with
      | .literal low, .literal high =>
        if low.toNat ≤ high.toNat then some (.range low.toNat high.toNat, cs) else none
      | _, _ => none
  | _ => alone

/-- Reads the rest of a class up to its closing bracket, given the brackets around it. Gives the set,
the text after it, and how deep its brackets were nested. The number bounds the steps. -/
def classRest? (options : Options) : Nat → Nat → OpenClass → List OpenClass → List Char →
    Option (CharSet × Nat × List Char)
  | 0, _, _, _, _ => none
  | bound + 1, depth, current, outer, cs =>
    let depth := max depth (outer.length + 1)
    match skip options cs with
    | [] => none
    | '[' :: rest =>
      match namedClass? options rest with
      | some (some set, rest) => classRest? options bound depth (current.add set) outer rest
      | some (none, _) => none
      | none =>
        match openClass? options rest with
        | some (inner, rest) => classRest? options bound depth inner (current :: outer) rest
        | none => none
    | ']' :: rest =>
      match current.close? options with
      | none => none
      | some set =>
        match outer with
        | [] => some (set, depth, rest)
        | parent :: outer => classRest? options bound depth (parent.add set) outer rest
    | '&' :: '&' :: rest =>
      classRest? options bound depth (current.operate options .intersection) outer rest
    | '-' :: '-' :: rest =>
      classRest? options bound depth (current.operate options .difference) outer rest
    | '~' :: '~' :: rest =>
      classRest? options bound depth (current.operate options .symmetricDifference) outer rest
    | cs =>
      match classItem? options cs with
      | some (set, rest) => classRest? options bound depth (current.add set) outer rest
      | none => none

/-- Reads a class after its bracket. -/
def class? (options : Options) (cs : List Char) : Option (CharSet × Nat × List Char) :=
  match openClass? options cs with
  | some (first, rest) => classRest? options (rest.length + 1) 0 first [] rest
  | none => none

end Intake.Pattern
