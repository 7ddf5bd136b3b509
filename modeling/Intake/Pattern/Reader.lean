import Intake.Pattern.Class
import Intake.Text.Digits

/-!
# Reading patterns

The pattern that a text denotes, or nothing if the text is no pattern, nests too deeply or would
need too much memory. The reader takes one part of the text at a time and keeps a stack of the
groups that are open. Look-around and references to groups are no part of the language.
-/

set_option autoImplicit false

namespace Intake.Pattern

/-- A part of a branch that has been read. -/
structure Item where
  /-- What the part stands for. -/
  pattern : Pattern
  /-- How deep it is nested. -/
  depth : Nat
  /-- Whether a repetition may follow it. -/
  repeatable : Bool := true

/-- What has been read of a group: the branches that are complete and the parts of the current one,
the last of each first. -/
structure Branches where
  /-- The complete branches. -/
  complete : List Item := []
  /-- The parts of the current branch. -/
  current : List Item := []

namespace Branches

/-- Adds a part. -/
def push (branches : Branches) (item : Item) : Branches :=
  { branches with current := item :: branches.current }

/-- The depth of a row of items: that of its only one, or one more than that of its deepest. -/
def depthOf (items : List Item) : Nat :=
  match items with
  | [] => 0
  | [item] => item.depth
  | items => (items.map Item.depth).foldl max 0 + 1

/-- The current branch as a whole. -/
def branch (branches : Branches) : Item :=
  { pattern := seqs (branches.current.reverse.map Item.pattern)
    depth := depthOf branches.current }

/-- Begins another branch. -/
def nextBranch (branches : Branches) : Branches :=
  { complete := branches.branch :: branches.complete }

/-- All branches as one pattern. -/
def whole (branches : Branches) : Item :=
  let all := branches.branch :: branches.complete
  { pattern := alts (all.reverse.map Item.pattern)
    depth := depthOf all }

end Branches

/-- Where the reading of a pattern stands. -/
structure Reading where
  /-- The options in force. -/
  options : Options := {}
  /-- What has been read of the innermost group. -/
  branches : Branches := {}
  /-- The groups around it, each with the options to return to. -/
  outer : List (Options × Branches) := []
  /-- The names of groups so far. -/
  names : List (List Char) := []

/-- How deep the parts of a pattern may nest. -/
def maxDepth : Nat := 250

/-- The largest number of copies that a repetition may ask for. -/
def maxCount : Nat := 0xFFFFFFFF

/-- A row of optional digits, blanks around it allowed: the number and the text after it. -/
def count? (options : Options) (cs : List Char) : Option (Nat × List Char) :=
  let cs := Text.trimStart cs
  let (ds, rest) := Text.spanDigits cs
  let n := Text.ofDigits ds
  if ds = [] ∨ maxCount < n then none else some (n, skip options (Text.trimStart rest))

/-- Drops the mark of a repetition that prefers fewer copies. -/
def dropLazyMark : List Char → List Char
  | '?' :: rest => rest
  | cs => cs

/-- The bounds of a counted repetition, after its brace. -/
def bounds? (options : Options) (cs : List Char) : Option ((Nat × Option Nat) × List Char) := do
  let (least, cs) ← count? options (skip options cs)
  match cs with
  | '}' :: rest => some ((least, some least), dropLazyMark (skip options rest))
  | ',' :: rest =>
    match skip options rest with
    | '}' :: rest => some ((least, none), dropLazyMark (skip options rest))
    | rest => do
      let (most, cs) ← count? options rest
      match cs with
      | '}' :: rest =>
        if least ≤ most then some ((least, some most), dropLazyMark (skip options rest)) else none
      | _ => none
  | _ => none

/-- Repeats the last part of the current branch. -/
def repeatLast? (reading : Reading) (least : Nat) (most : Option Nat) : Option Reading :=
  match reading.branches.current with
  | last :: before =>
    if last.repeatable then
      let item : Item :=
        { pattern := .repeated least most last.pattern, depth := last.depth + 1 }
      some { reading with branches := { reading.branches with current := item :: before } }
    else none
  | [] => none

/-- The pattern of an atom outside brackets. -/
def Atom.pattern (options : Options) : Atom → Pattern
  | .literal c => .chars (options.fold (.single c))
  | .set members => .chars (options.fold members)
  | .assertion condition => .assertion condition

/-- What the dot stands for. -/
def dotSet? (options : Options) : Option CharSet :=
  if !options.unicode then none
  else if options.dotAll then some .any
  else if options.crlf then some (.complement (.union (.single '\n') (.single '\r')))
  else some (.complement (.single '\n'))

/-- The assertion of a caret. -/
def caret (options : Options) : Assertion :=
  if options.multiLine then (if options.crlf then .crlfStart else .lineStart) else .textStart

/-- The assertion of a dollar sign. -/
def dollar (options : Options) : Assertion :=
  if options.multiLine then (if options.crlf then .crlfEnd else .lineEnd) else .textEnd

/-- Switches an option by its letter. -/
def Options.switch? (options : Options) (letter : Char) (on : Bool) : Option Options :=
  match letter with
  | 'i' => some { options with caseless := on }
  | 'm' => some { options with multiLine := on }
  | 's' => some { options with dotAll := on }
  | 'x' => some { options with verbose := on }
  | 'u' => some { options with unicode := on }
  | 'R' => some { options with crlf := on }
  | 'U' => some options
  | _ => none

/-- Reads the letters of options up to a colon or a parenthesis, and whether it was a colon. Letters
after a hyphen are switched off; none may occur twice. -/
def switches? (options : Options) (seen : List Char) (off hyphenLast : Bool) :
    List Char → Option (Options × Bool × List Char)
  | [] => none
  | c :: rest =>
    if c = ':' ∨ c = ')' then
      if hyphenLast ∨ (c = ')' ∧ seen = []) then none else some (options, c == ':', rest)
    else if c = '-' then
      if off then none else switches? options seen true true rest
    else if seen.contains c then none
    else match options.switch? c (!off) with
      | some options => switches? options (c :: seen) off false rest
      | none => none

/-- Whether the text is a name of a group. -/
def isGroupName (name : List Char) : Bool :=
  match name with
  | [] => false
  | c :: rest =>
    (c == '_' || Text.isLetter c)
      && rest.all fun c =>
        c == '_' || c == '.' || c == '[' || c == ']' || Text.isLetter c || Text.isDecimalDigit c

/-- Opens a group with the given options. -/
def Reading.openGroup (reading : Reading) (options : Options) : Reading :=
  { reading with
    options
    branches := {}
    outer := (reading.options, reading.branches) :: reading.outer }

/-- Opens a group with a name, after the bracket before the name. -/
def namedGroup? (reading : Reading) (cs : List Char) : Option (Reading × List Char) :=
  let name := cs.takeWhile (· != '>')
  match cs.drop name.length with
  | _ :: rest =>
    if isGroupName name ∧ !reading.names.contains name then
      some ({ reading.openGroup reading.options with names := name :: reading.names }, rest)
    else none
  | [] => none

/-- Opens a group after its parenthesis, or switches options for the rest of the group around. -/
def group? (reading : Reading) (cs : List Char) : Option (Reading × List Char) :=
  match skip reading.options cs with
  | '?' :: '=' :: _ => none
  | '?' :: '!' :: _ => none
  | '?' :: '<' :: '=' :: _ => none
  | '?' :: '<' :: '!' :: _ => none
  | '?' :: 'P' :: '<' :: rest => namedGroup? reading rest
  | '?' :: '<' :: rest => namedGroup? reading rest
  | '?' :: rest =>
    match switches? reading.options [] false false rest with
    | some (options, true, rest) => some (reading.openGroup options, rest)
    | some (options, false, rest) =>
      let item : Item := { pattern := .empty, depth := 0, repeatable := false }
      some ({ reading with options, branches := reading.branches.push item }, rest)
    | none => none
  | cs => some (reading.openGroup reading.options, cs)

/-- Closes the innermost group. -/
def closeGroup? (reading : Reading) : Option Reading :=
  match reading.outer with
  | (options, branches) :: outer =>
    let whole := reading.branches.whole
    some { reading with
      options
      branches := branches.push { whole with depth := whole.depth + 1 }
      outer }
  | [] => none

/-- Adds a part to the current branch. -/
def Reading.push (reading : Reading) (pattern : Pattern) (depth : Nat) : Reading :=
  { reading with branches := reading.branches.push { pattern, depth } }

/-- Reads one part of a pattern: its first character, and the text after that. -/
def part? (reading : Reading) (c : Char) (rest : List Char) : Option (Reading × List Char) :=
  let options := reading.options
  match c with
  | '(' => group? reading rest
  | ')' => (closeGroup? reading).map fun reading => (reading, rest)
  | '|' => some ({ reading with branches := reading.branches.nextBranch }, rest)
  | '[' =>
    (class? options rest).map fun (members, depth, rest) =>
      (reading.push (.chars members) depth, rest)
  | '?' => (repeatLast? reading 0 (some 1)).map fun reading => (reading, dropLazyMark rest)
  | '*' => (repeatLast? reading 0 none).map fun reading => (reading, dropLazyMark rest)
  | '+' => (repeatLast? reading 1 none).map fun reading => (reading, dropLazyMark rest)
  | '{' => do
    let ((least, most), rest) ← bounds? options rest
    let reading ← repeatLast? reading least most
    some (reading, rest)
  | '\\' =>
    (escape? options rest).map fun (atom, rest) => (reading.push (atom.pattern options) 0, rest)
  | '.' => (dotSet? options).map fun members => (reading.push (.chars members) 0, rest)
  | '^' => some (reading.push (.assertion (caret options)) 0, rest)
  | '$' => some (reading.push (.assertion (dollar options)) 0, rest)
  | c => some (reading.push ((Atom.literal c).pattern options) 0, rest)

/-- Reads all parts of a pattern. The number bounds how many. -/
def parts? : Nat → Reading → List Char → Option Item
  | 0, _, _ => none
  | bound + 1, reading, cs =>
    match skip reading.options cs with
    | [] => if reading.outer.isEmpty then some reading.branches.whole else none
    | c :: rest =>
      match part? reading c rest with
      | some (reading, rest) => parts? bound reading rest
      | none => none

/-- The pattern that a text denotes. -/
def read? (s : String) : Option Pattern :=
  let cs := s.toList
  match parts? (cs.length + 1) {} cs with
  | some whole =>
    if whole.depth ≤ maxDepth ∧ whole.pattern.memory ≤ maxMemory then some whole.pattern else none
  | none => none

end Intake.Pattern
