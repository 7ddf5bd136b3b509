import Intake.Pattern.Basic
import Intake.Text.Digits

/-!
# Escapes of patterns

What a backslash and the characters after it stand for: a character by itself or by its code, a
class of characters, or an assertion.
-/

set_option autoImplicit false

namespace Intake.Pattern

/-- The options that a pattern may switch on and off. -/
structure Options where
  /-- Letters stand for all their forms. -/
  caseless : Bool := false
  /-- The anchors of texts are anchors of lines. -/
  multiLine : Bool := false
  /-- The dot also stands for the end of a line. -/
  dotAll : Bool := false
  /-- Blanks and comments in the pattern stand for nothing. -/
  verbose : Bool := false
  /-- Classes hold the characters of all scripts. -/
  unicode : Bool := true
  /-- Lines also end in carriage returns. -/
  crlf : Bool := false

/-- A part of a pattern that is one whole within and outside classes. -/
inductive Atom
  /-- One character. -/
  | literal (c : Char)
  /-- A class of characters. -/
  | set (set : CharSet)
  /-- An assertion. -/
  | assertion (condition : Assertion)

/-- Skips blanks and comments; the Boolean says whether a comment is open. -/
def skipVerbose : Bool → List Char → List Char
  | _, [] => []
  | true, c :: rest => skipVerbose (c != '\n') rest
  | false, c :: rest =>
    if c = '#' then skipVerbose true rest
    else if Text.isBlank c then skipVerbose false rest
    else c :: rest

/-- Skips what stands for nothing under the given options. -/
def skip (options : Options) (cs : List Char) : List Char :=
  if options.verbose then skipVerbose false cs else cs

/-- The set with all forms of its letters, if the options say so. Without the characters of all scripts
only the letters of ASCII have other forms, and these are of ASCII as well. -/
def Options.fold (options : Options) (set : CharSet) : CharSet :=
  if !options.caseless then set
  else if options.unicode then .caseless set
  else .union set (.intersection (.caseless (.intersection set .ascii)) .ascii)

/-- The characters outside a set. The forms of its letters are added before it is negated, so that a
letter is outside only if none of its forms is inside. -/
def Options.outside (options : Options) (set : CharSet) : CharSet :=
  .complement (options.fold set)

/-- The characters of the word class. -/
def wordSet (options : Options) : CharSet :=
  if options.unicode then .wordChar
  else .unions [.range 48 57, .range 65 90, .single '_', .range 97 122]

/-- The characters of the digit class. -/
def digitSet (options : Options) : CharSet :=
  if options.unicode then .digit else .range 48 57

/-- The characters of the class of blanks. -/
def blankSet (options : Options) : CharSet :=
  if options.unicode then .blank else .union (.range 9 13) (.single ' ')

/-- A class of one letter, in upper case for all other characters. These are classes of characters
of all scripts only. -/
def letterClass? (options : Options) (c : Char) : Option CharSet :=
  if c = 'd' then some (digitSet options)
  else if c = 's' then some (blankSet options)
  else if c = 'w' then some (wordSet options)
  else if !options.unicode then none
  else if c = 'D' then some (.complement .digit)
  else if c = 'S' then some (.complement .blank)
  else if c = 'W' then some (.complement .wordChar)
  else none

/-- The number of a run of hexadecimal digits, which must not be empty. -/
def hexNumber? (cs : List Char) : Option Nat :=
  if cs = [] then none
  else cs.foldl
    (fun acc c => match acc, Text.hexValue? c with
      | some n, some v => some (16 * n + v)
      | _, _ => none)
    (some 0)

/-- The character of a code point. -/
def scalar? (n : Nat) : Option Char :=
  if n < 0xD800 ∨ (0xDFFF < n ∧ n < 0x110000) then some (Char.ofNat n) else none

/-- A character by its code: so many hexadecimal digits, or any number of them in braces. Two digits
alone are the code of a byte where classes do not hold the characters of all scripts, and beyond ASCII no
byte is a character. -/
def coded? (options : Options) (width : Nat) (cs : List Char) : Option (Atom × List Char) :=
  match cs with
  | '{' :: rest =>
    let ds := rest.takeWhile (· != '}')
    match rest.drop ds.length with
    | _ :: after => ((hexNumber? ds).bind scalar?).map fun c => (.literal c, after)
    | [] => none
  | _ =>
    if width ≤ cs.length then
      match (hexNumber? (cs.take width)).bind scalar? with
      | some c =>
        if width = 2 ∧ !options.unicode ∧ 128 ≤ c.toNat then none
        else some (.literal c, cs.drop width)
      | none => none
    else none

/-- The characters of a property by its name, without regard to case, blanks and hyphens. The
properties known are letters, marks, decimal digits, blanks, ASCII and any; other names are refused. -/
def property? (name : List Char) : Option CharSet :=
  let plain := (name.filter fun c => c != ' ' && c != '_' && c != '-').map Char.toLower
  match String.ofList plain with
  | "l" | "letter" => some .letter
  | "m" | "mark" | "combiningmark" => some .mark
  | "nd" | "decimalnumber" | "digit" => some .digit
  | "whitespace" | "wspace" | "space" => some .blank
  | "any" => some .any
  | "ascii" => some .ascii
  | _ => none

/-- A class by the name of a property: one letter, or a name in braces, possibly negated. Properties are
classes of characters of all scripts. -/
def propertyClass? (options : Options) (negated : Bool) (cs : List Char) :
    Option (Atom × List Char) :=
  let make (negated : Bool) (name : List Char) : Option Atom :=
    if options.unicode then
      (property? name).map fun set => .set (if negated then options.outside set else set)
    else none
  match cs with
  | '{' :: rest =>
    let name := rest.takeWhile (· != '}')
    match rest.drop name.length with
    | _ :: after =>
      match name with
      | '^' :: name => (make (!negated) name).map fun atom => (atom, after)
      | _ => (make negated name).map fun atom => (atom, after)
    | [] => none
  | c :: rest => (make negated [c]).map fun atom => (atom, rest)
  | [] => none

/-- The assertion that the name in braces after a word edge asks for. -/
def wordAssertion? (word : CharSet) (name : List Char) : Option Assertion :=
  match String.ofList name with
  | "start" => some (.wordStart word)
  | "end" => some (.wordEnd word)
  | "start-half" => some (.noWordBefore word)
  | "end-half" => some (.noWordAfter word)
  | _ => none

/-- Whether the character may occur in the name of a word assertion. -/
def isAssertionNameChar (c : Char) : Bool :=
  c.isAlpha || c == '-'

/-- A word edge, or the assertion that a name in braces after it asks for. Braces without a name
are left for a repetition. -/
def wordEdge? (options : Options) (cs : List Char) : Option (Atom × List Char) :=
  let word := wordSet options
  match cs with
  | '{' :: rest =>
    match skip options rest with
    | [] => none
    | c :: _ =>
      if isAssertionNameChar c then
        let rest := skip options rest
        let name := rest.takeWhile isAssertionNameChar
        match skip options (rest.drop name.length) with
        | '}' :: after =>
          (wordAssertion? word name).map fun condition => (.assertion condition, after)
        | _ => none
      else some (.assertion (.wordEdge word), cs)
  | _ => some (.assertion (.wordEdge word), cs)

/-- Whether the character stands for itself after a backslash: those of ASCII that are no letters, no
digits and no angle brackets. -/
def isEscapable (c : Char) : Bool :=
  c.toNat < 128 && !c.isAlphanum && c != '<' && c != '>'

/-- What the characters after a backslash stand for. -/
def escape? (options : Options) : List Char → Option (Atom × List Char)
  | [] => none
  | c :: rest =>
    if isEscapable c then some (.literal c, rest)
    else match letterClass? options c with
      | some set => some (.set set, rest)
      | none =>
        match c with
        | 'a' => some (.literal '\x07', rest)
        | 'f' => some (.literal '\x0c', rest)
        | 't' => some (.literal '\t', rest)
        | 'n' => some (.literal '\n', rest)
        | 'r' => some (.literal '\r', rest)
        | 'v' => some (.literal '\x0b', rest)
        | 'A' => some (.assertion .textStart, rest)
        | 'z' => some (.assertion .textEnd, rest)
        | 'b' => wordEdge? options rest
        | 'B' => some (.assertion (.noWordEdge (wordSet options)), rest)
        | '<' => some (.assertion (.wordStart (wordSet options)), rest)
        | '>' => some (.assertion (.wordEnd (wordSet options)), rest)
        | 'x' => coded? options 2 rest
        | 'u' => coded? options 4 rest
        | 'U' => coded? options 8 rest
        | 'p' => propertyClass? options false rest
        | 'P' => propertyClass? options true rest
        | _ => none

end Intake.Pattern
