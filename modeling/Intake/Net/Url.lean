import Intake.Net.Host

/-!
# Addresses of resources

Whether a text is the absolute address of a resource. Control characters and spaces around it and
tabs and line ends within it count for nothing. A few schemes need a host, which any number of slashes
may precede; files may have one, and all other schemes have one after two slashes. Which texts are domains
in all scripts is a parameter of what follows.
-/

set_option autoImplicit false

namespace Intake.Net

open Intake.Text

/-- What a scheme requires of the rest of an address. -/
inductive SchemeKind
  /-- A host must follow. -/
  | network
  /-- Files, whose host may be missing. -/
  | file
  /-- Any other scheme. -/
  | other
deriving DecidableEq

/-- The kind of a scheme by its name in lower case. -/
def SchemeKind.ofName (name : String) : SchemeKind :=
  if ["http", "https", "ws", "wss", "ftp"].contains name then .network
  else if name = "file" then .file
  else .other

/-- Whether a backslash counts as a slash. -/
def SchemeKind.isSpecial (kind : SchemeKind) : Bool :=
  kind != .other

/-- The text without the characters that count for nothing. -/
def cleaned (cs : List Char) : List Char :=
  let outer (cs : List Char) := cs.dropWhile fun c => c.toNat ≤ 32
  (outer (outer cs).reverse).reverse.filter fun c => c != '\t' && c != '\n' && c != '\r'

/-- Whether the character may occur in a scheme after its first letter. -/
def isSchemeChar (c : Char) : Bool :=
  c.isAlphanum || c == '+' || c == '-' || c == '.'

/-- The scheme at the front of the text, in lower case, and the text after its colon. -/
def scheme? (cs : List Char) : Option (String × List Char) :=
  match cs with
  | c :: _ =>
    if c.isAlpha then
      let name := cs.takeWhile isSchemeChar
      match cs.drop name.length with
      | ':' :: rest => some (String.ofList (name.map Char.toLower), rest)
      | _ => none
    else none
  | [] => none

/-- Whether the character is a slash, or a backslash where that is one. -/
def isSlash (special : Bool) (c : Char) : Bool :=
  c == '/' || (special && c == '\\')

/-- Whether the character ends the authority, that is, user, host and port. -/
def endsAuthority (special : Bool) (c : Char) : Bool :=
  isSlash special c || c == '?' || c == '#'

/-- The host at the front of an authority and the text after it: up to a colon outside brackets. -/
def splitHost : Bool → List Char → List Char × List Char
  | _, [] => ([], [])
  | bracketed, c :: rest =>
    if c = ':' ∧ !bracketed then ([], c :: rest)
    else
      let bracketed := if c = '[' then true else if c = ']' then false else bracketed
      let (host, after) := splitHost bracketed rest
      (c :: host, after)

/-- Whether the text is a port with its colon. A backslash ends a port in any scheme, since it begins
the path. -/
def isPort : List Char → Bool
  | [] => true
  | ':' :: rest =>
    let digits := rest.takeWhile isDigit
    let after := rest.drop digits.length
    ofDigits digits ≤ 65535 && (after == [] || after.head? == some '\\')
  | _ => false

/-- The authority's user, if there is an at sign, and what comes after the last such sign. -/
def splitUser (authority : List Char) : Option (List Char) × List Char :=
  match (fields '@' authority).reverse with
  | last :: first :: others => (some (['@'].intercalate (others.reverse ++ [first])), last)
  | _ => (none, authority)

/-- Whether a user with its password is written out: an empty user with an empty password is not. -/
def isWrittenUser (user : List Char) : Bool :=
  user != [] && user != [':']

variable (mappedDomain? : List Char → Option (List Char))

/-- Whether user, host and port follow one another at the front of the text. -/
def isAuthority (kind : SchemeKind) (cs : List Char) : Bool :=
  let special := kind.isSpecial
  let authority := cs.takeWhile fun c => !endsAuthority special c
  let pathFollows := authority.length < cs.length
  let (user, rest) := splitUser authority
  let (host, port) := splitHost false rest
  if user = some [] ∧ rest = [] ∧ pathFollows then false
  else if host = [] then
    !special && port == [] && !(user.any isWrittenUser)
  else (if special then isHost mappedDomain? host else isOpaqueHost host) && isPort port

/-- Whether the text is the letter of a drive. -/
def isDrive (cs : List Char) : Bool :=
  match cs with
  | [letter, mark] => letter.isAlpha && (mark == ':' || mark == '|')
  | _ => false

/-- Whether the rest of the address of a file is well formed: a host after two slashes, unless it is
empty or the letter of a drive. -/
def isFileRest (cs : List Char) : Bool :=
  match cs with
  | a :: b :: rest =>
    if isSlash true a && isSlash true b then
      let host := rest.takeWhile fun c => !endsAuthority true c
      host == [] || isDrive host || isHost mappedDomain? host
    else true
  | _ => true

/-- Whether the text is the absolute address of a resource. -/
def isUrl (cs : List Char) : Bool :=
  match scheme? (cleaned cs) with
  | none => false
  | some (name, rest) =>
    match SchemeKind.ofName name with
    | .network => isAuthority mappedDomain? .network (rest.dropWhile (isSlash true))
    | .file => isFileRest mappedDomain? rest
    | .other =>
      match rest with
      | '/' :: '/' :: rest => isAuthority mappedDomain? .other rest
      | _ => true

end Intake.Net
