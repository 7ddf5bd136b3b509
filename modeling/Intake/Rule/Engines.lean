import Intake.Net.Domain
import Intake.Pattern.Reader
import Intake.Pattern.Search

/-!
# Engines

Two things that rules on strings need are the work of others: to read a search pattern and search for it,
and to tell which texts are domains in all scripts. `Engines` is what is asked of them. The built-in rules
take them as a parameter, so what holds of the rules holds with any engines.
-/

set_option autoImplicit false

namespace Intake

/-- What the built-in rules leave to others. It is inferred, so that it need not be named wherever the
built-in rules are. -/
class Engines where
  /-- Reads a search pattern: gives the test whether some part of a string matches it, or the words in
  which it is refused. -/
  search : String → Except String (String → Bool)
  /-- The form in which a domain is compared, if the text is one or is empty. -/
  mappedDomain? : List Char → Option (List Char)

/-- The engines of this library. Their language of patterns names few classes of Unicode (`property?`),
they estimate how much memory a pattern needs (`Pattern.memory`) and refuse every pattern in the same
words, and their domains are those of `Net.mappedDomain?`. -/
instance Engines.standard : Engines where
  search source :=
    match Pattern.read? source with
    | some pattern => .ok pattern.isFoundIn
    | none => .error "regex parse error"
  mappedDomain? := Net.mappedDomain?

end Intake
