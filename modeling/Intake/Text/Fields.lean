/-!
# Fields of a text

The parts of a text between the occurrences of a separator.
-/

set_option autoImplicit false

namespace Intake.Text

/-- The parts of a text between the separators; one more than there are separators. -/
def fields (separator : Char) : List Char → List (List Char)
  | [] => [[]]
  | c :: rest =>
    if c = separator then [] :: fields separator rest
    else match fields separator rest with
      | first :: others => (c :: first) :: others
      | [] => [[c]]

end Intake.Text
