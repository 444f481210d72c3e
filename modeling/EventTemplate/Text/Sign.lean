/-
  The sign of a written number.
-/

namespace EventTemplate.Text

/-- Whether a minus stands first, and what follows the sign if there is one. -/
def readSign : List Char → Bool × List Char
  | '-' :: cs => (true, cs)
  | '+' :: cs => (false, cs)
  | cs => (false, cs)

end EventTemplate.Text
