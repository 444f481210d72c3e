/-
  Spans of code points, the form in which character classes are tabled.
-/

namespace EventTemplate.Text

/-- The code points from the first number to the second, both included. -/
abbrev Span := Nat × Nat

/-- Whether a code point lies in the span. -/
def Span.holds (s : Span) (n : Nat) : Bool :=
  s.1 ≤ n && n ≤ s.2

end EventTemplate.Text
