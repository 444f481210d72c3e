/-
  Tokens: what a raw template is cut into before it is known whether its holes make sense.
-/

namespace EventTemplate

/-- A run of literal text with its braces unescaped, and the piece of the raw template that it was
written as, if it comes from one. -/
structure Run where
  text : String
  source : Option String := none
  deriving DecidableEq, Repr

/-- What stands after an opening brace up to the next brace: its positions in the raw template, the
end being the position behind it, and whether the next brace is a closing one. A hole that was not
cut from a raw template may have any positions. -/
structure Hole where
  body : String
  start : Int
  stop : Int
  closed : Bool
  deriving DecidableEq, Repr

/-- A piece of a raw template. -/
inductive Token where
  | run (r : Run)
  | hole (h : Hole)
  deriving DecidableEq, Repr

/-- Literal text with every brace written twice. -/
def escapeBraces (cs : List Char) : List Char :=
  cs.flatMap fun c => if c = '{' ∨ c = '}' then [c, c] else [c]

/-- A run as it is written in a raw template. -/
def Run.print (r : Run) : String :=
  r.source.getD (String.ofList (escapeBraces r.text.toList))

/-- A hole as it is written in a raw template. -/
def Hole.print (h : Hole) : String :=
  String.ofList ('{' :: h.body.toList ++ if h.closed then ['}'] else [])

/-- A token as it is written in a raw template. -/
def Token.print : Token → String
  | run r => r.print
  | hole h => h.print

end EventTemplate
