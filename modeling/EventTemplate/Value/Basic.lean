import EventTemplate.Double.Basic

/-
  The values that events carry.
-/

namespace EventTemplate

/-- An object of another kind: it can show itself as a text and write itself out, and takes no
format spec. -/
structure Foreign where
  kind : String
  shown : String
  written : String
  deriving DecidableEq, Repr

/-- A value bound to a property. A `mark` tells objects apart that are equal to nothing but
themselves: a floating-point number that is not a number, and a foreign object. -/
inductive Value where
  | null
  | bool (b : Bool)
  | int (n : Int)
  | real (x : Double) (mark : Nat := 0)
  | text (s : String)
  | list (items : List Value)
  | dict (entries : List (String × Value))
  | foreign (object : Foreign) (mark : Nat := 0)
  deriving Repr

/-- A truth value as a number. -/
def Value.ofBool (b : Bool) : Int :=
  if b then 1 else 0

/-- The name of a value's kind, as messages have it. -/
def Value.kindName : Value → String
  | null => "NoneType"
  | bool _ => "bool"
  | int _ => "int"
  | real _ _ => "float"
  | text _ => "str"
  | list _ => "list"
  | dict _ => "dict"
  | foreign object _ => object.kind

end EventTemplate
