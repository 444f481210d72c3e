import EventTemplate.Double.Basic
import EventTemplate.Text.Blank
import EventTemplate.Text.Sign

/-
  Reading a floating-point number from its decimal text.
-/

namespace EventTemplate.Double

/-- A power of ten after its letter: a sign and at least one digit. -/
def readPower? (cs : List Char) : Option Int :=
  let (negative, digits) := Text.readSign cs
  if digits.isEmpty || !digits.all Char.isDigit then none
  else
    let n := Nat.ofDigitChars 10 digits 0
    some (if negative then -(n : Int) else n)

/-- Digits with at most one point among them, and a power of ten behind. -/
def readSize? (negative : Bool) (cs : List Char) : Option Double :=
  let whole := cs.takeWhile Char.isDigit
  let (fraction, rest) := match cs.dropWhile Char.isDigit with
    | '.' :: more => (more.takeWhile Char.isDigit, more.dropWhile Char.isDigit)
    | more => ([], more)
  if whole.isEmpty && fraction.isEmpty then none
  else
    let m := Nat.ofDigitChars 10 (whole ++ fraction) 0
    let ofPower (e : Int) := ofDecimal negative m (e - fraction.length)
    match rest with
    | [] => some (ofPower 0)
    | 'e' :: power => (readPower? power).map ofPower
    | 'E' :: power => (readPower? power).map ofPower
    | _ => none

/-- The number that a text stands for: digits, or one of the words for infinity and for what is
not a number, in capitals or not. -/
def read? (s : String) : Option Double :=
  let (negative, cs) := Text.readSign (Text.trim s.toList)
  let word := String.ofList (cs.map Char.toLower)
  if word = "inf" ∨ word = "infinity" then some (infinite negative)
  else if word = "nan" then some notANumber
  else readSize? negative cs

end EventTemplate.Double
