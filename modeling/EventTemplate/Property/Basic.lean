import EventTemplate.Decimal
import EventTemplate.Token.Basic

/-
  Properties: what a well-formed hole says. It designates a value by name or by index and may say
  how the value is meant to be captured, to what width it is padded, and how it is formatted.
-/

namespace EventTemplate

/-- How the value of a property is meant to be captured. -/
inductive Operator where
  | plain
  /-- With `@` the value's structure is kept. -/
  | structured
  /-- With `$` the value is turned into text. -/
  | stringified
  deriving DecidableEq, Repr

/-- The character before the designator. -/
def Operator.symbol : Operator → List Char
  | plain => []
  | structured => ['@']
  | stringified => ['$']

/-- What a property stands for: a name, or the place of an argument. It is also the key of the
property's value in an event. -/
inductive Designator where
  | name (s : String)
  | index (n : Nat)
  deriving DecidableEq, Repr

namespace Designator

def isIndex : Designator → Bool
  | name _ => false
  | index _ => true

/-- The name, or the index in decimal digits without leading zeros. -/
def print : Designator → Except DecimalError String
  | name s => .ok s
  | index n => Decimal.print n

end Designator

/-- A property. `source` is the hole it was read from, if it comes from one. -/
structure Property where
  designator : Designator
  operator : Operator := .plain
  alignment : Option Int := none
  format : Option String := none
  source : Option String := none
  deriving DecidableEq, Repr

namespace Property

/-- The property as a hole that says the same. -/
def canonical (p : Property) : Except DecimalError String := do
  let designator ← p.designator.print
  let alignment ← p.alignment.mapM Decimal.printInt
  return String.ofList ('{' :: p.operator.symbol ++ designator.toList
    ++ (match alignment with
      | some w => ',' :: w.toList
      | none => [])
    ++ (match p.format with
      | some f => ':' :: f.toList
      | none => [])
    ++ ['}'])

/-- The property as it is written in a raw template. -/
def print (p : Property) : Except DecimalError String :=
  match p.source with
  | some source => .ok source
  | none => p.canonical

end Property

inductive Element where
  | text (s : String)
  | property (p : Property)
  deriving DecidableEq, Repr

namespace Element

/-- The property that an element is, if it is one. -/
def property? : Element → Option Property
  | text _ => none
  | property p => some p

/-- The element as it is written in a raw template. -/
def print : Element → Except DecimalError String
  | text s => .ok (String.ofList (escapeBraces s.toList))
  | property p => p.print

end Element

end EventTemplate
