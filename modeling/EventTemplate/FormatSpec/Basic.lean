import EventTemplate.Limit
import EventTemplate.Text.DecimalDigit

/-
  Format specs: the small language that says how a value is written, such as `*^+12,.2f`. A spec
  is read left to right, every part may be absent, and nothing may be left over:
  fill and alignment, sign, `z`, `#`, `0`, width, grouping, precision, kind.
-/

namespace EventTemplate

namespace FormatSpec

/-- Where the fill goes. -/
inductive Justify where
  /-- The text stands at the left. -/
  | left
  /-- The text stands at the right. -/
  | right
  | center
  /-- The sign stands at the left and the digits at the right. -/
  | inner
  deriving DecidableEq, Repr

/-- Which sign stands before a number that is not negative. -/
inductive SignRule where
  | onlyMinus
  | plus
  | space
  deriving DecidableEq, Repr

/-- What stands between groups of digits. -/
inductive Grouping where
  | comma
  | underscore
  deriving DecidableEq, Repr

/-- What a value is shown as. -/
inductive Kind where
  /-- A text as it is. -/
  | text
  /-- A whole number as the character that it numbers. -/
  | character
  | binary
  | octal
  | decimal
  | hexadecimal (upper : Bool)
  /-- A number with a power of ten. -/
  | scientific (upper : Bool)
  /-- A number with a fixed count of digits behind the point. -/
  | fixed (upper : Bool)
  /-- A number with a count of significant digits. -/
  | general (upper : Bool)
  /-- A hundred times a number, and a percent sign. -/
  | percent
  /-- A number as the locale has it; there is only the plain one. -/
  | localized
  /-- A floating-point number as if there were no type: the null character. -/
  | unspecified
  deriving DecidableEq, Repr

end FormatSpec

/-- A format spec. A part that was not written is `none`. -/
structure FormatSpec where
  fill : Option Char := none
  justify : Option FormatSpec.Justify := none
  sign : Option FormatSpec.SignRule := none
  /-- With `z` a number that rounds to zero has no minus. -/
  unsignedZero : Bool := false
  /-- With `#` the alternate form is taken. -/
  alternate : Bool := false
  /-- A zero stands before the width. -/
  zeroFilled : Bool := false
  width : Option Nat := none
  grouping : Option FormatSpec.Grouping := none
  precision : Option Nat := none
  kind : Option FormatSpec.Kind := none
  deriving DecidableEq, Repr

namespace FormatSpec

/-- The alignment that a character asks for. -/
def justifyOf? : Char → Option Justify
  | '<' => some .left
  | '>' => some .right
  | '^' => some .center
  | '=' => some .inner
  | _ => none

/-- Fill and alignment, and what follows them. -/
def readJustify : List Char → Option Char × Option Justify × List Char
  | c :: d :: rest =>
    match justifyOf? d with
    | some j => (some c, some j, rest)
    | none => match justifyOf? c with
      | some j => (none, some j, d :: rest)
      | none => (none, none, c :: d :: rest)
  | [c] => match justifyOf? c with
    | some j => (none, some j, [])
    | none => (none, none, [c])
  | [] => (none, none, [])

/-- The sign rule, and what follows it. -/
def readSign : List Char → Option SignRule × List Char
  | '+' :: rest => (some .plus, rest)
  | '-' :: rest => (some .onlyMinus, rest)
  | ' ' :: rest => (some .space, rest)
  | cs => (none, cs)

/-- A flag, and what follows it. -/
def readFlag (flag : Char) : List Char → Bool × List Char
  | c :: rest => if c = flag then (true, rest) else (false, c :: rest)
  | [] => (false, [])

/-- A count in decimal digits of any script, as far as they go. -/
def readDigits (soFar : Option Nat) : List Char → Option Nat × List Char
  | c :: rest =>
    match Text.digitValue? c with
    | some d => readDigits (some (10 * soFar.getD 0 + d)) rest
    | none => (soFar, c :: rest)
  | [] => (soFar, [])

/-- A count, absent if there is no digit; `none` if it is too great. -/
def readCount? (cs : List Char) : Option (Option Nat × List Char) :=
  match readDigits none cs with
  | (some n, rest) => if n ≤ greatestSize then some (some n, rest) else none
  | (none, rest) => some (none, rest)

/-- A grouping: a comma or an underscore, not both. -/
def readGrouping? : List Char → Option (Option Grouping × List Char)
  | ',' :: '_' :: _ => none
  | '_' :: ',' :: _ => none
  | ',' :: rest => some (some .comma, rest)
  | '_' :: rest => some (some .underscore, rest)
  | cs => some (none, cs)

/-- A precision after its point. -/
def readPrecision? : List Char → Option (Option Nat × List Char)
  | '.' :: rest => do
    let (precision, rest) ← readCount? rest
    guard precision.isSome
    return (precision, rest)
  | cs => some (none, cs)

/-- The kind that a character stands for. -/
def kindOf? : Char → Option Kind
  | 's' => some .text
  | 'c' => some .character
  | 'b' => some .binary
  | 'o' => some .octal
  | 'd' => some .decimal
  | 'x' => some (.hexadecimal false)
  | 'X' => some (.hexadecimal true)
  | 'e' => some (.scientific false)
  | 'E' => some (.scientific true)
  | 'f' => some (.fixed false)
  | 'F' => some (.fixed true)
  | 'g' => some (.general false)
  | 'G' => some (.general true)
  | '%' => some .percent
  | 'n' => some .localized
  | '\x00' => some .unspecified
  | _ => none

/-- The kind: the one character that may be left. -/
def readKind? : List Char → Option (Option Kind)
  | [] => some none
  | [c] => (kindOf? c).map some
  | _ => none

def read? (cs : List Char) : Option FormatSpec := do
  let (fill, justify, cs) := readJustify cs
  let (sign, cs) := readSign cs
  let (unsignedZero, cs) := readFlag 'z' cs
  let (alternate, cs) := readFlag '#' cs
  let (zeroFilled, cs) := if fill.isSome then (false, cs) else readFlag '0' cs
  let (width, cs) ← readCount? cs
  let (grouping, cs) ← readGrouping? cs
  let (precision, cs) ← readPrecision? cs
  let kind ← readKind? cs
  return { fill, justify, sign, unsignedZero, alternate, zeroFilled, width, grouping, precision,
           kind }

end FormatSpec

end EventTemplate
