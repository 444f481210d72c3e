import EventTemplate.Decimal
import EventTemplate.Double.Layout
import EventTemplate.FormatSpec.Layout

/-
  Whole numbers, floating-point numbers and texts under a format spec. A spec that does not apply
  to a value has no result.
-/

namespace EventTemplate.FormatSpec

/-- Whether a kind shows a whole number as it shows a floating-point number. -/
def Kind.isReal : Kind → Bool
  | .scientific _ | .fixed _ | .general _ | .percent => true
  | _ => false

/-- The count of digits between marks: thousands of decimal digits may have either mark between
them, groups of four binary, octal or hexadecimal digits an underscore. -/
def groupSize? (grouping : Grouping) : Option Kind → Option Nat
  | none | some .decimal | some .unspecified => some 3
  | some .binary | some .octal | some (.hexadecimal _) =>
    if grouping = .underscore then some 4 else none
  | some kind => if kind.isReal then some 3 else none

def Grouping.mark : Grouping → Char
  | .comma => ','
  | .underscore => '_'

/-- The marks that a spec puts between digits, if any; the outer option is `none` if they do not go
with its kind. -/
def group? (spec : FormatSpec) : Option (Option (Char × Nat)) :=
  match spec.grouping with
  | none => some none
  | some g => (groupSize? g spec.kind).map fun size => some (g.mark, size)

/-- How a floating-point number is written: its style, and whether with capitals. -/
structure RealForm where
  style : Double.Style
  upper : Bool := false

/-- The digits that are shown if the spec does not say. -/
def usualPrecision : Nat := 6

/-- The greatest precision of a floating-point number. -/
def greatestPrecision : Nat := Nat.pow 2 31 - 1

/-- The digits behind the point of a number with a power of ten. The digit before the point is
counted with them; at the greatest precision there is no count that great, and none are shown. -/
def scientificPlaces (precision : Nat) : Nat :=
  if precision = greatestPrecision then 0 else precision

/-- The form of a floating-point number. Without a kind and without a precision the fewest digits
that read back are shown. -/
def realForm? (kind : Option Kind) (precision : Option Nat) : Option RealForm :=
  let digits := precision.getD usualPrecision
  match kind with
  | none | some .unspecified => some ⟨match precision with
    | none => .shortest
    | some p => .general p true, false⟩
  | some (.scientific upper) => some ⟨.scientific (scientificPlaces digits), upper⟩
  | some (.fixed upper) => some ⟨.fixed digits, upper⟩
  | some (.general upper) => some ⟨.general digits false, upper⟩
  | some .localized => some ⟨.general digits false, false⟩
  | some .percent => some ⟨.fixed digits, false⟩
  | some _ => none

/-- Writes a floating-point number, for the digits of which there has to be room. -/
def writeReal? (room : Nat) (spec : FormatSpec) (x : Double) : Option (List Char) := do
  let group ← spec.group?
  let form ← realForm? spec.kind spec.precision
  guard (spec.precision.all (· ≤ greatestPrecision))
  let percent := spec.kind = some .percent
  let x := if percent then x.percent else x
  guard (!x.isFinite || form.style.leastPlaces spec.alternate ≤ room)
  let vanishes := match x with
    | .finite _ m e => Double.roundsToZero form.style m e
    | _ => false
  let all := Double.write form.style spec.alternate form.upper x ++ if percent then ['%'] else []
  return spec.placeNumber group {
    negative := x.isNegative && !(spec.unsignedZero && vanishes)
    digits := all.takeWhile Char.isDigit
    rest := all.dropWhile Char.isDigit }

/-- Base and lead of the kinds that show a whole number in digits. -/
def base? : Option Kind → Option (Nat × List Char)
  | none | some .decimal | some .localized => some (10, [])
  | some .binary => some (2, ['0', 'b'])
  | some .octal => some (8, ['0', 'o'])
  | some (.hexadecimal upper) => some (16, ['0', if upper then 'X' else 'x'])
  | some _ => none

/-- Writes a whole number in the digits of a base; decimal digits must not be too many. -/
def writeDigits? (spec : FormatSpec) (base : Nat) (lead : List Char) (n : Int) :
    Option (List Char) := do
  let group ← spec.group?
  guard (spec.precision.isNone && !spec.unsignedZero)
  guard (base ≠ 10 || Decimal.Short n.natAbs)
  let digits := Nat.toDigits base n.natAbs
  return spec.placeNumber group {
    negative := n < 0
    lead := if spec.alternate then lead else []
    digits := if spec.kind = some (.hexadecimal true) then digits.map Char.toUpper else digits }

/-- Code points end here. -/
def codePointBound : Int := 0x110000

/-- Writes the character that a whole number numbers. -/
def writeCharacter? (spec : FormatSpec) (n : Int) : Option (List Char) := do
  let group ← spec.group?
  guard (spec.precision.isNone && !spec.unsignedZero && spec.sign.isNone && !spec.alternate)
  guard (0 ≤ n && n < codePointBound)
  return spec.placeNumber group { negative := false, digits := [], rest := [Char.ofNat n.toNat] }

/-- Writes a whole number: in digits, as a character, or as a floating-point number, for which it
must not be too great. -/
def writeInt? (room : Nat) (spec : FormatSpec) (n : Int) : Option (List Char) :=
  match base? spec.kind with
  | some (base, lead) => spec.writeDigits? base lead n
  | none =>
    if spec.kind = some .character then spec.writeCharacter? n
    else if spec.kind.any Kind.isReal then
      match Double.ofInt n with
      | .finite negative m e => spec.writeReal? room (.finite negative m e)
      | _ => none
    else none

/-- Writes a text, cut to the precision. -/
def writeText? (spec : FormatSpec) (cs : List Char) : Option (List Char) := do
  guard (spec.kind.all (· = .text) && spec.grouping.isNone)
  guard (spec.sign.isNone && !spec.unsignedZero && !spec.alternate)
  guard (spec.justify ≠ some .inner)
  return spec.placeText (match spec.precision with
    | some p => cs.take p
    | none => cs)

end EventTemplate.FormatSpec
