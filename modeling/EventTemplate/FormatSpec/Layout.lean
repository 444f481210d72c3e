import EventTemplate.FormatSpec.Basic
import EventTemplate.Text.Pad

/-
  Putting a number or a text into its field: sign, prefix, groups of digits, and the fill.
-/

namespace EventTemplate.FormatSpec

/-- A written number before it is laid out. `digits` are the digits before the point; `rest` is
all that follows them, and is not grouped. -/
structure Figure where
  negative : Bool
  lead : List Char := []
  digits : List Char
  rest : List Char := []
  deriving DecidableEq, Repr

/-- Digits in groups of `size`, counted from the right. -/
def grouped (mark : Char) (size : Nat) (digits : List Char) : List Char :=
  match digits with
  | [] => []
  | d :: ds =>
    if ds.length % size = 0 ∧ ds ≠ [] then d :: mark :: grouped mark size ds
    else d :: grouped mark size ds

/-- The least count of digits that fill `width` columns when a mark stands after each group. -/
def digitsToFill (size width : Nat) : Nat :=
  width - (width - 1) / (size + 1)

/-- Digits in groups, with zeros in front until they fill `width` columns. A number without
digits stays without. -/
def filledGroups (group : Option (Char × Nat)) (width : Nat) (digits : List Char) : List Char :=
  if digits.isEmpty then []
  else match group with
    | none => Text.padLeft '0' width digits
    | some (mark, size) => grouped mark size (Text.padLeft '0' (digitsToFill size width) digits)

/-- The sign before a number. -/
def signText (rule : Option SignRule) (negative : Bool) : List Char :=
  if negative then ['-'] else match rule with
    | some .plus => ['+']
    | some .space => [' ']
    | _ => []

/-- The fill of a field: as written, or zeros, or spaces. -/
def filler (spec : FormatSpec) : Char :=
  spec.fill.getD (if spec.zeroFilled then '0' else ' ')

/-- A text in its field. -/
def place (fill : Char) (justify : Justify) (width : Nat) (before after : List Char) : List Char :=
  let missing := width - (before.length + after.length)
  let pad (n : Nat) := List.replicate n fill
  match justify with
  | .left => before ++ after ++ pad missing
  | .right => pad missing ++ before ++ after
  | .center => pad (missing / 2) ++ before ++ after ++ pad (missing - missing / 2)
  | .inner => before ++ pad missing ++ after

/-- A number in its field. With zeros between sign and digits the zeros count as digits and are
grouped with them. -/
def placeNumber (spec : FormatSpec) (group : Option (Char × Nat)) (f : Figure) : List Char :=
  let width := spec.width.getD 0
  let justify := spec.justify.getD (if spec.zeroFilled then .inner else .right)
  let before := signText spec.sign f.negative ++ f.lead
  let columns :=
    if spec.filler = '0' ∧ justify = .inner then width - before.length - f.rest.length else 0
  place spec.filler justify width before (filledGroups group columns f.digits ++ f.rest)

/-- A text in its field, which it is at the left of by default. -/
def placeText (spec : FormatSpec) (cs : List Char) : List Char :=
  place spec.filler (spec.justify.getD .left) (spec.width.getD 0) cs []

end EventTemplate.FormatSpec
