/-
  Floating-point numbers of 64 bits as exact values: a finite one is `±m · 2^e` with a whole `m`
  below `2^53`. Every operation is exact arithmetic on whole numbers followed by one rounding, so
  nothing here depends on the machine's own arithmetic.
-/

namespace EventTemplate

/-- The quotient `num / den` rounded to a whole number, a half going to the even neighbour. -/
def roundHalfEven (num den : Nat) : Nat :=
  let q := num / den
  let r := num % den
  if 2 * r < den then q else if den < 2 * r then q + 1 else q + q % 2

/-- A floating-point number of 64 bits. Zeros and infinities have a sign; a finite number is
`mantissa · 2^exponent` with the least exponent that its range allows. -/
inductive Double where
  | finite (negative : Bool) (mantissa : Nat) (exponent : Int)
  | infinite (negative : Bool)
  | notANumber
  deriving DecidableEq, Repr

namespace Double

/-- The numbers of bits of a mantissa, and the exponents between which it moves. -/
def mantissaBits : Nat := 53
def leastExponent : Int := -1074
def greatestExponent : Int := 971

/-- The quotient `num / den` divided by `2^e`, again as a quotient. -/
def scale (num den : Nat) (e : Int) : Nat × Nat :=
  if e < 0 then (num <<< e.natAbs, den) else (num, den <<< e.natAbs)

/-- The number closest to `num / den`, a tie going to the even mantissa; beyond the greatest
finite number it is infinite. -/
def ofRatio (negative : Bool) (num den : Nat) : Double :=
  if num = 0 then finite negative 0 leastExponent
  else
    let guess : Int := (num.log2 : Int) - (den.log2 : Int) - mantissaBits
    let (n, d) := scale num den guess
    let fitted := if n / d < Nat.pow 2 mantissaBits then guess else guess + 1
    let e := max fitted leastExponent
    let (n, d) := scale num den e
    let m := roundHalfEven n d
    let (m, e) := if m = Nat.pow 2 mantissaBits then (Nat.pow 2 (mantissaBits - 1), e + 1)
      else (m, e)
    if greatestExponent < e then infinite negative else finite negative m e

/-- The number closest to a whole number. -/
def ofInt (n : Int) : Double :=
  ofRatio (n < 0) n.natAbs 1

/-- The number closest to `m · 10^e`. -/
def ofDecimal (negative : Bool) (m : Nat) (e : Int) : Double :=
  if e < 0 then ofRatio negative m (Nat.pow 10 e.natAbs)
  else ofRatio negative (m * Nat.pow 10 e.natAbs) 1

/-- The size of `m · 2^e` as a quotient of whole numbers. -/
def ratio (m : Nat) (e : Int) : Nat × Nat :=
  if e < 0 then (m, 1 <<< e.natAbs) else (m <<< e.natAbs, 1)

/-- A hundred times the number. -/
def percent : Double → Double
  | finite negative m e =>
    let (num, den) := ratio m e
    ofRatio negative (100 * num) den
  | x => x

/-- Whether the number is below zero or a negative zero or infinity. -/
def isNegative : Double → Bool
  | finite negative _ _ => negative
  | infinite negative => negative
  | notANumber => false

/-- Whether the number is neither infinite nor undefined. -/
def isFinite : Double → Bool
  | finite .. => true
  | _ => false

end Double

end EventTemplate
