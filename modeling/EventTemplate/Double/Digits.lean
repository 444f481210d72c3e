import EventTemplate.Double.Basic

/-
  The decimal digits of a floating-point number: the fewest that read back as the number, a given
  count of them, or all up to a given place.
-/

namespace EventTemplate

/-- The decimal number `0.d₁d₂d₃… · 10^point`. The last digit is not zero, unless the number is
zero, which is the single digit zero with its point behind it. -/
structure Digits where
  digits : List Char
  point : Int
  deriving DecidableEq, Repr

namespace Digits

def zero : Digits := ⟨['0'], 1⟩

/-- The digits of `n · 10^e`. -/
def ofNat (n : Nat) (e : Int) : Digits :=
  if n = 0 then zero
  else
    let all := Nat.toDigits 10 n
    ⟨(all.reverse.dropWhile (· = '0')).reverse, (all.length : Int) + e⟩

end Digits

namespace Double

/-- The power `p` of ten with `10^p ≤ num / den < 10^(p + 1)`, for a quotient above zero. -/
def tens (num den : Nat) : Int :=
  let guess : Int := ((Nat.toDigits 10 num).length : Int) - (Nat.toDigits 10 den).length
  let reached := if guess < 0 then den ≤ num * Nat.pow 10 guess.natAbs
    else den * Nat.pow 10 guess.natAbs ≤ num
  if reached then guess else guess - 1

/-- The quotient `num / den` divided by `10^e`, again as a quotient. -/
def scaleTens (num den : Nat) (e : Int) : Nat × Nat :=
  if e < 0 then (num * Nat.pow 10 e.natAbs, den) else (num, den * Nat.pow 10 e.natAbs)

/-- No number has more significant digits than this. -/
def mostDigits : Nat := 767

/-- No number has more digits behind its point than this. -/
def mostPlaces : Nat := 1074

/-- The number `m · 2^e` rounded to `count` significant digits, a tie going to the even digit. -/
def significant (count m : Nat) (e : Int) : Digits :=
  if m = 0 then Digits.zero
  else
    let (num, den) := ratio m e
    let unit := tens num den + 1 - (min count mostDigits : Nat)
    let (n, d) := scaleTens num den unit
    Digits.ofNat (roundHalfEven n d) unit

/-- The number `m · 2^e` in units of `10^-places`, a tie going to the even number. -/
def units (places m : Nat) (e : Int) : Nat :=
  let (num, den) := ratio m e
  roundHalfEven (num * Nat.pow 10 places) den

/-- The reals that round to `m · 2^e` reach from the first quotient to the second, both over the
third; below a power of two they lie closer. -/
def interval (m : Nat) (e : Int) : Nat × Nat × Nat :=
  let below := if m = Nat.pow 2 (mantissaBits - 1) ∧ leastExponent < e then 1 else 2
  let (low, den) := ratio (4 * m - below) (e - 2)
  let (high, _) := ratio (4 * m + 2) (e - 2)
  (low, high, den)

/-- The neighbours of `m · 2^e` among the multiples of `10^unit` that read back as the number;
the nearer one first, and of two equally near the even one. -/
def candidates (m : Nat) (e unit : Int) : List Nat :=
  let (num, den) := ratio m e
  let (low, high, den') := interval m e
  let (n, d) := scaleTens num den unit
  let q := n / d
  let readsBack (k : Nat) : Bool :=
    let (a, b) := scaleTens 1 1 (-unit)
    let inside := low * b < k * a * den' && k * a * den' < high * b
    inside || (m % 2 == 0 && (low * b == k * a * den' || k * a * den' == high * b))
  let ordered := if roundHalfEven n d = q then [q, q + 1] else [q + 1, q]
  ordered.filter readsBack

/-- The fewest digits that read back as `m · 2^e`, and of those the nearest. -/
def shortest (m : Nat) (e : Int) : Digits :=
  if m = 0 then Digits.zero
  else
    let (num, den) := ratio m e
    let top := tens num den + 1
    ((List.range 17).findSome? fun k =>
      let unit := top - (k + 1 : Nat)
      (candidates m e unit).head?.map (Digits.ofNat · unit)).getD (significant 17 m e)

end Double

end EventTemplate
