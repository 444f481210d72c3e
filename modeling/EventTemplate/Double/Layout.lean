import EventTemplate.Double.Digits
import EventTemplate.Text.Pad

/-
  How a floating-point number is written: which digits, where the point stands and when a power of
  ten follows. The sign is left to the caller, who may want to place it.
-/

namespace EventTemplate.Double

/-- The ways to write a number. -/
inductive Style where
  /-- The fewest digits that read back. -/
  | shortest
  /-- At most `digits` significant digits. A number written without a power of ten keeps a digit
  behind the point if `fraction`. -/
  | general (digits : Nat) (fraction : Bool)
  /-- One digit before the point, `places` behind, and a power of ten. -/
  | scientific (places : Nat)
  /-- A given count of digits behind the point. -/
  | fixed (places : Nat)
  deriving DecidableEq, Repr

/-- How many digits are written whatever the number is; `bare` keeps zeros. -/
def Style.leastPlaces (bare : Bool) : Style → Nat
  | shortest => 0
  | general digits _ => if bare then digits else 0
  | scientific places => places
  | fixed places => places

/-- Digits with a point in them and at least `places` digits behind it. The point is kept before
nothing if `bare`. -/
def pointed (d : Digits) (places : Nat) (bare : Bool) : List Char :=
  let whole :=
    if d.point ≤ 0 then ['0'] else Text.padRight '0' d.point.toNat (d.digits.take d.point.toNat)
  let fraction := Text.padRight '0' places
    (List.replicate (-d.point).toNat '0' ++ d.digits.drop d.point.toNat)
  whole ++ if fraction.isEmpty && !bare then [] else '.' :: fraction

/-- A power of ten: a sign and at least two digits. -/
def power (upper : Bool) (e : Int) : List Char :=
  (if upper then 'E' else 'e') :: (if e < 0 then '-' else '+') ::
    Text.padLeft '0' 2 (Nat.toDigits 10 e.natAbs)

/-- Digits written with one digit before the point and a power of ten. -/
def withPower (d : Digits) (places : Nat) (bare upper : Bool) : List Char :=
  pointed ⟨d.digits, 1⟩ places bare ++ power upper (d.point - 1)

/-- Numbers whose point lies outside these bounds take a power of ten when they are written with
the fewest digits: positional from `0.0001` to below `10^16`. -/
def positionalFrom : Int := -3
def positionalTo : Int := 16

/-- The size of `m · 2^e` in a style. `bare` keeps a point with nothing behind it and the zeros of
a number with a given count of digits; `upper` writes the power of ten with a capital. -/
def writeSize (style : Style) (bare upper : Bool) (m : Nat) (e : Int) : List Char :=
  match style with
  | .shortest =>
    let d := Double.shortest m e
    if positionalFrom ≤ d.point ∧ d.point ≤ positionalTo then pointed d 1 bare
    else withPower d 0 bare upper
  | .general count fraction =>
    let count := max count 1
    let d := significant count m e
    let shown := if bare then count else 0
    let last : Int := if fraction then (count : Int) - 1 else count
    if positionalFrom ≤ d.point ∧ d.point ≤ last then
      pointed d (max (if fraction then 1 else 0) ((shown : Int) - d.point).toNat) bare
    else withPower d (shown - 1) bare upper
  | .scientific places => withPower (significant (places + 1) m e) places bare upper
  | .fixed places =>
    let shown := min places mostPlaces
    let all := Text.padLeft '0' (shown + 1) (Nat.toDigits 10 (units shown m e))
    let fraction := Text.padRight '0' places (all.drop (all.length - shown))
    all.take (all.length - shown) ++ if fraction.isEmpty && !bare then [] else '.' :: fraction

/-- Whether a style leaves nothing of the number but zeros. -/
def roundsToZero (style : Style) (m : Nat) (e : Int) : Bool :=
  match style with
  | .fixed places => units (min places mostPlaces) m e == 0
  | _ => m == 0

/-- The number without its sign. -/
def write (style : Style) (bare upper : Bool) : Double → List Char
  | finite _ m e => writeSize style bare upper m e
  | infinite _ => (if upper then "INF" else "inf").toList
  | notANumber => (if upper then "NAN" else "nan").toList

/-- The number in the fewest digits that read back, with its sign. -/
def shown (x : Double) : String :=
  String.ofList ((if x.isNegative then ['-'] else []) ++ write .shortest false false x)

end EventTemplate.Double
