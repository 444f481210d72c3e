import EventTemplate.Property.Basic

/-
  The grammar of a hole's body: an operator `@` or `$`, a designator of letters, digits and
  underscores, an alignment after a comma and a format after a colon. Only the designator has to
  be there, nothing may stand between the parts, and nothing may follow.
-/

namespace EventTemplate

/-- The parts of a body as they are written. -/
structure Body where
  operator : Operator
  designator : List Char
  alignment : Option (List Char)
  format : Option (List Char)
  deriving DecidableEq, Repr

/-- Why a body is not a property, and how many characters of it were read before that. -/
inductive BodyFault where
  /-- There is no designator; `found` stands in its place, or nothing does. -/
  | nameExpected (offset : Nat) (found : Option Char)
  /-- All parts are read and something follows. -/
  | unexpected (offset : Nat) (found : Char)
  deriving DecidableEq, Repr

namespace BodyFault

/-- How many characters were read. -/
def offset : BodyFault → Nat
  | nameExpected n _ => n
  | unexpected n _ => n

end BodyFault

namespace Body

/-- The characters of designators, all of them ASCII. -/
def isWordChar (c : Char) : Bool :=
  c.isAlphanum || c = '_'

/-- An operator, and what follows it. -/
def readOperator : List Char → Operator × List Char
  | '@' :: rest => (.structured, rest)
  | '$' :: rest => (.stringified, rest)
  | cs => (.plain, cs)

/-- An optional minus, and what follows it. -/
def readMinus : List Char → List Char × List Char
  | '-' :: rest => (['-'], rest)
  | cs => ([], cs)

/-- An alignment, and what follows it: a comma and a whole number in decimal digits. A comma
without a number is not touched. -/
def readAlignment : List Char → Option (List Char) × List Char
  | ',' :: cs =>
    let (minus, rest) := readMinus cs
    let digits := rest.takeWhile Char.isDigit
    if digits.isEmpty then (none, ',' :: cs)
    else (some (minus ++ digits), rest.dropWhile Char.isDigit)
  | cs => (none, cs)

/-- A format, and what follows it: a colon and characters up to a closing brace. A colon without a
character behind it is not touched. -/
def readFormat : List Char → Option (List Char) × List Char
  | ':' :: cs =>
    let format := cs.takeWhile (· ≠ '}')
    if format.isEmpty then (none, ':' :: cs) else (some format, cs.dropWhile (· ≠ '}'))
  | cs => (none, cs)

def read (cs : List Char) : Except BodyFault Body :=
  let (operator, rest) := readOperator cs
  let designator := rest.takeWhile isWordChar
  if designator.isEmpty then .error (.nameExpected (cs.length - rest.length) rest.head?)
  else
    let (alignment, rest) := readAlignment (rest.dropWhile isWordChar)
    let (format, rest) := readFormat rest
    match rest with
    | [] => .ok ⟨operator, designator, alignment, format⟩
    | c :: _ => .error (.unexpected (cs.length - rest.length) c)

/-- Whether a body ends, or goes on with an alignment or a format, where its designator should be.
-/
def lacksName (cs : List Char) : Bool :=
  match (readOperator cs).2 with
  | [] => true
  | c :: _ => c = ',' || c = ':'

/-- The designator that letters, digits and underscores stand for: an index if all are digits. -/
def designatorOf (cs : List Char) : Except DecimalError Designator :=
  if cs.all Char.isDigit then (Decimal.read cs).map .index else .ok (.name (String.ofList cs))

/-- The whole number that a minus, if any, and digits stand for. -/
def alignmentOf : List Char → Except DecimalError Int
  | '-' :: cs => (Decimal.read cs).map fun n => -(n : Int)
  | cs => (Decimal.read cs).map Int.ofNat

/-- The property that a body describes, read from `source`. -/
def toProperty (b : Body) (source : Option String) : Except DecimalError Property := do
  let designator ← designatorOf b.designator
  let alignment ← b.alignment.mapM alignmentOf
  return {
    designator
    operator := b.operator
    alignment
    format := b.format.map String.ofList
    source }

end Body

end EventTemplate
