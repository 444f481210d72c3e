import EventTemplate.FormatSpec.Number
import EventTemplate.Value.Show

/-
  Formatters: functions that turn a value and the format of its property into text. The standard
  one applies the format as a format spec where that makes sense and shows the value in plain
  where it does not. It fails only where a value has no text.
-/

namespace EventTemplate

inductive FormatterError where
  | decimal (why : DecimalError)
  /-- The error of a formatter from elsewhere: its kind and what it says. -/
  | raised (kind message : String)
  deriving DecidableEq, Repr

def FormatterError.message : FormatterError → String
  | decimal why => why.message
  | raised _ message => message

abbrev Formatter := Value → Option String → Except FormatterError String

namespace Value

/-- Writes a value under a spec that is not empty; `none` if the spec is malformed, does not apply
to the value, or asks for more than there is room for. -/
def applySpec? (room : Nat) (v : Value) (spec : String) : Option String := do
  let s ← FormatSpec.read? spec.toList
  guard (s.width.getD 0 ≤ room)
  let cs ← match v with
    | bool b => s.writeInt? room (ofBool b)
    | int n => s.writeInt? room n
    | real x _ => s.writeReal? room x
    | text t => s.writeText? t.toList
    | _ => none
  return String.ofList cs

/-- Formats a value; an empty spec shows it in plain. -/
def format? (room : Nat) (v : Value) (spec : String) : Option String :=
  match v with
  | foreign _ _ => none
  | v => if spec.isEmpty then v.plain.toOption else v.applySpec? room spec

end Value

namespace Formatter

/-- The text of the standard formatter. -/
def standardText (room : Nat) (v : Value) (format : Option String) : Except DecimalError String :=
  match v, format with
  | .null, _ => .ok "null"
  | v, none => v.plain
  | v, some spec => match v.format? room spec with
    | some text => .ok text
    | none => v.plain

/-- The standard formatter: a missing value is `null`, and a format that does not apply leaves the
value in plain. No format is applied for which there is no room. -/
def standard (room : Nat := usualRoom) : Formatter := fun v format =>
  (standardText room v format).mapError .decimal

end Formatter

end EventTemplate
