import EventTemplate.Decimal
import EventTemplate.Double.Layout
import EventTemplate.Text.Quoted
import EventTemplate.Value.Basic

/-
  Values as texts: in plain, where a text is shown as it is, and written out, where it is quoted.
  What a list or dictionary holds is always written out. Only a whole number with too many digits
  has no text, and whatever holds one.
-/

namespace EventTemplate.Value

mutual

/-- The value written out, with texts in quotes. -/
def written : Value → Except DecimalError String
  | null => .ok "None"
  | bool b => .ok (if b then "True" else "False")
  | int n => Decimal.printInt n
  | real x _ => .ok x.shown
  | text s => .ok (Text.quoted s)
  | list items => do return "[" ++ ", ".intercalate (← writtenItems items) ++ "]"
  | dict entries => do return Text.braced (", ".intercalate (← writtenEntries entries))
  | foreign object _ => .ok object.written

/-- The items of a list written out. -/
def writtenItems : List Value → Except DecimalError (List String)
  | [] => .ok []
  | v :: vs => do return (← written v) :: (← writtenItems vs)

/-- The entries of a dictionary written out. -/
def writtenEntries : List (String × Value) → Except DecimalError (List String)
  | [] => .ok []
  | (k, v) :: rest => do return (Text.quoted k ++ ": " ++ (← written v)) :: (← writtenEntries rest)

end

/-- The value in plain: a text as it is, a foreign object as it shows itself. -/
def plain : Value → Except DecimalError String
  | text s => .ok s
  | foreign object _ => .ok object.shown
  | v => written v

end EventTemplate.Value
