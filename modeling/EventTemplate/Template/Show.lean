import EventTemplate.Template.Basic
import EventTemplate.Text.Quoted

/-
  Templates written out for a reader of logs: constructor by constructor, with texts in quotes.
-/

namespace EventTemplate

def Designator.written : Designator → Except DecimalError String
  | name s => .ok ("Name(name=" ++ Text.quoted s ++ ")")
  | index n => do return "Index(index=" ++ (← Decimal.print n) ++ ")"

/-- A property written out; what it does not say is left out. -/
def Property.written (p : Property) : Except DecimalError String := do
  let designator ← p.designator.written
  let operator := match p.operator with
    | .plain => []
    | op => ["operator=" ++ String.ofList op.symbol]
  let alignment ← p.alignment.mapM Decimal.printInt
  let format := p.format.toList.map fun f => "format=" ++ Text.quoted f
  return "Property(" ++ ", ".intercalate
    (designator :: operator ++ alignment.toList.map ("alignment=" ++ ·) ++ format) ++ ")"

def Element.written : Element → Except DecimalError String
  | text s => .ok ("Text(" ++ Text.quoted s ++ ")")
  | property p => p.written

def Template.written (t : Template) : Except DecimalError String := do
  return "Template(" ++ ", ".intercalate (← t.elements.mapM Element.written) ++ ")"

end EventTemplate
