import EventTemplate.Binding
import EventTemplate.Template.Basic
import EventTemplate.Value.Equality
import EventTemplate.Value.Show

/-
  Events: a template together with the values bound to its properties at one call. Arguments are
  bound by index or in order of appearance; too few of them leave properties unbound and too many
  are ignored.
-/

namespace EventTemplate

/-- A value, tagged with the way it is meant to be captured. -/
structure Captured where
  value : Value
  operator : Operator := .plain
  deriving Repr

/-- A template and the values bound to its designators, in the order in which they were bound. -/
structure Event where
  template : Template
  bound : List (Designator × Captured)
  deriving Repr

namespace Event

/-- Binds the argument that a property's index points at, if there is one and the index is new. -/
def bindIndexed (args : List Value) (bound : List (Designator × Captured)) (p : Property) :
    List (Designator × Captured) :=
  match p.designator with
  | .index n => match args[n]? with
    | some v => bindNew p.designator ⟨v, p.operator⟩ bound
    | none => bound
  | .name _ => bound

/-- Binds arguments to the properties of a template: by index if all designators are indices, else
the first argument to the first property and so on. -/
def bind (t : Template) (args : List Value) : Event :=
  if t.isIndexed then ⟨t, t.properties.foldl (bindIndexed args) []⟩
  else ⟨t, bindings ((t.properties.zip args).map fun (p, v) =>
    (p.designator, ⟨v, p.operator⟩))⟩

/-- The value bound to a designator. -/
def get? (e : Event) (d : Designator) : Option Captured :=
  e.bound.lookup d

/-- The bound values without their tags. -/
def values (e : Event) : List (Designator × Value) :=
  e.bound.map fun (d, c) => (d, c.value)

/-- Two captured values are equal if the values and the tags are. -/
def sameCaptured (c c' : Captured) : Bool :=
  c.value.same c'.value && c.operator == c'.operator

/-- Whether every binding is found, with an equal value, among others. -/
def sameBound (bound others : List (Designator × Captured)) : Bool :=
  bound.length == others.length && bound.all fun (d, c) => (others.lookup d).any (sameCaptured c)

/-- Events are equal if their templates are and the same values are bound, in whatever order. -/
def same (e e' : Event) : Bool :=
  e.template == e'.template && sameBound e.bound e'.bound

/-- A designator written out as a key. -/
def writtenKey : Designator → Except DecimalError String
  | .name s => .ok (Text.quoted s)
  | .index n => Decimal.print n

/-- The event written out for a reader of logs. -/
def written (e : Event) : Except DecimalError String := do
  let entries ← e.values.mapM fun (d, v) => do
    return (← writtenKey d) ++ ": " ++ (← v.written)
  return "CapturedEvent(" ++ Text.quoted e.template.raw ++ ", "
    ++ Text.braced (", ".intercalate entries) ++ ")"

end Event

end EventTemplate
