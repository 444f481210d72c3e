import EventTemplate.Event.Basic
import EventTemplate.Limit
import EventTemplate.Render.Formatter

/-
  Rendering: the values of an event put back into its template. Literal text stays, a bound value
  is formatted and padded, and the renderer's policy says what stands for an unbound property.
-/

namespace EventTemplate

/-- What stands for a property that has no value: the hole itself, or a text that is always the
same. -/
inductive UnboundPolicy where
  | verbatim
  | sentinel
  deriving DecidableEq, Repr

def UnboundPolicy.name : UnboundPolicy → String
  | verbatim => "verbatim"
  | sentinel => "sentinel"

/-- A renderer. No text is padded to more than `room` characters. -/
structure Renderer where
  policy : UnboundPolicy := .verbatim
  sentinel : String := "<unbound>"
  room : Nat := usualRoom
  deriving DecidableEq, Repr

/-- Why there is no text. -/
inductive RenderError where
  | formatter (why : FormatterError)
  /-- A hole that has no value cannot be written. -/
  | decimal (why : DecimalError)
  /-- An alignment is wider than any text can be. -/
  | tooWide
  /-- There is no room for a text as wide as an alignment. -/
  | noRoom
  deriving DecidableEq, Repr

def RenderError.message : RenderError → String
  | formatter why => why.message
  | decimal why => why.message
  | tooWide => tooLargeMessage
  | noRoom => ""

/-- Pads a text with spaces: on the left up to a positive width, on the right up to a negative
one. Padding to more than `room` characters fails. -/
def align (room : Nat) (alignment : Option Int) (text : String) : Except RenderError String :=
  match alignment with
  | none => .ok text
  | some w =>
    if greatestSize < w.natAbs then .error .tooWide
    else if room < w.natAbs ∧ text.length < w.natAbs then .error .noRoom
    else if w < 0 then .ok (String.ofList (Text.padRight ' ' w.natAbs text.toList))
    else .ok (String.ofList (Text.padLeft ' ' w.natAbs text.toList))

namespace Renderer

/-- The text of a bound property. -/
def bound (r : Renderer) (formatter : Formatter) (p : Property) (v : Value) :
    Except RenderError String :=
  match formatter v p.format with
  | .ok text => align r.room p.alignment text
  | .error why => .error (.formatter why)

/-- The text of a property without a value. -/
def unbound (r : Renderer) (p : Property) : Except RenderError String :=
  match r.policy with
  | .verbatim => p.print.mapError .decimal
  | .sentinel => .ok r.sentinel

/-- The text of one element. -/
def element (r : Renderer) (formatter : Formatter) (e : Event) : Element →
    Except RenderError String
  | .text s => .ok s
  | .property p => match e.get? p.designator with
    | some c => r.bound formatter p c.value
    | none => r.unbound p

/-- The texts of elements in order; the first failure ends it. -/
def elements (r : Renderer) (formatter : Formatter) (e : Event) : List Element →
    Except RenderError (List String)
  | [] => .ok []
  | x :: rest => do
    let s ← r.element formatter e x
    let ss ← r.elements formatter e rest
    return s :: ss

/-- The text of an event. -/
def render (r : Renderer) (formatter : Formatter) (e : Event) : Except RenderError String :=
  (r.elements formatter e e.template.elements).map String.join

/-- The renderer written out for a reader of logs. -/
def written (r : Renderer) : String :=
  "Renderer(unbound_policy=" ++ r.policy.name ++ ", sentinel=" ++ Text.quoted r.sentinel ++ ")"

end Renderer

end EventTemplate
