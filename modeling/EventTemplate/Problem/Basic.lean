import EventTemplate.Property.Body
import EventTemplate.Text.Quoted

/-
  What can be wrong with a raw template. Positions count characters from the start of the raw
  template.
-/

namespace EventTemplate

/-- Something that keeps a raw template from being a template. -/
inductive Problem where
  /-- A hole is not closed before the next one opens at `position`. -/
  | bareBrace (hole : String) (position : Int)
  /-- A hole is not closed at all. -/
  | unterminated (hole : String) (start : Int)
  /-- A hole has nothing where its designator should be. -/
  | emptyName (hole : String) (start : Int)
  /-- A hole has something else where its designator should be, or ends there. -/
  | nameExpected (found : Option Char) (position : Int)
  /-- Something follows in a hole when all its parts are read. -/
  | unexpected (found : Char) (position : Int)
  /-- There are names among the designators, and indices too. -/
  | mixedDesignators
  /-- A name designates two properties. -/
  | repeatedName (name : String)
  deriving DecidableEq, Repr

namespace Problem

/-- The line that a position belongs to, and a caret under the position. -/
def pointer (line : Option String) (position : Int) : String :=
  match line with
  | some line =>
    ":\n\t" ++ line ++ "\n\t" ++ String.ofList (List.replicate position.toNat ' ') ++ "^"
  | none => ""

/-- The problem in words; a syntax error also shows the raw template, if there is one. -/
def message (line : Option String) : Problem → String
  | bareBrace hole position =>
    "Bare `\x7b` inside property `" ++ hole ++ "` at position " ++ toString position
  | unterminated hole start =>
    "Unterminated property `" ++ hole ++ "` starting at position " ++ toString start
  | emptyName hole start =>
    "Empty property name in `" ++ hole ++ "` at position " ++ toString start
  | nameExpected (some c) position =>
    "Unexpected character " ++ Text.quoted (String.singleton c) ++ " at position "
      ++ toString position ++ ", expected property name or index" ++ pointer line position
  | nameExpected none position =>
    "Unexpected end of property at position " ++ toString position
      ++ ", expected property name or index" ++ pointer line position
  | unexpected c position =>
    "Unexpected character " ++ Text.quoted (String.singleton c) ++ " at position "
      ++ toString position ++ pointer line position
  | mixedDesignators => "Do not mix named properties with indexed properties!"
  | repeatedName name => "Property name `" ++ name ++ "` occurs more than once."

section Equations

variable (line : Option String) (hole name : String) (c : Char) (position : Int)

@[simp] theorem message_bareBrace : (bareBrace hole position).message line =
    "Bare `\x7b` inside property `" ++ hole ++ "` at position " ++ toString position := rfl

@[simp] theorem message_unterminated : (unterminated hole position).message line =
    "Unterminated property `" ++ hole ++ "` starting at position " ++ toString position := rfl

@[simp] theorem message_emptyName : (emptyName hole position).message line =
    "Empty property name in `" ++ hole ++ "` at position " ++ toString position := rfl

@[simp] theorem message_nameExpected_some : (nameExpected (some c) position).message line =
    "Unexpected character " ++ Text.quoted (String.singleton c) ++ " at position "
      ++ toString position ++ ", expected property name or index" ++ pointer line position := rfl

@[simp] theorem message_nameExpected_none : (nameExpected none position).message line =
    "Unexpected end of property at position " ++ toString position
      ++ ", expected property name or index" ++ pointer line position := rfl

@[simp] theorem message_unexpected : (unexpected c position).message line =
    "Unexpected character " ++ Text.quoted (String.singleton c) ++ " at position "
      ++ toString position ++ pointer line position := rfl

@[simp] theorem message_mixedDesignators : mixedDesignators.message line =
    "Do not mix named properties with indexed properties!" := rfl

@[simp] theorem message_repeatedName : (repeatedName name).message line =
    "Property name `" ++ name ++ "` occurs more than once." := rfl

end Equations

/-- The problem that a fault in a body is, when the body begins at position `offset`. -/
def ofFault (offset : Int) : BodyFault → Problem
  | .nameExpected n found => .nameExpected found (offset + n)
  | .unexpected n found => .unexpected found (offset + n)

end Problem

end EventTemplate
