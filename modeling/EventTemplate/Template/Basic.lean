import EventTemplate.Property.Basic

/-
  Templates: a raw template together with the elements it consists of. The raw template is the
  identity of the kind of event that the template describes.
-/

namespace EventTemplate

structure Template where
  raw : String
  elements : List Element
  deriving DecidableEq, Repr

namespace Template

/-- The properties among the elements. -/
def properties (t : Template) : List Property :=
  t.elements.filterMap Element.property?

/-- Whether values are designated by index. A template without properties counts as indexed. -/
def isIndexed (t : Template) : Bool :=
  t.properties.all (·.designator.isIndex)

/-- The designators of the properties, each at its first place. -/
def designators (t : Template) : List Designator :=
  (t.properties.map (·.designator)).eraseDups

/-- The template that a raw template is when all of it is text. -/
def literal (raw : String) : Template :=
  ⟨raw, if raw.isEmpty then [] else [.text raw]⟩

end Template

end EventTemplate
