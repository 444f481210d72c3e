import EventTemplate.Event.Basic

/-
  Templates and events are shared, so nobody should change one through its attributes. Nothing can
  be assigned, and nothing of a template can be deleted. Of an event the two parts that it stores
  can be deleted, each of them once; nothing else of it can.
-/

namespace EventTemplate

/-- The parts that an event stores. -/
inductive EventPart where
  | template
  | bound
  deriving DecidableEq, Repr

inductive EventAttribute where
  | stored (part : EventPart)
  /-- Worked out from the parts whenever it is asked for. -/
  | derived
  /-- What kind of thing the event is. -/
  | kind
  /-- The same for all events. -/
  | common
  deriving DecidableEq, Repr

namespace EventAttribute

/-- The attributes that are the same for all events, by their names. -/
def commonNames : List String := [
    -- looking into an event
    "get", "items", "keys", "values", "__contains__", "__getitem__", "__iter__", "__len__",
    "__reversed__",
    -- storing and reviving
    "CURRENT_VERSION", "serialize", "deserialize", "__getstate__", "__reduce__", "__reduce_ex__",
    -- comparing and writing out
    "__eq__", "__ne__", "__lt__", "__le__", "__gt__", "__ge__", "__hash__", "__repr__", "__str__",
    "__format__",
    -- making, reading and changing
    "__new__", "__init__", "__getattribute__", "__setattr__", "__delattr__", "__dir__",
    "__sizeof__",
    -- what is known of the kind
    "__doc__", "__module__", "__slots__", "__annotations__", "__abstractmethods__", "_abc_impl",
    "__class_getitem__", "__init_subclass__", "__subclasshook__"]

/-- The attribute of a name. -/
def ofName? (name : String) : Option EventAttribute :=
  if name = "template" then some (.stored .template)
  else if name = "_properties" then some (.stored .bound)
  else if name = "values_by_key" then some .derived
  else if name = "__class__" then some .kind
  else if name ∈ commonNames then some .common
  else none

end EventAttribute

/-- A template or an event in the hands of one of its users. A part of an event may be gone. -/
inductive Shared where
  | template (t : Template)
  | event (template : Option Template) (bound : Option (List (Designator × Captured)))

inductive Attempt where
  | assign (name : String) (value : Value)
  | delete (name : String)

/-- Why an attempt is refused. -/
inductive Refusal where
  /-- Things of this kind do not change. -/
  | immutable (kind : String)
  /-- There is no attribute of this name. -/
  | unknown (kind name : String)
  /-- The attribute is the same for all things of this kind. -/
  | common (kind name : String)
  /-- The attribute is not stored. -/
  | derived (kind name : String)
  /-- The attribute is already deleted. -/
  | gone (name : String)
  /-- Everything has a kind. -/
  | kindless
  deriving DecidableEq, Repr

def Refusal.message : Refusal → String
  | immutable kind => kind ++ " is immutable"
  | unknown kind name => "'" ++ kind ++ "' object has no attribute '" ++ name ++ "'"
  | common kind name => "'" ++ kind ++ "' object attribute '" ++ name ++ "' is read-only"
  | derived kind name => "property '" ++ name ++ "' of '" ++ kind ++ "' object has no deleter"
  | gone name => name
  | kindless => "can't delete __class__ attribute"

namespace Shared

/-- An event with both its parts. -/
def ofEvent (e : Event) : Shared :=
  .event e.template e.bound

/-- The event, if it still has both its parts. -/
def event? : Shared → Option Event
  | template _ => none
  | event t bound => do return ⟨← t, ← bound⟩

/-- The name of a kind of thing, as messages have it. -/
def kind : Shared → String
  | template _ => "Template"
  | event .. => "CapturedEvent"

/-- The thing without an attribute. -/
def delete (s : Shared) (name : String) : Except Refusal Shared :=
  match s with
  | template _ => .error (.immutable s.kind)
  | event t bound => match EventAttribute.ofName? name with
    | some (.stored .template) => if t.isSome then .ok (.event none bound) else .error (.gone name)
    | some (.stored .bound) => if bound.isSome then .ok (.event t none) else .error (.gone name)
    | some .derived => .error (.derived s.kind name)
    | some .kind => .error .kindless
    | some .common => .error (.common s.kind name)
    | none => .error (.unknown s.kind name)

/-- The thing after a change, or why it is not changed. -/
def change (s : Shared) : Attempt → Except Refusal Shared
  | .assign _ _ => .error (.immutable s.kind)
  | .delete name => s.delete name

/-- Attempts changes one after the other: why each is refused, if it is, and the thing at last. -/
def changeAll (s : Shared) : List Attempt → List (Option Refusal) × Shared
  | [] => ([], s)
  | a :: rest =>
    let (refusal, s) := match s.change a with
      | .ok s => (none, s)
      | .error why => (some why, s)
    let (refusals, s) := s.changeAll rest
    (refusal :: refusals, s)

end Shared

end EventTemplate
