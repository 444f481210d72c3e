import EventTemplate.Event.Basic
import EventTemplate.Template.Parse

/-
  Serialized events: the raw template and the bound values under their designators written as
  texts. The elements of the template and the tags of the values are not stored, and come back
  with the template when the raw template is parsed again.
-/

namespace EventTemplate

/-- A serialized event. What comes from elsewhere may lack each of the fields. -/
structure Serialized where
  version : Option Value := none
  template : Option String := none
  properties : Option (List (String × Value)) := none
  deriving Repr

/-- The newest version of the form. -/
def currentVersion : Int := 1

def Event.serialize (e : Event) : Except DecimalError Serialized := do
  let entries ← e.values.mapM fun (d, v) => do return (← d.print, v)
  return {
    version := some (.int currentVersion)
    template := some e.template.raw
    properties := some (bindings entries) }

/-- Why a serialized event cannot be revived. -/
inductive ReviveError where
  /-- The version is newer than the newest one known. -/
  | newerVersion (version : Value)
  /-- The version is no number. -/
  | unorderedVersion (version : Value)
  | missingTemplate
  | parse (why : ParseError)
  /-- A designator of the template cannot be written. -/
  | decimal (why : DecimalError)
  deriving Repr

/-- The error in words; a version that cannot be written is told of instead. -/
def ReviveError.message : ReviveError → String
  | newerVersion v => match v.plain with
    | .ok version =>
      "Cannot deserialize CapturedEvent of version " ++ version ++ ", newest known version is "
        ++ toString currentVersion
    | .error why => why.message
  | unorderedVersion v => "'>' not supported between instances of '" ++ v.kindName ++ "' and 'int'"
  | missingTemplate => Text.quoted "template"
  | parse why => why.message
  | decimal why => why.message

/-- Whether a floating-point number is greater than one. -/
def Double.exceedsOne : Double → Bool
  | finite negative m e => let (num, den) := ratio m e; !negative && den < num
  | infinite negative => !negative
  | notANumber => false

namespace Serialized

/-- Whether a version is newer than the newest one known; `none` if it is no number. -/
def newer? : Value → Option Bool
  | .int n => some (currentVersion < n)
  | .bool b => some (currentVersion < Value.ofBool b)
  | .real x _ => some x.exceedsOne
  | _ => none

/-- Checks the version first, and then that there is a raw template, which is the result. -/
def checked (s : Serialized) : Except ReviveError String :=
  match s.version with
  | none => template s
  | some v => match newer? v with
    | none => .error (.unorderedVersion v)
    | some true => .error (.newerVersion v)
    | some false => template s
where
  /-- The raw template. -/
  template (s : Serialized) : Except ReviveError String :=
    match s.template with
    | some raw => .ok raw
    | none => .error .missingTemplate

/-- The event of a template with the stored values: each designator at its first place, if there is
a value under its text, with the tag of its first property. -/
def fill (s : Serialized) (t : Template) : Except DecimalError Event := do
  let stored := s.properties.getD []
  let bound ← t.properties.foldlM (fun bound p => do
    return match stored.lookup (← p.designator.print) with
      | some v => bindNew p.designator ⟨v, p.operator⟩ bound
      | none => bound) []
  return ⟨t, bound⟩

end Serialized

end EventTemplate
