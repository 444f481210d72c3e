import EventTemplate.Limit
import EventTemplate.Template.Parse

/-
  Templates put together from tokens that may have been made by hand. A hole of such a token may lie
  where its problem cannot be told: its end before the raw template begins, its place too far away
  to be written or to be pointed at. The first hole that cannot be dealt with ends the assembly.
-/

namespace EventTemplate

/-- Why the problem of a hole cannot be told. -/
inductive Misplacement where
  /-- The end is counted from the end of a raw template that is shorter than that. -/
  | beforeText
  /-- The end is counted from the end of a raw template, farther than a machine word counts. -/
  | beforeWord
  /-- The end is counted from the end of a raw template, and there is none. -/
  | noText
  /-- The place has too many digits to be written. -/
  | unwritable
  /-- The fault lies farther away than a machine word counts. -/
  | tooFar
  /-- There is no room for the spaces in front of the caret. -/
  | noRoom
  deriving DecidableEq, Repr

def Misplacement.message : Misplacement → String
  | beforeText => "string index out of range"
  | noText => "'NoneType' object is not subscriptable"
  | unwritable => DecimalError.tooGreat.message
  | beforeWord | tooFar => tooFarMessage
  | noRoom => ""

/-- Why a position cannot be written. -/
def Problem.unwritten? (position : Int) : Option Misplacement :=
  if Decimal.Short position.natAbs then none else some .unwritable

/-- Why a position cannot be pointed at; only a problem with a line is pointed at. -/
def Problem.unpointed? (line : Option String) (position : Int) : Option Misplacement :=
  if line.isNone then none
  else if !fitsWord position then some .tooFar
  else if usualRoom < position then some .noRoom
  else none

/-- Why a problem cannot be told. -/
def Problem.untold? (line : Option String) : Problem → Option Misplacement
  | bareBrace _ position | unterminated _ position | emptyName _ position => unwritten? position
  | nameExpected _ position | unexpected _ position =>
    (unwritten? position).or (unpointed? line position)
  | mixedDesignators | repeatedName _ => none

/-- Why the end of a hole that is not closed cannot be looked at. -/
def Hole.unseen? (raw : Option String) (h : Hole) : Option Misplacement :=
  if h.closed || 0 ≤ h.stop then none else match raw with
    | none => some .noText
    | some s =>
      if !fitsWord h.stop then some .beforeWord
      else if h.stop < -(s.length : Int) then some .beforeText
      else none

/-- Why the problem of a hole cannot be told, if it has one. -/
def Hole.misplacement? (raw : Option String) (h : Hole) : Option Misplacement :=
  (h.unseen? raw).or <| match h.property raw with
    | .error (.problem p) => p.untold? raw
    | _ => none

/-- Why there is no template. -/
inductive AssemblyError where
  | misplaced (why : Misplacement)
  | parse (why : ParseError)
  deriving Repr

def AssemblyError.message : AssemblyError → String
  | misplaced why => why.message
  | parse why => why.message

/-- Why a hole cannot be dealt with: its problem cannot be told, or a number in it not be read. -/
def Hole.interruption? (raw : Option String) (h : Hole) : Option AssemblyError :=
  match h.misplacement? raw with
  | some why => some (.misplaced why)
  | none => match h.property raw with
    | .error (.decimal why) => some (.parse (.decimal why))
    | _ => none

/-- The first interruption among tokens. -/
def Token.interruption? (raw : Option String) : List Token → Option AssemblyError
  | [] => none
  | .run _ :: rest => interruption? raw rest
  | .hole h :: rest => (h.interruption? raw).or (interruption? raw rest)

/-- The template that tokens stand for, whatever the positions of their holes. -/
def Template.assemble (tokens : List Token) (raw : Option String := none) :
    Except AssemblyError Template :=
  match Token.interruption? (some (raw.getD (String.join (tokens.map Token.print)))) tokens with
  | some why => .error why
  | none => (ofTokens tokens raw).mapError .parse

end EventTemplate
