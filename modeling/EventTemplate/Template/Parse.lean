import EventTemplate.Position
import EventTemplate.Problem.Basic
import EventTemplate.Problem.Log
import EventTemplate.Template.Basic
import EventTemplate.Token.Scan

/-
  From tokens to a template. Every problem of the holes is found, in order, and then what is wrong
  with the designators of all properties together; a raw template without problems is a template.
  A number with too many digits ends the parsing at once, whatever else is found.
-/

namespace EventTemplate

/-- Why there is no property in a hole. -/
inductive HoleError where
  | problem (why : Problem)
  | decimal (why : DecimalError)
  deriving DecidableEq, Repr

/-- The property in a hole, or why there is none; `raw` is the raw template if it is known. -/
def Hole.property (raw : Option String) (h : Hole) : Except HoleError Property :=
  if !h.closed then
    if itemAt? (raw.getD "").toList h.stop = some '{' then
      .error (.problem (.bareBrace h.print h.stop))
    else .error (.problem (.unterminated h.print h.start))
  else if Body.lacksName h.body.toList then .error (.problem (.emptyName h.print h.start))
  else match Body.read h.body.toList with
    | .ok body => (body.toProperty (some h.print)).mapError .decimal
    | .error fault => .error (.problem (.ofFault (h.start + 1) fault))

/-- Puts a text in front of elements; two texts in a row become one. -/
def Element.consText (s : String) : List Element → List Element
  | .text s' :: rest => .text (s ++ s') :: rest
  | rest => .text s :: rest

/-- The elements that tokens stand for. A hole with a problem stands for nothing. -/
def Token.elements (raw : Option String) : List Token → Except DecimalError (List Element)
  | [] => .ok []
  | .run r :: rest => (elements raw rest).map (Element.consText r.text)
  | .hole h :: rest => match h.property raw with
    | .ok p => (elements raw rest).map (.property p :: ·)
    | .error (.problem _) => elements raw rest
    | .error (.decimal why) => .error why

/-- The problems of the holes among tokens, in order. -/
def Token.problems (raw : Option String) : List Token → List Problem
  | [] => []
  | .run _ :: rest => problems raw rest
  | .hole h :: rest => match h.property raw with
    | .error (.problem p) => p :: problems raw rest
    | _ => problems raw rest

/-- One problem for every name that was seen before. -/
def Problem.repeatedNames (seen : List String) : List Property → List Problem
  | [] => []
  | p :: rest => match p.designator with
    | .index _ => repeatedNames seen rest
    | .name s =>
      if s ∈ seen then .repeatedName s :: repeatedNames seen rest
      else repeatedNames (s :: seen) rest

/-- What is wrong with the designators of properties taken together: they have to be all names or
all indices, and a name has to be unique. -/
def Problem.ofDesignators (ps : List Property) : List Problem :=
  (if ps.any (!·.designator.isIndex) && ps.any (·.designator.isIndex) then [.mixedDesignators]
    else []) ++ repeatedNames [] ps

/-- Why there is no template: the raw template and its problems. -/
structure Rejection where
  raw : String
  log : Log Problem
  deriving DecidableEq, Repr

/-- The log of a rejection in words. -/
def Rejection.message (r : Rejection) : String :=
  r.log.text (Problem.message (some r.raw))

/-- Why parsing fails. Only a rejection is a judgement on the raw template. -/
inductive ParseError where
  | rejected (why : Rejection)
  | decimal (why : DecimalError)
  deriving DecidableEq, Repr

def ParseError.message : ParseError → String
  | rejected why => why.message
  | decimal why => why.message

namespace Template

/-- The template of a raw template with these elements, if no problem is found in them or was found
before. -/
def ofElements (raw : String) (problems : List Problem) (elements : List Element) :
    Except Rejection Template :=
  let problems := problems ++ Problem.ofDesignators (elements.filterMap Element.property?)
  if problems.isEmpty then .ok ⟨raw, elements⟩ else .error ⟨raw, .ofTerminal problems⟩

/-- The template that tokens stand for. Where no raw template is given, it is put together from
the tokens. -/
def ofTokens (tokens : List Token) (raw : Option String := none) : Except ParseError Template :=
  let raw := raw.getD (String.join (tokens.map Token.print))
  match Token.elements (some raw) tokens with
  | .ok elements =>
    (ofElements raw (Token.problems (some raw) tokens) elements).mapError .rejected
  | .error why => .error (.decimal why)

/-- The template that a raw template is. -/
def parse (raw : String) : Except ParseError Template :=
  ofTokens (scan raw) (some raw)

end Template

end EventTemplate
