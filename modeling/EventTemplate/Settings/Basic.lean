import EventTemplate.Cache.Basic
import EventTemplate.Render.Basic

/-
  Settings: how many templates are kept, and what is done with properties that have no value and
  with raw templates that are rejected.
-/

namespace EventTemplate

/-- What is done with a raw template that is rejected: the caller learns of it, or it is taken as
literal text. -/
inductive InvalidPolicy where
  | report
  | literal
  deriving DecidableEq, Repr

def InvalidPolicy.name : InvalidPolicy → String
  | report => "raise"
  | literal => "literal"

/-- Settings. A cache size of zero stands for no bound. -/
structure Settings where
  cacheSize : Int := 0
  unbound : UnboundPolicy := .verbatim
  sentinel : String := "<unbound>"
  invalid : InvalidPolicy := .report
  deriving DecidableEq, Repr

def UnboundPolicy.written : UnboundPolicy → String
  | verbatim => "<UnboundPolicy.VERBATIM: 'verbatim'>"
  | sentinel => "<UnboundPolicy.SENTINEL: 'sentinel'>"

def InvalidPolicy.written : InvalidPolicy → String
  | report => "<InvalidTemplatePolicy.RAISE: 'raise'>"
  | literal => "<InvalidTemplatePolicy.LITERAL: 'literal'>"

namespace Settings

def written (s : Settings) : String :=
  "Settings(cache_size=" ++ toString s.cacheSize ++ ", unbound_policy=" ++ s.unbound.written
    ++ ", unbound_sentinel=" ++ Text.quoted s.sentinel ++ ", invalid_templates="
    ++ s.invalid.written ++ ")"

def renderer (s : Settings) : Renderer where
  policy := s.unbound
  sentinel := s.sentinel

end Settings

end EventTemplate
