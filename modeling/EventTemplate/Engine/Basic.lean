import EventTemplate.Cache.Basic
import EventTemplate.Event.Serialized
import EventTemplate.Settings.Basic

/-
  Engines: settings and a formatter at work on a cache, which engines may share. An engine parses
  raw templates, captures events, renders them, and revives serialized ones. If the settings take
  rejected raw templates as literal text, the engine remembers for which of them it did so: the
  cache never holds them, and the rejection is reported once as long as it is remembered.
-/

namespace EventTemplate

/-- An engine. It writes no text that takes more than `room` characters to pad or to format. -/
structure Engine where
  settings : Settings := {}
  room : Nat := usualRoom
  formatter : Formatter := .standard room

/-- What the operations of an engine change: the cache, the engine's literal templates, and the
serial number for the next template that is made. -/
structure Stores where
  cache : Cache
  literals : Recent Instance
  nextSerial : Nat := 0

inductive EngineError where
  | parse (why : ParseError)
  | revive (why : ReviveError)
  | render (why : RenderError)

/-- What an operation brings: its answer, the stores after it, and the log of it. -/
structure Outcome (α : Type) where
  answer : Except EngineError α
  stores : Stores
  records : List Record := []

/-- Goes on with the answer, if there is one, in pure calculation. -/
def Outcome.map {α β : Type} (f : α → Except EngineError β) (o : Outcome α) : Outcome β :=
  ⟨o.answer.bind f, o.stores, o.records⟩

namespace Stores

/-- Asks the cache for a template; every question uses up a serial number. -/
def fetch (s : Stores) (raw : String) : Except ParseError Instance × Stores × List Record :=
  let fetched := s.cache.fetch s.nextSerial raw
  (fetched.answer, { s with cache := fetched.cache, nextSerial := s.nextSerial + 1 },
    fetched.records)

/-- Makes the literal template of a raw template and remembers it. -/
def makeLiteral (s : Stores) (raw : String) : Instance × Stores :=
  let i : Instance := ⟨s.nextSerial, .literal raw⟩
  (i, { s with literals := (s.literals.insert raw i).1, nextSerial := s.nextSerial + 1 })

end Stores

namespace Engine

/-- The store of literal templates that settings ask for; it is as large as the cache. -/
def createLiterals (settings : Settings) : Except SizeError (Recent Instance) :=
  if !fitsWord settings.cacheSize then .error .tooLarge
  else if settings.cacheSize < 0 then .error .negativeStore
  else .ok { capacity := settings.cacheSize.toNat }

/-- The template of a raw template: remembered as literal, or from the cache, or, if it is rejected
and that is the policy, literal from now on. -/
def parse (e : Engine) (s : Stores) (raw : String) : Outcome Instance :=
  match s.literals.get? raw with
  | some i => ⟨.ok i, { s with literals := s.literals.touch raw }, []⟩
  | none =>
    let (answer, s, records) := s.fetch raw
    match answer with
    | .ok i => ⟨.ok i, s, records⟩
    | .error (.decimal why) => ⟨.error (.parse (.decimal why)), s, records⟩
    | .error (.rejected why) => match e.settings.invalid with
      | .report => ⟨.error (.parse (.rejected why)), s, records⟩
      | .literal =>
        let (i, s) := s.makeLiteral raw
        ⟨.ok i, s, records ++ [.literal raw why.message]⟩

def renderer (e : Engine) : Renderer :=
  { e.settings.renderer with room := e.room }

/-- The text of an event, by the engine's formatter or another. -/
def render (e : Engine) (event : Event) (formatter : Option Formatter := none) :
    Except EngineError String :=
  (e.renderer.render (formatter.getD e.formatter) event).mapError .render

/-- Parses a raw template and binds arguments to it; the instance comes with the event. -/
def capture (e : Engine) (s : Stores) (raw : String) (args : List Value) :
    Outcome (Instance × Event) :=
  (e.parse s raw).map fun i => .ok (i, .bind i.template args)

def format (e : Engine) (s : Stores) (raw : String) (args : List Value) : Outcome String :=
  (e.capture s raw args).map fun (_, event) => e.render event

/-- Revives a serialized event. Its raw template has to be valid whatever the policy is. -/
def revive (_ : Engine) (s : Stores) (stored : Serialized) : Outcome (Instance × Event) :=
  match stored.checked with
  | .error why => ⟨.error (.revive why), s, []⟩
  | .ok raw =>
    let (answer, s, records) := s.fetch raw
    match answer with
    | .ok i =>
      ⟨((stored.fill i.template).map (i, ·)).mapError (.revive ∘ .decimal), s, records⟩
    | .error why => ⟨.error (.revive (.parse why)), s, records⟩

def written (e : Engine) (c : Cache) : String :=
  "MessageTemplates(" ++ e.settings.written ++ ", " ++ c.written ++ ")"

end Engine

end EventTemplate
