import EventTemplate.Engine.Basic
import EventTemplate.Position

/-
  Sessions: several engines at work side by side, with a cache each or one cache for all, and the
  events that they have captured. A session goes from action to action; what fails changes no more
  than what was done before it failed.
-/

namespace EventTemplate

/-- An engine in a session: which cache it works on, and its literal templates. -/
structure Station where
  engine : Engine
  cache : Nat
  literals : Recent Instance

structure Session where
  caches : List Cache
  stations : List Station
  nextSerial : Nat := 0
  /-- The events that were captured or revived, in order, with the instances of their templates. -/
  events : List (Instance × Event) := []

/-- What can be done in a session. Engines and events go by their numbers, and the last ones by
negative numbers. -/
inductive Action where
  | parse (on : Int) (raw : String)
  | capture (on : Int) (raw : String) (args : List Value)
  | format (on : Int) (raw : String) (args : List Value)
  | render (on event : Int) (formatter : Option Formatter)
  | serialize (event : Int)
  | deserialize (on : Int) (stored : Serialized)
  /-- Serializes an event and revives it. -/
  | revive (on event : Int)
  /-- Compares two events. -/
  | compare (event other : Int)
  | contains (on : Int) (raw : String)
  /-- Clears an engine's cache. -/
  | clear (on : Int)
  /-- Writes an engine out. -/
  | describe (on : Int)

inductive Answer where
  | template (i : Instance)
  | event (i : Instance) (e : Event)
  | text (s : String)
  | serialized (s : Serialized)
  | equal (b : Bool)
  | contained (b : Bool)
  | cleared
  | description (s : String)

inductive SessionError where
  | engine (why : EngineError)
  /-- An event cannot be serialized. -/
  | decimal (why : DecimalError)
  /-- There is no engine or event of that number. -/
  | unknownNumber (number : Int)

/-- What is said of a number that nothing has. -/
def SessionError.unknownMessage (number : Int) : String :=
  if fitsWord number then "list index out of range" else tooFarMessage

namespace Session

/-- The cache of a new engine: the shared one, or one of its own behind those there are. -/
def cacheFor (shared : Bool) (caches : List Cache) (settings : Settings) :
    Except SizeError (List Cache × Nat) :=
  if shared then .ok (caches, 0)
  else do
    let own ← Cache.create settings.cacheSize
    return (caches ++ [own], caches.length)

def addEngine (shared : Bool) (s : Session) (engine : Engine) : Except SizeError Session := do
  let (caches, cache) ← cacheFor shared s.caches engine.settings
  let literals ← Engine.createLiterals engine.settings
  return { s with caches, stations := s.stations ++ [⟨engine, cache, literals⟩] }

/-- A session of engines, on one cache of the given size or on a cache each. -/
def create (engines : List Engine) (shared : Option Int) : Except SizeError Session := do
  let caches ← match shared with
    | some size => (Cache.create size).map ([·])
    | none => .ok []
  engines.foldlM (addEngine shared.isSome) { caches, stations := [] }

/-- The place of a station, the station, and what its engine works on. -/
def stores? (s : Session) (on : Int) : Option (Nat × Station × Stores) := do
  let place ← placeOf? s.stations.length on
  let station ← s.stations[place]?
  let cache ← s.caches[station.cache]?
  return (place, station, ⟨cache, station.literals, s.nextSerial⟩)

def update (s : Session) (place : Nat) (station : Station) (stores : Stores) : Session :=
  { s with
    caches := s.caches.set station.cache stores.cache
    stations := s.stations.set place { station with literals := stores.literals }
    nextSerial := stores.nextSerial }

/-- What an action leads to: the answer, the session after it, and the log of it. -/
structure Result where
  answer : Except SessionError Answer
  session : Session
  records : List Record := []

def unknown (s : Session) (number : Int) : Result :=
  ⟨.error (.unknownNumber number), s, []⟩

def reply (s : Session) (answer : Answer) : Result :=
  ⟨.ok answer, s, []⟩

def work {α : Type} (s : Session) (on : Int) (job : Engine → Stores → Outcome α)
    (answer : α → Answer) : Result :=
  match s.stores? on with
  | none => s.unknown on
  | some (place, station, stores) =>
    let o := job station.engine stores
    ⟨(o.answer.map answer).mapError .engine, s.update place station o.stores, o.records⟩

/-- Keeps the event of an answer, if it is one. -/
def keepEvent (r : Result) : Result :=
  match r.answer with
  | .ok (.event i e) => { r with session.events := r.session.events ++ [(i, e)] }
  | _ => r

def withEvent (s : Session) (event : Int) (f : Event → Result) : Result :=
  match itemAt? s.events event with
  | none => s.unknown event
  | some (_, e) => f e

/-- Does something with an event of the session when it is serialized. -/
def withSerialized (s : Session) (event : Int) (f : Serialized → Result) : Result :=
  s.withEvent event fun e => match e.serialize with
    | .ok stored => f stored
    | .error why => ⟨.error (.decimal why), s, []⟩

def perform (s : Session) : Action → Result
  | .parse on raw => s.work on (·.parse · raw) .template
  | .capture on raw args =>
    keepEvent (s.work on (·.capture · raw args) fun (i, e) => .event i e)
  | .format on raw args => s.work on (·.format · raw args) .text
  | .render on event formatter => s.withEvent event fun e =>
    s.work on (fun engine stores => ⟨engine.render e formatter, stores, []⟩) .text
  | .serialize event => s.withSerialized event fun stored => s.reply (.serialized stored)
  | .deserialize on stored =>
    keepEvent (s.work on (·.revive · stored) fun (i, e) => .event i e)
  | .revive on event => s.withSerialized event fun stored =>
    keepEvent (s.work on (·.revive · stored) fun (i, e) => .event i e)
  | .compare event other => s.withEvent event fun e => s.withEvent other fun e' =>
    s.reply (.equal (e.same e'))
  | .contains on raw =>
    s.work on (fun _ stores => ⟨.ok (stores.cache.contains raw), stores, []⟩) .contained
  | .clear on =>
    s.work on (fun _ stores => ⟨.ok (), { stores with cache := stores.cache.clear }, []⟩)
      fun _ => .cleared
  | .describe on =>
    s.work on (fun engine stores => ⟨.ok (engine.written stores.cache), stores, []⟩) .description

/-- How many templates the cache of each engine holds. -/
def cached (s : Session) : List Nat :=
  s.stations.map fun st => (s.caches[st.cache]?.map Cache.size).getD 0

end Session

end EventTemplate
