import EventTemplate.Cache.Basic

/-
  One cache, many workers. A worker that misses the cache takes the lock, looks again, and parses
  only if the template is still missing; a worker that clears the cache takes the lock too. Looking
  needs no lock. A worker moves in small steps, and the steps of several workers may come in any
  order: looking up, taking the lock, looking up again, parsing, storing, giving the lock back.
-/

namespace EventTemplate.Concurrent

/-- What a worker asks of the cache. -/
inductive Call where
  | get (raw : String)
  | clear
  deriving DecidableEq, Repr

/-- Where a worker stands. -/
inductive Phase where
  | idle
  /-- The template was missing; the worker waits for the lock. -/
  | waiting (raw : String)
  /-- The worker has the lock and is about to look again. -/
  | looking (raw : String)
  /-- The template was still missing. -/
  | parsing (raw : String)
  /-- The raw template is parsed and about to be stored. -/
  | storing (raw : String) (i : Instance)
  /-- The call is answered and the lock is about to be given back. -/
  | leaving (raw : String) (answer : Except ParseError Instance)
  /-- The worker waits for the lock to clear the cache. -/
  | waitingToClear
  | clearing
  /-- The cache is cleared and the lock is about to be given back. -/
  | cleared
  deriving Repr

/-- A worker: where it stands, the calls still to be made, and the answers it has, newest first. -/
structure Worker where
  phase : Phase := .idle
  calls : List Call
  answers : List (String × Except ParseError Instance) := []
  deriving Repr

/-- What happens to the cache, or could have. -/
inductive Happening where
  /-- A raw template was parsed with success and stored. -/
  | stored (raw : String) (i : Instance)
  /-- A raw template was parsed without success. -/
  | refused (raw : String)
  | evicted (raw : String)
  /-- A template left the cache when it was cleared. -/
  | dropped (raw : String)
  deriving DecidableEq, Repr

/-- The cache, who holds the lock, the workers, the next serial number, and what has happened so
far, newest first. -/
structure State where
  cache : Cache
  holder : Option Nat := none
  workers : List Worker
  nextSerial : Nat := 0
  history : List Happening := []

namespace State

def place (s : State) (n : Nat) (w : Worker) : State :=
  { s with workers := s.workers.set n w }

/-- A worker's step from outside the lock. -/
def begin (s : State) (n : Nat) (w : Worker) : Option State :=
  match w.calls with
  | [] => none
  | .clear :: calls => some (s.place n { w with phase := .waitingToClear, calls })
  | .get raw :: calls => match s.cache.store.get? raw with
    | some i =>
      some ({ s with cache := ⟨s.cache.store.touch raw⟩ }.place n
        { w with calls, answers := (raw, .ok i) :: w.answers })
    | none => some (s.place n { w with phase := .waiting raw, calls })

/-- A step into the lock, which has to be free. -/
def enter (s : State) (n : Nat) (w : Worker) (phase : Phase) : Option State :=
  if s.holder.isNone then some ({ s with holder := some n }.place n { w with phase }) else none

/-- A worker's step when it has the lock: one of looking, parsing, storing and leaving. -/
def act (s : State) (n : Nat) (w : Worker) : Phase → State
  | .looking raw => match s.cache.store.get? raw with
    | some i => { s with cache := ⟨s.cache.store.touch raw⟩ }.place n
        { w with phase := .leaving raw (.ok i) }
    | none => s.place n { w with phase := .parsing raw }
  | .parsing raw => match Template.parse raw with
    | .ok t => { s with nextSerial := s.nextSerial + 1 }.place n
        { w with phase := .storing raw ⟨s.nextSerial, t⟩ }
    | .error why => { s with history := .refused raw :: s.history }.place n
        { w with phase := .leaving raw (.error why) }
  | .storing raw i =>
    let (store, gone) := s.cache.store.insert raw i
    { s with
      cache := ⟨store⟩
      history := Happening.stored raw i :: gone.toList.map Happening.evicted ++ s.history }.place n
        { w with phase := .leaving raw (.ok i) }
  | .leaving raw answer => { s with holder := none }.place n
      { w with phase := .idle, answers := (raw, answer) :: w.answers }
  | .clearing => { s with
      cache := s.cache.clear
      history := s.cache.store.keys.map Happening.dropped ++ s.history }.place n
        { w with phase := .cleared }
  | .cleared => { s with holder := none }.place n { w with phase := .idle }
  | .idle | .waiting _ | .waitingToClear => s

/-- A step of worker `n`; `none` if it is done, or has to wait. -/
def step? (s : State) (n : Nat) : Option State := do
  let w ← s.workers[n]?
  match w.phase with
  | .idle => s.begin n w
  | .waiting raw => s.enter n w (.looking raw)
  | .waitingToClear => s.enter n w .clearing
  | phase => some (s.act n w phase)

def answers (s : State) : List (String × Except ParseError Instance) :=
  s.workers.flatMap (·.answers)

end State

/-- States that workers can come to, starting with an empty cache and a free lock. -/
inductive Reachable (size : Nat) (calls : List (List Call)) : State → Prop where
  | start : Reachable size calls
      { cache := ⟨{ capacity := size }⟩, workers := calls.map fun cs => { calls := cs } }
  | step {s s' : State} (n : Nat) : Reachable size calls s → s.step? n = some s' →
      Reachable size calls s'

end EventTemplate.Concurrent
