/-
  Stores that keep what was used last. A store of capacity `n` holds at most `n` entries and gives
  up the one that was not used for the longest time; capacity zero stands for no bound.
-/

namespace EventTemplate

/-- A store of values under texts, the most recently used first. -/
structure Recent (β : Type) where
  capacity : Nat
  entries : List (String × β) := []
  deriving Repr

namespace Recent

variable {β : Type}

/-- The texts that have values, the most recently used first. -/
def keys (s : Recent β) : List String :=
  s.entries.map (·.1)

def size (s : Recent β) : Nat :=
  s.entries.length

/-- Whether there is a value under a text; asking does not count as use. -/
def contains (s : Recent β) (key : String) : Bool :=
  s.keys.contains key

def get? (s : Recent β) (key : String) : Option β :=
  s.entries.lookup key

/-- The store after a use of a text: its entry comes first. -/
def touch (s : Recent β) (key : String) : Recent β :=
  match s.get? key with
  | some v => { s with entries := (key, v) :: s.entries.filter (·.1 ≠ key) }
  | none => s

/-- Puts a value under a text, first of all entries. If the store is full and the text is new, the
last entry goes, and its text is the second result. -/
def insert (s : Recent β) (key : String) (v : β) : Recent β × Option String :=
  let others := s.entries.filter (·.1 ≠ key)
  if s.capacity ≠ 0 ∧ s.capacity ≤ others.length then
    ({ s with entries := (key, v) :: others.dropLast }, others.getLast?.map (·.1))
  else ({ s with entries := (key, v) :: others }, none)

def clear (s : Recent β) : Recent β :=
  { s with entries := [] }

end Recent

end EventTemplate
