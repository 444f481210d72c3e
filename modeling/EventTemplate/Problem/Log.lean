/-
  Logs of messages. A message that comes again at once is counted and not repeated.
-/

namespace EventTemplate

/-- A log: the messages with their counts, newest first, and whether one of them was terminal. -/
structure Log (α : Type) where
  newestFirst : List (α × Nat) := []
  terminal : Bool := false
  deriving DecidableEq, Repr

/-- The notice that a log gives of a new entry, labelled by the call that made it. -/
structure Notice (α : Type) where
  terminal : Bool
  message : α
  deriving DecidableEq, Repr

namespace Log

variable {α : Type} [DecidableEq α]

/-- The messages with their counts, in the order in which they came. -/
def entries (log : Log α) : List (α × Nat) :=
  log.newestFirst.reverse

/-- Adds a message; gives notice if it makes an entry of its own. -/
def add (log : Log α) (message : α) (terminal : Bool) : Log α × Option (Notice α) :=
  let ended := log.terminal || terminal
  match log.newestFirst with
  | (last, count) :: rest =>
    if last = message then (⟨(last, count + 1) :: rest, ended⟩, none)
    else (⟨(message, 1) :: (last, count) :: rest, ended⟩, some ⟨terminal, message⟩)
  | [] => (⟨[(message, 1)], ended⟩, some ⟨terminal, message⟩)

/-- The messages that a log has counted, one by one. -/
def expanded (log : Log α) : List α :=
  log.entries.flatMap fun (m, n) => List.replicate n m

theorem expanded_add (log : Log α) (m : α) (terminal : Bool) :
    (log.add m terminal).1.expanded = log.expanded ++ [m] := by
  unfold add expanded entries
  split
  · rename_i last count rest h
    split
    · rename_i e; subst e; simp [h, List.replicate_succ']
    · simp [h]
  · rename_i h; simp [h]

/-- The log of some terminal messages. -/
def ofTerminal (messages : List α) : Log α :=
  messages.foldl (fun log m => (log.add m true).1) {}

/-- One line of a log. -/
def line (write : α → String) : α × Nat → String
  | (message, count) =>
    (if 1 < count then "(" ++ toString count ++ ") " else "") ++ write message

def text (write : α → String) (log : Log α) : String :=
  if log.entries.isEmpty then "No warnings!"
  else "\n".intercalate (log.entries.map (line write))

end Log

/-- A notice as a line of the debug log. -/
def Notice.text (n : Notice String) : String :=
  (if n.terminal then "Error" else "Warning") ++ " logged: " ++ n.message

end EventTemplate
