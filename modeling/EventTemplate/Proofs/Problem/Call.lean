import EventTemplate.Proofs.Problem.Log
import EventTemplate.Value.Show

/-
  Logs over all the calls that were made to them, whatever the calls say and whichever of them are
  terminal. A call whose message has no text fails, and leaves the log as it was.

  Proved: entries that count messages are the shortest that spell them, and no others are as short
  (`Counts.shortest`): entries of any kind can be joined to such that count, and each joining leaves
  fewer (`exists_counts`). A log counts the messages of its calls (`counts_after`), a call gives
  notice exactly if it makes an entry (`notice_eq_some_iff`), and the log is terminal as soon as one
  of the calls is (`terminal_after`). Together: `calls_counted`.
-/

namespace EventTemplate.Log

/-! ## The shortest entries -/

section Shortest

variable {α : Type} {m : α} {n : Nat} {entries others : List (α × Nat)} {messages : List α}

theorem Counts.cons (h : Counts entries messages) (hn : 1 ≤ n) (hm : ∀ e ∈ entries.head?, m ≠ e.1) :
    Counts ((m, n) :: entries) (List.replicate n m ++ messages) := by
  refine ⟨?_, ?_, List.isChain_cons.mpr ⟨hm, h.apart⟩⟩
  · rw [spelled_cons, h.spelled]
  · intro e he
    rcases List.mem_cons.mp he with rfl | he
    · exact hn
    · exact h.counted e he

/-- More of the first message is counted in the first entry. -/
theorem Counts.more {k : Nat} (h : Counts ((m, k) :: entries) messages) (n : Nat) :
    Counts ((m, n + k) :: entries) (List.replicate n m ++ messages) := by
  have hk : 1 ≤ k := h.counted (m, k) List.mem_cons_self
  have hmessages : List.replicate k m ++ Log.spelled entries = messages := h.spelled
  have hcount := h.tail.cons (m := m) (n := n + k) (by omega) (List.isChain_cons.mp h.apart).1
  rw [List.replicate_add, List.append_assoc, hmessages] at hcount
  exact hcount

variable [DecidableEq α]

/-- Entries that spell messages are joined to entries that count them: an empty one is dropped, and
two neighbours with one message become one. If nothing is joined, they counted all along. -/
theorem exists_counts (others : List (α × Nat)) :
    ∃ entries, Counts entries (spelled others) ∧ entries.length ≤ others.length ∧
      (others.length = entries.length → others = entries) := by
  induction others with
  | nil => exact ⟨[], counts_nil, Nat.le_refl 0, fun _ => rfl⟩
  | cons e others ih =>
    obtain ⟨m, n⟩ := e
    obtain ⟨entries, hcounts, hle, heq⟩ := ih
    rw [spelled_cons]
    rcases Nat.eq_zero_or_pos n with rfl | hn
    · refine ⟨entries, hcounts, ?_, fun hlen => ?_⟩ <;> simp only [List.length_cons] at * <;> omega
    · by_cases hm : ∀ e ∈ entries.head?, m ≠ e.1
      · refine ⟨(m, n) :: entries, hcounts.cons hn hm, by simpa using hle, fun hlen => ?_⟩
        rw [heq (by simpa using hlen)]
      · obtain ⟨k, rest, rfl⟩ : ∃ k rest, entries = (m, k) :: rest := by
          cases entries with
          | nil => exact absurd (fun _ he => nomatch he) hm
          | cons e rest =>
            have he : m = e.1 := by simpa using hm
            exact ⟨e.2, rest, by rw [he]⟩
        refine ⟨(m, n + k) :: rest, hcounts.more n, ?_, fun hlen => ?_⟩ <;>
          simp only [List.length_cons] at * <;> omega

/-- Entries that count messages are fewer than any others that spell them. -/
theorem Counts.shortest (h : Counts entries messages) (hs : Log.spelled others = messages) :
    entries.length ≤ others.length ∧ (others.length = entries.length → others = entries) := by
  obtain ⟨joined, hcounts, hle, heq⟩ := exists_counts others
  rw [hs] at hcounts
  rw [h.unique hcounts]
  exact ⟨hle, heq⟩

end Shortest

/-! ## Calls -/

/-- A call that logs a message, which may be any value. -/
structure Call where
  message : Value
  terminal : Bool := false

/-- The message of a call as a text, if it has one. -/
def Call.text? (c : Call) : Option String :=
  c.message.plain.toOption

/-- The log and the notice, if there is one, that a call leaves. -/
def call (log : Log String) (c : Call) :
    Except DecimalError (Log String × Option (Notice String)) :=
  c.message.plain.map fun text => log.add text c.terminal

/-- What calls make of a new log. -/
def after (calls : List Call) : Log String :=
  calls.foldl (fun log c => match log.call c with
    | .ok (log, _) => log
    | .error _ => log) {}

variable {calls : List Call} {c : Call} {text : String}

theorem call_of_text (h : c.message.plain = .ok text) (log : Log String) :
    log.call c = .ok (log.add text c.terminal) := by
  rw [call, h]
  rfl

theorem after_snoc_of_text (h : c.message.plain = .ok text) (calls : List Call) :
    after (calls ++ [c]) = ((after calls).add text c.terminal).1 := by
  rw [after, List.foldl_append, List.foldl_cons, List.foldl_nil, ← after, call_of_text h]

theorem after_snoc_of_error {why : DecimalError} (h : c.message.plain = .error why)
    (calls : List Call) : after (calls ++ [c]) = after calls := by
  rw [after, List.foldl_append, List.foldl_cons, List.foldl_nil, ← after, call, h]
  rfl

/-- A log counts the messages of its calls. -/
theorem counts_after (calls : List Call) :
    Counts (after calls).entries (calls.filterMap Call.text?) := by
  induction calls using List.reverseRecOn with
  | nil => exact counts_nil
  | append_singleton calls c ih =>
    rw [List.filterMap_append]
    cases h : c.message.plain with
    | ok text =>
      have htext : [c].filterMap Call.text? = [text] :=
        List.filterMap_cons_some (by rw [Call.text?, h]; rfl)
      rw [after_snoc_of_text h, htext]
      exact ih.add text c.terminal
    | error why =>
      have htext : [c].filterMap Call.text? = [] :=
        List.filterMap_cons_none (by rw [Call.text?, h]; rfl)
      rw [after_snoc_of_error h, htext, List.append_nil]
      exact ih

theorem entries_eq_nil_iff (calls : List Call) :
    (after calls).entries = [] ↔ calls.filterMap Call.text? = [] := by
  have hcounts := counts_after calls
  constructor
  · intro h
    rw [h] at hcounts
    exact hcounts.spelled.symm
  · intro h
    rw [h] at hcounts
    exact hcounts.unique counts_nil

/-- A log is terminal as soon as one of its calls is. -/
theorem terminal_after (calls : List Call) :
    (after calls).terminal = true ↔ ∃ c ∈ calls, c.text?.isSome ∧ c.terminal = true := by
  induction calls using List.reverseRecOn with
  | nil => simp [after]
  | append_singleton calls c ih =>
    cases h : c.message.plain with
    | ok text =>
      rw [after_snoc_of_text h, terminal_add, Bool.or_eq_true, ih]
      simp [or_and_right, exists_or, Call.text?, h, Except.toOption]
    | error why =>
      rw [after_snoc_of_error h, ih]
      simp [or_and_right, exists_or, Call.text?, h, Except.toOption]

/-- A call gives notice of its message, as a call of its own kind, exactly if it makes an entry. -/
theorem notice_eq_some_iff (log : Log String) (text : String) (terminal : Bool)
    (notice : Notice String) :
    (log.add text terminal).2 = some notice ↔
      (log.add text terminal).1.entries = log.entries ++ [(text, 1)] ∧
        notice = ⟨terminal, text⟩ := by
  unfold add entries
  split
  · rename_i last count rest hlog
    split
    · -- the message is counted in the last entry, so that there are as many entries as before
      simp [hlog]
    · simp [hlog, eq_comm]
  · rename_i hlog
    simp [hlog, eq_comm]

/-- A log holds its calls run by run. Its entries spell the messages of the calls in order, each
entry counts at least one, and neighbours differ; so there are no fewer entries that spell the same,
no others as few, and none only if nothing was logged. The log is terminal exactly if a call was,
and stays so. A call writes a line to the debug log exactly if it makes an entry, and the line is
labelled by what the call itself was. All this leaves out the calls whose messages have no text:
they fail for the reason that there is none, and what the log holds stays. -/
theorem calls_counted (calls : List Call) :
    Counts (after calls).entries (calls.filterMap Call.text?) ∧
    (∀ others, spelled others = calls.filterMap Call.text? →
      (after calls).entries.length ≤ others.length ∧
        (others.length = (after calls).entries.length → others = (after calls).entries)) ∧
    ((after calls).entries.length = 0 ↔ calls.filterMap Call.text? = []) ∧
    ((after calls).terminal = true ↔ ∃ c ∈ calls, c.text?.isSome ∧ c.terminal = true) ∧
    (∀ more, (after calls).terminal = true → (after (calls ++ more)).terminal = true) ∧
    ∀ c,
      (∀ text, c.message.plain = .ok text → ∃ notice,
        (after calls).call c = .ok (after (calls ++ [c]), notice) ∧
          ∀ line, notice.map Notice.text = some line ↔
            (after (calls ++ [c])).entries = (after calls).entries ++ [(text, 1)] ∧
              line = (if c.terminal then "Error" else "Warning") ++ " logged: " ++ text) ∧
      ∀ why, c.message.plain = .error why →
        (after calls).call c = .error why ∧ after (calls ++ [c]) = after calls := by
  refine ⟨counts_after calls, fun others hs => (counts_after calls).shortest hs, ?_,
    terminal_after calls, fun more h => ?_, fun c => ⟨fun text htext => ?_, fun why hw => ?_⟩⟩
  · rw [List.length_eq_zero_iff, entries_eq_nil_iff]
  · obtain ⟨c, hc, hlogged⟩ := (terminal_after calls).mp h
    exact (terminal_after _).mpr ⟨c, List.mem_append_left more hc, hlogged⟩
  · rw [after_snoc_of_text htext]
    refine ⟨_, call_of_text htext _, fun line => ?_⟩
    rw [Option.map_eq_some_iff]
    constructor
    · rintro ⟨notice, hnotice, rfl⟩
      obtain ⟨hentry, rfl⟩ := (notice_eq_some_iff _ text c.terminal notice).mp hnotice
      exact ⟨hentry, rfl⟩
    · rintro ⟨hentry, rfl⟩
      exact ⟨_, (notice_eq_some_iff _ _ _ _).mpr ⟨hentry, rfl⟩, rfl⟩
  · refine ⟨?_, after_snoc_of_error hw calls⟩
    rw [call, hw]
    rfl

end EventTemplate.Log
