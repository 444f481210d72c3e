import Mathlib.Data.List.Chain
import EventTemplate.Problem.Log

/-
  What a log counts. Its entries are the messages, each with the number of times it came in a row;
  a message has an entry of its own only if it differs from the one before it (`Counts`).

  Proved: there is one way to count messages (`Counts.unique`), and a log counts every message that
  is added to it (`Counts.add`, `counts_ofTerminal`). Messages that all differ are counted once each
  (`entries_ofTerminal_append`), and where messages are written so that different ones stay
  different, the log is written so too (`entries_ofTerminal_map`). One terminal message is enough to
  end what the log is kept for, and nothing that comes later takes that back.
-/

namespace EventTemplate.Log

variable {α β : Type}

/-! ## Counting -/

/-- The messages that entries count, one by one. -/
def spelled (entries : List (α × Nat)) : List α :=
  entries.flatMap fun (m, n) => List.replicate n m

/-- Entries that count messages: each as often as it comes in a row. -/
structure Counts (entries : List (α × Nat)) (messages : List α) : Prop where
  spelled : spelled entries = messages
  counted : ∀ e ∈ entries, 1 ≤ e.2
  apart : entries.IsChain fun e e' => e.1 ≠ e'.1

theorem spelled_cons (m : α) (n : Nat) (entries : List (α × Nat)) :
    spelled ((m, n) :: entries) = List.replicate n m ++ spelled entries :=
  List.flatMap_cons

theorem counts_nil : Counts ([] : List (α × Nat)) [] :=
  ⟨rfl, fun _ he => (nomatch he), .nil⟩

/-- The first message is that of the first entry. -/
theorem head?_spelled {entries : List (α × Nat)} (h : ∀ e ∈ entries, 1 ≤ e.2) :
    (spelled entries).head? = entries.head?.map (·.1) := by
  cases entries with
  | nil => rfl
  | cons e entries =>
    obtain ⟨m, n⟩ := e
    have hn : 1 ≤ n := h (m, n) List.mem_cons_self
    obtain ⟨k, rfl⟩ : ∃ k, n = k + 1 := ⟨n - 1, by omega⟩
    rw [spelled_cons, List.replicate_succ]
    rfl

/-- Where a row of one message ends, its length can be told. -/
theorem replicate_append_inj {m : α} {n n' : Nat} {xs ys : List α}
    (hx : ∀ a ∈ xs.head?, a ≠ m) (hy : ∀ a ∈ ys.head?, a ≠ m)
    (h : List.replicate n m ++ xs = List.replicate n' m ++ ys) : n = n' ∧ xs = ys := by
  induction n generalizing n' with
  | zero =>
    cases n' with
    | zero => exact ⟨rfl, h⟩
    | succ n' =>
      have hhead : xs = m :: (List.replicate n' m ++ ys) := h
      rw [hhead] at hx
      exact absurd rfl (hx m rfl)
  | succ n ih =>
    cases n' with
    | zero =>
      have hhead : m :: (List.replicate n m ++ xs) = ys := h
      rw [← hhead] at hy
      exact absurd rfl (hy m rfl)
    | succ n' =>
      obtain ⟨hn, hrest⟩ := ih (List.tail_eq_of_cons_eq h)
      exact ⟨congrArg (· + 1) hn, hrest⟩

theorem Counts.tail {e : α × Nat} {entries : List (α × Nat)} {messages : List α}
    (h : Counts (e :: entries) messages) : Counts entries (Log.spelled entries) :=
  ⟨rfl, fun e' he' => h.counted e' (List.mem_cons_of_mem e he'), (List.isChain_cons.mp h.apart).2⟩

/-- What follows the row of the first entry is another message. -/
theorem Counts.head?_ne {m : α} {n : Nat} {entries : List (α × Nat)} {messages : List α}
    (h : Counts ((m, n) :: entries) messages) : ∀ a ∈ (Log.spelled entries).head?, a ≠ m := by
  intro a ha
  rw [head?_spelled h.tail.counted] at ha
  obtain ⟨e, he, rfl⟩ := Option.map_eq_some_iff.mp ha
  exact ((List.isChain_cons.mp h.apart).1 e he).symm

/-- There is only one way to count messages. -/
theorem Counts.unique {entries entries' : List (α × Nat)} {messages : List α}
    (h : Counts entries messages) (h' : Counts entries' messages) : entries = entries' := by
  have hhead : entries.head?.map (·.1) = entries'.head?.map (·.1) := by
    rw [← head?_spelled h.counted, ← head?_spelled h'.counted, h.spelled, h'.spelled]
  induction entries generalizing entries' messages with
  | nil =>
    cases entries' with
    | nil => rfl
    | cons e' entries' => cases hhead
  | cons e entries ih =>
    cases entries' with
    | nil => cases hhead
    | cons e' entries' =>
      obtain ⟨m, n⟩ := e
      obtain ⟨m', n'⟩ := e'
      have hm : m = m' := Option.some.inj hhead
      subst hm
      have hrows := h.spelled.trans h'.spelled.symm
      rw [spelled_cons, spelled_cons] at hrows
      obtain ⟨hn, hrest⟩ := replicate_append_inj h.head?_ne h'.head?_ne hrows
      have htail' := h'.tail
      rw [← hrest] at htail'
      have hnext : entries.head?.map (·.1) = entries'.head?.map (·.1) := by
        rw [← head?_spelled h.tail.counted, ← head?_spelled h'.tail.counted, hrest]
      rw [hn, ih h.tail htail' hnext]

/-- Messages that all differ, and differ from those that follow, are counted once each. -/
theorem Counts.append {entries : List (α × Nat)} {firsts messages : List α}
    (h : Counts entries messages) (hnodup : firsts.Nodup) (hnew : ∀ m ∈ firsts, m ∉ messages) :
    Counts (firsts.map (·, 1) ++ entries) (firsts ++ messages) := by
  refine ⟨?_, ?_, ?_⟩
  · have hfirsts : Log.spelled (firsts.map (·, 1)) = firsts := by
      simp [Log.spelled, List.flatMap_map]
    have happend : Log.spelled (firsts.map (·, 1) ++ entries) =
        Log.spelled (firsts.map (·, 1)) ++ Log.spelled entries := List.flatMap_append
    rw [happend, hfirsts, h.spelled]
  · intro e he
    rcases List.mem_append.mp he with he | he
    · obtain ⟨m, _, rfl⟩ := List.mem_map.mp he
      exact Nat.le_refl 1
    · exact h.counted e he
  · refine List.isChain_append.mpr ⟨(List.isChain_map _).mpr ?_, h.apart, ?_⟩
    · exact List.Pairwise.isChain hnodup
    · intro e he e' he'
      obtain ⟨m, hm, rfl⟩ := List.mem_map.mp (List.mem_of_getLast? he)
      have hhead : e'.1 ∈ (Log.spelled entries).head? := by
        rw [head?_spelled h.counted, he']
        rfl
      rw [h.spelled] at hhead
      intro heq
      have hsame : m = e'.1 := heq
      rw [hsame] at hm
      exact hnew e'.1 hm (List.mem_of_head? hhead)

/-- Counting what messages are written to, if it tells them apart. -/
theorem Counts.map {entries : List (α × Nat)} {messages : List α} {f : α → β}
    (h : Counts entries messages) (hf : ∀ m ∈ messages, ∀ m' ∈ messages, f m = f m' → m = m') :
    Counts (entries.map fun e => (f e.1, e.2)) (messages.map f) := by
  have hmem : ∀ e ∈ entries, e.1 ∈ messages := by
    intro e he
    rw [← h.spelled]
    refine List.mem_flatMap.mpr ⟨e, he, List.mem_replicate.mpr ⟨?_, rfl⟩⟩
    have := h.counted e he
    omega
  refine ⟨?_, ?_, ?_⟩
  · rw [← h.spelled]
    simp [Log.spelled, List.flatMap_map, List.map_flatMap]
  · intro e he
    obtain ⟨e', he', rfl⟩ := List.mem_map.mp he
    exact h.counted e' he'
  · refine (List.isChain_map _).mpr (List.IsChain.imp_of_mem_imp ?_ h.apart)
    intro e e' he he' hne heq
    exact hne (hf _ (hmem e he) _ (hmem e' he') heq)

/-! ## Adding messages -/

variable [DecidableEq α] [DecidableEq β]

/-- A log that counts messages counts one more when it is added. -/
theorem Counts.add {log : Log α} {messages : List α} (h : Counts log.entries messages)
    (message : α) (terminal : Bool) :
    Counts (log.add message terminal).1.entries (messages ++ [message]) := by
  have hexpanded := expanded_add log message terminal
  have hspelled : log.expanded = messages := h.spelled
  rw [hspelled] at hexpanded
  have hchain : log.newestFirst.IsChain fun e e' => e'.1 ≠ e.1 := List.isChain_reverse.mp h.apart
  have hcounted : ∀ e ∈ log.newestFirst, 1 ≤ e.2 :=
    fun e he => h.counted e (List.mem_reverse.mpr he)
  refine ⟨hexpanded, ?_, List.isChain_reverse.mpr ?_⟩
  · intro e he
    rw [entries, List.mem_reverse] at he
    unfold Log.add at he
    split at he
    · rename_i last count rest hlog
      rw [hlog] at hcounted
      split at he
      · rcases List.mem_cons.mp he with rfl | he
        · exact Nat.le_add_left 1 count
        · exact hcounted e (List.mem_cons_of_mem _ he)
      · rcases List.mem_cons.mp he with rfl | he
        · exact Nat.le_refl 1
        · exact hcounted e he
    · rw [List.mem_singleton.mp he]
  · unfold Log.add
    split
    · rename_i last count rest hlog
      rw [hlog] at hchain
      split
      · exact List.isChain_cons.mpr (List.isChain_cons.mp hchain)
      · rename_i hne
        refine List.isChain_cons.mpr ⟨fun e he => ?_, hchain⟩
        cases he
        exact hne
    · exact .singleton _

theorem counts_foldl_add (messages : List α) {log : Log α} {before : List α}
    (h : Counts log.entries before) :
    Counts (messages.foldl (fun log m => (log.add m true).1) log).entries
      (before ++ messages) := by
  induction messages generalizing log before with
  | nil =>
    rw [List.append_nil]
    exact h
  | cons m messages ih =>
    rw [List.append_cons]
    exact ih (h.add m true)

theorem counts_ofTerminal (messages : List α) : Counts (ofTerminal messages).entries messages := by
  have hempty : Counts ({} : Log α).entries [] := counts_nil
  exact counts_foldl_add messages hempty

theorem expanded_ofTerminal (messages : List α) : (ofTerminal messages).expanded = messages :=
  (counts_ofTerminal messages).spelled

theorem entries_ofTerminal_append {firsts messages : List α} (hnodup : firsts.Nodup)
    (hnew : ∀ m ∈ firsts, m ∉ messages) :
    (ofTerminal (firsts ++ messages)).entries =
      firsts.map (·, 1) ++ (ofTerminal messages).entries :=
  (counts_ofTerminal _).unique ((counts_ofTerminal messages).append hnodup hnew)

theorem entries_ofTerminal_map {messages : List α} {f : α → β}
    (hf : ∀ m ∈ messages, ∀ m' ∈ messages, f m = f m' → m = m') :
    (ofTerminal (messages.map f)).entries =
      (ofTerminal messages).entries.map fun e => (f e.1, e.2) :=
  (counts_ofTerminal _).unique ((counts_ofTerminal messages).map hf)

/-! ## Terminal messages -/

theorem terminal_add (log : Log α) (message : α) (terminal : Bool) :
    (log.add message terminal).1.terminal = (log.terminal || terminal) := by
  unfold add
  split
  · split <;> rfl
  · rfl

theorem terminal_foldl_add (messages : List α) (log : Log α) (h : log.terminal = true) :
    (messages.foldl (fun log m => (log.add m true).1) log).terminal = true := by
  induction messages generalizing log with
  | nil => exact h
  | cons m messages ih =>
    rw [List.foldl_cons]
    exact ih _ (by rw [terminal_add, Bool.or_true])

theorem terminal_ofTerminal {messages : List α} (h : messages ≠ []) :
    (ofTerminal messages).terminal = true := by
  cases messages with
  | nil => exact absurd rfl h
  | cons m messages =>
    unfold ofTerminal
    rw [List.foldl_cons]
    exact terminal_foldl_add messages _ (by rw [terminal_add, Bool.or_true])

end EventTemplate.Log
