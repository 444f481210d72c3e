import Mathlib.Data.Nat.Init
import EventTemplate.Proofs.Concurrent.Invariant

/-
  Calls in time. At each time one worker has its turn, and makes a step or has to let the turn pass;
  any order of steps is such an order of turns (`reachable_iff_after`). A call lasts from the turn
  in which the worker begins it to the first time at which the worker is idle again (`Request`).

  Proved: a call for a raw template that is over was answered, and where the answer is an instance,
  the cache held this instance for the raw template at a time when the call lasted
  (`Request.answered`). The induction is on the time since the call began (`Progress`).
-/

namespace EventTemplate.Concurrent

/-! ## Time -/

/-- Workers with calls to make, an empty cache and a free lock. -/
def State.start (size : Nat) (calls : List (List Call)) : State where
  cache := ⟨{ capacity := size }⟩
  workers := calls.map fun cs => { calls := cs }

/-- The state at each time when it is the turn of worker `turns t` at time `t`. A worker that cannot
step lets its turn pass. -/
def State.after (s : State) (turns : Nat → Nat) : Nat → State
  | 0 => s
  | t + 1 => ((s.after turns t).step? (turns t)).getD (s.after turns t)

theorem reachable_after (size : Nat) (calls : List (List Call)) (turns : Nat → Nat) (t : Nat) :
    Reachable size calls ((State.start size calls).after turns t) := by
  induction t with
  | zero => exact .start
  | succ t ih =>
    rw [State.after]
    cases hstep : ((State.start size calls).after turns t).step? (turns t) with
    | none => exact ih
    | some s' => exact ih.step (turns t) hstep

theorem after_congr (s : State) {turns turns' : Nat → Nat} {t : Nat}
    (h : ∀ k < t, turns k = turns' k) : s.after turns t = s.after turns' t := by
  induction t with
  | zero => rfl
  | succ t ih =>
    rw [State.after, State.after, ih fun k hk => h k (Nat.lt_succ_of_lt hk),
      h t (Nat.lt_succ_self t)]

/-- Any order of steps is an order of turns. -/
theorem reachable_iff_after {size : Nat} {calls : List (List Call)} {s : State} :
    Reachable size calls s ↔ ∃ turns t, (State.start size calls).after turns t = s := by
  constructor
  · intro h
    induction h with
    | start => exact ⟨fun _ => 0, 0, rfl⟩
    | step n _ hstep ih =>
      obtain ⟨turns, t, rfl⟩ := ih
      refine ⟨fun k => if k = t then n else turns k, t + 1, ?_⟩
      have hbefore : ∀ k < t, (if k = t then n else turns k) = turns k :=
        fun k hk => if_neg (Nat.ne_of_lt hk)
      rw [State.after, after_congr _ hbefore, if_pos rfl, hstep]
      rfl
  · rintro ⟨turns, t, rfl⟩
    exact reachable_after size calls turns t

/-- Worker `n` makes a call for a raw template: it begins at time `b`, when it is idle and this is
its next call, and is idle again at time `e` for the first time since. -/
structure Request (σ : Nat → State) (turns : Nat → Nat) (n : Nat) (raw : String)
    (before after : Worker) (b e : Nat) : Prop where
  turn : turns b = n
  begins : (σ b).workers[n]? = some before
  idle : before.phase.isIdle = true
  asks : before.calls.head? = some (.get raw)
  order : b < e
  busy : ∀ t, b < t → t < e → ∀ w, (σ t).workers[n]? = some w → w.phase.isIdle = false
  ends : (σ e).workers[n]? = some after
  idleAgain : after.phase.isIdle = true

/-! ## How a call goes on -/

/-- An answer is the cache's: an instance was in the cache between the times `b` and `t`. -/
def Served (σ : Nat → State) (raw : String) (b t : Nat) : Except ParseError Instance → Prop
  | .ok i => ∃ k, b < k ∧ k ≤ t ∧ (σ k).cache.store.get? raw = some i
  | .error _ => True

/-- What has come by the time `t` of a call for a raw template that began at time `b`, when
`answers` were there: the worker is on its way, or it is about to leave with an answer, or it has
the answer. -/
def Progress (σ : Nat → State) (raw : String) (answers : List (String × Except ParseError Instance))
    (b t : Nat) (w : Worker) : Prop :=
  match w.phase with
  | .idle => ∃ answer, w.answers = (raw, answer) :: answers ∧ Served σ raw b t answer
  | .waiting raw' | .looking raw' | .parsing raw' | .storing raw' _ =>
    raw' = raw ∧ w.answers = answers
  | .leaving raw' answer => raw' = raw ∧ w.answers = answers ∧ Served σ raw b t answer
  | _ => False

variable {σ : Nat → State} {turns : Nat → Nat} {n b t : Nat} {raw : String}
  {answers : List (String × Except ParseError Instance)} {w w' : Worker} {u s : State}

theorem Served.later {answer : Except ParseError Instance} (h : Served σ raw b t answer) :
    Served σ raw b (t + 1) answer := by
  cases answer with
  | error why => trivial
  | ok i =>
    obtain ⟨k, hb, ht, hget⟩ := h
    exact ⟨k, hb, Nat.le_succ_of_le ht, hget⟩

theorem Progress.later (h : Progress σ raw answers b t w) : Progress σ raw answers b (t + 1) w := by
  unfold Progress at h ⊢
  split at h
  · obtain ⟨answer, hanswers, hserved⟩ := h
    exact ⟨answer, hanswers, hserved.later⟩
  · exact h
  · exact h
  · exact h
  · exact h
  · exact ⟨h.1, h.2.1, h.2.2.later⟩
  · exact h

/-- The first move of a call for a raw template answers it, or makes the worker wait. -/
theorem Move.begins (hm : Move (σ b) n w w' u) (hp : w.phase.isIdle = true)
    (hc : w.calls.head? = some (.get raw)) (hnext : σ (b + 1) = u.place n w') :
    Progress σ raw w.answers b (b + 1) w' := by
  cases hm with
  | @hit raw' calls i hp' hcalls hget =>
    rw [hcalls] at hc
    cases hc
    have hheld : (σ (b + 1)).cache.store.get? raw = some i := by
      rw [hnext]
      exact ((σ b).cache.store.get?_touch raw raw).trans hget
    unfold Progress
    dsimp only
    rw [hp']
    exact ⟨.ok i, rfl, b + 1, Nat.lt_succ_self b, Nat.le_refl _, hheld⟩
  | miss _ hcalls _ =>
    rw [hcalls] at hc
    cases hc
    exact ⟨rfl, rfl⟩
  | wantClear _ hcalls => rw [hcalls] at hc; cases hc
  | enter hp' | enterToClear hp' | found hp' | missing hp' | parsed hp' | refused hp' | store hp'
  | leave hp' | clear hp' | leaveCleared hp' => rw [hp'] at hp; cases hp

/-- A further move brings the call on. -/
theorem Move.progress (hm : Move (σ t) n w w' u) (hnext : σ (t + 1) = u.place n w') (hbt : b ≤ t)
    (hp : w.phase.isIdle = false) (h : Progress σ raw answers b t w) :
    Progress σ raw answers b (t + 1) w' := by
  unfold Progress at h
  cases hm with
  | hit hp' | miss hp' | wantClear hp' => rw [hp'] at hp; cases hp
  | enterToClear hp' | clear hp' | leaveCleared hp' => rw [hp'] at h; cases h
  | enter hp' | missing hp' | parsed hp' =>
    rw [hp'] at h
    exact h
  | @found raw' i hp' hget =>
    rw [hp'] at h
    obtain ⟨rfl, hanswers⟩ := h
    have hheld : (σ (t + 1)).cache.store.get? raw' = some i := by
      rw [hnext]
      exact ((σ t).cache.store.get?_touch raw' raw').trans hget
    exact ⟨rfl, hanswers, t + 1, Nat.lt_succ_of_le hbt, Nat.le_refl _, hheld⟩
  | refused hp' =>
    rw [hp'] at h
    exact ⟨h.1, h.2, trivial⟩
  | @store raw' i hp' =>
    rw [hp'] at h
    obtain ⟨rfl, hanswers⟩ := h
    have hheld : (σ (t + 1)).cache.store.get? raw' = some i := by
      rw [hnext]
      exact (σ t).cache.store.get?_insert_self raw' i
    exact ⟨rfl, hanswers, t + 1, Nat.lt_succ_of_le hbt, Nat.le_refl _, hheld⟩
  | @leave raw' answer hp' =>
    rw [hp'] at h
    obtain ⟨rfl, hanswers, hserved⟩ := h
    exact ⟨answer, by rw [hanswers], hserved.later⟩

theorem getElem?_place_self (hw : u.workers[n]? = some w) (v : Worker) :
    (u.place n v).workers[n]? = some v := by
  have hlt := (List.getElem?_eq_some_iff.mp hw).1
  exact List.getElem?_set_self hlt

theorem getElem?_place_of_ne {m : Nat} (hm : m ≠ n) (v : Worker) :
    (u.place m v).workers[n]? = u.workers[n]? :=
  List.getElem?_set_ne hm

/-- In each turn a worker makes a move, or is left as it is. -/
theorem after_succ (s : State) (turns : Nat → Nat) (t : Nat)
    (hw : (s.after turns t).workers[n]? = some w) :
    (s.after turns (t + 1)).workers[n]? = some w ∧
        (turns t = n → (s.after turns t).step? n = none) ∨
    ∃ w' u, turns t = n ∧ Move (s.after turns t) n w w' u ∧
      s.after turns (t + 1) = u.place n w' := by
  rw [State.after]
  cases hstep : (s.after turns t).step? (turns t) with
  | none =>
    refine .inl ⟨hw, ?_⟩
    rintro rfl
    exact hstep
  | some s' =>
    rw [Option.getD_some]
    obtain ⟨v, v', u, hv, hm, rfl⟩ := of_step? hstep
    by_cases hn : turns t = n
    · subst hn
      rw [hw] at hv
      cases hv
      exact .inr ⟨v', u, rfl, hm, rfl⟩
    · refine .inl ⟨?_, fun heq => absurd heq hn⟩
      rw [getElem?_place_of_ne hn, hm.workers]
      exact hw

/-- As long as a call lasts, and when it is over, it has made progress. -/
theorem Request.progress {before after : Worker} {e : Nat}
    (h : Request (s.after turns) turns n raw before after b e) (hbt : b < t) (hte : t ≤ e) :
    ∃ w, (s.after turns t).workers[n]? = some w ∧
      Progress (s.after turns) raw before.answers b t w := by
  induction t, hbt using Nat.le_induction with
  | base =>
    -- the worker cannot have let its turn pass: looking up needs no lock
    rcases after_succ s turns b h.begins with ⟨_, hnone⟩ | ⟨w', u, _, hm, hnext⟩
    · have hsome := isSome_step?_of_get h.begins (Phase.eq_idle h.idle) h.asks
      rw [hnone h.turn] at hsome
      cases hsome
    · refine ⟨w', ?_, hm.begins h.idle h.asks hnext⟩
      rw [hnext]
      exact getElem?_place_self (by rw [hm.workers]; exact h.begins) w'
  | succ t hbt ih =>
    obtain ⟨w, hw, hprogress⟩ := ih (Nat.le_of_succ_le hte)
    have hbusy := h.busy t hbt hte w hw
    rcases after_succ s turns t hw with ⟨hw', _⟩ | ⟨w', u, _, hm, hnext⟩
    · exact ⟨w, hw', hprogress.later⟩
    · refine ⟨w', ?_, hm.progress hnext (Nat.le_of_succ_le hbt) hbusy hprogress⟩
      rw [hnext]
      exact getElem?_place_self (by rw [hm.workers]; exact hw) w'

/-- A call that is over was answered, and an instance that it was answered with was in the cache
while it lasted. -/
theorem Request.answered {before after : Worker} {e : Nat}
    (h : Request (s.after turns) turns n raw before after b e) :
    ∃ answer, after.answers = (raw, answer) :: before.answers ∧
      Served (s.after turns) raw b e answer := by
  obtain ⟨w, hw, hprogress⟩ := h.progress h.order (Nat.le_refl e)
  rw [h.ends] at hw
  cases hw
  unfold Progress at hprogress
  rw [Phase.eq_idle h.idleAgain] at hprogress
  exact hprogress

end EventTemplate.Concurrent
