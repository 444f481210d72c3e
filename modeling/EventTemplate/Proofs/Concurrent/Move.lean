import EventTemplate.Cache.Concurrent

/-
  What one step of a worker can do, said once. `Move s n w w' s'`: in the state `s`, worker `n`
  stands as `w` and comes to stand as `w'`, and what the workers share becomes what it is in `s'`.
  Each constructor is one step, with all that it requires.

  Proved: every step is a move (`of_step?`), and a worker that is about to ask for a raw template
  can always step (`isSome_step?_of_get`).
-/

namespace EventTemplate.Concurrent

/-- Whether a worker has the lock: it has entered and has not yet left. -/
def Phase.inside : Phase → Bool
  | .idle => false
  | .waiting _ => false
  | .waitingToClear => false
  | _ => true

/-- Whether a worker stands between two calls. -/
def Phase.isIdle : Phase → Bool
  | .idle => true
  | _ => false

theorem Phase.eq_idle {phase : Phase} (h : phase.isIdle = true) : phase = .idle := by
  cases phase with
  | idle => rfl
  | _ => cases h

/-- What a step of worker `n` makes of the worker and of what all workers share. -/
inductive Move (s : State) (n : Nat) (w : Worker) : Worker → State → Prop where
  /-- The template is found without the lock. -/
  | hit {raw : String} {calls : List Call} {i : Instance} (hp : w.phase = .idle)
      (hc : w.calls = .get raw :: calls) (hget : s.cache.store.get? raw = some i) :
      Move s n w { w with calls, answers := (raw, .ok i) :: w.answers }
        { s with cache := ⟨s.cache.store.touch raw⟩ }
  | miss {raw : String} {calls : List Call} (hp : w.phase = .idle)
      (hc : w.calls = .get raw :: calls) (hget : s.cache.store.get? raw = none) :
      Move s n w { w with phase := .waiting raw, calls } s
  | wantClear {calls : List Call} (hp : w.phase = .idle) (hc : w.calls = .clear :: calls) :
      Move s n w { w with phase := .waitingToClear, calls } s
  | enter {raw : String} (hp : w.phase = .waiting raw) (hfree : s.holder = none) :
      Move s n w { w with phase := .looking raw } { s with holder := some n }
  | enterToClear (hp : w.phase = .waitingToClear) (hfree : s.holder = none) :
      Move s n w { w with phase := .clearing } { s with holder := some n }
  /-- The template was stored while the worker waited for the lock. -/
  | found {raw : String} {i : Instance} (hp : w.phase = .looking raw)
      (hget : s.cache.store.get? raw = some i) :
      Move s n w { w with phase := .leaving raw (.ok i) }
        { s with cache := ⟨s.cache.store.touch raw⟩ }
  | missing {raw : String} (hp : w.phase = .looking raw)
      (hget : s.cache.store.get? raw = none) : Move s n w { w with phase := .parsing raw } s
  | parsed {raw : String} {t : Template} (hp : w.phase = .parsing raw)
      (ht : Template.parse raw = .ok t) :
      Move s n w { w with phase := .storing raw ⟨s.nextSerial, t⟩ }
        { s with nextSerial := s.nextSerial + 1 }
  | refused {raw : String} {why : ParseError} (hp : w.phase = .parsing raw)
      (hw : Template.parse raw = .error why) :
      Move s n w { w with phase := .leaving raw (.error why) }
        { s with history := .refused raw :: s.history }
  | store {raw : String} {i : Instance} (hp : w.phase = .storing raw i) :
      Move s n w { w with phase := .leaving raw (.ok i) }
        { s with
          cache := ⟨(s.cache.store.insert raw i).1⟩
          history := .stored raw i ::
            ((s.cache.store.insert raw i).2.toList.map .evicted ++ s.history) }
  | leave {raw : String} {answer : Except ParseError Instance}
      (hp : w.phase = .leaving raw answer) :
      Move s n w { w with phase := .idle, answers := (raw, answer) :: w.answers }
        { s with holder := none }
  | clear (hp : w.phase = .clearing) :
      Move s n w { w with phase := .cleared }
        { s with
          cache := s.cache.clear
          history := s.cache.store.keys.map .dropped ++ s.history }
  | leaveCleared (hp : w.phase = .cleared) :
      Move s n w { w with phase := .idle } { s with holder := none }

variable {s s' : State} {n : Nat} {w : Worker}

/-- A step into the lock is a step when nobody has it. -/
theorem of_enter {phase : Phase} (h : s.enter n w phase = some s') :
    s.holder = none ∧ s' = { s with holder := some n }.place n { w with phase } := by
  unfold State.enter at h
  split at h
  · rename_i hfree
    cases h
    exact ⟨by simpa using hfree, rfl⟩
  · cases h

theorem move_of_begin (hp : w.phase = .idle) (h : s.begin n w = some s') :
    ∃ w' t, Move s n w w' t ∧ s' = t.place n w' := by
  unfold State.begin at h
  split at h
  · cases h
  · rename_i calls hc
    cases h
    exact ⟨_, _, .wantClear hp hc, rfl⟩
  · rename_i raw calls hc
    split at h
    · rename_i i hget
      cases h
      exact ⟨_, _, .hit hp hc hget, rfl⟩
    · rename_i hget
      cases h
      exact ⟨_, _, .miss hp hc hget, rfl⟩

theorem move_act (s : State) (n : Nat) (w : Worker) (h : w.phase.inside = true) :
    ∃ w' t, Move s n w w' t ∧ s.act n w w.phase = t.place n w' := by
  cases hp : w.phase with
  | idle => rw [hp] at h; cases h
  | waiting raw => rw [hp] at h; cases h
  | waitingToClear => rw [hp] at h; cases h
  | looking raw =>
    unfold State.act
    dsimp only
    split
    · rename_i i hget
      exact ⟨_, _, .found hp hget, rfl⟩
    · rename_i hget
      exact ⟨_, _, .missing hp hget, rfl⟩
  | parsing raw =>
    unfold State.act
    dsimp only
    split
    · rename_i t ht
      exact ⟨_, _, .parsed hp ht, rfl⟩
    · rename_i why hw
      exact ⟨_, _, .refused hp hw, rfl⟩
  | storing raw i => exact ⟨_, _, .store hp, rfl⟩
  | leaving raw answer => exact ⟨_, _, .leave hp, rfl⟩
  | clearing => exact ⟨_, _, .clear hp, rfl⟩
  | cleared => exact ⟨_, _, .leaveCleared hp, rfl⟩

/-- A worker that has the lock acts. -/
theorem step?_of_inside (hw : s.workers[n]? = some w) (h : w.phase.inside = true) :
    s.step? n = some (s.act n w w.phase) := by
  unfold State.step?
  rw [hw, Option.bind_eq_bind, Option.bind_some]
  cases hp : w.phase with
  | idle => rw [hp] at h; cases h
  | waiting raw => rw [hp] at h; cases h
  | waitingToClear => rw [hp] at h; cases h
  | _ => rfl

/-- Every step is a move. -/
theorem of_step? (h : s.step? n = some s') :
    ∃ w w' t, s.workers[n]? = some w ∧ Move s n w w' t ∧ s' = t.place n w' := by
  obtain ⟨w, hw, hstep⟩ := Option.bind_eq_some_iff.mp h
  cases hp : w.phase with
  | idle =>
    rw [hp] at hstep
    obtain ⟨w', t, hm, rfl⟩ := move_of_begin hp hstep
    exact ⟨w, w', t, hw, hm, rfl⟩
  | waiting raw =>
    rw [hp] at hstep
    obtain ⟨hfree, rfl⟩ := of_enter hstep
    exact ⟨w, _, _, hw, .enter hp hfree, rfl⟩
  | waitingToClear =>
    rw [hp] at hstep
    obtain ⟨hfree, rfl⟩ := of_enter hstep
    exact ⟨w, _, _, hw, .enterToClear hp hfree, rfl⟩
  | _ =>
    have hinside : w.phase.inside = true := by rw [hp]; rfl
    obtain ⟨w', t, hm, hact⟩ := move_act s n w hinside
    rw [step?_of_inside hw hinside, hact] at h
    exact ⟨w, w', t, hw, hm, (Option.some.inj h).symm⟩

/-- Looking up needs no lock, so a worker that is about to ask for a raw template can step. -/
theorem isSome_step?_of_get (hw : s.workers[n]? = some w) (hp : w.phase = .idle) {raw : String}
    (hc : w.calls.head? = some (.get raw)) : (s.step? n).isSome = true := by
  obtain ⟨calls, hcalls⟩ := List.head?_eq_some_iff.mp hc
  unfold State.step?
  rw [hw, Option.bind_eq_bind, Option.bind_some, hp]
  unfold State.begin
  dsimp only
  rw [hcalls]
  dsimp only
  split <;> rfl

/-- A move leaves the list of workers to `place`. -/
theorem Move.workers {w' : Worker} {t : State} (h : Move s n w w' t) : t.workers = s.workers := by
  cases h <;> rfl

/-- After a step, worker `n` is the new one and all others are as before. -/
theorem getElem?_place {t : State} {w' v : Worker} {m : Nat}
    (h : (t.place n w').workers[m]? = some v) :
    (m = n ∧ v = w') ∨ (m ≠ n ∧ t.workers[m]? = some v) := by
  have hset : (t.place n w').workers = t.workers.set n w' := rfl
  rw [hset, List.getElem?_set] at h
  by_cases hm : n = m
  · rw [if_pos hm] at h
    split at h
    · exact .inl ⟨hm.symm, (Option.some.inj h).symm⟩
    · cases h
  · rw [if_neg hm] at h
    exact .inr ⟨Ne.symm hm, h⟩

end EventTemplate.Concurrent
