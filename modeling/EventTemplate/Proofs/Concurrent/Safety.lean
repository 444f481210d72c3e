import EventTemplate.Proofs.Concurrent.Request

/-
  Workers on one cache are safe from each other. What a caller relies on is `Safe`, of every state
  that the workers come to, and for each call that its answer was in the cache while it lasted.

  Proved: all of this, for any workers, any calls and any order of steps (`requests_safe`). `Safe`
  is read off the invariant (`Consistent`); only one worker is inside, so a raw template that is
  parsed and not yet stored is counted once.
-/

namespace EventTemplate.Concurrent

/-- Whether a worker has parsed a raw template and not yet stored it. -/
def Phase.isStoring (raw : String) : Phase → Bool
  | .storing raw' _ => raw' == raw
  | _ => false

/-- How often a raw template was parsed with success, whether that is stored already or not. -/
def State.successesOf (s : State) (raw : String) : Nat :=
  s.history.countP (Happening.stores raw) + s.workers.countP (·.phase.isStoring raw)

/-- How often a raw template was parsed, with success or without. -/
def State.parsesOf (s : State) (raw : String) : Nat :=
  s.history.countP (Happening.parses raw) + s.workers.countP (·.phase.isStoring raw)

/-- What callers rely on. -/
structure Safe (s : State) : Prop where
  /-- At most one worker has the lock. -/
  exclusive : ∀ (n m : Nat) (v w : Worker), s.workers[n]? = some v → s.workers[m]? = some w →
    v.phase.inside = true → w.phase.inside = true → n = m
  /-- A raw template was stored as often as it was removed, and once more if it is cached. -/
  counted : ∀ raw, s.history.countP (Happening.stores raw) =
    s.history.countP (Happening.removes raw) + if s.cache.contains raw then 1 else 0
  /-- No two stored instances are the same. -/
  fresh : (s.history.filterMap Happening.serial?).Nodup
  /-- An answer is what the parser says. -/
  correct : ∀ raw answer, (raw, answer) ∈ s.answers →
    answer.map Instance.template = Template.parse raw
  /-- Answers differ only if the first instance was removed before the second was stored. -/
  shared : ∀ raw i j, (raw, .ok i) ∈ s.answers → (raw, .ok j) ∈ s.answers → i ≠ j →
    RemovedBetween raw i j s.history ∨ RemovedBetween raw j i s.history
  /-- What is never removed is parsed with success at most once, and all callers share one instance.
  If it can be parsed with success at all, it is parsed at most once. -/
  once : ∀ raw, s.history.countP (Happening.removes raw) = 0 →
    s.successesOf raw ≤ 1 ∧ (∀ t, Template.parse raw = .ok t → s.parsesOf raw ≤ 1) ∧
    ∀ i j, (raw, .ok i) ∈ s.answers → (raw, .ok j) ∈ s.answers → i = j

variable {s : State} {raw : String} {i j : Instance} {history : List Happening}

theorem countP_le_one {α : Type} {p : α → Bool} {l : List α}
    (h : ∀ (n m : Nat) (v w : α), l[n]? = some v → l[m]? = some w → p v = true → p w = true →
      n = m) : l.countP p ≤ 1 := by
  induction l with
  | nil => exact Nat.zero_le 1
  | cons x rest ih =>
    rw [List.countP_cons]
    cases hx : p x with
    | false =>
      have hrest := ih fun n m v w hv hw hpv hpw =>
        Nat.succ.inj (h (n + 1) (m + 1) v w hv hw hpv hpw)
      simpa using hrest
    | true =>
      have hnone : rest.countP p = 0 := by
        rw [List.countP_eq_zero]
        intro v hv hpv
        obtain ⟨n, hn⟩ := List.getElem?_of_mem hv
        exact Nat.zero_ne_add_one n (h 0 (n + 1) x v rfl hn hx hpv)
      rw [if_pos rfl]
      omega

theorem Phase.inside_of_isStoring {phase : Phase} (h : phase.isStoring raw = true) :
    phase.inside = true := by
  cases phase with
  | storing => rfl
  | _ => cases h

/-- Happenings that parse a raw template with success are those that store it. -/
theorem Recorded.count_parses {store : Recent Instance} {serial : Nat} {t : Template}
    (h : Recorded store serial history) (ht : Template.parse raw = .ok t) :
    history.countP (Happening.parses raw) = history.countP (Happening.stores raw) := by
  refine List.countP_congr fun x hx => ?_
  cases x with
  | stored | evicted | dropped => exact Iff.rfl
  | refused raw' =>
    refine ⟨fun hparses => ?_, nofun⟩
    have hraw : raw' = raw := beq_iff_eq.mp hparses
    obtain ⟨why, hwhy⟩ := h.right _ hx
    rw [hraw, ht] at hwhy
    cases hwhy

theorem Consistent.exclusive (h : Consistent s) {n m : Nat} {v w : Worker}
    (hv : s.workers[n]? = some v) (hw : s.workers[m]? = some w) (hvin : v.phase.inside = true)
    (hwin : w.phase.inside = true) : n = m := by
  have hn := (h.locked n v hv).mp hvin
  have hm := (h.locked m w hw).mp hwin
  rw [hn] at hm
  exact Option.some.inj hm

theorem Consistent.answered (h : Consistent s) {answer : Except ParseError Instance}
    (ha : (raw, answer) ∈ s.answers) : Answered s.history raw answer := by
  obtain ⟨w, hw, hmem⟩ := List.mem_flatMap.mp ha
  obtain ⟨n, hn⟩ := List.getElem?_of_mem hw
  exact (h.backed n w hn).answers raw answer hmem

theorem Consistent.correct (h : Consistent s) {answer : Except ParseError Instance}
    (ha : (raw, answer) ∈ s.answers) : answer.map Instance.template = Template.parse raw := by
  have hanswered := h.answered ha
  cases answer with
  | ok i => exact (h.recorded.right _ hanswered).symm
  | error why => exact hanswered.symm

theorem Consistent.shared (h : Consistent s) (hi : (raw, .ok i) ∈ s.answers)
    (hj : (raw, .ok j) ∈ s.answers) (hne : i ≠ j) :
    RemovedBetween raw i j s.history ∨ RemovedBetween raw j i s.history :=
  h.recorded.orderly.removedBetween (h.answered hi) (h.answered hj) hne

/-- Either the raw template is stored, and then nobody is about to store it; or it is not, and then
at most one worker is about to. -/
theorem Consistent.successesOf_le_one (h : Consistent s)
    (hremoves : s.history.countP (Happening.removes raw) = 0) : s.successesOf raw ≤ 1 := by
  have hstores := h.recorded.orderly.count_stores raw
  rw [hremoves, Nat.zero_add] at hstores
  unfold State.successesOf
  rw [hstores]
  cases hheld : held raw s.history with
  | none =>
    have hone : s.workers.countP (·.phase.isStoring raw) ≤ 1 :=
      countP_le_one fun n m v w hv hw hvs hws =>
        h.exclusive hv hw (Phase.inside_of_isStoring hvs) (Phase.inside_of_isStoring hws)
    simpa using hone
  | some i =>
    have hnone : s.workers.countP (·.phase.isStoring raw) = 0 := by
      rw [List.countP_eq_zero]
      intro w hw hstoring
      obtain ⟨n, hn⟩ := List.getElem?_of_mem hw
      have hphase := (h.backed n w hn).phase
      cases hp : w.phase with
      | storing raw' k =>
        rw [hp] at hphase hstoring
        have hraw : raw' = raw := beq_iff_eq.mp hstoring
        have hnone := hphase.1
        rw [hraw, hheld] at hnone
        cases hnone
      | _ => rw [hp] at hstoring; cases hstoring
    rw [Option.isSome_some, if_pos rfl]
    omega

theorem not_removedBetween (h : history.countP (Happening.removes raw) = 0) :
    ¬ RemovedBetween raw i j history := by
  rintro ⟨later, between, earlier, rfl, x, hx, hremoves⟩
  rw [List.countP_eq_zero] at h
  refine h x ?_ hremoves
  simp [hx]

theorem Consistent.safe (h : Consistent s) : Safe s where
  exclusive _ _ _ _ := h.exclusive
  counted raw := by
    have hcontains : s.cache.contains raw = (held raw s.history).isSome := by
      rw [← h.recorded.holds, Bool.eq_iff_iff, Recent.isSome_get?_iff]
      exact List.contains_iff_mem
    rw [hcontains]
    exact h.recorded.orderly.count_stores raw
  fresh := h.recorded.fresh
  correct _ _ := h.correct
  shared _ _ _ := h.shared
  once raw hremoves := by
    have hone := h.successesOf_le_one hremoves
    refine ⟨hone, fun t ht => ?_, fun i j hi hj => ?_⟩
    · unfold State.parsesOf
      rw [h.recorded.count_parses ht]
      exact hone
    · by_contra hne
      rcases h.shared hi hj hne with hbetween | hbetween
      · exact not_removedBetween hremoves hbetween
      · exact not_removedBetween hremoves hbetween

/-- Workers on one cache, whatever they call and in whatever order they step: every state is safe,
and every call for a raw template that is over has an answer, which is what the parser says, and if
it is an instance, the cache held it for the raw template while the call lasted. -/
theorem requests_safe (size : Nat) (calls : List (List Call)) :
    (∀ s, Reachable size calls s → Safe s) ∧
    ∀ (turns : Nat → Nat) (n : Nat) (raw : String) (before after : Worker) (b e : Nat),
      Request ((State.start size calls).after turns) turns n raw before after b e →
        ∃ answer, after.answers = (raw, answer) :: before.answers ∧
          answer.map Instance.template = Template.parse raw ∧
          ∀ i, answer = .ok i → ∃ k, b < k ∧ k ≤ e ∧
            ((State.start size calls).after turns k).cache.store.get? raw = some i := by
  refine ⟨fun s h => h.consistent.safe, fun turns n raw before after b e h => ?_⟩
  obtain ⟨answer, hanswers, hserved⟩ := h.answered
  refine ⟨answer, hanswers, ?_, fun i hi => ?_⟩
  · refine (reachable_after size calls turns e).consistent.correct ?_
    refine List.mem_flatMap.mpr ⟨after, List.mem_of_getElem? h.ends, ?_⟩
    rw [hanswers]
    exact List.mem_cons_self
  · rw [hi] at hserved
    exact hserved

/-- Two workers ask for `a` and both miss. The first parses it while the second waits. The second
then has it evicted from a cache of one, and asks for it again: this is another instance. -/
theorem requests_safe_evicted :
    let calls : List (List Call) := [[.get "a"], [.get "a", .get "b", .get "a"]]
    let turns : Nat → Nat := fun t => [0, 1, 0, 0, 0, 0, 0].getD t 1
    let σ := (State.start 1 calls).after turns
    let i : Instance := ⟨0, "a", [.text "a"]⟩
    let j : Instance := ⟨2, "a", [.text "a"]⟩
    Safe (σ 22) ∧
      (RemovedBetween "a" i j (σ 22).history ∨ RemovedBetween "a" j i (σ 22).history) ∧
      ∃ before after, Request σ turns 1 "a" before after 1 10 ∧
        ∃ answer, after.answers = ("a", answer) :: before.answers ∧
          answer.map Instance.template = Template.parse "a" ∧
          ∀ i, answer = .ok i → ∃ k, 1 < k ∧ k ≤ 10 ∧ (σ k).cache.store.get? "a" = some i := by
  intro calls turns σ i j
  have hsafe := (requests_safe 1 calls).1 (σ 22) (reachable_after 1 calls turns 22)
  have hanswers : (σ 22).answers =
      [("a", .ok i), ("a", .ok j), ("b", .ok ⟨1, "b", [.text "b"]⟩), ("a", .ok i)] := by
    decide +kernel
  have hbegin : (σ 1).workers[1]?.map (fun w => (w.phase.isIdle, w.calls.head?)) =
      some (true, some (.get "a")) := by decide +kernel
  have hbusy : ∀ t < 10, 1 < t → (σ t).workers[1]?.map (·.phase.isIdle) = some false := by
    decide +kernel
  have hend : (σ 10).workers[1]?.map (·.phase.isIdle) = some true := by decide +kernel
  obtain ⟨before, hbefore, hbegins⟩ := Option.map_eq_some_iff.mp hbegin
  obtain ⟨after, hafter, hends⟩ := Option.map_eq_some_iff.mp hend
  have hrequest : Request σ turns 1 "a" before after 1 10 := by
    refine ⟨rfl, hbefore, congrArg Prod.fst hbegins, congrArg Prod.snd hbegins, by decide, ?_,
      hafter, hends⟩
    intro t hb he w hw
    have hidle := hbusy t he hb
    rw [hw] at hidle
    exact Option.some.inj hidle
  refine ⟨hsafe, hsafe.shared "a" i j ?_ ?_ (by decide), before, after, hrequest,
    (requests_safe 1 calls).2 turns 1 "a" before after 1 10 hrequest⟩
  · rw [hanswers]
    exact .head _
  · rw [hanswers]
    exact .tail _ (.head _)

end EventTemplate.Concurrent
