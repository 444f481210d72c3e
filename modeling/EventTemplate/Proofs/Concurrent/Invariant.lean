import EventTemplate.Proofs.Cache.Lookup
import EventTemplate.Proofs.Concurrent.History
import EventTemplate.Proofs.Concurrent.Move

/-
  What holds of workers on one cache in every state that they can come to. The history tells what
  the store holds (`Recorded`); the lock is held by the one worker that is inside, if there is one;
  and what a worker knows by where it stands, and what its calls were answered, is backed by the
  history (`Worker.Backed`).

  A worker outside the lock knows nothing about the store, and its moves change neither the history
  nor the serial numbers. A worker inside is the only one. So a move has to be looked at for the
  worker that makes it alone (`Move.consistent`).

  Proved: every reachable state has the invariant (`Reachable.consistent`).
-/

namespace EventTemplate.Concurrent

/-! ## The invariant -/

/-- What is stored is what the parser made, and what is refused the parser rejects. -/
def Happening.Right : Happening → Prop
  | stored raw i => Template.parse raw = .ok i.template
  | refused raw => ∃ why, Template.parse raw = .error why
  | _ => True

/-- The history is that of the store: it holds what the store holds, in order, it is right about
the parser, and each stored instance has a serial number of its own, below the next one. -/
structure Recorded (store : Recent Instance) (serial : Nat) (history : List Happening) : Prop where
  distinct : store.Distinct
  holds : ∀ raw, store.get? raw = held raw history
  orderly : Orderly history
  right : ∀ x ∈ history, x.Right
  below : ∀ k ∈ history.filterMap Happening.serial?, k < serial
  fresh : (history.filterMap Happening.serial?).Nodup

/-- An answer has a ground: an instance that was stored, or a failure of the parser. -/
def Answered (history : List Happening) (raw : String) : Except ParseError Instance → Prop
  | .ok i => .stored raw i ∈ history
  | .error why => Template.parse raw = .error why

/-- What a worker knows by where it stands. -/
def Phase.Backed (serial : Nat) (history : List Happening) : Phase → Prop
  | .parsing raw => held raw history = none
  | .storing raw i => held raw history = none ∧ Template.parse raw = .ok i.template ∧
      i.serial < serial ∧ i.serial ∉ history.filterMap Happening.serial?
  | .leaving raw answer => Answered history raw answer
  | _ => True

/-- What a worker knows is true, and so is what it was answered. -/
structure Worker.Backed (serial : Nat) (history : List Happening) (w : Worker) : Prop where
  phase : w.phase.Backed serial history
  answers : ∀ raw answer, (raw, answer) ∈ w.answers → Answered history raw answer

/-- What holds in every state that workers come to. -/
structure Consistent (s : State) : Prop where
  recorded : Recorded s.cache.store s.nextSerial s.history
  locked : ∀ (n : Nat) (w : Worker), s.workers[n]? = some w →
    (w.phase.inside = true ↔ s.holder = some n)
  backed : ∀ (n : Nat) (w : Worker), s.workers[n]? = some w → w.Backed s.nextSerial s.history

/-! ## The store and its history -/

section Recorded

variable {store : Recent Instance} {serial : Nat} {history : List Happening} {raw : String}

theorem serials_stored (raw : String) (i : Instance) (history : List Happening) :
    (Happening.stored raw i :: history).filterMap Happening.serial? =
      i.serial :: history.filterMap Happening.serial? :=
  rfl

theorem right_removed (f : String → Happening) (hf : ∀ key, (f key).Right) (keys : List String)
    (h : ∀ x ∈ history, x.Right) : ∀ x ∈ keys.map f ++ history, x.Right :=
  List.forall_mem_append.mpr ⟨List.forall_mem_map.mpr fun key _ => hf key, h⟩

theorem Recorded.touch (h : Recorded store serial history) (raw : String) :
    Recorded (store.touch raw) serial history :=
  { h with
    distinct := h.distinct.touch raw
    holds := fun k => (store.get?_touch raw k).trans (h.holds k) }

theorem Recorded.next (h : Recorded store serial history) : Recorded store (serial + 1) history :=
  { h with below := fun k hk => Nat.lt_succ_of_lt (h.below k hk) }

theorem Recorded.refuse (h : Recorded store serial history) {why : ParseError}
    (hw : Template.parse raw = .error why) : Recorded store serial (.refused raw :: history) where
  distinct := h.distinct
  holds k := by rw [held_of_neither rfl rfl]; exact h.holds k
  orderly := .cons (fun _ hs => absurd hs Bool.false_ne_true)
    (fun _ hr => absurd hr Bool.false_ne_true) h.orderly
  right := List.forall_mem_cons.mpr ⟨⟨why, hw⟩, h.right⟩
  below := h.below
  fresh := h.fresh

theorem Recorded.keep (h : Recorded store serial history) {i : Instance}
    (hi : (Phase.storing raw i).Backed serial history) :
    Recorded (store.insert raw i).1 serial
      (.stored raw i :: ((store.insert raw i).2.toList.map .evicted ++ history)) := by
  obtain ⟨hnone, hparse, hserial, hnew⟩ := hi
  have hheld : ∀ k, (store.insert raw i).1.get? k =
      held k (.stored raw i :: ((store.insert raw i).2.toList.map .evicted ++ history)) := by
    intro k
    by_cases hk : k = raw
    · rw [hk, held_stored, Recent.get?_insert_self]
    · have hs : (Happening.stored raw i).stores k = false := beq_false_of_ne (Ne.symm hk)
      rw [held_of_neither hs rfl, removal_evicted.held, Recent.get?_insert h.distinct hk, h.holds]
      simp only [Option.mem_toList]
  refine ⟨h.distinct.insert raw i, hheld, ?_, ?_, ?_, ?_⟩
  · refine .cons (fun k hs => ?_) (fun _ hr => absurd hr Bool.false_ne_true) ?_
    · rw [← beq_iff_eq.mp hs, removal_evicted.held, hnone, ite_self]
    · refine removal_evicted.orderly h.orderly (Option.toList_nodup _) fun gone hgone => ?_
      have hkeys := (Recent.of_gone_insert (Option.mem_toList.mp hgone)).2
      rw [← h.holds]
      exact Recent.isSome_get?_iff.mpr hkeys
  · exact List.forall_mem_cons.mpr ⟨hparse, right_removed .evicted (fun _ => trivial) _ h.right⟩
  · rw [serials_stored, removal_evicted.serials]
    exact List.forall_mem_cons.mpr ⟨hserial, h.below⟩
  · rw [serials_stored, removal_evicted.serials]
    exact List.nodup_cons.mpr ⟨hnew, h.fresh⟩

theorem Recorded.clear (h : Recorded store serial history) :
    Recorded store.clear serial (store.keys.map .dropped ++ history) := by
  refine ⟨store.distinct_clear, fun k => ?_, ?_, ?_, ?_, ?_⟩
  · rw [Recent.get?_clear, removal_dropped.held, ← h.holds]
    by_cases hk : k ∈ store.keys
    · rw [if_pos hk]
    · rw [if_neg hk]
      cases hget : store.get? k with
      | none => rfl
      | some i => exact absurd (Recent.isSome_get?_iff.mp (by rw [hget]; rfl)) hk
  · refine removal_dropped.orderly h.orderly h.distinct fun key hkey => ?_
    rw [← h.holds]
    exact Recent.isSome_get?_iff.mpr hkey
  · exact right_removed .dropped (fun _ => trivial) _ h.right
  · rw [removal_dropped.serials]
    exact h.below
  · rw [removal_dropped.serials]
    exact h.fresh

end Recorded

/-! ## One move -/

variable {s t : State} {n m : Nat} {w w' v : Worker}

/-- The history only grows. -/
theorem Move.history (h : Move s n w w' t) : s.history <:+ t.history := by
  cases h with
  | refused => exact List.suffix_cons _ _
  | store => exact (List.suffix_append _ _).trans (List.suffix_cons _ _)
  | clear => exact List.suffix_append _ _
  | _ => exact List.suffix_rfl

/-- Only a worker that is inside adds to the history, or takes a serial number. -/
theorem Move.unchanged (h : Move s n w w' t) (hout : w.phase.inside = false) :
    t.history = s.history ∧ t.nextSerial = s.nextSerial := by
  cases h with
  | hit | miss | wantClear | enter | enterToClear | found | missing | leave | leaveCleared =>
    exact ⟨rfl, rfl⟩
  | parsed hp | refused hp | store hp | clear hp => rw [hp] at hout; cases hout

/-- A move leaves the lock alone, or takes it while it is free, or gives it back. -/
theorem Move.lock (h : Move s n w w' t) :
    (t.holder = s.holder ∧ w'.phase.inside = w.phase.inside) ∨
    (s.holder = none ∧ t.holder = some n ∧ w'.phase.inside = true) ∨
    (w.phase.inside = true ∧ t.holder = none ∧ w'.phase.inside = false) := by
  cases h with
  | hit => exact .inl ⟨rfl, rfl⟩
  | enter _ hfree | enterToClear _ hfree => exact .inr (.inl ⟨hfree, rfl, rfl⟩)
  | leave hp | leaveCleared hp => exact .inr (.inr ⟨by rw [hp]; rfl, rfl, rfl⟩)
  | miss hp | wantClear hp | found hp | missing hp | parsed hp | refused hp | store hp | clear hp =>
    exact .inl ⟨rfl, by rw [hp]; rfl⟩

theorem Answered.mono {history history' : List Happening} (hsub : history <:+ history')
    {raw : String} {answer : Except ParseError Instance} (h : Answered history raw answer) :
    Answered history' raw answer := by
  cases answer with
  | ok i => exact hsub.subset h
  | error why => exact h

/-- What a worker outside knows stays true whatever happens. -/
theorem Worker.Backed.mono {serial serial' : Nat} {history history' : List Happening}
    (h : v.Backed serial history) (hout : v.phase.inside = false) (hsub : history <:+ history') :
    v.Backed serial' history' := by
  refine ⟨?_, fun raw answer hmem => (h.answers raw answer hmem).mono hsub⟩
  cases hp : v.phase with
  | idle | waiting | waitingToClear => trivial
  | _ => rw [hp] at hout; cases hout

theorem Move.recorded (hm : Move s n w w' t) (h : Consistent s) (hw : s.workers[n]? = some w) :
    Recorded t.cache.store t.nextSerial t.history := by
  have hphase := (h.backed n w hw).phase
  cases hm with
  | @hit raw _ _ _ _ _ => exact h.recorded.touch raw
  | @found raw _ _ _ => exact h.recorded.touch raw
  | parsed _ _ => exact h.recorded.next
  | refused _ hwhy => exact h.recorded.refuse hwhy
  | store hp =>
    rw [hp] at hphase
    exact h.recorded.keep hphase
  | clear _ => exact h.recorded.clear
  | miss | wantClear | enter | enterToClear | missing | leave | leaveCleared => exact h.recorded

/-- The worker that moves knows more than before only by what it did. -/
theorem Move.backed (hm : Move s n w w' t) (h : Consistent s) (hw : s.workers[n]? = some w) :
    w'.Backed t.nextSerial t.history := by
  obtain ⟨hphase, hanswers⟩ := h.backed n w hw
  have hmono : ∀ raw answer, (raw, answer) ∈ w.answers → Answered t.history raw answer :=
    fun raw answer hmem => (hanswers raw answer hmem).mono hm.history
  cases hm with
  | @hit raw calls i hp _ hget =>
    rw [h.recorded.holds] at hget
    refine ⟨by rw [hp]; trivial, fun raw' answer hmem => ?_⟩
    rcases List.mem_cons.mp hmem with heq | hmem
    · cases heq
      exact stored_mem_of_held hget
    · exact hmono raw' answer hmem
  | miss | wantClear | enter | enterToClear | clear => exact ⟨trivial, hmono⟩
  | found _ hget =>
    rw [h.recorded.holds] at hget
    exact ⟨stored_mem_of_held hget, hmono⟩
  | missing _ hget =>
    rw [h.recorded.holds] at hget
    exact ⟨hget, hmono⟩
  | parsed hp ht =>
    rw [hp] at hphase
    refine ⟨⟨hphase, ht, Nat.lt_succ_self _, fun hmem => ?_⟩, hmono⟩
    exact Nat.lt_irrefl _ (h.recorded.below _ hmem)
  | refused _ hwhy => exact ⟨hwhy, hmono⟩
  | store _ => exact ⟨List.mem_cons_self, hmono⟩
  | @leave raw answer hp =>
    rw [hp] at hphase
    refine ⟨trivial, fun raw' answer' hmem => ?_⟩
    rcases List.mem_cons.mp hmem with heq | hmem
    · cases heq
      exact hphase
    · exact hmono raw' answer' hmem
  | leaveCleared => exact ⟨trivial, hmono⟩

/-- Where a move changes what others could know of, no other worker is inside. -/
theorem Move.backed_other (hm : Move s n w w' t) (h : Consistent s) (hw : s.workers[n]? = some w)
    (hne : m ≠ n) (hv : s.workers[m]? = some v) : v.Backed t.nextSerial t.history := by
  have hbacked := h.backed m v hv
  cases hin : w.phase.inside with
  | false =>
    obtain ⟨hhistory, hserial⟩ := hm.unchanged hin
    rw [hhistory, hserial]
    exact hbacked
  | true =>
    have hholder := (h.locked n w hw).mp hin
    have hout : v.phase.inside = false := by
      by_contra hv'
      have := (h.locked m v hv).mp (Bool.of_not_eq_false hv')
      rw [hholder] at this
      exact hne (Option.some.inj this).symm
    exact hbacked.mono hout hm.history

/-- Every move keeps the invariant. -/
theorem Move.consistent (hm : Move s n w w' t) (h : Consistent s) (hw : s.workers[n]? = some w) :
    Consistent (t.place n w') := by
  have hlocked := h.locked n w hw
  refine ⟨hm.recorded h hw, fun m v hv => ?_, fun m v hv => ?_⟩
  · rcases getElem?_place hv with ⟨rfl, rfl⟩ | ⟨hne, hv⟩
    · rcases hm.lock with ⟨hholder, hin⟩ | ⟨_, hholder, hin⟩ | ⟨_, hholder, hin⟩
      · show v.phase.inside = true ↔ t.holder = some m
        rw [hholder, hin]
        exact hlocked
      · exact ⟨fun _ => hholder, fun _ => hin⟩
      · show v.phase.inside = true ↔ t.holder = some m
        rw [hholder, hin]
        exact ⟨nofun, nofun⟩
    · rw [hm.workers] at hv
      have hother := h.locked m v hv
      show v.phase.inside = true ↔ t.holder = some m
      rw [hother]
      rcases hm.lock with ⟨hholder, _⟩ | ⟨hfree, hholder, _⟩ | ⟨hin, hholder, _⟩
      · rw [hholder]
      · rw [hholder, hfree]
        exact ⟨nofun, fun heq => absurd (Option.some.inj heq).symm hne⟩
      · rw [hholder, hlocked.mp hin]
        exact ⟨fun heq => absurd (Option.some.inj heq).symm hne, nofun⟩
  · rcases getElem?_place hv with ⟨rfl, rfl⟩ | ⟨hne, hv⟩
    · exact hm.backed h hw
    · rw [hm.workers] at hv
      exact hm.backed_other h hw hne hv

/-! ## Every state -/

theorem consistent_start (size : Nat) (calls : List (List Call)) :
    Consistent
      { cache := ⟨{ capacity := size }⟩, workers := calls.map fun cs => { calls := cs } } := by
  have hworker : ∀ (n : Nat) (w : Worker),
      (calls.map fun cs => ({ calls := cs } : Worker))[n]? = some w →
        w.phase = .idle ∧ w.answers = [] := by
    intro n w hw
    rw [List.getElem?_map] at hw
    obtain ⟨cs, _, rfl⟩ := Option.map_eq_some_iff.mp hw
    exact ⟨rfl, rfl⟩
  refine ⟨⟨List.nodup_nil, fun _ => rfl, .nil, nofun, nofun, List.nodup_nil⟩, ?_, ?_⟩
  · intro n w hw
    rw [(hworker n w hw).1]
    exact ⟨nofun, nofun⟩
  · intro n w hw
    obtain ⟨hphase, hanswers⟩ := hworker n w hw
    refine ⟨by rw [hphase]; trivial, fun raw answer hmem => ?_⟩
    rw [hanswers] at hmem
    cases hmem

/-- Whatever the workers did, and in whatever order, the invariant holds. -/
theorem Reachable.consistent {size : Nat} {calls : List (List Call)} (h : Reachable size calls s) :
    Consistent s := by
  induction h with
  | start => exact consistent_start size calls
  | step n _ hstep ih =>
    obtain ⟨w, w', t, hw, hm, rfl⟩ := of_step? hstep
    exact hm.consistent ih hw

end EventTemplate.Concurrent
