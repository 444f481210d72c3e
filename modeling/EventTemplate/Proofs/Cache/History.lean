import EventTemplate.Proofs.Cache.Recency
import EventTemplate.Proofs.Template.Grammar

/-
  A cache over its history. What was done to it is a list of operations, newest first. Of these
  count the questions that were answered with a template, back to where the cache was last cleared
  (`uses`): they alone say what the cache holds, and in which order.

  Proved: after every history a cache holds what is left of the uses, the last one first
  (`Follows.run`). From this follows what it answers next, when it parses, what it gives up for a
  new template, and that a failure changes nothing (`lru_run`).
-/

namespace EventTemplate.Cache

/-! ## Histories -/

/-- What can be done to a cache. -/
inductive Operation where
  | get (raw : String)
  | contains (raw : String)
  | clear
  deriving DecidableEq, Repr

/-- The cache after an operation that has the given serial number. -/
def after (c : Cache) (serial : Nat) : Operation → Cache
  | .get raw => (c.fetch serial raw).cache
  | .contains _ => c
  | .clear => c.clear

/-- The cache after operations, given newest first. The serial number of an operation is how many
there were before it. -/
def run (c : Cache) : List Operation → Cache
  | [] => c
  | op :: past => (run c past).after past.length op

/-- The raw templates that were asked for with success since the cache was last cleared, newest
first. -/
def uses (c : Cache) : List Operation → List String
  | [] => []
  | .get raw :: past => match ((c.run past).fetch past.length raw).answer with
    | .ok _ => raw :: uses c past
    | .error _ => uses c past
  | .contains _ :: past => uses c past
  | .clear :: _ => []

/-- The cache has room for `n` templates and holds what is left of uses. -/
structure Follows (n : Nat) (uses : List String) (c : Cache) : Prop where
  sound : c.Sound
  capacity : c.store.capacity = n
  keys : c.store.keys = lastUsed n uses

variable {c : Cache} {n : Nat} {uses : List String} {past : List Operation} {raw : String}
  {t : Template} {why : ParseError}

/-! ## A step -/

theorem get?_of_not_mem (h : raw ∉ c.store.keys) : c.store.get? raw = none := by
  rw [← Option.not_isSome_iff_eq_none, Recent.isSome_get?_iff]
  exact h

theorem follows_of_create (h : create n = .ok c) : c.Follows n [] := by
  have hsound := sound_of_create h
  unfold create at h
  split at h
  · cases h
  · split at h
    · cases h
    · cases h
      exact ⟨hsound, Int.toNat_natCast n, (lastUsed_nil n).symm⟩

theorem Follows.keys_capacity (h : c.Follows n uses) :
    c.store.keys = lastUsed c.store.capacity uses := by
  rw [h.capacity]
  exact h.keys

/-- A valid raw template is used, whether it was in the cache or not. -/
theorem Follows.fetch_of_ok (h : c.Follows n uses) (ht : Template.parse raw = .ok t)
    (serial : Nat) : (c.fetch serial raw).cache.Follows n (raw :: uses) := by
  have hsound := h.sound.fetch serial raw
  have hkeys := h.keys_capacity
  cases hget : c.store.get? raw with
  | some i =>
    have hmem : raw ∈ c.store.keys := by
      rw [← Recent.isSome_get?_iff, hget]
      rfl
    rw [fetch_of_some hget] at hsound ⊢
    refine ⟨hsound, (c.store.capacity_touch raw).trans h.capacity, ?_⟩
    rw [Recent.keys_touch_lastUsed hkeys hmem, h.capacity]
  | none =>
    rw [Cache.fetch_of_ok hget ht] at hsound ⊢
    refine ⟨hsound, (c.store.capacity_insert raw _).trans h.capacity, ?_⟩
    rw [← h.capacity]
    exact Recent.keys_insert_lastUsed hkeys raw _

/-- A raw template that is not parsed leaves the cache as it is. -/
theorem Follows.fetch_of_error (h : c.Follows n uses) (hw : Template.parse raw = .error why)
    (serial : Nat) : c.fetch serial raw = ⟨.error why, c, Cache.refusal raw why⟩ :=
  Cache.fetch_of_error (get?_of_not_mem (h.sound.not_mem_keys hw)) hw serial

theorem Follows.clear (h : c.Follows n uses) : c.clear.Follows n [] :=
  ⟨sound_clear c, h.capacity, (lastUsed_nil n).symm⟩

/-! ## A run -/

/-- What a question adds to the uses. -/
theorem uses_get (h : (c.run past).Sound) :
    c.uses (.get raw :: past) =
      if (Template.parse raw).isOk then raw :: c.uses past else c.uses past := by
  have hanswer := h.answer_fetch past.length raw
  rw [Cache.uses]
  rw [← hanswer]
  cases ((c.run past).fetch past.length raw).answer <;> rfl

/-- After every history a cache holds what is left of the uses. -/
theorem Follows.run (h : c.Follows n []) (past : List Operation) :
    (c.run past).Follows n (c.uses past) := by
  induction past with
  | nil => exact h
  | cons op past ih =>
    cases op with
    | get raw =>
      rw [uses_get ih.sound]
      cases hparse : Template.parse raw with
      | ok t => exact ih.fetch_of_ok hparse past.length
      | error why =>
        rw [Cache.run, Cache.after, ih.fetch_of_error hparse]
        exact ih
    | contains raw => exact ih
    | clear => exact ih.clear

/-- What is in the cache is answered with the instance that is there, and nothing is parsed. The
entries stay, though not in their order. -/
theorem Follows.fetch_of_mem (h : c.Follows n uses) (hmem : raw ∈ c.store.keys) (serial : Nat) :
    ∃ i used, (raw, i) ∈ c.store.entries ∧ used.entries.Perm c.store.entries ∧
      c.fetch serial raw = ⟨.ok i, ⟨used⟩, []⟩ := by
  obtain ⟨i, hi⟩ := Option.isSome_iff_exists.mp (Recent.isSome_get?_iff.mpr hmem)
  exact ⟨i, _, Recent.mem_of_get? hi,
    Recent.perm_touch (Recent.distinct_of_keys h.keys_capacity) raw, fetch_of_some hi serial⟩

/-- A new template in a full cache: the `n`-th goes, and nothing else. -/
theorem Follows.fetch_of_full (h : c.Follows n uses) (hmem : raw ∉ c.store.keys)
    (ht : Template.parse raw = .ok t) (hn : n ≠ 0) (hfull : c.size = n) (serial : Nat) :
    ∃ gone, c.store.keys[n - 1]? = some gone ∧
      c.fetch serial raw =
        ⟨.ok ⟨serial, t⟩, ⟨⟨n, (raw, ⟨serial, t⟩) :: c.store.entries.dropLast⟩⟩,
          [.evicted gone, .cached raw]⟩ := by
  have hcapacity := h.capacity
  subst hcapacity
  obtain ⟨gone, hgone, hinsert⟩ := Recent.insert_of_full hmem hn hfull (⟨serial, t⟩ : Instance)
  refine ⟨gone, hgone, ?_⟩
  rw [Cache.fetch_of_ok (get?_of_not_mem hmem) ht, keep, hinsert]
  rfl

/-- A new template where there is room for it: nothing goes. -/
theorem Follows.fetch_of_room (h : c.Follows n uses) (hmem : raw ∉ c.store.keys)
    (ht : Template.parse raw = .ok t) (hroom : n ≠ 0 → c.size ≠ n) (serial : Nat) :
    c.fetch serial raw =
      ⟨.ok ⟨serial, t⟩, ⟨⟨n, (raw, ⟨serial, t⟩) :: c.store.entries⟩⟩, [.cached raw]⟩ := by
  have hbounded := Recent.bounded_of_keys h.keys_capacity
  have hcapacity := h.capacity
  subst hcapacity
  have hlt : c.store.capacity ≠ 0 → c.store.size < c.store.capacity := fun hn =>
    Nat.lt_of_le_of_ne (hbounded hn) (hroom hn)
  rw [Cache.fetch_of_ok (get?_of_not_mem hmem) ht, keep, Recent.insert_of_room hmem hlt]
  rfl

/-- A cache for `n` templates over its history. It holds the first `n` raw templates that are met
when the successful questions since it was last cleared are read backwards, in that order; without
a bound it holds them all. A question about one of these is answered with the instance in the
cache, and nothing is parsed or given up. A question about another is answered by a parse; a new
template makes the `n`-th go, before it is put in, if there are `n`, and else none. A failure
changes nothing, and only a rejection is noted. -/
theorem lru_run (h : create n = .ok c) (past : List Operation) :
    let now := c.run past
    let recent := (c.uses past).eraseDups
    (n ≠ 0 → now.store.keys = recent.take n ∧ now.size ≤ n) ∧
    (n = 0 → now.store.keys.Perm recent) ∧
    ∀ serial raw,
      (now.contains raw = true ↔ raw ∈ now.store.keys) ∧
      (raw ∈ now.store.keys →
        ∃ i used, (raw, i) ∈ now.store.entries ∧ used.entries.Perm now.store.entries ∧
          now.fetch serial raw = ⟨.ok i, ⟨used⟩, []⟩) ∧
      (raw ∉ now.store.keys → ∀ t, Template.parse raw = .ok t →
        (n ≠ 0 ∧ now.size = n → ∃ gone, now.store.keys[n - 1]? = some gone ∧
          now.fetch serial raw =
            ⟨.ok ⟨serial, t⟩, ⟨⟨n, (raw, ⟨serial, t⟩) :: now.store.entries.dropLast⟩⟩,
              [.evicted gone, .cached raw]⟩) ∧
        (¬ (n ≠ 0 ∧ now.size = n) → now.fetch serial raw =
          ⟨.ok ⟨serial, t⟩, ⟨⟨n, (raw, ⟨serial, t⟩) :: now.store.entries⟩⟩, [.cached raw]⟩)) ∧
      ∀ why, Template.parse raw = .error why →
        raw ∉ now.store.keys ∧ now.fetch serial raw = ⟨.error why, now, Cache.refusal raw why⟩ := by
  intro now recent
  have hnow : now.Follows n (c.uses past) := (follows_of_create h).run past
  have hkeys : now.store.keys = fitting n recent := hnow.keys
  refine ⟨fun hn => ⟨?_, ?_⟩, fun hn => ?_, fun serial raw => ⟨?_, fun hmem => ?_,
    fun hmem t ht => ⟨fun hfull => ?_, fun hroom => ?_⟩, fun why hw => ⟨?_, ?_⟩⟩⟩
  · rw [hkeys, fitting, if_neg hn]
  · rw [size, ← Recent.length_keys, hkeys]
    exact length_fitting_le hn recent
  · rw [hkeys, fitting, if_pos hn]
  · exact List.contains_iff_mem
  · exact hnow.fetch_of_mem hmem serial
  · exact hnow.fetch_of_full hmem ht hfull.1 hfull.2 serial
  · exact hnow.fetch_of_room hmem ht (fun hn hfull => hroom ⟨hn, hfull⟩) serial
  · exact hnow.sound.not_mem_keys hw
  · exact hnow.fetch_of_error hw serial

/-- A cache for two templates. After the first is asked for again, the second is the one to go for
a third; a rejected raw template and a look into the cache do not count. -/
theorem lru_run_two :
    let past : List Operation :=
      [.contains "b", .get "{}", .get "a", .get "b", .get "c", .clear, .get "a"]
    ∃ c, create (2 : Nat) = .ok c ∧ c.uses past = ["a", "b", "c"] ∧
      (c.run past).store.keys = ["a", "b"] ∧
      ((c.run past).fetch 7 "a").records = [] ∧
      ((c.run past).fetch 7 "d").records = [.evicted "b", .cached "d"] ∧
      ((c.run past).fetch 7 "{}").records = [.refused "{}"] := by
  intro past
  have hcreate : create (2 : Nat) = .ok ⟨{ capacity := 2 }⟩ := rfl
  have hparses : ∀ raw ∈ ["a", "b", "c", "d"],
      Template.parse raw = .ok ⟨raw, [.text raw]⟩ := by
    decide +kernel
  have huses : uses ⟨{ capacity := 2 }⟩ past = ["a", "b", "c"] := by decide +kernel
  obtain ⟨hbounded, _, hnext⟩ := lru_run hcreate past
  have hkeys : (run ⟨{ capacity := 2 }⟩ past).store.keys = ["a", "b"] := by
    rw [(hbounded (by decide)).1, huses]
    decide
  refine ⟨_, hcreate, huses, hkeys, ?_, ?_, ?_⟩
  · obtain ⟨i, used, _, _, hfetch⟩ := (hnext 7 "a").2.1 (by rw [hkeys]; decide)
    rw [hfetch]
  · obtain ⟨gone, hgone, hfetch⟩ := ((hnext 7 "d").2.2.1 (by rw [hkeys]; decide) _
      (hparses "d" (by decide))).1 ⟨by decide, by rw [size, ← Recent.length_keys, hkeys]; rfl⟩
    rw [hkeys] at hgone
    cases hgone
    rw [hfetch]
  · obtain ⟨why, hparse⟩ : ∃ why, Template.parse "{}" = .error (.rejected why) :=
      rejected_of_length_le (by decide) (by decide +kernel)
    rw [((hnext 7 "{}").2.2.2 _ hparse).2]
    rfl

end EventTemplate.Cache
