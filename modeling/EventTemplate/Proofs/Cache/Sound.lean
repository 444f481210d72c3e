import EventTemplate.Cache.Basic

/-
  What stores hold. A property of entries that all entries of a store have stays with the store
  when it is used, cleared, and filled with entries that have it.

  Proved: a cache that holds nothing but what raw templates parse to answers every question as a
  parse would (`Cache.Sound.answer_fetch`), and still holds nothing else (`Cache.Sound.fetch`). So
  does every cache that is created, asked and cleared (`Cache.Reachable.sound`).
-/

namespace EventTemplate

/-! ## Entries of a store -/

namespace Recent

variable {β : Type} {P : String → β → Prop} {s : Recent β}

/-- All entries of a store have a property. -/
def All (P : String → β → Prop) (s : Recent β) : Prop :=
  ∀ key v, (key, v) ∈ s.entries → P key v

theorem mem_of_get? {key : String} {v : β} (h : s.get? key = some v) : (key, v) ∈ s.entries := by
  obtain ⟨front, back, hentries, _⟩ := List.lookup_eq_some_iff.mp h
  rw [hentries]
  exact List.mem_append_right front List.mem_cons_self

theorem all_of_entries_nil (h : s.entries = []) : s.All P := by
  intro key v hmem
  rw [h] at hmem
  cases hmem

theorem All.get? (h : s.All P) {key : String} {v : β} (hv : s.get? key = some v) : P key v :=
  h key v (mem_of_get? hv)

theorem all_cons {key : String} {v : β} (hv : P key v) {others : List (String × β)}
    (h : ∀ k w, (k, w) ∈ others → P k w) : All P { s with entries := (key, v) :: others } := by
  intro k w hmem
  rcases List.mem_cons.mp hmem with heq | hmem
  · cases heq
    exact hv
  · exact h k w hmem

theorem All.touch (h : s.All P) (key : String) : (s.touch key).All P := by
  unfold Recent.touch
  split
  · rename_i v hv
    exact all_cons (h.get? hv) fun k w hmem => h k w (List.mem_filter.mp hmem).1
  · exact h

theorem All.insert (h : s.All P) {key : String} {v : β} (hv : P key v) :
    (s.insert key v).1.All P := by
  have hothers : ∀ k w, (k, w) ∈ s.entries.filter (·.1 ≠ key) → P k w :=
    fun k w hmem => h k w (List.mem_filter.mp hmem).1
  unfold Recent.insert
  dsimp only
  -- if the store is full, the last of the other entries is gone
  split
  · exact all_cons hv fun k w hmem => hothers k w (List.dropLast_subset _ hmem)
  · exact all_cons hv hothers

theorem all_clear : s.clear.All P :=
  all_of_entries_nil rfl

end Recent

/-! ## Questions to a cache -/

namespace Cache

variable {c : Cache} {raw : String}

/-- Every template of a cache is the one that its raw template parses to. -/
def Sound (c : Cache) : Prop :=
  c.store.All fun raw i => Template.parse raw = .ok i.template

/-- What is in the cache is answered as it is, and is used by that. -/
theorem fetch_of_some {i : Instance} (h : c.store.get? raw = some i) (serial : Nat) :
    c.fetch serial raw = ⟨.ok i, ⟨c.store.touch raw⟩, []⟩ := by
  rw [fetch, h]

/-- What is missing and valid is a new instance, which is kept. -/
theorem fetch_of_ok {t : Template} (h : c.store.get? raw = none) (ht : Template.parse raw = .ok t)
    (serial : Nat) :
    c.fetch serial raw =
      ⟨.ok ⟨serial, t⟩, (c.keep raw ⟨serial, t⟩).1, (c.keep raw ⟨serial, t⟩).2⟩ := by
  rw [fetch, h]
  dsimp only
  rw [ht]

/-- What is missing and not parsed leaves the cache as it is. -/
theorem fetch_of_error {why : ParseError} (h : c.store.get? raw = none)
    (hw : Template.parse raw = .error why) (serial : Nat) :
    c.fetch serial raw = ⟨.error why, c, refusal raw why⟩ := by
  rw [fetch, h]
  dsimp only
  rw [hw]

theorem sound_of_create {size : Int} (h : create size = .ok c) : c.Sound := by
  unfold create at h
  split at h
  · cases h
  · split at h
    · cases h
    · cases h
      exact Recent.all_of_entries_nil rfl

/-- A raw template that is not parsed is in no such cache. -/
theorem Sound.not_mem_keys (h : c.Sound) {why : ParseError} (hw : Template.parse raw = .error why) :
    raw ∉ c.store.keys := by
  intro hkey
  obtain ⟨entry, hentry, rfl⟩ := List.mem_map.mp hkey
  have hparse : Template.parse entry.1 = .ok entry.2.template := h entry.1 entry.2 hentry
  rw [hw] at hparse
  cases hparse

theorem Sound.answer_fetch (h : c.Sound) (serial : Nat) (raw : String) :
    (c.fetch serial raw).answer.map Instance.template = Template.parse raw := by
  cases hget : c.store.get? raw with
  | some i =>
    rw [fetch_of_some hget]
    exact (h.get? hget).symm
  | none =>
    cases hparse : Template.parse raw with
    | ok t =>
      rw [fetch_of_ok hget hparse]
      rfl
    | error why =>
      rw [fetch_of_error hget hparse]
      rfl

theorem Sound.fetch (h : c.Sound) (serial : Nat) (raw : String) :
    (c.fetch serial raw).cache.Sound := by
  cases hget : c.store.get? raw with
  | some i =>
    rw [fetch_of_some hget]
    exact h.touch raw
  | none =>
    cases hparse : Template.parse raw with
    | ok t =>
      rw [fetch_of_ok hget hparse]
      exact h.insert hparse
    | error why =>
      rw [fetch_of_error hget hparse]
      exact h

theorem sound_clear (c : Cache) : c.clear.Sound :=
  Recent.all_clear

/-- Caches that have been created, asked and cleared in whatever way. -/
inductive Reachable : Cache → Prop where
  | create {size : Int} {c : Cache} (h : create size = .ok c) : Reachable c
  | fetch {c : Cache} (h : Reachable c) (serial : Nat) (raw : String) :
      Reachable (c.fetch serial raw).cache
  | clear {c : Cache} (h : Reachable c) : Reachable c.clear

theorem Reachable.sound (h : c.Reachable) : c.Sound := by
  induction h with
  | create h => exact sound_of_create h
  | fetch _ serial raw ih => exact ih.fetch serial raw
  | clear _ _ => exact sound_clear _

end Cache

end EventTemplate
