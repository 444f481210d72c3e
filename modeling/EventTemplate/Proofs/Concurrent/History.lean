import Mathlib.Data.List.Nodup
import EventTemplate.Cache.Concurrent

/-
  What a history tells about the cache it is the history of. The newest happening that concerns a
  raw template says whether it is in the cache, and as which instance (`held`). A history is orderly
  if nothing is stored that is held and nothing is removed that is not.

  Proved, for orderly histories: a raw template was stored as often as it was removed, and once more
  if it is held (`Orderly.count_stores`); between two different instances of it a removal stands
  (`Orderly.removedBetween`).
-/

namespace EventTemplate.Concurrent

/-! ## Storing and removing -/

namespace Happening

/-- Whether a raw template is parsed with success and stored. -/
def stores (raw : String) : Happening → Bool
  | stored raw' _ => raw' == raw
  | _ => false

/-- Whether a raw template is parsed, with success or without. -/
def parses (raw : String) : Happening → Bool
  | stored raw' _ => raw' == raw
  | refused raw' => raw' == raw
  | _ => false

/-- Whether a raw template leaves the cache. -/
def removes (raw : String) : Happening → Bool
  | evicted raw' => raw' == raw
  | dropped raw' => raw' == raw
  | _ => false

/-- The serial number of the instance that is stored, if one is. -/
def serial? : Happening → Option Nat
  | stored _ i => some i.serial
  | _ => none

end Happening

/-- The instance of a raw template that is in the cache by a history. -/
def held (raw : String) : List Happening → Option Instance
  | [] => none
  | .stored raw' i :: rest => if raw' = raw then some i else held raw rest
  | x :: rest => if x.removes raw then none else held raw rest

/-- In a history, a raw template is removed after its instance `i` is stored and before `j` is. -/
def RemovedBetween (raw : String) (i j : Instance) (history : List Happening) : Prop :=
  ∃ later between earlier,
    history = later ++ .stored raw j :: (between ++ .stored raw i :: earlier) ∧
      ∃ x ∈ between, x.removes raw = true

variable {raw : String} {i j : Instance} {x : Happening} {history rest : List Happening}

theorem stores_stored (raw : String) (i : Instance) : (Happening.stored raw i).stores raw = true :=
  beq_self_eq_true raw

/-- A happening stores a raw template, or removes it, or does not concern it. -/
theorem stores_or_removes (raw : String) (x : Happening) :
    (∃ i, x = .stored raw i) ∨ (x.stores raw = false ∧ x.removes raw = true) ∨
      (x.stores raw = false ∧ x.removes raw = false) := by
  cases x with
  | stored raw' i =>
    by_cases h : raw' = raw
    · exact .inl ⟨i, by rw [h]⟩
    · exact .inr (.inr ⟨beq_false_of_ne h, rfl⟩)
  | refused raw' => exact .inr (.inr ⟨rfl, rfl⟩)
  | evicted raw' =>
    cases h : Happening.removes raw (.evicted raw') with
    | true => exact .inr (.inl ⟨rfl, rfl⟩)
    | false => exact .inr (.inr ⟨rfl, rfl⟩)
  | dropped raw' =>
    cases h : Happening.removes raw (.dropped raw') with
    | true => exact .inr (.inl ⟨rfl, rfl⟩)
    | false => exact .inr (.inr ⟨rfl, rfl⟩)

theorem held_stored (raw : String) (i : Instance) (rest : List Happening) :
    held raw (.stored raw i :: rest) = some i := by
  rw [held, if_pos rfl]

theorem held_of_removes (h : x.removes raw = true) (rest : List Happening) :
    held raw (x :: rest) = none := by
  cases x with
  | stored => cases h
  | refused => cases h
  | evicted => rw [held, if_pos h]; exact nofun
  | dropped => rw [held, if_pos h]; exact nofun

theorem held_of_neither (hs : x.stores raw = false) (hr : x.removes raw = false)
    (rest : List Happening) : held raw (x :: rest) = held raw rest := by
  cases x with
  | stored raw' i => rw [held, if_neg (ne_of_beq_false hs)]
  | refused => rw [held, hr, if_neg Bool.false_ne_true]; exact nofun
  | evicted => rw [held, hr, if_neg Bool.false_ne_true]; exact nofun
  | dropped => rw [held, hr, if_neg Bool.false_ne_true]; exact nofun

/-- What is held was stored. -/
theorem stored_mem_of_held (h : held raw history = some i) : .stored raw i ∈ history := by
  induction history with
  | nil => cases h
  | cons x rest ih =>
    rcases stores_or_removes raw x with ⟨j, rfl⟩ | ⟨_, hr⟩ | ⟨hs, hr⟩
    · rw [held_stored] at h
      cases h
      exact List.mem_cons_self
    · rw [held_of_removes hr] at h
      cases h
    · rw [held_of_neither hs hr] at h
      exact List.mem_cons_of_mem x (ih h)

theorem stored_mem_of_cons (hs : x.stores raw = false) (h : .stored raw i ∈ x :: rest) :
    .stored raw i ∈ rest := by
  rcases List.mem_cons.mp h with rfl | h
  · rw [stores_stored] at hs
    cases hs
  · exact h

/-- What was stored and is not held was removed since. -/
theorem removed_since (hi : .stored raw i ∈ history) (h : held raw history = none) :
    ∃ between earlier, history = between ++ .stored raw i :: earlier ∧
      ∃ y ∈ between, y.removes raw = true := by
  induction history with
  | nil => cases hi
  | cons x rest ih =>
    rcases stores_or_removes raw x with ⟨j, rfl⟩ | ⟨hs, hr⟩ | ⟨hs, hr⟩
    · rw [held_stored] at h
      cases h
    · obtain ⟨front, earlier, rfl⟩ := List.append_of_mem (stored_mem_of_cons hs hi)
      exact ⟨x :: front, earlier, rfl, x, List.mem_cons_self, hr⟩
    · rw [held_of_neither hs hr] at h
      obtain ⟨between, earlier, rfl, y, hy, hremoves⟩ := ih (stored_mem_of_cons hs hi) h
      exact ⟨x :: between, earlier, rfl, y, List.mem_cons_of_mem x hy, hremoves⟩

theorem RemovedBetween.cons (h : RemovedBetween raw i j history) (x : Happening) :
    RemovedBetween raw i j (x :: history) := by
  obtain ⟨later, between, earlier, rfl, hx⟩ := h
  exact ⟨x :: later, between, earlier, rfl, hx⟩

/-! ## Orderly histories -/

/-- Nothing is stored that is held, and nothing is removed that is not. -/
inductive Orderly : List Happening → Prop where
  | nil : Orderly []
  | cons {x : Happening} {rest : List Happening}
      (hstores : ∀ raw, x.stores raw = true → held raw rest = none)
      (hremoves : ∀ raw, x.removes raw = true → (held raw rest).isSome = true)
      (h : Orderly rest) : Orderly (x :: rest)

/-- The times that a raw template was stored are the times that it was removed, and one more if it
is held. -/
theorem Orderly.count_stores (h : Orderly history) (raw : String) :
    history.countP (Happening.stores raw) =
      history.countP (Happening.removes raw) + if (held raw history).isSome then 1 else 0 := by
  induction h with
  | nil => rfl
  | @cons x rest hstores hremoves _ ih =>
    rw [List.countP_cons, List.countP_cons, ih]
    rcases stores_or_removes raw x with ⟨i, rfl⟩ | ⟨hs, hr⟩ | ⟨hs, hr⟩
    · have hnone := hstores raw (stores_stored raw i)
      rw [held_stored, hnone, stores_stored]
      rfl
    · rw [held_of_removes hr, hremoves raw hr, hs, hr]
      rfl
    · rw [held_of_neither hs hr, hs, hr]
      rfl

/-- Of two different instances of a raw template, one was stored and removed before the other was
stored. -/
theorem Orderly.removedBetween (h : Orderly history) (hi : .stored raw i ∈ history)
    (hj : .stored raw j ∈ history) (hne : i ≠ j) :
    RemovedBetween raw i j history ∨ RemovedBetween raw j i history := by
  induction h with
  | nil => cases hi
  | @cons x rest hstores _ _ ih =>
    -- against the newest instance, any other has been removed, as it is not held
    have hnewest : ∀ k l, x = .stored raw k → .stored raw l ∈ x :: rest → l ≠ k →
        RemovedBetween raw l k (x :: rest) := by
      rintro k l rfl hl hne
      rcases List.mem_cons.mp hl with heq | hl
      · cases heq
        exact absurd rfl hne
      · obtain ⟨between, earlier, hrest, hx⟩ := removed_since hl (hstores raw (stores_stored raw k))
        exact ⟨[], between, earlier, by rw [hrest]; rfl, hx⟩
    rcases List.mem_cons.mp hi with heq | hi'
    · exact .inr (hnewest i j heq.symm hj hne.symm)
    · rcases List.mem_cons.mp hj with heq | hj'
      · exact .inl (hnewest j i heq.symm hi hne)
      · exact (ih hi' hj').imp (·.cons x) (·.cons x)

/-! ## Removing -/

/-- A kind of happening that removes the raw template it tells of, and does nothing else. -/
structure Removal (f : String → Happening) : Prop where
  removes : ∀ key raw, (f key).removes raw = (key == raw)
  stores : ∀ key raw, (f key).stores raw = false
  serial : ∀ key, (f key).serial? = none

theorem removal_evicted : Removal .evicted := ⟨fun _ _ => rfl, fun _ _ => rfl, fun _ => rfl⟩

theorem removal_dropped : Removal .dropped := ⟨fun _ _ => rfl, fun _ _ => rfl, fun _ => rfl⟩

variable {f : String → Happening} {keys : List String}

theorem Removal.held (hf : Removal f) (raw : String) (keys : List String)
    (history : List Happening) :
    held raw (keys.map f ++ history) = if raw ∈ keys then none else held raw history := by
  induction keys with
  | nil => simp
  | cons key keys ih =>
    rw [List.map_cons, List.cons_append]
    by_cases hkey : key = raw
    · rw [held_of_removes (by rw [hf.removes, hkey, beq_self_eq_true]), if_pos (by simp [hkey])]
    · rw [held_of_neither (hf.stores key raw) (by rw [hf.removes, beq_false_of_ne hkey]), ih]
      simp [Ne.symm hkey]

/-- Removing what is held is orderly, once for each. -/
theorem Removal.orderly (hf : Removal f) (h : Orderly history) (hd : keys.Nodup)
    (hheld : ∀ key ∈ keys, (Concurrent.held key history).isSome = true) :
    Orderly (keys.map f ++ history) := by
  induction keys with
  | nil => exact h
  | cons key keys ih =>
    obtain ⟨hnew, hd⟩ := List.nodup_cons.mp hd
    obtain ⟨hkey, hheld⟩ := List.forall_mem_cons.mp hheld
    refine .cons (fun raw hs => ?_) (fun raw hr => ?_) (ih hd hheld)
    · rw [hf.stores] at hs
      cases hs
    · rw [hf.removes] at hr
      rw [← beq_iff_eq.mp hr, List.append_eq, hf.held, if_neg hnew]
      exact hkey

theorem Removal.serials (hf : Removal f) (keys : List String) (history : List Happening) :
    (keys.map f ++ history).filterMap Happening.serial? =
      history.filterMap Happening.serial? := by
  induction keys with
  | nil => rfl
  | cons key keys ih =>
    rw [List.map_cons, List.cons_append, List.filterMap_cons, hf.serial]
    exact ih

end EventTemplate.Concurrent
