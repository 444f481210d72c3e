import Mathlib.Data.List.Nodup
import EventTemplate.Binding
import EventTemplate.Proofs.Cache.Sound

/-
  What is found in a store after it was used, filled or cleared. Using a text moves its entry and
  changes no answer. Filling answers for the new text, and for the text that had to go, if one had
  to; for all others nothing changes (`get?_insert`).

  The entries of a store are looked through from the front, so this takes that no text has two
  entries (`Distinct`), which all operations keep.
-/

namespace EventTemplate.Recent

variable {β : Type} {s : Recent β} {key k : String} {v : β}

/-- No text has two entries. -/
def Distinct (s : Recent β) : Prop := s.keys.Nodup

/-- The entries of all texts but one. -/
def others (s : Recent β) (key : String) : List (String × β) :=
  s.entries.filter (·.1 ≠ key)

theorem lookup_others (s : Recent β) (key k : String) :
    (s.others key).lookup k = if k = key then none else s.get? k := by
  unfold others get?
  induction s.entries with
  | nil => simp
  | cons e rest ih =>
    obtain ⟨k', v'⟩ := e
    by_cases h' : k' = key
    · subst h'
      rw [List.filter_cons_of_neg (by simp), ih, lookup_cons_ite]
      by_cases hk : k = k'
      · rw [if_pos hk, if_pos hk]
      · rw [if_neg hk, if_neg hk, if_neg hk]
    · rw [List.filter_cons_of_pos (by simp [h']), lookup_cons_ite, lookup_cons_ite, ih]
      by_cases hk : k = k'
      · rw [if_pos hk, if_pos hk, if_neg (by rwa [hk])]
      · rw [if_neg hk, if_neg hk]

theorem not_mem_map_others (s : Recent β) (key : String) : key ∉ (s.others key).map (·.1) := by
  intro h
  obtain ⟨e, he, hkey⟩ := List.mem_map.mp h
  have hne : e.1 ≠ key := by simpa using (List.mem_filter.mp he).2
  exact hne hkey

theorem Distinct.others (h : s.Distinct) (key : String) : ((s.others key).map (·.1)).Nodup :=
  h.sublist (List.filter_sublist.map _)

/-- All that filling a store can do: put an entry in front of the others, and drop the last of them
if the store is full. -/
theorem insert_cases (s : Recent β) (key : String) (v : β) :
    s.insert key v = ({ s with entries := (key, v) :: s.others key }, none) ∨
    ∃ front last, s.others key = front ++ [last] ∧
      s.insert key v = ({ s with entries := (key, v) :: front }, some last.1) := by
  by_cases hfull : s.capacity ≠ 0 ∧ s.capacity ≤ (s.others key).length
  · have hne : s.others key ≠ [] := by
      intro hnil
      rw [hnil, List.length_nil] at hfull
      omega
    refine .inr ⟨(s.others key).dropLast, (s.others key).getLast hne, ?_, ?_⟩
    · exact (List.dropLast_append_getLast hne).symm
    · unfold insert
      dsimp only
      rw [← others, if_pos hfull, List.getLast?_eq_some_getLast hne]
      rfl
  · left
    unfold insert
    dsimp only
    rw [← others, if_neg hfull]

/-! ## Lookups -/

theorem get?_cons (s : Recent β) (key k : String) (v : β) (rest : List (String × β)) :
    get? { s with entries := (key, v) :: rest } k =
      if k = key then some v else rest.lookup k :=
  lookup_cons_ite k key v rest

/-- Using a text changes no answer. -/
theorem get?_touch (s : Recent β) (key k : String) : (s.touch key).get? k = s.get? k := by
  unfold touch
  split
  · rename_i v hv
    rw [get?_cons, ← others, lookup_others]
    by_cases hk : k = key
    · rw [if_pos hk, hk, hv]
    · rw [if_neg hk, if_neg hk]
  · rfl

theorem get?_insert_self (s : Recent β) (key : String) (v : β) :
    (s.insert key v).1.get? key = some v := by
  rcases s.insert_cases key v with h | ⟨front, last, _, h⟩ <;> rw [h, get?_cons, if_pos rfl]

/-- Filling a store answers for the new text and for the one that had to go. -/
theorem get?_insert (hd : s.Distinct) (hk : k ≠ key) (v : β) :
    (s.insert key v).1.get? k = if (s.insert key v).2 = some k then none else s.get? k := by
  have hothers := s.lookup_others key k
  rw [if_neg hk] at hothers
  rcases s.insert_cases key v with h | ⟨front, ⟨gone, w⟩, hsplit, h⟩
  · rw [h, get?_cons, if_neg hk, hothers, if_neg nofun]
  · have hnodup := hd.others key
    rw [hsplit, List.map_append, List.map_singleton] at hnodup
    rw [h, get?_cons, if_neg hk]
    rw [hsplit, List.lookup_append] at hothers
    by_cases hgone : k = gone
    · subst hgone
      have habsent : k ∉ front.map (·.1) := by
        intro hmem
        exact (List.nodup_append.mp hnodup).2.2 k hmem k (List.mem_singleton_self k) rfl
      rw [if_pos rfl, List.lookup_eq_none_iff]
      intro e he
      have hne : k ≠ e.1 := fun heq => habsent (heq ▸ List.mem_map_of_mem he)
      simpa using hne
    · rw [if_neg (by simpa using Ne.symm hgone), ← hothers, lookup_cons_ite, if_neg hgone]
      simp

/-- What had to go was in the store, and is not the new text. -/
theorem of_gone_insert {gone : String} (h : (s.insert key v).2 = some gone) :
    gone ≠ key ∧ gone ∈ s.keys := by
  rcases s.insert_cases key v with hi | ⟨front, last, hsplit, hi⟩
  · rw [hi] at h
    cases h
  · rw [hi] at h
    cases h
    have hmem : last ∈ s.others key := by
      rw [hsplit]
      exact List.mem_append_right front List.mem_cons_self
    obtain ⟨hentry, hne⟩ := List.mem_filter.mp hmem
    exact ⟨by simpa using hne, List.mem_map_of_mem hentry⟩

theorem get?_clear (s : Recent β) (k : String) : s.clear.get? k = none := rfl

theorem isSome_get?_iff : (s.get? k).isSome = true ↔ k ∈ s.keys :=
  isSome_lookup_iff

/-! ## No text has two entries -/

theorem Distinct.touch (h : s.Distinct) (key : String) : (s.touch key).Distinct := by
  unfold Recent.touch
  split
  · exact List.nodup_cons.mpr ⟨s.not_mem_map_others key, h.others key⟩
  · exact h

theorem Distinct.insert (h : s.Distinct) (key : String) (v : β) : (s.insert key v).1.Distinct := by
  have hnew := s.not_mem_map_others key
  have hnodup := h.others key
  rcases s.insert_cases key v with hi | ⟨front, last, hsplit, hi⟩
  · rw [hi]
    exact List.nodup_cons.mpr ⟨hnew, hnodup⟩
  · rw [hsplit, List.map_append] at hnew hnodup
    rw [hi]
    refine List.nodup_cons.mpr ⟨fun hmem => hnew (List.mem_append_left _ hmem), ?_⟩
    exact (List.nodup_append.mp hnodup).1

theorem distinct_clear (s : Recent β) : s.clear.Distinct :=
  List.nodup_nil

end EventTemplate.Recent
