import EventTemplate.Proofs.Cache.Lookup

/-
  What a store still has of all that was used. A use is a text that was found in the store or put
  into it. Of the uses so far, newest first, the store has the texts that come first, each of them
  once, and as many as it has room for (`lastUsed`).

  Proved: one more use leaves the new text and of the others as many as there is still room for
  (`lastUsed_cons`). That is what finding a text does to a store (`keys_touch_lastUsed`), and what
  putting a text into it does (`keys_insert_lastUsed`). A new text makes the store give up the last
  of its texts if it is full, and nothing if it is not (`insert_of_full`, `insert_of_room`).
-/

namespace EventTemplate

/-! ## Lists without repetition -/

section Distinct

variable {α : Type} [DecidableEq α] {a : α} {l : List α}

theorem eraseDups_filter (p : α → Bool) (l : List α) :
    (l.filter p).eraseDups = l.eraseDups.filter p := by
  match l with
  | [] => rfl
  | a :: as =>
    have ih := eraseDups_filter p (as.filter fun b => !b == a)
    rw [List.eraseDups_cons]
    by_cases ha : p a = true
    · rw [List.filter_cons_of_pos ha, List.filter_cons_of_pos ha, List.eraseDups_cons, ← ih,
        List.filter_comm]
    · -- the filter drops all that equals `a` as well
      rw [List.filter_cons_of_neg ha, List.filter_cons_of_neg ha, ← ih, List.filter_filter]
      congr 1
      apply List.filter_congr
      intro b _
      by_cases hb : b = a
      · rw [hb, Bool.eq_false_iff.mpr ha, Bool.false_and]
      · rw [beq_false_of_ne hb, Bool.not_false, Bool.and_true]
termination_by l.length
decreasing_by exact Nat.lt_succ_of_le (List.length_filter_le _ _)

/-- What comes first once stays, and what comes later of the same goes. -/
theorem eraseDups_cons_filter (a : α) (l : List α) :
    (a :: l).eraseDups = a :: l.eraseDups.filter (· ≠ a) := by
  rw [List.eraseDups_cons, eraseDups_filter]
  congr 1
  apply List.filter_congr
  intro b _
  by_cases hb : b = a <;> simp [hb]

theorem nodup_eraseDups (l : List α) : l.eraseDups.Nodup := by
  induction l with
  | nil => exact List.nodup_nil
  | cons a l ih =>
    rw [eraseDups_cons_filter, List.nodup_cons]
    exact ⟨by simp, ih.filter _⟩

/-- A list without repetition loses at most one element with a value. -/
theorem length_le_length_filter_ne (h : l.Nodup) (a : α) :
    l.length ≤ (l.filter (· ≠ a)).length + 1 := by
  have herase := h.erase_eq_filter a
  have hfilter : l.filter (· ≠ a) = l.erase a := by
    rw [herase]
    apply List.filter_congr
    intro b _
    by_cases hb : b = a <;> simp [hb]
  rw [hfilter, List.length_erase]
  split <;> omega

end Distinct

/-! ## The last uses -/

section LastUsed

variable {α : Type} {l : List α}

/-- As much of a list as there is room for; capacity zero stands for no bound. -/
def fitting (capacity : Nat) (l : List α) : List α :=
  if capacity = 0 then l else l.take capacity

/-- What is left of uses, newest first: the last used ones, each of them once, as many as there is
room for. -/
def lastUsed [DecidableEq α] (capacity : Nat) (uses : List α) : List α :=
  fitting capacity uses.eraseDups

theorem fitting_of_le {capacity : Nat} (h : capacity ≠ 0 → l.length ≤ capacity) :
    fitting capacity l = l := by
  unfold fitting
  split
  · rfl
  · rename_i hc
    exact List.take_of_length_le (h hc)

theorem lastUsed_nil [DecidableEq α] (capacity : Nat) : lastUsed capacity ([] : List α) = [] :=
  fitting_of_le fun _ => Nat.zero_le capacity

theorem length_fitting_le {capacity : Nat} (h : capacity ≠ 0) (l : List α) :
    (fitting capacity l).length ≤ capacity := by
  unfold fitting
  rw [if_neg h]
  exact List.length_take_le capacity l

/-- In front of a list without repetition, it makes no difference whether what has no room goes
before or after the new element gets there. -/
theorem fitting_cons_filter [DecidableEq α] (h : l.Nodup) (capacity : Nat) (a : α) :
    fitting capacity (a :: (fitting capacity l).filter (· ≠ a)) =
      fitting capacity (a :: l.filter (· ≠ a)) := by
  cases capacity with
  | zero => rfl
  | succ m =>
    have hfront := length_le_length_filter_ne (h.sublist (List.take_sublist (m + 1) l)) a
    have hsplit : l.filter (· ≠ a) =
        (l.take (m + 1)).filter (· ≠ a) ++ (l.drop (m + 1)).filter (· ≠ a) := by
      rw [← List.filter_append, List.take_append_drop]
    unfold fitting
    rw [if_neg (Nat.succ_ne_zero m), if_neg (Nat.succ_ne_zero m), if_neg (Nat.succ_ne_zero m),
      List.take_succ_cons, List.take_succ_cons, hsplit]
    congr 1
    by_cases hlong : m + 1 ≤ l.length
    · rw [List.length_take, Nat.min_eq_left hlong] at hfront
      exact (List.take_append_of_le_length (by omega)).symm
    · rw [List.drop_of_length_le (by omega), List.filter_nil, List.append_nil]

theorem mem_lastUsed [DecidableEq α] {capacity : Nat} {uses : List α} {a : α} :
    a ∈ lastUsed capacity uses ↔
      a ∈ if capacity = 0 then uses else uses.eraseDups.take capacity := by
  unfold lastUsed fitting
  split
  · exact List.mem_eraseDups
  · exact Iff.rfl

/-- One more use. -/
theorem lastUsed_cons [DecidableEq α] (capacity : Nat) (a : α) (uses : List α) :
    lastUsed capacity (a :: uses) =
      fitting capacity (a :: (lastUsed capacity uses).filter (· ≠ a)) := by
  unfold lastUsed
  rw [eraseDups_cons_filter, fitting_cons_filter (nodup_eraseDups uses)]

end LastUsed

/-! ## Stores -/

namespace Recent

variable {β : Type} {s : Recent β} {key : String} {uses : List String}

/-- A store with a bound holds no more entries than that. -/
def Bounded (s : Recent β) : Prop := s.capacity ≠ 0 → s.size ≤ s.capacity

theorem length_keys (s : Recent β) : s.keys.length = s.size :=
  List.length_map _

theorem keys_others (s : Recent β) (key : String) :
    (s.others key).map (·.1) = s.keys.filter (· ≠ key) := by
  unfold others keys
  rw [List.filter_map]
  rfl

theorem filter_ne_of_not_mem {l : List (String × β)} (h : key ∉ l.map (·.1)) :
    l.filter (·.1 ≠ key) = l := by
  apply List.filter_eq_self.mpr
  intro e he
  have hne : e.1 ≠ key := fun heq => h (heq ▸ List.mem_map_of_mem he)
  simpa using hne

theorem others_of_not_mem (h : key ∉ s.keys) : s.others key = s.entries :=
  filter_ne_of_not_mem h

theorem capacity_touch (s : Recent β) (key : String) : (s.touch key).capacity = s.capacity := by
  unfold touch
  split <;> rfl

theorem capacity_insert (s : Recent β) (key : String) (v : β) :
    (s.insert key v).1.capacity = s.capacity := by
  rcases s.insert_cases key v with h | ⟨front, last, _, h⟩ <;> rw [h]

theorem keys_touch (h : key ∈ s.keys) : (s.touch key).keys = key :: s.keys.filter (· ≠ key) := by
  obtain ⟨v, hv⟩ := Option.isSome_iff_exists.mp (isSome_get?_iff.mpr h)
  unfold touch
  rw [hv, ← keys_others]
  rfl

/-- A use changes the order of the entries and nothing else. -/
theorem perm_touch (hd : s.Distinct) (key : String) : (s.touch key).entries.Perm s.entries := by
  unfold touch
  split
  · rename_i v hv
    obtain ⟨front, back, hentries, _⟩ := List.lookup_eq_some_iff.mp hv
    unfold Distinct keys at hd
    rw [hentries, List.map_append, List.map_cons, List.nodup_middle] at hd
    obtain ⟨hfront, hback⟩ := not_or.mp (mt List.mem_append.mpr (List.nodup_cons.mp hd).1)
    dsimp only
    rw [hentries, List.filter_append, filter_ne_of_not_mem hfront,
      List.filter_cons_of_neg (by simp), filter_ne_of_not_mem hback]
    exact List.perm_middle.symm
  · exact List.Perm.refl _

/-- A new text finds a full store, which gives up its last text for it. -/
theorem insert_of_full (h : key ∉ s.keys) (hc : s.capacity ≠ 0) (hfull : s.size = s.capacity)
    (v : β) : ∃ gone, s.keys[s.capacity - 1]? = some gone ∧
      s.insert key v = ({ s with entries := (key, v) :: s.entries.dropLast }, some gone) := by
  have hne : s.entries ≠ [] := by
    intro hnil
    rw [size, hnil, List.length_nil] at hfull
    exact hc hfull.symm
  refine ⟨(s.entries.getLast hne).1, ?_, ?_⟩
  · rw [← hfull, ← length_keys, ← List.getLast?_eq_getElem?, keys, List.getLast?_map,
      List.getLast?_eq_some_getLast hne]
    rfl
  · unfold insert
    dsimp only
    rw [← others, others_of_not_mem h, if_pos ⟨hc, Nat.le_of_eq hfull.symm⟩,
      List.getLast?_eq_some_getLast hne]
    rfl

/-- A new text finds a store that has room for it. -/
theorem insert_of_room (h : key ∉ s.keys) (hroom : s.capacity ≠ 0 → s.size < s.capacity) (v : β) :
    s.insert key v = ({ s with entries := (key, v) :: s.entries }, none) := by
  have hnot : ¬ (s.capacity ≠ 0 ∧ s.capacity ≤ s.entries.length) :=
    fun hfull => Nat.not_lt.mpr hfull.2 (hroom hfull.1)
  unfold insert
  dsimp only
  rw [← others, others_of_not_mem h, if_neg hnot]

theorem keys_insert (hb : s.Bounded) (key : String) (v : β) :
    (s.insert key v).1.keys = fitting s.capacity (key :: s.keys.filter (· ≠ key)) := by
  have hle : (s.others key).length ≤ s.size := List.length_filter_le _ _
  unfold insert
  dsimp only
  rw [← keys_others, ← others]
  split
  · -- the store is full, so of the others all but the last are as many as still fit
    rename_i hfull
    have hlength : (s.others key).length = s.capacity :=
      Nat.le_antisymm (Nat.le_trans hle (hb hfull.1)) hfull.2
    obtain ⟨m, hm⟩ := Nat.exists_eq_succ_of_ne_zero hfull.1
    unfold fitting
    rw [if_neg hfull.1, hm, List.take_succ_cons, ← List.map_take]
    unfold keys
    rw [List.map_cons, List.dropLast_eq_take, hlength, hm]
    rfl
  · rename_i hroom
    refine (fitting_of_le fun hc => ?_).symm
    rw [length_keys]
    exact Nat.lt_of_not_le fun hle => hroom ⟨hc, hle⟩

theorem bounded_of_keys (h : s.keys = lastUsed s.capacity uses) : s.Bounded := by
  intro hc
  rw [← length_keys, h]
  exact length_fitting_le hc _

theorem distinct_of_keys (h : s.keys = lastUsed s.capacity uses) : s.Distinct := by
  unfold Distinct
  rw [h, lastUsed, fitting]
  split
  · exact nodup_eraseDups uses
  · exact (nodup_eraseDups uses).sublist (List.take_sublist _ _)

/-- A text that is found is one more use. -/
theorem keys_touch_lastUsed (h : s.keys = lastUsed s.capacity uses) (hkey : key ∈ s.keys) :
    (s.touch key).keys = lastUsed s.capacity (key :: uses) := by
  rw [lastUsed_cons, ← h, keys_touch hkey, fitting_of_le]
  intro hc
  -- the text was there before, so the store has not become larger
  have hlt : (s.keys.filter (· ≠ key)).length < s.keys.length :=
    List.length_filter_lt_length_iff_exists.mpr ⟨key, hkey, by simp⟩
  have hle := bounded_of_keys h hc
  rw [← length_keys] at hle
  rw [List.length_cons]
  omega

/-- A text that is put into a store is one more use. -/
theorem keys_insert_lastUsed (h : s.keys = lastUsed s.capacity uses) (key : String) (v : β) :
    (s.insert key v).1.keys = lastUsed s.capacity (key :: uses) := by
  rw [lastUsed_cons, ← h, keys_insert (bounded_of_keys h)]

end Recent

end EventTemplate
