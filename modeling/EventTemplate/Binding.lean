/-
  Lists of bindings. A key is bound at most once, and the keys stand in the order in which they
  were bound first.
-/

namespace EventTemplate

variable {α β : Type} [BEq α]

/-- Binds a key: a new key comes last, a known one keeps its place and loses its old value. -/
def rebind (k : α) (v : β) : List (α × β) → List (α × β)
  | [] => [(k, v)]
  | (k', v') :: rest => if k' == k then (k', v) :: rest else (k', v') :: rebind k v rest

/-- Binds a key that is not bound yet; a known one keeps its value. -/
def bindNew (k : α) (v : β) (entries : List (α × β)) : List (α × β) :=
  if (entries.lookup k).isSome then entries else entries ++ [(k, v)]

/-- The bindings that pairs make when each later one of a key replaces the earlier. -/
def bindings (pairs : List (α × β)) : List (α × β) :=
  pairs.foldl (fun entries (k, v) => rebind k v entries) []

section Keys

variable {α : Type} [DecidableEq α] {k : α} {entries : List (α × β)}

theorem lookup_cons_ite (k k' : α) (v : β) (entries : List (α × β)) :
    ((k', v) :: entries).lookup k = if k = k' then some v else entries.lookup k := by
  by_cases h : k = k'
  · rw [if_pos h, List.lookup_cons, beq_iff_eq.mpr h]
  · rw [if_neg h, List.lookup_cons, beq_false_of_ne h]

theorem isSome_lookup_iff : (entries.lookup k).isSome = true ↔ k ∈ entries.map (·.1) := by
  simp only [List.lookup_isSome_iff, List.mem_map, beq_iff_eq, @eq_comm _ k]

theorem rebind_of_not_mem (h : k ∉ entries.map (·.1)) (v : β) :
    rebind k v entries = entries ++ [(k, v)] := by
  induction entries with
  | nil => rfl
  | cons e rest ih =>
    rw [List.map_cons, List.mem_cons, not_or] at h
    have hk : ¬ (e.1 == k) = true := fun heq => h.1 (beq_iff_eq.mp heq).symm
    unfold rebind
    rw [if_neg hk, ih h.2]
    rfl

theorem bindNew_of_not_mem (h : k ∉ entries.map (·.1)) (v : β) :
    bindNew k v entries = entries ++ [(k, v)] := by
  unfold bindNew
  rw [if_neg fun hk => h (isSome_lookup_iff.mp hk)]

/-- A key that is bound keeps its value, and the new one is found if it was not there. -/
theorem lookup_bindNew (k d : α) (v : β) (entries : List (α × β)) :
    (bindNew k v entries).lookup d =
      (entries.lookup d).or (if d = k then some v else none) := by
  unfold bindNew
  split
  · rename_i hk
    by_cases hd : d = k
    · rw [hd, Option.or_of_isSome hk]
    · rw [if_neg hd, Option.or_none]
  · rw [List.lookup_append, lookup_cons_ite]
    rfl

theorem nodup_bindNew (h : (entries.map (·.1)).Nodup) (k : α) (v : β) :
    ((bindNew k v entries).map (·.1)).Nodup := by
  by_cases hk : k ∈ entries.map (·.1)
  · unfold bindNew
    rw [if_pos (isSome_lookup_iff.mpr hk)]
    exact h
  · rw [bindNew_of_not_mem hk, List.map_append, List.nodup_append]
    refine ⟨h, by simp, fun a ha b hb => ?_⟩
    rw [List.mem_singleton.mp hb]
    rintro rfl
    exact hk ha

theorem foldl_rebind {entries pairs : List (α × β)} (h : ((entries ++ pairs).map (·.1)).Nodup) :
    pairs.foldl (fun entries (k, v) => rebind k v entries) entries = entries ++ pairs := by
  induction pairs generalizing entries with
  | nil => rw [List.append_nil, List.foldl_nil]
  | cons e pairs ih =>
    obtain ⟨k, v⟩ := e
    have hnew : k ∉ entries.map (·.1) := by
      rw [List.map_append, List.map_cons, List.nodup_append] at h
      exact fun hmem => h.2.2 k hmem k List.mem_cons_self rfl
    rw [List.append_cons] at h
    rw [List.foldl_cons]
    dsimp only
    rw [rebind_of_not_mem hnew, ih h, ← List.append_cons]

/-- Pairs whose keys all differ are bindings already. -/
theorem bindings_of_nodup {pairs : List (α × β)} (h : (pairs.map (·.1)).Nodup) :
    bindings pairs = pairs :=
  foldl_rebind h

/-- Looking for a key that was mapped, when only that key was mapped to the same. -/
theorem lookup_map {γ δ : Type} [DecidableEq γ] {f : α → γ} {g : β → δ}
    (h : ∀ k' ∈ entries.map (·.1), f k' = f k → k' = k) :
    (entries.map fun e => (f e.1, g e.2)).lookup (f k) = (entries.lookup k).map g := by
  induction entries with
  | nil => rfl
  | cons e rest ih =>
    obtain ⟨hfirst, hrest⟩ := List.forall_mem_cons.mp h
    rw [List.map_cons, lookup_cons_ite, lookup_cons_ite, ih hrest]
    by_cases hk : k = e.1
    · rw [if_pos (congrArg f hk), if_pos hk, Option.map_some]
    · rw [if_neg fun heq => hk (hfirst heq.symm).symm, if_neg hk]

theorem lookup_eq_some_iff_mem {v : β} (h : (entries.map (·.1)).Nodup) :
    entries.lookup k = some v ↔ (k, v) ∈ entries := by
  induction entries with
  | nil => simp
  | cons e rest ih =>
    obtain ⟨k', v'⟩ := e
    obtain ⟨hnew, hrest⟩ := List.nodup_cons.mp h
    rw [lookup_cons_ite, List.mem_cons, Prod.mk.injEq]
    by_cases hk : k = k'
    · subst hk
      have habsent : (k, v) ∉ rest := fun hmem => hnew (List.mem_map.mpr ⟨(k, v), hmem, rfl⟩)
      rw [if_pos rfl, Option.some.injEq, @eq_comm _ v' v]
      simp [habsent]
    · rw [if_neg hk, ih hrest]
      simp [hk]

/-- Entries with different keys are found in whatever order they stand. -/
theorem lookup_of_perm {entries' : List (α × β)} (h : (entries.map (·.1)).Nodup)
    (hp : entries.Perm entries') (k : α) : entries.lookup k = entries'.lookup k := by
  have h' : (entries'.map (·.1)).Nodup := (hp.map _).nodup_iff.mp h
  apply Option.ext
  intro v
  rw [lookup_eq_some_iff_mem h, lookup_eq_some_iff_mem h', hp.mem_iff]

end Keys

end EventTemplate
