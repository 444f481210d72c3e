import Mathlib.Data.List.Induction
import EventTemplate.Event.Serialized
import EventTemplate.Proofs.Property.Compatible

/-
  What is bound to the properties of a template. Binding goes through the properties by one loop for
  indices and by another for names, and reviving goes through them by a third. All three collect: a
  designator is bound at its first place, with the tag of its first property, if there is a value
  for it (`collect`). They differ only in where the value comes from.

  Proved: collecting goes through the distinct designators in the order of their first places and
  leaves out those without a value (`collect_eq_filterMap`). For designators that go together,
  binding collects arguments (`bind_eq_collect`), and the value of a property is the argument at its
  index or, if it has a name, at its place among the properties (`value_bind`).
-/

namespace EventTemplate

/-! ## Collecting -/

/-- Binds each designator that is new to the value that `f` has for it, if there is one. -/
def collect (f : Designator → Option Value) (bound : List (Designator × Captured))
    (ps : List Property) : List (Designator × Captured) :=
  ps.foldl (fun bound p => match f p.designator with
    | some v => bindNew p.designator ⟨v, p.operator⟩ bound
    | none => bound) bound

section Collect

variable {f g : Designator → Option Value} {bound : List (Designator × Captured)} {p : Property}
  {ps : List Property} {d : Designator}

theorem collect_cons_some {v : Value} (h : f p.designator = some v)
    (bound : List (Designator × Captured)) (ps : List Property) :
    collect f bound (p :: ps) = collect f (bindNew p.designator ⟨v, p.operator⟩ bound) ps := by
  unfold collect
  rw [List.foldl_cons, h]

theorem collect_cons_none (h : f p.designator = none) (bound : List (Designator × Captured))
    (ps : List Property) : collect f bound (p :: ps) = collect f bound ps := by
  unfold collect
  rw [List.foldl_cons, h]

theorem collect_congr (h : ∀ p ∈ ps, f p.designator = g p.designator)
    (bound : List (Designator × Captured)) : collect f bound ps = collect g bound ps := by
  induction ps generalizing bound with
  | nil => rfl
  | cons p ps ih =>
    obtain ⟨hp, hps⟩ := List.forall_mem_cons.mp h
    cases hf : f p.designator with
    | none =>
      rw [collect_cons_none hf, collect_cons_none (hp.symm.trans hf)]
      exact ih hps bound
    | some v =>
      rw [collect_cons_some hf, collect_cons_some (hp.symm.trans hf)]
      exact ih hps _

/-- What is bound stays bound. A designator that is not bound is bound to the value that there is
for it, with the tag of the first property that has it. -/
theorem lookup_collect (f : Designator → Option Value) (bound : List (Designator × Captured))
    (ps : List Property) (d : Designator) :
    (collect f bound ps).lookup d = (bound.lookup d).or
      ((ps.find? (·.designator = d)).bind fun p => (f d).map (⟨·, p.operator⟩)) := by
  induction ps generalizing bound with
  | nil => exact Option.or_none.symm
  | cons p ps ih =>
    cases hf : f p.designator with
    | none =>
      rw [collect_cons_none hf, ih]
      by_cases hd : p.designator = d
      · rw [← hd, hf]
        simp
      · rw [List.find?_cons_of_neg (by simpa using hd)]
    | some v =>
      rw [collect_cons_some hf, ih, lookup_bindNew, Option.or_assoc]
      by_cases hd : p.designator = d
      · rw [← hd, hf, if_pos rfl, List.find?_cons_of_pos (by simp)]
        rfl
      · rw [if_neg (Ne.symm hd), List.find?_cons_of_neg (by simpa using hd)]
        rfl

theorem nodup_collect (h : (bound.map (·.1)).Nodup) :
    ((collect f bound ps).map (·.1)).Nodup := by
  induction ps generalizing bound with
  | nil => exact h
  | cons p ps ih =>
    cases hf : f p.designator with
    | none =>
      rw [collect_cons_none hf]
      exact ih h
    | some v =>
      rw [collect_cons_some hf]
      exact ih (nodup_bindNew h _ _)

/-- A property has the value that there is for its designator. -/
theorem value_collect (hp : p ∈ ps) :
    ((collect f [] ps).lookup p.designator).map (·.value) = f p.designator := by
  rw [lookup_collect, List.lookup_nil, Option.none_or]
  cases hfind : ps.find? (·.designator = p.designator) with
  | none => exact absurd (decide_eq_true rfl) (List.find?_eq_none.mp hfind p hp)
  | some q =>
    rw [Option.bind_some, Option.map_map]
    exact Option.map_id'

/-- Only designators of properties are bound. -/
theorem mem_of_mem_collect (h : d ∈ (collect f [] ps).map (·.1)) :
    d ∈ ps.map (·.designator) := by
  have hsome := isSome_lookup_iff.mpr h
  rw [lookup_collect, List.lookup_nil, Option.none_or] at hsome
  cases hfind : ps.find? (·.designator = d) with
  | none =>
    rw [hfind] at hsome
    cases hsome
  | some q =>
    have hq : q.designator = d := by simpa using List.find?_some hfind
    rw [← hq]
    exact List.mem_map_of_mem (List.mem_of_find?_eq_some hfind)

/-- The binding of a designator: the value that there is for it, with the tag of the first property
that has it. -/
def binding? (f : Designator → Option Value) (ps : List Property) (d : Designator) :
    Option (Designator × Captured) :=
  (f d).bind fun v => (ps.find? (·.designator = d)).map fun p => (d, ⟨v, p.operator⟩)

theorem binding?_of_none (h : f d = none) (ps : List Property) : binding? f ps d = none := by
  rw [binding?, h, Option.bind_none]

/-- A property behind others is the first of its designator only if that is new. -/
theorem binding?_snoc (f : Designator → Option Value) (hd : d ∈ ps.map (·.designator))
    (p : Property) : binding? f (ps ++ [p]) d = binding? f ps d := by
  obtain ⟨q, hq, rfl⟩ := List.mem_map.mp hd
  have hsome : (ps.find? (·.designator = q.designator)).isSome = true :=
    List.find?_isSome.mpr ⟨q, hq, decide_eq_true rfl⟩
  unfold binding?
  rw [List.find?_append, Option.or_of_isSome hsome]

theorem binding?_snoc_self {v : Value} (hf : f p.designator = some v)
    (hd : p.designator ∉ ps.map (·.designator)) :
    binding? f (ps ++ [p]) p.designator = some (p.designator, ⟨v, p.operator⟩) := by
  have hnone : ps.find? (·.designator = p.designator) = none :=
    List.find?_eq_none.mpr fun q hq heq => hd (List.mem_map.mpr ⟨q, hq, by simpa using heq⟩)
  unfold binding?
  rw [hf, List.find?_append, hnone, Option.none_or, List.find?_cons_of_pos (by simp)]
  rfl

theorem collect_snoc (f : Designator → Option Value) (ps : List Property) (p : Property) :
    collect f [] (ps ++ [p]) = collect f (collect f [] ps) [p] :=
  List.foldl_append

/-- A designator that was there before is not bound again. -/
theorem collect_snoc_of_mem (hd : p.designator ∈ ps.map (·.designator)) :
    collect f [] (ps ++ [p]) = collect f [] ps := by
  rw [collect_snoc]
  cases hf : f p.designator with
  | none => exact collect_cons_none hf _ []
  | some v =>
    have hbound : ((collect f [] ps).lookup p.designator).isSome = true := by
      obtain ⟨q, hq, heq⟩ := List.mem_map.mp hd
      have hvalue := value_collect (f := f) hq
      rw [heq, hf] at hvalue
      obtain ⟨c, hc, _⟩ := Option.map_eq_some_iff.mp hvalue
      rw [hc]
      rfl
    rw [collect_cons_some hf, bindNew, if_pos hbound]
    rfl

/-- A new designator is bound behind the others, if there is a value for it. -/
theorem collect_snoc_of_not_mem (hd : p.designator ∉ ps.map (·.designator)) :
    collect f [] (ps ++ [p]) =
      collect f [] ps ++ [p.designator].filterMap (binding? f (ps ++ [p])) := by
  have hfresh : p.designator ∉ (collect f [] ps).map (·.1) :=
    fun hmem => hd (mem_of_mem_collect hmem)
  rw [collect_snoc]
  cases hf : f p.designator with
  | none =>
    rw [collect_cons_none hf, List.filterMap_cons_none (binding?_of_none hf _)]
    exact (List.append_nil _).symm
  | some v =>
    rw [collect_cons_some hf, bindNew_of_not_mem hfresh,
      List.filterMap_cons_some (binding?_snoc_self hf hd)]
    rfl

theorem eraseDups_snoc_of_mem {α : Type} [DecidableEq α] {a : α} {l : List α} (h : a ∈ l) :
    (l ++ [a]).eraseDups = l.eraseDups := by
  have hknown : [a].removeAll l = [] := by simpa [List.removeAll] using h
  rw [List.eraseDups_append, hknown, List.eraseDups_nil, List.append_nil]

theorem eraseDups_snoc_of_not_mem {α : Type} [DecidableEq α] {a : α} {l : List α} (h : a ∉ l) :
    (l ++ [a]).eraseDups = l.eraseDups ++ [a] := by
  have hnew : [a].removeAll l = [a] := by simpa [List.removeAll] using h
  rw [List.eraseDups_append, hnew, List.eraseDups_cons, List.filter_nil, List.eraseDups_nil]

/-- Collecting binds the designators in the order of their first places. -/
theorem collect_eq_filterMap (f : Designator → Option Value) (ps : List Property) :
    collect f [] ps = (ps.map (·.designator)).eraseDups.filterMap (binding? f ps) := by
  induction ps using List.reverseRecOn with
  | nil => rfl
  | append_singleton ps p ih =>
    -- the property changes nothing about the designators before it
    have hbefore : (ps.map (·.designator)).eraseDups.filterMap (binding? f (ps ++ [p])) =
        collect f [] ps := by
      rw [ih]
      apply List.filterMap_congr
      intro d hd
      exact binding?_snoc f (List.mem_eraseDups.mp hd) p
    rw [List.map_append, List.map_singleton]
    by_cases hd : p.designator ∈ ps.map (·.designator)
    · rw [eraseDups_snoc_of_mem hd, hbefore, collect_snoc_of_mem hd]
    · rw [eraseDups_snoc_of_not_mem hd, List.filterMap_append, hbefore, collect_snoc_of_not_mem hd]

end Collect

/-! ## Binding -/

/-- The place of the argument for a property: its index, or its place among the properties. -/
def Property.place (p : Property) (j : Nat) : Nat :=
  match p.designator with
  | .index n => n
  | .name _ => j

/-- The argument that a designator of a template stands for. -/
def Template.argument? (t : Template) (args : List Value) : Designator → Option Value
  | .index n => args[n]?
  | .name s => args[(t.properties.map (·.designator)).idxOf (.name s)]?

variable {t : Template} {args : List Value} {p : Property} {ps : List Property} {j : Nat}

/-- A name stands for the argument at its place. -/
theorem Property.place_of_name (h : p.designator.isIndex = false) (j : Nat) : p.place j = j := by
  unfold Property.place
  cases hd : p.designator with
  | name s => rfl
  | index n => rw [hd] at h; cases h

/-- The designators of a template that goes by names are names, and all differ. -/
theorem names_of_not_isIndexed (hc : Compatible (t.properties.map (·.designator)))
    (hnamed : t.isIndexed = false) :
    (∀ d ∈ t.properties.map (·.designator), d.isIndex = false) ∧
      (t.properties.map (·.designator)).Nodup := by
  rcases hc with hall | hnames
  · rw [List.forall_mem_map] at hall
    have hindexed : t.isIndexed = true := List.all_eq_true.mpr hall
    rw [hindexed] at hnamed
    cases hnamed
  · exact hnames

theorem argument?_eq (hc : Compatible (t.properties.map (·.designator)))
    (hp : t.properties[j]? = some p) : t.argument? args p.designator = args[p.place j]? := by
  unfold Template.argument? Property.place
  cases hd : p.designator with
  | index n => rfl
  | name s =>
    have hj : (t.properties.map (·.designator))[j]? = some (.name s) := by
      rw [List.getElem?_map, hp, ← hd]
      rfl
    obtain ⟨hlt, hget⟩ := List.getElem?_eq_some_iff.mp hj
    rcases hc with hall | ⟨_, hnodup⟩
    · have hindex := hall _ (List.mem_of_getElem? hj)
      cases hindex
    · dsimp only
      rw [← hget, hnodup.idxOf_getElem j hlt]

theorem bindIndexed_eq_collect (t : Template) (hall : ∀ p ∈ ps, p.designator.isIndex = true)
    (bound : List (Designator × Captured)) :
    ps.foldl (Event.bindIndexed args) bound = collect (t.argument? args) bound ps := by
  induction ps generalizing bound with
  | nil => rfl
  | cons p ps ih =>
    obtain ⟨hp, hps⟩ := List.forall_mem_cons.mp hall
    have hstep : Event.bindIndexed args bound p =
        match t.argument? args p.designator with
        | some v => bindNew p.designator ⟨v, p.operator⟩ bound
        | none => bound := by
      unfold Event.bindIndexed
      cases hd : p.designator with
      | name s => rw [hd] at hp; cases hp
      | index n => rfl
    rw [List.foldl_cons, hstep]
    exact ih hps _

/-- Names that all differ are bound one after the other, as long as there are arguments. -/
theorem foldl_zip_eq_collect {f : Designator → Option Value}
    (bound : List (Designator × Captured)) (args : List Value)
    (hnew : (bound.map (·.1) ++ ps.map (·.designator)).Nodup)
    (hf : ∀ (j : Nat) (p : Property), ps[j]? = some p → f p.designator = args[j]?) :
    ((ps.zip args).map fun ((p, v) : Property × Value) =>
      (p.designator, (⟨v, p.operator⟩ : Captured))).foldl
        (fun entries (k, v) => rebind k v entries) bound = collect f bound ps := by
  -- names and arguments go together one by one; what was bound so far shares no name with the rest
  induction ps generalizing args bound with
  | nil => rfl
  | cons p ps ih =>
    have hp : f p.designator = args[0]? := hf 0 p rfl
    have hdrop : (bound.map (·.1) ++ ps.map (·.designator)).Nodup :=
      hnew.sublist ((List.Sublist.refl _).append (List.sublist_cons_self _ _))
    cases args with
    | nil =>
      rw [collect_cons_none hp, ← ih bound [] hdrop fun j q hq => hf (j + 1) q hq]
      rw [List.zip_nil_right, List.zip_nil_right]
    | cons v args =>
      have hfresh : p.designator ∉ bound.map (·.1) := by
        intro hmem
        exact (List.nodup_append.mp hnew).2.2 _ hmem _ List.mem_cons_self rfl
      have hnext : (((bound ++ [(p.designator, (⟨v, p.operator⟩ : Captured))]).map (·.1)) ++
          ps.map (·.designator)).Nodup := by
        rw [List.map_append, List.append_assoc]
        exact hnew
      rw [collect_cons_some hp, bindNew_of_not_mem hfresh,
        ← ih _ args hnext fun j q hq => hf (j + 1) q hq, List.zip_cons_cons, List.map_cons,
        List.foldl_cons]
      dsimp only
      rw [rebind_of_not_mem hfresh]

theorem template_bind (t : Template) (args : List Value) : (Event.bind t args).template = t := by
  unfold Event.bind
  split <;> rfl

/-- Binding collects arguments. -/
theorem bind_eq_collect (hc : Compatible (t.properties.map (·.designator))) (args : List Value) :
    Event.bind t args = ⟨t, collect (t.argument? args) [] t.properties⟩ := by
  unfold Event.bind
  split
  · rename_i hindexed
    rw [bindIndexed_eq_collect t (List.all_eq_true.mp hindexed)]
  · rename_i hnamed
    obtain ⟨hall, hnodup⟩ := names_of_not_isIndexed hc (Bool.eq_false_iff.mpr hnamed)
    have hf : ∀ (j : Nat) (p : Property), t.properties[j]? = some p →
        t.argument? args p.designator = args[j]? := by
      intro j p hp
      have hname := hall p.designator (List.mem_map_of_mem (List.mem_of_getElem? hp))
      rw [argument?_eq hc hp, Property.place_of_name hname]
    rw [← foldl_zip_eq_collect [] args hnodup hf]
    rfl

/-- The value of a property is the argument at its place. -/
theorem value_bind (hc : Compatible (t.properties.map (·.designator)))
    (hp : t.properties[j]? = some p) (args : List Value) :
    ((Event.bind t args).get? p.designator).map (·.value) = args[p.place j]? := by
  rw [bind_eq_collect hc, ← argument?_eq hc hp]
  exact value_collect (List.mem_of_getElem? hp)

end EventTemplate
