import EventTemplate.Proofs.Event.Bind
import EventTemplate.Proofs.Template.Grammar

/-
  Which argument is bound to which key. An index is bound to the argument that it points at, and a
  name to the argument at its place among the properties. What has its position behind the last
  argument is not bound.

  Proved, for accepted raw templates: the keys are bound in the order of their first places, each to
  the argument at its position, with the tag of its first property (`bound_bind`). So more arguments
  take nothing away and change nothing: they let further keys come in between (`bound_sublist`),
  until all are bound (`bind_exact`).
-/

namespace EventTemplate

/-- An element that one function selects, the other selects too, and with the same result. -/
theorem filterMap_sublist {α β : Type} {f g : α → Option β} {l : List α}
    (h : ∀ a ∈ l, ∀ b, f a = some b → g a = some b) :
    (l.filterMap f).Sublist (l.filterMap g) := by
  induction l with
  | nil => exact List.Sublist.refl _
  | cons a l ih =>
    obtain ⟨ha, hl⟩ := List.forall_mem_cons.mp h
    cases hf : f a with
    | none =>
      rw [List.filterMap_cons_none hf]
      refine (ih hl).trans ?_
      cases hg : g a with
      | none => rw [List.filterMap_cons_none hg]
      | some b =>
        rw [List.filterMap_cons_some hg]
        exact List.sublist_cons_self b _
    | some b =>
      rw [List.filterMap_cons_some hf, List.filterMap_cons_some (ha b hf)]
      exact (ih hl).cons_cons b

/-! ## Positions -/

namespace Template

/-- The position of the argument for a key: the index that the key is or, if it is a name, its place
among the properties. -/
def position (t : Template) : Designator → Nat
  | .index n => n
  | .name s => (t.properties.map (·.designator)).idxOf (.name s)

/-- What a key is bound to: the argument at its position, if there are so many, with the tag of the
first property that has the key. -/
def entry? (t : Template) (args : List Value) (d : Designator) : Option (Designator × Captured) :=
  if h : t.position d < args.length then
    (t.properties.find? (·.designator = d)).map fun p => (d, ⟨args[t.position d], p.operator⟩)
  else none

variable {t : Template} {args : List Value} {p : Property} {d : Designator} {j : Nat}

theorem argument?_eq_getElem? (t : Template) (args : List Value) (d : Designator) :
    t.argument? args d = args[t.position d]? := by
  cases d <;> rfl

theorem entry?_eq_binding? (t : Template) (args : List Value) (d : Designator) :
    t.entry? args d = binding? (t.argument? args) t.properties d := by
  unfold entry? binding?
  rw [argument?_eq_getElem?]
  split
  · rename_i hlt
    rw [List.getElem?_eq_getElem hlt]
    rfl
  · rename_i hle
    rw [List.getElem?_eq_none (Nat.le_of_not_lt hle)]
    rfl

/-- With more arguments, a key that is bound is bound to the same. -/
theorem entry?_append {entry : Designator × Captured} (h : t.entry? args d = some entry)
    (extra : List Value) : t.entry? (args ++ extra) d = some entry := by
  unfold entry? at h ⊢
  split at h
  · rename_i hlt
    have hlonger : t.position d < (args ++ extra).length := by
      rw [List.length_append]
      omega
    rw [dif_pos hlonger, List.getElem_append_left hlt]
    exact h
  · cases h

/-- A key whose position there was an argument for is not bound to another. -/
theorem entry?_append_of_lt (h : t.position d < args.length) (extra : List Value) :
    t.entry? (args ++ extra) d = t.entry? args d := by
  rw [entry?_eq_binding?, entry?_eq_binding?]
  unfold binding?
  rw [argument?_eq_getElem?, argument?_eq_getElem?, List.getElem?_append_left h]

/-- Where keys are indices, they are the positions themselves. -/
theorem position_of_isIndexed (h : t.isIndexed = true) :
    ∀ d ∈ t.designators, d = .index (t.position d) := by
  intro d hmem
  obtain ⟨p, hp, rfl⟩ := List.mem_map.mp (List.mem_eraseDups.mp hmem)
  have hindex : p.designator.isIndex = true := List.all_eq_true.mp h p hp
  cases hd : p.designator with
  | name s =>
    rw [hd] at hindex
    cases hindex
  | index n => rfl

/-- Where keys are names, their positions are the places of their properties. -/
theorem position_of_not_isIndexed (hc : Compatible (t.properties.map (·.designator)))
    (h : t.isIndexed = false) (hp : t.properties[j]? = some p) : t.position p.designator = j := by
  obtain ⟨hnames, hnodup⟩ := names_of_not_isIndexed hc h
  have hj : (t.properties.map (·.designator))[j]? = some p.designator := by
    rw [List.getElem?_map, hp]
    rfl
  obtain ⟨hlt, hget⟩ := List.getElem?_eq_some_iff.mp hj
  have hname := hnames p.designator (List.mem_of_getElem? hj)
  cases hd : p.designator with
  | index n =>
    rw [hd] at hname
    cases hname
  | name s =>
    rw [hd] at hget
    unfold position
    dsimp only
    rw [← hget, hnodup.idxOf_getElem j hlt]

end Template

/-! ## Binding -/

variable {raw : String} {t : Template}

theorem bound_bind (hc : Compatible (t.properties.map (·.designator))) (args : List Value) :
    (Event.bind t args).bound = t.designators.filterMap (t.entry? args) := by
  rw [bind_eq_collect hc]
  dsimp only
  rw [collect_eq_filterMap]
  exact List.filterMap_congr fun d _ => (t.entry?_eq_binding? args d).symm

/-- More arguments leave all bindings as they are and in their order. -/
theorem bound_sublist (hc : Compatible (t.properties.map (·.designator)))
    (args extra : List Value) :
    (Event.bind t args).bound.Sublist (Event.bind t (args ++ extra)).bound := by
  rw [bound_bind hc, bound_bind hc]
  exact filterMap_sublist fun _ _ _ h => Template.entry?_append h extra

/-- Where every key is bound, more arguments make no difference. -/
theorem bind_append (hc : Compatible (t.properties.map (·.designator))) {args : List Value}
    (h : ∀ d ∈ t.designators, t.position d < args.length) (extra : List Value) :
    Event.bind t (args ++ extra) = Event.bind t args := by
  have hbound : (Event.bind t (args ++ extra)).bound = (Event.bind t args).bound := by
    rw [bound_bind hc, bound_bind hc]
    exact List.filterMap_congr fun d hd => Template.entry?_append_of_lt (h d hd) extra
  have htemplate := (template_bind t (args ++ extra)).trans (template_bind t args).symm
  calc Event.bind t (args ++ extra)
      = ⟨(Event.bind t (args ++ extra)).template, (Event.bind t (args ++ extra)).bound⟩ := rfl
    _ = ⟨(Event.bind t args).template, (Event.bind t args).bound⟩ := by rw [htemplate, hbound]

/-- What an accepted raw template binds. Its keys are taken in the order of their first places, and
each is bound to the argument at its position, if there are so many, with the tag of its first
property. The position of an index is the index, and that of a name is the place of its property
among all. With more arguments the bindings stay as they are and in their order, and there are no
others once every position has its argument. -/
theorem bind_exact (h : Template.parse raw = .ok t) (args : List Value) :
    Event.bind t args = ⟨t, t.designators.filterMap (t.entry? args)⟩ ∧
    (t.isIndexed = true → ∀ d ∈ t.designators, d = .index (t.position d)) ∧
    (t.isIndexed = false → ∀ (j : Nat) (p : Property), t.properties[j]? = some p →
      t.position p.designator = j) ∧
    ∀ extra : List Value,
      (Event.bind t args).bound.Sublist (Event.bind t (args ++ extra)).bound ∧
      ((∀ d ∈ t.designators, t.position d < args.length) →
        Event.bind t (args ++ extra) = Event.bind t args) := by
  obtain ⟨_, hc, _⟩ := of_parse h
  refine ⟨?_, Template.position_of_isIndexed, fun hnamed j p hp => ?_, fun extra => ⟨?_, ?_⟩⟩
  · have hevent : Event.bind t args =
        ⟨(Event.bind t args).template, (Event.bind t args).bound⟩ := rfl
    rw [hevent, template_bind, bound_bind hc]
  · exact Template.position_of_not_isIndexed hc hnamed hp
  · exact bound_sublist hc args extra
  · exact fun hall => bind_append hc hall extra

/-- An index that comes twice, with a tag at its second place only, and an index that waits for more
arguments; a name without an argument. -/
theorem bind_exact_repeated :
    let indexed : Template := ⟨"{2}{5}{@2}{$0}",
      [.property ⟨.index 2, .plain, none, none, some "{2}"⟩,
        .property ⟨.index 5, .plain, none, none, some "{5}"⟩,
        .property ⟨.index 2, .structured, none, none, some "{@2}"⟩,
        .property ⟨.index 0, .stringified, none, none, some "{$0}"⟩]⟩
    let named : Template := ⟨"{b}{@a}",
      [.property ⟨.name "b", .plain, none, none, some "{b}"⟩,
        .property ⟨.name "a", .structured, none, none, some "{@a}"⟩]⟩
    let args : List Value := [.int 0, .int 1, .int 2]
    Template.parse indexed.raw = .ok indexed ∧ Template.parse named.raw = .ok named ∧
    Event.bind indexed args =
      ⟨indexed, [(.index 2, ⟨.int 2, .plain⟩), (.index 0, ⟨.int 0, .stringified⟩)]⟩ ∧
    (Event.bind indexed args).bound.Sublist
      (Event.bind indexed (args ++ [.null, .null, .int 5])).bound ∧
    Event.bind named [.int 7] = ⟨named, [(.name "b", ⟨.int 7, .plain⟩)]⟩ ∧
    Event.bind named (args ++ [.null]) = Event.bind named args := by
  intro indexed named args
  have hindexed : Template.parse indexed.raw = .ok indexed := by decide +kernel
  have hnamed : Template.parse named.raw = .ok named := by decide +kernel
  have hall : ∀ d ∈ named.designators, named.position d < args.length := by decide
  exact ⟨hindexed, hnamed, (bind_exact hindexed args).1,
    ((bind_exact hindexed args).2.2.2 [.null, .null, .int 5]).1, (bind_exact hnamed [.int 7]).1,
    ((bind_exact hnamed args).2.2.2 [.null]).2 hall⟩

end EventTemplate
