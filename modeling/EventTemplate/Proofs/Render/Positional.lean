import EventTemplate.Proofs.Event.Bind
import EventTemplate.Proofs.Template.Redesignate
import EventTemplate.Render.Basic

/-
  Names and positions. A template takes its arguments in order if the first one goes to its first
  property, the second one to the second and so on (`InOrder`). Templates with names do so, and so
  do templates whose indices number the properties from the left. What the designators are is then
  of no consequence: they are only the keys under which values are put away and found again.

  Proved: a raw template with names renders as it does with its properties numbered, or renamed, as
  long as it does not show its holes, and the same is captured in the same order
  (`render_numbered`). The induction is over the elements of the two templates, side by side
  (`Redesignated.elements`).
-/

namespace EventTemplate

/-! ## Arguments in order -/

/-- A template that takes its arguments in order, each for a designator of its own. -/
structure InOrder (t : Template) : Prop where
  compatible : Compatible (t.properties.map (·.designator))
  distinct : (t.properties.map (·.designator)).Nodup
  place : ∀ (j : Nat) (p : Property), t.properties[j]? = some p → p.place j = j

section InOrder

variable {t : Template} {args : List Value} {p : Property} {j : Nat}

/-- Names that all differ. -/
theorem InOrder.of_names (hall : ∀ d ∈ t.properties.map (·.designator), d.isIndex = false)
    (hdistinct : (t.properties.map (·.designator)).Nodup) : InOrder t := by
  refine ⟨.inr ⟨hall, hdistinct⟩, hdistinct, fun j p hp => ?_⟩
  exact Property.place_of_name (hall _ (List.mem_map_of_mem (List.mem_of_getElem? hp))) j

/-- Indices that count from the left. -/
theorem InOrder.of_indices
    (h : ∀ (j : Nat) (p : Property), t.properties[j]? = some p → p.designator = .index j) :
    InOrder t := by
  refine ⟨.inl fun d hd => ?_, List.nodup_iff_getElem?_ne_getElem?.mpr fun i j hij hj => ?_,
    fun j p hp => ?_⟩
  · obtain ⟨p, hp, rfl⟩ := List.mem_map.mp hd
    obtain ⟨j, hj⟩ := List.getElem?_of_mem hp
    rw [h j p hj]
    rfl
  · rw [List.length_map] at hj
    have hi : i < t.properties.length := by omega
    rw [List.getElem?_map, List.getElem?_map, List.getElem?_eq_getElem hi,
      List.getElem?_eq_getElem hj, Option.map_some, Option.map_some,
      h i _ (List.getElem?_eq_getElem hi), h j _ (List.getElem?_eq_getElem hj)]
    intro e
    cases e
    exact Nat.lt_irrefl i hij
  · unfold Property.place
    rw [h j p hp]

/-- A property has the argument at its place among the properties. -/
theorem InOrder.value (h : InOrder t) (hp : t.properties[j]? = some p) (args : List Value) :
    ((Event.bind t args).get? p.designator).map (·.value) = args[j]? := by
  rw [value_bind h.compatible hp, h.place j p hp]

/-- Properties and arguments are bound side by side, as far as both go. -/
theorem InOrder.bound (h : InOrder t) (args : List Value) :
    (Event.bind t args).bound = (t.properties.zip args).map fun ((p, v) : Property × Value) =>
      (p.designator, (⟨v, p.operator⟩ : Captured)) := by
  have hargument : ∀ (j : Nat) (p : Property), t.properties[j]? = some p →
      t.argument? args p.designator = args[j]? := by
    intro j p hp
    rw [argument?_eq h.compatible hp, h.place j p hp]
  have hkeys : (((t.properties.zip args).map fun ((p, v) : Property × Value) =>
      (p.designator, (⟨v, p.operator⟩ : Captured))).map (·.1)).Nodup := by
    have hfirst : (((t.properties.zip args).map Prod.fst).map (·.designator)).Nodup := by
      rw [List.zip_eq_zip_take_min, List.map_fst_zip (by simp), List.map_take]
      exact h.distinct.sublist (List.take_sublist _ _)
    rw [List.map_map] at hfirst ⊢
    exact hfirst
  rw [bind_eq_collect h.compatible, ← foldl_zip_eq_collect [] args h.distinct hargument]
  exact bindings_of_nodup hkeys

/-- What is captured, whatever it is kept under. -/
theorem InOrder.captured (h : InOrder t) (args : List Value) :
    (Event.bind t args).bound.map (·.2) =
      ((t.properties.map (·.operator)).zip args).map fun ((operator, v) : Operator × Value) =>
        ⟨v, operator⟩ := by
  rw [h.bound, List.zip_map_left, List.map_map, List.map_map]
  rfl

end InOrder

/-! ## Rendering -/

section Render

variable {f : Nat → Designator → Designator} {r : Renderer} {formatter : Formatter} {e e' : Event}
  {args : List Value}

/-- Properties that differ in their designators and sources alone have the same text if they have
the same value, or if the sentinel stands for any that have none. -/
theorem element_eq_of_value {p p' : Property} (hformat : p'.format = p.format)
    (halignment : p'.alignment = p.alignment)
    (hvalue : (e'.get? p'.designator).map (·.value) = (e.get? p.designator).map (·.value))
    (hr : r.policy = .sentinel ∨ (e.get? p.designator).isSome = true) :
    r.element formatter e (.property p) = r.element formatter e' (.property p') := by
  unfold Renderer.element
  dsimp only
  cases hget : e.get? p.designator with
  | none =>
    rw [hget] at hvalue hr
    rw [Option.map_eq_none_iff.mp hvalue]
    have hsentinel : r.policy = .sentinel := hr.resolve_right Bool.false_ne_true
    simp only [Renderer.unbound, hsentinel]
  | some c =>
    rw [hget] at hvalue
    obtain ⟨c', hget', hsame⟩ := Option.map_eq_some_iff.mp hvalue
    rw [hget']
    dsimp only
    unfold Renderer.bound
    rw [hsame, hformat, halignment]

/-- Elements with other designators are rendered in the same way if both events have the arguments
in order. -/
theorem Redesignated.elements {j : Nat} {es es' : List Element} (h : Redesignated f j es es')
    (hvalue : ∀ (k : Nat) (p : Property), (es.filterMap Element.property?)[k]? = some p →
      (e.get? p.designator).map (·.value) = args[j + k]?)
    (hvalue' : ∀ (k : Nat) (p : Property), (es'.filterMap Element.property?)[k]? = some p →
      (e'.get? p.designator).map (·.value) = args[j + k]?)
    (hr : r.policy = .sentinel ∨ j + (es.filterMap Element.property?).length ≤ args.length) :
    r.elements formatter e es = r.elements formatter e' es' := by
  induction h with
  | nil => rfl
  | text s _ ih =>
    rw [Renderer.elements, Renderer.elements, ih hvalue hvalue' hr]
    rfl
  | @property j es es' p source _ ih =>
    have hshift : ∀ k, j + 1 + k = j + (k + 1) := fun k => by omega
    have hfirst : (e.get? p.designator).map (·.value) = args[j]? := hvalue 0 p rfl
    have hfirst' : (e'.get? (f j p.designator)).map (·.value) = args[j]? := hvalue' 0 _ rfl
    have hlength : ((Element.property p :: es).filterMap Element.property?).length =
        (es.filterMap Element.property?).length + 1 := rfl
    rw [hlength] at hr
    have hbound : r.policy = .sentinel ∨ (e.get? p.designator).isSome = true := by
      refine hr.imp id fun hle => ?_
      have hlt : j < args.length := by omega
      rw [List.getElem?_eq_getElem hlt] at hfirst
      obtain ⟨c, hget, _⟩ := Option.map_eq_some_iff.mp hfirst
      rw [hget]
      rfl
    have helement : r.element formatter e (.property p) = r.element formatter e'
        (.property { p with designator := f j p.designator, source := source }) :=
      element_eq_of_value rfl rfl (hfirst'.trans hfirst.symm) hbound
    have hrest := ih
      (fun k q hq => by rw [hshift]; exact hvalue (k + 1) q hq)
      (fun k q hq => by rw [hshift]; exact hvalue' (k + 1) q hq)
      (hr.imp id fun hle => by omega)
    rw [Renderer.elements, Renderer.elements, helement, hrest]

/-- Two templates that take their arguments in order, and that differ in their designators alone. -/
theorem Redesignated.render {t t' : Template} (h : Redesignated f 0 t.elements t'.elements)
    (ht : InOrder t) (ht' : InOrder t')
    (hr : r.policy = .sentinel ∨ t.properties.length ≤ args.length) :
    r.render formatter (.bind t' args) = r.render formatter (.bind t args) := by
  have helements : r.elements formatter (.bind t args) t.elements =
      r.elements formatter (.bind t' args) t'.elements := by
    have hvalue : ∀ (k : Nat) (p : Property), t.properties[k]? = some p →
        ((Event.bind t args).get? p.designator).map (·.value) = args[0 + k]? := by
      intro k p hp
      rw [Nat.zero_add]
      exact ht.value hp args
    have hvalue' : ∀ (k : Nat) (p : Property), t'.properties[k]? = some p →
        ((Event.bind t' args).get? p.designator).map (·.value) = args[0 + k]? := by
      intro k p hp
      rw [Nat.zero_add]
      exact ht'.value hp args
    exact h.elements hvalue hvalue' (by rwa [Nat.zero_add])
  unfold Renderer.render
  rw [template_bind, template_bind, helements]

theorem Redesignated.captured {t t' : Template} (h : Redesignated f 0 t.elements t'.elements)
    (ht : InOrder t) (ht' : InOrder t') (args : List Value) :
    (Event.bind t' args).bound.map (·.2) = (Event.bind t args).bound.map (·.2) := by
  have hoperators : t'.properties.map (·.operator) = t.properties.map (·.operator) := h.operators
  rw [ht.captured, ht'.captured, hoperators]

end Render

/-! ## Numbers and names -/

section Named

variable {t t' : Template} {raw : String}

/-- The indices of a numbered template count from the left. -/
theorem Redesignated.index (h : Redesignated (fun j _ => .index j) 0 t.elements t'.elements)
    {j : Nat} {p : Property} (hp : t'.properties[j]? = some p) : p.designator = .index j := by
  have hdesignator : (t'.properties.map (·.designator))[j]? = some p.designator := by
    rw [List.getElem?_map, hp]
    rfl
  unfold Template.properties at hdesignator
  rw [h.designators, List.getElem?_mapIdx] at hdesignator
  obtain ⟨_, _, hd⟩ := Option.map_eq_some_iff.mp hdesignator
  rw [← hd, Nat.zero_add]

theorem mapIdx_const {α β : Type} (g : α → β) (xs : List α) :
    xs.mapIdx (fun _ => g) = xs.map g := by
  refine List.ext_getElem? fun j => ?_
  rw [List.getElem?_mapIdx, List.getElem?_map]

/-- The designators of a renamed template are renamed one by one. -/
theorem Redesignated.rename {g : String → String}
    (h : Redesignated (fun _ d => d.rename g) 0 t.elements t'.elements) :
    t'.properties.map (·.designator) =
      (t.properties.map (·.designator)).map (Designator.rename g) :=
  h.designators.trans (mapIdx_const _ _)

theorem isIndex_rename (g : String → String) (d : Designator) :
    (d.rename g).isIndex = d.isIndex := by
  cases d <;> rfl

/-- Names that are renamed and stay apart. -/
theorem nodup_rename {ds : List Designator} {g : String → String}
    (hall : ∀ d ∈ ds, d.isIndex = false) (hnodup : ds.Nodup)
    (hg : ∀ s ∈ names ds, ∀ s' ∈ names ds, g s = g s' → s = s') :
    (ds.map (Designator.rename g)).Nodup := by
  rw [← map_name_names hall, List.map_map]
  refine List.Nodup.map_on (fun s hs s' hs' h => ?_) ((nodup_names hall).mpr hnodup)
  exact hg s hs s' hs' (Designator.name.inj h)

/-- Numbered, a raw template is accepted and takes its arguments in order. -/
theorem parse_numbered (h : Template.parse raw = .ok t) (hlength : raw.length ≤ greatestSize) :
    ∃ t', Template.parse (numbered raw) = .ok t' ∧
      Redesignated (fun j _ => .index j) 0 t.elements t'.elements ∧ InOrder t' := by
  have hfits : ∀ j p, t.properties[j]? = some p → (Designator.index j).Fits :=
    fun j p hp => ⟨trivial, short_place h hlength hp⟩
  have hindices : Compatible ((t.properties.map (·.designator)).mapIdx fun j _ => .index j) := by
    refine .inl fun d hd => ?_
    obtain ⟨_, _, rfl⟩ := List.mem_mapIdx.mp hd
    rfl
  obtain ⟨t', hparse, hes⟩ := parse_redesignate h hfits hindices
  exact ⟨t', hparse, hes, .of_indices fun j p hp => hes.index hp⟩

/-- Renamed, a raw template that goes by names is accepted and takes its arguments in order, if the
new names can be written and stay apart. -/
theorem parse_renamed (h : Template.parse raw = .ok t)
    (hall : ∀ d ∈ t.properties.map (·.designator), d.isIndex = false)
    (hnodup : (t.properties.map (·.designator)).Nodup) {g : String → String}
    (hw : ∀ s ∈ names (t.properties.map (·.designator)), (Designator.name (g s)).Writable)
    (hg : ∀ s ∈ names (t.properties.map (·.designator)),
      ∀ s' ∈ names (t.properties.map (·.designator)), g s = g s' → s = s') :
    ∃ t', Template.parse (renamed g raw) = .ok t' ∧
      Redesignated (fun _ d => d.rename g) 0 t.elements t'.elements ∧ InOrder t' := by
  have hnodup' := nodup_rename hall hnodup hg
  have hall' : ∀ d ∈ (t.properties.map (·.designator)).map (Designator.rename g),
      d.isIndex = false := by
    refine List.forall_mem_map.mpr fun d hd => ?_
    rw [isIndex_rename]
    exact hall d hd
  have hfits : ∀ (j : Nat) p, t.properties[j]? = some p → (p.designator.rename g).Fits := by
    intro j p hp
    have hmem : p.designator ∈ t.properties.map (·.designator) :=
      List.mem_map_of_mem (List.mem_of_getElem? hp)
    cases hd : p.designator with
    | name s =>
      rw [hd] at hmem
      exact ⟨hw s (List.mem_filterMap.mpr ⟨.name s, hmem, rfl⟩), trivial⟩
    | index n =>
      rw [hd] at hmem
      cases hall _ hmem
  have hnames : Compatible ((t.properties.map (·.designator)).mapIdx fun _ d => d.rename g) := by
    rw [mapIdx_const]
    exact .inr ⟨hall', hnodup'⟩
  obtain ⟨t', hparse, hes⟩ := parse_redesignate h hfits hnames
  rw [← hes.rename] at hall' hnodup'
  exact ⟨t', hparse, hes, .of_names hall' hnodup'⟩

theorem isIndexed_eq (t : Template) :
    t.isIndexed = (t.properties.map (·.designator)).all Designator.isIndex := by
  rw [List.all_map]
  rfl

/-- Names agree with positions. A raw template that goes by names is accepted with its properties
numbered from the left instead, and then goes by indices; the same values are captured with the same
operators in the same order, and it renders as before, to the same text or the same error, whatever
the arguments are if a sentinel stands for what is unbound, and otherwise if there is an argument
for each property. (The raw template is one that a machine can hold; else the numbers would be too
great to be written in the end.) So it does with other names, if they can be written and stay apart.
-/
theorem render_numbered (h : Template.parse raw = .ok t) (hnamed : t.isIndexed = false) :
    (raw.length ≤ greatestSize →
      ∃ t', Template.parse (numbered raw) = .ok t' ∧ t'.isIndexed = true ∧
      Redesignated (fun j _ => .index j) 0 t.elements t'.elements ∧
      (∀ args, (Event.bind t' args).bound.map (·.2) = (Event.bind t args).bound.map (·.2)) ∧
      ∀ (r : Renderer) (formatter : Formatter) (args : List Value),
        r.policy = .sentinel ∨ t.properties.length ≤ args.length →
          r.render formatter (.bind t' args) = r.render formatter (.bind t args)) ∧
    ∀ g : String → String,
      (∀ s ∈ names (t.properties.map (·.designator)), (Designator.name (g s)).Writable) →
      (∀ s ∈ names (t.properties.map (·.designator)),
        ∀ s' ∈ names (t.properties.map (·.designator)), g s = g s' → s = s') →
      ∃ t', Template.parse (renamed g raw) = .ok t' ∧ t'.isIndexed = false ∧
        Redesignated (fun _ d => d.rename g) 0 t.elements t'.elements ∧
        ∀ (r : Renderer) (formatter : Formatter) (args : List Value),
          r.policy = .sentinel ∨ t.properties.length ≤ args.length →
            r.render formatter (.bind t' args) = r.render formatter (.bind t args) := by
  obtain ⟨_, hc, _, _⟩ := of_parse h
  obtain ⟨hall, hnodup⟩ := names_of_not_isIndexed hc hnamed
  have ht : InOrder t := .of_names hall hnodup
  refine ⟨fun hlength => ?_, fun g hw hg => ?_⟩
  · obtain ⟨t', hparse, hes, ht'⟩ := parse_numbered h hlength
    have hindexed : t'.isIndexed = true := by
      refine List.all_eq_true.mpr fun p hp => ?_
      obtain ⟨j, hj⟩ := List.getElem?_of_mem hp
      rw [hes.index hj]
      rfl
    exact ⟨t', hparse, hindexed, hes, hes.captured ht ht', fun _ _ _ => hes.render ht ht'⟩
  · obtain ⟨t', hparse, hes, ht'⟩ := parse_renamed h hall hnodup hw hg
    have hindexed : t'.isIndexed = t.isIndexed := by
      rw [isIndexed_eq, isIndexed_eq, hes.rename, List.all_map]
      exact congrArg _ (funext (isIndex_rename g))
    exact ⟨t', hparse, hindexed.trans hnamed, hes, fun _ _ _ => hes.render ht ht'⟩

/-- Two names that change places, one argument too few, and an operator and an alignment that stay.
-/
theorem render_numbered_short :
    let raw := "{@b,4:x}-{a}"
    let swap : String → String := fun s => if s = "a" then "b" else "a"
    let r : Renderer := { policy := .sentinel, sentinel := "?" }
    numbered raw = "{@0,4:x}-{1}" ∧ renamed swap raw = "{@a,4:x}-{b}" ∧
      ∃ t, Template.parse raw = .ok t ∧ t.isIndexed = false ∧
        (∃ t', Template.parse (numbered raw) = .ok t' ∧
          r.render .standard (.bind t' [.text "q"]) = r.render .standard (.bind t [.text "q"])) ∧
        ∃ t', Template.parse (renamed swap raw) = .ok t' ∧
          r.render .standard (.bind t' [.text "q"]) = r.render .standard (.bind t [.text "q"]) := by
  intro raw swap r
  let b : Property :=
    { designator := .name "b", operator := .structured, alignment := some 4, format := some "x",
      source := some "{@b,4:x}" }
  let a : Property := { designator := .name "a", source := some "{a}" }
  let t : Template := ⟨raw, [.property b, .text "-", .property a]⟩
  have hparse : Template.parse raw = .ok t := by decide +kernel
  have hnamed : t.isIndexed = false := by decide
  have hnames : names (t.properties.map (·.designator)) = ["b", "a"] := by decide
  obtain ⟨hnumbered, hrenamed⟩ := render_numbered hparse hnamed
  obtain ⟨t', hparse', _, _, _, hrender⟩ := hnumbered (by decide)
  rw [hnames] at hrenamed
  have hwritable : ∀ s ∈ ["b", "a"], (Designator.name (swap s)).Writable := by
    simp [swap, Designator.Writable, Char.isAlphanum]
  obtain ⟨t'', hparse'', _, _, hrender'⟩ := hrenamed swap hwritable (by decide)
  exact ⟨by decide +kernel, by decide +kernel, t, hparse, hnamed,
    ⟨t', hparse', hrender r .standard [.text "q"] (.inl rfl)⟩,
    t'', hparse'', hrender' r .standard [.text "q"] (.inl rfl)⟩

end Named

end EventTemplate
