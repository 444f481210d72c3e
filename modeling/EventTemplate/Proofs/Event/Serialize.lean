import EventTemplate.Proofs.Event.Bind
import EventTemplate.Proofs.Property.Overlong

/-
  What a serialized event keeps. Its keys are texts, and its tags are gone; both come back with the
  template. This needs that every key can be written, and that no two keys of an event are the same
  text, which holds where designators go together: of a name and an index, `7` and 7, no template
  has both.

  Proved, for whatever is collected and so for events that were bound: no binding is lost when an
  event is serialized (`serialize_bind`), and filling its template from the serialized event gives
  it back (`fill_stored`).
-/

namespace EventTemplate

variable {t : Template} {ds : List Designator} {d d' : Designator}

/-! ## Goings through that do not fail -/

section Except

variable {ε α β : Type} {xs : List α}

theorem mapM_eq_map {f : α → Except ε β} {g : α → β} (h : ∀ x ∈ xs, f x = .ok (g x)) :
    xs.mapM f = .ok (xs.map g) := by
  induction xs with
  | nil => rfl
  | cons x xs ih =>
    obtain ⟨hx, hxs⟩ := List.forall_mem_cons.mp h
    rw [List.mapM_cons, hx, ih hxs]
    rfl

theorem foldlM_eq_foldl {f : β → α → Except ε β} {g : β → α → β}
    (h : ∀ x ∈ xs, ∀ b, f b x = .ok (g b x)) (b : β) : xs.foldlM f b = .ok (xs.foldl g b) := by
  induction xs generalizing b with
  | nil => rfl
  | cons x xs ih =>
    obtain ⟨hx, hxs⟩ := List.forall_mem_cons.mp h
    rw [List.foldlM_cons, hx]
    exact ih hxs (g b x)

end Except

/-! ## Keys -/

/-- Designators that go together are told apart by their texts. -/
theorem Compatible.eq_of_text (hc : Compatible ds) (hd : d ∈ ds) (hd' : d' ∈ ds)
    (h : d.text = d'.text) : d = d' := by
  have hmode : d.isIndex = d'.isIndex := by
    rcases hc with hall | ⟨hall, _⟩
    · rw [hall d hd, hall d' hd']
    · rw [hall d hd, hall d' hd']
  cases d with
  | name s =>
    cases d' with
    | name s' => exact congrArg Designator.name h
    | index n => cases hmode
  | index n =>
    cases d' with
    | name s => cases hmode
    | index n' =>
      have hdigits : Nat.toDigits 10 n = Nat.toDigits 10 n' := String.ofList_injective h
      exact congrArg Designator.index (toDigits_inj hdigits)

/-- An event with its keys as texts and without its tags. -/
def Event.stored (e : Event) : Serialized where
  version := some (.int currentVersion)
  template := some e.template.raw
  properties := some (e.bound.map fun entry => (entry.1.text, entry.2.value))

/-- An event is serialized one by one and in order if its keys can be written and differ as
texts. -/
theorem serialize_of_short {e : Event} (hs : ∀ d ∈ e.bound.map (·.1), d.Short)
    (hnodup : (e.bound.map (·.1.text)).Nodup) : e.serialize = .ok e.stored := by
  have hpairs : (e.values.map fun entry => (entry.1.text, entry.2)) =
      e.bound.map fun entry => (entry.1.text, entry.2.value) := by
    unfold Event.values
    rw [List.map_map]
    rfl
  have hbindings : bindings (e.bound.map fun entry => (entry.1.text, entry.2.value)) =
      e.bound.map fun entry => (entry.1.text, entry.2.value) := by
    refine bindings_of_nodup ?_
    rw [List.map_map]
    exact hnodup
  unfold Event.serialize
  rw [mapM_eq_map (g := fun entry => (entry.1.text, entry.2)), hpairs]
  · exact congrArg (fun entries => Except.ok (Serialized.mk _ _ (some entries))) hbindings
  · intro entry hentry
    obtain ⟨binding, hbinding, rfl⟩ := List.mem_map.mp hentry
    dsimp only
    rw [Designator.print_of_short (hs _ (List.mem_map_of_mem hbinding))]
    rfl

/-! ## What is collected -/

section Collect

variable (f : Designator → Option Value)

/-- The keys of what is collected differ as texts. -/
theorem nodup_text_collect (hc : Compatible (t.properties.map (·.designator))) :
    ((collect f [] t.properties).map (·.1.text)).Nodup := by
  have hnodup : ((collect f [] t.properties).map (·.1)).Nodup := nodup_collect List.nodup_nil
  have htext := hnodup.map_on fun d hd d' hd' heq =>
    hc.eq_of_text (mem_of_mem_collect hd) (mem_of_mem_collect hd') heq
  rw [List.map_map] at htext
  exact htext

/-- What is collected is serialized. -/
theorem serialize_collect (hc : Compatible (t.properties.map (·.designator)))
    (hs : ∀ d ∈ t.properties.map (·.designator), d.Short) :
    (Event.mk t (collect f [] t.properties)).serialize =
      .ok (Event.mk t (collect f [] t.properties)).stored :=
  serialize_of_short (fun d hd => hs d (mem_of_mem_collect hd)) (nodup_text_collect f hc)

end Collect

/-- The keys of an event differ as texts. -/
theorem nodup_text_bound (hc : Compatible (t.properties.map (·.designator)))
    (args : List Value) : ((Event.bind t args).bound.map (·.1.text)).Nodup := by
  rw [bind_eq_collect hc]
  exact nodup_text_collect _ hc

/-- The bindings of an event are serialized. -/
theorem serialize_bind (hc : Compatible (t.properties.map (·.designator)))
    (hs : ∀ d ∈ t.properties.map (·.designator), d.Short) (args : List Value) :
    (Event.bind t args).serialize = .ok (Event.bind t args).stored := by
  rw [bind_eq_collect hc]
  exact serialize_collect _ hc hs

/-- Reviving collects what is stored under the texts of designators. -/
theorem fill_eq_collect (hs : ∀ d ∈ t.properties.map (·.designator), d.Short)
    (stored : Serialized) :
    stored.fill t = .ok
      ⟨t, collect (fun d => (stored.properties.getD []).lookup d.text) [] t.properties⟩ := by
  unfold Serialized.fill
  dsimp only
  rw [foldlM_eq_foldl (g := fun bound p =>
    collect (fun d => (stored.properties.getD []).lookup d.text) bound [p])]
  · rfl
  · intro p hp bound
    rw [Designator.print_of_short (hs _ (List.mem_map_of_mem hp))]
    rfl

/-- What was collected is what its template is filled with from it serialized. -/
theorem fill_stored_collect (hc : Compatible (t.properties.map (·.designator)))
    (hs : ∀ d ∈ t.properties.map (·.designator), d.Short) (f : Designator → Option Value) :
    (Event.mk t (collect f [] t.properties)).stored.fill t =
      .ok ⟨t, collect f [] t.properties⟩ := by
  have hstored : ∀ p ∈ t.properties,
      ((collect f [] t.properties).map fun e => (e.1.text, e.2.value)).lookup p.designator.text =
        f p.designator := by
    intro p hp
    have hkeys : ∀ k ∈ (collect f [] t.properties).map (·.1),
        k.text = p.designator.text → k = p.designator := fun k hk heq =>
      hc.eq_of_text (mem_of_mem_collect hk) (List.mem_map_of_mem hp) heq
    rw [lookup_map hkeys]
    exact value_collect hp
  rw [fill_eq_collect hs, Event.stored, Option.getD_some, collect_congr hstored]

/-- An event is what its template is filled with from the event serialized. -/
theorem fill_stored (hc : Compatible (t.properties.map (·.designator)))
    (hs : ∀ d ∈ t.properties.map (·.designator), d.Short) (args : List Value) :
    (Event.bind t args).stored.fill t = .ok (Event.bind t args) := by
  rw [bind_eq_collect hc]
  exact fill_stored_collect hc hs _

end EventTemplate
