import EventTemplate.Proofs.Engine.Revive

/-
  Serialized events that come from elsewhere. Their entries may stand in any order, there may be
  entries that no key of the template asks for, and there may be too few of them.

  Proved: what is revived is the projection to the keys of the template, in the order of the
  template (`fill_eq_projected`). It depends on the entries under these keys alone
  (`projected_eq_of_perm`); serialized, it is those entries (`serialize_projected`), and revived
  again it is as it was (`revive_projects`).
-/

namespace EventTemplate

/-! ## Entries in any order -/

section Entries

variable {α β : Type} [DecidableEq α] {k : α} {keys : List α}

/-- Leaving out other keys changes nothing for a key. -/
theorem lookup_filter_mem (hk : k ∈ keys) (entries : List (α × β)) :
    (entries.filter (·.1 ∈ keys)).lookup k = entries.lookup k := by
  induction entries with
  | nil => rfl
  | cons e rest ih =>
    obtain ⟨k', v'⟩ := e
    rw [List.filter_cons]
    split
    · rw [lookup_cons_ite, lookup_cons_ite, ih]
    · rename_i hk'
      have hne : k ≠ k' := by
        rintro rfl
        exact hk' (decide_eq_true hk)
      rw [lookup_cons_ite, if_neg hne, ih]

end Entries

/-! ## Projections -/

/-- The texts of the keys of a template, each at its first place. -/
def Template.keys (t : Template) : List String :=
  t.designators.map Designator.text

namespace Serialized

/-- The stored entries. -/
def entries (stored : Serialized) : List (String × Value) :=
  stored.properties.getD []

/-- The stored value of a designator: the one under its text. -/
def value? (stored : Serialized) (d : Designator) : Option Value :=
  stored.entries.lookup d.text

/-- The bindings of a template's keys that have stored values, each with the tag of its first
property. -/
def projected (stored : Serialized) (t : Template) : Event :=
  ⟨t, t.designators.filterMap (binding? stored.value? t.properties)⟩

/-- A serialized event of a raw template: its version is not too new, and no two entries have one
key. -/
structure IsOf (stored : Serialized) (raw : String) : Prop where
  version : ∀ v, stored.version = some v → newer? v = some false
  template : stored.template = some raw
  keys : (stored.entries.map (·.1)).Nodup

variable {stored stored' : Serialized} {raw : String} {t : Template} {d : Designator}

theorem IsOf.checked (h : stored.IsOf raw) : stored.checked = .ok raw := by
  have htemplate : checked.template stored = .ok raw := by
    unfold checked.template
    rw [h.template]
  unfold Serialized.checked
  cases hv : stored.version with
  | none => exact htemplate
  | some v =>
    dsimp only
    rw [h.version v hv]
    exact htemplate

theorem projected_eq_collect (stored : Serialized) (t : Template) :
    stored.projected t = ⟨t, collect stored.value? [] t.properties⟩ :=
  congrArg (Event.mk t) (collect_eq_filterMap stored.value? t.properties).symm

/-- What is revived is the projection, if the template's keys can be written. -/
theorem fill_eq_projected (hs : ∀ d ∈ t.properties.map (·.designator), d.Short)
    (stored : Serialized) : stored.fill t = .ok (stored.projected t) := by
  rw [fill_eq_collect hs, projected_eq_collect]
  rfl

/-- Entries under other texts than those of the keys, and the order of the entries, make no
difference. -/
theorem value?_eq_of_perm (h : (stored.entries.map (·.1)).Nodup)
    (hp : (stored.entries.filter (·.1 ∈ t.keys)).Perm (stored'.entries.filter (·.1 ∈ t.keys)))
    (hd : d ∈ t.designators) : stored.value? d = stored'.value? d := by
  have hkey : d.text ∈ t.keys := List.mem_map_of_mem hd
  have hnodup : ((stored.entries.filter (·.1 ∈ t.keys)).map (·.1)).Nodup :=
    h.sublist (List.filter_sublist.map _)
  unfold value?
  rw [← lookup_filter_mem hkey stored.entries, ← lookup_filter_mem hkey stored'.entries]
  exact lookup_of_perm hnodup hp d.text

theorem projected_eq_of_perm (h : (stored.entries.map (·.1)).Nodup)
    (hp : (stored.entries.filter (·.1 ∈ t.keys)).Perm (stored'.entries.filter (·.1 ∈ t.keys))) :
    stored.projected t = stored'.projected t := by
  have hvalues : ∀ p ∈ t.properties, stored.value? p.designator = stored'.value? p.designator :=
    fun p hp' => value?_eq_of_perm h hp (List.mem_eraseDups.mpr (List.mem_map_of_mem hp'))
  rw [projected_eq_collect, projected_eq_collect, collect_congr hvalues]

/-- The stored entries of a template's keys, in the template's order. -/
def restricted (stored : Serialized) (t : Template) : Serialized where
  version := some (.int currentVersion)
  template := some t.raw
  properties := some (t.designators.filterMap fun d => (stored.value? d).map (d.text, ·))

theorem stored_projected (stored : Serialized) (t : Template) :
    (stored.projected t).stored = stored.restricted t := by
  have hentries : ((stored.projected t).bound.map fun e => (e.1.text, e.2.value)) =
      t.designators.filterMap fun d => (stored.value? d).map (d.text, ·) := by
    rw [projected, List.map_filterMap]
    apply List.filterMap_congr
    intro d hd
    -- a key is the key of some property, so there is a tag for its value
    obtain ⟨p, hp, rfl⟩ := List.mem_map.mp (List.mem_eraseDups.mp hd)
    have hsome : (t.properties.find? (·.designator = p.designator)).isSome = true :=
      List.find?_isSome.mpr ⟨p, hp, decide_eq_true rfl⟩
    obtain ⟨q, hq⟩ := Option.isSome_iff_exists.mp hsome
    unfold binding?
    rw [hq]
    cases stored.value? p.designator <;> rfl
  rw [Event.stored, hentries]
  rfl

/-- What is revived is serialized as the stored entries of the keys. -/
theorem serialize_projected (hc : Compatible (t.properties.map (·.designator)))
    (hs : ∀ d ∈ t.properties.map (·.designator), d.Short) (stored : Serialized) :
    (stored.projected t).serialize = .ok (stored.restricted t) := by
  rw [← stored_projected, projected_eq_collect]
  exact serialize_collect stored.value? hc hs

/-- A serialized event is revived as an event, on every cache that engines come to. -/
def RevivedAs (stored : Serialized) (e : Event) : Prop :=
  ∀ (engine : Engine) (stores : Stores), stores.cache.Reachable →
    ∃ i, (engine.revive stores stored).answer = .ok (i, e) ∧ i.template = e.template

theorem revivedAs_of_fill (h : stored.checked = .ok raw) (ht : Template.parse raw = .ok t)
    {e : Event} (hfill : stored.fill t = .ok e) (he : e.template = t) : stored.RevivedAs e := by
  intro engine stores hcache
  have hmeaning := Engine.revive_eq_reviving engine hcache.sound stored
  rw [Engine.reviving, h] at hmeaning
  dsimp only at hmeaning
  rw [ht] at hmeaning
  dsimp only at hmeaning
  rw [hfill] at hmeaning
  cases hanswer : (engine.revive stores stored).answer with
  | error why =>
    rw [hanswer] at hmeaning
    cases hmeaning
  | ok answer =>
    obtain ⟨i, e'⟩ := answer
    rw [hanswer] at hmeaning
    obtain ⟨hi, he'⟩ := Prod.mk.inj (Except.ok.inj hmeaning)
    dsimp only at hi he'
    exact ⟨i, by rw [he'], hi.trans he.symm⟩

/-- Reviving a serialized event from anywhere is a projection. On every cache it brings the keys of
the template, in the order of their first places, each with the value under its text, if there is
one, and the tag of its first property. Entries under other texts make no difference, and no more
does the order of the entries. The new event is serialized as the entries of its keys alone, in the
order of the template, and from these it is revived as it is. The text of a key is what is written
for it. -/
theorem revive_projects (h : stored.IsOf raw) (ht : Template.parse raw = .ok t) :
    let e : Event := ⟨t, t.designators.filterMap (binding? stored.value? t.properties)⟩
    let again : Serialized := ⟨some (.int currentVersion), some raw,
      some (t.designators.filterMap fun d => (stored.value? d).map (d.text, ·))⟩
    stored.RevivedAs e ∧
    (∀ stored' : Serialized, stored'.IsOf raw →
      (stored.entries.filter (·.1 ∈ t.keys)).Perm (stored'.entries.filter (·.1 ∈ t.keys)) →
      stored'.RevivedAs e) ∧
    e.serialize = .ok again ∧ again.RevivedAs e ∧ ∀ d ∈ t.designators, d.print = .ok d.text := by
  intro e again
  obtain ⟨_, hc, _, htokens⟩ := of_parse ht
  have hs := designators_short_of_parse ht
  have hraw : t.raw = raw := by rw [htokens]
  have hagain : again = stored.restricted t := by rw [restricted, hraw]
  have hrestricted : (stored.restricted t).fill t = .ok (stored.projected t) := by
    rw [← stored_projected, projected_eq_collect]
    exact fill_stored_collect hc hs stored.value?
  refine ⟨revivedAs_of_fill h.checked ht (fill_eq_projected hs stored) rfl, fun stored' h' hp => ?_,
    ?_, ?_, fun d hd => ?_⟩
  · have hprojected : e = stored'.projected t := projected_eq_of_perm h.keys hp
    rw [hprojected]
    exact revivedAs_of_fill h'.checked ht (fill_eq_projected hs stored') rfl
  · rw [hagain]
    exact serialize_projected hc hs stored
  · have hchecked : (stored.restricted t).checked = .ok raw := congrArg Except.ok hraw
    rw [hagain]
    exact revivedAs_of_fill hchecked ht hrestricted rfl
  · exact Designator.print_of_short (hs d (List.mem_eraseDups.mp hd))

/-- Two entries out of order, one under an index that is not written as its key is, and one under
no key at all; an index that is written in two ways, and an index without a value. -/
theorem revive_projects_indexed :
    let raw := "{02}{$2}{@1}{7}"
    let stored : Serialized := ⟨some (.bool true), some raw,
      some [("07", .null), ("1", .int 5), ("2", .text "c"), ("@1", .int 0)]⟩
    let stored' : Serialized := ⟨none, some raw, some [("2", .text "c"), ("1", .int 5)]⟩
    let t : Template := ⟨raw, [.property ⟨.index 2, .plain, none, none, some "{02}"⟩,
      .property ⟨.index 2, .stringified, none, none, some "{$2}"⟩,
      .property ⟨.index 1, .structured, none, none, some "{@1}"⟩,
      .property ⟨.index 7, .plain, none, none, some "{7}"⟩]⟩
    let e : Event := ⟨t, [(.index 2, ⟨.text "c", .plain⟩), (.index 1, ⟨.int 5, .structured⟩)]⟩
    stored.RevivedAs e ∧ stored'.RevivedAs e ∧
      e.serialize = .ok ⟨some (.int 1), some raw, some [("2", .text "c"), ("1", .int 5)]⟩ ∧
      Serialized.RevivedAs ⟨some (.int 1), some raw, some [("2", .text "c"), ("1", .int 5)]⟩ e := by
  intro raw stored stored' t e
  have hparse : Template.parse raw = .ok t := by decide +kernel
  have hversion : newer? (.bool true) = some false := by decide
  have hstored : stored.IsOf raw :=
    ⟨fun v hv => by cases hv; exact hversion, rfl, by decide⟩
  have hstored' : stored'.IsOf raw := ⟨fun v hv => (nomatch hv), rfl, by decide⟩
  obtain ⟨hrevived, hrevived', hserialized, hagain, _⟩ := revive_projects hstored hparse
  have hperm : (stored.entries.filter (·.1 ∈ t.keys)).Perm
      (stored'.entries.filter (·.1 ∈ t.keys)) := List.Perm.swap _ _ []
  exact ⟨hrevived, hrevived' stored' hstored' hperm, hserialized, hagain⟩

end Serialized

end EventTemplate
