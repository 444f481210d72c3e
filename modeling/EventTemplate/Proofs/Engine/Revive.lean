import EventTemplate.Proofs.Engine.Transparent
import EventTemplate.Proofs.Event.Serialize
import EventTemplate.Proofs.Template.Grammar

/-
  Serialized events come back, if their raw templates are accepted. The raw template is parsed
  again, on a cache that need not be the one that the event came from, and the values are taken up
  under the texts of their keys.

  Proved: on any cache, an event of an accepted raw template is revived as it was
  (`revive_serialize`). What an engine captured, it revives, except for what it captured from a
  rejected raw template by taking that as literal: this it can capture and render, and yet it fails
  to revive it, under the very policy that takes it as literal (`deserialize_captured`).
-/

namespace EventTemplate

variable {raw : String} {t : Template}

/-- A serialized event is of the current version and has its raw template. -/
theorem checked_stored (e : Event) : e.stored.checked = .ok e.template.raw :=
  rfl

/-- An event of an accepted raw template is serialized. -/
theorem serialize_of_parse (h : Template.parse raw = .ok t) (args : List Value) :
    (Event.bind t args).serialize = .ok (Event.bind t args).stored := by
  obtain ⟨_, hc, _, _⟩ := of_parse h
  exact serialize_bind hc (designators_short_of_parse h) args

/-- What the serialized event of an accepted raw template means. -/
theorem reviving_stored (h : Template.parse raw = .ok t) (args : List Value) :
    Engine.reviving (Event.bind t args).stored = .ok (t, Event.bind t args) := by
  obtain ⟨_, hc, _, ht⟩ := of_parse h
  have hraw : (Event.bind t args).template.raw = raw := by rw [template_bind, ht]
  rw [Engine.reviving, checked_stored, hraw]
  dsimp only
  rw [h]
  dsimp only
  rw [fill_stored hc (designators_short_of_parse h)]
  rfl

/-- An event of an accepted raw template is serialized, and revived on any cache, whatever was done
to that before. The new event has the same template and the same bindings in the same order, so it
is serialized and rendered as the old one is. Every key of the event has a text, and every binding
has a text of its own in the serialized event. -/
theorem revive_serialize (h : Template.parse raw = .ok t) (args : List Value) (engine : Engine)
    (stores : Stores) (hcache : stores.cache.Reachable) :
    let e := Event.bind t args
    ∃ stored, e.serialize = .ok stored ∧
      (∃ i e', (engine.revive stores stored).answer = .ok (i, e') ∧
        i.template = t ∧ e'.template = e.template ∧ e'.bound = e.bound ∧
        e'.serialize = .ok stored ∧
        ∀ (r : Renderer) (formatter : Formatter), r.render formatter e' = r.render formatter e) ∧
      stored.template = some raw ∧
      stored.properties = some (e.bound.map fun entry => (entry.1.text, entry.2.value)) ∧
      (∀ entry ∈ e.bound, entry.1.print = .ok entry.1.text) ∧ (e.bound.map (·.1.text)).Nodup := by
  intro e
  obtain ⟨_, hc, _, ht⟩ := of_parse h
  have hraw : e.template.raw = raw := by rw [template_bind, ht]
  have hserialize : e.serialize = .ok e.stored := serialize_of_parse h args
  refine ⟨e.stored, hserialize, ?_, congrArg some hraw, rfl, fun entry hentry => ?_,
    nodup_text_bound hc args⟩
  · have hmeaning := Engine.revive_eq_reviving engine hcache.sound e.stored
    rw [reviving_stored h args] at hmeaning
    cases hanswer : (engine.revive stores e.stored).answer with
    | error why =>
      rw [hanswer] at hmeaning
      cases hmeaning
    | ok answer =>
      obtain ⟨i, e'⟩ := answer
      rw [hanswer] at hmeaning
      obtain ⟨hi, he⟩ := Prod.mk.inj (Except.ok.inj hmeaning)
      dsimp only at hi he
      exact ⟨i, e', rfl, hi, by rw [he], by rw [he], by rw [he, hserialize],
        fun _ _ => by rw [he]⟩
  · have hkey : entry.1 ∈ (Event.bind t args).bound.map (·.1) := List.mem_map_of_mem hentry
    rw [bind_eq_collect hc] at hkey
    exact Designator.print_of_short (designators_short_of_parse h _ (mem_of_mem_collect hkey))

/-- Two properties of one index that is written in two ways, and an index without an argument, on a
cache that has another template. -/
theorem revive_serialize_repeated :
    let raw := "{02}{$2:x}{@1}{9}"
    let t : Template := ⟨raw, [.property ⟨.index 2, .plain, none, none, some "{02}"⟩,
      .property ⟨.index 2, .stringified, none, some "x", some "{$2:x}"⟩,
      .property ⟨.index 1, .structured, none, none, some "{@1}"⟩,
      .property ⟨.index 9, .plain, none, none, some "{9}"⟩]⟩
    let e : Event := ⟨t, [(.index 2, ⟨.text "c", .plain⟩), (.index 1, ⟨.null, .structured⟩)]⟩
    ∃ cache : Cache, cache.Reachable ∧ cache.contains raw = false ∧
      Template.parse raw = .ok t ∧ Event.bind t [.int 0, .null, .text "c"] = e ∧
      ∃ stored, e.serialize = .ok stored ∧
        ∃ i e', (Engine.revive {} ⟨cache, { capacity := 0 }, 5⟩ stored).answer = .ok (i, e') ∧
          i.template = t ∧ e'.template = e.template ∧ e'.bound = e.bound ∧
          e'.serialize = .ok stored ∧
          ∀ (r : Renderer) (formatter : Formatter),
            r.render formatter e' = r.render formatter e := by
  intro raw t e
  have hcache : (Cache.fetch ⟨{ capacity := 1 }⟩ 0 "{2}").cache.Reachable :=
    .fetch (.create (rfl : Cache.create 1 = .ok _)) 0 "{2}"
  have hparse : Template.parse raw = .ok t := by decide +kernel
  obtain ⟨stored, hstored, hrevived, _⟩ :=
    revive_serialize hparse [.int 0, .null, .text "c"] {} ⟨_, { capacity := 0 }, 5⟩ hcache
  exact ⟨_, hcache, by decide +kernel, hparse, rfl, stored, hstored, hrevived⟩

theorem bind_literal (raw : String) (args : List Value) :
    Event.bind (.literal raw) args = ⟨.literal raw, []⟩ := by
  have hproperties : (Template.literal raw).properties = [] := by
    unfold Template.properties Template.literal
    dsimp only
    split <;> rfl
  unfold Event.bind Template.isIndexed
  rw [hproperties]
  rfl

namespace Session

variable {s : Session} {on : Int} {station : Station} {args : List Value} {i : Instance} {e : Event}

/-- What an engine captures: an event of the template, or, where that is the policy, of the rejected
raw template as it stands. -/
theorem Sound.of_captured (h : s.Sound) (hs : itemAt? s.stations on = some station)
    (ha : (s.perform (.capture on raw args)).answer = .ok (.event i e)) :
    (∃ t, Template.parse raw = .ok t ∧ e = .bind t args) ∨
    ∃ why, Template.parse raw = .error (.rejected why) ∧
      station.engine.settings.invalid = .literal ∧ e = ⟨.literal raw, []⟩ := by
  have hanswer := h.answer_put hs (.capture raw args)
  rw [Question.put, ha, Engine.answer, Engine.capturing, Engine.meaning] at hanswer
  cases hparse : Template.parse raw with
  | ok t =>
    rw [hparse] at hanswer
    have hevent := (Answer.event.inj (Except.ok.inj hanswer)).2
    exact .inl ⟨t, rfl, hevent⟩
  | error why =>
    rw [hparse] at hanswer
    cases why with
    | decimal why => cases hanswer
    | rejected why =>
      cases hp : station.engine.settings.invalid with
      | report =>
        dsimp only at hanswer
        rw [hp] at hanswer
        cases hanswer
      | literal =>
        dsimp only at hanswer
        rw [hp] at hanswer
        have hevent := (Answer.event.inj (Except.ok.inj hanswer)).2
        exact .inr ⟨why, rfl, rfl, hevent.trans (bind_literal raw args)⟩

/-- What a raw template stands for is captured. -/
theorem Sound.capture_of_meaning (h : s.Sound) (hs : itemAt? s.stations on = some station)
    (hm : station.engine.meaning raw = .ok t) (args : List Value) :
    ∃ i, (s.perform (.capture on raw args)).answer = .ok (.event i (.bind t args)) := by
  have hanswer : station.engine.answer (.capture raw args) =
      .ok (.event ⟨0, t⟩ (.bind t args)) := by
    rw [Engine.answer, Engine.capturing, hm]
    rfl
  exact h.event_of_answer hs hanswer

/-- The event of an accepted raw template is revived. -/
theorem Sound.deserialize_bind (h : s.Sound) (hs : itemAt? s.stations on = some station)
    (ht : Template.parse raw = .ok t) (args : List Value) :
    ∃ i, (s.perform (.deserialize on (Event.bind t args).stored)).answer =
      .ok (.event i (.bind t args)) := by
  have hanswer : station.engine.answer (.deserialize (Event.bind t args).stored) =
      .ok (.event ⟨0, t⟩ (.bind t args)) := by
    rw [Engine.answer, reviving_stored ht]
    rfl
  exact h.event_of_answer hs hanswer

/-- Reviving an event of a rejected raw template fails, whatever the engine's policy. -/
theorem Sound.deserialize_literal (h : s.Sound) (hs : itemAt? s.stations on = some station)
    {why : ParseError} (hw : Template.parse raw = .error why) :
    (s.perform (.deserialize on (Event.mk (.literal raw) []).stored)).answer =
      .error (.engine (.revive (.parse why))) := by
  have hraw : (Event.mk (.literal raw) []).template.raw = raw := rfl
  have hanswer : station.engine.answer (.deserialize (Event.mk (.literal raw) []).stored) =
      .error (.revive (.parse why)) := by
    rw [Engine.answer, Engine.reviving, checked_stored, hraw]
    dsimp only
    rw [hw]
    rfl
  exact h.error_of_answer hs hanswer

/-- What an engine captured and the raw template of which is accepted, it serializes and revives as
it was. What it captured from another raw template, which has to be rejected and takes the policy to
do so, it serializes too, but fails to revive. -/
theorem deserialize_captured (h : s.Reachable) (hs : itemAt? s.stations on = some station)
    (ha : (s.perform (.capture on raw args)).answer = .ok (.event i e)) :
    let after := (s.perform (.capture on raw args)).session
    (∀ t, Template.parse raw = .ok t →
      ∃ stored i' e', e.serialize = .ok stored ∧
        (after.perform (.deserialize on stored)).answer = .ok (.event i' e') ∧
        e'.template = e.template ∧ e'.bound = e.bound ∧
        ∀ formatter, station.engine.render e' formatter = station.engine.render e formatter) ∧
    ∀ why, Template.parse raw = .error why →
      (∃ rejection, why = .rejected rejection) ∧
        station.engine.settings.invalid = .literal ∧ e = ⟨.literal raw, []⟩ ∧
        ∃ stored, e.serialize = .ok stored ∧
          (after.perform (.deserialize on stored)).answer =
            .error (.engine (.revive (.parse why))) := by
  intro after
  have hafter : after.Sound := (h.perform (.capture on raw args)).sound
  obtain ⟨station', hs', _⟩ := exists_station_perform hs (.capture on raw args)
  rcases h.sound.of_captured hs ha with ⟨t, ht, rfl⟩ | ⟨why, hw, hp, rfl⟩
  · refine ⟨fun _ _ => ?_, fun why hw => ?_⟩
    · obtain ⟨i', hi'⟩ := hafter.deserialize_bind hs' ht args
      exact ⟨_, i', _, serialize_of_parse ht args, hi', rfl, rfl, fun _ => rfl⟩
    · rw [ht] at hw
      cases hw
  · refine ⟨fun t ht => ?_, fun why' hw' => ?_⟩
    · rw [hw] at ht
      cases ht
    · have hrejected : why' = .rejected why := Except.error.inj (hw'.symm.trans hw)
      exact ⟨⟨why, hrejected⟩, hp, rfl, _, rfl, hafter.deserialize_literal hs' hw'⟩

/-- With a name, a tag and an argument too few. -/
theorem deserialize_captured_unbound :
    let engine : Engine := { settings := { cacheSize := 1, invalid := .literal } }
    let raw := "{@a} {b}"
    let t : Template := ⟨raw, [.property ⟨.name "a", .structured, none, none, some "{@a}"⟩,
      .text " ", .property ⟨.name "b", .plain, none, none, some "{b}"⟩]⟩
    let e : Event := ⟨t, [(.name "a", ⟨.int 1, .structured⟩)]⟩
    ∃ s i stored i' e', create [engine] none = .ok s ∧
      (s.perform (.capture 0 raw [.int 1])).answer = .ok (.event i e) ∧
      e.serialize = .ok stored ∧
      ((s.perform (.capture 0 raw [.int 1])).session.perform
        (.deserialize 0 stored)).answer = .ok (.event i' e') ∧
      e'.template = e.template ∧ e'.bound = e.bound ∧
      ∀ formatter, engine.render e' formatter = engine.render e formatter := by
  intro engine raw t e
  have hcreate : create [engine] none = .ok _ := rfl
  obtain ⟨station, hstation, hengine⟩ := itemAt?_zero_of_create hcreate
  have hs := (reachable_of_create hcreate).1
  have hparse : Template.parse raw = .ok t := by decide +kernel
  have hmeaning : station.engine.meaning raw = .ok t := by rw [Engine.meaning, hparse]
  obtain ⟨i, hi⟩ := hs.sound.capture_of_meaning hstation hmeaning [.int 1]
  obtain ⟨stored, i', e', he'⟩ := (deserialize_captured hs hstation hi).1 t hparse
  rw [hengine] at he'
  exact ⟨_, i, stored, i', e', hcreate, hi, he'⟩

/-- An engine takes a rejected raw template as literal, and cannot revive what it captured. -/
theorem deserialize_captured_literal :
    let engine : Engine := { settings := { invalid := .literal } }
    ∃ s i e stored why, create [engine] none = .ok s ∧ s.Reachable ∧
      (s.perform (.capture 0 "\x7ba" [.int 1])).answer = .ok (.event i e) ∧
      e.serialize = .ok stored ∧
      ((s.perform (.capture 0 "\x7ba" [.int 1])).session.perform
        (.deserialize 0 stored)).answer = .error (.engine (.revive (.parse (.rejected why)))) := by
  intro engine
  have hcreate : create [engine] none = .ok _ := rfl
  obtain ⟨station, hstation, hengine⟩ := itemAt?_zero_of_create hcreate
  have hs := (reachable_of_create hcreate).1
  obtain ⟨why, hparse⟩ : ∃ why, Template.parse "\x7ba" = .error (.rejected why) :=
    rejected_of_length_le (by decide) (by decide +kernel)
  have hmeaning : station.engine.meaning "\x7ba" = .ok (.literal "\x7ba") := by
    rw [Engine.meaning, hparse, hengine]
  obtain ⟨i, hi⟩ := hs.sound.capture_of_meaning hstation hmeaning [.int 1]
  rw [bind_literal] at hi
  have hafter := (hs.perform (.capture 0 "\x7ba" [.int 1])).sound
  obtain ⟨_, hstation', _⟩ := exists_station_perform hstation (.capture 0 "\x7ba" [.int 1])
  exact ⟨_, i, _, _, why, hcreate, hs, hi, rfl, hafter.deserialize_literal hstation' hparse⟩

end Session

end EventTemplate
