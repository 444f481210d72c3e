import EventTemplate.Proofs.Cache.History
import EventTemplate.Proofs.Engine.Transparent
import EventTemplate.Proofs.Event.Serialize

/-
  What a failure leaves behind. A question to an engine fails if its raw template cannot be parsed
  and that is passed on, and a serialized event cannot be revived if its version is not known, if it
  has no raw template, or if that cannot be parsed (`Question.Fails`). On the way to such a failure
  the engine looks into its literal templates and asks its cache, and both reorder what they hold
  when they find something.

  Proved, for all sessions: such a failure changes no cache, no literal template and no event, and
  except for the failures of rendering there is no other (`failure_untouched`). What cannot be
  parsed is never found on the way (`Engine.fetch_of_error`, `Engine.Sound.parse_of_passesOn`), and
  a version that is not known is noticed before anything else is looked at.
-/

namespace EventTemplate

/-! ## Failures -/

/-- The failures of a question to an engine, with their reasons. The version of a serialized event
comes first, and then that there is a raw template. -/
inductive Question.Fails (e : Engine) : Question → EngineError → Prop where
  | parse {raw : String} {why : ParseError} (hw : Template.parse raw = .error why)
      (hp : e.PassesOn why) : Fails e (.parse raw) (.parse why)
  | capture {raw : String} {args : List Value} {why : ParseError}
      (hw : Template.parse raw = .error why) (hp : e.PassesOn why) :
      Fails e (.capture raw args) (.parse why)
  | format {raw : String} {args : List Value} {why : ParseError}
      (hw : Template.parse raw = .error why) (hp : e.PassesOn why) :
      Fails e (.format raw args) (.parse why)
  | newerVersion {stored : Serialized} {v : Value} (hv : stored.version = some v)
      (hn : Serialized.newer? v = some true) :
      Fails e (.deserialize stored) (.revive (.newerVersion v))
  | unorderedVersion {stored : Serialized} {v : Value} (hv : stored.version = some v)
      (hn : Serialized.newer? v = none) :
      Fails e (.deserialize stored) (.revive (.unorderedVersion v))
  | missingTemplate {stored : Serialized}
      (hv : ∀ v, stored.version = some v → Serialized.newer? v = some false)
      (ht : stored.template = none) : Fails e (.deserialize stored) (.revive .missingTemplate)
  | unparsed {stored : Serialized} {raw : String} {why : ParseError}
      (hv : ∀ v, stored.version = some v → Serialized.newer? v = some false)
      (ht : stored.template = some raw) (hw : Template.parse raw = .error why) :
      Fails e (.deserialize stored) (.revive (.parse why))

namespace Serialized

variable {stored : Serialized} {raw : String} {v : Value} {why : ReviveError}

/-- Where the version is known, the raw template is all that matters. -/
theorem checked_of_known (hv : ∀ v, stored.version = some v → newer? v = some false) :
    stored.checked = checked.template stored := by
  unfold checked
  cases hversion : stored.version with
  | none => rfl
  | some v =>
    dsimp only
    rw [hv v hversion]

theorem checked_of_missing (hv : ∀ v, stored.version = some v → newer? v = some false)
    (ht : stored.template = none) : stored.checked = .error .missingTemplate := by
  rw [checked_of_known hv, checked.template, ht]

theorem checked_of_template (hv : ∀ v, stored.version = some v → newer? v = some false)
    (ht : stored.template = some raw) : stored.checked = .ok raw := by
  rw [checked_of_known hv, checked.template, ht]

theorem checked_of_newer (hv : stored.version = some v) (hn : newer? v = some true) :
    stored.checked = .error (.newerVersion v) := by
  unfold checked
  rw [hv]
  dsimp only
  rw [hn]

theorem checked_of_unordered (hv : stored.version = some v) (hn : newer? v = none) :
    stored.checked = .error (.unorderedVersion v) := by
  unfold checked
  rw [hv]
  dsimp only
  rw [hn]

/-- All that checking a serialized event can bring. -/
theorem checked_cases (stored : Serialized) :
    (∃ v, stored.version = some v ∧ newer? v = some true ∧
      stored.checked = .error (.newerVersion v)) ∨
    (∃ v, stored.version = some v ∧ newer? v = none ∧
      stored.checked = .error (.unorderedVersion v)) ∨
    (∀ v, stored.version = some v → newer? v = some false) ∧
      (stored.template = none ∧ stored.checked = .error .missingTemplate ∨
        ∃ raw, stored.template = some raw ∧ stored.checked = .ok raw) := by
  by_cases hv : ∀ v, stored.version = some v → newer? v = some false
  · refine .inr (.inr ⟨hv, ?_⟩)
    cases ht : stored.template with
    | none => exact .inl ⟨rfl, checked_of_missing hv ht⟩
    | some raw => exact .inr ⟨raw, rfl, checked_of_template hv ht⟩
  · obtain ⟨v, hv⟩ := not_forall.mp hv
    obtain ⟨hversion, hnewer⟩ := Classical.not_imp.mp hv
    cases hn : newer? v with
    | none => exact .inr (.inl ⟨v, hversion, hn, checked_of_unordered hversion hn⟩)
    | some newer =>
      cases newer with
      | false => exact absurd hn hnewer
      | true => exact .inl ⟨v, hversion, hn, checked_of_newer hversion hn⟩

/-- A serialized event that is not checked with success fails to be revived, whatever the engine. -/
theorem fails_of_checked (h : stored.checked = .error why) (e : Engine) :
    (Question.deserialize stored).Fails e (.revive why) := by
  rcases stored.checked_cases with ⟨v, hv, hn, hc⟩ | ⟨v, hv, hn, hc⟩ |
    ⟨hv, ⟨ht, hc⟩ | ⟨raw, _, hc⟩⟩ <;> rw [h] at hc <;> cases hc
  · exact .newerVersion hv hn
  · exact .unorderedVersion hv hn
  · exact .missingTemplate hv ht

theorem of_checked (h : stored.checked = .ok raw) :
    (∀ v, stored.version = some v → newer? v = some false) ∧ stored.template = some raw := by
  rcases stored.checked_cases with ⟨v, _, _, hc⟩ | ⟨v, _, _, hc⟩ |
    ⟨hv, ⟨_, hc⟩ | ⟨raw', ht, hc⟩⟩ <;> rw [h] at hc <;> cases hc
  exact ⟨hv, ht⟩

end Serialized

/-! ## What an engine does when it fails -/

namespace Engine

variable {e : Engine} {s : Stores} {raw : String} {why : ParseError}

/-- A raw template that cannot be parsed costs a serial number and nothing else. -/
theorem fetch_of_error (hc : s.cache.Sound) (hw : Template.parse raw = .error why) :
    s.fetch raw =
      (.error why, { s with nextSerial := s.nextSerial + 1 }, Cache.refusal raw why) := by
  have hnone := Cache.get?_of_not_mem (hc.not_mem_keys hw)
  rw [fetch_eq, Cache.fetch_of_error hnone hw]

/-- What is passed on is not remembered as literal. -/
theorem Sound.get?_of_passesOn (h : e.Sound s) (hw : Template.parse raw = .error why)
    (hp : e.PassesOn why) : s.literals.get? raw = none := by
  cases hget : s.literals.get? raw with
  | none => rfl
  | some i =>
    have hmeaning := (h.literals.get? hget).meaning
    rw [meaning_of_passesOn hw hp] at hmeaning
    cases hmeaning

theorem Sound.parse_of_passesOn (h : e.Sound s) (hw : Template.parse raw = .error why)
    (hp : e.PassesOn why) :
    e.parse s raw =
      ⟨.error (.parse why), { s with nextSerial := s.nextSerial + 1 }, Cache.refusal raw why⟩ := by
  rw [Engine.parse, h.get?_of_passesOn hw hp, fetch_of_error h.cache hw]
  cases why with
  | rejected why =>
    have hp : e.settings.invalid = .report := hp
    dsimp only
    rw [hp]
  | decimal why => rfl

theorem Sound.capture_of_passesOn (h : e.Sound s) (hw : Template.parse raw = .error why)
    (hp : e.PassesOn why) (args : List Value) :
    e.capture s raw args =
      ⟨.error (.parse why), { s with nextSerial := s.nextSerial + 1 }, Cache.refusal raw why⟩ := by
  rw [Engine.capture, h.parse_of_passesOn hw hp]
  rfl

theorem Sound.format_of_passesOn (h : e.Sound s) (hw : Template.parse raw = .error why)
    (hp : e.PassesOn why) (args : List Value) :
    e.format s raw args =
      ⟨.error (.parse why), { s with nextSerial := s.nextSerial + 1 }, Cache.refusal raw why⟩ := by
  rw [Engine.format, h.capture_of_passesOn hw hp]
  rfl

theorem revive_of_unparsed {stored : Serialized} (hc : s.cache.Sound)
    (hchecked : stored.checked = .ok raw) (hw : Template.parse raw = .error why) :
    e.revive s stored =
      ⟨.error (.revive (.parse why)), { s with nextSerial := s.nextSerial + 1 },
        Cache.refusal raw why⟩ := by
  rw [Engine.revive, hchecked]
  dsimp only
  rw [fetch_of_error hc hw]

/-- A raw template has no meaning only if it cannot be parsed and that is passed on. -/
theorem of_meaning_error {failure : EngineError} (h : e.meaning raw = .error failure) :
    ∃ why, failure = .parse why ∧ Template.parse raw = .error why ∧ e.PassesOn why := by
  unfold meaning at h
  split at h
  · cases h
  · rename_i why hw
    cases h
    exact ⟨_, rfl, hw, trivial⟩
  · rename_i why hw
    split at h
    · rename_i hp
      cases h
      exact ⟨_, rfl, hw, hp⟩
    · cases h

theorem error_of_map {α β : Type} {x : Except EngineError α} {f : α → β} {failure : EngineError}
    (h : x.map f = .error failure) : x = .error failure := by
  cases x with
  | ok a => cases h
  | error failure' => exact congrArg Except.error (Except.error.inj h)

/-- An event has no text only if its raw template has no meaning, or it cannot be rendered. -/
theorem of_formatting_error {args : List Value} {failure : EngineError}
    (h : e.formatting raw args = .error failure) :
    e.meaning raw = .error failure ∨ ∃ r, failure = .render r := by
  cases hm : e.meaning raw with
  | ok t =>
    rw [formatting, hm] at h
    cases hr : e.renderer.render e.formatter (.bind t args) with
    | ok text =>
      rw [Except.bind, render, Option.getD_none, hr] at h
      cases h
    | error r =>
      rw [Except.bind, render, Option.getD_none, hr] at h
      cases h
      exact .inr ⟨r, rfl⟩
  | error failure' =>
    rw [formatting, hm] at h
    cases h
    exact .inl rfl

/-- A serialized event is revived if it is checked with success and its raw template is parsed: the
designators of what was parsed can be written. -/
theorem fails_of_reviving {stored : Serialized} {failure : EngineError}
    (h : reviving stored = .error failure) (e : Engine) :
    (Question.deserialize stored).Fails e failure := by
  rw [reviving] at h
  cases hc : stored.checked with
  | error why =>
    rw [hc] at h
    cases h
    exact Serialized.fails_of_checked hc e
  | ok raw =>
    obtain ⟨hv, ht⟩ := Serialized.of_checked hc
    rw [hc] at h
    dsimp only at h
    cases hw : Template.parse raw with
    | ok t =>
      rw [hw] at h
      dsimp only at h
      rw [fill_eq_collect (designators_short_of_parse hw)] at h
      cases h
    | error why =>
      rw [hw] at h
      cases h
      exact .unparsed hv ht hw

/-- Questions fail in no other way, except where an event cannot be rendered. -/
theorem fails_of_answer {q : Question} {failure : EngineError} (h : e.answer q = .error failure) :
    q.Fails e failure ∨ ∃ r, failure = .render r := by
  cases q with
  | parse raw =>
    obtain ⟨why, rfl, hw, hp⟩ := of_meaning_error (error_of_map h)
    exact .inl (.parse hw hp)
  | capture raw args =>
    obtain ⟨why, rfl, hw, hp⟩ := of_meaning_error (error_of_map (error_of_map h))
    exact .inl (.capture hw hp)
  | format raw args =>
    rcases of_formatting_error (error_of_map h) with hm | hr
    · obtain ⟨why, rfl, hw, hp⟩ := of_meaning_error hm
      exact .inl (.format hw hp)
    · exact .inr hr
  | deserialize stored => exact .inl (fails_of_reviving (error_of_map h) e)

end Engine

/-! ## What a session does when an engine fails -/

/-- Putting an item in its own place changes nothing. -/
theorem set_of_getElem? {α : Type} {xs : List α} {n : Nat} {x : α} (h : xs[n]? = some x) :
    xs.set n x = xs := by
  obtain ⟨_, rfl⟩ := List.getElem?_eq_some_iff.mp h
  exact List.set_getElem_self _

namespace Session

variable {s : Session} {on : Int} {station : Station}

theorem work_of_failure {α : Type} {job : Engine → Stores → Outcome α} {answer : α → Answer}
    {place nextSerial : Nat} {stores : Stores} {why : EngineError} {records : List Record}
    (hs : s.stores? on = some (place, station, stores))
    (ho : job station.engine stores = ⟨.error why, { stores with nextSerial }, records⟩) :
    s.work on job answer = ⟨.error (.engine why), { s with nextSerial }, records⟩ := by
  obtain ⟨_, hst, cache, hcache, rfl⟩ := stores?_eq_some_iff.mp hs
  rw [work_of_stores hs, ho, update]
  dsimp only
  rw [set_of_getElem? hcache, set_of_getElem? hst]
  rfl

/-- A serialized event that is not checked with success is not looked for anywhere. -/
theorem Sound.perform_of_unchecked (h : s.Sound) (hs : itemAt? s.stations on = some station)
    {stored : Serialized} {why : ReviveError} (hc : stored.checked = .error why) :
    s.perform (.deserialize on stored) = ⟨.error (.engine (.revive why)), s, []⟩ := by
  obtain ⟨place, stores, hstores⟩ := h.stores? hs
  obtain ⟨_, _, cache, _, rfl⟩ := stores?_eq_some_iff.mp hstores
  rw [Session.perform, work_of_failure hstores (Engine.revive_of_unchecked hc)]
  rfl

/-- A failure leaves the session as it was, but for the serial number. -/
theorem Sound.perform_of_fails (h : s.Sound) (hs : itemAt? s.stations on = some station)
    {q : Question} {failure : EngineError} (hq : q.Fails station.engine failure) :
    ∃ nextSerial records, s.perform (q.put on) =
      ⟨.error (.engine failure), { s with nextSerial }, records⟩ := by
  obtain ⟨place, stores, hstores⟩ := h.stores? hs
  have he := h.engine hstores
  cases hq with
  | @parse raw why hw hp =>
    refine ⟨stores.nextSerial + 1, Cache.refusal raw why, ?_⟩
    rw [Question.put, Session.perform, work_of_failure hstores (he.parse_of_passesOn hw hp)]
  | @capture raw args why hw hp =>
    refine ⟨stores.nextSerial + 1, Cache.refusal raw why, ?_⟩
    rw [Question.put, Session.perform, work_of_failure hstores (he.capture_of_passesOn hw hp args)]
    rfl
  | @format raw args why hw hp =>
    refine ⟨stores.nextSerial + 1, Cache.refusal raw why, ?_⟩
    rw [Question.put, Session.perform, work_of_failure hstores (he.format_of_passesOn hw hp args)]
  | newerVersion hv hn =>
    exact ⟨_, _, h.perform_of_unchecked hs (Serialized.checked_of_newer hv hn)⟩
  | unorderedVersion hv hn =>
    exact ⟨_, _, h.perform_of_unchecked hs (Serialized.checked_of_unordered hv hn)⟩
  | missingTemplate hv ht =>
    exact ⟨_, _, h.perform_of_unchecked hs (Serialized.checked_of_missing hv ht)⟩
  | @unparsed stored raw why hv ht hw =>
    have hrevive := Engine.revive_of_unparsed (e := station.engine) he.cache
      (Serialized.checked_of_template hv ht) hw
    refine ⟨stores.nextSerial + 1, Cache.refusal raw why, ?_⟩
    rw [Question.put, Session.perform, work_of_failure hstores hrevive]
    rfl

/-- What fails leaves everything as it was: a raw template that cannot be parsed and that a cache is
asked for, and every question to an engine that fails for its raw template, or for what a serialized
event is. No cache, no literal template and no event is changed, nor the order in which they were
used. A serialized event is looked at for its version first, then for a raw template, and only then
is that asked for: before that not even a serial number is used up, and nothing is parsed. There are
no other failures, except for events that cannot be rendered. -/
theorem failure_untouched (h : s.Reachable) :
    (∀ c ∈ s.caches, ∀ serial raw why, Template.parse raw = .error why →
      c.fetch serial raw = ⟨.error why, c, Cache.refusal raw why⟩) ∧
    ∀ on station, itemAt? s.stations on = some station →
      (∀ (q : Question) failure, q.Fails station.engine failure →
        let r := s.perform (q.put on)
        r.answer = .error (.engine failure) ∧ r.session.caches = s.caches ∧
          r.session.stations = s.stations ∧ r.session.events = s.events) ∧
      (∀ stored v, stored.version = some v →
        (Serialized.newer? v = some true → s.perform (.deserialize on stored) =
          ⟨.error (.engine (.revive (.newerVersion v))), s, []⟩) ∧
        (Serialized.newer? v = none → s.perform (.deserialize on stored) =
          ⟨.error (.engine (.revive (.unorderedVersion v))), s, []⟩)) ∧
      (∀ stored : Serialized,
        (∀ v, stored.version = some v → Serialized.newer? v = some false) →
        stored.template = none → s.perform (.deserialize on stored) =
          ⟨.error (.engine (.revive .missingTemplate)), s, []⟩) ∧
      ∀ (q : Question) why, (s.perform (q.put on)).answer = .error (.engine why) →
        q.Fails station.engine why ∨ ∃ r, why = .render r := by
  have hsound := h.sound
  refine ⟨fun c hc serial raw why hw => ?_, fun on station hs =>
    ⟨fun q failure hq => ?_, fun stored v hv => ⟨fun hn => ?_, fun hn => ?_⟩,
      fun stored hv ht => ?_, fun q why hq => ?_⟩⟩
  · exact Cache.fetch_of_error (Cache.get?_of_not_mem ((hsound.caches c hc).not_mem_keys hw)) hw
      serial
  · obtain ⟨nextSerial, records, hperform⟩ := hsound.perform_of_fails hs hq
    rw [hperform]
    exact ⟨rfl, rfl, rfl, rfl⟩
  · exact hsound.perform_of_unchecked hs (Serialized.checked_of_newer hv hn)
  · exact hsound.perform_of_unchecked hs (Serialized.checked_of_unordered hv hn)
  · exact hsound.perform_of_unchecked hs (Serialized.checked_of_missing hv ht)
  · have hanswer := hsound.answer_put hs q
    rw [hq] at hanswer
    refine Engine.fails_of_answer ?_
    cases ha : station.engine.answer q with
    | ok a =>
      rw [ha] at hanswer
      cases hanswer
    | error why' =>
      rw [ha] at hanswer
      cases hanswer
      rfl

/-- Two engines on one full cache. A rejected raw template is reported by the one and not revived by
the other, which remembers it as literal; a version that is too new is noticed before the raw
template is missed. -/
theorem failure_untouched_shared :
    let taking : Engine := { settings := { cacheSize := 1, invalid := .literal } }
    let reporting : Engine := { settings := { cacheSize := 1 } }
    ∃ start, create [taking, reporting] (some 1) = .ok start ∧
      let s := ((start.perform (.format 1 "a" [])).session.perform (.parse 0 "{}")).session
      let refused := s.perform (.capture 1 "{}" [])
      let unrevived := s.perform (.deserialize 0 { template := some "{}" })
      s.Reachable ∧ s.caches.map (·.store.keys) = [["a"]] ∧
        s.stations.map (·.literals.keys) = [["{}"], []] ∧
        (refused.session.caches = s.caches ∧ refused.session.stations = s.stations) ∧
        (unrevived.session.caches = s.caches ∧ unrevived.session.stations = s.stations) ∧
        s.perform (.deserialize 0 { version := some (.int 2) }) =
          ⟨.error (.engine (.revive (.newerVersion (.int 2)))), s, []⟩ := by
  intro taking reporting
  refine ⟨_, rfl, ?_⟩
  intro s refused unrevived
  have hs : s.Reachable := by
    have hcreate := reachable_of_create (rfl : create [taking, reporting] (some 1) = .ok _)
    exact (hcreate.1.perform (.format 1 "a" [])).perform (.parse 0 "{}")
  obtain ⟨why, hw⟩ : ∃ why, Template.parse "{}" = .error (.rejected why) :=
    rejected_of_length_le (by decide) (by decide +kernel)
  have htaking : itemAt? s.stations 0 = some ⟨taking, 0, _⟩ := rfl
  have hreporting : itemAt? s.stations 1 = some ⟨reporting, 0, _⟩ := rfl
  obtain ⟨_, hfails⟩ := failure_untouched hs
  obtain ⟨hrefused, _⟩ := hfails 1 _ hreporting
  obtain ⟨hunrevived, hversion, _⟩ := hfails 0 _ htaking
  refine ⟨hs, by decide +kernel, by decide +kernel, ?_, ?_, ?_⟩
  · obtain ⟨_, hcaches, hstations, _⟩ := hrefused (.capture "{}" []) _ (.capture hw rfl)
    exact ⟨hcaches, hstations⟩
  · obtain ⟨_, hcaches, hstations, _⟩ := hunrevived
      (.deserialize { template := some "{}" }) _ (.unparsed nofun rfl hw)
    exact ⟨hcaches, hstations⟩
  · exact (hversion { version := some (.int 2) } _ rfl).1 rfl

end Session

end EventTemplate
