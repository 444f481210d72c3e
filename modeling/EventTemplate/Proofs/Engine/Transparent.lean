import EventTemplate.Proofs.Engine.Reachable

/-
  Caches cannot be noticed. What was done in a session, by whichever engines on whichever caches,
  has no bearing on what an engine answers: it answers as one that was just made.

  Proved (`answers_transparent`), for every session that engines come to: each engine answers each
  question as a new engine of the same settings does, serial numbers apart; what a cache holds is
  what its raw template parses to; what is remembered as literal is rejected by the parser and in
  no cache, and the engines that report rejections still report it.

  Both engines, the old and the new, are compared with answers that need no stores
  (`Sound.answer_put`).
-/

namespace EventTemplate

/-! ## Questions and answers -/

/-- What an engine can be asked for. -/
inductive Question where
  | parse (raw : String)
  | capture (raw : String) (args : List Value)
  | format (raw : String) (args : List Value)
  | deserialize (stored : Serialized)

/-- The action of putting a question to an engine. -/
def Question.put (on : Int) : Question → Action
  | parse raw => .parse on raw
  | capture raw args => .capture on raw args
  | format raw args => .format on raw args
  | deserialize stored => .deserialize on stored

/-- The raw template that a question is about, if it gets as far as that. -/
def Question.raw? : Question → Option String
  | parse raw => some raw
  | capture raw _ => some raw
  | format raw _ => some raw
  | deserialize stored => stored.checked.toOption

/-- How a question fails if its raw template cannot be parsed. -/
def Question.refusal (why : ParseError) : Question → EngineError
  | deserialize _ => .revive (.parse why)
  | _ => .parse why

/-- An answer without the serial number of its instance. -/
def Answer.unnumbered : Answer → Answer
  | template i => template { i with serial := 0 }
  | event i e => event { i with serial := 0 } e
  | answer => answer

/-- What an engine answers that remembers nothing. -/
def Engine.answer (e : Engine) : Question → Except EngineError Answer
  | .parse raw => (e.meaning raw).map fun t => .template ⟨0, t⟩
  | .capture raw args => (e.capturing raw args).map fun a => .event ⟨0, a.1⟩ a.2
  | .format raw args => (e.formatting raw args).map .text
  | .deserialize stored => (reviving stored).map fun a => .event ⟨0, a.1⟩ a.2

/-- What an engine passes on, it passes on whatever the question. -/
theorem Engine.answer_of_passesOn {e : Engine} {raw : String} {why : ParseError}
    (hw : Template.parse raw = .error why) (hp : e.PassesOn why) {q : Question}
    (hq : q.raw? = some raw) : e.answer q = .error (q.refusal why) := by
  have hmeaning := Engine.meaning_of_passesOn hw hp
  cases q with
  | parse raw' =>
    cases hq
    rw [Engine.answer, hmeaning]
    rfl
  | capture raw' args =>
    cases hq
    rw [Engine.answer, Engine.capturing, hmeaning]
    rfl
  | format raw' args =>
    cases hq
    rw [Engine.answer, Engine.formatting, hmeaning]
    rfl
  | deserialize stored =>
    have hc : stored.checked = .ok raw := by
      rw [Question.raw?] at hq
      cases hc : stored.checked with
      | error why' =>
        rw [hc] at hq
        cases hq
      | ok raw' =>
        rw [hc] at hq
        cases hq
        rfl
    rw [Engine.answer, Engine.reviving, hc]
    dsimp only
    rw [hw]
    rfl

namespace Session

variable {s : Session}

/-- The engine of a number in a sound session answers as if it remembered nothing. -/
theorem Sound.answer_put (h : s.Sound) {on : Int} {station : Station}
    (hs : itemAt? s.stations on = some station) (q : Question) :
    (s.perform (q.put on)).answer.map Answer.unnumbered =
      (station.engine.answer q).mapError .engine := by
  obtain ⟨place, stores, hstores⟩ := h.stores? hs
  have he := h.engine hstores
  cases q with
  | parse raw =>
    rw [Question.put, Session.perform, work_of_stores hstores, Engine.answer,
      ← Engine.parse_eq_meaning he raw]
    cases (station.engine.parse stores raw).answer <;> rfl
  | capture raw args =>
    rw [Question.put, Session.perform, answer_keepEvent, work_of_stores hstores, Engine.answer,
      ← Engine.capture_eq_capturing he raw args]
    cases (station.engine.capture stores raw args).answer <;> rfl
  | format raw args =>
    rw [Question.put, Session.perform, work_of_stores hstores, Engine.answer,
      ← Engine.format_eq_formatting he raw args]
    cases (station.engine.format stores raw args).answer <;> rfl
  | deserialize stored =>
    rw [Question.put, Session.perform, answer_keepEvent, work_of_stores hstores, Engine.answer,
      ← Engine.revive_eq_reviving station.engine he.cache stored]
    cases (station.engine.revive stores stored).answer <;> rfl

/-- An event that an engine answers with, it answers with in every sound session, as one instance or
another. -/
theorem Sound.event_of_answer (h : s.Sound) {on : Int} {station : Station}
    (hs : itemAt? s.stations on = some station) {q : Question} {i : Instance} {e : Event}
    (hq : station.engine.answer q = .ok (.event i e)) :
    ∃ i', (s.perform (q.put on)).answer = .ok (.event i' e) := by
  have hanswer := h.answer_put hs q
  rw [hq] at hanswer
  cases hperform : (s.perform (q.put on)).answer with
  | error why =>
    rw [hperform] at hanswer
    cases hanswer
  | ok a =>
    rw [hperform] at hanswer
    have hevent : a.unnumbered = .event i e := Except.ok.inj hanswer
    cases a with
    | event i' e' => exact ⟨i', congrArg _ (congrArg _ (Answer.event.inj hevent).2)⟩
    | _ => cases hevent

theorem Sound.error_of_answer (h : s.Sound) {on : Int} {station : Station}
    (hs : itemAt? s.stations on = some station) {q : Question} {why : EngineError}
    (hq : station.engine.answer q = .error why) :
    (s.perform (q.put on)).answer = .error (.engine why) := by
  have hanswer := h.answer_put hs q
  rw [hq] at hanswer
  cases hperform : (s.perform (q.put on)).answer with
  | ok a =>
    rw [hperform] at hanswer
    cases hanswer
  | error why' =>
    rw [hperform] at hanswer
    cases hanswer
    rfl

/-! ## New engines -/

theorem create_of_createLiterals {settings : Settings} {literals : Recent Instance}
    (h : Engine.createLiterals settings = .ok literals) :
    ∃ c, Cache.create settings.cacheSize = .ok c := by
  unfold Engine.createLiterals at h
  split at h
  · cases h
  · rename_i hfits
    split at h
    · cases h
    · rename_i hneg
      have hle : ¬ (greatestSize : Int) < settings.cacheSize := by
        have hfits : fitsWord settings.cacheSize = true := by simpa using hfits
        unfold fitsWord at hfits
        have := of_decide_eq_true (Bool.and_eq_true_iff.mp hfits).2
        omega
      exact ⟨_, by rw [Cache.create, if_neg hneg, if_neg hle]⟩

/-- What an engine of a session needs can be made again. -/
theorem Sound.exists_fresh (h : s.Sound) {station : Station} (hs : station ∈ s.stations) :
    ∃ fresh, create [station.engine] none = .ok fresh := by
  obtain ⟨literals, hl⟩ := h.sized station hs
  obtain ⟨c, hc⟩ := create_of_createLiterals hl
  have hcreate : create [station.engine] none =
      (Session.addEngine false { caches := [], stations := [] } station.engine).bind .ok := rfl
  rw [hcreate, Session.addEngine, cacheFor, if_neg Bool.false_ne_true, hc, hl]
  exact ⟨_, rfl⟩

theorem itemAt?_zero_of_create {e : Engine} {shared : Option Int} {fresh : Session}
    (h : create [e] shared = .ok fresh) :
    ∃ station, itemAt? fresh.stations 0 = some station ∧ station.engine = e := by
  obtain ⟨station, hstations, he⟩ := List.map_eq_singleton_iff.mp (reachable_of_create h).2
  refine ⟨station, ?_, he⟩
  rw [hstations]
  rfl

/-- What was done in a session cannot be noticed. Each of its engines answers each question as a
new engine with the same settings and formatter does, on an empty cache, serial numbers apart.
What a cache holds is what its raw template parses to. What an engine remembers as literal is the
raw template as it stands, which the parser rejects and no cache holds, and which engines that
report rejections still reject. -/
theorem answers_transparent (h : s.Reachable) :
    (∀ on station, itemAt? s.stations on = some station →
      (∃ fresh, create [station.engine] none = .ok fresh) ∧
      ∀ shared fresh, create [station.engine] shared = .ok fresh → ∀ q : Question,
        (s.perform (q.put on)).answer.map Answer.unnumbered =
          (fresh.perform (q.put 0)).answer.map Answer.unnumbered) ∧
    (∀ c ∈ s.caches, ∀ raw i, (raw, i) ∈ c.store.entries → Template.parse raw = .ok i.template) ∧
    ∀ station ∈ s.stations, ∀ raw i, (raw, i) ∈ station.literals.entries →
      i.template = .literal raw ∧ (∀ c ∈ s.caches, raw ∉ c.store.keys) ∧
      ∃ why, Template.parse raw = .error (.rejected why) ∧
        ∀ on other, itemAt? s.stations on = some other → other.engine.settings.invalid = .report →
          ∀ q : Question, q.raw? = some raw →
            (s.perform (q.put on)).answer = .error (.engine (q.refusal (.rejected why))) := by
  have hsound := h.sound
  refine ⟨fun on station hs => ⟨?_, fun shared fresh hf q => ?_⟩, hsound.caches,
    fun station hs raw i hi => ?_⟩
  · obtain ⟨place, _, hst⟩ := Option.bind_eq_some_iff.mp hs
    exact hsound.exists_fresh (List.mem_of_getElem? hst)
  · obtain ⟨station', hs', he⟩ := itemAt?_zero_of_create hf
    rw [hsound.answer_put hs q, (reachable_of_create hf).1.sound.answer_put hs' q, he]
  · obtain ⟨_, htemplate, why, hw⟩ := hsound.literals station hs raw i hi
    refine ⟨htemplate, fun c hc => (hsound.caches c hc).not_mem_keys hw, why, hw, ?_⟩
    intro on other ho hp q hq
    exact hsound.error_of_answer ho (Engine.answer_of_passesOn hw hp hq)

/-- Of two engines on one small cache, the first takes a rejected raw template as literal. The
second still answers as a new engine does. -/
theorem answers_transparent_shared :
    let taking : Engine := { settings := { cacheSize := 1, invalid := .literal } }
    let reporting : Engine := { settings := { cacheSize := 1 } }
    ∃ start fresh, create [taking, reporting] (some 1) = .ok start ∧
      create [reporting] none = .ok fresh ∧
      let s := ((start.perform (.format 1 "a" [])).session.perform (.parse 0 "{}")).session
      s.Reachable ∧ s.cached = [1, 1] ∧ s.stations.map (·.literals.keys) = [["{}"], []] ∧
        ∀ q : Question, (s.perform (q.put 1)).answer.map Answer.unnumbered =
          (fresh.perform (q.put 0)).answer.map Answer.unnumbered := by
  intro taking reporting
  refine ⟨_, _, rfl, rfl, ?_⟩
  intro s
  have hs : s.Reachable := by
    have hcreate := reachable_of_create (rfl : create [taking, reporting] (some 1) = .ok _)
    exact (hcreate.1.perform (.format 1 "a" [])).perform (.parse 0 "{}")
  have hstation : itemAt? s.stations 1 = some ⟨reporting, 0, _⟩ := rfl
  exact ⟨hs, by decide +kernel, by decide +kernel,
    ((answers_transparent hs).1 1 _ hstation).2 none _ rfl⟩

end Session

end EventTemplate
