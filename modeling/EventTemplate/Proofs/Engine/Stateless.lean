import EventTemplate.Engine.Basic
import EventTemplate.Proofs.Cache.Sound

/-
  What an engine answers, said without its stores. A raw template has a meaning under settings
  alone, and so have an event that is captured, a text that is formatted and a serialized event.
  Of what keeps a raw template from being parsed an engine passes on all but the rejections that it
  takes as literal.

  Proved: on sound stores, those that remember nothing but what parsing would bring, every
  operation answers by the meaning (`parse_eq_meaning`, `capture_eq_capturing`,
  `format_eq_formatting`, `revive_eq_reviving`) and leaves sound stores (`Sound.parse`,
  `Sound.revive`). Serial numbers are left out, as nothing else tells two instances of one template
  apart.
-/

namespace EventTemplate

/-! ## Answers without stores -/

namespace Engine

/-- The template that a raw template stands for under an engine's settings. -/
def meaning (e : Engine) (raw : String) : Except EngineError Template :=
  match Template.parse raw with
  | .ok t => .ok t
  | .error (.decimal why) => .error (.parse (.decimal why))
  | .error (.rejected why) => match e.settings.invalid with
    | .report => .error (.parse (.rejected why))
    | .literal => .ok (.literal raw)

/-- The event that a raw template and arguments stand for, with its template. -/
def capturing (e : Engine) (raw : String) (args : List Value) :
    Except EngineError (Template × Event) :=
  (e.meaning raw).map fun t => (t, .bind t args)

/-- The text that a raw template and arguments stand for. -/
def formatting (e : Engine) (raw : String) (args : List Value) : Except EngineError String :=
  (e.meaning raw).bind fun t => e.render (.bind t args)

/-- The event that a serialized event stands for whatever the settings are, with its template. -/
def reviving (stored : Serialized) : Except EngineError (Template × Event) :=
  match stored.checked with
  | .error why => .error (.revive why)
  | .ok raw => match Template.parse raw with
    | .ok t => ((stored.fill t).map (t, ·)).mapError (.revive ∘ .decimal)
    | .error why => .error (.revive (.parse why))

/-- Whether an engine passes on what keeps a raw template from being parsed. -/
def PassesOn (e : Engine) : ParseError → Prop
  | .rejected _ => e.settings.invalid = .report
  | .decimal _ => True

/-! ## Sound stores -/

/-- What an engine may remember as literal: a raw template that is rejected, as it stands, and only
if that is the policy. -/
structure FallsBack (e : Engine) (raw : String) (i : Instance) : Prop where
  policy : e.settings.invalid = .literal
  template : i.template = .literal raw
  rejected : ∃ why, Template.parse raw = .error (.rejected why)

/-- Stores that hold for an engine nothing but what it would make anew. -/
structure Sound (e : Engine) (s : Stores) : Prop where
  cache : s.cache.Sound
  literals : s.literals.All e.FallsBack

theorem FallsBack.meaning {e : Engine} {raw : String} {i : Instance} (h : e.FallsBack raw i) :
    e.meaning raw = .ok i.template := by
  obtain ⟨why, hw⟩ := h.rejected
  rw [Engine.meaning, hw, h.template]
  dsimp only
  rw [h.policy]

variable {e : Engine} {s : Stores} {raw : String}

theorem meaning_of_passesOn {why : ParseError} (hw : Template.parse raw = .error why)
    (hp : e.PassesOn why) : e.meaning raw = .error (.parse why) := by
  rw [meaning, hw]
  cases why with
  | rejected why =>
    have hp : e.settings.invalid = .report := hp
    dsimp only
    rw [hp]
  | decimal why => rfl

/-! ## Parsing -/

/-- The stores after the cache was asked. -/
theorem fetch_eq (s : Stores) (raw : String) :
    s.fetch raw = ((s.cache.fetch s.nextSerial raw).answer,
      { s with
        cache := (s.cache.fetch s.nextSerial raw).cache
        nextSerial := s.nextSerial + 1 },
      (s.cache.fetch s.nextSerial raw).records) :=
  rfl

/-- All that parsing can do: find a literal template, get an instance from the cache, or, where the
cache has none to give, pass that on or make a literal template. -/
theorem parse_cases (e : Engine) (s : Stores) (raw : String) :
    (∃ i, s.literals.get? raw = some i ∧
      e.parse s raw = ⟨.ok i, { s with literals := s.literals.touch raw }, []⟩) ∨
    (∃ i, s.literals.get? raw = none ∧ (s.cache.fetch s.nextSerial raw).answer = .ok i ∧
      e.parse s raw = ⟨.ok i, (s.fetch raw).2.1, (s.fetch raw).2.2⟩) ∨
    (∃ why, s.literals.get? raw = none ∧ (s.cache.fetch s.nextSerial raw).answer = .error why ∧
      e.PassesOn why ∧
      e.parse s raw = ⟨.error (.parse why), (s.fetch raw).2.1, (s.fetch raw).2.2⟩) ∨
    ∃ why, s.literals.get? raw = none ∧
      (s.cache.fetch s.nextSerial raw).answer = .error (.rejected why) ∧
      e.settings.invalid = .literal ∧
      e.parse s raw = ⟨.ok ((s.fetch raw).2.1.makeLiteral raw).1,
        ((s.fetch raw).2.1.makeLiteral raw).2,
        (s.fetch raw).2.2 ++ [.literal raw why.message]⟩ := by
  unfold Engine.parse
  cases hl : s.literals.get? raw with
  | some i => exact .inl ⟨i, rfl, rfl⟩
  | none =>
    rw [fetch_eq]
    dsimp only
    cases ha : (s.cache.fetch s.nextSerial raw).answer with
    | ok i => exact .inr (.inl ⟨i, rfl, rfl, rfl⟩)
    | error why =>
      cases why with
      | decimal why => exact .inr (.inr (.inl ⟨.decimal why, rfl, rfl, trivial, rfl⟩))
      | rejected why =>
        cases hp : e.settings.invalid with
        | report => exact .inr (.inr (.inl ⟨.rejected why, rfl, rfl, hp, rfl⟩))
        | literal => exact .inr (.inr (.inr ⟨why, rfl, rfl, rfl, rfl⟩))

/-- On sound stores a raw template is answered by its meaning. -/
theorem parse_eq_meaning (h : e.Sound s) (raw : String) :
    (e.parse s raw).answer.map Instance.template = e.meaning raw := by
  have hanswer := h.cache.answer_fetch s.nextSerial raw
  rcases parse_cases e s raw with ⟨i, hl, hp⟩ | ⟨i, _, ha, hp⟩ | ⟨why, _, ha, hi, hp⟩ |
    ⟨why, _, ha, hi, hp⟩
  · rw [hp]
    exact (h.literals.get? hl).meaning.symm
  · rw [ha] at hanswer
    rw [hp, meaning, ← hanswer]
    rfl
  · rw [ha] at hanswer
    rw [hp, meaning_of_passesOn hanswer.symm hi]
    rfl
  · rw [ha] at hanswer
    rw [hp, meaning, ← hanswer, hi]
    rfl

theorem Sound.fetch (h : e.Sound s) (raw : String) : e.Sound (s.fetch raw).2.1 :=
  ⟨h.cache.fetch s.nextSerial raw, h.literals⟩

theorem Sound.makeLiteral (h : e.Sound s) (hp : e.settings.invalid = .literal) {why : Rejection}
    (hw : Template.parse raw = .error (.rejected why)) : e.Sound (s.makeLiteral raw).2 :=
  ⟨h.cache, h.literals.insert ⟨hp, rfl, why, hw⟩⟩

theorem Sound.parse (h : e.Sound s) (raw : String) : e.Sound (e.parse s raw).stores := by
  have hanswer := h.cache.answer_fetch s.nextSerial raw
  rcases parse_cases e s raw with ⟨i, _, hp⟩ | ⟨i, _, _, hp⟩ | ⟨why, _, _, _, hp⟩ |
    ⟨why, _, ha, hi, hp⟩
  · rw [hp]
    exact ⟨h.cache, h.literals.touch raw⟩
  · rw [hp]
    exact h.fetch raw
  · rw [hp]
    exact h.fetch raw
  · rw [ha] at hanswer
    rw [hp]
    exact (h.fetch raw).makeLiteral hi hanswer.symm

/-! ## Capturing, formatting and reviving -/

theorem capture_eq_capturing (h : e.Sound s) (raw : String) (args : List Value) :
    (e.capture s raw args).answer.map (fun a => (a.1.template, a.2)) = e.capturing raw args := by
  rw [capturing, ← parse_eq_meaning h, capture, Outcome.map]
  cases (e.parse s raw).answer <;> rfl

theorem Sound.capture (h : e.Sound s) (raw : String) (args : List Value) :
    e.Sound (e.capture s raw args).stores :=
  h.parse raw

theorem format_eq_formatting (h : e.Sound s) (raw : String) (args : List Value) :
    (e.format s raw args).answer = e.formatting raw args := by
  rw [formatting, ← parse_eq_meaning h, format, capture, Outcome.map, Outcome.map]
  cases (e.parse s raw).answer <;> rfl

theorem Sound.format (h : e.Sound s) (raw : String) (args : List Value) :
    e.Sound (e.format s raw args).stores :=
  h.parse raw

theorem revive_of_checked {stored : Serialized} (h : stored.checked = .ok raw) :
    e.revive s stored =
      ⟨match (s.cache.fetch s.nextSerial raw).answer with
        | .ok i => ((stored.fill i.template).map (i, ·)).mapError (.revive ∘ .decimal)
        | .error why => .error (.revive (.parse why)),
        (s.fetch raw).2.1, (s.fetch raw).2.2⟩ := by
  rw [Engine.revive, h]
  dsimp only
  rw [fetch_eq]
  dsimp only
  cases (s.cache.fetch s.nextSerial raw).answer <;> rfl

theorem revive_of_unchecked {stored : Serialized} {why : ReviveError}
    (h : stored.checked = .error why) : e.revive s stored = ⟨.error (.revive why), s, []⟩ := by
  rw [Engine.revive, h]

/-- On a sound cache a serialized event is answered by its meaning, whatever the engine. -/
theorem revive_eq_reviving (e : Engine) (h : s.cache.Sound) (stored : Serialized) :
    (e.revive s stored).answer.map (fun a => (a.1.template, a.2)) = reviving stored := by
  cases hc : stored.checked with
  | error why =>
    rw [revive_of_unchecked hc, reviving, hc]
    rfl
  | ok raw =>
    rw [revive_of_checked hc, reviving, hc]
    dsimp only
    rw [← h.answer_fetch s.nextSerial raw]
    cases (s.cache.fetch s.nextSerial raw).answer with
    | error why => rfl
    | ok i =>
      dsimp only [Except.map]
      cases stored.fill i.template <;> rfl

theorem Sound.revive (h : e.Sound s) (stored : Serialized) :
    e.Sound (e.revive s stored).stores := by
  cases hc : stored.checked with
  | error why =>
    rw [revive_of_unchecked hc]
    exact h
  | ok raw =>
    rw [revive_of_checked hc]
    exact h.fetch raw

end Engine

end EventTemplate
