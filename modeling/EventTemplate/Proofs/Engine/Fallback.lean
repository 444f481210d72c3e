import EventTemplate.Proofs.Engine.Failure

/-
  When a rejected raw template is reported as literal text. An engine whose policy that is remembers
  for which raw templates it took them so. Every demand for a rejected one, by parsing, capturing or
  formatting, is a use of its literal template (`fallbacks`), and of these the engine remembers as
  many as it has room for.

  Proved, for a new engine in any session and for all that is done after that
  (`fallback_reported`): what the engine remembers is answered with the instance it was answered
  with before, and neither the cache is asked nor anything reported; what it does not remember is
  parsed once and reported once. One action adds to the uses what it demands of that engine, and
  nothing else (`Remembers.perform`); a history does so by induction (`Remembers.after`). While it
  is remembered, a literal template stays the same instance (`Remembers.takesLiteral_of_after`).

  A number with too many digits is no rejection. So there are raw templates that the grammar does
  not derive and that are neither taken as literal nor reported (`fallback_unreported`).
-/

namespace EventTemplate

/-! ## Asking for a template -/

/-- How an engine can be asked for the template of a raw template. -/
inductive Asking where
  | parse
  | capture (args : List Value)
  | format (args : List Value)

namespace Asking

/-- The action of asking an engine. -/
def put (on : Int) (raw : String) : Asking → Action
  | parse => .parse on raw
  | capture args => .capture on raw args
  | format args => .format on raw args

/-- What an engine answers once it has an instance. -/
def answer (e : Engine) : Asking → Instance → Except EngineError Answer
  | parse, i => .ok (.template i)
  | capture args, i => .ok (.event i (.bind i.template args))
  | format args, i => (e.render (.bind i.template args)).map .text

end Asking

/-- The raw template that an action asks the `k`-th of `count` engines for. -/
def Action.asked? (count k : Nat) : Action → Option String
  | parse on raw | capture on raw _ | format on raw _ =>
    if placeOf? count on = some k then some raw else none
  | _ => none

def isRejected (raw : String) : Bool :=
  match Template.parse raw with
  | .error (.rejected _) => true
  | _ => false

theorem isRejected_iff {raw : String} :
    isRejected raw = true ↔ ∃ why, Template.parse raw = .error (.rejected why) := by
  unfold isRejected
  split
  · rename_i why hw
    exact ⟨fun _ => ⟨why, hw⟩, fun _ => rfl⟩
  · rename_i hno
    exact ⟨nofun, fun ⟨why, hw⟩ => absurd hw (hno why)⟩

/-- The rejected raw templates that the `k`-th of `count` engines was asked for by actions, both
newest first. -/
def fallbacks (count k : Nat) (past : List Action) : List String :=
  (past.filterMap (·.asked? count k)).filter isRejected

section Asking

variable {count k : Nat} {on : Int} {raw : String} {a : Action}

theorem Asking.asked?_put (how : Asking) (hon : placeOf? count on = some k) :
    (how.put on raw).asked? count k = some raw := by
  cases how <;> exact if_pos hon

theorem Asking.of_asked? (h : a.asked? count k = some raw) :
    ∃ (how : Asking) (on : Int), a = how.put on raw ∧ placeOf? count on = some k := by
  cases a with
  | parse on raw' =>
    obtain ⟨hon, ⟨⟩⟩ := Option.ite_none_right_eq_some.mp h
    exact ⟨.parse, on, rfl, hon⟩
  | capture on raw' args =>
    obtain ⟨hon, ⟨⟩⟩ := Option.ite_none_right_eq_some.mp h
    exact ⟨.capture args, on, rfl, hon⟩
  | format on raw' args =>
    obtain ⟨hon, ⟨⟩⟩ := Option.ite_none_right_eq_some.mp h
    exact ⟨.format args, on, rfl, hon⟩
  | _ => cases h

theorem fallbacks_append (newer older : List Action) :
    fallbacks count k (newer ++ older) = fallbacks count k newer ++ fallbacks count k older := by
  unfold fallbacks
  rw [List.filterMap_append, List.filter_append]

theorem fallbacks_of_not_asked (ha : a.asked? count k = none) : fallbacks count k [a] = [] := by
  rw [fallbacks, List.filterMap_cons_none ha]
  rfl

theorem fallbacks_of_asked (ha : a.asked? count k = some raw) :
    fallbacks count k [a] = if isRejected raw then [raw] else [] := by
  rw [fallbacks, List.filterMap_cons_some ha, List.filterMap_nil, List.filter_singleton,
    Bool.cond_eq_ite]

end Asking

/-! ## Stores and their uses -/

/-- A store has room for `n` texts and holds what is left of uses. -/
structure Recent.Follows {β : Type} (n : Nat) (uses : List String) (s : Recent β) : Prop where
  capacity : s.capacity = n
  keys : s.keys = lastUsed n uses

namespace Recent.Follows

variable {β : Type} {n : Nat} {uses : List String} {s : Recent β} {key : String}

theorem keys_capacity (h : s.Follows n uses) : s.keys = lastUsed s.capacity uses := by
  rw [h.capacity]
  exact h.keys

theorem touch (h : s.Follows n uses) (hkey : key ∈ s.keys) :
    (s.touch key).Follows n (key :: uses) := by
  refine ⟨(s.capacity_touch key).trans h.capacity, ?_⟩
  rw [keys_touch_lastUsed h.keys_capacity hkey, h.capacity]

theorem insert (h : s.Follows n uses) (key : String) (v : β) :
    (s.insert key v).1.Follows n (key :: uses) := by
  refine ⟨(s.capacity_insert key v).trans h.capacity, ?_⟩
  rw [keys_insert_lastUsed h.keys_capacity, h.capacity]

theorem size_le (h : s.Follows n uses) (hn : n ≠ 0) : s.size ≤ n := by
  rw [← length_keys, h.keys]
  exact length_fitting_le hn _

end Recent.Follows

/-! ## What an engine remembers and reports -/

/-- A cache reports nothing as literal. -/
theorem Cache.not_mem_records_fetch (c : Cache) (serial : Nat) (raw raw' why : String) :
    Record.literal raw' why ∉ (c.fetch serial raw).records := by
  cases hget : c.store.get? raw with
  | some i =>
    rw [fetch_of_some hget]
    exact List.not_mem_nil
  | none =>
    cases hparse : Template.parse raw with
    | ok t =>
      rw [fetch_of_ok hget hparse, keep]
      simp
    | error why =>
      rw [Cache.fetch_of_error hget hparse]
      cases why <;> simp [refusal]

namespace Engine

variable {e : Engine} {s : Stores} {raw : String} {n : Nat}

theorem follows_createLiterals {settings : Settings} {literals : Recent Instance}
    (h : createLiterals settings = .ok literals) (hn : settings.cacheSize = n) :
    literals.Follows n [] := by
  unfold createLiterals at h
  split at h
  · cases h
  · split at h
    · cases h
    · cases h
      refine ⟨?_, (lastUsed_nil n).symm⟩
      rw [hn]
      exact Int.toNat_natCast n

/-- What is remembered is answered without a question to the cache. -/
theorem parse_of_remembered {i : Instance} (h : s.literals.get? raw = some i) :
    e.parse s raw = ⟨.ok i, { s with literals := s.literals.touch raw }, []⟩ := by
  rw [Engine.parse, h]

/-- What is rejected and not remembered is asked for in vain, reported and remembered. -/
theorem Sound.parse_of_forgotten (h : e.Sound s) (hp : e.settings.invalid = .literal)
    (hget : s.literals.get? raw = none) {why : Rejection}
    (hw : Template.parse raw = .error (.rejected why)) :
    e.parse s raw =
      ⟨.ok ⟨s.nextSerial + 1, .literal raw⟩,
        ⟨s.cache, (s.literals.insert raw ⟨s.nextSerial + 1, .literal raw⟩).1, s.nextSerial + 2⟩,
        [.refused raw, .literal raw why.message]⟩ := by
  rw [Engine.parse, hget, fetch_of_error h.cache hw]
  dsimp only
  rw [hp]
  rfl

/-- What is not rejected is left to the cache. -/
theorem Sound.parse_of_not_rejected (h : e.Sound s) (hr : isRejected raw = false) :
    ∃ answer, e.parse s raw = ⟨answer, (s.fetch raw).2.1, (s.fetch raw).2.2⟩ := by
  have hno : ¬ ∃ why, Template.parse raw = .error (.rejected why) := by
    rw [← isRejected_iff, hr]
    exact Bool.false_ne_true
  have hanswer := h.cache.answer_fetch s.nextSerial raw
  rcases parse_cases e s raw with ⟨i, hl, _⟩ | ⟨i, _, _, hp⟩ | ⟨why, _, _, _, hp⟩ |
    ⟨why, _, ha, _, _⟩
  · exact absurd (h.literals.get? hl).rejected hno
  · exact ⟨_, hp⟩
  · exact ⟨_, hp⟩
  · rw [ha] at hanswer
    exact absurd ⟨why, hanswer.symm⟩ hno

/-- Nothing is remembered anew but what is asked for, and so what others are remembered as stays. -/
theorem get?_of_parse (hd : s.literals.Distinct) {raw' : String} (hne : raw ≠ raw') {i : Instance}
    (hi : (e.parse s raw').stores.literals.get? raw = some i) : s.literals.get? raw = some i := by
  rcases parse_cases e s raw' with ⟨_, _, hp⟩ | ⟨_, _, _, hp⟩ | ⟨_, _, _, _, hp⟩ | ⟨_, _, _, _, hp⟩
  · rw [hp] at hi
    exact (s.literals.get?_touch raw' raw).symm.trans hi
  · rw [hp] at hi
    exact hi
  · rw [hp] at hi
    exact hi
  · -- a new literal template may push another out, but brings none back
    rw [hp] at hi
    have hinsert := (Recent.get?_insert hd hne _).symm.trans hi
    split at hinsert
    · cases hinsert
    · exact hinsert

/-- Events are revived without regard to what is remembered as literal. -/
theorem literals_revive (e : Engine) (s : Stores) (stored : Serialized) :
    (e.revive s stored).stores.literals = s.literals := by
  cases hc : stored.checked with
  | error why => rw [revive_of_unchecked hc]
  | ok raw =>
    rw [revive_of_checked hc]
    rfl

theorem not_mem_records_revive (e : Engine) (s : Stores) (stored : Serialized)
    (raw' why : String) : .literal raw' why ∉ (e.revive s stored).records := by
  cases hc : stored.checked with
  | error _ =>
    rw [revive_of_unchecked hc]
    exact List.not_mem_nil
  | ok raw =>
    rw [revive_of_checked hc]
    exact s.cache.not_mem_records_fetch s.nextSerial raw raw' why

end Engine

namespace Session

variable {s : Session} {k n cache : Nat} {on : Int} {raw : String} {e : Engine} {uses : List String}
  {why : Rejection}

/-! ## What an action does to the literal templates of an engine -/

/-- What an engine that is asked for a template does, and what it answers. -/
theorem perform_put {place : Nat} {station : Station} {stores : Stores}
    (hs : s.stores? on = some (place, station, stores)) (how : Asking) (raw : String) :
    let o := station.engine.parse stores raw
    ∃ events, s.perform (how.put on raw) =
      ⟨(o.answer.bind (how.answer station.engine)).mapError .engine,
        { s.update place station o.stores with events }, o.records⟩ := by
  intro o
  cases how with
  | parse =>
    have hanswer : o.answer.map Answer.template =
        o.answer.bind (Asking.parse.answer station.engine) := by
      cases o.answer <;> rfl
    refine ⟨s.events, ?_⟩
    rw [Asking.put, perform, work_of_stores hs, ← hanswer]
    rfl
  | capture args =>
    have hanswer : (station.engine.capture stores raw args).answer.map
        (fun a => Answer.event a.1 a.2) =
          o.answer.bind ((Asking.capture args).answer station.engine) := by
      rw [Engine.capture, Outcome.map]
      cases (station.engine.parse stores raw).answer <;> rfl
    rw [Asking.put, perform, work_of_stores hs, hanswer]
    -- only what is captured with success is kept
    cases ho : o.answer with
    | ok i => exact ⟨s.events ++ [(i, .bind i.template args)], rfl⟩
    | error why => exact ⟨s.events, rfl⟩
  | format args =>
    have hanswer : (station.engine.format stores raw args).answer.map Answer.text =
        o.answer.bind ((Asking.format args).answer station.engine) := by
      rw [Engine.format, Engine.capture, Outcome.map, Outcome.map]
      cases (station.engine.parse stores raw).answer <;> rfl
    refine ⟨s.events, ?_⟩
    rw [Asking.put, perform, work_of_stores hs, hanswer]
    rfl

theorem perform_put_of_missing (hs : s.stores? on = none) (how : Asking) (raw : String) :
    s.perform (how.put on raw) = s.unknown on := by
  cases how with
  | parse => rw [Asking.put, perform, work, hs]
  | capture args =>
    rw [Asking.put, perform, work, hs]
    rfl
  | format args => rw [Asking.put, perform, work, hs]

theorem station_put {place : Nat} {station : Station} {stores : Stores}
    (hs : s.stores? on = some (place, station, stores)) (how : Asking) (raw : String) :
    (s.perform (how.put on raw)).session.stations[place]? =
      some { station with literals := (station.engine.parse stores raw).stores.literals } := by
  obtain ⟨_, hst, _⟩ := stores?_eq_some_iff.mp hs
  obtain ⟨hlt, _⟩ := List.getElem?_eq_some_iff.mp hst
  obtain ⟨events, hput⟩ := perform_put hs how raw
  rw [hput]
  exact List.getElem?_set_self hlt

/-- A result that leaves the literal templates of all engines alone, and reports none. -/
structure Idle (s : Session) (r : Result) : Prop where
  stations : r.session.stations = s.stations
  records : ∀ raw why, .literal raw why ∉ r.records

theorem idle_unknown (number : Int) : s.Idle (s.unknown number) :=
  ⟨rfl, fun _ _ => List.not_mem_nil⟩

theorem idle_reply (answer : Answer) : s.Idle (s.reply answer) :=
  ⟨rfl, fun _ _ => List.not_mem_nil⟩

theorem idle_work {α : Type} {job : Engine → Stores → Outcome α} {answer : α → Answer}
    (hliterals : ∀ e stores, (job e stores).stores.literals = stores.literals)
    (hrecords : ∀ e stores raw why, .literal raw why ∉ (job e stores).records) :
    s.Idle (s.work on job answer) := by
  cases hs : s.stores? on with
  | none =>
    rw [work, hs]
    exact idle_unknown on
  | some found =>
    obtain ⟨place, station, stores⟩ := found
    rw [work_of_stores hs]
    refine ⟨?_, hrecords station.engine stores⟩
    obtain ⟨_, hst, cache, _, rfl⟩ := stores?_eq_some_iff.mp hs
    rw [update]
    dsimp only
    rw [hliterals, set_of_getElem? hst]

theorem idle_revive (stored : Serialized) (answer : Instance × Event → Answer) :
    s.Idle (s.work on (·.revive · stored) answer) :=
  idle_work (fun e stores => e.literals_revive stores stored)
    fun e stores => e.not_mem_records_revive stores stored

theorem Idle.keepEvent {r : Result} (h : s.Idle r) : s.Idle (keepEvent r) := by
  refine ⟨(engines_keepEvent r).trans h.stations, ?_⟩
  unfold Session.keepEvent
  split
  · exact h.records
  · exact h.records

theorem idle_withEvent {event : Int} {f : Event → Result} (hf : ∀ e, s.Idle (f e)) :
    s.Idle (s.withEvent event f) := by
  unfold withEvent
  split
  · exact idle_unknown event
  · exact hf _

theorem idle_withSerialized {event : Int} {f : Serialized → Result}
    (hf : ∀ stored, s.Idle (f stored)) : s.Idle (s.withSerialized event f) := by
  refine idle_withEvent fun e => ?_
  split
  · exact hf _
  · exact ⟨rfl, fun _ _ => List.not_mem_nil⟩

/-- An action asks an engine for a template or has nothing to do with literal templates. -/
theorem put_or_idle (s : Session) (a : Action) :
    (∃ how : Asking, ∃ on raw, a = how.put on raw) ∨ s.Idle (s.perform a) := by
  cases a with
  | parse on raw => exact .inl ⟨.parse, on, raw, rfl⟩
  | capture on raw args => exact .inl ⟨.capture args, on, raw, rfl⟩
  | format on raw args => exact .inl ⟨.format args, on, raw, rfl⟩
  | render on event formatter =>
    exact .inr (idle_withEvent fun _ => idle_work (fun _ _ => rfl) fun _ _ _ _ => List.not_mem_nil)
  | serialize event => exact .inr (idle_withSerialized fun _ => idle_reply _)
  | deserialize on stored => exact .inr (idle_revive stored _).keepEvent
  | revive on event =>
    exact .inr (idle_withSerialized fun stored => (idle_revive stored _).keepEvent)
  | compare event other => exact .inr (idle_withEvent fun _ => idle_withEvent fun _ => idle_reply _)
  | contains on raw | clear on | describe on =>
    right
    rw [perform]
    exact idle_work (fun _ _ => rfl) fun _ _ _ _ => List.not_mem_nil

/-- What asks no engine for a template reports nothing as literal. -/
theorem not_reported_of_not_asked {a : Action}
    (ha : ∀ k, a.asked? s.stations.length k = none) (raw why : String) :
    .literal raw why ∉ (s.perform a).records := by
  rcases s.put_or_idle a with ⟨how, on, raw', rfl⟩ | hidle
  · cases hs : s.stores? on with
    | none =>
      rw [perform_put_of_missing hs]
      exact List.not_mem_nil
    | some found =>
      obtain ⟨place, station, stores⟩ := found
      have hasked := ha place
      rw [how.asked?_put (stores?_eq_some_iff.mp hs).1] at hasked
      cases hasked
  · exact hidle.records raw why

/-- What an engine is not asked for does not reach its literal templates. -/
theorem station_of_not_asked {a : Action} (ha : a.asked? s.stations.length k = none) :
    (s.perform a).session.stations[k]? = s.stations[k]? := by
  rcases s.put_or_idle a with ⟨how, on, raw, rfl⟩ | hidle
  · have hon : placeOf? s.stations.length on ≠ some k := by
      intro hon
      rw [how.asked?_put hon] at ha
      cases ha
    cases hs : s.stores? on with
    | none =>
      rw [perform_put_of_missing hs]
      rfl
    | some found =>
      obtain ⟨place, station, stores⟩ := found
      obtain ⟨hplace, _⟩ := stores?_eq_some_iff.mp hs
      obtain ⟨events, hput⟩ := perform_put hs how raw
      rw [hput]
      have hne : place ≠ k := by
        rintro rfl
        exact hon hplace
      exact List.getElem?_set_ne hne
  · rw [hidle.stations]

theorem length_perform (s : Session) (a : Action) :
    (s.perform a).session.stations.length = s.stations.length := by
  have hlength := congrArg List.length (engines_perform s a)
  rwa [List.length_map, List.length_map] at hlength

/-! ## A step -/

/-- What the `k`-th engine of a session remembers a raw template as. -/
def literal? (s : Session) (k : Nat) (raw : String) : Option Instance :=
  s.stations[k]?.bind (·.literals.get? raw)

/-- An engine that is asked for a template answers with the raw template as it stands, and
remembers the instance it answers with. -/
structure TakesLiteral (s : Session) (k : Nat) (e : Engine) (how : Asking) (on : Int)
    (raw : String) (i : Instance) : Prop where
  template : i.template = .literal raw
  answer : (s.perform (how.put on raw)).answer = (how.answer e i).mapError .engine
  kept : (s.perform (how.put on raw)).session.literal? k raw = some i

/-- The `k`-th engine of a session is the given one on the given cache, and it remembers as literal
what is left of uses. -/
structure Remembers (k : Nat) (e : Engine) (cache n : Nat) (uses : List String) (s : Session) :
    Prop where
  sound : s.Sound
  station : ∃ literals, s.stations[k]? = some ⟨e, cache, literals⟩ ∧ literals.Follows n uses

namespace Remembers

theorem stores? (h : s.Remembers k e cache n uses) (hon : placeOf? s.stations.length on = some k) :
    ∃ c literals, s.stores? on = some (k, ⟨e, cache, literals⟩, ⟨c, literals, s.nextSerial⟩) ∧
      literals.Follows n uses ∧ e.Sound ⟨c, literals, s.nextSerial⟩ := by
  obtain ⟨literals, hk, hfollows⟩ := h.station
  have hlt := h.sound.placed _ (List.mem_of_getElem? hk)
  have hs := stores?_eq_some_iff.mpr ⟨hon, hk, _, List.getElem?_eq_getElem hlt, rfl⟩
  exact ⟨_, literals, hs, hfollows, h.sound.engine hs⟩

/-- A raw template that is not rejected. -/
theorem put_of_not_rejected (h : s.Remembers k e cache n uses)
    (hon : placeOf? s.stations.length on = some k) (hr : isRejected raw = false) (how : Asking) :
    (∀ raw' why, .literal raw' why ∉ (s.perform (how.put on raw)).records) ∧
      (s.perform (how.put on raw)).session.stations[k]? = s.stations[k]? := by
  obtain ⟨c, literals, hs, _, he⟩ := h.stores? hon
  obtain ⟨_, hk, _⟩ := stores?_eq_some_iff.mp hs
  obtain ⟨answer, hparse⟩ := he.parse_of_not_rejected hr
  constructor
  · intro raw' why
    obtain ⟨events, hput⟩ := perform_put hs how raw
    rw [hput, hparse]
    exact c.not_mem_records_fetch s.nextSerial raw raw' why
  · rw [station_put hs how raw, hparse, hk]
    rfl

/-- What an engine passes on, it answers with. -/
theorem answer_put_of_passesOn (h : s.Remembers k e cache n uses)
    (hon : placeOf? s.stations.length on = some k) {why : ParseError}
    (hw : Template.parse raw = .error why) (hp : e.PassesOn why) (how : Asking) :
    (s.perform (how.put on raw)).answer = .error (.engine (.parse why)) := by
  obtain ⟨_, _, hs, _, he⟩ := h.stores? hon
  obtain ⟨events, hput⟩ := perform_put hs how raw
  rw [hput, he.parse_of_passesOn hw hp]
  rfl

/-- A rejected raw template that is not remembered. -/
theorem put_of_forgotten (h : s.Remembers k e cache n uses) (hp : e.settings.invalid = .literal)
    (hon : placeOf? s.stations.length on = some k)
    (hw : Template.parse raw = .error (.rejected why)) (hraw : raw ∉ lastUsed n uses)
    (how : Asking) :
    let r := s.perform (how.put on raw)
    r.records = [.refused raw, .literal raw why.message] ∧
      (∃ literals, r.session.stations[k]? = some ⟨e, cache, literals⟩ ∧
        literals.Follows n (raw :: uses)) ∧
      ∃ i, s.TakesLiteral k e how on raw i := by
  intro r
  obtain ⟨c, literals, hs, hfollows, he⟩ := h.stores? hon
  have hget : literals.get? raw = none := by
    rw [← Option.not_isSome_iff_eq_none, Recent.isSome_get?_iff, hfollows.keys]
    exact hraw
  have hparse := he.parse_of_forgotten hp hget hw
  have hstation := station_put hs how raw
  obtain ⟨events, hput⟩ := perform_put hs how raw
  rw [hparse] at hput hstation
  refine ⟨?_, ⟨_, hstation, hfollows.insert raw _⟩, ⟨s.nextSerial + 1, .literal raw⟩, rfl, ?_, ?_⟩
  · exact congrArg Result.records hput
  · rw [hput]
    rfl
  · rw [literal?, hstation]
    exact Recent.get?_insert_self literals raw _

/-- A rejected raw template that is remembered. -/
theorem put_of_remembered (h : s.Remembers k e cache n uses)
    (hon : placeOf? s.stations.length on = some k) (hraw : raw ∈ lastUsed n uses) (how : Asking) :
    let r := s.perform (how.put on raw)
    r.records = [] ∧ r.session.caches = s.caches ∧ r.session.nextSerial = s.nextSerial ∧
      (∃ literals, r.session.stations[k]? = some ⟨e, cache, literals⟩ ∧
        literals.Follows n (raw :: uses)) ∧
      ∃ i, s.literal? k raw = some i ∧ s.TakesLiteral k e how on raw i := by
  intro r
  obtain ⟨c, literals, hs, hfollows, he⟩ := h.stores? hon
  obtain ⟨_, hk, _, hcache, hstores⟩ := stores?_eq_some_iff.mp hs
  cases hstores
  have hkey : raw ∈ literals.keys := by
    rw [hfollows.keys]
    exact hraw
  obtain ⟨i, hget⟩ := Option.isSome_iff_exists.mp (Recent.isSome_get?_iff.mpr hkey)
  have hparse := Engine.parse_of_remembered (e := e) (s := ⟨c, literals, s.nextSerial⟩) hget
  have hstation := station_put hs how raw
  obtain ⟨events, hput⟩ := perform_put hs how raw
  rw [hparse] at hput hstation
  refine ⟨congrArg Result.records hput, ?_, ?_, ⟨_, hstation, hfollows.touch hkey⟩,
    i, ?_, ?_, ?_, ?_⟩
  · have hcaches : r.session.caches = s.caches.set cache c :=
      congrArg (fun r : Result => r.session.caches) hput
    exact hcaches.trans (set_of_getElem? hcache)
  · exact congrArg (fun r : Result => r.session.nextSerial) hput
  · rw [literal?, hk]
    exact hget
  · exact (he.literals.get? hget).template
  · rw [hput]
    rfl
  · rw [literal?, hstation]
    exact (literals.get?_touch raw raw).trans hget

/-- What an action adds to the rejected raw templates that an engine was asked for. -/
theorem perform (h : s.Remembers k e cache n uses) (hp : e.settings.invalid = .literal)
    (a : Action) :
    (s.perform a).session.Remembers k e cache n (fallbacks s.stations.length k [a] ++ uses) := by
  refine ⟨h.sound.perform a, ?_⟩
  cases ha : a.asked? s.stations.length k with
  | none =>
    rw [station_of_not_asked ha, fallbacks_of_not_asked ha]
    exact h.station
  | some raw =>
    obtain ⟨how, on, rfl, hon⟩ := Asking.of_asked? ha
    rw [fallbacks_of_asked ha]
    cases hr : isRejected raw with
    | false =>
      rw [(h.put_of_not_rejected hon hr how).2]
      exact h.station
    | true =>
      obtain ⟨why, hw⟩ := isRejected_iff.mp hr
      by_cases hraw : raw ∈ lastUsed n uses
      · obtain ⟨_, _, _, hstation, _⟩ := h.put_of_remembered hon hraw how
        exact hstation
      · obtain ⟨_, hstation, _⟩ := h.put_of_forgotten hp hon hw hraw how
        exact hstation

/-- A raw template that is remembered after an action that did not ask for it was remembered
before, and as the same instance. -/
theorem literal?_of_perform (h : s.Remembers k e cache n uses) {a : Action}
    (ha : a.asked? s.stations.length k ≠ some raw) {i : Instance}
    (hi : (s.perform a).session.literal? k raw = some i) : s.literal? k raw = some i := by
  cases ha' : a.asked? s.stations.length k with
  | none =>
    rw [literal?, station_of_not_asked ha'] at hi
    exact hi
  | some raw' =>
    rw [ha'] at ha
    obtain ⟨how, on, rfl, hon⟩ := Asking.of_asked? ha'
    obtain ⟨c, literals, hs, hfollows, _⟩ := h.stores? hon
    obtain ⟨_, hk, _⟩ := stores?_eq_some_iff.mp hs
    rw [literal?, station_put hs how raw'] at hi
    rw [literal?, hk]
    have hne : raw ≠ raw' := fun heq => ha (heq ▸ rfl)
    exact Engine.get?_of_parse (s := ⟨c, literals, s.nextSerial⟩)
      (Recent.distinct_of_keys hfollows.keys_capacity) hne hi

/-- A rejected raw template is taken as literal, whether it is remembered or not. -/
theorem exists_takesLiteral (h : s.Remembers k e cache n uses) (hp : e.settings.invalid = .literal)
    (hon : placeOf? s.stations.length on = some k)
    (hw : Template.parse raw = .error (.rejected why)) (how : Asking) :
    ∃ i, s.TakesLiteral k e how on raw i := by
  by_cases hraw : raw ∈ lastUsed n uses
  · obtain ⟨_, _, _, _, i, _, htakes⟩ := h.put_of_remembered hon hraw how
    exact ⟨i, htakes⟩
  · obtain ⟨_, _, i, htakes⟩ := h.put_of_forgotten hp hon hw hraw how
    exact ⟨i, htakes⟩

end Remembers

/-! ## A run -/

/-- The session after actions, given newest first. -/
def after (s : Session) (past : List Action) : Session :=
  past.foldr (fun a now => (now.perform a).session) s

theorem after_append (s : Session) (newer older : List Action) :
    s.after (newer ++ older) = (s.after older).after newer :=
  List.foldr_append

theorem length_after (s : Session) (past : List Action) :
    (s.after past).stations.length = s.stations.length := by
  induction past with
  | nil => rfl
  | cons a past ih => exact (length_perform _ a).trans ih

theorem Remembers.after (h : s.Remembers k e cache n uses) (hp : e.settings.invalid = .literal)
    (past : List Action) :
    (s.after past).Remembers k e cache n (fallbacks s.stations.length k past ++ uses) := by
  induction past with
  | nil => exact h
  | cons a past ih =>
    have hstep := ih.perform hp a
    rw [length_after, ← List.append_assoc, ← fallbacks_append] at hstep
    exact hstep

theorem Remembers.literal?_of_after (h : s.Remembers k e cache n uses)
    (hp : e.settings.invalid = .literal) {newer : List Action}
    (hnewer : ∀ a ∈ newer, a.asked? s.stations.length k ≠ some raw) {i : Instance}
    (hi : (s.after newer).literal? k raw = some i) : s.literal? k raw = some i := by
  -- from the last action back, as only what is remembered after an action is known to stay
  induction newer with
  | nil => exact hi
  | cons a newer ih =>
    have ha := hnewer a List.mem_cons_self
    rw [← length_after s newer] at ha
    exact ih (fun b hb => hnewer b (List.mem_cons_of_mem a hb))
      ((h.after hp newer).literal?_of_perform ha hi)

/-- As long as a raw template is remembered, it is remembered as the instance that was last answered
with. -/
theorem Remembers.takesLiteral_of_after (h : s.Remembers k e cache n uses)
    (hp : e.settings.invalid = .literal) (hon : placeOf? s.stations.length on = some k)
    (hw : Template.parse raw = .error (.rejected why)) {how : Asking} {newer : List Action}
    (hnewer : ∀ a ∈ newer, a.asked? s.stations.length k ≠ some raw) {i : Instance}
    (hi : ((s.perform (how.put on raw)).session.after newer).literal? k raw = some i) :
    s.TakesLiteral k e how on raw i := by
  obtain ⟨i', htakes⟩ := h.exists_takesLiteral hp hon hw how
  rw [← length_perform s (how.put on raw)] at hnewer
  have hkept := (h.perform hp (how.put on raw)).literal?_of_after hp hnewer hi
  rw [htakes.kept] at hkept
  cases hkept
  exact htakes

/-- A new engine remembers nothing. -/
theorem remembers_of_createLiterals (h : s.Sound) {literals : Recent Instance}
    (hk : s.stations[k]? = some ⟨e, cache, literals⟩)
    (hl : Engine.createLiterals e.settings = .ok literals) (hn : e.settings.cacheSize = n) :
    s.Remembers k e cache n [] :=
  ⟨h, literals, hk, Engine.follows_createLiterals hl hn⟩

/-- A new engine that takes rejected raw templates as literal text, with room for `n` of them or,
if `n` is zero, without a bound. Whatever is done after that, the engine remembers the last `n`
different ones it was asked for. It reports a rejected raw template if it does not remember it, once
and after one parse; otherwise it leaves the caches alone and answers with the same instance as at
the last demand. Valid raw templates are not reported and change nothing of what it remembers,
and neither does what it is not asked for: the cache being cleared, an event revived, another
engine asked. Nor does a raw template with a number of too many digits, but this fails. -/
theorem fallback_reported (h : s.Reachable) {literals : Recent Instance}
    (hk : s.stations[k]? = some ⟨e, cache, literals⟩)
    (hl : Engine.createLiterals e.settings = .ok literals)
    (hp : e.settings.invalid = .literal) (hn : e.settings.cacheSize = n) (past : List Action) :
    let now := s.after past
    let count := s.stations.length
    let fallen := fallbacks count k past
    let remembered := if n = 0 then fallen else fallen.eraseDups.take n
    (∃ literals, now.stations[k]? = some ⟨e, cache, literals⟩ ∧
      (∀ raw, raw ∈ literals.keys ↔ raw ∈ remembered) ∧ (n ≠ 0 → literals.size ≤ n)) ∧
    (∀ a : Action,
      (a.asked? count k = none →
        (now.perform a).session.stations[k]? = now.stations[k]?) ∧
      ((∀ k', a.asked? count k' = none) →
        ∀ raw why, .literal raw why ∉ (now.perform a).records)) ∧
    ∀ (how : Asking) (on : Int) (raw : String), placeOf? count on = some k →
      let r := now.perform (how.put on raw)
      (∀ t, Template.parse raw = .ok t →
        (∀ raw' why, .literal raw' why ∉ r.records) ∧
          r.session.stations[k]? = now.stations[k]?) ∧
      (∀ why, Template.parse raw = .error (.decimal why) →
        r.answer = .error (.engine (.parse (.decimal why))) ∧
          (∀ raw' why', .literal raw' why' ∉ r.records) ∧
          r.session.stations[k]? = now.stations[k]?) ∧
      ∀ why, Template.parse raw = .error (.rejected why) →
        ((∃ raw' why', .literal raw' why' ∈ r.records) ↔ raw ∉ remembered) ∧
        (raw ∉ remembered → r.records = [.refused raw, .literal raw why.message]) ∧
        ∃ i, now.TakesLiteral k e how on raw i ∧
          (raw ∈ remembered →
            r.records = [] ∧ r.session.caches = now.caches ∧
              r.session.nextSerial = now.nextSerial ∧
            ∀ newer (how' : Asking) on' older, past = newer ++ how'.put on' raw :: older →
              placeOf? count on' = some k → (∀ a ∈ newer, a.asked? count k ≠ some raw) →
              (s.after older).TakesLiteral k e how' on' raw i) := by
  intro now count fallen remembered
  have hstart := remembers_of_createLiterals h.sound hk hl hn
  have hnow : now.Remembers k e cache n fallen := by
    have hafter := hstart.after hp past
    rwa [List.append_nil] at hafter
  have hcount : ∀ past, (s.after past).stations.length = count := s.length_after
  refine ⟨?_, fun a => ⟨fun ha => ?_, fun ha => ?_⟩,
    fun how on raw hon => ⟨fun t ht => ?_, fun why hw => ?_, fun why hw => ?_⟩⟩
  · obtain ⟨literals, hstation, hfollows⟩ := hnow.station
    refine ⟨literals, hstation, fun raw => ?_, hfollows.size_le⟩
    rw [hfollows.keys]
    exact mem_lastUsed
  · rw [← hcount past] at ha
    exact station_of_not_asked ha
  · rw [← hcount past] at ha
    exact not_reported_of_not_asked ha
  · rw [← hcount past] at hon
    exact hnow.put_of_not_rejected hon (by rw [isRejected, ht]) how
  · rw [← hcount past] at hon
    exact ⟨hnow.answer_put_of_passesOn hon hw trivial how,
      hnow.put_of_not_rejected hon (by rw [isRejected, hw]) how⟩
  · rw [← hcount past] at hon
    by_cases hraw : raw ∈ remembered
    · obtain ⟨hrecords, hcaches, hserial, _, i, hi, htakes⟩ :=
        hnow.put_of_remembered hon (mem_lastUsed.mpr hraw) how
      refine ⟨⟨fun ⟨raw', why', hmem⟩ => ?_, fun hnot => absurd hraw hnot⟩,
        fun hnot => absurd hraw hnot, i, htakes, fun _ => ⟨hrecords, hcaches, hserial, ?_⟩⟩
      · rw [hrecords] at hmem
        cases hmem
      · intro newer how' on' older hpast hon' hnewer
        have hi : (s.after past).literal? k raw = some i := hi
        rw [hpast, after_append] at hi
        rw [← hcount older] at hon' hnewer
        exact (hstart.after hp older).takesLiteral_of_after hp hon' hw hnewer hi
    · obtain ⟨hrecords, _, i, htakes⟩ := hnow.put_of_forgotten hp hon hw
        (mt mem_lastUsed.mp hraw) how
      refine ⟨⟨fun _ => hraw, fun _ => ⟨raw, why.message, ?_⟩⟩, fun _ => hrecords, i, htakes,
        fun hmem => absurd hmem hraw⟩
      rw [hrecords]
      exact List.mem_cons_of_mem _ List.mem_cons_self

/-- Two engines on one cache, with room for one literal template each. What the other engine took as
literal is new to the first, and clearing the cache does not make it forget its own. -/
theorem fallback_reported_shared :
    let taking : Engine := { settings := { cacheSize := 1, invalid := .literal } }
    let past : List Action := [.clear 1, .parse 1 "{a b}", .parse 0 "{}"]
    ∃ s why i, create [taking, taking] (some 2) = .ok s ∧ s.Reachable ∧
      fallbacks 2 0 past = ["{}"] ∧
      ((s.after past).perform (.parse 0 "{a b}")).records =
        [.refused "{a b}", .literal "{a b}" why] ∧
      ((s.after past).perform (.capture 0 "{}" [])).records = [] ∧
      (s.perform (.parse 0 "{}")).answer = .ok (.template i) ∧
      ((s.after past).perform (.capture 0 "{}" [])).answer =
        .ok (.event i (.bind i.template [])) := by
  intro taking past
  have hcreate : create [taking, taking] (some 2) = .ok _ := rfl
  have hs := (reachable_of_create hcreate).1
  have hfallen : fallbacks 2 0 past = ["{}"] := by decide +kernel
  obtain ⟨_, hempty⟩ := isRejected_iff.mp (by decide +kernel : isRejected "{}" = true)
  obtain ⟨why, hblank⟩ := isRejected_iff.mp (by decide +kernel : isRejected "{a b}" = true)
  obtain ⟨_, _, hasked⟩ := fallback_reported (k := 0) (n := 1) hs rfl rfl rfl rfl past
  obtain ⟨_, hnew, _⟩ := (hasked .parse 0 "{a b}" rfl).2.2 why hblank
  obtain ⟨_, _, i, htakes, hknown⟩ := (hasked (.capture []) 0 "{}" rfl).2.2 _ hempty
  have hmem : "{}" ∈ (fallbacks 2 0 past).eraseDups.take 1 := by
    rw [hfallen]
    decide
  have hnot : "{a b}" ∉ (fallbacks 2 0 past).eraseDups.take 1 := by
    rw [hfallen]
    decide
  obtain ⟨hrecords, _, _, hbefore⟩ := hknown hmem
  have hfirst := hbefore [.clear 1, .parse 1 "{a b}"] .parse 0 [] rfl rfl (by decide)
  exact ⟨_, why.message, i, hcreate, hs, hfallen, hnew hnot, hrecords, hfirst.answer, htakes.answer⟩

/-- A hole that is left open behind an index of many zeros. The grammar does not derive this, and
the engine takes it neither as literal nor reports it. -/
theorem fallback_unreported :
    let taking : Engine := { settings := { invalid := .literal } }
    let raw := enclose (List.replicate (Decimal.mostDigits + 1) '0') ++ "\x7bx"
    (¬ ∃ segments, Derives raw.toList segments) ∧
      ∃ s, create [taking] none = .ok s ∧
        let r := s.perform (.format 0 raw [])
        r.answer = .error (.engine (.parse (.decimal (.tooLong (Decimal.mostDigits + 1))))) ∧
          (∀ raw' why, .literal raw' why ∉ r.records) ∧ r.session.literal? 0 raw = none := by
  intro taking raw
  have ho := Overlong.zeros (Nat.lt_succ_self Decimal.mostDigits)
  obtain ⟨p, hform⟩ := ho.form
  have hparse := parse_of_overlong (firstOverlong_enclose ho "\x7bx")
  refine ⟨fun ⟨segments, hd⟩ => ?_, ?_⟩
  · obtain ⟨h, hmem, hopen⟩ := exists_open_hole hform.braceless
    obtain ⟨p, hp⟩ := hd.exists_property h hmem
    cases hopen.symm.trans hp
  · have hcreate : create [taking] none = .ok _ := rfl
    have hnew : Remembers 0 taking 0 0 [] _ :=
      remembers_of_createLiterals (reachable_of_create hcreate).1.sound rfl rfl rfl
    have hunrejected : isRejected raw = false := by rw [isRejected, hparse]
    have hon : placeOf? 1 0 = some 0 := rfl
    obtain ⟨hrecords, hstation⟩ := hnew.put_of_not_rejected hon hunrejected (.format [])
    refine ⟨_, hcreate, hnew.answer_put_of_passesOn hon hparse trivial (.format []), hrecords, ?_⟩
    have hliteral := congrArg (fun st => st.bind (·.literals.get? raw)) hstation
    exact hliteral

end Session

end EventTemplate
