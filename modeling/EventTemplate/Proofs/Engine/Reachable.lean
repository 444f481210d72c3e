import EventTemplate.Engine.Session
import EventTemplate.Proofs.Engine.Stateless

/-
  The sessions that engines come to. A session starts without anything, caches and engines are
  added to it at any time, an engine on any of the caches there are, and actions are performed in
  any order, among them those that fail. Others than the engines may ask the caches and clear them.

  Proved: in every such session the caches and the literal templates are sound
  (`Reachable.sound`), because adding an engine, performing an action and exchanging a cache keep
  them so (`Sound.addEngine`, `Sound.perform`, `Sound.setCache`). The sessions that `create` makes
  are among them (`reachable_of_create`).
-/

namespace EventTemplate

namespace Session

/-- The sessions that engines come to. -/
inductive Reachable : Session → Prop where
  | start : Reachable { caches := [], stations := [] }
  | addCache {s : Session} {size : Int} {c : Cache} : Reachable s → Cache.create size = .ok c →
      Reachable { s with caches := s.caches ++ [c] }
  | addEngine {s : Session} {e : Engine} {literals : Recent Instance} (cache : Nat) :
      Reachable s → cache < s.caches.length → Engine.createLiterals e.settings = .ok literals →
      Reachable { s with stations := s.stations ++ [⟨e, cache, literals⟩] }
  | perform {s : Session} (a : Action) : Reachable s → Reachable (s.perform a).session
  | ask {s : Session} {c : Cache} (n : Nat) (raw : String) : Reachable s →
      s.caches[n]? = some c →
      Reachable { s with
        caches := s.caches.set n (c.fetch s.nextSerial raw).cache
        nextSerial := s.nextSerial + 1 }
  | clear {s : Session} {c : Cache} (n : Nat) : Reachable s → s.caches[n]? = some c →
      Reachable { s with caches := s.caches.set n c.clear }

/-- A session whose caches and literal templates hold nothing but what would be made anew. -/
structure Sound (s : Session) : Prop where
  caches : ∀ c ∈ s.caches, c.Sound
  literals : ∀ station ∈ s.stations, station.literals.All station.engine.FallsBack
  placed : ∀ station ∈ s.stations, station.cache < s.caches.length
  sized : ∀ station ∈ s.stations,
    ∃ literals, Engine.createLiterals station.engine.settings = .ok literals

variable {s : Session}

/-! ## What an engine works on -/

theorem stores?_eq_some_iff {on : Int} {place : Nat} {station : Station} {stores : Stores} :
    s.stores? on = some (place, station, stores) ↔
      placeOf? s.stations.length on = some place ∧ s.stations[place]? = some station ∧
        ∃ cache, s.caches[station.cache]? = some cache ∧
          stores = ⟨cache, station.literals, s.nextSerial⟩ := by
  unfold stores?
  constructor
  · intro h
    obtain ⟨p, hp, h⟩ := Option.bind_eq_some_iff.mp h
    obtain ⟨st, hst, h⟩ := Option.bind_eq_some_iff.mp h
    obtain ⟨cache, hcache, h⟩ := Option.bind_eq_some_iff.mp h
    cases h
    exact ⟨hp, hst, cache, hcache, rfl⟩
  · rintro ⟨hp, hst, cache, hcache, rfl⟩
    rw [hp, Option.bind_eq_bind, Option.bind_some, hst, Option.bind_eq_bind, Option.bind_some,
      hcache]
    rfl

/-- The engine of a sound session finds its stores, and they are sound for it. -/
theorem Sound.stores? (h : s.Sound) {on : Int} {station : Station}
    (hs : itemAt? s.stations on = some station) :
    ∃ place stores, s.stores? on = some (place, station, stores) := by
  obtain ⟨place, hp, hst⟩ := Option.bind_eq_some_iff.mp hs
  have hlt := h.placed station (List.mem_of_getElem? hst)
  exact ⟨place, _, stores?_eq_some_iff.mpr ⟨hp, hst, _, List.getElem?_eq_getElem hlt, rfl⟩⟩

theorem Sound.engine (h : s.Sound) {on : Int} {place : Nat} {station : Station} {stores : Stores}
    (hs : s.stores? on = some (place, station, stores)) : station.engine.Sound stores := by
  obtain ⟨_, hst, cache, hcache, rfl⟩ := stores?_eq_some_iff.mp hs
  exact ⟨h.caches cache (List.mem_of_getElem? hcache),
    h.literals station (List.mem_of_getElem? hst)⟩

/-! ## One action -/

theorem Sound.update (h : s.Sound) {on : Int} {place : Nat} {station : Station}
    {stores stores' : Stores} (hs : s.stores? on = some (place, station, stores))
    (he : station.engine.Sound stores') : (s.update place station stores').Sound := by
  obtain ⟨_, hst, _, _, _⟩ := stores?_eq_some_iff.mp hs
  have hmem := List.mem_of_getElem? hst
  refine ⟨fun c hc => ?_, fun st hmem' => ?_, fun st hmem' => ?_, fun st hmem' => ?_⟩
  · rcases List.mem_or_eq_of_mem_set hc with hc | rfl
    · exact h.caches c hc
    · exact he.cache
  · rcases List.mem_or_eq_of_mem_set hmem' with hmem' | rfl
    · exact h.literals st hmem'
    · exact he.literals
  · have hlength : (s.update place station stores').caches.length = s.caches.length :=
      List.length_set
    rw [hlength]
    rcases List.mem_or_eq_of_mem_set hmem' with hmem' | rfl
    · exact h.placed st hmem'
    · exact h.placed station hmem
  · rcases List.mem_or_eq_of_mem_set hmem' with hmem' | rfl
    · exact h.sized st hmem'
    · exact h.sized station hmem

section Work

variable {α : Type} {on : Int} {job : Engine → Stores → Outcome α} {answer : α → Answer}

theorem work_of_stores {place : Nat} {station : Station} {stores : Stores}
    (hs : s.stores? on = some (place, station, stores)) :
    s.work on job answer =
      ⟨((job station.engine stores).answer.map answer).mapError .engine,
        s.update place station (job station.engine stores).stores,
        (job station.engine stores).records⟩ := by
  rw [work, hs]

/-- Work that keeps stores sound keeps the session sound. -/
theorem Sound.work (h : s.Sound)
    (hjob : ∀ (e : Engine) stores, e.Sound stores → e.Sound (job e stores).stores) :
    (s.work on job answer).session.Sound := by
  cases hs : s.stores? on with
  | none =>
    rw [Session.work, hs]
    exact h
  | some found =>
    obtain ⟨place, station, stores⟩ := found
    rw [work_of_stores hs]
    exact h.update hs (hjob station.engine stores (h.engine hs))

end Work

theorem answer_keepEvent (r : Result) : (keepEvent r).answer = r.answer := by
  unfold keepEvent
  split <;> rfl

/-- Events stand beside what soundness is about. -/
theorem Sound.keepEvent {r : Result} (h : r.session.Sound) : (keepEvent r).session.Sound := by
  unfold Session.keepEvent
  split
  · exact ⟨h.caches, h.literals, h.placed, h.sized⟩
  · exact h

theorem Sound.withEvent (h : s.Sound) {event : Int} {f : Event → Result}
    (hf : ∀ e, (f e).session.Sound) : (s.withEvent event f).session.Sound := by
  unfold Session.withEvent
  split
  · exact h
  · exact hf _

theorem Sound.withSerialized (h : s.Sound) {event : Int} {f : Serialized → Result}
    (hf : ∀ stored, (f stored).session.Sound) : (s.withSerialized event f).session.Sound := by
  refine h.withEvent fun e => ?_
  split
  · exact hf _
  · exact h

/-- Every action keeps a session sound, whether it fails or not. -/
theorem Sound.perform (h : s.Sound) (a : Action) : (s.perform a).session.Sound := by
  cases a with
  | parse on raw => exact h.work fun _ _ he => he.parse raw
  | capture on raw args => exact (h.work fun _ _ he => he.capture raw args).keepEvent
  | format on raw args => exact h.work fun _ _ he => he.format raw args
  | render on event formatter => exact h.withEvent fun _ => h.work fun _ _ he => he
  | serialize event => exact h.withSerialized fun _ => h
  | deserialize on stored => exact (h.work fun _ _ he => he.revive stored).keepEvent
  | revive on event =>
    exact h.withSerialized fun stored => (h.work fun _ _ he => he.revive stored).keepEvent
  | compare event other => exact h.withEvent fun _ => h.withEvent fun _ => h
  | contains on raw => exact h.work fun _ _ he => he
  | clear on => exact h.work fun _ stores he => ⟨stores.cache.sound_clear, he.literals⟩
  | describe on => exact h.work fun _ _ he => he

/-! ## The engines stay -/

theorem engines_update {on : Int} {place : Nat} {station : Station} {stores : Stores}
    (hs : s.stores? on = some (place, station, stores)) (stores' : Stores) :
    (s.update place station stores').stations.map (·.engine) = s.stations.map (·.engine) := by
  obtain ⟨_, hst, _⟩ := stores?_eq_some_iff.mp hs
  have hengine : (s.stations.map (·.engine))[place]? = some station.engine := by
    rw [List.getElem?_map, hst]
    rfl
  obtain ⟨hlt, hget⟩ := List.getElem?_eq_some_iff.mp hengine
  have hset : (s.stations.map (·.engine)).set place station.engine =
      s.stations.map (·.engine) := by
    rw [← hget, List.set_getElem_self]
  exact List.map_set.trans hset

theorem engines_work {α : Type} (s : Session) (on : Int) (job : Engine → Stores → Outcome α)
    (answer : α → Answer) :
    (s.work on job answer).session.stations.map (·.engine) = s.stations.map (·.engine) := by
  cases hs : s.stores? on with
  | none =>
    rw [Session.work, hs]
    rfl
  | some found =>
    obtain ⟨place, station, stores⟩ := found
    rw [work_of_stores hs]
    exact engines_update hs _

theorem engines_keepEvent (r : Result) :
    (keepEvent r).session.stations = r.session.stations := by
  unfold keepEvent
  split <;> rfl

theorem engines_withEvent {event : Int} {f : Event → Result}
    (hf : ∀ e, (f e).session.stations.map (·.engine) = s.stations.map (·.engine)) :
    (s.withEvent event f).session.stations.map (·.engine) = s.stations.map (·.engine) := by
  unfold Session.withEvent
  split
  · rfl
  · exact hf _

theorem engines_withSerialized {event : Int} {f : Serialized → Result}
    (hf : ∀ stored,
      (f stored).session.stations.map (·.engine) = s.stations.map (·.engine)) :
    (s.withSerialized event f).session.stations.map (·.engine) = s.stations.map (·.engine) := by
  refine engines_withEvent fun e => ?_
  split
  · exact hf _
  · rfl

/-- No action changes which engines there are. -/
theorem engines_perform (s : Session) (a : Action) :
    (s.perform a).session.stations.map (·.engine) = s.stations.map (·.engine) := by
  cases a with
  | parse on raw | format on raw args | contains on raw | clear on | describe on =>
    exact engines_work s on _ _
  | capture on raw args | deserialize on stored =>
    exact (congrArg _ (engines_keepEvent _)).trans (engines_work s on _ _)
  | render on event formatter => exact engines_withEvent fun _ => engines_work s on _ _
  | revive on event =>
    exact engines_withSerialized fun _ =>
      (congrArg _ (engines_keepEvent _)).trans (engines_work s on _ _)
  | serialize event => exact engines_withSerialized fun _ => rfl
  | compare event other => exact engines_withEvent fun _ => engines_withEvent fun _ => rfl

/-- An engine is found under its number after an action as before it. -/
theorem exists_station_perform {on : Int} {station : Station}
    (hs : itemAt? s.stations on = some station) (a : Action) :
    ∃ station', itemAt? (s.perform a).session.stations on = some station' ∧
      station'.engine = station.engine := by
  have hengine : itemAt? (s.stations.map (·.engine)) on = some station.engine := by
    rw [itemAt?_map, hs]
    rfl
  rw [← engines_perform s a, itemAt?_map] at hengine
  exact Option.map_eq_some_iff.mp hengine

/-! ## More caches and engines -/

theorem sound_start : Sound { caches := [], stations := [] } :=
  ⟨nofun, nofun, nofun, nofun⟩

theorem Sound.addCache (h : s.Sound) {size : Int} {c : Cache} (hc : Cache.create size = .ok c) :
    Sound { s with caches := s.caches ++ [c] } := by
  refine ⟨fun c' hc' => ?_, h.literals, fun station hs => ?_, h.sized⟩
  · rcases List.mem_append.mp hc' with hc' | hc'
    · exact h.caches c' hc'
    · rw [List.mem_singleton.mp hc']
      exact Cache.sound_of_create hc
  · have hlt := h.placed station hs
    have hlength : (s.caches ++ [c]).length = s.caches.length + 1 := List.length_append
    dsimp only
    omega

theorem entries_createLiterals {settings : Settings} {literals : Recent Instance}
    (h : Engine.createLiterals settings = .ok literals) : literals.entries = [] := by
  unfold Engine.createLiterals at h
  split at h
  · cases h
  · split at h
    · cases h
    · cases h
      rfl

theorem Sound.addEngine (h : s.Sound) {e : Engine} {literals : Recent Instance} {cache : Nat}
    (hcache : cache < s.caches.length) (hl : Engine.createLiterals e.settings = .ok literals) :
    Sound { s with stations := s.stations ++ [⟨e, cache, literals⟩] } := by
  refine ⟨h.caches, fun station hs => ?_, fun station hs => ?_, fun station hs => ?_⟩
  all_goals rcases List.mem_append.mp hs with hs | hs
  · exact h.literals station hs
  · rw [List.mem_singleton.mp hs]
    exact Recent.all_of_entries_nil (entries_createLiterals hl)
  · exact h.placed station hs
  · rw [List.mem_singleton.mp hs]
    exact hcache
  · exact h.sized station hs
  · rw [List.mem_singleton.mp hs]
    exact ⟨literals, hl⟩

/-- A cache may be exchanged for a sound one. -/
theorem Sound.setCache (h : s.Sound) {c : Cache} (hc : c.Sound) (n nextSerial : Nat) :
    Sound { s with caches := s.caches.set n c, nextSerial } := by
  refine ⟨fun c' hc' => ?_, h.literals, fun station hs => ?_, h.sized⟩
  · rcases List.mem_or_eq_of_mem_set hc' with hc' | rfl
    · exact h.caches c' hc'
    · exact hc
  · have hlength : (s.caches.set n c).length = s.caches.length := List.length_set
    dsimp only
    rw [hlength]
    exact h.placed station hs

/-- Whatever was done in a session, it is sound. -/
theorem Reachable.sound (h : s.Reachable) : s.Sound := by
  induction h with
  | start => exact sound_start
  | addCache _ hc ih => exact ih.addCache hc
  | addEngine _ _ hcache hl ih => exact ih.addEngine hcache hl
  | perform a _ ih => exact ih.perform a
  | @ask s _ n raw _ hc ih =>
    exact ih.setCache ((ih.caches _ (List.mem_of_getElem? hc)).fetch s.nextSerial raw) n _
  | clear n _ _ ih => exact ih.setCache (Cache.sound_clear _) n _

/-! ## Sessions as they are created -/

/-- What adding an engine does when it succeeds. -/
theorem of_addEngine {shared : Bool} {e : Engine} {s' : Session}
    (h : addEngine shared s e = .ok s') :
    ∃ caches cache literals, cacheFor shared s.caches e.settings = .ok (caches, cache) ∧
      Engine.createLiterals e.settings = .ok literals ∧
      s' = { s with caches, stations := s.stations ++ [⟨e, cache, literals⟩] } := by
  unfold addEngine at h
  cases hc : cacheFor shared s.caches e.settings with
  | error why =>
    rw [hc] at h
    cases h
  | ok found =>
    rw [hc] at h
    cases hl : Engine.createLiterals e.settings with
    | error why =>
      rw [hl] at h
      cases h
    | ok literals =>
      rw [hl] at h
      cases h
      exact ⟨found.1, found.2, literals, rfl, rfl, rfl⟩

theorem Reachable.of_addEngine (h : s.Reachable) {shared : Bool}
    (hshared : shared = true → 0 < s.caches.length) {e : Engine} {s' : Session}
    (hs : Session.addEngine shared s e = .ok s') :
    s'.Reachable ∧ (shared = true → 0 < s'.caches.length) := by
  obtain ⟨caches, cache, literals, hc, hl, rfl⟩ := Session.of_addEngine hs
  cases shared with
  | true =>
    cases hc
    exact ⟨.addEngine 0 h (hshared rfl) hl, hshared⟩
  | false =>
    unfold cacheFor at hc
    cases ho : Cache.create e.settings.cacheSize with
    | error why =>
      rw [ho] at hc
      cases hc
    | ok own =>
      rw [ho] at hc
      cases hc
      have hlt : s.caches.length < (s.caches ++ [own]).length := by
        rw [List.length_append, List.length_singleton]
        exact Nat.lt_succ_self _
      exact ⟨.addEngine s.caches.length (.addCache h ho) hlt hl, nofun⟩

theorem Reachable.of_addEngines (h : s.Reachable) {shared : Bool}
    (hshared : shared = true → 0 < s.caches.length) {engines : List Engine} {s' : Session}
    (hs : engines.foldlM (Session.addEngine shared) s = .ok s') :
    s'.Reachable ∧ s'.stations.map (·.engine) = s.stations.map (·.engine) ++ engines := by
  induction engines generalizing s with
  | nil =>
    cases hs
    exact ⟨h, (List.append_nil _).symm⟩
  | cons e engines ih =>
    rw [List.foldlM_cons] at hs
    cases hadd : Session.addEngine shared s e with
    | error why =>
      rw [hadd] at hs
      cases hs
    | ok s₁ =>
      rw [hadd] at hs
      obtain ⟨h₁, hshared₁⟩ := h.of_addEngine hshared hadd
      obtain ⟨h', hstations⟩ := ih h₁ hshared₁ hs
      refine ⟨h', ?_⟩
      obtain ⟨_, _, _, _, _, rfl⟩ := Session.of_addEngine hadd
      rw [hstations, List.map_append, List.append_assoc]
      rfl

/-- A session that is created is reachable, and its engines are those that were asked for. -/
theorem reachable_of_create {engines : List Engine} {shared : Option Int}
    (h : create engines shared = .ok s) :
    s.Reachable ∧ s.stations.map (·.engine) = engines := by
  cases shared with
  | none =>
    have hcreate : create engines none =
        engines.foldlM (addEngine false) { caches := [], stations := [] } := rfl
    rw [hcreate] at h
    refine Reachable.start.of_addEngines (fun hshared => ?_) h
    cases hshared
  | some size =>
    have hcreate : create engines (some size) = ((Cache.create size).map ([·])).bind fun caches =>
        engines.foldlM (addEngine true) { caches, stations := [] } := rfl
    rw [hcreate] at h
    cases hc : Cache.create size with
    | error why =>
      rw [hc] at h
      cases h
    | ok c =>
      rw [hc] at h
      exact (Reachable.addCache .start hc).of_addEngines (fun _ => Nat.one_pos) h

end Session

end EventTemplate
