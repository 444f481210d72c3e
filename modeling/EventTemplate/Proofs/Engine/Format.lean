import EventTemplate.Proofs.Engine.Revive

/-
  When formatting fails. The standard formatter has a text for every value that has one in plain,
  whatever the format, and a hole without a value stands as it is or as the sentinel. So of all that
  formatting goes through, only the parser can fail, and the padding of a value.

  Proved, where memory is no limit: an event is rendered unless a hole with a value asks for a
  width that no text can have (`render_of_tooWide`, `exists_render`). In a session that engines come
  to, a raw template that is rejected fails if that is reported, and is its own text if it is not;
  one with a number of too many digits fails in any case. There is no other failure
  (`format_failures`). The grammar says nothing of the digits of a number, so formatting fails where
  it should not (`format_zeros`).
-/

namespace EventTemplate

/-! ## Rendering -/

/-- A width that no text can have. -/
def Property.TooWide (p : Property) : Prop :=
  greatestSize < (p.alignment.getD 0).natAbs

/-- A property that has a value in an event and a width that no text can have. -/
def Element.TooWide (e : Event) (x : Element) : Prop :=
  ∃ p c, x = .property p ∧ e.get? p.designator = some c ∧ p.TooWide

/-- An element that has a text in an event before it is padded: the hole of a property is known, and
its value, if it has one, has a text. -/
def Element.Shown (e : Event) : Element → Prop
  | .text _ => True
  | .property p => p.source.isSome ∧
      ∀ c, e.get? p.designator = some c → ∃ text, c.value.plain = .ok text

/-- A formatter that has a text, whatever the format, for every value that has one in plain. -/
def Formatter.Shows (formatter : Formatter) : Prop :=
  ∀ v format, (∃ text, v.plain = .ok text) → ∃ text, formatter v format = .ok text

/-- A format that does not apply does no harm. -/
theorem Formatter.shows_standard (room : Nat) : (standard room).Shows := by
  intro v format ⟨text, htext⟩
  suffices hs : ∃ text, standardText room v format = .ok text by
    obtain ⟨text, htext⟩ := hs
    exact ⟨text, by rw [standard, htext]; rfl⟩
  unfold standardText
  split
  · exact ⟨_, rfl⟩
  · exact ⟨text, htext⟩
  · split
    · exact ⟨_, rfl⟩
    · exact ⟨text, htext⟩

section Rendering

variable {r : Renderer} {formatter : Formatter} {e : Event} {x : Element} {xs : List Element}
  {room : Nat} {alignment : Option Int} {text : String}

theorem align_of_tooWide (h : greatestSize < (alignment.getD 0).natAbs) :
    align room alignment text = .error .tooWide := by
  cases alignment with
  | none => exact absurd h (Nat.not_lt_zero _)
  | some w =>
    unfold align
    exact if_pos h

/-- Where there is room for every text, only the width is in the way. -/
theorem exists_align (hroom : greatestSize ≤ room)
    (h : ¬ greatestSize < (alignment.getD 0).natAbs) :
    ∃ padded, align room alignment text = .ok padded := by
  cases alignment with
  | none => exact ⟨text, rfl⟩
  | some w =>
    rw [Option.getD_some] at h
    have hfits : ¬ (room < w.natAbs ∧ text.length < w.natAbs) := by omega
    unfold align
    dsimp only
    rw [if_neg h, if_neg hfits]
    split
    · exact ⟨_, rfl⟩
    · exact ⟨_, rfl⟩

theorem exists_unbound {p : Property} (h : p.source.isSome) : ∃ text, r.unbound p = .ok text := by
  obtain ⟨source, hsource⟩ := Option.isSome_iff_exists.mp h
  unfold Renderer.unbound Property.print
  rw [hsource]
  split
  · exact ⟨source, rfl⟩
  · exact ⟨r.sentinel, rfl⟩

theorem element_of_tooWide (hf : formatter.Shows) (hs : x.Shown e) (h : x.TooWide e) :
    r.element formatter e x = .error .tooWide := by
  obtain ⟨p, c, rfl, hget, hwide⟩ := h
  obtain ⟨text, htext⟩ := hf c.value p.format (hs.2 c hget)
  unfold Renderer.element
  dsimp only
  rw [hget]
  dsimp only
  rw [Renderer.bound, htext]
  exact align_of_tooWide hwide

theorem exists_element (hf : formatter.Shows) (hroom : greatestSize ≤ r.room) (hs : x.Shown e)
    (h : ¬ x.TooWide e) : ∃ text, r.element formatter e x = .ok text := by
  unfold Renderer.element
  cases x with
  | text s => exact ⟨s, rfl⟩
  | property p =>
    dsimp only
    cases hget : e.get? p.designator with
    | none => exact exists_unbound hs.1
    | some c =>
      obtain ⟨text, htext⟩ := hf c.value p.format (hs.2 c hget)
      dsimp only
      rw [Renderer.bound, htext]
      exact exists_align hroom fun hwide => h ⟨p, c, rfl, hget, hwide⟩

theorem elements_of_tooWide (hf : formatter.Shows) (hroom : greatestSize ≤ r.room)
    (hs : ∀ x ∈ xs, x.Shown e) (h : ∃ x ∈ xs, x.TooWide e) :
    r.elements formatter e xs = .error .tooWide := by
  induction xs with
  | nil =>
    obtain ⟨x, hx, _⟩ := h
    cases hx
  | cons x xs ih =>
    obtain ⟨hs, hss⟩ := List.forall_mem_cons.mp hs
    unfold Renderer.elements
    by_cases hx : x.TooWide e
    · rw [element_of_tooWide hf hs hx]
      rfl
    · -- this element has its text, so the failure is further on
      obtain ⟨y, hy, hwide⟩ := h
      have hrest : y ∈ xs := by
        rcases List.mem_cons.mp hy with rfl | hy
        · exact absurd hwide hx
        · exact hy
      obtain ⟨text, htext⟩ := exists_element hf hroom hs hx
      rw [htext, ih hss ⟨y, hrest, hwide⟩]
      rfl

theorem exists_elements (hf : formatter.Shows) (hroom : greatestSize ≤ r.room)
    (hs : ∀ x ∈ xs, x.Shown e) (h : ∀ x ∈ xs, ¬ x.TooWide e) :
    ∃ texts, r.elements formatter e xs = .ok texts := by
  induction xs with
  | nil => exact ⟨[], rfl⟩
  | cons x xs ih =>
    obtain ⟨hs, hss⟩ := List.forall_mem_cons.mp hs
    obtain ⟨hx, hxs⟩ := List.forall_mem_cons.mp h
    obtain ⟨text, htext⟩ := exists_element hf hroom hs hx
    obtain ⟨texts, htexts⟩ := ih hss hxs
    unfold Renderer.elements
    rw [htext, htexts]
    exact ⟨text :: texts, rfl⟩

/-- A hole with a value that asks for too great a width ends it. -/
theorem render_of_tooWide (hf : formatter.Shows) (hroom : greatestSize ≤ r.room)
    (hs : ∀ x ∈ e.template.elements, x.Shown e) (h : ∃ x ∈ e.template.elements, x.TooWide e) :
    r.render formatter e = .error .tooWide := by
  unfold Renderer.render
  rw [elements_of_tooWide hf hroom hs h]
  rfl

/-- Without such a hole there is a text. -/
theorem exists_render (hf : formatter.Shows) (hroom : greatestSize ≤ r.room)
    (hs : ∀ x ∈ e.template.elements, x.Shown e)
    (h : ∀ x ∈ e.template.elements, ¬ x.TooWide e) :
    ∃ text, r.render formatter e = .ok text := by
  obtain ⟨texts, htexts⟩ := exists_elements hf hroom hs h
  unfold Renderer.render
  rw [htexts]
  exact ⟨String.join texts, rfl⟩

theorem render_literal (r : Renderer) (formatter : Formatter) (raw : String) :
    r.render formatter ⟨.literal raw, []⟩ = .ok raw := by
  unfold Renderer.render Template.literal
  dsimp only
  split
  · rename_i hempty
    rw [String.isEmpty_iff.mp hempty]
    rfl
  · have hjoin : String.join [raw] = raw := by
      rw [← String.toList_inj, String.toList_join]
      exact List.append_nil _
    exact congrArg Except.ok hjoin

end Rendering

/-! ## Formatting -/

theorem mem_properties_iff {t : Template} {p : Property} :
    p ∈ t.properties ↔ .property p ∈ t.elements := by
  unfold Template.properties
  rw [List.mem_filterMap]
  constructor
  · rintro ⟨x, hx, hp⟩
    cases x with
    | text s => cases hp
    | property q =>
      cases hp
      exact hx
  · intro hp
    exact ⟨.property p, hp, rfl⟩

/-- There is an argument for a property that asks for a width that no text can have. -/
def AskTooWide (ps : List Property) (args : List Value) : Prop :=
  ∃ (j : Nat) (p : Property), ps[j]? = some p ∧ p.place j < args.length ∧ p.TooWide

/-- A property has a value if there is an argument at its place. -/
theorem tooWide_bind_iff {t : Template} (hc : Compatible (t.properties.map (·.designator)))
    (args : List Value) :
    (∃ x ∈ t.elements, x.TooWide (Event.bind t args)) ↔ AskTooWide t.properties args := by
  constructor
  · rintro ⟨_, hx, p, c, rfl, hget, hwide⟩
    obtain ⟨j, hj⟩ := List.mem_iff_getElem?.mp (mem_properties_iff.mpr hx)
    have hvalue := value_bind hc hj args
    rw [hget] at hvalue
    obtain ⟨hlt, _⟩ := List.getElem?_eq_some_iff.mp hvalue.symm
    exact ⟨j, p, hj, hlt, hwide⟩
  · rintro ⟨j, p, hj, hlt, hwide⟩
    have hvalue := value_bind hc hj args
    rw [List.getElem?_eq_getElem hlt] at hvalue
    obtain ⟨c, hget, _⟩ := Option.map_eq_some_iff.mp hvalue
    have hmem := mem_properties_iff.mp (List.mem_of_getElem? hj)
    exact ⟨.property p, hmem, p, c, rfl, hget, hwide⟩

/-- Whatever is bound to what is parsed, it can be shown if the arguments have texts. -/
theorem shown_bind {raw : String} {t : Template} (ht : Template.parse raw = .ok t)
    {args : List Value} (hargs : ∀ v ∈ args, ∃ text, v.plain = .ok text) :
    ∀ x ∈ t.elements, x.Shown (Event.bind t args) := by
  obtain ⟨_, hc, _, _⟩ := of_parse ht
  intro x hx
  cases x with
  | text s => trivial
  | property p =>
    have hp := mem_properties_iff.mpr hx
    obtain ⟨⟨body, hform⟩, _⟩ := form_of_parse ht p hp
    refine ⟨by rw [hform.source]; rfl, fun c hget => ?_⟩
    obtain ⟨j, hj⟩ := List.mem_iff_getElem?.mp hp
    have hvalue := value_bind hc hj args
    rw [hget] at hvalue
    exact hargs _ (List.mem_of_getElem? hvalue.symm)

namespace Engine

variable {engine : Engine} {raw : String} {t : Template} {why : Rejection} {args : List Value}

/-- What is taken as literal is its own text, whatever there is to be put in. -/
theorem formatting_of_literal (hw : Template.parse raw = .error (.rejected why))
    (hp : engine.settings.invalid = .literal) (args : List Value) :
    engine.formatting raw args = .ok raw := by
  rw [formatting, meaning, hw]
  dsimp only
  rw [hp]
  dsimp only [Except.bind]
  rw [bind_literal, render, render_literal]
  rfl

/-- What is accepted is formatted, unless it asks for too great a width. -/
theorem formatting_of_shows (hf : engine.formatter.Shows) (hroom : greatestSize ≤ engine.room)
    (ht : Template.parse raw = .ok t) (hargs : ∀ v ∈ args, ∃ text, v.plain = .ok text) :
    (AskTooWide t.properties args → engine.formatting raw args = .error (.render .tooWide)) ∧
      (¬ AskTooWide t.properties args → ∃ text, engine.formatting raw args = .ok text) := by
  obtain ⟨_, hc, _, _⟩ := of_parse ht
  have hroom : greatestSize ≤ engine.renderer.room := hroom
  have hshown : ∀ x ∈ (Event.bind t args).template.elements, x.Shown (Event.bind t args) := by
    rw [template_bind]
    exact shown_bind ht hargs
  have hwide : (∃ x ∈ (Event.bind t args).template.elements, x.TooWide (Event.bind t args)) ↔
      AskTooWide t.properties args := by
    rw [template_bind]
    exact tooWide_bind_iff hc args
  have hformatting : engine.formatting raw args = engine.render (.bind t args) := by
    rw [formatting, meaning, ht]
    rfl
  rw [hformatting, render, Option.getD_none]
  refine ⟨fun h => ?_, fun h => ?_⟩
  · rw [render_of_tooWide hf hroom hshown (hwide.mpr h)]
    rfl
  · have hnone : ∀ x ∈ (Event.bind t args).template.elements, ¬ x.TooWide (Event.bind t args) :=
      fun x hx hbad => h (hwide.mp ⟨x, hx, hbad⟩)
    obtain ⟨text, htext⟩ := exists_render hf hroom hshown hnone
    rw [htext]
    exact ⟨text, rfl⟩

end Engine

namespace Session

variable {s : Session} {on : Int} {station : Station} {raw : String} {segments : List Segment}
  {args : List Value}

/-- Formatting is answered by the meaning of the raw template. -/
theorem Sound.answer_format (h : s.Sound) (hs : itemAt? s.stations on = some station)
    (raw : String) (args : List Value) :
    (s.perform (.format on raw args)).answer =
      ((station.engine.formatting raw args).map .text).mapError .engine := by
  obtain ⟨place, stores, hstores⟩ := h.stores? hs
  rw [Session.perform, work_of_stores hstores,
    ← Engine.format_eq_formatting (h.engine hstores) raw args]

/-- What an engine passes on, formatting fails with. -/
theorem Sound.format_of_passesOn (h : s.Sound) (hs : itemAt? s.stations on = some station)
    {why : ParseError} (hw : Template.parse raw = .error why) (hp : station.engine.PassesOn why)
    (args : List Value) :
    (s.perform (.format on raw args)).answer = .error (.engine (.parse why)) :=
  h.error_of_answer hs (q := .format raw args) (Engine.answer_of_passesOn hw hp rfl)

/-- What the grammar derives without a number of too many digits has a text, unless it asks for too
great a width. -/
theorem Sound.format_of_derives (h : s.Sound) (hs : itemAt? s.stations on = some station)
    (hf : station.engine.formatter.Shows) (hroom : greatestSize ≤ station.engine.room)
    (hargs : ∀ v ∈ args, ∃ text, v.plain = .ok text) (hshort : ∀ hole ∈ holes raw, hole.Short)
    (hd : Derives raw.toList segments) (hc : Compatible (Segment.designators segments)) :
    let answer := (s.perform (.format on raw args)).answer
    let wide := AskTooWide (segments.filterMap Segment.property?) args
    (wide → answer = .error (.engine (.render .tooWide))) ∧
      (¬ wide → ∃ text, answer = .ok (.text text)) := by
  have hproperties : (Template.mk raw (Segment.elements [] segments)).properties =
      segments.filterMap Segment.property? := Segment.filterMap_elements [] segments
  have hparse := parse_of_derives hd hc (hd.short_iff.mp hshort)
  have hanswer := Engine.formatting_of_shows hf hroom hparse hargs
  rw [hproperties] at hanswer
  dsimp only
  rw [h.answer_format hs]
  refine ⟨fun hwide => ?_, fun hwide => ?_⟩
  · rw [hanswer.1 hwide]
    rfl
  · obtain ⟨text, htext⟩ := hanswer.2 hwide
    rw [htext]
    exact ⟨text, rfl⟩

/-- What the grammar does not derive is rejected, or is its own text. -/
theorem Sound.format_of_not_derives (h : s.Sound) (hs : itemAt? s.stations on = some station)
    (hshort : ∀ hole ∈ holes raw, hole.Short)
    (hno : ¬ ∃ segments, Derives raw.toList segments ∧ Compatible (Segment.designators segments))
    (args : List Value) :
    let answer := (s.perform (.format on raw args)).answer
    (station.engine.settings.invalid = .report →
      ∃ why, answer = .error (.engine (.parse (.rejected why)))) ∧
    (station.engine.settings.invalid = .literal → answer = .ok (.text raw)) := by
  dsimp only
  cases hparse : Template.parse raw with
  | ok t =>
    obtain ⟨segments, hd, hc, _, _⟩ := derives_of_parse hparse
    exact absurd ⟨segments, hd, hc⟩ hno
  | error why =>
    cases why with
    | decimal why =>
      obtain ⟨n, hn, _⟩ := parse_eq_decimal_iff.mp hparse
      exact absurd hshort hn.not_short
    | rejected why =>
      refine ⟨fun hp => ⟨why, h.format_of_passesOn hs hparse hp args⟩, fun hp => ?_⟩
      rw [h.answer_format hs, Engine.formatting_of_literal hparse hp]
      rfl

/-- All that formatting by an engine with the standard formatter can lead to, in every session that
engines come to, where memory is no limit and every argument has a text. Let no number in the raw
template have too many digits. Then it is rejected if the grammar does not derive it and that is
reported, and is its own text if that is not reported; if the grammar derives it, it has a text,
unless a hole for which there is an argument asks for a width that no text can have: this fails.
Nothing else does. But a number with too many digits fails, whatever else there is to say of the raw
template and whatever the policy. -/
theorem format_failures (h : s.Reachable) (hs : itemAt? s.stations on = some station)
    (hf : station.engine.formatter = .standard station.engine.room)
    (hroom : greatestSize ≤ station.engine.room) (raw : String)
    (hargs : ∀ v ∈ args, ∃ text, v.plain = .ok text) :
    let answer := (s.perform (.format on raw args)).answer
    let grammatical := ∃ segments, Derives raw.toList segments ∧
      Compatible (Segment.designators segments)
    ((∀ hole ∈ holes raw, hole.Short) →
      ((∃ why, answer = .error (.engine (.parse (.rejected why)))) ↔
        ¬ grammatical ∧ station.engine.settings.invalid = .report) ∧
      (¬ grammatical → station.engine.settings.invalid = .literal → answer = .ok (.text raw)) ∧
      (∀ segments, Derives raw.toList segments → Compatible (Segment.designators segments) →
        let wide := AskTooWide (segments.filterMap Segment.property?) args
        (wide → answer = .error (.engine (.render .tooWide))) ∧
        (¬ wide → ∃ text, answer = .ok (.text text))) ∧
      ((∃ text, answer = .ok (.text text)) ∨
        (∃ why, answer = .error (.engine (.parse (.rejected why)))) ∨
        answer = .error (.engine (.render .tooWide)))) ∧
    (∀ n, FirstOverlong (holes raw) n →
      answer = .error (.engine (.parse (.decimal (.tooLong n))))) ∧
    ((∀ hole ∈ holes raw, hole.Short) ∨ ∃ n, FirstOverlong (holes raw) n) := by
  intro answer grammatical
  have hshows : station.engine.formatter.Shows := by
    rw [hf]
    exact Formatter.shows_standard _
  refine ⟨fun hshort => ?_, fun n hn => ?_, short_or_firstOverlong (holes raw)⟩
  · have hvalid {segments : List Segment} (hd : Derives raw.toList segments)
        (hc : Compatible (Segment.designators segments)) :=
      h.sound.format_of_derives hs hshows hroom hargs hshort hd hc
    have hinvalid (hno : ¬ grammatical) := h.sound.format_of_not_derives hs hshort hno args
    -- what the grammar derives is not rejected
    have hgrammatical : grammatical → (∃ text, answer = .ok (.text text)) ∨
        answer = .error (.engine (.render .tooWide)) := by
      rintro ⟨segments, hd, hc⟩
      by_cases hwide : AskTooWide (segments.filterMap Segment.property?) args
      · exact .inr ((hvalid hd hc).1 hwide)
      · exact .inl ((hvalid hd hc).2 hwide)
    refine ⟨⟨?_, fun hreport => (hinvalid hreport.1).1 hreport.2⟩, fun hno => (hinvalid hno).2,
      fun _ hd hc => hvalid hd hc, ?_⟩
    · rintro ⟨why, hwhy⟩
      have hno : ¬ grammatical := by
        intro hg
        rcases hgrammatical hg with ⟨text, htext⟩ | hwide
        · cases hwhy.symm.trans htext
        · cases hwhy.symm.trans hwide
      refine ⟨hno, ?_⟩
      cases hp : station.engine.settings.invalid with
      | report => rfl
      | literal => cases hwhy.symm.trans ((hinvalid hno).2 hp)
    · by_cases hg : grammatical
      · exact (hgrammatical hg).imp_right .inr
      · cases hp : station.engine.settings.invalid with
        | report => exact .inr (.inl ((hinvalid hg).1 hp))
        | literal => exact .inl ⟨raw, (hinvalid hg).2 hp⟩
  · exact h.sound.format_of_passesOn hs (parse_of_overlong hn) trivial args

/-- A hole that is one space too wide does no harm while there is no argument for it. A format that
does not apply does none at all, and no more does a hole that is empty. -/
theorem format_failures_width :
    let engine : Engine := { settings := { invalid := .literal }, room := greatestSize }
    let raw := "{a:q}{b,-9223372036854775808}"
    let object : Value := .foreign ⟨"Point", "p", "Point()"⟩
    ∃ s, create [engine] none = .ok s ∧
      (∃ text, (s.perform (.format 0 raw [object])).answer = .ok (.text text)) ∧
      (s.perform (.format 0 raw [object, .null])).answer = .error (.engine (.render .tooWide)) ∧
      (s.perform (.format 0 "{}" [.int 1])).answer = .ok (.text "{}") := by
  intro engine raw object
  have hcreate : create [engine] none = .ok _ := rfl
  obtain ⟨station, hs, hengine⟩ := itemAt?_zero_of_create hcreate
  have hreachable := (reachable_of_create hcreate).1
  have hf : station.engine.formatter = .standard station.engine.room := by rw [hengine]
  have hroom : greatestSize ≤ station.engine.room := by rw [hengine]
  have hobject : ∃ text, object.plain = .ok text := ⟨"p", rfl⟩
  let p : Property := ⟨.name "a", .plain, none, some "q", some "{a:q}"⟩
  let q : Property :=
    ⟨.name "b", .plain, some (-9223372036854775808), none, some "{b,-9223372036854775808}"⟩
  have hparse : Template.parse raw = .ok ⟨raw, [.property p, .property q]⟩ := by decide +kernel
  obtain ⟨segments, hd, hc, hsegments, ht⟩ := derives_of_parse hparse
  have hshort := hd.short_iff.mpr hsegments
  have hproperties : segments.filterMap Segment.property? = [p, q] := by
    rw [← Segment.filterMap_elements [], ← (Template.mk.inj ht).2]
    rfl
  have hq : q.TooWide := by
    unfold Property.TooWide
    decide
  refine ⟨_, hcreate, ?_, ?_, ?_⟩
  · have hargs : ∀ v ∈ [object], ∃ text, v.plain = .ok text :=
      List.forall_mem_singleton.mpr hobject
    refine (((format_failures hreachable hs hf hroom raw hargs).1 hshort).2.2.1 segments hd hc).2 ?_
    rw [hproperties]
    rintro ⟨j, p', hp', hlt, hwide⟩
    have hj : p'.place j = j := by
      have hmem : p' ∈ [p, q] := List.mem_of_getElem? hp'
      rcases List.mem_pair.mp hmem with rfl | rfl <;> rfl
    rw [hj, List.length_singleton] at hlt
    have hzero : j = 0 := Nat.lt_one_iff.mp hlt
    subst hzero
    cases hp'
    exact absurd hwide (Nat.not_lt_zero _)
  · have hargs : ∀ v ∈ [object, .null], ∃ text, v.plain = .ok text :=
      List.forall_mem_cons.mpr ⟨hobject, List.forall_mem_singleton.mpr ⟨"None", rfl⟩⟩
    refine (((format_failures hreachable hs hf hroom raw hargs).1 hshort).2.2.1 segments hd hc).1 ?_
    rw [hproperties]
    exact ⟨1, q, rfl, Nat.lt_succ_self 1, hq⟩
  · have hargs : ∀ v ∈ [Value.int 1], ∃ text, v.plain = .ok text :=
      List.forall_mem_singleton.mpr ⟨"1", rfl⟩
    refine ((format_failures hreachable hs hf hroom "{}" hargs).1
      (short_of_length_le (by decide))).2.1 ?_ (by rw [hengine])
    rintro ⟨segments', hd', hc'⟩
    have hrejected : (Template.parse "{}").isOk = false := by decide +kernel
    rw [parse_of_derives hd' hc' (hd'.short_iff.mp (short_of_length_le (by decide)))] at hrejected
    cases hrejected

/-- An index of many zeros, without an argument: it should stand as it is, and is not even parsed.
-/
theorem format_zeros :
    let engine : Engine := { room := greatestSize }
    let raw := enclose (List.replicate (Decimal.mostDigits + 1) '0')
    ∃ s, create [engine] none = .ok s ∧
      (∃ segments, Derives raw.toList segments ∧ Compatible (Segment.designators segments) ∧
        ¬ AskTooWide (segments.filterMap Segment.property?) []) ∧
      (s.perform (.format 0 raw [])).answer =
        .error (.engine (.parse (.decimal (.tooLong (Decimal.mostDigits + 1))))) := by
  intro engine raw
  have hcreate : create [engine] none = .ok _ := rfl
  obtain ⟨station, hs, _⟩ := itemAt?_zero_of_create hcreate
  have ho := Overlong.zeros (Nat.lt_succ_self Decimal.mostDigits)
  obtain ⟨p, hp⟩ := ho.form
  obtain ⟨hd, hc⟩ := derives_enclose hp
  have hf := firstOverlong_enclose ho ""
  rw [String.append_empty] at hf
  refine ⟨_, hcreate, ⟨_, hd, hc, ?_⟩, ?_⟩
  · rintro ⟨_, _, _, hlt, _⟩
    cases hlt
  · exact (reachable_of_create hcreate).1.sound.format_of_passesOn hs (parse_of_overlong hf)
      trivial []

end Session

end EventTemplate
