import EventTemplate.Proofs.Problem.Message
import EventTemplate.Proofs.Template.Grammar
import EventTemplate.Proofs.Token.Hole

/-
  What is reported of a raw template that is rejected. A hole is malformed if it is not closed or
  its body is no property; of each malformed hole one problem is told (`Tells`), in order. Then come
  the designators of the other holes: that names and indices are mixed, once, and each name that was
  there before (`mixture`, `repetitions`).

  Proved: the log of a rejection counts exactly these problems, and there is a rejection exactly if
  there are any and no number has too many digits (`problems_reported`). No two malformed holes are
  told of in the same words (`Tells.message_ne`): the words tell the kind of a problem and its
  place, and problems of one kind are told of at places in the order of the holes. So the log, which
  merges equal neighbours, merges none of them.
-/

namespace EventTemplate

/-! ## Malformed holes -/

/-- The holes that say no property. -/
def malformed (hs : List Hole) : List Hole :=
  hs.filter (·.property?.isNone)

/-- The designators of the holes that say properties. -/
def designatorsOf (hs : List Hole) : List Designator :=
  (hs.filterMap Hole.property?).map (·.designator)

/-! ## What is told of a hole -/

/-- What is told of a malformed hole of a raw template. -/
inductive Tells (raw : String) : Hole → Problem → Prop where
  /-- It is not closed before the next brace opens. -/
  | bareBrace {h : Hole} (hc : h.closed = false) (hs : h.stop < raw.length) :
      Tells raw h (.bareBrace h.print h.stop)
  /-- It is not closed before the raw template ends. -/
  | unterminated {h : Hole} (hc : h.closed = false) (hs : h.stop = raw.length) :
      Tells raw h (.unterminated h.print h.start)
  /-- Nothing is where its designator should be. -/
  | emptyName {h : Hole} (hc : h.closed = true) (hn : Body.lacksName h.body.toList = true) :
      Tells raw h (.emptyName h.print h.start)
  /-- Its body is faulty at a place inside. -/
  | fault {h : Hole} {fault : BodyFault} (hc : h.closed = true)
      (hn : Body.lacksName h.body.toList = false)
      (hf : Body.read h.body.toList = .error fault) :
      Tells raw h (.ofFault (h.start + 1) fault)

/-- A fault lies in the body or at its end. -/
theorem offset_le_of_read {cs : List Char} {fault : BodyFault} (h : Body.read cs = .error fault) :
    fault.offset ≤ cs.length := by
  unfold Body.read at h
  dsimp only at h
  split at h
  · cases h
    exact Nat.sub_le _ _
  · split at h
    · cases h
    · cases h
      exact Nat.sub_le _ _

/-- A hole that is not closed ends where the raw template does, or a brace opens there. -/
theorem Hole.StandsAt.itemAt?_stop {raw : String} {n : Nat} {h : Hole}
    (hs : h.StandsAt raw.toList n) (hc : h.closed = false) :
    h.stop < raw.length ∧ itemAt? raw.toList h.stop = some '{' ∨
      h.stop = raw.length ∧ itemAt? raw.toList h.stop = none := by
  have hstop : h.stop = (h.stop.toNat : Int) := by
    have := hs.stop
    omega
  rw [hstop, itemAt?_natCast, ← String.length_toList]
  rcases hs.following hc with hend | hbrace
  · refine .inr ⟨by omega, List.getElem?_eq_none (by omega)⟩
  · obtain ⟨hlt, _⟩ := List.getElem?_eq_some_iff.mp hbrace
    exact .inl ⟨by omega, hbrace⟩

/-- What is wrong with a hole, if anything is. -/
def Hole.problem? (raw : Option String) (h : Hole) : Option Problem :=
  match h.property raw with
  | .error (.problem p) => some p
  | _ => none

/-- What is found wrong with a hole is what there is to tell of it. -/
theorem Hole.StandsAt.tells_of_property {raw : String} {n : Nat} {h : Hole} {problem : Problem}
    (hs : h.StandsAt raw.toList n) (hp : h.property (some raw) = .error (.problem problem)) :
    Tells raw h problem := by
  unfold Hole.property at hp
  split at hp
  · rename_i hopen
    have hc : h.closed = false := by simpa using hopen
    rw [Option.getD_some] at hp
    rcases hs.itemAt?_stop hc with ⟨hstop, hitem⟩ | ⟨hstop, hitem⟩
    · rw [if_pos hitem] at hp
      cases hp
      exact .bareBrace hc hstop
    · rw [if_neg (by rw [hitem]; exact fun e => nomatch e)] at hp
      cases hp
      exact .unterminated hc hstop
  · rename_i hclosed
    have hc : h.closed = true := by simpa using hclosed
    split at hp
    · rename_i hn
      cases hp
      exact .emptyName hc hn
    · rename_i hn
      split at hp
      · cases toProperty_ne_problem hp
      · rename_i hread
        cases hp
        exact .fault hc (by simpa using hn) hread

/-- A hole either says a property, or there is something to tell of it. -/
theorem Hole.StandsAt.problem {raw : String} {n : Nat} {h : Hole} (hs : h.StandsAt raw.toList n) :
    (∃ p, h.property? = some p ∧ h.problem? (some raw) = none) ∨
      h.property? = none ∧ ∃ p, h.problem? (some raw) = some p ∧ Tells raw h p := by
  unfold Hole.problem?
  rcases h.property_cases hs.braceless (some raw) with ⟨p, hp, _, hread⟩ | ⟨p, _, hp, _, hread⟩ |
    ⟨problem, hnone, _, hread⟩
  · exact .inl ⟨p, hp, by rw [hread]⟩
  · exact .inl ⟨p, hp, by rw [hread]⟩
  · exact .inr ⟨hnone, problem, by rw [hread], hs.tells_of_property hread⟩

/-- The places of problems that are told at the start of a hole, and not behind it. -/
def Problem.Kind.atStart : Problem.Kind → Bool
  | unterminated => true
  | emptyName => true
  | _ => false

/-- Where a problem of a hole is told: at the start of the hole, or behind it, up to its end. -/
theorem Tells.place {raw : String} {n : Nat} {h : Hole} {p : Problem} (ht : Tells raw h p)
    (hs : h.StandsAt raw.toList n) :
    ∃ m : Nat, p.place? = some (m : Int) ∧ (m : Int) ≤ h.stop ∧
      if p.kind.atStart then m = n else n < m := by
  have hstart := hs.start
  have hstop := hs.stop
  have hlt := hs.start_lt
  cases ht with
  | bareBrace hc _ =>
    refine ⟨h.stop.toNat, congrArg some ?_, by omega, ?_⟩
    · omega
    · show n < h.stop.toNat
      omega
  | unterminated _ _ => exact ⟨n, congrArg some hstart, by omega, rfl⟩
  | emptyName _ _ => exact ⟨n, congrArg some hstart, by omega, rfl⟩
  | @fault fault hc hn hf =>
    have hoffset := offset_le_of_read hf
    rw [String.length_toList] at hoffset
    rw [if_pos hc] at hstop
    refine ⟨n + 1 + fault.offset, ?_, by omega, ?_⟩
    · cases fault <;> simp [Problem.ofFault, Problem.place?, BodyFault.offset, hstart]
    · cases fault <;> simp [Problem.ofFault, Problem.kind, Problem.Kind.atStart] <;> omega

/-- Of two holes, one behind the other, not the same is told. -/
theorem Tells.message_ne {raw : String} {n n' : Nat} {h h' : Hole} {p p' : Problem}
    (ht : Tells raw h p) (ht' : Tells raw h' p') (hs : h.StandsAt raw.toList n)
    (hs' : h'.StandsAt raw.toList n') (hle : h.stop ≤ h'.start) :
    p.message (some raw) ≠ p'.message (some raw) := by
  intro heq
  obtain ⟨m, hm, hmstop, hplace⟩ := ht.place hs
  obtain ⟨m', hm', _, hplace'⟩ := ht'.place hs'
  have hkind := Problem.kind_eq_of_message heq
  have hsame := Problem.place_eq_of_message hm hm' heq
  have hstart := hs.start
  have hstart' := hs'.start
  have hlt := hs.start_lt
  rw [← hkind] at hplace'
  by_cases hk : p.kind.atStart = true
  · rw [if_pos hk] at hplace hplace'
    omega
  · rw [if_neg hk] at hplace hplace'
    omega

/-- A hole that reaches to the end of the raw template is the last one. -/
theorem Tells.kind_ne_unterminated {raw : String} {n' : Nat} {h h' : Hole} {p : Problem}
    (ht : Tells raw h p) (hs' : h'.StandsAt raw.toList n') (hle : h.stop ≤ h'.start) :
    p.kind ≠ .unterminated := by
  intro hk
  obtain ⟨hlt, _⟩ := List.getElem?_eq_some_iff.mp hs'.opening
  rw [String.length_toList] at hlt
  have hstart := hs'.start
  cases ht with
  | unterminated _ hend => omega
  | bareBrace _ _ => cases hk
  | emptyName _ _ => cases hk
  | @fault fault _ _ _ => cases fault <;> cases hk

/-! ## What is told of holes -/

theorem problems_eq_filterMap (raw : Option String) (tokens : List Token) :
    Token.problems raw tokens =
      (tokens.filterMap Token.hole?).filterMap (Hole.problem? raw) := by
  induction tokens with
  | nil => rfl
  | cons t rest ih =>
    cases t with
    | run r => exact ih
    | hole h =>
      have hcons : (Token.hole h :: rest).filterMap Token.hole? =
          h :: rest.filterMap Token.hole? := rfl
      rw [hcons, List.filterMap_cons, Token.problems, ih, Hole.problem?]
      cases h.property raw with
      | ok p => rfl
      | error why => cases why <;> rfl

/-- The properties that tokens stand for are those that their holes say. -/
theorem filterMap_said (tokens : List Token) :
    (Token.said tokens).filterMap Element.property? =
      (tokens.filterMap Token.hole?).filterMap Hole.property? := by
  induction tokens with
  | nil => rfl
  | cons t rest ih =>
    cases t with
    | run r =>
      rw [Token.said, filterMap_consText, ih]
      rfl
    | hole h =>
      have hcons : (Token.hole h :: rest).filterMap Token.hole? =
          h :: rest.filterMap Token.hole? := rfl
      rw [hcons, List.filterMap_cons, Token.said, ← ih]
      cases h.property? <;> rfl

/-- A problem of a hole that stands in a raw template is what is told of the hole. -/
theorem Hole.StandsAt.tells {raw : String} {n : Nat} {h : Hole} {p : Problem}
    (hs : h.StandsAt raw.toList n) (hp : h.problem? (some raw) = some p) : Tells raw h p := by
  rcases hs.problem with ⟨_, _, hnone⟩ | ⟨_, q, hsome, htells⟩
  · rw [hp] at hnone
    cases hnone
  · rw [hp] at hsome
    cases hsome
    exact htells

theorem told_of_stands {raw : String} {hs : List Hole}
    (hp : ∀ h ∈ hs, ∃ n, h.StandsAt raw.toList n) :
    List.Forall₂ (Tells raw) (malformed hs) (hs.filterMap (Hole.problem? (some raw))) := by
  induction hs with
  | nil => exact .nil
  | cons h hs ih =>
    obtain ⟨⟨n, hstands⟩, hrest⟩ := List.forall_mem_cons.mp hp
    unfold malformed
    rw [List.filter_cons, List.filterMap_cons]
    rcases hstands.problem with ⟨p, hsome, hnone⟩ | ⟨hnone, p, hsome, htells⟩
    · rw [hsome, hnone]
      exact ih hrest
    · rw [hnone, hsome]
      exact .cons htells (ih hrest)

/-- What is told of a hole is put in other words than what is told of those behind it, and it is not
that the raw template ends. -/
theorem Placed.pairwise {raw : String} {hs : List Hole} (hp : Placed raw.toList hs) :
    (hs.filterMap (Hole.problem? (some raw))).Pairwise fun p q =>
      p.message (some raw) ≠ q.message (some raw) ∧ p.kind ≠ .unterminated := by
  refine List.pairwise_filterMap.mpr (hp.behind.imp_of_mem ?_)
  intro h h' hmem hmem' hle p hsome q hsome'
  obtain ⟨n, hstands⟩ := hp.stands h hmem
  obtain ⟨n', hstands'⟩ := hp.stands h' hmem'
  have ht := hstands.tells hsome
  have ht' := hstands'.tells hsome'
  exact ⟨ht.message_ne ht' hstands hstands' hle, ht.kind_ne_unterminated hstands' hle⟩

/-! ## What is reported -/

/-- What is found in the holes of a raw template: something is told of each malformed one, in their
order, and all in different words. That a hole is not terminated is told at most of the last one. -/
structure Found (raw : String) (found : List Problem) : Prop where
  told : List.Forall₂ (Tells raw) (malformed (holes raw)) found
  distinct : (found.map (Problem.message (some raw))).Nodup
  terminated : ∀ p ∈ found.dropLast, p.kind ≠ .unterminated

theorem found_problems (raw : String) : Found raw (Token.problems (some raw) (scan raw)) := by
  have hp := placed_holes raw
  have hpairwise := hp.pairwise
  rw [problems_eq_filterMap]
  refine ⟨told_of_stands hp.stands, ?_, fun p hmem => ?_⟩
  · exact List.pairwise_map.mpr (hpairwise.imp And.left)
  · exact (hpairwise.rel_dropLast_getLast hmem).2

/-- What is wrong with the designators of the holes that say properties. -/
theorem ofDesignators_said (raw : String) :
    Problem.ofDesignators ((Token.said (scan raw)).filterMap Element.property?) =
      mixture (designatorsOf (holes raw)) ++ repetitions (designatorsOf (holes raw)) := by
  rw [ofDesignators_eq, filterMap_said]
  rfl

/-- What is wrong with designators is at no place. -/
theorem place?_of_mem_designators {ds : List Designator} {p : Problem}
    (hp : p ∈ mixture ds ++ repetitions ds) : p.place? = none := by
  rcases List.mem_append.mp hp with hp | hp
  · rw [mem_mixture hp]
    rfl
  · obtain ⟨name, rfl⟩ := mem_repetitions hp
    rfl

/-- What is told of a hole that is not closed. -/
theorem Tells.of_unclosed {raw : String} {h : Hole} {p : Problem} (ht : Tells raw h p)
    (hc : h.closed = false) :
    (p = .bareBrace h.print h.stop ↔ h.stop < raw.length) ∧
      (p = .unterminated h.print h.start ↔ h.stop = raw.length) := by
  cases ht with
  | bareBrace _ hs =>
    have hne : h.stop ≠ raw.length := by omega
    simp [hs, hne]
  | unterminated _ hs => simp [hs]
  | emptyName hclosed _ => simp [hclosed] at hc
  | fault hclosed _ _ => simp [hclosed] at hc

theorem Tells.place?_ne_none {raw : String} {h : Hole} {p : Problem} (ht : Tells raw h p) :
    p.place? ≠ none := by
  cases ht with
  | @fault fault _ _ _ => cases fault <;> exact Option.some_ne_none _
  | _ => exact Option.some_ne_none _

theorem Found.place?_ne_none {raw : String} {found : List Problem} (hf : Found raw found) :
    ∀ p ∈ found, p.place? ≠ none := by
  have htold := hf.told
  generalize malformed (holes raw) = hs at htold
  clear hf
  induction htold with
  | nil => exact fun _ hp => nomatch hp
  | cons ht _ ih => exact List.forall_mem_cons.mpr ⟨ht.place?_ne_none, ih⟩

/-- All that is reported is told apart by its words. -/
theorem Found.message_inj {raw : String} {found rest : List Problem} (hf : Found raw found)
    (hrest : ∀ p ∈ rest, p.place? = none) :
    ∀ p ∈ found ++ rest, ∀ q ∈ found ++ rest,
      p.message (some raw) = q.message (some raw) → p = q := by
  intro p hp q hq h
  rcases List.mem_append.mp hp with hp | hp
  · rcases List.mem_append.mp hq with hq | hq
    · exact List.inj_on_of_nodup_map hf.distinct hp hq h
    · exact (Problem.eq_of_message (hrest q hq) h.symm).symm
  · exact Problem.eq_of_message (hrest p hp) h

/-- Every problem of a raw template is reported once and in order. Something is told of each
malformed hole, always in different words; then it is told once if names and indices are mixed among
the designators of the other holes, and each time that a name of these was there before. If no
number has too many digits, a raw template is rejected exactly if there is any of this to tell, and
the log of the rejection, which is terminal, counts just this. What is told of holes has entries of
its own, also in the words in which the log is kept. If a number has too many digits, there is no
rejection whatever there is to tell. -/
theorem problems_reported (raw : String) :
    ∃ found rest, Found raw found ∧
      rest = mixture (designatorsOf (holes raw)) ++ repetitions (designatorsOf (holes raw)) ∧
      (∀ h ∈ holes raw, h.closed = false → ∀ p, Tells raw h p →
        (p = .bareBrace h.print h.stop ↔ h.stop < raw.length) ∧
          (p = .unterminated h.print h.start ↔ h.stop = raw.length)) ∧
      (∀ why, Template.parse raw = .error (.decimal why) ↔
        ∃ n, FirstOverlong (holes raw) n ∧ why = .tooLong n) ∧
      ((∃ why, Template.parse raw = .error (.rejected why)) ↔
        (∀ h ∈ holes raw, h.Short) ∧ found ++ rest ≠ []) ∧
      ∀ why, Template.parse raw = .error (.rejected why) →
        why.raw = raw ∧ why.log.terminal = true ∧ why.log.expanded = found ++ rest ∧
        why.log.entries = found.map (·, 1) ++ (Log.ofTerminal rest).entries ∧
        (Log.ofTerminal ((found ++ rest).map (Problem.message (some raw)))).entries =
          why.log.entries.map fun e => (e.1.message (some raw), e.2) := by
  refine ⟨_, _, found_problems raw, rfl, fun h _ hc p ht => ht.of_unclosed hc,
    fun why => parse_eq_decimal_iff, ?_⟩
  have hfound := found_problems raw
  rcases short_or_firstOverlong (holes raw) with hs | ⟨n, hf⟩
  · rw [parse_of_short hs, Template.ofElements, ofDesignators_said]
    have hrest : ∀ p ∈ mixture (designatorsOf (holes raw)) ++
        repetitions (designatorsOf (holes raw)), p.place? = none :=
      fun p hp => place?_of_mem_designators hp
    generalize Token.problems (some raw) (scan raw) = found at hfound ⊢
    generalize mixture (designatorsOf (holes raw)) ++ repetitions (designatorsOf (holes raw)) = rest
      at hrest ⊢
    by_cases hnone : found ++ rest = []
    · rw [if_pos (List.isEmpty_iff.mpr hnone)]
      refine ⟨⟨fun ⟨_, h⟩ => (by cases h), fun h => absurd hnone h.2⟩, fun why h => (by cases h)⟩
    · rw [if_neg fun h => hnone (List.isEmpty_iff.mp h)]
      refine ⟨⟨fun _ => ⟨hs, hnone⟩, fun _ => ⟨_, rfl⟩⟩, fun why h => ?_⟩
      cases h
      have hnew : ∀ p ∈ found, p ∉ rest := fun p hp hmem =>
        hfound.place?_ne_none p hp (hrest p hmem)
      have hnodup : found.Nodup := hfound.distinct.of_map _
      exact ⟨rfl, Log.terminal_ofTerminal hnone, Log.expanded_ofTerminal _,
        Log.entries_ofTerminal_append hnodup hnew,
        Log.entries_ofTerminal_map (hfound.message_inj hrest)⟩
  · rw [parse_of_overlong hf]
    exact ⟨⟨fun ⟨_, h⟩ => (by cases h), fun h => absurd h.1 hf.not_short⟩,
      fun why h => (by cases h)⟩

/-- Holes that are malformed in four ways, a mixture and a repetition. -/
theorem problems_reported_mixed :
    let raw := "{a}{0}{}{a}{b c}\x7bx\x7by"
    ∃ found why, Found raw found ∧ found.length = 4 ∧ Template.parse raw = .error (.rejected why) ∧
      why.log.entries = found.map (·, 1) ++ [(.mixedDesignators, 1), (.repeatedName "a", 1)] := by
  intro raw
  have hdesignators : designatorsOf (holes raw) = [.name "a", .index 0, .name "a"] := by
    decide +kernel
  have hmalformed : (malformed (holes raw)).length = 4 := by decide +kernel
  have hmixture : mixture (designatorsOf (holes raw)) = [.mixedDesignators] := by
    rw [hdesignators]
    decide
  have hrepetitions : repetitions (designatorsOf (holes raw)) = [.repeatedName "a"] := by
    rw [hdesignators]
    decide
  have hshort : ∀ h ∈ holes raw, h.Short := short_of_length_le (by decide)
  obtain ⟨found, rest, hfound, hrest, _, _, hiff, hwhy⟩ := problems_reported raw
  rw [hmixture, hrepetitions] at hrest
  have hlength : found.length = 4 := hfound.told.length_eq.symm.trans hmalformed
  obtain ⟨why, hparse⟩ := hiff.mpr ⟨hshort, by simp [hrest]⟩
  obtain ⟨_, _, _, hentries, _⟩ := hwhy why hparse
  rw [hrest] at hentries
  exact ⟨found, why, hfound, hlength, hparse, hentries⟩

/-- A hole that is not terminated, of which nothing is reported: an index of many zeros stands in
front of it. -/
theorem problems_unreported :
    let raw := enclose (List.replicate (Decimal.mostDigits + 1) '0') ++ "\x7bx"
    (∃ found rest, Found raw found ∧
      rest = mixture (designatorsOf (holes raw)) ++ repetitions (designatorsOf (holes raw)) ∧
      found ++ rest ≠ []) ∧
    ¬ ∃ why, Template.parse raw = .error (.rejected why) := by
  intro raw
  have ho := Overlong.zeros (Nat.lt_succ_self Decimal.mostDigits)
  obtain ⟨p, hform⟩ := ho.form
  refine ⟨⟨_, _, found_problems raw, rfl, fun hnone => ?_⟩, fun ⟨why, h⟩ => ?_⟩
  · have htold := (found_problems raw).told
    rw [(List.append_eq_nil_iff.mp hnone).1, List.forall₂_nil_right_iff, malformed,
      List.filter_eq_nil_iff] at htold
    obtain ⟨h, hmem, hopen⟩ := exists_open_hole hform.braceless
    exact htold h hmem (by rw [hopen]; rfl)
  · have hparse := parse_of_overlong (firstOverlong_enclose ho "\x7bx")
    cases h.symm.trans hparse

end EventTemplate
