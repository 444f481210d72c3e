import EventTemplate.Proofs.Property.Fault
import EventTemplate.Proofs.Template.Report

/-
  The places of syntax errors. A closed hole whose body is no property is told of in one message. If
  there is nothing where its designator should be, that is said. Else the message points at a
  character of the body.

  Proved: what is wrong with a hole is logged once, if no number has too many digits
  (`logged_once`); the character is the one behind which the body cannot be read any further
  (`Hole.StandsAt.fault`); and no hole is ever told to end too early, wherever it is from
  (`not_ending`). All together: `faults_located`.
-/

namespace EventTemplate

variable {raw : String} {h : Hole} {problem : Problem}

/-! ## The log -/

/-- What is wrong with a hole is logged once, in words of its own. -/
theorem logged_once (hs : ∀ h ∈ holes raw, h.Short) (hmem : h ∈ holes raw)
    (hp : h.property (some raw) = .error (.problem problem)) :
    ∃ why, Template.parse raw = .error (.rejected why) ∧
      (why.log.expanded.map (Problem.message (some raw))).count
        (problem.message (some raw)) = 1 := by
  have hfound := found_problems raw
  have hproblem : problem ∈ Token.problems (some raw) (scan raw) := by
    rw [problems_eq_filterMap]
    refine List.mem_filterMap.mpr ⟨h, hmem, ?_⟩
    rw [Hole.problem?, hp]
  have hparse := parse_of_short hs
  rw [Template.ofElements, ofDesignators_said] at hparse
  generalize Token.problems (some raw) (scan raw) = found at hfound hproblem hparse
  have hne : ¬ (found ++ (mixture (designatorsOf (holes raw)) ++
      repetitions (designatorsOf (holes raw)))).isEmpty = true := by
    intro hempty
    have hnil := (List.append_eq_nil_iff.mp (List.isEmpty_iff.mp hempty)).1
    rw [hnil] at hproblem
    cases hproblem
  have hothers : problem.message (some raw) ∉
      (mixture (designatorsOf (holes raw)) ++ repetitions (designatorsOf (holes raw))).map
        (Problem.message (some raw)) := by
    intro hmem'
    obtain ⟨q, hq, hsame⟩ := List.mem_map.mp hmem'
    have hplace := place?_of_mem_designators hq
    rw [Problem.eq_of_message hplace hsame] at hplace
    exact hfound.place?_ne_none problem hproblem hplace
  rw [if_neg hne] at hparse
  refine ⟨_, hparse, ?_⟩
  rw [Log.expanded_ofTerminal, List.map_append, List.count_append, List.count_eq_zero.mpr hothers,
    List.count_eq_one_of_mem hfound.distinct (List.mem_map_of_mem hproblem)]

/-! ## Messages -/

/-- How the message of a fault begins. -/
theorem message_of_found {fault : BodyFault} {c : Char} (hc : fault.found? = some c)
    (offset : Int) (line : Option String) :
    ∃ rest, (Problem.ofFault offset fault).message line =
      "Unexpected character " ++ Text.quoted (String.singleton c) ++ " at position "
        ++ toString (offset + fault.offset) ++ rest := by
  cases fault with
  | nameExpected n found =>
    cases hc
    refine ⟨", expected property name or index" ++ Problem.pointer line (offset + n), ?_⟩
    rw [Problem.ofFault, Problem.message_nameExpected_some, String.append_assoc]
    rfl
  | unexpected n found =>
    cases hc
    exact ⟨Problem.pointer line (offset + n), rfl⟩

/-- That nothing is where the designator should be is told of the holes of which it is true. -/
theorem emptyName_iff (hc : h.closed = true) (line : Option String) :
    h.property line = .error (.problem (.emptyName h.print h.start)) ↔ Nameless h.body.toList := by
  rw [Hole.property_of_closed hc, ← lacksName_iff]
  constructor
  · intro hp
    by_contra hn
    rw [if_neg hn] at hp
    split at hp
    · cases toProperty_ne_problem hp
    · rename_i fault _
      cases fault <;> cases hp
  · intro hn
    rw [if_pos hn]

/-- All that reading a hole can fail with. -/
theorem property_error_cases {line : Option String}
    (hp : h.property line = .error (.problem problem)) :
    problem.kind ≠ .fault ∨
      ∃ fault c, problem = .ofFault (h.start + 1) fault ∧ fault.found? = some c := by
  unfold Hole.property at hp
  split at hp
  · -- a hole that is not closed
    split at hp
    · cases hp
      exact .inl nofun
    · cases hp
      exact .inl nofun
  · split at hp
    · cases hp
      exact .inl nofun
    · rename_i hn
      split at hp
      · cases toProperty_ne_problem hp
      · rename_i fault hread
        cases hp
        obtain ⟨c, hc⟩ := exists_found (fun hnameless => hn ((lacksName_iff _).mpr hnameless)) hread
        exact .inr ⟨fault, c, rfl, hc⟩

/-- No hole is told to end too early. -/
theorem not_ending {line : Option String} (hp : h.property line = .error (.problem problem))
    (line' : Option String) :
    ¬ "Unexpected end of property".toList <+: (problem.message line').toList := by
  rintro ⟨rest, hrest⟩
  rcases property_error_cases hp with hkind | ⟨fault, c, rfl, hc⟩
  · -- the first three characters tell the kind
    refine hkind (Problem.Kind.opening_injective ?_)
    rw [← Problem.take_message line', ← hrest]
    rfl
  · obtain ⟨more, hmore⟩ := message_of_found hc (h.start + 1) line'
    rw [hmore] at hrest
    have htake := congrArg (List.take 12) hrest
    simp at htake

/-! ## Places -/

/-- A closed hole with a designator whose body is no property is faulty at the character of the raw
template behind which the body cannot be read any further. -/
theorem Hole.StandsAt.fault {m : Nat} (hs : h.StandsAt raw.toList m) (hc : h.closed = true)
    (hn : ¬ Nameless h.body.toList) (hno : ∀ p, ¬ PropertyForm h.body.toList p) :
    ∃ fault c, h.property (some raw) = .error (.problem (.ofFault (h.start + 1) fault)) ∧
      fault.found? = some c ∧ ReadsUpTo h.body.toList fault.offset ∧
      fault.offset < h.body.length ∧
      raw.toList[(h.start + 1 + fault.offset).toNat]? = some c := by
  have hread : ∃ fault, Body.read h.body.toList = .error fault ∧
      h.property (some raw) = .error (.problem (.ofFault (h.start + 1) fault)) := by
    have hlacks : ¬ Body.lacksName h.body.toList = true := fun h => hn ((lacksName_iff _).mp h)
    rw [Hole.property_of_closed hc, if_neg hlacks]
    cases hread : Body.read h.body.toList with
    | ok body => exact absurd (read_sound hs.braceless hread) (hno _)
    | error fault => exact ⟨fault, rfl, rfl⟩
  obtain ⟨fault, hread, hproperty⟩ := hread
  obtain ⟨c, hfound⟩ := exists_found hn hread
  obtain ⟨hupTo, hget⟩ := readsUpTo_of_read hs.braceless hread
  have hlt := offset_lt_of_read hn hread
  rw [String.length_toList] at hlt
  refine ⟨fault, c, hproperty, hfound, hupTo, hlt, ?_⟩
  have hplace : (h.start + 1 + fault.offset).toNat = m + 1 + fault.offset := by
    rw [hs.start]
    omega
  rw [hplace, ← List.getElem?_drop, ← hfound, ← hget, ← hs.body, List.getElem?_take_of_lt hlt]

/-- What is told of the closed holes of a raw template. If no number has too many digits, a hole
with a problem is told of in one message of the log; else nothing is logged. If the body of a hole
is no property, and does not end or go on where its designator should be, the message points at a
character between the braces and shows it: the one up to which the body can be read. That nothing is
where the designator should be is told exactly of the holes of which it is true, and their bodies
could not be read either. There is a character at the place of every fault that is looked for, so no
hole is ever told to end too early, not even one that is in no raw template. -/
theorem faults_located (raw : String) :
    ((∀ h ∈ holes raw, h.Short) →
      ∀ h ∈ holes raw, ∀ problem, h.property (some raw) = .error (.problem problem) →
      ∃ why, Template.parse raw = .error (.rejected why) ∧
        (why.log.expanded.map (Problem.message (some raw))).count
          (problem.message (some raw)) = 1) ∧
    (∀ why, Template.parse raw = .error (.decimal why) ↔
      ∃ n, FirstOverlong (holes raw) n ∧ why = .tooLong n) ∧
    (∀ h ∈ holes raw, h.closed = true → ¬ Nameless h.body.toList →
      (∀ p, ¬ PropertyForm h.body.toList p) →
      ∃ problem, ∃ n : Nat, ∃ c rest, h.property (some raw) = .error (.problem problem) ∧
        problem.message (some raw) = "Unexpected character " ++ Text.quoted (String.singleton c)
          ++ " at position " ++ toString (h.start + 1 + n) ++ rest ∧
        raw.toList[(h.start + 1 + n).toNat]? = some c ∧
        h.start < h.start + 1 + n ∧ h.start + 1 + n < h.stop - 1 ∧
        ReadsUpTo h.body.toList n) ∧
    (∀ h ∈ holes raw, h.closed = true →
      (h.property (some raw) = .error (.problem (.emptyName h.print h.start)) ↔
        Nameless h.body.toList) ∧
      (Nameless h.body.toList → ∀ body, Body.read h.body.toList ≠ .ok body)) ∧
    (∀ (h : Hole) fault, ¬ Nameless h.body.toList → Body.read h.body.toList = .error fault →
      fault.offset < h.body.length) ∧
    ∀ (h : Hole) line problem, h.property line = .error (.problem problem) → ∀ line',
      ¬ "Unexpected end of property".toList <+: (problem.message line').toList := by
  have hplaced := placed_holes raw
  refine ⟨fun hs h hmem problem => logged_once hs hmem, fun why => parse_eq_decimal_iff,
    fun h hmem hc hn hno => ?_,
    fun h hmem hc => ⟨emptyName_iff hc (some raw), fun hn body hread => ?_⟩,
    fun h fault hn hread => ?_, fun h line problem => not_ending⟩
  · obtain ⟨m, hs⟩ := hplaced.stands h hmem
    obtain ⟨fault, c, hproperty, hfound, hupTo, hlt, hget⟩ := hs.fault hc hn hno
    obtain ⟨rest, hmessage⟩ := message_of_found hfound (h.start + 1) (some raw)
    have hstop := hs.stop
    rw [if_pos hc] at hstop
    have hstart := hs.start
    exact ⟨_, fault.offset, c, rest, hproperty, hmessage, hget, by omega, by omega, hupTo⟩
  · obtain ⟨m, hs⟩ := hplaced.stands h hmem
    exact hn.not_form _ (read_sound hs.braceless hread)
  · have hlt := offset_lt_of_read hn hread
    rwa [String.length_toList] at hlt

/-- A body that can be read up to the end of its alignment, a body that can be read up to the end of
its operator, and one that has a format where its designator should be. -/
theorem faults_located_three :
    let raw := "x{a,5 b}{@!}{$:q}"
    let aligned : Hole := ⟨"a,5 b", 1, 8, true⟩
    let marked : Hole := ⟨"@!", 8, 12, true⟩
    let nameless : Hole := ⟨"$:q", 12, 17, true⟩
    holes raw = [aligned, marked, nameless] ∧
    (∀ h ∈ [aligned, marked], ¬ Nameless h.body.toList ∧ (∀ p, ¬ PropertyForm h.body.toList p) ∧
      ∃ problem, ∃ n : Nat, ∃ c rest, h.property (some raw) = .error (.problem problem) ∧
        problem.message (some raw) = "Unexpected character " ++ Text.quoted (String.singleton c)
          ++ " at position " ++ toString (h.start + 1 + n) ++ rest ∧
        raw.toList[(h.start + 1 + n).toNat]? = some c ∧
        h.start < h.start + 1 + n ∧ h.start + 1 + n < h.stop - 1 ∧
        ReadsUpTo h.body.toList n) ∧
    nameless.property (some raw) = .error (.problem (.emptyName "{$:q}" 12)) ∧
    ∃ why, Template.parse raw = .error (.rejected why) ∧
      (why.log.expanded.map (Problem.message (some raw))).count
        "Empty property name in `{$:q}` at position 12" = 1 := by
  intro raw aligned marked nameless
  have hholes : holes raw = [aligned, marked, nameless] := by decide +kernel
  have hshort : ∀ h ∈ holes raw, h.Short := short_of_length_le (by decide)
  obtain ⟨honce, _, hplaces, hempty, _⟩ := faults_located raw
  have honce := honce hshort
  rw [hholes] at honce hplaces hempty
  have hfaulty : ∀ h ∈ [aligned, marked], Body.lacksName h.body.toList = false ∧
      (Body.read h.body.toList).isOk = false := by decide
  have hmem : nameless ∈ [aligned, marked, nameless] := by decide
  have hprint : nameless.print = "{$:q}" := by decide
  have hproperty := ((hempty nameless hmem rfl).1).mpr ((lacksName_iff _).mp (by decide))
  rw [hprint] at hproperty
  have hmessage : (Problem.emptyName "{$:q}" nameless.start).message (some raw) =
      "Empty property name in `{$:q}` at position 12" := by
    decide +kernel
  have hlogged := honce nameless hmem _ hproperty
  rw [hmessage] at hlogged
  refine ⟨hholes, fun h hh => ?_, hproperty, hlogged⟩
  obtain ⟨hlacks, hread⟩ := hfaulty h hh
  have hn : ¬ Nameless h.body.toList := by
    rw [← lacksName_iff, hlacks]
    exact Bool.false_ne_true
  have hno : ∀ p, ¬ PropertyForm h.body.toList p := by
    intro p hp
    obtain ⟨body, hok, _⟩ := read_complete hp
    rw [hok] at hread
    cases hread
  have hclosed : h.closed = true := by
    rcases List.mem_pair.mp hh with rfl | rfl <;> rfl
  have hall : h ∈ [aligned, marked, nameless] := by
    rcases List.mem_pair.mp hh with rfl | rfl <;> decide
  exact ⟨hn, hno, hplaces h hall hclosed hn hno⟩

/-- A hole with a space in its name, of which nothing is logged: an index of many zeros stands in
front of it. -/
theorem fault_unlogged :
    let raw := enclose (List.replicate (Decimal.mostDigits + 1) '0') ++ "{a b}"
    (∃ h ∈ holes raw, h.closed = true ∧ ¬ Nameless h.body.toList ∧
      ∀ p, ¬ PropertyForm h.body.toList p) ∧
    ¬ ∃ why, Template.parse raw = .error (.rejected why) := by
  intro raw
  have ho := Overlong.zeros (Nat.lt_succ_self Decimal.mostDigits)
  obtain ⟨p, hform⟩ := ho.form
  refine ⟨?_, fun ⟨why, h⟩ => ?_⟩
  · have hclosed : ∀ n, scanFrom n {} "{a b}".toList = [.hole ⟨"a b", n, n + 1 + 3 + 1, true⟩] :=
      fun n => by simp [scanFrom, readHole, holeBody, afterBody, Pending.flush]
    have hholes := holes_enclose_append hform.braceless "{a b}"
    rw [hclosed] at hholes
    have hmem : ∃ n, (⟨"a b", n, n + 1 + 3 + 1, true⟩ : Hole) ∈ holes raw := by
      rw [hholes]
      exact ⟨_, List.mem_cons_of_mem _ List.mem_cons_self⟩
    obtain ⟨n, hmem⟩ := hmem
    have hlacks : Body.lacksName "a b".toList = false := by decide
    have hread : Body.read "a b".toList = .error (.unexpected 1 ' ') := by decide
    refine ⟨_, hmem, rfl, ?_, fun p hp => ?_⟩
    · rw [← lacksName_iff, hlacks]
      exact Bool.false_ne_true
    · obtain ⟨b, hok, _⟩ := read_complete hp
      cases hread.symm.trans hok
  · have hparse := parse_of_overlong (firstOverlong_enclose ho "{a b}")
    cases h.symm.trans hparse

end EventTemplate
