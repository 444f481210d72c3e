import EventTemplate.Proofs.Property.Grammar
import EventTemplate.Proofs.Token.Hole
import EventTemplate.Template.Parse

/-
  Numbers with too many digits. The grammar derives them, but they cannot be read, and the first of
  them ends the reading of everything: it is told how many digits it has, and nothing else.

  Proved: where no number has too many digits, holes and tokens stand for what the grammar derives
  (`Hole.property_of_short`, `Token.elements_of_short`); else the first such number is told
  (`Token.elements_of_overlong`). A number that can be read can be written too (`Property.Short`).
-/

namespace EventTemplate

/-! ## Bodies -/

/-- `Overlong cs n`: the characters `cs` are the body of a property, and the first number in it that
has too many digits has `n` of them. -/
inductive Overlong : List Char → Nat → Prop where
  | index {ds as fs : List Char} {a : Option Int} {f : Option String} (operator : Operator)
      (hd : Numeral ds) (hn : Decimal.mostDigits < ds.length) (ha : AlignmentForm as a)
      (hf : FormatForm fs f) : Overlong (operator.symbol ++ (ds ++ (as ++ fs))) ds.length
  | alignment {ds as fs : List Char} {d : Designator} {a : Option Int} {f : Option String}
      (operator : Operator) (hd : DesignatorForm ds d)
      (hs : Numeral ds → ds.length ≤ Decimal.mostDigits) (ha : AlignmentForm as a)
      (hn : Decimal.mostDigits < as.countP Char.isDigit) (hf : FormatForm fs f) :
      Overlong (operator.symbol ++ (ds ++ (as ++ fs))) (as.countP Char.isDigit)

theorem Overlong.form {cs : List Char} {n : Nat} (h : Overlong cs n) : ∃ p, PropertyForm cs p := by
  cases h with
  | index operator hd _ ha hf => exact ⟨_, .intro operator (.index hd) ha hf⟩
  | alignment operator hd _ ha _ hf => exact ⟨_, .intro operator hd ha hf⟩

theorem Overlong.most_lt {cs : List Char} {n : Nat} (h : Overlong cs n) :
    Decimal.mostDigits < n := by
  cases h with
  | index _ _ hn _ _ => exact hn
  | alignment _ _ _ _ hn _ => exact hn

theorem Overlong.le_length {cs : List Char} {n : Nat} (h : Overlong cs n) : n ≤ cs.length := by
  cases h with
  | index => simp only [List.length_append]; omega
  | @alignment ds as =>
    have hle := @List.countP_le_length _ Char.isDigit as
    simp only [List.length_append]
    omega

/-- Leading zeros count. -/
theorem Overlong.zeros {n : Nat} (hn : Decimal.mostDigits < n) :
    Overlong (List.replicate n '0') n := by
  have hd : Numeral (List.replicate n '0') := by
    refine ⟨fun hnil => ?_, fun c hc => ?_⟩
    · have hlength := congrArg List.length hnil
      rw [List.length_replicate] at hlength
      exact Nat.not_lt_zero _ (hlength ▸ hn)
    · rw [List.eq_of_mem_replicate hc]
      decide
  have hlong := Overlong.index .plain hd (by simpa using hn) .none .none
  simpa [Operator.symbol] using hlong

section Reading

variable {cs ds as fs : List Char} {d : Designator} {a : Option Int} {f : Option String}

theorem designatorOf_numeral (h : Numeral ds) :
    Body.designatorOf ds =
      if Decimal.mostDigits < ds.length then .error (.tooLong ds.length)
      else .ok (.index (Nat.ofDigitChars 10 ds 0)) := by
  rw [Body.designatorOf, if_pos (List.all_eq_true.mpr h.digits), Decimal.read_eq]
  split <;> rfl

/-- A designator is read unless it is a numeral with too many digits. -/
theorem DesignatorForm.designatorOf (h : DesignatorForm ds d)
    (hs : Numeral ds → ds.length ≤ Decimal.mostDigits) : Body.designatorOf ds = .ok d := by
  cases h with
  | index hd => rw [designatorOf_numeral hd, if_neg (Nat.not_lt.mpr (hs hd))]
  | name _ hn =>
    obtain ⟨c, hc, hdigit⟩ := hn
    rw [Body.designatorOf, if_neg]
    intro hall
    rw [List.all_eq_true.mp hall c hc] at hdigit
    cases hdigit

theorem alignmentOf_numeral (h : Numeral ds) :
    Body.alignmentOf ds = (Decimal.read ds).map Int.ofNat := by
  cases ds with
  | nil => exact absurd rfl h.ne_nil
  | cons d ds =>
    have : d ≠ '-' := ne_of_isDigit (h.digits d List.mem_cons_self) (by decide)
    simp [Body.alignmentOf, this]

theorem Numeral.countP (h : Numeral ds) : ds.countP Char.isDigit = ds.length :=
  List.countP_eq_length.mpr h.digits

/-- An alignment is read unless it has too many digits. -/
theorem AlignmentForm.mapM_alignmentOf (h : AlignmentForm as a) :
    as.tail?.mapM Body.alignmentOf =
      if Decimal.mostDigits < as.countP Char.isDigit then .error (.tooLong (as.countP Char.isDigit))
      else .ok a := by
  cases h with
  | none => rfl
  | @positive ds hd =>
    have hcount : (',' :: ds).countP Char.isDigit = ds.length := hd.countP
    rw [hcount, List.tail?_cons, Option.mapM_some, alignmentOf_numeral hd, Decimal.read_eq]
    split <;> rfl
  | @negative ds hd =>
    have hcount : (',' :: '-' :: ds).countP Char.isDigit = ds.length := hd.countP
    have hread : Body.alignmentOf ('-' :: ds) = (Decimal.read ds).map fun n => -(n : Int) := rfl
    rw [hcount, List.tail?_cons, Option.mapM_some, hread, Decimal.read_eq]
    split <;> rfl

/-- The parts of a property are read if no number in them has too many digits. -/
theorem toProperty_parts (operator : Operator) (hd : DesignatorForm ds d)
    (hs : Numeral ds → ds.length ≤ Decimal.mostDigits) (ha : AlignmentForm as a)
    (has : as.countP Char.isDigit ≤ Decimal.mostDigits) (hf : FormatForm fs f)
    (source : Option String) :
    (Body.mk operator ds as.tail? fs.tail?).toProperty source =
      .ok ⟨d, operator, a, f, source⟩ := by
  rw [Body.toProperty, hd.designatorOf hs, ha.mapM_alignmentOf, if_neg (Nat.not_lt.mpr has)]
  simp only [hf.said]
  rfl

/-- A body with a number of too many digits has the parts of a property, and they are not read. -/
theorem Overlong.read {n : Nat} (h : Overlong cs n) :
    ∃ b, Body.read cs = .ok b ∧ ∀ source, b.toProperty source = .error (.tooLong n) := by
  cases h with
  | index operator hd hn ha hf =>
    refine ⟨_, read_parts operator (.index hd) ha hf, fun source => ?_⟩
    rw [Body.toProperty, designatorOf_numeral hd, if_pos hn]
    rfl
  | alignment operator hd hs ha hn hf =>
    refine ⟨_, read_parts operator hd ha hf, fun source => ?_⟩
    rw [Body.toProperty, hd.designatorOf hs, ha.mapM_alignmentOf, if_pos hn]
    rfl

theorem not_overlong (operator : Operator) (hd : DesignatorForm ds d)
    (hs : Numeral ds → ds.length ≤ Decimal.mostDigits) (ha : AlignmentForm as a)
    (has : as.countP Char.isDigit ≤ Decimal.mostDigits) (hf : FormatForm fs f) (n : Nat) :
    ¬ Overlong (operator.symbol ++ (ds ++ (as ++ fs))) n := by
  intro ho
  obtain ⟨b, hread, hb⟩ := ho.read
  rw [read_parts operator hd ha hf] at hread
  cases hread
  cases (hb none).symm.trans (toProperty_parts operator hd hs ha has hf none)

theorem Overlong.unique {n n' : Nat} (h : Overlong cs n) (h' : Overlong cs n') : n = n' := by
  obtain ⟨b, hread, hb⟩ := h.read
  obtain ⟨b', hread', hb'⟩ := h'.read
  rw [hread] at hread'
  cases hread'
  have hsame := (hb none).symm.trans (hb' none)
  cases hsame
  rfl

/-- The parts of a property are read unless a number in them has too many digits. -/
theorem PropertyForm.read {p : Property} (h : PropertyForm cs p) (hs : ∀ n, ¬ Overlong cs n) :
    ∃ b, Body.read cs = .ok b ∧ b.toProperty (some (enclose cs)) = .ok p := by
  cases h with
  | @intro ds as _ _ _ _ operator hd ha hf =>
    have hds : Numeral ds → ds.length ≤ Decimal.mostDigits := fun hnumeral =>
      Nat.le_of_not_lt fun hn => hs _ (.index operator hnumeral hn ha hf)
    have has : as.countP Char.isDigit ≤ Decimal.mostDigits :=
      Nat.le_of_not_lt fun hn => hs _ (.alignment operator hd hds ha hn hf)
    exact ⟨_, read_parts operator hd ha hf, toProperty_parts operator hd hds ha has hf _⟩

end Reading

/-! ## Properties -/

/-- No number in the source of a property has too many digits. -/
def Property.Short (p : Property) : Prop :=
  ∀ body n, p.source = some (enclose body) → ¬ Overlong body n

theorem enclose_injective : Function.Injective enclose := by
  intro cs cs' h
  simpa [enclose] using congrArg String.toList h

theorem PropertyForm.short_iff {cs : List Char} {p : Property} (h : PropertyForm cs p) :
    p.Short ↔ ∀ n, ¬ Overlong cs n := by
  refine ⟨fun hs n => hs cs n h.source, fun hs body n hsource => ?_⟩
  rw [h.source, Option.some.injEq] at hsource
  rw [← enclose_injective hsource]
  exact hs n

/-- A designator in characters, however many it takes. -/
def Designator.text : Designator → String
  | name s => s
  | index n => toString n

/-- A designator that can be written. -/
def Designator.Short : Designator → Prop
  | name _ => True
  | index n => Decimal.Short n

theorem Designator.print_of_short {d : Designator} (h : d.Short) : d.print = .ok d.text := by
  cases d with
  | name s => rfl
  | index n => exact Decimal.print_of_short h

/-- An index that can be read can be written. -/
theorem PropertyForm.designator_short {cs : List Char} {p : Property} (h : PropertyForm cs p)
    (hs : p.Short) : p.designator.Short := by
  have hno := h.short_iff.mp hs
  cases h with
  | intro operator hd ha hf =>
    cases hd with
    | index hd =>
      refine Decimal.short_ofDigitChars hd.digits (Nat.le_of_not_lt fun hn => ?_)
      exact hno _ (.index operator hd hn ha hf)
    | name _ _ => trivial

/-! ## Holes -/

theorem toProperty_ne_problem {b : Body} {source : Option String} {problem : Problem} :
    (b.toProperty source).mapError HoleError.decimal ≠ .error (.problem problem) := by
  cases b.toProperty source <;> exact fun h => nomatch h

namespace Hole

/-- A hole says a property, and the first number in it that has too many digits has `n`. -/
def Overlong (h : Hole) (n : Nat) : Prop :=
  h.closed = true ∧ EventTemplate.Overlong h.body.toList n

/-- No number in a hole has too many digits. -/
def Short (h : Hole) : Prop :=
  ∀ n, ¬ h.Overlong n

variable {h : Hole} {p : Property}

theorem short_iff (hb : Braceless h.body.toList) (hp : h.property? = some p) :
    h.Short ↔ p.Short := by
  obtain ⟨hc, hform⟩ := (property?_eq_some_iff hb).mp hp
  rw [hform.short_iff]
  exact forall_congr' fun n => not_congr (and_iff_right hc)

theorem Overlong.property? {n : Nat} (ho : h.Overlong n) : ∃ p, h.property? = some p := by
  obtain ⟨hc, ho⟩ := ho
  obtain ⟨p, hform⟩ := ho.form
  exact ⟨p, (property?_eq_some_iff hform.braceless).mpr ⟨hc, hform⟩⟩

/-- A hole that says no property has a problem. -/
theorem property_of_none (hp : h.property? = none) (raw : Option String) :
    ∃ problem, h.property raw = .error (.problem problem) := by
  unfold Hole.property? at hp
  unfold Hole.property
  by_cases hc : h.closed = true
  · rw [if_pos hc] at hp
    rw [if_neg (by simp [hc])]
    split
    · exact ⟨_, rfl⟩
    · split
      · rename_i hread
        rw [hread] at hp
        cases hp
      · exact ⟨_, rfl⟩
  · rw [if_pos (by simpa using hc)]
    split <;> exact ⟨_, rfl⟩

theorem property_of_closed (hc : h.closed = true) (raw : Option String) :
    h.property raw =
      if Body.lacksName h.body.toList then .error (.problem (.emptyName h.print h.start))
      else match Body.read h.body.toList with
        | .ok body => (body.toProperty (some h.print)).mapError .decimal
        | .error fault => .error (.problem (.ofFault (h.start + 1) fault)) :=
  if_neg (by simp [hc])

/-- A number with too many digits is all that is told of a hole. -/
theorem property_of_overlong {n : Nat} (ho : h.Overlong n) (raw : Option String) :
    h.property raw = .error (.decimal (.tooLong n)) := by
  obtain ⟨hc, ho⟩ := ho
  obtain ⟨p, hform⟩ := ho.form
  obtain ⟨b, hread, hb⟩ := ho.read
  rw [property_of_closed hc, if_neg (by simp [hform.lacksName]), hread]
  dsimp only
  rw [hb]
  rfl

theorem property_of_short (hb : Braceless h.body.toList) (hp : h.property? = some p)
    (hs : h.Short) (raw : Option String) : h.property raw = .ok p := by
  obtain ⟨hc, hform⟩ := (property?_eq_some_iff hb).mp hp
  obtain ⟨b, hread, hproperty⟩ := hform.read fun n ho => hs n ⟨hc, ho⟩
  rw [property_of_closed hc, if_neg (by simp [hform.lacksName]), hread, print_of_closed hc]
  dsimp only
  rw [hproperty]
  rfl

/-- What reading a hole can give. -/
theorem property_cases (hb : Braceless h.body.toList) (raw : Option String) :
    (∃ p, h.property? = some p ∧ h.Short ∧ h.property raw = .ok p) ∨
    (∃ p n, h.property? = some p ∧ h.Overlong n ∧
      h.property raw = .error (.decimal (.tooLong n))) ∨
    ∃ problem, h.property? = none ∧ h.Short ∧ h.property raw = .error (.problem problem) := by
  cases hp : h.property? with
  | some p =>
    by_cases hs : h.Short
    · exact .inl ⟨p, rfl, hs, property_of_short hb hp hs raw⟩
    · obtain ⟨n, ho⟩ := Classical.not_forall_not.mp hs
      exact .inr (.inl ⟨p, n, rfl, ho, property_of_overlong ho raw⟩)
  | none =>
    obtain ⟨problem, hproblem⟩ := property_of_none hp raw
    refine .inr (.inr ⟨problem, rfl, fun n ho => ?_, hproblem⟩)
    obtain ⟨p, hsome⟩ := ho.property?
    rw [hp] at hsome
    cases hsome

end Hole

/-! ## Tokens -/

/-- In one of these holes, a number has too many digits, and the first such number has `n`. -/
def FirstOverlong (hs : List Hole) (n : Nat) : Prop :=
  ∃ before h after, hs = before ++ h :: after ∧ (∀ h' ∈ before, h'.Short) ∧ h.Overlong n

theorem FirstOverlong.not_short {hs : List Hole} {n : Nat} (hf : FirstOverlong hs n) :
    ¬ ∀ h ∈ hs, h.Short := by
  obtain ⟨before, h, after, rfl, _, ho⟩ := hf
  exact fun hs => hs h (List.mem_append_right _ List.mem_cons_self) n ho

theorem FirstOverlong.cons {h : Hole} {hs : List Hole} {n : Nat} (hshort : h.Short)
    (hf : FirstOverlong hs n) : FirstOverlong (h :: hs) n := by
  obtain ⟨before, h', after, rfl, hbefore, ho⟩ := hf
  exact ⟨h :: before, h', after, rfl, List.forall_mem_cons.mpr ⟨hshort, hbefore⟩, ho⟩

/-- Either all numbers in some holes are short enough, or there is a first one that is not. -/
theorem short_or_firstOverlong (hs : List Hole) :
    (∀ h ∈ hs, h.Short) ∨ ∃ n, FirstOverlong hs n := by
  induction hs with
  | nil => exact .inl fun _ hmem => nomatch hmem
  | cons h hs ih =>
    by_cases hshort : h.Short
    · rcases ih with hrest | ⟨n, hf⟩
      · exact .inl (List.forall_mem_cons.mpr ⟨hshort, hrest⟩)
      · exact .inr ⟨n, hf.cons hshort⟩
    · obtain ⟨n, ho⟩ := Classical.not_forall_not.mp hshort
      exact .inr ⟨n, [], h, hs, rfl, fun _ hmem => (nomatch hmem), ho⟩

/-- There are no more digits in a hole than there are characters in the raw template. -/
theorem short_of_length_le {raw : String} (hle : raw.length ≤ Decimal.mostDigits) :
    ∀ h ∈ holes raw, h.Short := by
  rintro h hmem n ⟨_, ho⟩
  obtain ⟨m, hs⟩ := (placed_holes raw).stands h hmem
  have hlong := ho.most_lt
  have hbody := ho.le_length
  rw [← hs.body, List.length_take, List.length_drop, String.length_toList] at hbody
  omega

/-- A closed hole in front is the first hole. -/
theorem holes_enclose_append {cs : List Char} (hb : Braceless cs) (rest : String) :
    holes (enclose cs ++ rest) = ⟨String.ofList cs, 0, 0 + 1 + cs.length + 1, true⟩ ::
      (scanFrom (0 + 1 + cs.length + 1) {} rest.toList).filterMap Token.hole? := by
  have hcut := Cut.closed hb (cut_scanFrom (0 + 1 + cs.length + 1) rest.toList)
  have htext : (enclose cs ++ rest).toList = '{' :: (cs ++ '}' :: rest.toList) := by
    simp [enclose]
  rw [← htext] at hcut
  have hscan : scan (enclose cs ++ rest) = _ := scanFrom_of_cut hcut
  rw [holes, hscan]
  rfl

/-- A hole that is left open behind another. -/
theorem exists_open_hole {cs : List Char} (hb : Braceless cs) :
    ∃ h ∈ holes (enclose cs ++ "\x7bx"), h.property? = none := by
  have hopen (n : Int) : scanFrom n {} "\x7bx".toList = [.hole ⟨"x", n, n + 1 + 1, false⟩] := by
    simp [scanFrom, readHole, holeBody, afterBody, Pending.flush]
  rw [holes_enclose_append hb, hopen]
  exact ⟨_, List.mem_cons_of_mem _ List.mem_cons_self, rfl⟩

theorem firstOverlong_enclose {cs : List Char} {n : Nat} (ho : Overlong cs n) (rest : String) :
    FirstOverlong (holes (enclose cs ++ rest)) n := by
  obtain ⟨p, hform⟩ := ho.form
  exact ⟨[], _, _, holes_enclose_append hform.braceless rest, fun _ hmem => (nomatch hmem), rfl,
    by simpa using ho⟩

namespace Token

/-- The elements that tokens stand for, however many digits their numbers have. -/
def said : List Token → List Element
  | [] => []
  | run r :: rest => Element.consText r.text (said rest)
  | hole h :: rest => match h.property? with
    | some p => .property p :: said rest
    | none => said rest

theorem elements_of_short {tokens : List Token}
    (hb : ∀ h ∈ tokens.filterMap hole?, Braceless h.body.toList)
    (hs : ∀ h ∈ tokens.filterMap hole?, h.Short) (raw : Option String) :
    elements raw tokens = .ok (said tokens) := by
  induction tokens with
  | nil => rfl
  | cons token tokens ih =>
    cases token with
    | run r =>
      rw [elements, ih hb hs]
      rfl
    | hole h =>
      obtain ⟨hbody, hb⟩ := List.forall_mem_cons.mp hb
      obtain ⟨hshort, hs⟩ := List.forall_mem_cons.mp hs
      rw [elements, said, ih hb hs]
      cases hp : h.property? with
      | some p =>
        rw [Hole.property_of_short hbody hp hshort raw]
        rfl
      | none =>
        obtain ⟨problem, hproblem⟩ := Hole.property_of_none hp raw
        rw [hproblem]

theorem elements_of_overlong {tokens : List Token} {n : Nat}
    (hb : ∀ h ∈ tokens.filterMap hole?, Braceless h.body.toList)
    (hf : FirstOverlong (tokens.filterMap hole?) n) (raw : Option String) :
    elements raw tokens = .error (.tooLong n) := by
  induction tokens with
  | nil =>
    obtain ⟨before, h, after, hnil, _⟩ := hf
    simp at hnil
  | cons token tokens ih =>
    cases token with
    | run r =>
      rw [elements, ih hb hf]
      rfl
    | hole h =>
      obtain ⟨hbody, hb⟩ := List.forall_mem_cons.mp hb
      obtain ⟨before, h', after, hsplit, hbefore, ho⟩ := hf
      have hcons : (hole h :: tokens).filterMap hole? = h :: tokens.filterMap hole? := rfl
      rw [hcons] at hsplit
      rw [elements]
      cases before with
      | nil =>
        obtain ⟨rfl, _⟩ := List.cons.inj hsplit
        rw [Hole.property_of_overlong ho raw]
      | cons h'' before =>
        obtain ⟨rfl, hrest⟩ := List.cons.inj hsplit
        obtain ⟨hshort, hbefore⟩ := List.forall_mem_cons.mp hbefore
        rw [ih hb ⟨before, h', after, hrest, hbefore, ho⟩]
        rcases h.property_cases hbody raw with ⟨p, _, _, hread⟩ | ⟨_, m, _, hlong, _⟩ |
          ⟨problem, _, _, hread⟩
        · rw [hread]
          rfl
        · exact absurd hlong (hshort m)
        · rw [hread]

end Token

end EventTemplate
