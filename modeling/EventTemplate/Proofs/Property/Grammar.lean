import EventTemplate.Proofs.Token.Cut
import EventTemplate.Property.Body

/-
  The grammar of a property, with what each part stands for:

    property   ::= "{" operator designator alignment format "}"
    operator   ::= "" | "@" | "$"
    designator ::= digits | name
    alignment  ::= "" | "," digits | ",-" digits
    format     ::= "" | ":" characters other than braces

  A name is made of ASCII letters, digits and underscores and is not made of digits alone. The
  grammar does not bound the digits of a number.

  Proved: a body can be read exactly if the grammar derives it, and its parts say the property that
  the derivation stands for (`read_sound`, `read_complete`). So a hole says a property exactly if it
  is closed and its body is derived (`property?_eq_some_iff`).
-/

namespace EventTemplate

/-! ## The grammar -/

/-- Decimal digits, at least one. -/
structure Numeral (ds : List Char) : Prop where
  ne_nil : ds ≠ []
  digits : ∀ c ∈ ds, c.isDigit = true

/-- A designator: digits alone are an index, and anything else is a name. -/
inductive DesignatorForm : List Char → Designator → Prop where
  | index {ds : List Char} (h : Numeral ds) : DesignatorForm ds (.index (Nat.ofDigitChars 10 ds 0))
  | name {cs : List Char} (hw : ∀ c ∈ cs, c.isAlphanum = true ∨ c = '_')
      (hn : ∃ c ∈ cs, c.isDigit = false) : DesignatorForm cs (.name (String.ofList cs))

/-- An alignment, or none. -/
inductive AlignmentForm : List Char → Option Int → Prop where
  | none : AlignmentForm [] none
  | positive {ds : List Char} (h : Numeral ds) :
      AlignmentForm (',' :: ds) (some (Nat.ofDigitChars 10 ds 0))
  | negative {ds : List Char} (h : Numeral ds) :
      AlignmentForm (',' :: '-' :: ds) (some (-(Nat.ofDigitChars 10 ds 0 : Int)))

/-- A format, or none. -/
inductive FormatForm : List Char → Option String → Prop where
  | none : FormatForm [] none
  | some {cs : List Char} (hne : cs ≠ []) (hb : Braceless cs) :
      FormatForm (':' :: cs) (some (String.ofList cs))

/-- A body between braces. -/
def enclose (body : List Char) : String :=
  String.ofList ('{' :: (body ++ ['}']))

/-- `PropertyForm cs p`: the characters `cs` are the body of a hole that stands for the property
`p`, whose source is the whole hole. -/
inductive PropertyForm : List Char → Property → Prop where
  | intro {ds as fs : List Char} {designator : Designator} {alignment : Option Int}
      {format : Option String} (operator : Operator) (hd : DesignatorForm ds designator)
      (ha : AlignmentForm as alignment) (hf : FormatForm fs format) :
      PropertyForm (operator.symbol ++ (ds ++ (as ++ fs)))
        ⟨designator, operator, alignment, format,
          some (enclose (operator.symbol ++ (ds ++ (as ++ fs))))⟩

/-! ## What a body says -/

namespace Body

/-- The designator that letters, digits and underscores stand for, however many they are. -/
def designated (cs : List Char) : Designator :=
  if cs.all Char.isDigit then .index (Nat.ofDigitChars 10 cs 0) else .name (String.ofList cs)

/-- The whole number that a minus, if any, and digits stand for, however many they are. -/
def aligned : List Char → Int
  | '-' :: cs => -(Nat.ofDigitChars 10 cs 0 : Int)
  | cs => Nat.ofDigitChars 10 cs 0

/-- The property that a body says, however many digits its numbers have. -/
def said (b : Body) (source : Option String) : Property where
  designator := designated b.designator
  operator := b.operator
  alignment := b.alignment.map aligned
  format := b.format.map String.ofList
  source

end Body

/-- The property that a hole says, if it is closed and its body is one. -/
def Hole.property? (h : Hole) : Option Property :=
  if h.closed then
    match Body.read h.body.toList with
    | .ok body => some (body.said (some h.print))
    | .error _ => none
  else none

/-! ## Characters -/

theorem isWordChar_iff (c : Char) : Body.isWordChar c = true ↔ c.isAlphanum = true ∨ c = '_' := by
  simp [Body.isWordChar]

theorem isWordChar_of_isDigit {c : Char} (h : c.isDigit = true) : Body.isWordChar c = true := by
  simp [Body.isWordChar, Char.isAlphanum, h]

theorem ne_of_isDigit {c d : Char} (h : c.isDigit = true) (hd : d.isDigit = false) : c ≠ d := by
  rintro rfl
  rw [h] at hd
  cases hd

theorem ne_of_isWordChar {c d : Char} (h : Body.isWordChar c = true)
    (hd : Body.isWordChar d = false) : c ≠ d := by
  rintro rfl
  rw [h] at hd
  cases hd

/-- Characters of one kind are taken up to the first of another kind. -/
theorem takeWhile_append_stop {p : Char → Bool} {cs rest : List Char} (hc : ∀ c ∈ cs, p c = true)
    (hr : ∀ c ∈ rest.head?, p c = false) : (cs ++ rest).takeWhile p = cs := by
  rw [List.takeWhile_append_of_pos hc]
  cases rest with
  | nil => simp
  | cons c rest => simp [hr c rfl]

theorem dropWhile_append_stop {p : Char → Bool} {cs rest : List Char} (hc : ∀ c ∈ cs, p c = true)
    (hr : ∀ c ∈ rest.head?, p c = false) : (cs ++ rest).dropWhile p = rest := by
  rw [List.dropWhile_append_of_pos hc]
  cases rest with
  | nil => rfl
  | cons c rest => simp [hr c rfl]

/-! ## Numerals -/

theorem numeral_toDigits (n : Nat) : Numeral (Nat.toDigits 10 n) :=
  ⟨Nat.toDigits_ne_nil, fun _ hc => Nat.isDigit_of_mem_toDigits (by decide) (by decide) hc⟩

theorem toDigits_inj {n n' : Nat} (h : Nat.toDigits 10 n = Nat.toDigits 10 n') : n = n' := by
  have hread := congrArg (Nat.ofDigitChars 10 · 0) h
  simpa only [Nat.ofDigitChars_ten_toDigits] using hread

/-! ## Designators -/

theorem DesignatorForm.ne_nil {cs : List Char} {d : Designator} (h : DesignatorForm cs d) :
    cs ≠ [] := by
  cases h with
  | index h => exact h.ne_nil
  | name _ hn =>
    rintro rfl
    obtain ⟨c, hc, _⟩ := hn
    cases hc

theorem DesignatorForm.isWordChar {cs : List Char} {d : Designator} (h : DesignatorForm cs d) :
    ∀ c ∈ cs, Body.isWordChar c = true := by
  intro c hc
  cases h with
  | index h => exact isWordChar_of_isDigit (h.digits c hc)
  | name hw _ => exact (isWordChar_iff c).mpr (hw c hc)

theorem DesignatorForm.designated {cs : List Char} {d : Designator} (h : DesignatorForm cs d) :
    Body.designated cs = d := by
  unfold Body.designated
  cases h with
  | index h => rw [if_pos (List.all_eq_true.mpr h.digits)]
  | name _ hn =>
    obtain ⟨c, hc, hd⟩ := hn
    rw [if_neg]
    intro hall
    rw [List.all_eq_true.mp hall c hc] at hd
    cases hd

theorem designatorForm_of_isWordChar {cs : List Char} (hne : cs ≠ [])
    (hw : ∀ c ∈ cs, Body.isWordChar c = true) : DesignatorForm cs (Body.designated cs) := by
  unfold Body.designated
  by_cases h : cs.all Char.isDigit = true
  · rw [if_pos h]
    exact .index ⟨hne, List.all_eq_true.mp h⟩
  · rw [if_neg h]
    refine .name (fun c hc => (isWordChar_iff c).mp (hw c hc)) ?_
    simpa using h

/-! ## Alignments -/

theorem aligned_numeral {ds : List Char} (h : Numeral ds) :
    Body.aligned ds = Nat.ofDigitChars 10 ds 0 := by
  cases ds with
  | nil => exact absurd rfl h.ne_nil
  | cons d ds =>
    have : d ≠ '-' := ne_of_isDigit (h.digits d List.mem_cons_self) (by decide)
    simp [Body.aligned, this]

theorem readMinus_eq (cs : List Char) : ((Body.readMinus cs).1 = [] ∧ (Body.readMinus cs).2 = cs) ∨
    (Body.readMinus cs).1 = ['-'] ∧ cs = '-' :: (Body.readMinus cs).2 := by
  unfold Body.readMinus
  split
  · exact .inr ⟨rfl, rfl⟩
  · exact .inl ⟨rfl, rfl⟩

theorem readMinus_of_numeral {ds : List Char} (h : Numeral ds) (rest : List Char) :
    Body.readMinus (ds ++ rest) = ([], ds ++ rest) := by
  cases ds with
  | nil => exact absurd rfl h.ne_nil
  | cons d ds =>
    have : d ≠ '-' := ne_of_isDigit (h.digits d List.mem_cons_self) (by decide)
    simp [Body.readMinus, this]

theorem readAlignment_sound (cs : List Char) :
    ∃ as, cs = as ++ (Body.readAlignment cs).2 ∧
      AlignmentForm as ((Body.readAlignment cs).1.map Body.aligned) := by
  unfold Body.readAlignment
  split
  · rename_i cs
    dsimp only
    have hn := @List.takeWhile_append_dropWhile _ Char.isDigit (Body.readMinus cs).2
    by_cases he : ((Body.readMinus cs).2.takeWhile Char.isDigit).isEmpty = true
    · rw [if_pos he]
      exact ⟨[], rfl, .none⟩
    · rw [if_neg he]
      have hd : Numeral ((Body.readMinus cs).2.takeWhile Char.isDigit) :=
        ⟨by simpa using he, all_takeWhile⟩
      rcases readMinus_eq cs with ⟨h₁, h₂⟩ | ⟨h₁, h₂⟩
      · refine ⟨',' :: (Body.readMinus cs).2.takeWhile Char.isDigit, ?_, ?_⟩
        · rw [List.cons_append, hn, h₂]
        · rw [h₁, List.nil_append, Option.map_some, aligned_numeral hd]
          exact .positive hd
      · refine ⟨',' :: '-' :: (Body.readMinus cs).2.takeWhile Char.isDigit, ?_, ?_⟩
        · rw [List.cons_append, List.cons_append, hn, ← h₂]
        · rw [h₁]
          exact .negative hd
  · exact ⟨[], rfl, .none⟩

/-- What an alignment is behind its comma says the number. -/
theorem AlignmentForm.aligned {as : List Char} {a : Option Int} (h : AlignmentForm as a) :
    as.tail?.map Body.aligned = a := by
  cases h with
  | none => rfl
  | positive hd => exact congrArg some (aligned_numeral hd)
  | negative _ => rfl

theorem readAlignment_complete {as rest : List Char} {a : Option Int} (h : AlignmentForm as a)
    (hr : ∀ c ∈ rest.head?, c = ':') : Body.readAlignment (as ++ rest) = (as.tail?, rest) := by
  have hstop : ∀ c ∈ rest.head?, c.isDigit = false := by
    intro c hc
    rw [hr c hc]
    decide
  cases h with
  | none =>
    cases rest with
    | nil => rfl
    | cons c rest =>
      have := hr c rfl
      subst this
      rfl
  | @positive ds hd =>
    have ht := takeWhile_append_stop hd.digits hstop
    have hdrop := dropWhile_append_stop hd.digits hstop
    simp only [List.cons_append, Body.readAlignment, readMinus_of_numeral hd, ht, hdrop,
      List.isEmpty_iff, hd.ne_nil, if_false, List.nil_append, List.tail?_cons]
  | @negative ds hd =>
    have ht := takeWhile_append_stop hd.digits hstop
    have hdrop := dropWhile_append_stop hd.digits hstop
    simp only [List.cons_append, Body.readAlignment, Body.readMinus, ht, hdrop,
      List.isEmpty_iff, hd.ne_nil, if_false, List.nil_append, List.tail?_cons]

theorem AlignmentForm.head? {as rest : List Char} {a : Option Int} (h : AlignmentForm as a)
    (hr : ∀ c ∈ rest.head?, c = ':') : ∀ c ∈ (as ++ rest).head?, c = ',' ∨ c = ':' := by
  intro c hc
  cases h with
  | none => exact .inr (hr c hc)
  | positive _ => cases hc; exact .inl rfl
  | negative _ => cases hc; exact .inl rfl

theorem AlignmentForm.braceless {as : List Char} {a : Option Int} (h : AlignmentForm as a) :
    Braceless as := by
  have hdigits : ∀ {ds}, Numeral ds → Braceless ds := fun h c hc =>
    ⟨ne_of_isDigit (h.digits c hc) (by decide), ne_of_isDigit (h.digits c hc) (by decide)⟩
  cases h with
  | none => exact fun _ hc => nomatch hc
  | positive h => exact List.forall_mem_cons.mpr ⟨by decide, hdigits h⟩
  | negative h =>
    exact List.forall_mem_cons.mpr ⟨by decide, List.forall_mem_cons.mpr ⟨by decide, hdigits h⟩⟩

/-! ## Formats -/

theorem readFormat_sound {cs : List Char} (hb : Braceless cs) :
    ∃ fs, cs = fs ++ (Body.readFormat cs).2 ∧
      FormatForm fs ((Body.readFormat cs).1.map String.ofList) := by
  unfold Body.readFormat
  split
  · rename_i cs
    dsimp only
    by_cases he : (cs.takeWhile (· ≠ '}')).isEmpty = true
    · rw [if_pos he]
      exact ⟨[], rfl, .none⟩
    · rw [if_neg he]
      refine ⟨':' :: cs.takeWhile (· ≠ '}'), ?_, .some (by simpa using he) fun c hc => ?_⟩
      · rw [List.cons_append, List.takeWhile_append_dropWhile]
      · exact hb c (List.mem_cons_of_mem _ (List.takeWhile_subset _ hc))
  · exact ⟨[], rfl, .none⟩

theorem FormatForm.said {fs : List Char} {f : Option String} (h : FormatForm fs f) :
    fs.tail?.map String.ofList = f := by
  cases h <;> rfl

theorem readFormat_complete {fs : List Char} {f : Option String} (h : FormatForm fs f) :
    Body.readFormat fs = (fs.tail?, []) := by
  cases h with
  | none => rfl
  | @some cs hne hb =>
    have hc : ∀ c ∈ cs, decide (c ≠ '}') = true := fun c hc => decide_eq_true (hb c hc).2
    have hstop : ∀ c ∈ ([] : List Char).head?, decide (c ≠ '}') = false := fun _ h => nomatch h
    have ht := takeWhile_append_stop hc hstop
    have hd := dropWhile_append_stop hc hstop
    rw [List.append_nil] at ht hd
    simp only [Body.readFormat, ht, hd, List.isEmpty_iff, hne, if_false, List.tail?_cons]

theorem FormatForm.head? {fs : List Char} {f : Option String} (h : FormatForm fs f) :
    ∀ c ∈ fs.head?, c = ':' := by
  intro c hc
  cases h with
  | none => cases hc
  | some _ _ => cases hc; rfl

/-- What follows a designator does not go on with it. -/
theorem AlignmentForm.isWordChar_head? {as fs : List Char} {a : Option Int} {f : Option String}
    (ha : AlignmentForm as a) (hf : FormatForm fs f) :
    ∀ c ∈ (as ++ fs).head?, Body.isWordChar c = false := by
  intro c hc
  rcases ha.head? hf.head? c hc with rfl | rfl <;> decide

theorem FormatForm.braceless {fs : List Char} {f : Option String} (h : FormatForm fs f) :
    Braceless fs := by
  cases h with
  | none => exact fun _ hc => nomatch hc
  | some _ hb => exact List.forall_mem_cons.mpr ⟨by decide, hb⟩

/-! ## Operators -/

theorem readOperator_sound (cs : List Char) :
    cs = (Body.readOperator cs).1.symbol ++ (Body.readOperator cs).2 := by
  unfold Body.readOperator
  split <;> rfl

theorem readOperator_complete (operator : Operator) {rest : List Char}
    (hr : ∀ c ∈ rest.head?, Body.isWordChar c = true) :
    Body.readOperator (operator.symbol ++ rest) = (operator, rest) := by
  cases operator with
  | structured => rfl
  | stringified => rfl
  | plain =>
    cases rest with
    | nil => rfl
    | cons c rest =>
      have h₁ : c ≠ '@' := ne_of_isWordChar (hr c rfl) (by decide)
      have h₂ : c ≠ '$' := ne_of_isWordChar (hr c rfl) (by decide)
      simp [Operator.symbol, Body.readOperator, h₁, h₂]

theorem Operator.braceless (operator : Operator) : Braceless operator.symbol := by
  intro c hc
  cases operator with
  | plain => cases hc
  | structured => rw [List.mem_singleton.mp hc]; decide
  | stringified => rw [List.mem_singleton.mp hc]; decide

/-! ## Bodies -/

theorem Braceless.of_append_right {cs ds : List Char} (h : Braceless (cs ++ ds)) : Braceless ds :=
  fun c hc => h c (List.mem_append_right cs hc)

theorem PropertyForm.source {cs : List Char} {p : Property} (h : PropertyForm cs p) :
    p.source = some (enclose cs) := by
  cases h
  rfl

theorem PropertyForm.print {cs : List Char} {p : Property} (h : PropertyForm cs p) :
    p.print = .ok (enclose cs) := by
  rw [Property.print, h.source]

theorem length_enclose (cs : List Char) : (enclose cs).length = cs.length + 2 := by
  rw [enclose, String.length_ofList]
  simp

theorem PropertyForm.braceless {cs : List Char} {p : Property} (h : PropertyForm cs p) :
    Braceless cs := by
  cases h with
  | intro operator hd ha hf =>
    refine operator.braceless.append (Braceless.append ?_ (ha.braceless.append hf.braceless))
    intro c hc
    have hword := hd.isWordChar c hc
    exact ⟨ne_of_isWordChar hword (by decide), ne_of_isWordChar hword (by decide)⟩

theorem DesignatorForm.head? {ds : List Char} {d : Designator} (h : DesignatorForm ds d)
    (rest : List Char) : ∀ c ∈ (ds ++ rest).head?, Body.isWordChar c = true := by
  intro c hc
  cases ds with
  | nil => exact absurd rfl h.ne_nil
  | cons d ds =>
    cases hc
    exact h.isWordChar c List.mem_cons_self

theorem PropertyForm.lacksName {cs : List Char} {p : Property} (h : PropertyForm cs p) :
    Body.lacksName cs = false := by
  cases h with
  | @intro ds as fs _ _ _ operator hd _ _ =>
    unfold Body.lacksName
    rw [readOperator_complete operator (hd.head? _)]
    cases ds with
    | nil => exact absurd rfl hd.ne_nil
    | cons c ds =>
      have hc := hd.isWordChar c List.mem_cons_self
      have h₁ : c ≠ ',' := ne_of_isWordChar hc (by decide)
      have h₂ : c ≠ ':' := ne_of_isWordChar hc (by decide)
      simp [h₁, h₂]

/-- The parts of a body, as far as they can be read. -/
def Body.parts (cs : List Char) : Body where
  operator := (readOperator cs).1
  designator := (readOperator cs).2.takeWhile isWordChar
  alignment := (readAlignment ((readOperator cs).2.dropWhile isWordChar)).1
  format := (readFormat (readAlignment ((readOperator cs).2.dropWhile isWordChar)).2).1

/-- What is left of a body behind its parts. -/
def Body.left (cs : List Char) : List Char :=
  (readFormat (readAlignment ((readOperator cs).2.dropWhile isWordChar)).2).2

theorem read_eq (cs : List Char) :
    Body.read cs =
      if (Body.parts cs).designator.isEmpty then
        .error (.nameExpected (cs.length - (Body.readOperator cs).2.length)
          (Body.readOperator cs).2.head?)
      else match Body.left cs with
        | [] => .ok (Body.parts cs)
        | c :: _ => .error (.unexpected (cs.length - (Body.left cs).length) c) :=
  rfl

/-- What is read of a body is the body of a property, if there is a designator. -/
theorem exists_front {cs : List Char} (hb : Braceless cs)
    (hne : (Body.parts cs).designator ≠ []) :
    ∃ front, cs = front ++ Body.left cs ∧
      PropertyForm front ((Body.parts cs).said (some (enclose front))) := by
  have hop := readOperator_sound cs
  have hword := @List.takeWhile_append_dropWhile _ Body.isWordChar (Body.readOperator cs).2
  obtain ⟨as, has, ha⟩ := readAlignment_sound ((Body.readOperator cs).2.dropWhile Body.isWordChar)
  rw [← hword, has] at hop
  rw [hop] at hb
  obtain ⟨fs, hfs, hf⟩ := readFormat_sound hb.of_append_right.of_append_right.of_append_right
  have hd := designatorForm_of_isWordChar hne all_takeWhile
  refine ⟨_, ?_, .intro (Body.readOperator cs).1 hd ha hf⟩
  rw [hfs] at hop
  unfold Body.left Body.parts
  simpa only [List.append_assoc] using hop

theorem read_sound {cs : List Char} {b : Body} (hb : Braceless cs) (h : Body.read cs = .ok b) :
    PropertyForm cs (b.said (some (enclose cs))) := by
  rw [read_eq] at h
  split at h
  · cases h
  · rename_i hne
    obtain ⟨front, hfront, hform⟩ := exists_front hb (by simpa using hne)
    split at h
    · rename_i hleft
      cases h
      rw [hleft, List.append_nil] at hfront
      rw [← hfront] at hform
      exact hform
    · cases h

/-- The parts of a body that the grammar derives. -/
theorem read_parts (operator : Operator) {ds as fs : List Char} {d : Designator} {a : Option Int}
    {f : Option String} (hd : DesignatorForm ds d) (ha : AlignmentForm as a)
    (hf : FormatForm fs f) :
    Body.read (operator.symbol ++ (ds ++ (as ++ fs))) = .ok ⟨operator, ds, as.tail?, fs.tail?⟩ := by
  have hword := takeWhile_append_stop hd.isWordChar (ha.isWordChar_head? hf)
  have hafter := dropWhile_append_stop hd.isWordChar (ha.isWordChar_head? hf)
  unfold Body.read
  rw [readOperator_complete operator (hd.head? _)]
  dsimp only
  rw [hword, hafter, readAlignment_complete ha hf.head?, readFormat_complete hf,
    if_neg (by simpa using hd.ne_nil)]

theorem read_complete {cs : List Char} {p : Property} (h : PropertyForm cs p) :
    ∃ b, Body.read cs = .ok b ∧ b.said (some (enclose cs)) = p := by
  cases h with
  | intro operator hd ha hf =>
    refine ⟨_, read_parts operator hd ha hf, ?_⟩
    simp only [Body.said, hd.designated, ha.aligned, hf.said]

/-- A closed hole is its body between braces. -/
theorem Hole.print_of_closed {h : Hole} (hc : h.closed = true) :
    h.print = enclose h.body.toList := by
  simp [Hole.print, enclose, hc]

/-- A hole says a property exactly if it is closed and the grammar derives its body, and it is the
property that the derivation stands for. -/
theorem property?_eq_some_iff {h : Hole} (hb : Braceless h.body.toList) {p : Property} :
    h.property? = some p ↔ h.closed = true ∧ PropertyForm h.body.toList p := by
  unfold Hole.property?
  constructor
  · intro hp
    split at hp
    · rename_i hc
      split at hp
      · rename_i body hread
        cases hp
        rw [Hole.print_of_closed hc]
        exact ⟨hc, read_sound hb hread⟩
      · cases hp
    · cases hp
  · rintro ⟨hc, hp⟩
    obtain ⟨body, hread, hbody⟩ := read_complete hp
    rw [if_pos hc, hread, Hole.print_of_closed hc]
    exact congrArg some hbody

end EventTemplate
