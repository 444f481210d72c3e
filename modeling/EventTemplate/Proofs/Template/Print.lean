import Mathlib.Data.List.Forall2
import EventTemplate.Proofs.Template.Grammar

/-
  Printing and parsing. Elements that can be written are printed to a raw template that parses to
  the same elements, and the elements of any raw template survive being printed again, although the
  raw template may look different then: a closing brace that stood alone is written twice.

  Proved: `parse_print`. Both parts follow from one lemma about elements that read as others
  (`parse_printAll`): printed side by side they are derived by the grammar, because text is escaped
  brace by brace and no two texts meet. Only a number with too many digits is not printed, and it
  would not be read (`not_printed`, `print_power`).
-/

namespace EventTemplate

/-! ## Elements that can be written -/

/-- A designator that a hole can hold: a name has ASCII letters, digits and underscores, and is not
made of digits alone. -/
def Designator.Writable : Designator → Prop
  | name s => (∀ c ∈ s.toList, c.isAlphanum = true ∨ c = '_') ∧ ∃ c ∈ s.toList, c.isDigit = false
  | index _ => True

/-- A property that was not read from a hole and that a hole can hold. -/
structure Property.Writable (p : Property) : Prop where
  designator : p.designator.Writable
  format : ∀ f ∈ p.format, f ≠ "" ∧ Braceless f.toList
  source : p.source = none

/-- Elements that make a template when they are written one after the other. -/
structure WellFormed (es : List Element) : Prop where
  text_ne : ∀ s, .text s ∈ es → s ≠ ""
  apart : Apart es
  writable : ∀ p, .property p ∈ es → p.Writable
  compatible : Compatible ((es.filterMap Element.property?).map (·.designator))

/-- A property whose numbers can be written. -/
structure Property.Printable (p : Property) : Prop where
  designator : p.designator.Short
  alignment : ∀ w ∈ p.alignment, Decimal.Short w.natAbs

/-- Elements as they are written, one after the other. -/
def printAll : List Element → Except DecimalError String
  | [] => .ok ""
  | e :: rest => do return (← e.print) ++ (← printAll rest)

/-- `Sourced e e'`: the element `e'` is the element `e` with the text that it is printed to as its
source. -/
inductive Sourced : Element → Element → Prop where
  | text (s : String) : Sourced (.text s) (.text s)
  | property {p : Property} {s : String} (h : p.print = .ok s) :
      Sourced (.property p) (.property { p with source := some s })

/-! ## Text -/

/-- A character of text as it is written. -/
def escaped (c : Char) : List Char :=
  if c = '{' ∨ c = '}' then [c, c] else [c]

theorem escapeBraces_cons (c : Char) (cs : List Char) :
    escapeBraces (c :: cs) = escaped c ++ escapeBraces cs :=
  List.flatMap_cons

/-- Escaped text reads as the text, whatever follows. -/
theorem unescape_escapeBraces_append (cs rest : List Char) :
    unescape (escapeBraces cs ++ rest) = cs ++ unescape rest := by
  induction cs with
  | nil => rfl
  | cons c cs ih =>
    rw [escapeBraces_cons, List.append_assoc, escaped]
    by_cases hl : c = '{'
    · subst hl
      exact congrArg ('{' :: ·) ih
    · by_cases hr : c = '}'
      · subst hr
        exact congrArg ('}' :: ·) ih
      · rw [if_neg (by simp [hl, hr]), List.singleton_append,
          unescape.eq_3 _ _ (fun _ e _ => hl e) fun _ e _ => hr e, ih, List.cons_append]

theorem unescape_escapeBraces (cs : List Char) : unescape (escapeBraces cs) = cs := by
  have h := unescape_escapeBraces_append cs []
  rw [List.append_nil] at h
  exact h.trans (List.append_nil cs)

theorem textElement_escapeBraces {s : String} (h : s ≠ "") :
    Segment.textElement (escapeBraces s.toList) = [.text s] := by
  have hne : escapeBraces s.toList ≠ [] := by
    intro e
    have hs := unescape_escapeBraces s.toList
    rw [e] at hs
    exact h (String.toList_inj.mp hs.symm)
  rw [Segment.textElement, if_neg hne, unescape_escapeBraces, String.ofList_toList]

theorem textForm_escaped (c : Char) : TextForm (escaped c) := by
  unfold escaped
  split
  · rename_i h
    rcases h with rfl | rfl
    · exact .left
    · exact .right
  · rename_i h
    exact .char fun e => h (.inl e)

/-- Escaped text is a segment for each character. -/
theorem derives_text (cs : List Char) {rest : List Char} {segments : List Segment}
    (h : Derives rest segments) :
    Derives (escapeBraces cs ++ rest) (cs.map (fun c => .text (escaped c)) ++ segments) := by
  induction cs with
  | nil => exact h
  | cons c cs ih =>
    rw [escapeBraces_cons, List.append_assoc]
    exact .text (textForm_escaped c) ih

theorem elements_text (waiting cs : List Char) (segments : List Segment) :
    Segment.elements waiting (cs.map (fun c => .text (escaped c)) ++ segments) =
      Segment.elements (waiting ++ escapeBraces cs) segments := by
  induction cs generalizing waiting with
  | nil => rw [escapeBraces, List.flatMap_nil, List.append_nil]; rfl
  | cons c cs ih =>
    rw [List.map_cons, List.cons_append, Segment.elements, ih, escapeBraces_cons, List.append_assoc]

/-! ## Elements as segments -/

/-- The segments that an element is written in. -/
def Element.segments : Element → List Segment
  | text s => s.toList.map fun c => .text (escaped c)
  | property p => [.property p]

theorem filterMap_segments (es : List Element) :
    (es.flatMap Element.segments).filterMap Segment.property? = es.filterMap Element.property? := by
  induction es with
  | nil => rfl
  | cons e es ih =>
    rw [List.flatMap_cons, List.filterMap_append, ih]
    cases e with
    | text s =>
      have hnone : (Element.text s).segments.filterMap Segment.property? = [] := by
        simp [Element.segments, Segment.property?]
      rw [hnone]
      rfl
    | property p => rfl

/-- Text that waits is an element of its own unless text follows. -/
theorem elements_segments_waiting {es : List Element}
    (h : ∀ e ∈ es.head?, e.isText = false) (waiting : List Char) :
    Segment.elements waiting (es.flatMap Element.segments) =
      Segment.textElement waiting ++ Segment.elements [] (es.flatMap Element.segments) := by
  cases es with
  | nil => exact (List.append_nil _).symm
  | cons e es =>
    cases e with
    | text s => exact absurd (h _ rfl) Bool.noConfusion
    | property p => rfl

/-- The segments of elements stand for the elements again. -/
theorem elements_segments {es : List Element} (hne : ∀ s, .text s ∈ es → s ≠ "")
    (ha : Apart es) : Segment.elements [] (es.flatMap Element.segments) = es := by
  induction es with
  | nil => rfl
  | cons e es ih =>
    obtain ⟨hnext, ha⟩ := List.isChain_cons.mp ha
    have ih := ih (fun s hs => hne s (List.mem_cons_of_mem e hs)) ha
    rw [List.flatMap_cons]
    cases e with
    | text s =>
      have hhead : ∀ e ∈ es.head?, e.isText = false := by
        intro e he
        have := hnext e he
        simpa [Element.isText] using this
      rw [Element.segments, elements_text, List.nil_append, elements_segments_waiting hhead, ih,
        textElement_escapeBraces (hne s List.mem_cons_self)]
      rfl
    | property p => exact congrArg (Element.property p :: ·) ih

/-! ## Elements that read as others -/

/-- `Reads e e'`: the element `e`, printed, is read as `e'`. -/
inductive Reads : Element → Element → Prop where
  | text {s : String} (hne : s ≠ "") : Reads (.text s) (.text s)
  | property {p p' : Property} {body : List Char} (hprint : p.print = .ok (enclose body))
      (hp : PropertyForm body p') (hs : p'.Short) : Reads (.property p) (.property p')

theorem toList_enclose_append (body rest : List Char) :
    (enclose body).toList ++ rest = '{' :: (body ++ '}' :: rest) := by
  simp [enclose]

theorem derives_printed {es es' : List Element} (h : List.Forall₂ Reads es es') :
    ∃ raw, printAll es = .ok raw ∧ Derives raw.toList (es'.flatMap Element.segments) := by
  induction h with
  | nil => exact ⟨"", rfl, .nil⟩
  | cons he _ ih =>
    obtain ⟨raw, hprint, hd⟩ := ih
    cases he with
    | @text s hne =>
      refine ⟨String.ofList (escapeBraces s.toList) ++ raw, ?_, ?_⟩
      · rw [printAll, hprint]
        rfl
      · rw [List.flatMap_cons, String.toList_append, String.toList_ofList]
        exact derives_text s.toList hd
    | @property p p' body hp hform hs =>
      refine ⟨enclose body ++ raw, ?_, ?_⟩
      · rw [printAll, hprint, Element.print, hp]
        rfl
      · rw [List.flatMap_cons, String.toList_append, toList_enclose_append]
        exact .property hform hd

theorem short_of_reads {es es' : List Element} (h : List.Forall₂ Reads es es') :
    ∀ p ∈ es'.filterMap Element.property?, p.Short := by
  induction h with
  | nil => exact fun _ hp => nomatch hp
  | cons he _ ih =>
    cases he with
    | text _ => exact ih
    | property _ _ hs => exact List.forall_mem_cons.mpr ⟨hs, ih⟩

theorem text_ne_of_reads {es es' : List Element} (h : List.Forall₂ Reads es es') :
    ∀ s, .text s ∈ es' → s ≠ "" := by
  induction h with
  | nil => exact fun _ hs => nomatch hs
  | cons he _ ih =>
    intro s hs
    rcases List.mem_cons.mp hs with rfl | hs
    · cases he with
      | text hne => exact hne
    · exact ih s hs

/-- Elements that are printed side by side are parsed as the elements that they read as. -/
theorem parse_printAll {es es' : List Element} (h : List.Forall₂ Reads es es') (ha : Apart es')
    (hc : Compatible ((es'.filterMap Element.property?).map (·.designator))) :
    ∃ raw, printAll es = .ok raw ∧ Template.parse raw = .ok ⟨raw, es'⟩ := by
  obtain ⟨raw, hprint, hd⟩ := derives_printed h
  have hs := short_of_reads h
  rw [← filterMap_segments] at hc hs
  refine ⟨raw, hprint, ?_⟩
  rw [parse_of_derives hd hc hs, elements_segments (text_ne_of_reads h) ha]

/-! ## Elements that were made by hand -/

theorem Designator.Writable.form {d : Designator} (h : d.Writable) :
    DesignatorForm d.text.toList d := by
  cases d with
  | name s =>
    have hform := DesignatorForm.name h.1 h.2
    rw [String.ofList_toList] at hform
    exact hform
  | index n =>
    have hform := DesignatorForm.index (numeral_toDigits n)
    rw [Nat.ofDigitChars_ten_toDigits] at hform
    rw [Designator.text, Nat.toString_eq_repr, Nat.toList_repr]
    exact hform

/-- A designator that can be written does not have too many digits. -/
theorem Designator.Writable.length_le {d : Designator} (h : d.Writable) (hs : d.Short)
    (hd : Numeral d.text.toList) : d.text.toList.length ≤ Decimal.mostDigits := by
  cases d with
  | name s =>
    obtain ⟨c, hc, hdigit⟩ := h.2
    rw [hd.digits c hc] at hdigit
    cases hdigit
  | index n =>
    rw [Designator.text, Nat.toString_eq_repr, Nat.toList_repr]
    exact hs

/-- An alignment as it is written. -/
def alignmentPart : Option Int → List Char
  | some w => ',' :: (toString w).toList
  | none => []

/-- A format as it is written. -/
def formatPart : Option String → List Char
  | some f => ':' :: f.toList
  | none => []

/-- A property as it is written, however many digits its numbers have. -/
def Property.body (p : Property) : List Char :=
  p.operator.symbol ++
    (p.designator.text.toList ++ (alignmentPart p.alignment ++ formatPart p.format))

theorem canonical_of_printable {p : Property} (h : p.Printable) :
    p.canonical = .ok (enclose p.body) := by
  obtain ⟨d, operator, alignment, format, source⟩ := p
  have hd := Designator.print_of_short h.designator
  cases alignment with
  | none =>
    cases format <;>
      simp [Property.canonical, Property.body, hd, enclose, alignmentPart, formatPart]
  | some w =>
    have hw := Decimal.printInt_of_short (h.alignment w rfl)
    cases format <;>
      simp [Property.canonical, Property.body, hd, hw, bind, Except.bind, pure, Except.pure,
        enclose, alignmentPart, formatPart]

/-- A number that cannot be written is all that is told of a property. -/
theorem canonical_of_not_printable {p : Property} (h : ¬ p.Printable) :
    p.canonical = .error .tooGreat := by
  by_cases hd : p.designator.Short
  · have hw : ∃ w, p.alignment = some w ∧ ¬ Decimal.Short w.natAbs := by
      by_contra hno
      exact h ⟨hd, fun w hw => by_contra fun hs => hno ⟨w, hw, hs⟩⟩
    obtain ⟨w, hw, hs⟩ := hw
    have hprint : Decimal.printInt w = .error .tooGreat := if_neg hs
    rw [Property.canonical, Designator.print_of_short hd, hw, Option.mapM_some, hprint]
    rfl
  · have hprint : p.designator.print = .error .tooGreat := by
      cases hdesignator : p.designator with
      | name s =>
        rw [hdesignator] at hd
        exact absurd trivial hd
      | index n =>
        rw [hdesignator] at hd
        exact if_neg hd
    rw [Property.canonical, hprint]
    rfl

theorem toList_toString_negSucc (n : Nat) :
    (toString (Int.negSucc n)).toList = '-' :: Nat.toDigits 10 (n + 1) := by
  have happend : toString (Int.negSucc n) = "-" ++ (n + 1).repr := rfl
  rw [happend, String.toList_append, Nat.toList_repr]
  rfl

theorem alignmentForm_part (alignment : Option Int) :
    AlignmentForm (alignmentPart alignment) alignment := by
  cases alignment with
  | none => exact .none
  | some w =>
    cases w with
    | ofNat n =>
      have hform := AlignmentForm.positive (numeral_toDigits n)
      rw [Nat.ofDigitChars_ten_toDigits] at hform
      have hprint : (toString (Int.ofNat n)).toList = Nat.toDigits 10 n := Nat.toList_repr
      rw [alignmentPart, hprint]
      exact hform
    | negSucc n =>
      have hform := AlignmentForm.negative (numeral_toDigits (n + 1))
      rw [Nat.ofDigitChars_ten_toDigits] at hform
      rw [alignmentPart, toList_toString_negSucc]
      exact hform

theorem countP_alignmentPart {alignment : Option Int}
    (h : ∀ w ∈ alignment, Decimal.Short w.natAbs) :
    (alignmentPart alignment).countP Char.isDigit ≤ Decimal.mostDigits := by
  cases alignment with
  | none => exact Nat.zero_le _
  | some w =>
    have hs := h w rfl
    cases w with
    | ofNat n =>
      have hprint : (toString (Int.ofNat n)).toList = Nat.toDigits 10 n := Nat.toList_repr
      rw [alignmentPart, hprint]
      exact (numeral_toDigits n).countP.trans_le hs
    | negSucc n =>
      rw [alignmentPart, toList_toString_negSucc]
      exact (numeral_toDigits (n + 1)).countP.trans_le hs

theorem formatForm_part {format : Option String}
    (h : ∀ f ∈ format, f ≠ "" ∧ Braceless f.toList) : FormatForm (formatPart format) format := by
  cases format with
  | none => exact .none
  | some f =>
    obtain ⟨hne, hb⟩ := h f rfl
    have hform := FormatForm.some (by simpa using hne) hb
    rw [String.ofList_toList] at hform
    exact hform

theorem Property.Writable.print_eq {p : Property} (h : p.Writable) : p.print = p.canonical := by
  rw [Property.print, h.source]

/-- A property that a hole can hold is printed to such a hole, if its numbers can be written. -/
theorem Property.Writable.form {p : Property} (h : p.Writable) (hp : p.Printable) :
    PropertyForm p.body { p with source := some (enclose p.body) } ∧
      ∀ n, ¬ Overlong p.body n := by
  have hd := h.designator.form
  have ha := alignmentForm_part p.alignment
  have hf := formatForm_part h.format
  exact ⟨.intro p.operator hd ha hf,
    not_overlong p.operator hd (h.designator.length_le hp.designator) ha
      (countP_alignmentPart hp.alignment) hf⟩

/-- The elements that others are read as when they are printed. -/
theorem exists_reads {es : List Element} (hne : ∀ s, .text s ∈ es → s ≠ "")
    (hw : ∀ p, .property p ∈ es → p.Writable ∧ p.Printable) :
    ∃ es', List.Forall₂ Reads es es' ∧ List.Forall₂ Sourced es es' := by
  induction es with
  | nil => exact ⟨[], .nil, .nil⟩
  | cons e es ih =>
    obtain ⟨es', hreads, hsourced⟩ := ih (fun s hs => hne s (List.mem_cons_of_mem e hs))
      fun p hp => hw p (List.mem_cons_of_mem e hp)
    cases e with
    | text s =>
      exact ⟨_, .cons (.text (hne s List.mem_cons_self)) hreads, .cons (.text s) hsourced⟩
    | property p =>
      obtain ⟨hwritable, hprintable⟩ := hw p List.mem_cons_self
      obtain ⟨hform, hshort⟩ := hwritable.form hprintable
      have hprint : p.print = .ok (enclose p.body) :=
        hwritable.print_eq.trans (canonical_of_printable hprintable)
      exact ⟨_, .cons (.property hprint hform (hform.short_iff.mpr hshort)) hreads,
        .cons (.property hprint) hsourced⟩

theorem apart_sourced {es es' : List Element} (h : List.Forall₂ Sourced es es') (ha : Apart es) :
    Apart es' := by
  have htexts : es'.map Element.isText = es.map Element.isText := by
    induction h with
    | nil => rfl
    | cons he _ ih =>
      rw [List.map_cons, List.map_cons, ih (List.isChain_cons.mp ha).2]
      cases he <;> rfl
  have hchain := (List.isChain_map (f := Element.isText)
    (R := fun b b' => ¬ (b = true ∧ b' = true))).mpr ha
  rw [← htexts] at hchain
  exact (List.isChain_map _).mp hchain

theorem designators_sourced {es es' : List Element} (h : List.Forall₂ Sourced es es') :
    (es'.filterMap Element.property?).map (·.designator) =
      (es.filterMap Element.property?).map (·.designator) := by
  induction h with
  | nil => rfl
  | cons he _ ih =>
    cases he with
    | text s => exact ih
    | @property p _ _ => exact congrArg (p.designator :: ·) ih

/-- If a number cannot be written, that is all that is told of the elements. -/
theorem printAll_of_not_printable {es : List Element} (hw : ∀ p, .property p ∈ es → p.Writable)
    (h : ∃ p, .property p ∈ es ∧ ¬ p.Printable) : printAll es = .error .tooGreat := by
  induction es with
  | nil =>
    obtain ⟨p, hp, _⟩ := h
    cases hp
  | cons e es ih =>
    have hrest : (∃ p, .property p ∈ es ∧ ¬ p.Printable) → printAll es = .error .tooGreat :=
      ih fun p hp => hw p (List.mem_cons_of_mem e hp)
    obtain ⟨p, hp, hno⟩ := h
    cases e with
    | text s =>
      rw [printAll, hrest ⟨p, by simpa using hp, hno⟩]
      rfl
    | property q =>
      have hprint := (hw q List.mem_cons_self).print_eq
      by_cases hq : q.Printable
      · have hne : p ≠ q := fun heq => hno (heq ▸ hq)
        rw [printAll, Element.print, hprint, canonical_of_printable hq,
          hrest ⟨p, by simpa [hne] using hp, hno⟩]
        rfl
      · rw [printAll, Element.print, hprint, canonical_of_not_printable hq]
        rfl

/-! ## Elements that were parsed -/

theorem reads_textElement {source : List Char} :
    ∀ e ∈ Segment.textElement source, Reads e e := by
  intro e he
  unfold Segment.textElement at he
  split at he
  · cases he
  · rename_i hne
    rw [List.mem_singleton.mp he]
    exact .text (by simpa using unescape_ne_nil hne)

theorem Derives.reads {cs : List Char} {segments : List Segment} (h : Derives cs segments)
    (hs : ∀ p ∈ segments.filterMap Segment.property?, p.Short) (waiting : List Char) :
    ∀ e ∈ Segment.elements waiting segments, Reads e e := by
  induction h generalizing waiting with
  | nil => exact reads_textElement
  | text _ _ ih => exact ih hs _
  | property hp _ ih =>
    obtain ⟨hshort, hs⟩ := List.forall_mem_cons.mp hs
    intro e he
    rcases List.mem_append.mp he with he | he
    · exact reads_textElement e he
    · rcases List.mem_cons.mp he with rfl | he
      · exact .property hp.print hp hshort
      · exact ih hs [] e he

/-- Printing and parsing. Elements that can be written are printed to a raw template that parses to
them, each property with its printed text as its source; only if a number in them has too many
digits, they cannot be printed. The elements of a parsed raw template can be printed, and what they
are printed to parses to the same elements, sources included. Any text with its braces written twice
parses to that text alone. -/
theorem parse_print (es : List Element) (raw s : String) :
    (WellFormed es →
      ((∀ p, .property p ∈ es → p.Printable) →
        ∃ printed es', printAll es = .ok printed ∧ List.Forall₂ Sourced es es' ∧
          Template.parse printed = .ok ⟨printed, es'⟩) ∧
      ((∃ p, .property p ∈ es ∧ ¬ p.Printable) → printAll es = .error .tooGreat)) ∧
    (∀ t, Template.parse raw = .ok t → ∃ printed, printAll t.elements = .ok printed ∧
      Template.parse printed = .ok ⟨printed, t.elements⟩) ∧
    Template.parse (String.ofList (escapeBraces s.toList)) =
      .ok ⟨String.ofList (escapeBraces s.toList), if s = "" then [] else [.text s]⟩ := by
  refine ⟨fun h => ⟨fun hp => ?_, printAll_of_not_printable h.writable⟩, fun t h => ?_, ?_⟩
  · obtain ⟨es', hreads, hsourced⟩ := exists_reads h.text_ne fun p hmem =>
      ⟨h.writable p hmem, hp p hmem⟩
    have hc := h.compatible
    rw [← designators_sourced hsourced] at hc
    obtain ⟨printed, hprint, hparse⟩ := parse_printAll hreads (apart_sourced hsourced h.apart) hc
    exact ⟨printed, es', hprint, hsourced, hparse⟩
  · obtain ⟨segments, hd, hc, hs, rfl⟩ := derives_of_parse h
    refine parse_printAll (List.forall₂_same.mpr (hd.reads hs []))
      (Segment.apart_elements [] segments) ?_
    rw [Segment.filterMap_elements]
    exact hc
  · have hnone : Compatible [] := .inl fun _ hd => nomatch hd
    by_cases hs : s = ""
    · obtain ⟨raw, hprint, hparse⟩ := parse_printAll .nil .nil hnone
      cases hprint
      rw [if_pos hs, hs]
      exact hparse
    · obtain ⟨raw, hprint, hparse⟩ := parse_printAll (.cons (.text hs) .nil) (.singleton _) hnone
      have hraw : printAll [.text s] = .ok (String.ofList (escapeBraces s.toList)) :=
        congrArg Except.ok String.append_empty
      cases hprint.symm.trans hraw
      rw [if_neg hs]
      exact hparse

/-- Text that ends in an opening brace before a hole, and text that starts with a closing brace
after one, are read back. -/
theorem parse_print_braces :
    let p : Property :=
      { designator := .name "x_1", operator := .structured, alignment := some (-12),
        format := some ",:" }
    let es : List Element := [.text "a\x7b", .property p, .text "\x7db"]
    let raw := "a\x7b{{@x_1,-12:,:}}\x7db"
    let t : Template :=
      ⟨raw, [.text "a\x7b", .property { p with source := some "{@x_1,-12:,:}" }, .text "\x7db"]⟩
    WellFormed es ∧ (∀ p, .property p ∈ es → p.Printable) ∧ printAll es = .ok raw ∧
      (∃ es', List.Forall₂ Sourced es es' ∧ Template.parse raw = .ok ⟨raw, es'⟩) ∧
      Template.parse raw = .ok t ∧
      ∃ raw', printAll t.elements = .ok raw' ∧ Template.parse raw' = .ok ⟨raw', t.elements⟩ := by
  intro p es raw t
  have hproperty : ∀ q, .property q ∈ es → q = p := fun q hq => by simpa [es] using hq
  have hw : WellFormed es := by
    refine ⟨?_, ?_, ?_, ?_⟩
    · intro s hs
      have : s = "a\x7b" ∨ s = "\x7db" := by simpa [es] using hs
      rcases this with rfl | rfl <;> decide
    · exact .cons_cons (by decide) (.cons_cons (by decide) (.singleton _))
    · intro q hq
      rw [hproperty q hq]
      refine ⟨by simp [p, Designator.Writable, Char.isAlphanum], ?_, rfl⟩
      intro f hf
      cases hf
      exact ⟨by decide, by simp [Braceless]⟩
    · exact .inr ⟨by decide, by decide⟩
  have hp : ∀ q, .property q ∈ es → q.Printable := by
    intro q hq
    rw [hproperty q hq]
    refine ⟨trivial, fun w hw => ?_⟩
    cases hw
    decide
  have hprint : printAll es = .ok raw := by decide
  have hparse : Template.parse raw = .ok t := by decide +kernel
  obtain ⟨hprinted, hagain, _⟩ := parse_print es raw ""
  obtain ⟨raw', es', hprint', hsourced, hparse'⟩ := (hprinted hw).1 hp
  cases hprint'.symm.trans hprint
  exact ⟨hw, hp, hprint, ⟨es', hsourced, hparse'⟩, hparse, hagain t hparse⟩

/-- An index that cannot be written. Written all the same, it is not read. -/
theorem not_printed {n : Nat} (hn : ¬ Decimal.Short n) :
    WellFormed [.property { designator := .index n }] ∧
      printAll [.property { designator := .index n }] = .error .tooGreat ∧
      ∀ t, Template.parse (enclose (Nat.toDigits 10 n)) ≠ .ok t := by
  refine ⟨⟨?_, .singleton _, ?_, ?_⟩, ?_, fun t h => ?_⟩
  · intro s hs
    simp at hs
  · intro p hp
    have : p = { designator := .index n } := by simpa using hp
    subst this
    exact ⟨trivial, fun f hf => (nomatch hf), rfl⟩
  · exact .inl fun d hd => by rw [List.mem_singleton.mp hd]; rfl
  · have hprint : Decimal.print n = .error .tooGreat := if_neg hn
    rw [printAll, Element.print, Property.print, Property.canonical, Designator.print, hprint]
    rfl
  · have hlong := Overlong.index .plain (numeral_toDigits n) (Nat.lt_of_not_le hn) .none .none
    have hf := firstOverlong_enclose hlong ""
    rw [String.append_empty, List.append_nil, List.append_nil] at hf
    cases h.symm.trans (parse_of_overlong hf)

/-- The least such index. -/
theorem print_power :
    let n := Nat.pow 10 Decimal.mostDigits
    WellFormed [.property { designator := .index n }] ∧
      printAll [.property { designator := .index n }] = .error .tooGreat ∧
      ∀ t, Template.parse (enclose (Nat.toDigits 10 n)) ≠ .ok t :=
  not_printed fun hs => Nat.lt_irrefl _ ((Decimal.short_iff _).mp hs)

end EventTemplate
