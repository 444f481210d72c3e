import EventTemplate.Limit
import EventTemplate.Proofs.Template.Print

/-
  Other designators. Each designator of a raw template is replaced, hole by hole, by what a function
  of its place and of itself gives; operators, alignments, formats and text stay as they are
  written. So names may be numbered from the left, or renamed.

  Proved: where the new designators can be written and go together, the new raw template is
  accepted, and its elements are the old ones with the new designators (`parse_redesignate`). The
  properties of a raw template are fewer than its characters, so in a text of any length that there
  can be their places can be written (`short_place`).
-/

namespace EventTemplate

/-! ## Raw templates -/

/-- A body with another designator. -/
def redesignateBody (f : Designator → Designator) (cs : List Char) : List Char :=
  let (operator, rest) := Body.readOperator cs
  operator.symbol ++ ((f (Body.designated (rest.takeWhile Body.isWordChar))).text.toList ++
    rest.dropWhile Body.isWordChar)

/-- Tokens as they are written with other designators, when there are `j` holes before them. -/
def Token.redesignate (f : Nat → Designator → Designator) (j : Nat) : List Token → List Char
  | [] => []
  | .run r :: rest => r.print.toList ++ redesignate f j rest
  | .hole h :: rest =>
    let body := redesignateBody (f j) h.body.toList
    (Hole.print { h with body := String.ofList body }).toList ++ redesignate f (j + 1) rest

/-- A raw template with other designators, each given by its place among the holes and by the one
that was there. -/
def redesignate (f : Nat → Designator → Designator) (raw : String) : String :=
  String.ofList (Token.redesignate f 0 (scan raw))

/-- A designator with another name; an index stays as it is. -/
def Designator.rename (g : String → String) : Designator → Designator
  | name s => name (g s)
  | index n => index n

/-- A raw template whose properties are numbered from the left. -/
def numbered (raw : String) : String :=
  redesignate (fun j _ => .index j) raw

/-- A raw template with other names. -/
def renamed (g : String → String) (raw : String) : String :=
  redesignate (fun _ d => d.rename g) raw

/-! ## Elements -/

/-- `Redesignated f j es es'`: the elements `es'` are the elements `es` with other designators, when
there are `j` properties before them. A property knows another source then. -/
inductive Redesignated (f : Nat → Designator → Designator) :
    Nat → List Element → List Element → Prop where
  | nil (j : Nat) : Redesignated f j [] []
  | text {j : Nat} {es es' : List Element} (s : String) (h : Redesignated f j es es') :
      Redesignated f j (.text s :: es) (.text s :: es')
  | property {j : Nat} {es es' : List Element} (p : Property) (source : Option String)
      (h : Redesignated f (j + 1) es es') :
      Redesignated f j (.property p :: es)
        (.property { p with designator := f j p.designator, source := source } :: es')

section Elements

variable {f : Nat → Designator → Designator} {j : Nat} {es es' : List Element}

theorem Redesignated.consText (h : Redesignated f j es es') (s : String) :
    Redesignated f j (Element.consText s es) (Element.consText s es') := by
  cases h with
  | nil => exact .text s (.nil j)
  | text s' h => exact .text (s ++ s') h
  | property p source h => exact .text s (.property p source h)

theorem Redesignated.designators (h : Redesignated f j es es') :
    (es'.filterMap Element.property?).map (·.designator) =
      ((es.filterMap Element.property?).map (·.designator)).mapIdx fun k d => f (j + k) d := by
  induction h with
  | nil => rfl
  | text _ _ ih => exact ih
  | @property j es es' p source _ ih =>
    have hnext : (fun k d => f (j + 1 + k) d) = fun k d => f (j + (k + 1)) d := by
      funext k d
      rw [Nat.add_assoc, Nat.add_comm 1]
    rw [hnext] at ih
    have hprops : ∀ (q : Property) (rest : List Element),
        (Element.property q :: rest).filterMap Element.property? =
          q :: rest.filterMap Element.property? := fun _ _ => rfl
    rw [hprops, hprops, List.map_cons, List.map_cons, List.mapIdx_cons, ih]
    rfl

theorem Redesignated.operators (h : Redesignated f j es es') :
    (es'.filterMap Element.property?).map (·.operator) =
      (es.filterMap Element.property?).map (·.operator) := by
  induction h with
  | nil => rfl
  | text _ _ ih => exact ih
  | property p _ _ ih => exact congrArg (p.operator :: ·) ih

end Elements

/-! ## Parsing -/

/-- A designator that a hole can hold and that is read again. -/
structure Designator.Fits (d : Designator) : Prop where
  writable : d.Writable
  short : d.Short

theorem PropertyForm.redesignate {cs : List Char} {p : Property} (h : PropertyForm cs p)
    (hs : p.Short) {f : Designator → Designator} (hw : (f p.designator).Fits) :
    PropertyForm (redesignateBody f cs)
        { p with
          designator := f p.designator
          source := some (enclose (redesignateBody f cs)) } ∧
      ∀ n, ¬ Overlong (redesignateBody f cs) n := by
  have hno := h.short_iff.mp hs
  cases h with
  | @intro ds as fs designator _ _ operator hd ha hf =>
    have hbody : redesignateBody f (operator.symbol ++ (ds ++ (as ++ fs))) =
        operator.symbol ++ ((f designator).text.toList ++ (as ++ fs)) := by
      unfold redesignateBody
      rw [readOperator_complete operator (hd.head? _)]
      dsimp only
      rw [takeWhile_append_stop hd.isWordChar (ha.isWordChar_head? hf),
        dropWhile_append_stop hd.isWordChar (ha.isWordChar_head? hf), hd.designated]
    have hds : Numeral ds → ds.length ≤ Decimal.mostDigits := fun hnumeral =>
      Nat.le_of_not_lt fun hn => hno _ (.index operator hnumeral hn ha hf)
    have has : as.countP Char.isDigit ≤ Decimal.mostDigits :=
      Nat.le_of_not_lt fun hn => hno _ (.alignment operator hd hds ha hn hf)
    rw [hbody]
    exact ⟨.intro operator hw.writable.form ha hf, not_overlong operator hw.writable.form
      (hw.writable.length_le hw.short) ha has hf⟩

/-- Where a cut without problems gets other designators, there is a cut again, without problems. -/
theorem Cut.redesignate {n : Int} {cs : List Char} {tokens : List Token} {raw : Option String}
    (h : Cut n cs tokens) (hp : Token.problems raw tokens = [])
    (hs : ∀ p ∈ (Token.said tokens).filterMap Element.property?, p.Short)
    {f : Nat → Designator → Designator} (j : Nat)
    (hw : ∀ k p, ((Token.said tokens).filterMap Element.property?)[k]? = some p →
      (f (j + k) p.designator).Fits) (raw' : Option String) (m : Int) :
    ∃ tokens', Cut m (Token.redesignate f j tokens) tokens' ∧ Token.problems raw' tokens' = [] ∧
      (∀ p ∈ (Token.said tokens').filterMap Element.property?, p.Short) ∧
      Redesignated f j (Token.said tokens) (Token.said tokens') ∧
      (Opens cs → Opens (Token.redesignate f j tokens)) := by
  induction h generalizing j m with
  | done n => exact ⟨[], .done m, rfl, fun _ hnil => (nomatch hnil), .nil j, fun _ => .done⟩
  | @text n source rest tokens hne hliteral hr _ ih =>
    rw [Token.said, filterMap_consText] at hs hw
    obtain ⟨tokens', hcut, hnone, hshort, hes, hopens⟩ := ih hp hs j hw (m + source.length)
    have hprint :
        (Run.print ⟨String.ofList (unescape source), some (String.ofList source)⟩).toList =
          source :=
      String.toList_ofList
    rw [Token.redesignate, hprint]
    refine ⟨_, .text hne hliteral (hopens hr) hcut, hnone, ?_, hes.consText _,
      fun ho => absurd ho (hliteral.not_opens hne rest)⟩
    rw [Token.said, filterMap_consText]
    exact hshort
  | @closed n body rest tokens hb _ ih =>
    obtain ⟨p, hread, hp⟩ := Token.exists_property hp
    rw [Token.said, hread] at hs hw ⊢
    obtain ⟨hshort, hs⟩ := List.forall_mem_cons.mp hs
    rw [property?_eq_some_iff (by simpa using hb), String.toList_ofList] at hread
    obtain ⟨hform, hno⟩ := hread.2.redesignate hshort (hw 0 p rfl)
    have hrest : ∀ k q, ((Token.said tokens).filterMap Element.property?)[k]? = some q →
        (f (j + 1 + k) q.designator).Fits := by
      intro k q hq
      rw [Nat.add_assoc, Nat.add_comm 1]
      exact hw (k + 1) q hq
    obtain ⟨tokens', hcut, hnone, hshorts, hes, _⟩ := ih hp hs (j + 1) hrest
      (m + 1 + (redesignateBody (f j) body).length + 1)
    have hprint : Token.redesignate f j
        (.hole ⟨String.ofList body, n, n + 1 + body.length + 1, true⟩ :: tokens) =
          '{' :: (redesignateBody (f j) body ++ '}' :: Token.redesignate f (j + 1) tokens) := by
      simp [Token.redesignate, Hole.print]
    let hole' : Hole := ⟨String.ofList (redesignateBody (f j) body), m,
      m + 1 + (redesignateBody (f j) body).length + 1, true⟩
    have hb' : Braceless hole'.body.toList := by simpa [hole'] using hform.braceless
    have hread' : hole'.property? = some _ :=
      (property?_eq_some_iff hb').mpr ⟨rfl, by simpa [hole'] using hform⟩
    rw [hprint]
    refine ⟨.hole hole' :: tokens', .closed hform.braceless hcut, ?_, ?_, ?_,
      fun _ => opens_closed hform.braceless _⟩
    · rw [Token.problems_of_some hb' hread']
      exact hnone
    · rw [Token.said, hread']
      exact List.forall_mem_cons.mpr ⟨hform.short_iff.mpr hno, hshorts⟩
    · rw [Token.said, hread']
      exact .property p _ hes
  | unclosed hb _ _ _ _ =>
    obtain ⟨p, hread, _⟩ := Token.exists_property hp
    rw [property?_eq_some_iff (by simpa using hb)] at hread
    exact absurd hread.1 Bool.false_ne_true

/-- A raw template with other designators is accepted if these can be written and go together, and
nothing else is changed in its elements. -/
theorem parse_redesignate {raw : String} {t : Template} (h : Template.parse raw = .ok t)
    {f : Nat → Designator → Designator}
    (hw : ∀ j p, t.properties[j]? = some p → (f j p.designator).Fits)
    (hc : Compatible ((t.properties.map (·.designator)).mapIdx f)) :
    ∃ t', Template.parse (redesignate f raw) = .ok t' ∧
      Redesignated f 0 t.elements t'.elements := by
  obtain ⟨hproblems, _, hs, rfl⟩ := of_parse h
  have hw' : ∀ k p, ((Token.said (scan raw)).filterMap Element.property?)[k]? = some p →
      (f (0 + k) p.designator).Fits := by
    intro k p hp
    rw [Nat.zero_add]
    exact hw k p hp
  obtain ⟨tokens', hcut, hnone, hshort, hes, _⟩ :=
    (cut_scan raw).redesignate hproblems hs 0 hw' (some (redesignate f raw)) 0
  have hraw : (redesignate f raw).toList = Token.redesignate f 0 (scan raw) := String.toList_ofList
  rw [← hraw] at hcut
  have hdesignators := hes.designators
  simp only [Nat.zero_add] at hdesignators
  have hc' := hc
  unfold Template.properties at hc'
  rw [← hdesignators] at hc'
  exact ⟨_, parse_of_cut hcut hnone hc' hshort, hes⟩

/-! ## Places -/

theorem Derives.length_properties_le {cs : List Char} {segments : List Segment}
    (h : Derives cs segments) : (segments.filterMap Segment.property?).length ≤ cs.length := by
  induction h with
  | nil => exact Nat.le_refl 0
  | @text cs rest segments _ _ ih =>
    rw [List.length_append]
    exact Nat.le_trans ih (Nat.le_add_left _ _)
  | @property body rest p segments _ _ ih =>
    have hcons : (Segment.property p :: segments).filterMap Segment.property? =
        p :: segments.filterMap Segment.property? := rfl
    rw [hcons]
    simp only [List.length_cons, List.length_append]
    omega

/-- The place of a property can be written, as no text is longer than a machine word counts. -/
theorem short_place {raw : String} {t : Template} (h : Template.parse raw = .ok t)
    (hlength : raw.length ≤ greatestSize) {j : Nat} {p : Property}
    (hp : t.properties[j]? = some p) : Decimal.Short j := by
  obtain ⟨segments, hd, _, _, rfl⟩ := derives_of_parse h
  have hle := hd.length_properties_le
  rw [String.length_toList] at hle
  obtain ⟨hlt, _⟩ := List.getElem?_eq_some_iff.mp hp
  rw [Template.properties, Segment.filterMap_elements] at hlt
  have hgreatest : greatestSize < 10 ^ 19 := by decide
  have hpow : 10 ^ 19 ≤ 10 ^ Decimal.mostDigits := Nat.pow_le_pow_right (by decide) (by decide)
  rw [Decimal.short_iff, Nat.pow_eq]
  omega

end EventTemplate
