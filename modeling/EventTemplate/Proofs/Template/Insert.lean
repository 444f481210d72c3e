import EventTemplate.Proofs.Template.Print

/-
  Escaped text between raw templates. Text whose braces are written twice is text again wherever it
  is put between two raw templates, whatever it holds, and the raw templates around it keep their
  meaning. Only text of closing braces alone may be misread: in `}` `}}` `}` there is no telling
  which braces belong together.

  Proved: the elements of the whole are those of the parts, with texts that meet in one piece
  (`parse_insert`). It rests on `unescape_insert`: where escaped text holds another character than a
  closing brace, a closing brace that stands alone in front of it is still read as one
  (`unescape_right_escapeBraces`).
-/

namespace EventTemplate

/-! ## Text between texts -/

/-- A closing brace in front of escaped text stands for itself, unless there are only closing braces
in the text. -/
theorem unescape_right_escapeBraces {cs : List Char} (h : ∃ c ∈ cs, c ≠ '}') (rest : List Char) :
    unescape ('}' :: (escapeBraces cs ++ rest)) = '}' :: (cs ++ unescape rest) := by
  induction cs with
  | nil =>
    obtain ⟨c, hc, _⟩ := h
    cases hc
  | cons c cs ih =>
    by_cases hc : c = '}'
    · -- the pairs shift by one brace, and the last of all is left to the characters behind
      subst hc
      have hcs : ∃ c ∈ cs, c ≠ '}' := by simpa using h
      exact congrArg ('}' :: ·) (ih hcs)
    · have hnext : ∀ r, escapeBraces (c :: cs) ++ rest ≠ '}' :: r := by
        intro r e
        rw [escapeBraces_cons, escaped] at e
        split at e
        · exact hc (List.head_eq_of_cons_eq e)
        · exact hc (List.head_eq_of_cons_eq e)
      rw [unescape.eq_3 _ _ (fun _ e _ => absurd e (by decide)) fun r _ e => hnext r e,
        unescape_escapeBraces_append]

/-- Literal text is read apart from what follows if a closing brace would be. -/
theorem Literal.unescape_append {cs rest : List Char} (h : Literal cs)
    (hr : unescape ('}' :: rest) = '}' :: unescape rest) :
    unescape (cs ++ rest) = unescape cs ++ unescape rest := by
  fun_induction unescape cs with
  | case1 cs ih => exact congrArg ('{' :: ·) (ih h.of_pair)
  | case2 cs ih =>
    have hcs := (h.of_cons (by decide)).of_cons (by decide)
    exact congrArg ('}' :: ·) (ih hcs)
  | case3 c cs hl hrt ih =>
    have hc := h.ne_left hl
    cases cs with
    | nil =>
      by_cases hright : c = '}'
      · rw [hright]
        exact hr
      · exact unescape.eq_3 _ _ (fun _ e _ => hc e) fun _ e _ => hright e
    | cons d cs =>
      have hright : ∀ r, c = '}' → d :: (cs ++ rest) = '}' :: r → False := by
        intro r e e'
        exact hrt cs e (by rw [List.head_eq_of_cons_eq e'])
      have ih := ih (h.of_cons hc)
      rw [List.cons_append, List.cons_append, unescape.eq_3 _ _ (fun _ e _ => hc e) hright,
        ← List.cons_append, ih, List.cons_append]
  | case4 => rfl

theorem unescape_insert {cs text : List Char} (hcs : Literal cs) (ht : ∃ c ∈ text, c ≠ '}')
    (rest : List Char) :
    unescape (cs ++ (escapeBraces text ++ rest)) = unescape cs ++ (text ++ unescape rest) := by
  have hright := unescape_right_escapeBraces ht rest
  rw [← unescape_escapeBraces_append] at hright
  rw [hcs.unescape_append hright, unescape_escapeBraces_append]

/-! ## Elements with text between them -/

/-- Elements with texts that are neighbours in one piece. -/
def mergeTexts : List Element → List Element
  | [] => []
  | .text s :: rest => Element.consText s (mergeTexts rest)
  | .property p :: rest => .property p :: mergeTexts rest

theorem filterMap_mergeTexts (es : List Element) :
    (mergeTexts es).filterMap Element.property? = es.filterMap Element.property? := by
  induction es with
  | nil => rfl
  | cons e es ih =>
    cases e with
    | text s =>
      rw [mergeTexts, filterMap_consText, ih]
      rfl
    | property p => exact congrArg (p :: ·) ih

/-- Elements without neighbours that are texts are left as they are. -/
theorem mergeTexts_of_apart {es : List Element} (h : Apart es) : mergeTexts es = es := by
  induction es with
  | nil => rfl
  | cons e es ih =>
    obtain ⟨hnext, hes⟩ := List.isChain_cons.mp h
    have hmerged := ih hes
    cases e with
    | text s =>
      rw [mergeTexts, hmerged, consText_of_not_text]
      intro s' rest e
      exact hnext (.text s') (by rw [e]; rfl) ⟨rfl, rfl⟩
    | property p => exact congrArg (Element.property p :: ·) hmerged

/-- Text in front of literal text that nothing or a property follows. -/
theorem consText_textElement (s : String) (source : List Char) {es : List Element}
    (hes : ∀ s' rest, es ≠ .text s' :: rest) :
    Element.consText s (Segment.textElement source ++ es) =
      .text (s ++ String.ofList (unescape source)) :: es := by
  unfold Segment.textElement
  split
  · rename_i hempty
    rw [hempty, List.nil_append, consText_of_not_text hes]
    exact congrArg (fun t => Element.text t :: es) String.append_empty.symm
  · rfl

theorem mergeTexts_textElement (source : List Char) {es : List Element}
    (hes : ∀ s rest, mergeTexts es ≠ .text s :: rest) :
    mergeTexts (Segment.textElement source ++ es) =
      Segment.textElement source ++ mergeTexts es := by
  unfold Segment.textElement
  split
  · rfl
  · exact consText_of_not_text hes

/-- The text between the text that waits and the text that follows. -/
theorem mergeTexts_between {before : List Char} (hb : Literal before) {s : String}
    (hs : ∃ c ∈ s.toList, c ≠ '}') (after : List Char) {es : List Element} (ha : Apart es)
    (hes : ∀ s' rest, es ≠ .text s' :: rest) :
    mergeTexts (Segment.textElement before ++ .text s :: (Segment.textElement after ++ es)) =
      Segment.textElement (before ++ (escapeBraces s.toList ++ after)) ++ es := by
  have hread := unescape_insert hb hs after
  have hne : before ++ (escapeBraces s.toList ++ after) ≠ [] := by
    intro e
    rw [e] at hread
    obtain ⟨c, hc, _⟩ := hs
    have hmem : c ∈ unescape [] := by
      rw [hread]
      exact List.mem_append_right _ (List.mem_append_left _ hc)
    exact absurd hmem List.not_mem_nil
  have hmerged := mergeTexts_of_apart ha
  have hafter : mergeTexts (.text s :: (Segment.textElement after ++ es)) =
      .text (s ++ String.ofList (unescape after)) :: es := by
    rw [mergeTexts, mergeTexts_textElement after (by rwa [hmerged]), hmerged,
      consText_textElement s after hes]
  have hwhole : Segment.textElement (before ++ (escapeBraces s.toList ++ after)) =
      [.text (String.ofList (unescape before) ++ (s ++ String.ofList (unescape after)))] := by
    rw [Segment.textElement, if_neg hne, hread, String.ofList_append, String.ofList_append,
      String.ofList_toList]
  rw [hwhole]
  unfold Segment.textElement at hafter ⊢
  by_cases hempty : before = []
  · rw [if_pos hempty, hempty, List.nil_append, hafter]
    exact congrArg (fun t => Element.text t :: es) String.empty_append.symm
  · rw [if_neg hempty, List.singleton_append, mergeTexts, hafter]
    rfl

/-! ## Derivations with text between them -/

theorem Derives.append {cs ds : List Char} {segments segments' : List Segment}
    (h : Derives cs segments) (h' : Derives ds segments') :
    Derives (cs ++ ds) (segments ++ segments') := by
  induction h with
  | nil => exact h'
  | text ht _ ih =>
    rw [List.append_assoc]
    exact .text ht ih
  | property hp _ ih =>
    rw [List.cons_append, List.append_assoc, List.cons_append]
    exact .property hp ih

/-- Where the text is read, what follows goes on as if it came first. -/
theorem elements_after {before : List Char} (hb : Literal before) {s : String}
    (hs : ∃ c ∈ s.toList, c ≠ '}') (after : List Char) (segments : List Segment) :
    Segment.elements (before ++ (escapeBraces s.toList ++ after)) segments =
      mergeTexts (Segment.textElement before ++ .text s :: Segment.elements after segments) := by
  induction segments generalizing after with
  | nil =>
    have hnil : Apart [] := .nil
    have hseam := mergeTexts_between hb hs after hnil fun _ _ e => nomatch e
    rw [List.append_nil, List.append_nil] at hseam
    exact hseam.symm
  | cons segment segments ih =>
    cases segment with
    | text cs =>
      have ih := ih (after ++ cs)
      rw [← List.append_assoc (escapeBraces s.toList), ← List.append_assoc before] at ih
      exact ih
    | property p =>
      have hapart := Segment.apart_elements [] (.property p :: segments)
      exact (mergeTexts_between hb hs after hapart fun _ _ e => nomatch e).symm

/-- The elements of derivations with text between them. -/
theorem Derives.elements_insert {cs : List Char} {segments : List Segment}
    (h : Derives cs segments) {waiting : List Char} (hw : Literal waiting) {s : String}
    (hs : ∃ c ∈ s.toList, c ≠ '}') (segments' : List Segment) :
    Segment.elements waiting
        (segments ++ (s.toList.map (fun c => .text (escaped c)) ++ segments')) =
      mergeTexts
        (Segment.elements waiting segments ++ .text s :: Segment.elements [] segments') := by
  induction h generalizing waiting with
  | nil =>
    have hafter := elements_after hw hs [] segments'
    rw [List.append_nil] at hafter
    rw [List.nil_append, elements_text]
    exact hafter
  | text ht _ ih => exact ih (hw.append ht.literal)
  | @property body rest p segments hp _ ih =>
    have hproperty : mergeTexts (.property p :: (Segment.elements [] segments ++
        .text s :: Segment.elements [] segments')) =
          .property p :: Segment.elements []
            (segments ++ (s.toList.map (fun c => .text (escaped c)) ++ segments')) :=
      congrArg (Element.property p :: ·) (ih .nil).symm
    rw [List.cons_append, Segment.elements, Segment.elements, List.append_assoc, List.cons_append,
      mergeTexts_textElement waiting, hproperty]
    intro s' rest' e
    rw [hproperty] at e
    cases e

/-! ## Parsing -/

/-- Escaped text keeps its place. Between two raw templates whose designators go together it is text
as it was before its braces were written twice, and the raw templates around it stand for the same
elements and properties as each alone; only texts that meet are in one piece. The text has to hold
another character than a closing brace. -/
theorem parse_insert {raw raw' s : String} {t t' : Template} (h : Template.parse raw = .ok t)
    (h' : Template.parse raw' = .ok t')
    (hc : Compatible ((t.properties ++ t'.properties).map (·.designator)))
    (hs : ∃ c ∈ s.toList, c ≠ '}') :
    ∃ whole, Template.parse (raw ++ String.ofList (escapeBraces s.toList) ++ raw') = .ok whole ∧
      whole.elements = mergeTexts (t.elements ++ .text s :: t'.elements) ∧
      whole.properties = t.properties ++ t'.properties := by
  obtain ⟨segments, hd, _, hshort, rfl⟩ := derives_of_parse h
  obtain ⟨segments', hd', _, hshort', rfl⟩ := derives_of_parse h'
  have hwhole := hd.append (derives_text s.toList hd')
  have helements := hd.elements_insert .nil hs segments'
  have hproperties : (mergeTexts (Segment.elements [] segments ++ .text s ::
      Segment.elements [] segments')).filterMap Element.property? =
        Template.properties ⟨raw, Segment.elements [] segments⟩ ++
          Template.properties ⟨raw', Segment.elements [] segments'⟩ := by
    rw [filterMap_mergeTexts, List.filterMap_append]
    rfl
  have hshorts : ∀ p ∈ (segments ++ (s.toList.map (fun c => Segment.text (escaped c)) ++
      segments')).filterMap Segment.property?, p.Short := by
    rw [← Segment.filterMap_elements [], helements, hproperties]
    intro p hp
    rcases List.mem_append.mp hp with hp | hp
    · rw [Template.properties, Segment.filterMap_elements] at hp
      exact hshort p hp
    · rw [Template.properties, Segment.filterMap_elements] at hp
      exact hshort' p hp
  have hdesignators : Compatible (Segment.designators
      (segments ++ (s.toList.map (fun c => .text (escaped c)) ++ segments'))) := by
    rw [Segment.designators, ← Segment.filterMap_elements [], helements, hproperties]
    exact hc
  have htext : (raw ++ String.ofList (escapeBraces s.toList) ++ raw').toList =
      raw.toList ++ (escapeBraces s.toList ++ raw'.toList) := by
    simp
  rw [← htext] at hwhole
  refine ⟨_, parse_of_derives hwhole hdesignators hshorts, helements, ?_⟩
  rw [Template.properties, helements, hproperties]

/-- Closing braces on both sides of escaped text that begins and ends with one. -/
theorem parse_insert_braces :
    let raw := "{a}\x7d"
    let raw' := "\x7d\x7d\x7d{b}"
    let s := "\x7d{@,:}"
    let a : Property := { designator := .name "a", source := some "{a}" }
    let b : Property := { designator := .name "b", source := some "{b}" }
    (∃ c ∈ s.toList, c ≠ '}') ∧
      ∃ whole, Template.parse (raw ++ String.ofList (escapeBraces s.toList) ++ raw') = .ok whole ∧
        whole.elements = [.property a, .text "\x7d\x7d{@,:}\x7d\x7d", .property b] ∧
        whole.properties = [a, b] := by
  intro raw raw' s a b
  have hraw : Template.parse raw = .ok ⟨raw, [.property a, .text "\x7d"]⟩ := by decide +kernel
  have hraw' : Template.parse raw' = .ok ⟨raw', [.text "\x7d\x7d", .property b]⟩ := by
    decide +kernel
  have hs : ∃ c ∈ s.toList, c ≠ '}' := ⟨'@', by simp [s], by decide⟩
  have hc : Compatible [.name "a", .name "b"] := .inr ⟨by decide, by simp⟩
  obtain ⟨whole, hparse, helements, hproperties⟩ := parse_insert hraw hraw' hc hs
  exact ⟨hs, whole, hparse, helements, hproperties⟩

end EventTemplate
