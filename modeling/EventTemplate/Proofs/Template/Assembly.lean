import EventTemplate.Proofs.Template.Print
import EventTemplate.Template.Assembly

/-
  Templates put together from tokens that were made by hand. Such tokens say what is text and what
  is a hole, in pieces of any size and at positions that may mean nothing; the raw template that
  they are printed to is cut anew, with all the text between two holes in one run.

  Proved: the new cut stands for the same elements, and there is a problem in it exactly if there is
  one in the tokens (`exists_cut_handmade`). So assembling the tokens and parsing what they are
  printed to succeed together, with the same template (`assemble_handmade`).
-/

namespace EventTemplate

/-! ## Tokens made by hand -/

/-- A token made by hand: text that is not empty and does not say what it was written as, or a
closed hole without braces in its body, at any positions. -/
inductive Token.Handmade : Token → Prop where
  | run {text : String} (hne : text ≠ "") : Handmade (.run ⟨text, none⟩)
  | hole {body : String} (hb : Braceless body.toList) (start stop : Int) :
      Handmade (.hole ⟨body, start, stop, true⟩)

/-- Elements with text in front of them, if there is any text. -/
def Element.putText (cs : List Char) (es : List Element) : List Element :=
  if cs = [] then es else consText (String.ofList cs) es

theorem consText_consText (s s' : String) (es : List Element) :
    Element.consText s (Element.consText s' es) = Element.consText (s ++ s') es := by
  cases es with
  | nil => rfl
  | cons e es =>
    cases e with
    | text s'' =>
      show [Element.text (s ++ (s' ++ s''))] ++ es = [Element.text (s ++ s' ++ s'')] ++ es
      rw [String.append_assoc]
    | property p => rfl

theorem putText_append (cs : List Char) {s : String} (hs : s ≠ "") (es : List Element) :
    Element.putText (cs ++ s.toList) es = Element.putText cs (Element.consText s es) := by
  have hne : s.toList ≠ [] := by simpa using hs
  unfold Element.putText
  by_cases hcs : cs = []
  · simp [hcs, hne]
  · rw [if_neg (by simp [hcs]), if_neg hcs, consText_consText, String.ofList_append,
      String.ofList_toList]

/-! ## The new cut -/

theorem literal_escapeBraces (cs : List Char) : Literal (escapeBraces cs) := by
  induction cs with
  | nil => exact .nil
  | cons c cs ih =>
    rw [escapeBraces_cons]
    exact (textForm_escaped c).literal.append ih

/-- Escaped text in front of a cut is a run of its own, if there is any. -/
theorem exists_cut_escaped {n : Int} {waiting rest : List Char} {tokens : List Token}
    (hr : Opens rest) (h : Cut (n + (escapeBraces waiting).length) rest tokens)
    (raw : Option String) :
    ∃ cut, Cut n (escapeBraces waiting ++ rest) cut ∧
      Token.problems raw cut = Token.problems raw tokens ∧
      Token.said cut = Element.putText waiting (Token.said tokens) := by
  by_cases hw : waiting = []
  · subst hw
    have hn : n + (escapeBraces []).length = n := by simp [escapeBraces]
    rw [hn] at h
    exact ⟨tokens, h, rfl, rfl⟩
  · have hne : escapeBraces waiting ≠ [] := by
      intro e
      have hread := unescape_escapeBraces waiting
      rw [e] at hread
      exact hw hread.symm
    refine ⟨_, .text hne (literal_escapeBraces waiting) hr h, rfl, ?_⟩
    rw [unescape_escapeBraces, Element.putText, if_neg hw]
    rfl

/-- A closed hole in front of tokens may be moved. -/
theorem moved {body : String} (hb : Braceless body.toList) (raw : Option String)
    (start stop start' stop' : Int) {tokens tokens' : List Token}
    (hp : Token.problems raw tokens = [] ↔ Token.problems raw tokens' = [])
    (he : Token.said tokens = Token.said tokens') :
    (Token.problems raw (.hole ⟨body, start, stop, true⟩ :: tokens) = [] ↔
      Token.problems raw (.hole ⟨body, start', stop', true⟩ :: tokens') = []) ∧
    Token.said (.hole ⟨body, start, stop, true⟩ :: tokens) =
      Token.said (.hole ⟨body, start', stop', true⟩ :: tokens') := by
  -- where a closed hole lies does not matter to the property in it
  have hmoved : Hole.property? ⟨body, start, stop, true⟩ =
      Hole.property? ⟨body, start', stop', true⟩ := rfl
  rw [Token.said, Token.said, ← hmoved]
  cases hread : Hole.property? ⟨body, start, stop, true⟩ with
  | some p =>
    rw [Token.problems_of_some hb hread, Token.problems_of_some hb (hmoved ▸ hread)]
    exact ⟨hp, congrArg (Element.property p :: ·) he⟩
  | none =>
    refine ⟨⟨fun h => ?_, fun h => ?_⟩, he⟩
    · obtain ⟨p, hsome, _⟩ := Token.exists_property h
      rw [hread] at hsome
      cases hsome
    · obtain ⟨p, hsome, _⟩ := Token.exists_property h
      rw [← hmoved, hread] at hsome
      cases hsome

/-- What tokens made by hand are printed to is cut into tokens that stand for the same, with the
text that waits in front. -/
theorem exists_cut_handmade {tokens : List Token} (h : ∀ token ∈ tokens, token.Handmade)
    (raw : Option String) (n : Int) (waiting : List Char) :
    ∃ cut, Cut n (escapeBraces waiting ++ tokens.flatMap fun token => token.print.toList) cut ∧
      (Token.problems raw cut = [] ↔ Token.problems raw tokens = []) ∧
      Token.said cut = Element.putText waiting (Token.said tokens) := by
  induction tokens generalizing n waiting with
  | nil =>
    have hdone : Cut (n + (escapeBraces waiting).length) [] [] := .done _
    obtain ⟨cut, hcut, hproblems, helements⟩ := exists_cut_escaped .done hdone raw
    exact ⟨cut, hcut, by rw [hproblems], helements⟩
  | cons token tokens ih =>
    obtain ⟨htoken, hrest⟩ := List.forall_mem_cons.mp h
    rw [List.flatMap_cons]
    cases htoken with
    | @run text hne =>
      -- text that meets text waits with it
      obtain ⟨cut, hcut, hproblems, helements⟩ := ih hrest n (waiting ++ text.toList)
      rw [putText_append waiting hne] at helements
      refine ⟨cut, ?_, hproblems, helements⟩
      have hprint : (Token.run ⟨text, none⟩).print.toList = escapeBraces text.toList :=
        String.toList_ofList
      rw [hprint, ← List.append_assoc]
      simpa only [escapeBraces, List.flatMap_append] using hcut
    | @hole body hb start stop =>
      obtain ⟨cut, hcut, hproblems, helements⟩ :=
        ih hrest (n + (escapeBraces waiting).length + 1 + body.toList.length + 1) []
      have hclosed := Cut.closed hb hcut
      rw [String.ofList_toList] at hclosed
      obtain ⟨cut', hcut', hproblems', helements'⟩ :=
        exists_cut_escaped (opens_closed hb _) hclosed raw
      refine ⟨cut', ?_, ?_, ?_⟩
      · have hprint : (Token.hole ⟨body, start, stop, true⟩).print.toList =
            '{' :: (body.toList ++ ['}']) := String.toList_ofList
        rw [hprint]
        simpa [escapeBraces] using hcut'
      · rw [hproblems']
        exact (moved hb raw _ _ start stop hproblems helements).1
      · rw [helements', (moved hb raw _ _ start stop hproblems helements).2]

/-! ## Assembling -/

theorem closed_of_property {raw : Option String} {h : Hole} {p : Property}
    (hp : h.property raw = .ok p) : h.closed = true := by
  unfold Hole.property at hp
  split at hp
  · split at hp <;> cases hp
  · rename_i hc
    simpa using hc

/-- Where all holes say properties, there is nothing that they cannot be dealt with for. -/
theorem interruption?_eq_none {raw : Option String} {tokens : List Token} {es : List Element}
    (he : Token.elements raw tokens = .ok es) (hp : Token.problems raw tokens = []) :
    Token.interruption? raw tokens = none := by
  induction tokens generalizing es with
  | nil => rfl
  | cons token tokens ih =>
    cases token with
    | run r =>
      rw [Token.elements] at he
      cases hrest : Token.elements raw tokens with
      | ok rest => exact ih hrest hp
      | error why =>
        rw [hrest] at he
        cases he
    | hole h =>
      rw [Token.elements] at he
      rw [Token.problems] at hp
      cases hread : h.property raw with
      | error why =>
        rw [hread] at he hp
        cases why with
        | problem q => cases hp
        | decimal why => cases he
      | ok p =>
        rw [hread] at he hp
        have hnone : h.interruption? raw = none := by
          simp [Hole.interruption?, Hole.misplacement?, Hole.unseen?, closed_of_property hread,
            hread]
        rw [Token.interruption?, hnone, Option.none_or]
        cases hrest : Token.elements raw tokens with
        | ok rest => exact ih hrest hp
        | error why =>
          rw [hrest] at he
          cases he

/-- Tokens are assembled to the template that they stand for, if they stand for one. -/
theorem assemble_eq_ok_iff (tokens : List Token) (raw : String) (t : Template) :
    Template.assemble tokens (some raw) = .ok t ↔ Template.ofTokens tokens (some raw) = .ok t := by
  unfold Template.assemble
  constructor
  · intro h
    split at h
    · cases h
    · cases hof : Template.ofTokens tokens (some raw) with
      | ok t' =>
        rw [hof] at h
        cases h
        rfl
      | error why =>
        rw [hof] at h
        cases h
  · intro h
    have hnone : Token.interruption? (some raw) tokens = none := by
      have hof := h
      unfold Template.ofTokens at hof
      dsimp only at hof
      rw [Option.getD_some] at hof
      cases he : Token.elements (some raw) tokens with
      | error why =>
        rw [he] at hof
        cases hof
      | ok es =>
        rw [he] at hof
        dsimp only at hof
        cases hes : Template.ofElements raw (Token.problems (some raw) tokens) es with
        | ok t' => exact interruption?_eq_none he (ofElements_eq_ok_iff.mp hes).1
        | error why =>
          rw [hes] at hof
          cases hof
    rw [Option.getD_some, hnone, h]
    rfl

theorem Token.Handmade.braceless {tokens : List Token} (h : ∀ token ∈ tokens, token.Handmade) :
    ∀ h ∈ tokens.filterMap Token.hole?, Braceless h.body.toList := by
  intro hole hmem
  obtain ⟨token, htoken, hsome⟩ := List.mem_filterMap.mp hmem
  cases h token htoken with
  | run _ => cases hsome
  | hole hb _ _ =>
    cases hsome
    exact hb

/-- Assembling tokens made by hand and parsing what they are printed to succeed together, and give
the same template. -/
theorem assemble_handmade {tokens : List Token} (h : ∀ token ∈ tokens, token.Handmade)
    (t : Template) :
    Template.assemble tokens = .ok t ↔
      Template.parse (String.join (tokens.map Token.print)) = .ok t := by
  let raw := String.join (tokens.map Token.print)
  have hassemble : Template.assemble tokens = Template.assemble tokens (some raw) := rfl
  have hparse : Template.parse raw = Template.ofTokens (scan raw) (some raw) := rfl
  obtain ⟨cut, hcut, hproblems, helements⟩ := exists_cut_handmade h (some raw) 0 []
  have hprint : raw.toList = tokens.flatMap fun token => token.print.toList := by
    rw [String.toList_join, List.flatMap_map]
  have hscan : scan raw = cut := by
    refine (scan_eq_iff_cut raw cut).mpr ?_
    rw [hprint]
    exact hcut
  show _ ↔ Template.parse raw = .ok t
  rw [hassemble, hparse, assemble_eq_ok_iff, ofTokens_eq_ok_iff (Token.Handmade.braceless h),
    ofTokens_eq_ok_iff (braceless_holes raw), hscan, hproblems, helements]
  rfl

/-- Texts that are neighbours, before and behind a hole that says it lies elsewhere. -/
theorem assemble_handmade_neighbours :
    let tokens : List Token :=
      [.run ⟨"a\x7b", none⟩, .run ⟨"\x7b", none⟩, .hole ⟨"@x,-5:\t", 7, -2, true⟩,
        .run ⟨"\x7d", none⟩]
    let t : Template := ⟨"a\x7b\x7b\x7b\x7b\x7b@x,-5:\t\x7d\x7d\x7d",
      [.text "a\x7b\x7b",
        .property ⟨.name "x", .structured, some (-5), some "\t", some "\x7b@x,-5:\t\x7d"⟩,
        .text "\x7d"]⟩
    (∀ token ∈ tokens, token.Handmade) ∧ Template.assemble tokens = .ok t ∧
      Template.parse (String.join (tokens.map Token.print)) = .ok t := by
  intro tokens t
  have h : ∀ token ∈ tokens, token.Handmade := by
    simp only [tokens, List.forall_mem_cons]
    exact ⟨.run (by decide), .run (by decide), .hole (by simp [Braceless]) 7 (-2),
      .run (by decide), fun _ hnone => nomatch hnone⟩
  have hparse : Template.parse (String.join (tokens.map Token.print)) = .ok t := by decide +kernel
  exact ⟨h, (assemble_handmade h t).mpr hparse, hparse⟩

end EventTemplate
