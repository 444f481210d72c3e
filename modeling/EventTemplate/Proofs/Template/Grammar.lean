import Mathlib.Data.List.Chain
import EventTemplate.Proofs.Problem.Log
import EventTemplate.Proofs.Property.Compatible
import EventTemplate.Proofs.Property.Overlong

/-
  The grammar of a raw template, with what each part stands for:

    template ::= segment*
    segment  ::= "{{" | "}}" | one character other than "{" | property

  The grammar is ambiguous on closing braces: two of them are one segment or two. It leaves no doubt
  about the properties and their places, and the text between them is always read the same way.

  Proved: a raw template is parsed exactly if the grammar derives it with designators that go
  together and no number has too many digits, and the elements are those of the derivation,
  whichever it is (`parse_eq_ok_iff_derives`). The grammar says nothing of the digits of a number,
  so not all that it derives is parsed (`parse_zeros`).
-/

namespace EventTemplate

/-! ## Elements -/

def Element.isText : Element → Bool
  | text _ => true
  | property _ => false

/-- Elements, no two neighbours of which are both text. -/
def Apart (es : List Element) : Prop :=
  es.IsChain fun e e' => ¬ (e.isText = true ∧ e'.isText = true)

/-! ## The grammar -/

/-- A piece of a raw template: text as it is written, or a property. -/
inductive Segment where
  | text (source : List Char)
  | property (p : Property)

/-- A piece of text: an escaped brace, or one character other than an opening brace. -/
inductive TextForm : List Char → Prop where
  | left : TextForm ['{', '{']
  | right : TextForm ['}', '}']
  | char {c : Char} (hc : c ≠ '{') : TextForm [c]

/-- `Derives cs segments`: the characters `cs` are the segments, one after the other. -/
inductive Derives : List Char → List Segment → Prop where
  | nil : Derives [] []
  | text {cs rest : List Char} {segments : List Segment} (ht : TextForm cs)
      (h : Derives rest segments) : Derives (cs ++ rest) (.text cs :: segments)
  | property {body rest : List Char} {p : Property} {segments : List Segment}
      (hp : PropertyForm body p) (h : Derives rest segments) :
      Derives ('{' :: (body ++ '}' :: rest)) (.property p :: segments)

namespace Segment

/-- The property that a segment is, if it is one. -/
def property? : Segment → Option Property
  | text _ => none
  | property p => some p

/-- The designators of the properties among segments. -/
def designators (segments : List Segment) : List Designator :=
  (segments.filterMap property?).map (·.designator)

/-- The properties among segments, each with its position, when the first segment is at `n`. -/
def placed (n : Int) : List Segment → List (Int × Property)
  | [] => []
  | text cs :: rest => placed (n + cs.length) rest
  | property p :: rest => (n, p) :: placed (n + (p.source.getD "").length) rest

/-- The element that a stretch of literal text is; nothing if there is no text. -/
def textElement (source : List Char) : List Element :=
  if source = [] then [] else [.text (String.ofList (unescape source))]

/-- The elements that segments stand for when the literal text `waiting` comes before them: text
that is not divided by a property is read in one. -/
def elements (waiting : List Char) : List Segment → List Element
  | [] => textElement waiting
  | text cs :: rest => elements (waiting ++ cs) rest
  | property p :: rest => textElement waiting ++ .property p :: elements [] rest

theorem filterMap_textElement (source : List Char) :
    (textElement source).filterMap Element.property? = [] := by
  unfold textElement
  split <;> rfl

theorem ne_of_mem_textElement {source : List Char} {s : String}
    (h : .text s ∈ textElement source) : s ≠ "" := by
  unfold textElement at h
  split at h
  · cases h
  · rename_i hne
    cases List.mem_singleton.mp h
    simpa using unescape_ne_nil hne

/-- No element is empty text. -/
theorem ne_of_mem_elements {waiting : List Char} {segments : List Segment} {s : String}
    (h : .text s ∈ elements waiting segments) : s ≠ "" := by
  induction segments generalizing waiting with
  | nil => exact ne_of_mem_textElement h
  | cons segment segments ih =>
    cases segment with
    | text cs => exact ih h
    | property p =>
      rcases List.mem_append.mp h with h | h
      · exact ne_of_mem_textElement h
      · rcases List.mem_cons.mp h with h | h
        · cases h
        · exact ih h

/-- Text is an element of its own only where a property divides it. -/
theorem apart_elements (waiting : List Char) (segments : List Segment) :
    Apart (elements waiting segments) := by
  induction segments generalizing waiting with
  | nil =>
    unfold elements textElement
    split
    · exact .nil
    · exact .singleton _
  | cons segment segments ih =>
    cases segment with
    | text cs => exact ih _
    | property p =>
      have hp : Apart (.property p :: elements [] segments) :=
        List.isChain_cons.mpr ⟨fun _ _ hboth => Bool.false_ne_true hboth.1, ih []⟩
      unfold elements textElement
      split
      · exact hp
      · refine List.isChain_cons.mpr ⟨fun e he hboth => ?_, hp⟩
        cases he
        exact Bool.false_ne_true hboth.2

/-- The properties of the elements are those of the segments. -/
theorem filterMap_elements (waiting : List Char) (segments : List Segment) :
    (elements waiting segments).filterMap Element.property? = segments.filterMap property? := by
  induction segments generalizing waiting with
  | nil => exact filterMap_textElement waiting
  | cons segment segments ih =>
    cases segment with
    | text cs => exact ih (waiting ++ cs)
    | property p =>
      rw [elements, List.filterMap_append, filterMap_textElement, List.nil_append]
      exact congrArg (p :: ·) (ih [])

end Segment

theorem TextForm.literal {cs : List Char} (h : TextForm cs) : Literal cs := by
  cases h with
  | left => exact .pair .nil
  | right => exact .char (by decide) (.char (by decide) .nil)
  | char hc => exact .char hc .nil

theorem Derives.of_literal {source rest : List Char} {segments : List Segment}
    (hs : Literal source) (h : Derives rest segments) : ∃ more, Derives (source ++ rest) more := by
  induction hs with
  | nil => exact ⟨segments, h⟩
  | pair _ ih =>
    obtain ⟨more, h⟩ := ih
    exact ⟨.text ['{', '{'] :: more, .text .left h⟩
  | @char c _ hc _ ih =>
    obtain ⟨more, h⟩ := ih
    exact ⟨.text [c] :: more, .text (.char hc) h⟩

/-! ## From derivations to tokens -/

theorem consText_of_not_text {s : String} {es : List Element}
    (h : ∀ s' rest, es ≠ .text s' :: rest) : Element.consText s es = .text s :: es := by
  unfold Element.consText
  split
  · exact absurd rfl (h _ _)
  · rfl

theorem filterMap_consText (s : String) (es : List Element) :
    (Element.consText s es).filterMap Element.property? = es.filterMap Element.property? := by
  unfold Element.consText
  split <;> rfl

namespace Token

/-- The properties that the holes among tokens stand for, each with its position. -/
def placed : List Token → List (Int × Property)
  | [] => []
  | run _ :: rest => placed rest
  | hole h :: rest => match h.property? with
    | some p => (h.start, p) :: placed rest
    | none => placed rest

/-- The tokens stand for the elements and for the properties at their positions, and no hole among
them has a problem. -/
structure Stand (raw : Option String) (tokens : List Token) (es : List Element)
    (ps : List (Int × Property)) : Prop where
  problems : problems raw tokens = []
  elements : said tokens = es
  placed : placed tokens = ps

variable {raw : Option String} {h : Hole} {tokens : List Token}

/-- A hole that says a property has no problem. -/
theorem problems_of_some (hb : Braceless h.body.toList) {p : Property} (hp : h.property? = some p) :
    Token.problems raw (.hole h :: tokens) = Token.problems raw tokens := by
  rw [Token.problems]
  rcases h.property_cases hb raw with ⟨_, _, _, hread⟩ | ⟨_, _, _, _, hread⟩ | ⟨_, hnone, _, _⟩
  · rw [hread]
  · rw [hread]
  · rw [hp] at hnone
    cases hnone

/-- A hole without a problem says a property. -/
theorem exists_property (hp : Token.problems raw (.hole h :: tokens) = []) :
    ∃ p, h.property? = some p ∧ Token.problems raw tokens = [] := by
  cases hsome : h.property? with
  | some p =>
    rw [Token.problems] at hp
    split at hp
    · cases hp
    · exact ⟨p, rfl, hp⟩
  | none =>
    obtain ⟨problem, hproblem⟩ := Hole.property_of_none hsome raw
    rw [Token.problems, hproblem] at hp
    cases hp

theorem exists_property_of_mem (hp : Token.problems raw tokens = []) :
    ∀ h ∈ tokens.filterMap hole?, ∃ p, h.property? = some p := by
  induction tokens with
  | nil => exact fun _ hmem => nomatch hmem
  | cons token tokens ih =>
    cases token with
    | run r => exact ih hp
    | hole h =>
      obtain ⟨p, hread, hrest⟩ := exists_property hp
      exact List.forall_mem_cons.mpr ⟨⟨p, hread⟩, ih hrest⟩

/-- The numbers in tokens are short enough exactly if those in their properties are. -/
theorem short_iff (hb : ∀ h ∈ tokens.filterMap hole?, Braceless h.body.toList) :
    (∀ h ∈ tokens.filterMap hole?, h.Short) ↔
      ∀ p ∈ (said tokens).filterMap Element.property?, p.Short := by
  induction tokens with
  | nil => exact ⟨fun _ _ hmem => (nomatch hmem), fun _ _ hmem => (nomatch hmem)⟩
  | cons token tokens ih =>
    cases token with
    | run r =>
      rw [said, filterMap_consText]
      exact ih hb
    | hole h =>
      obtain ⟨hbody, hb⟩ := List.forall_mem_cons.mp hb
      have hcons : (hole h :: tokens).filterMap hole? = h :: tokens.filterMap hole? := rfl
      rw [hcons, List.forall_mem_cons, ih hb, said]
      cases hp : h.property? with
      | some p =>
        rw [Hole.short_iff hbody hp]
        exact List.forall_mem_cons.symm
      | none =>
        refine and_iff_right fun n ho => ?_
        obtain ⟨p, hsome⟩ := ho.property?
        rw [hp] at hsome
        cases hsome

end Token

/-- Literal text in front of a cut is a run of its own, if there is any. -/
theorem exists_cut_literal {n : Int} {source rest : List Char} {tokens : List Token}
    {raw : Option String} {es : List Element} {ps : List (Int × Property)} (hs : Literal source)
    (hr : Opens rest) (h : Cut (n + source.length) rest tokens) (ht : Token.Stand raw tokens es ps)
    (hes : ∀ s more, es ≠ .text s :: more) :
    ∃ tokens', Cut n (source ++ rest) tokens' ∧
      Token.Stand raw tokens' (Segment.textElement source ++ es) ps := by
  unfold Segment.textElement
  by_cases hne : source = []
  · subst hne
    rw [List.length_nil, Int.natCast_zero, Int.add_zero] at h
    exact ⟨tokens, h, ht⟩
  · rw [if_neg hne]
    refine ⟨_, .text hne hs hr h, ht.problems, ?_, ht.placed⟩
    rw [Token.said, ht.elements, consText_of_not_text hes]
    rfl

/-- The hole around a body that the grammar derives stands for its property. -/
theorem Token.Stand.hole {raw : Option String} {tokens : List Token} {es : List Element}
    {ps : List (Int × Property)} (ht : Token.Stand raw tokens es ps) {body : List Char}
    {p : Property} (hp : PropertyForm body p) (n stop : Int) :
    Token.Stand raw (.hole ⟨String.ofList body, n, stop, true⟩ :: tokens) (.property p :: es)
      ((n, p) :: ps) := by
  have hb : Braceless (Hole.mk (String.ofList body) n stop true).body.toList := by
    simpa using hp.braceless
  have hread : Hole.property? ⟨String.ofList body, n, stop, true⟩ = some p :=
    (property?_eq_some_iff hb).mpr ⟨rfl, by simpa using hp⟩
  refine ⟨?_, ?_, ?_⟩
  · rw [Token.problems_of_some hb hread]
    exact ht.problems
  · rw [Token.said, hread, ← ht.elements]
  · rw [Token.placed, hread, ← ht.placed]

/-- What the grammar derives is cut as the derivation says, with no problem in any hole. -/
theorem Derives.exists_cut {cs : List Char} {segments : List Segment} (h : Derives cs segments)
    (raw : Option String) (n : Int) {waiting : List Char} (hw : Literal waiting) :
    ∃ tokens, Cut n (waiting ++ cs) tokens ∧
      Token.Stand raw tokens (Segment.elements waiting segments)
        (Segment.placed (n + waiting.length) segments) := by
  induction h generalizing n waiting with
  | nil =>
    have ht : Token.Stand raw [] [] [] := ⟨rfl, rfl, rfl⟩
    obtain ⟨tokens, hcut, hstand⟩ := exists_cut_literal (n := n) hw .done (.done _) ht
      fun _ _ e => nomatch e
    rw [List.append_nil] at hstand
    exact ⟨tokens, hcut, hstand⟩
  | text ht _ ih =>
    have h := ih n (hw.append ht.literal)
    rw [List.append_assoc, List.length_append, Int.natCast_add, ← Int.add_assoc] at h
    exact h
  | @property body rest p segments hp _ ih =>
    obtain ⟨tokens, hcut, hstand⟩ := ih (n + waiting.length + 1 + body.length + 1) .nil
    have hplace : n + waiting.length + 1 + body.length + 1 + ([] : List Char).length =
        n + waiting.length + (p.source.getD "").length := by
      rw [hp.source, Option.getD_some, length_enclose]
      simp
      omega
    rw [hplace] at hstand
    exact exists_cut_literal hw (opens_closed hp.braceless rest) (.closed hp.braceless hcut)
      (hstand.hole hp _ _) fun _ _ e => nomatch e

/-! ## From tokens to derivations -/

/-- A cut with no problem in any hole is a derivation. -/
theorem Cut.derives {n : Int} {cs : List Char} {tokens : List Token} {raw : Option String}
    (h : Cut n cs tokens) (hp : Token.problems raw tokens = []) :
    ∃ segments, Derives cs segments := by
  induction h with
  | done n => exact ⟨[], .nil⟩
  | text _ hs _ _ ih =>
    obtain ⟨segments, h⟩ := ih hp
    exact h.of_literal hs
  | closed hb _ ih =>
    obtain ⟨p, hread, hrest⟩ := Token.exists_property hp
    obtain ⟨segments, h⟩ := ih hrest
    rw [property?_eq_some_iff (by simpa using hb)] at hread
    exact ⟨.property p :: segments, .property (by simpa using hread.2) h⟩
  | unclosed hb _ _ _ _ =>
    obtain ⟨p, hread, _⟩ := Token.exists_property hp
    rw [property?_eq_some_iff (by simpa using hb)] at hread
    exact absurd hread.1 Bool.false_ne_true

/-! ## Parsing -/

theorem ofTokens_of_short {tokens : List Token} {raw : String}
    (hb : ∀ h ∈ tokens.filterMap Token.hole?, Braceless h.body.toList)
    (hs : ∀ h ∈ tokens.filterMap Token.hole?, h.Short) :
    Template.ofTokens tokens (some raw) =
      (Template.ofElements raw (Token.problems (some raw) tokens) (Token.said tokens)).mapError
        .rejected := by
  unfold Template.ofTokens
  dsimp only
  rw [Option.getD_some, Token.elements_of_short hb hs]

/-- A number with too many digits is all that is told of tokens. -/
theorem ofTokens_of_overlong {tokens : List Token} {raw : String} {n : Nat}
    (hb : ∀ h ∈ tokens.filterMap Token.hole?, Braceless h.body.toList)
    (hf : FirstOverlong (tokens.filterMap Token.hole?) n) :
    Template.ofTokens tokens (some raw) = .error (.decimal (.tooLong n)) := by
  unfold Template.ofTokens
  dsimp only
  rw [Option.getD_some, Token.elements_of_overlong hb hf]

theorem parse_of_short {raw : String} (hs : ∀ h ∈ holes raw, h.Short) :
    Template.parse raw =
      (Template.ofElements raw (Token.problems (some raw) (scan raw))
        (Token.said (scan raw))).mapError .rejected :=
  ofTokens_of_short (braceless_holes raw) hs

theorem parse_of_overlong {raw : String} {n : Nat} (hf : FirstOverlong (holes raw) n) :
    Template.parse raw = .error (.decimal (.tooLong n)) :=
  ofTokens_of_overlong (braceless_holes raw) hf

theorem ofElements_eq_ok_iff {raw : String} {problems : List Problem} {es : List Element}
    {t : Template} :
    Template.ofElements raw problems es = .ok t ↔
      problems = [] ∧ Compatible ((es.filterMap Element.property?).map (·.designator)) ∧
        t = ⟨raw, es⟩ := by
  rw [← ofDesignators_eq_nil_iff, ← and_assoc, ← List.append_eq_nil_iff]
  unfold Template.ofElements
  dsimp only
  constructor
  · intro h
    split at h
    · rename_i hempty
      cases h
      exact ⟨List.isEmpty_iff.mp hempty, rfl⟩
    · cases h
  · rintro ⟨hnone, rfl⟩
    rw [hnone]
    rfl

/-- Tokens stand for a template if no number has too many digits, no hole has a problem and the
designators go together. -/
theorem ofTokens_eq_ok_iff {tokens : List Token}
    (hb : ∀ h ∈ tokens.filterMap Token.hole?, Braceless h.body.toList) {raw : String}
    {t : Template} :
    Template.ofTokens tokens (some raw) = .ok t ↔
      (∀ p ∈ (Token.said tokens).filterMap Element.property?, p.Short) ∧
      Token.problems (some raw) tokens = [] ∧
      Compatible (((Token.said tokens).filterMap Element.property?).map (·.designator)) ∧
      t = ⟨raw, Token.said tokens⟩ := by
  rw [← Token.short_iff hb, ← ofElements_eq_ok_iff]
  constructor
  · intro h
    rcases short_or_firstOverlong (tokens.filterMap Token.hole?) with hs | ⟨n, hf⟩
    · rw [ofTokens_of_short hb hs] at h
      refine ⟨hs, ?_⟩
      cases hof :
          Template.ofElements raw (Token.problems (some raw) tokens) (Token.said tokens) with
      | ok t' =>
        rw [hof] at h
        cases h
        rfl
      | error why =>
        rw [hof] at h
        cases h
    · rw [ofTokens_of_overlong hb hf] at h
      cases h
  · rintro ⟨hs, hof⟩
    rw [ofTokens_of_short hb hs, hof]
    rfl

/-- What is cut into tokens without a problem, with designators that go together and no number of
too many digits, is parsed. -/
theorem parse_of_cut {raw : String} {tokens : List Token} (h : Cut 0 raw.toList tokens)
    (hp : Token.problems (some raw) tokens = [])
    (hc : Compatible (((Token.said tokens).filterMap Element.property?).map (·.designator)))
    (hs : ∀ p ∈ (Token.said tokens).filterMap Element.property?, p.Short) :
    Template.parse raw = .ok ⟨raw, Token.said tokens⟩ := by
  have hscan : scan raw = tokens := scanFrom_of_cut h
  rw [Template.parse, hscan]
  exact (ofTokens_eq_ok_iff h.braceless).mpr ⟨hs, hp, hc, rfl⟩

/-- What the grammar derives, with designators that go together and no number of too many digits, is
parsed. -/
theorem parse_of_derives {raw : String} {segments : List Segment}
    (h : Derives raw.toList segments) (hc : Compatible (Segment.designators segments))
    (hs : ∀ p ∈ segments.filterMap Segment.property?, p.Short) :
    Template.parse raw = .ok ⟨raw, Segment.elements [] segments⟩ := by
  obtain ⟨tokens, hcut, hstand⟩ := h.exists_cut (some raw) 0 .nil
  have hparse := parse_of_cut hcut hstand.problems
  rw [hstand.elements, Segment.filterMap_elements] at hparse
  exact hparse hc hs

/-- Every hole of what the grammar derives says a property. -/
theorem Derives.exists_property {raw : String} {segments : List Segment}
    (h : Derives raw.toList segments) : ∀ hole ∈ holes raw, ∃ p, hole.property? = some p := by
  obtain ⟨tokens, hcut, hstand⟩ := h.exists_cut (some raw) 0 .nil
  have hscan : scan raw = tokens := scanFrom_of_cut hcut
  rw [holes, hscan]
  exact Token.exists_property_of_mem hstand.problems

/-- The numbers in the holes are those in the properties that the grammar derives. -/
theorem Derives.short_iff {raw : String} {segments : List Segment}
    (h : Derives raw.toList segments) :
    (∀ hole ∈ holes raw, hole.Short) ↔ ∀ p ∈ segments.filterMap Segment.property?, p.Short := by
  obtain ⟨tokens, hcut, hstand⟩ := h.exists_cut (some raw) 0 .nil
  have hscan : scan raw = tokens := scanFrom_of_cut hcut
  rw [holes, hscan, ← Segment.filterMap_elements [], ← hstand.elements]
  exact Token.short_iff hcut.braceless

/-- What is parsed has no problem and no number of too many digits, and its template is what the
tokens stand for. -/
theorem of_parse {raw : String} {t : Template} (h : Template.parse raw = .ok t) :
    Token.problems (some raw) (scan raw) = [] ∧ Compatible (t.properties.map (·.designator)) ∧
      (∀ p ∈ t.properties, p.Short) ∧ t = ⟨raw, Token.said (scan raw)⟩ := by
  obtain ⟨hs, hproblems, hc, rfl⟩ := (ofTokens_eq_ok_iff (braceless_holes raw)).mp h
  exact ⟨hproblems, hc, hs, rfl⟩

/-- What is parsed, the grammar derives. -/
theorem derives_of_parse {raw : String} {t : Template} (h : Template.parse raw = .ok t) :
    ∃ segments, Derives raw.toList segments ∧ Compatible (Segment.designators segments) ∧
      (∀ p ∈ segments.filterMap Segment.property?, p.Short) ∧
      t = ⟨raw, Segment.elements [] segments⟩ := by
  obtain ⟨hproblems, hc, hs, rfl⟩ := of_parse h
  obtain ⟨segments, hd⟩ := (cut_scan raw).derives hproblems
  obtain ⟨tokens, hcut, hstand⟩ := hd.exists_cut (some raw) 0 .nil
  have hscan : scan raw = tokens := scanFrom_of_cut hcut
  unfold Template.properties at hc hs
  rw [hscan, hstand.elements] at hc hs ⊢
  rw [Segment.filterMap_elements] at hc hs
  exact ⟨segments, hd, hc, hs, rfl⟩

theorem Derives.form {cs : List Char} {segments : List Segment} (h : Derives cs segments) :
    ∀ p ∈ segments.filterMap Segment.property?, ∃ body, PropertyForm body p := by
  induction h with
  | nil => exact fun _ hp => nomatch hp
  | text _ _ ih => exact ih
  | property hp _ ih => exact List.forall_mem_cons.mpr ⟨⟨_, hp⟩, ih⟩

/-- The properties of what is parsed are those that the grammar derives, with short numbers. -/
theorem form_of_parse {raw : String} {t : Template} (h : Template.parse raw = .ok t) :
    ∀ p ∈ t.properties, (∃ body, PropertyForm body p) ∧ p.Short := by
  obtain ⟨segments, hd, _, hs, rfl⟩ := derives_of_parse h
  rw [Template.properties, Segment.filterMap_elements]
  exact fun p hp => ⟨hd.form p hp, hs p hp⟩

/-- What is parsed has designators that can be written. -/
theorem designators_short_of_parse {raw : String} {t : Template}
    (h : Template.parse raw = .ok t) : ∀ d ∈ t.properties.map (·.designator), d.Short := by
  refine List.forall_mem_map.mpr fun p hp => ?_
  obtain ⟨⟨body, hform⟩, hs⟩ := form_of_parse h p hp
  exact hform.designator_short hs

/-- Two derivations have the same properties at the same positions. -/
theorem Derives.placed_unique {cs : List Char} {segments segments' : List Segment}
    (h : Derives cs segments) (h' : Derives cs segments') :
    Segment.placed 0 segments = Segment.placed 0 segments' := by
  obtain ⟨tokens, hcut, hstand⟩ := h.exists_cut none 0 .nil
  obtain ⟨tokens', hcut', hstand'⟩ := h'.exists_cut none 0 .nil
  have he : tokens = tokens' := by
    rw [← scanFrom_of_cut hcut, ← scanFrom_of_cut hcut']
  rw [← he] at hstand'
  exact hstand.placed.symm.trans hstand'.placed

/-! ## Failures -/

/-- A rejection tells the raw template, and its log is terminal. -/
theorem rejection_of_parse {raw : String} {why : Rejection}
    (h : Template.parse raw = .error (.rejected why)) :
    why.raw = raw ∧ why.log.terminal = true := by
  rcases short_or_firstOverlong (holes raw) with hs | ⟨n, hf⟩
  · rw [parse_of_short hs] at h
    unfold Template.ofElements at h
    dsimp only at h
    split at h
    · cases h
    · rename_i hne
      cases h
      exact ⟨rfl, Log.terminal_ofTerminal fun e => hne (List.isEmpty_iff.mpr e)⟩
  · rw [parse_of_overlong hf] at h
    cases h

/-- A number has too many digits exactly if there is a first one, and it is told how many. -/
theorem parse_eq_decimal_iff {raw : String} {why : DecimalError} :
    Template.parse raw = .error (.decimal why) ↔
      ∃ n, FirstOverlong (holes raw) n ∧ why = .tooLong n := by
  constructor
  · intro h
    rcases short_or_firstOverlong (holes raw) with hs | ⟨n, hf⟩
    · rw [parse_of_short hs] at h
      unfold Template.ofElements at h
      dsimp only at h
      split at h <;> cases h
    · rw [parse_of_overlong hf] at h
      cases h
      exact ⟨n, hf, rfl⟩
  · rintro ⟨n, hf, rfl⟩
    exact parse_of_overlong hf

/-- A raw template that is not too long for any number in it is accepted or rejected. -/
theorem rejected_of_length_le {raw : String} (hle : raw.length ≤ Decimal.mostDigits)
    (h : (Template.parse raw).isOk = false) :
    ∃ why, Template.parse raw = .error (.rejected why) := by
  cases hparse : Template.parse raw with
  | ok t =>
    rw [hparse] at h
    cases h
  | error why =>
    cases why with
    | rejected why => exact ⟨why, rfl⟩
    | decimal why =>
      obtain ⟨n, hf, _⟩ := parse_eq_decimal_iff.mp hparse
      exact absurd (short_of_length_le hle) hf.not_short

/-- The parser accepts exactly what the grammar derives with designators that go together, if no
number in it has too many digits, and the elements are those of the derivation: each property as its
segment says, and the text between two properties in one piece, unescaped from the left and never
empty. All derivations of a raw template have the same properties at the same positions. Any other
raw template is rejected, unless a number in it has too many digits; then the first such number is
told, whether the grammar derives the raw template or not. -/
theorem parse_eq_ok_iff_derives (raw : String) :
    (∀ t, Template.parse raw = .ok t ↔
      ∃ segments, Derives raw.toList segments ∧ Compatible (Segment.designators segments) ∧
        (∀ p ∈ segments.filterMap Segment.property?, p.Short) ∧
        t = ⟨raw, Segment.elements [] segments⟩) ∧
    (∀ t, Template.parse raw = .ok t → (∀ s, .text s ∈ t.elements → s ≠ "") ∧ Apart t.elements) ∧
    (∀ segments segments', Derives raw.toList segments → Derives raw.toList segments' →
      Segment.placed 0 segments = Segment.placed 0 segments') ∧
    ((∀ h ∈ holes raw, h.Short) →
      (¬ ∃ segments, Derives raw.toList segments ∧ Compatible (Segment.designators segments)) →
      ∃ why, Template.parse raw = .error (.rejected why) ∧ why.raw = raw ∧
        why.log.terminal = true) ∧
    (∀ why, Template.parse raw = .error (.decimal why) ↔
      ∃ n, FirstOverlong (holes raw) n ∧ why = .tooLong n) := by
  refine ⟨fun t => ⟨derives_of_parse, ?_⟩, fun t h => ?_, fun _ _ => Derives.placed_unique,
    fun hs hno => ?_, fun why => parse_eq_decimal_iff⟩
  · rintro ⟨segments, hd, hc, hs, rfl⟩
    exact parse_of_derives hd hc hs
  · obtain ⟨segments, _, _, _, rfl⟩ := derives_of_parse h
    exact ⟨fun s hs => Segment.ne_of_mem_elements hs, Segment.apart_elements [] segments⟩
  · cases h : Template.parse raw with
    | ok t =>
      obtain ⟨segments, hd, hc, _, _⟩ := derives_of_parse h
      exact absurd ⟨segments, hd, hc⟩ hno
    | error why =>
      cases why with
      | rejected why => exact ⟨why, rfl, rejection_of_parse h⟩
      | decimal why =>
        obtain ⟨n, hf, _⟩ := parse_eq_decimal_iff.mp h
        exact absurd hs hf.not_short

/-- The grammar derives a raw template of one hole. -/
theorem derives_enclose {body : List Char} {p : Property} (hp : PropertyForm body p) :
    Derives (enclose body).toList [.property p] ∧
      Compatible (Segment.designators [.property p]) := by
  have hd := Derives.property hp .nil
  refine ⟨by simpa [enclose] using hd, ?_⟩
  cases hi : p.designator.isIndex with
  | true => exact .inl fun d hmem => by rw [List.mem_singleton.mp hmem, hi]
  | false =>
    exact .inr ⟨fun d hmem => by rw [List.mem_singleton.mp hmem, hi], List.nodup_singleton _⟩

/-- An index of many zeros, which the grammar derives and which is not parsed. -/
theorem parse_zeros :
    let raw := enclose (List.replicate (Decimal.mostDigits + 1) '0')
    (∃ segments, Derives raw.toList segments ∧ Compatible (Segment.designators segments)) ∧
      Template.parse raw = .error (.decimal (.tooLong (Decimal.mostDigits + 1))) := by
  intro raw
  have ho := Overlong.zeros (Nat.lt_succ_self Decimal.mostDigits)
  obtain ⟨p, hp⟩ := ho.form
  have hf := firstOverlong_enclose ho ""
  rw [String.append_empty] at hf
  exact ⟨⟨_, derives_enclose hp⟩, parse_of_overlong hf⟩

end EventTemplate
