import EventTemplate.Proofs.Event.Bind
import EventTemplate.Proofs.Template.Grammar
import EventTemplate.Proofs.Token.Partition
import EventTemplate.Render.Basic

/-
  Parsing, binding and rendering in one: arguments are put into a raw template by going through its
  tokens from the left (`substitute`). There is no event and no lookup in that; a hole takes the
  argument at its index or, if it has a name, at its place among the holes.

  Proved: an accepted raw template, bound and rendered, is that text, or fails where it fails first
  (`render_bind`). Rendering looks the value of every property up in the event; by `value_bind` it
  is the argument, as the designators of an accepted raw template go together.
-/

namespace EventTemplate

/-! ## Substitution -/

def spaces (n : Nat) : String :=
  String.ofList (List.replicate n ' ')

/-- A text filled up with spaces to the width that an alignment asks for: in front if it is positive
and behind if it is negative. It fails for a width that no text can have, and where there is no room
to fill up. -/
def fitted (room : Nat) (alignment : Option Int) (text : String) : Except RenderError String :=
  let width := (alignment.getD 0).natAbs
  let missing := width - text.length
  if greatestSize < width then .error .tooWide
  else if room < width ∧ 0 < missing then .error .noRoom
  else if alignment.getD 0 < 0 then .ok (text ++ spaces missing)
  else .ok (spaces missing ++ text)

/-- The text for a property: that of the argument, formatted and filled up, or, without an argument,
the hole as it stands in the raw template or the sentinel. -/
def filling (r : Renderer) (formatter : Formatter) (raw : String) (h : Hole) (p : Property) :
    Option Value → Except RenderError String
  | some v => match formatter v p.format with
    | .ok text => fitted r.room p.alignment text
    | .error why => .error (.formatter why)
  | none => match r.policy with
    | .verbatim =>
      .ok (String.ofList ((raw.toList.drop h.start.toNat).take (h.stop - h.start).toNat))
    | .sentinel => .ok r.sentinel

/-- Puts arguments into tokens, before which there are `j` holes. -/
def substituteFrom (r : Renderer) (formatter : Formatter) (raw : String) (args : List Value)
    (j : Nat) : List Token → Except RenderError String
  | [] => .ok ""
  | .run run :: rest => do
    let after ← substituteFrom r formatter raw args j rest
    return run.text ++ after
  | .hole h :: rest => match h.property? with
    | some p => do
      let text ← filling r formatter raw h p args[p.place j]?
      let after ← substituteFrom r formatter raw args (j + 1) rest
      return text ++ after
    -- there is no such hole in what the parser accepts
    | none => substituteFrom r formatter raw args (j + 1) rest

/-- Puts arguments into a raw template. -/
def substitute (r : Renderer) (formatter : Formatter) (raw : String) (args : List Value) :
    Except RenderError String :=
  substituteFrom r formatter raw args 0 (scan raw)

/-! ## Padding -/

theorem toList_spaces (n : Nat) : (spaces n).toList = List.replicate n ' ' :=
  String.toList_ofList

theorem align_eq_fitted (room : Nat) (alignment : Option Int) (text : String) :
    align room alignment text = fitted room alignment text := by
  cases alignment with
  | none =>
    have hmissing : ((none : Option Int).getD 0).natAbs - text.length = 0 := Nat.zero_sub _
    unfold align fitted
    dsimp only
    rw [hmissing]
    simp [spaces]
  | some w =>
    have hshort : text.length < w.natAbs ↔ 0 < w.natAbs - text.length := by omega
    have hleft : String.ofList (Text.padLeft ' ' w.natAbs text.toList) =
        spaces (w.natAbs - text.length) ++ text := by
      rw [← String.toList_inj, String.toList_append, toList_spaces, String.toList_ofList]
      rfl
    have hright : String.ofList (Text.padRight ' ' w.natAbs text.toList) =
        text ++ spaces (w.natAbs - text.length) := by
      rw [← String.toList_inj, String.toList_append, toList_spaces, String.toList_ofList]
      rfl
    unfold align fitted
    dsimp only [Option.getD_some]
    simp only [hleft, hright, hshort]

/-! ## Elements -/

variable {r : Renderer} {formatter : Formatter} {e : Event} {raw : String} {args : List Value}
  {h : Hole} {p : Property} {j : Nat} {tokens : List Token}

/-- A property that was read knows the hole that it was read from. -/
theorem print_of_property (hp : h.property? = some p) : p.print = .ok h.print := by
  unfold Hole.property? at hp
  split at hp
  · split at hp
    · cases hp
      rfl
    · cases hp
  · cases hp

theorem join_cons (s : String) (ss : List String) :
    String.join (s :: ss) = s ++ String.join ss := by
  rw [← String.toList_inj, String.toList_append, String.toList_join, String.toList_join]
  rfl

/-- The text of elements, joined. -/
theorem elements_cons (r : Renderer) (formatter : Formatter) (e : Event) (x : Element)
    (rest : List Element) :
    (r.elements formatter e (x :: rest)).map String.join =
      (r.element formatter e x).bind fun s =>
        ((r.elements formatter e rest).map String.join).map (s ++ ·) := by
  rw [Renderer.elements]
  cases r.element formatter e x with
  | error why => rfl
  | ok s =>
    cases r.elements formatter e rest with
    | error why => rfl
    | ok ss => exact congrArg Except.ok (join_cons s ss)

/-- Two texts in a row are rendered as one. -/
theorem elements_consText (r : Renderer) (formatter : Formatter) (e : Event) (s : String)
    (es : List Element) :
    (r.elements formatter e (Element.consText s es)).map String.join =
      ((r.elements formatter e es).map String.join).map (s ++ ·) := by
  unfold Element.consText
  split
  · rename_i s' rest
    rw [elements_cons, elements_cons]
    dsimp only [Renderer.element, Except.bind]
    cases r.elements formatter e rest with
    | error why => rfl
    | ok ss => exact congrArg Except.ok String.append_assoc
  · exact elements_cons r formatter e (.text s) es

/-- The text of a property by its value. -/
theorem element_eq_filling (hp : h.property? = some p)
    (hslice : (raw.toList.drop h.start.toNat).take (h.stop - h.start).toNat = h.print.toList) :
    r.element formatter e (.property p) =
      filling r formatter raw h p ((e.get? p.designator).map (·.value)) := by
  unfold Renderer.element filling
  dsimp only
  cases e.get? p.designator with
  | none =>
    dsimp only [Option.map_none]
    unfold Renderer.unbound
    rw [hslice, String.ofList_toList, print_of_property hp]
    cases r.policy <;> rfl
  | some c =>
    dsimp only [Option.map_some]
    unfold Renderer.bound
    cases formatter c.value p.format with
    | error why => rfl
    | ok text => exact align_eq_fitted r.room p.alignment text

/-- Going through tokens is rendering their elements in an event in which the value of the `k`th of
their properties is the argument at its place, with `j` holes before them. -/
theorem elements_eq_substituteFrom (hproblems : Token.problems (some raw) tokens = [])
    (hslice : ∀ h, .hole h ∈ tokens →
      (raw.toList.drop h.start.toNat).take (h.stop - h.start).toNat = h.print.toList)
    (hvalue : ∀ (k : Nat) (p : Property),
      ((Token.said tokens).filterMap Element.property?)[k]? = some p →
        (e.get? p.designator).map (·.value) = args[p.place (j + k)]?) :
    (r.elements formatter e (Token.said tokens)).map String.join =
      substituteFrom r formatter raw args j tokens := by
  induction tokens generalizing j with
  | nil => rfl
  | cons t rest ih =>
    have hrest : ∀ h, .hole h ∈ rest →
        (raw.toList.drop h.start.toNat).take (h.stop - h.start).toNat = h.print.toList :=
      fun h hmem => hslice h (List.mem_cons_of_mem t hmem)
    cases t with
    | run run =>
      rw [Token.said, filterMap_consText] at hvalue
      rw [Token.said, elements_consText, ih hproblems hrest hvalue, substituteFrom]
      cases substituteFrom r formatter raw args j rest <;> rfl
    | hole h =>
      obtain ⟨p, hp, hproblems⟩ := Token.exists_property hproblems
      rw [Token.said, hp] at hvalue
      have hnext : ∀ (k : Nat) (q : Property),
          ((Token.said rest).filterMap Element.property?)[k]? = some q →
            (e.get? q.designator).map (·.value) = args[q.place (j + 1 + k)]? := by
        intro k q hq
        rw [Nat.add_right_comm]
        exact hvalue (k + 1) q hq
      rw [Token.said, hp]
      dsimp only
      rw [elements_cons, ih hproblems hrest hnext, substituteFrom, hp]
      dsimp only
      rw [element_eq_filling hp (hslice h List.mem_cons_self), hvalue 0 p rfl]
      cases filling r formatter raw h p args[p.place j]? with
      | error why => rfl
      | ok text => cases substituteFrom r formatter raw args (j + 1) rest <;> rfl

/-- An accepted raw template, bound to arguments and rendered, is the raw template with the
arguments put in from the left, whatever the renderer and the formatter are; where that fails,
rendering fails in the same way. -/
theorem render_bind {t : Template} (h : Template.parse raw = .ok t) (args : List Value)
    (r : Renderer) (formatter : Formatter) :
    r.render formatter (.bind t args) = substitute r formatter raw args := by
  obtain ⟨hproblems, hc, _, rfl⟩ := of_parse h
  have htiles : Tiles raw.toList 0 (scan raw) := (cut_scan raw).tiles [] rfl
  unfold Renderer.render substitute
  rw [template_bind]
  refine elements_eq_substituteFrom hproblems (fun h hmem => htiles.slice hmem) fun k p hp => ?_
  rw [Nat.zero_add]
  exact value_bind hc hp args

/-- By index, with a repetition, a gap, a width on either side and a brace in the text. -/
theorem render_bind_indexed :
    let raw := "\x7b\x7b{1,7:x}|{@0,-9}|{1}|{04,9}"
    let args : List Value := [.int 7, .text "b"]
    let formatter : Formatter := fun v format =>
      (v.plain.mapError .decimal).map ("<" ++ · ++ "|" ++ format.getD "None" ++ ">")
    (∃ t, Template.parse raw = .ok t ∧
      Renderer.render {} formatter (.bind t args) = substitute {} formatter raw args) ∧
      substitute {} formatter raw args = .ok "\x7b  <b|x>|<7|None> |<b|None>|{04,9}" := by
  intro raw args formatter
  have haccepted : (Template.parse raw).isOk = true := by decide +kernel
  cases hparse : Template.parse raw with
  | error why => rw [hparse] at haccepted; cases haccepted
  | ok t => exact ⟨⟨t, rfl, render_bind hparse args {} formatter⟩, by decide +kernel⟩

end EventTemplate
