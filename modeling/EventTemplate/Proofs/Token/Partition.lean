import Mathlib.Data.List.Chain
import EventTemplate.Proofs.Token.Cut

/-
  Cutting loses nothing: the tokens of a raw template lie side by side from its first character to
  its last, each says exactly where it lies and what was written there, and written one after the
  other they are the raw template again. This holds for every raw template, well-formed or not.

  Proved: `partition_scan`, from one induction over the cut for each of the three parts of
  `Partition`. The slice of the raw template that a hole tells is the hole (`Tiles.slice`).
-/

namespace EventTemplate

/-- Whether a token is a run of text. -/
def Token.isRun : Token → Bool
  | run _ => true
  | hole _ => false

/-- The run is read from `source`, which stands at position `n` of the raw characters. -/
structure Run.StandsAt (raw : List Char) (n : Nat) (source : List Char) (r : Run) : Prop where
  written : r.source = some (String.ofList source)
  slice : (raw.drop n).take source.length = source
  source_ne : source ≠ []
  text : r.text = String.ofList (unescape source)
  text_ne : r.text ≠ ""

/-- The hole stands at position `n` of the raw characters: its brace, its body up to the next brace
and, if it is closed, that brace. One that is not closed reaches to the end or to the brace that
opens the next hole. -/
structure Hole.StandsAt (raw : List Char) (n : Nat) (h : Hole) : Prop where
  start : h.start = n
  opening : raw[n]? = some '{'
  body : (raw.drop (n + 1)).take h.body.length = h.body.toList
  braceless : Braceless h.body.toList
  stop : h.stop = n + 1 + h.body.length + (if h.closed then 1 else 0)
  closing : h.closed = true → raw[h.stop.toNat - 1]? = some '}'
  following : h.closed = false → h.stop = raw.length ∨ raw[h.stop.toNat]? = some '{'

/-- The tokens lie side by side in the raw characters, from position `n` to the end. -/
def Tiles (raw : List Char) : Nat → List Token → Prop
  | n, [] => n = raw.length
  | n, .run r :: rest => ∃ source, r.StandsAt raw n source ∧ Tiles raw (n + source.length) rest
  | n, .hole h :: rest => h.StandsAt raw n ∧ Tiles raw h.stop.toNat rest

/-- The tokens are a partition of the raw template: nothing is lost, nothing is told twice, and no
text is told in two pieces. -/
structure Partition (raw : String) (tokens : List Token) : Prop where
  printed : String.join (tokens.map Token.print) = raw
  tiles : Tiles raw.toList 0 tokens
  apart : tokens.IsChain fun t u => ¬ (t.isRun = true ∧ u.isRun = true)

/-! ## Holes as slices -/

/-- The slice of the raw characters from where a hole starts to where it ends is the hole as it is
written. -/
theorem Hole.StandsAt.slice {raw : List Char} {n : Nat} {h : Hole} (hs : h.StandsAt raw n) :
    (raw.drop h.start.toNat).take (h.stop - h.start).toNat = h.print.toList := by
  obtain ⟨hlt, hopening⟩ := List.getElem?_eq_some_iff.mp hs.opening
  have hstart : h.start.toNat = n := by rw [hs.start]; rfl
  have hrest : raw.drop n = '{' :: raw.drop (n + 1) := by
    rw [List.drop_eq_getElem_cons hlt, hopening]
  have hprint : h.print.toList = '{' :: (h.body.toList ++ if h.closed then ['}'] else []) := by
    unfold Hole.print
    rw [String.toList_ofList, List.cons_append]
  rw [hstart, hrest, hprint]
  cases hc : h.closed with
  | false =>
    have hwidth : (h.stop - h.start).toNat = h.body.length + 1 := by
      rw [hs.stop, hs.start, hc, if_neg Bool.false_ne_true]
      omega
    rw [hwidth, List.take_succ_cons, hs.body, if_neg Bool.false_ne_true, List.append_nil]
  | true =>
    have hwidth : (h.stop - h.start).toNat = h.body.length + 1 + 1 := by
      rw [hs.stop, hs.start, hc, if_pos rfl]
      omega
    have hlast : h.stop.toNat - 1 = n + 1 + h.body.length := by
      rw [hs.stop, hc, if_pos rfl]
      omega
    have hclosing := hs.closing hc
    rw [hlast] at hclosing
    rw [hwidth, List.take_succ_cons, List.take_add_one, hs.body, List.getElem?_drop, hclosing]
    rfl

theorem Tiles.slice {raw : List Char} {n : Nat} {tokens : List Token} (ht : Tiles raw n tokens)
    {h : Hole} (hmem : .hole h ∈ tokens) :
    (raw.drop h.start.toNat).take (h.stop - h.start).toNat = h.print.toList := by
  induction tokens generalizing n with
  | nil => cases hmem
  | cons t rest ih =>
    cases t with
    | run r =>
      obtain ⟨source, _, hrest⟩ := ht
      rcases List.mem_cons.mp hmem with heq | hmem
      · cases heq
      · exact ih hrest hmem
    | hole h' =>
      obtain ⟨hstands, hrest⟩ := ht
      rcases List.mem_cons.mp hmem with heq | hmem
      · cases heq
        exact hstands.slice
      · exact ih hrest hmem

/-! ## Every cut is a partition -/

theorem Cut.printed {n : Int} {cs : List Char} {tokens : List Token} (h : Cut n cs tokens) :
    tokens.flatMap (fun t => t.print.toList) = cs := by
  induction h with
  | done n => rfl
  | text _ _ _ _ ih => rw [List.flatMap_cons, ih]; simp [Token.print, Run.print]
  | closed _ _ ih => rw [List.flatMap_cons, ih]; simp [Token.print, Hole.print]
  | unclosed _ _ _ _ ih => rw [List.flatMap_cons, ih]; simp [Token.print, Hole.print]

theorem getElem?_length_add {α : Type} (before after : List α) (i : Nat) :
    (before ++ after)[before.length + i]? = after[i]? := by
  rw [List.getElem?_append_right (Nat.le_add_right _ _), Nat.add_sub_cancel_left]

theorem Cut.tiles {n : Int} {cs : List Char} {tokens : List Token} (h : Cut n cs tokens)
    (before : List Char) (hn : n = before.length) :
    Tiles (before ++ cs) before.length tokens := by
  induction h generalizing before with
  | done n => simp [Tiles]
  | @text n source rest tokens hne hs _ _ ih =>
    have ht := ih (before ++ source) (by rw [hn, List.length_append]; omega)
    rw [List.length_append, List.append_assoc] at ht
    refine ⟨source, ⟨rfl, ?_, hne, rfl, ?_⟩, ht⟩
    · simp
    · simpa using unescape_ne_nil hne
  | @closed n body rest tokens hb _ ih =>
    subst hn
    have ht := ih (before ++ '{' :: (body ++ ['}'])) (by simp; omega)
    have hstop : ((before.length : Int) + 1 + body.length + 1).toNat =
        before.length + (body.length + 1 + 1) := by omega
    refine ⟨⟨rfl, ?_, ?_, ?_, ?_, ?_, ?_⟩, ?_⟩
    · simp
    · simp
    · simpa using hb
    · simp
    · intro _
      rw [hstop, Nat.add_sub_assoc (by omega), getElem?_length_add]
      simp
    · intro h; cases h
    · simpa [hstop] using ht
  | @unclosed n body rest tokens hb hr _ _ ih =>
    subst hn
    have ht := ih (before ++ '{' :: body) (by simp; omega)
    have hstop : ((before.length : Int) + 1 + body.length).toNat =
        before.length + (body.length + 1) := by omega
    refine ⟨⟨rfl, ?_, ?_, ?_, ?_, ?_, ?_⟩, ?_⟩
    · simp
    · simp
    · simpa using hb
    · simp
    · intro h; cases h
    · intro _
      rcases hr with rfl | ⟨r, rfl⟩
      · left; simp; omega
      · right
        rw [hstop, getElem?_length_add]
        simp
    · simpa [hstop] using ht

/-- Where literal text ends, the next token is no run. -/
theorem Cut.isRun_head? {n : Int} {cs : List Char} {tokens : List Token} (h : Cut n cs tokens)
    (ho : Opens cs) : ∀ t ∈ tokens.head?, t.isRun = false := by
  cases h with
  | done => intro t ht; cases ht
  | text hne hs _ _ => exact absurd ho (hs.not_opens hne _)
  | closed _ _ => intro t ht; cases ht; rfl
  | unclosed _ _ _ _ => intro t ht; cases ht; rfl

theorem Cut.apart {n : Int} {cs : List Char} {tokens : List Token} (h : Cut n cs tokens) :
    tokens.IsChain fun t u => ¬ (t.isRun = true ∧ u.isRun = true) := by
  induction h with
  | done n => exact .nil
  | text _ _ hr h ih =>
    refine List.isChain_cons.mpr ⟨fun t ht hrun => ?_, ih⟩
    rw [h.isRun_head? hr t ht] at hrun
    exact absurd hrun.2 Bool.false_ne_true
  | closed _ _ ih => exact List.isChain_cons.mpr ⟨fun _ _ hrun => Bool.false_ne_true hrun.1, ih⟩
  | unclosed _ _ _ _ ih =>
    exact List.isChain_cons.mpr ⟨fun _ _ hrun => Bool.false_ne_true hrun.1, ih⟩

/-- Scanning is a partition of the raw template, whatever the raw template is: the tokens written
one after the other give it back, they lie in it side by side without gap or overlap, no two runs of
text touch, each run reads as its source unescaped from the left, no body of a hole has a brace, and
a hole that is not closed ends where the raw template does or where the next brace opens. -/
theorem partition_scan (raw : String) : Partition raw (scan raw) := by
  have h := cut_scan raw
  refine ⟨?_, ?_, h.apart⟩
  · rw [← String.toList_inj, String.toList_join, List.flatMap_map]
    exact h.printed
  · simpa using h.tiles [] rfl

end EventTemplate
