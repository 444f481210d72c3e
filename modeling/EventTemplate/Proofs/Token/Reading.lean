import EventTemplate.Proofs.Token.Hole

/-
  What a raw template reads as: the characters of its text and its holes, as they come. This no
  longer says what a run of text was read from, so it can be told a character at a time.

  Proved: what is read of a row of equal characters and of what follows it, where no hole is open
  (`readingFrom`) and where one is (`readingIn`). Opening braces are read in pairs, closing braces
  in pairs and perhaps a last one alone, and other characters one by one, unless they are in a body.
-/

namespace EventTemplate

/-- What a token reads as: the characters of its text, or the hole. -/
def Token.reading : Token → List (Char ⊕ Hole)
  | run r => r.text.toList.map .inl
  | hole h => [.inr h]

/-- What is read from position `n` on where no hole is open. -/
def readingFrom (n : Int) (cs : List Char) : List (Char ⊕ Hole) :=
  (scanFrom n {} cs).flatMap Token.reading

/-- What is read from position `n` on where a hole is open, once the hole is at its end. -/
def readingIn (n : Int) (cs : List Char) : List (Char ⊕ Hole) :=
  readingFrom (readHole (n - 1) cs).1.stop (readHole (n - 1) cs).2

theorem reading_flush (p : Pending) (tokens : List Token) :
    (p.flush tokens).flatMap Token.reading =
      p.text.reverse.map .inl ++ tokens.flatMap Token.reading := by
  unfold Pending.flush
  split
  · rename_i h
    rw [List.isEmpty_iff.mp h]
    rfl
  · rw [List.flatMap_cons, Token.reading, String.toList_ofList]

/-- Text that waits is read first. -/
theorem reading_pending (n : Int) (p : Pending) (cs : List Char) :
    (scanFrom n p cs).flatMap Token.reading = p.text.reverse.map .inl ++ readingFrom n cs := by
  obtain ⟨source, rest, rfl, hs, hr⟩ := exists_literal_opens cs
  have hwaiting : ∀ q : Pending, (scanFrom n q (source ++ rest)).flatMap Token.reading =
      q.text.reverse.map .inl ++
        ((unescape source).map .inl ++ readingFrom (n + source.length) rest) := by
    intro q
    rw [scanFrom_literal hs hr, scanFrom_opens hr, reading_flush, List.reverse_append,
      List.reverse_reverse, List.map_append, List.append_assoc]
    rfl
  rw [readingFrom, hwaiting p, hwaiting {}]
  rfl

theorem readingFrom_nil (n : Int) : readingFrom n [] = [] := by
  rw [readingFrom, scanFrom]
  rfl

theorem readingFrom_left (n : Int) (cs : List Char) :
    readingFrom n ('{' :: '{' :: cs) = .inl '{' :: readingFrom (n + 2) cs := by
  rw [readingFrom, scanFrom, reading_pending]
  rfl

theorem readingFrom_right (n : Int) (cs : List Char) :
    readingFrom n ('}' :: '}' :: cs) = .inl '}' :: readingFrom (n + 2) cs := by
  rw [readingFrom, scanFrom, reading_pending]
  rfl

theorem readingFrom_char {c : Char} (hc : c ≠ '{') {cs : List Char}
    (h : ∀ r, c = '}' → cs ≠ '}' :: r) (n : Int) :
    readingFrom n (c :: cs) = .inl c :: readingFrom (n + 1) cs := by
  rw [readingFrom, scanFrom_char hc h, reading_pending]
  rfl

theorem readingFrom_hole {cs : List Char} (h : cs.head? ≠ some '{') (n : Int) :
    readingFrom n ('{' :: cs) = .inr (readHole n cs).1 :: readingIn (n + 1) cs := by
  have ho : Opens ('{' :: cs) := .hole fun r e => h (by rw [e]; rfl)
  rw [readingFrom, scanFrom_hole ho, List.flatMap_cons, readingIn, Int.add_sub_cancel]
  rfl

/-- A character of a hole's body is not read. -/
theorem readingIn_char {c : Char} (hl : c ≠ '{') (hr : c ≠ '}') (n : Int) (cs : List Char) :
    readingIn n (c :: cs) = readingIn (n + 1) cs := by
  have hb : Braceless [c] := by
    intro d hd
    rw [List.mem_singleton.mp hd]
    exact ⟨hl, hr⟩
  have hbody := holeBody_append hb cs
  have hafter := afterBody_append hb cs
  rw [List.singleton_append] at hbody hafter
  have hplace : n - 1 + 1 + ((holeBody cs).length + 1 : Nat) =
      n + 1 - 1 + 1 + (holeBody cs).length := by omega
  unfold readingIn readHole
  rw [hbody, hafter]
  dsimp only [List.singleton_append, List.length_cons]
  rw [hplace]
  split <;> rfl

theorem braceless_nil : Braceless [] :=
  fun _ h => nomatch h

/-- A closing brace ends the hole. -/
theorem readingIn_right (n : Int) (cs : List Char) :
    readingIn n ('}' :: cs) = readingFrom (n + 1) cs := by
  have hread := readHole_closed braceless_nil (n - 1) cs
  rw [List.nil_append] at hread
  have hplace : n - 1 + 1 + (([] : List Char).length : Int) + 1 = n + 1 := by
    rw [List.length_nil]
    omega
  rw [readingIn, hread, ← hplace]

/-- So does the next opening brace, or the end. -/
theorem readingIn_unclosed {cs : List Char} (h : cs = [] ∨ ∃ r, cs = '{' :: r) (n : Int) :
    readingIn n cs = readingFrom n cs := by
  have hread := readHole_unclosed braceless_nil (n - 1) h
  rw [List.nil_append] at hread
  have hplace : n - 1 + 1 + (([] : List Char).length : Int) = n := by
    rw [List.length_nil]
    omega
  rw [readingIn, hread, hplace]

/-! ## Reading a row -/

theorem readingFrom_pairs (n : Int) (m : Nat) (cs : List Char) :
    readingFrom n (List.replicate (2 * m) '{' ++ cs) =
      List.replicate m (.inl '{') ++ readingFrom (n + (2 * m : Nat)) cs := by
  induction m generalizing n with
  | zero => simp
  | succ m ih =>
    have hplace : n + 2 + (2 * m : Nat) = n + (2 * m + 1 + 1 : Nat) := by omega
    have htwo : 2 * (m + 1) = 2 * m + 1 + 1 := rfl
    rw [htwo, List.replicate_succ, List.replicate_succ, List.cons_append, List.cons_append,
      readingFrom_left, ih, hplace, List.replicate_succ, List.cons_append]

theorem readingFrom_closing {cs : List Char} (hcs : cs.head? ≠ some '}') (n : Int) (k : Nat) :
    readingFrom n (List.replicate k '}' ++ cs) =
      List.replicate ((k + 1) / 2) (.inl '}') ++ readingFrom (n + k) cs := by
  induction k using Nat.twoStepInduction generalizing n with
  | zero => simp
  | one =>
    have hnext : ∀ r, '}' = '}' → cs ≠ '}' :: r := fun r _ e => hcs (by rw [e]; rfl)
    exact readingFrom_char (by decide) hnext n
  | more k ih _ =>
    have hplace : n + 2 + (k : Int) = n + (k + 1 + 1 : Nat) := by omega
    have hhalf : (k + 1 + 1 + 1) / 2 = (k + 1) / 2 + 1 := by omega
    rw [List.replicate_succ, List.replicate_succ, List.cons_append, List.cons_append,
      readingFrom_right, ih, hplace, hhalf, List.replicate_succ, List.cons_append]

theorem readingFrom_plain {c : Char} (hl : c ≠ '{') (hr : c ≠ '}') (n : Int) (k : Nat)
    (cs : List Char) : readingFrom n (List.replicate k c ++ cs) =
      List.replicate k (.inl c) ++ readingFrom (n + k) cs := by
  induction k generalizing n with
  | zero => simp
  | succ k ih =>
    have hplace : n + 1 + (k : Int) = n + (k + 1 : Nat) := by omega
    rw [List.replicate_succ, List.cons_append, readingFrom_char hl fun _ e => absurd e hr, ih,
      hplace, List.replicate_succ, List.cons_append]

theorem readingIn_plain {c : Char} (hl : c ≠ '{') (hr : c ≠ '}') (n : Int) (k : Nat)
    (cs : List Char) : readingIn n (List.replicate k c ++ cs) = readingIn (n + k) cs := by
  induction k generalizing n with
  | zero => simp
  | succ k ih =>
    have hplace : n + 1 + (k : Int) = n + (k + 1 : Nat) := by omega
    rw [List.replicate_succ, List.cons_append, readingIn_char hl hr, ih, hplace]

/-! ## Holes that are read -/

theorem getRight?_replicate (k : Nat) (c : Char) :
    (List.replicate k (.inl c : Char ⊕ Hole)).filterMap Sum.getRight? = [] := by
  refine List.filterMap_eq_nil_iff.mpr fun x hx => ?_
  rw [List.eq_of_mem_replicate hx]
  rfl

theorem getRight?_tokens (tokens : List Token) :
    (tokens.flatMap Token.reading).filterMap Sum.getRight? = tokens.filterMap Token.hole? := by
  induction tokens with
  | nil => rfl
  | cons t rest ih =>
    rw [List.flatMap_cons, List.filterMap_append, ih]
    cases t with
    | run r =>
      have hnone : (Token.reading (.run r)).filterMap Sum.getRight? = [] := by
        refine List.filterMap_eq_nil_iff.mpr fun x hx => ?_
        obtain ⟨c, _, rfl⟩ := List.mem_map.mp hx
        rfl
      rw [hnone]
      rfl
    | hole h => rfl

theorem inr_mem_flatMap_iff {tokens : List Token} {h : Hole} :
    .inr h ∈ tokens.flatMap Token.reading ↔ h ∈ tokens.filterMap Token.hole? := by
  rw [List.mem_flatMap, List.mem_filterMap]
  constructor
  · rintro ⟨t, ht, hmem⟩
    cases t with
    | run r =>
      obtain ⟨c, _, hc⟩ := List.mem_map.mp hmem
      cases hc
    | hole h' =>
      cases List.mem_singleton.mp hmem
      exact ⟨.hole h, ht, rfl⟩
  · rintro ⟨t, ht, hh⟩
    cases t with
    | run r => cases hh
    | hole h' =>
      cases hh
      exact ⟨.hole h, ht, List.mem_singleton_self _⟩

/-- What is read from a position on starts there or behind it. -/
theorem start_le_of_mem_readingFrom {n : Nat} {cs : List Char} {h : Hole}
    (hh : .inr h ∈ readingFrom n cs) : n ≤ h.start := by
  have hplace : (n : Int) = (List.replicate n ' ').length := by rw [List.length_replicate]
  have htiles := (cut_scanFrom n cs).tiles (List.replicate n ' ') hplace
  have hle := htiles.start_le h (inr_mem_flatMap_iff.mp hh)
  rw [List.length_replicate] at hle
  exact hle

end EventTemplate
