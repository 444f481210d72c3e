import EventTemplate.Proofs.Token.Reading
import EventTemplate.Proofs.Token.Row

/-
  Where holes are, told by counting. Whether an opening brace opens a hole depends on how many of
  them stand in a row: a row of them is pairs, and the last brace of an odd row opens a hole. Text
  and holes can be told from the rows of a raw template without going through it from the left.

  Proved: a raw template reads as its rows say (`reading_scan_rows`). The induction goes a row at a
  time, at once for what is read where no hole is open (`readingFrom`) and for what is read of a
  hole that is open (`readingIn`). `Awaits` carries through it which holes are still to be read, so
  that a row can be told whether its first brace closes one, or whether it lies in one.
-/

namespace EventTemplate

/-! ## What rows say -/

/-- The hole that opens at position `n`: its body reaches to the next brace, and it is closed if
that is a closing one. -/
def holeAt (raw : List Char) (n : Nat) : Hole :=
  let body := holeBody (raw.drop (n + 1))
  let closed := raw[n + 1 + body.length]? == some '}'
  ⟨String.ofList body, n, n + 1 + body.length + if closed then 1 else 0, closed⟩

/-- Whether the brace at position `n` closes one of the holes. -/
def closesHole (hs : List Hole) (n : Nat) : Bool :=
  hs.any fun h => h.closed && h.stop == n + 1

/-- Whether position `n` lies in the body of one of the holes. -/
def inBody (hs : List Hole) (n : Nat) : Bool :=
  hs.any fun h => h.start < n && n < h.start + 1 + h.body.length

/-- A row of opening braces that is odd. -/
def Row.opens (r : Row) : Bool :=
  r.char = '{' && r.length % 2 = 1

/-- What a row reads as, given the holes: half of its opening braces, and the hole that the last one
opens if there is one too many; half of its closing braces, rounded up, those apart that close a
hole; and any other row as it is, unless it lies in a body. -/
def Row.reading (raw : List Char) (hs : List Hole) (r : Row) : List (Char ⊕ Hole) :=
  if r.char = '{' then
    List.replicate (r.length / 2) (.inl '{') ++ if r.opens then [.inr (holeAt raw r.last)] else []
  else if r.char = '}' then
    List.replicate (((if closesHole hs r.start then r.length - 1 else r.length) + 1) / 2) (.inl '}')
  else if inBody hs r.start then []
  else List.replicate r.length (.inl r.char)

/-! ## Rows with their holes -/

variable {raw : List Char} {hs : List Hole} {n : Nat}

theorem Row.reading_pairs (raw : List Char) (hs : List Hole) (n m : Nat) :
    Row.reading raw hs ⟨n, '{', 2 * m⟩ = List.replicate m (.inl '{') := by
  have hodd : Row.opens ⟨n, '{', 2 * m⟩ = false := by simp [Row.opens]
  rw [Row.reading, if_pos rfl, hodd, if_neg Bool.false_ne_true, List.append_nil,
    Nat.mul_div_cancel_left m Nat.two_pos]

theorem Row.reading_odd (raw : List Char) (hs : List Hole) (n m : Nat) :
    Row.reading raw hs ⟨n, '{', 2 * m + 1⟩ =
      List.replicate m (.inl '{') ++ [.inr (holeAt raw (n + 2 * m))] := by
  have hodd : Row.opens ⟨n, '{', 2 * m + 1⟩ = true := by simp [Row.opens, Nat.add_mod]
  have hhalf : (2 * m + 1) / 2 = m := by omega
  rw [Row.reading, if_pos rfl, hodd, if_pos rfl, hhalf]
  rfl

theorem Row.reading_closing (raw : List Char) (n k : Nat) (hc : closesHole hs n = true) :
    Row.reading raw hs ⟨n, '}', k + 1⟩ = List.replicate ((k + 1) / 2) (.inl '}') := by
  have hne : '}' ≠ '{' := by decide
  rw [Row.reading, if_neg hne, if_pos rfl, if_pos hc, Nat.add_sub_cancel]

theorem Row.reading_right (raw : List Char) (n k : Nat) (hc : closesHole hs n = false) :
    Row.reading raw hs ⟨n, '}', k⟩ = List.replicate ((k + 1) / 2) (.inl '}') := by
  have hne : '}' ≠ '{' := by decide
  rw [Row.reading, if_neg hne, if_pos rfl, hc, if_neg Bool.false_ne_true]

theorem Row.reading_body {c : Char} (hl : c ≠ '{') (hr : c ≠ '}') (raw : List Char) (k : Nat)
    (hb : inBody hs n = true) : Row.reading raw hs ⟨n, c, k⟩ = [] := by
  rw [Row.reading, if_neg hl, if_neg hr, if_pos hb]

theorem Row.reading_plain {c : Char} (hl : c ≠ '{') (hr : c ≠ '}') (raw : List Char) (k : Nat)
    (hb : inBody hs n = false) : Row.reading raw hs ⟨n, c, k⟩ = List.replicate k (.inl c) := by
  rw [Row.reading, if_neg hl, if_neg hr, hb, if_neg Bool.false_ne_true]

/-- Behind the body of a hole stands what follows it. -/
theorem getElem?_holeBody (cs : List Char) : cs[(holeBody cs).length]? = (afterBody cs).head? := by
  have hnext := getElem?_length_add (holeBody cs) (afterBody cs) 0
  rw [holeBody_append_afterBody, Nat.add_zero] at hnext
  rw [hnext, List.head?_eq_getElem?]

theorem readHole_eq_holeAt (raw : List Char) (n : Nat) :
    (readHole n (raw.drop (n + 1))).1 = holeAt raw n := by
  unfold holeAt readHole
  dsimp only
  rw [← List.getElem?_drop, getElem?_holeBody]
  rcases afterBody_cases (raw.drop (n + 1)) with e | ⟨rest, e⟩ | ⟨rest, e⟩ <;> rw [e] <;> simp

/-- A hole ends behind its body, and behind its closing brace if it has one. -/
def Shaped (h : Hole) : Prop :=
  h.stop = h.start + 1 + h.body.length + if h.closed then 1 else 0

/-- Position `n` is in no hole: every hole ends before it or starts behind it. -/
def Clear (hs : List Hole) (n : Nat) : Prop :=
  ∀ h ∈ hs, h.stop ≤ n ∨ (n : Int) ≤ h.start

theorem Clear.closesHole (hc : Clear hs n) (hshape : ∀ h ∈ hs, Shaped h) :
    closesHole hs n = false := by
  refine List.any_eq_false.mpr fun h hh hcloses => ?_
  rw [Bool.and_eq_true, beq_iff_eq] at hcloses
  have hstop := hshape h hh
  unfold Shaped at hstop
  rw [if_pos hcloses.1] at hstop
  rcases hc h hh with hle | hle
  · omega
  · omega

theorem Clear.inBody (hc : Clear hs n) (hshape : ∀ h ∈ hs, Shaped h) : inBody hs n = false := by
  refine List.any_eq_false.mpr fun h hh hin => ?_
  rw [Bool.and_eq_true, decide_eq_true_eq, decide_eq_true_eq] at hin
  have hstop := hshape h hh
  unfold Shaped at hstop
  rcases hc h hh with hle | hle
  · split at hstop <;> omega
  · omega

/-! ## What is still to be read -/

/-- Of the holes, those that do not end before position `n` are still to be read. -/
structure Awaits (hs : List Hole) (n : Nat) (read : List (Char ⊕ Hole)) : Prop where
  past : ∀ h ∈ hs, h.stop ≤ n ∨ .inr h ∈ read
  ahead : ∀ h, .inr h ∈ read → h ∈ hs

theorem Awaits.clear {cs : List Char} (h : Awaits hs n (readingFrom n cs)) : Clear hs n :=
  fun h' hh' => (h.past h' hh').imp_right start_le_of_mem_readingFrom

theorem inr_mem_replicate_append {k : Nat} {c : Char} {read : List (Char ⊕ Hole)} {h : Hole} :
    .inr h ∈ List.replicate k (.inl c) ++ read ↔ .inr h ∈ read := by
  simp [List.mem_replicate]

/-- Characters that are read bring no hole with them. -/
theorem Awaits.later {n' : Nat} {k : Nat} {c : Char} {read : List (Char ⊕ Hole)}
    (h : Awaits hs n (List.replicate k (.inl c) ++ read)) (hn : n ≤ n') : Awaits hs n' read := by
  refine ⟨fun h' hh' => ?_, fun h' hh' => h.ahead h' (inr_mem_replicate_append.mpr hh')⟩
  rcases h.past h' hh' with hle | hread
  · exact .inl (by omega)
  · exact .inr (inr_mem_replicate_append.mp hread)

/-- A hole stands open at position `n`, where the characters `cs` follow, and the others end before
it or are still to be read. -/
structure Inside (hs : List Hole) (n : Nat) (cs : List Char) (h : Hole) : Prop where
  mem : h ∈ hs
  start_lt : h.start < n
  body : h.start + 1 + h.body.length = n + (holeBody cs).length
  closed : h.closed = ((afterBody cs).head? == some '}')
  past : ∀ h' ∈ hs, h'.stop ≤ n ∨ h' = h ∨ .inr h' ∈ readingIn n cs
  ahead : ∀ h', .inr h' ∈ readingIn n cs → h' ∈ hs

/-- A hole stands open behind the brace that opens it. -/
theorem Awaits.inside {m k : Nat} {c : Char}
    (h : Awaits hs n (List.replicate k (.inl c) ++
      .inr (holeAt raw (n + m)) :: readingIn (n + m + 1 : Nat) (raw.drop (n + m + 1)))) :
    Inside hs (n + m + 1) (raw.drop (n + m + 1)) (holeAt raw (n + m)) := by
  have hstart : (holeAt raw (n + m)).start = (n + m : Nat) := rfl
  have hbody : (holeAt raw (n + m)).body.length = (holeBody (raw.drop (n + m + 1))).length :=
    String.length_ofList
  have hnext : n ≤ n + m + 1 := by omega
  have hlater := h.later hnext
  refine ⟨hlater.ahead _ List.mem_cons_self, by omega, by omega, ?_, fun h' hh' => ?_,
    fun h' hh' => hlater.ahead h' (List.mem_cons_of_mem _ hh')⟩
  · rw [← getElem?_holeBody, List.getElem?_drop]
    rfl
  · rcases hlater.past h' hh' with hle | hread
    · exact .inl hle
    · rcases List.mem_cons.mp hread with heq | hread
      · exact .inr (.inl (Sum.inr.inj heq))
      · exact .inr (.inr hread)

theorem Inside.stop {cs : List Char} {h : Hole} (hi : Inside hs n cs h) (hshape : Shaped h) :
    h.stop = n + (holeBody cs).length + if h.closed then 1 else 0 := by
  have hbody := hi.body
  unfold Shaped at hshape
  omega

/-- The hole stays open behind a character of its body. -/
theorem Inside.plain {c : Char} (hl : c ≠ '{') (hr : c ≠ '}') {k : Nat} {rest : List Char}
    {h : Hole} (hi : Inside hs n (List.replicate (k + 1) c ++ rest) h) :
    inBody hs n = true ∧ Inside hs (n + (k + 1)) rest h := by
  have hb : Braceless (List.replicate (k + 1) c) := by
    intro d hd
    rw [List.eq_of_mem_replicate hd]
    exact ⟨hl, hr⟩
  have hbody := hi.body
  have hstart := hi.start_lt
  have hclosed := hi.closed
  have hpast := hi.past
  have hahead := hi.ahead
  rw [holeBody_append hb, List.length_append, List.length_replicate] at hbody
  rw [afterBody_append hb] at hclosed
  have hread : readingIn n (List.replicate (k + 1) c ++ rest) =
      readingIn (n + (k + 1) : Nat) rest := readingIn_plain hl hr n (k + 1) rest
  rw [hread] at hpast hahead
  refine ⟨List.any_eq_true.mpr ⟨h, hi.mem, ?_⟩, hi.mem, by omega, by omega, hclosed,
    fun h' hh' => ?_, hahead⟩
  · rw [Bool.and_eq_true, decide_eq_true_eq, decide_eq_true_eq]
    omega
  · rcases hpast h' hh' with hle | hrest
    · exact .inl (by omega)
    · exact .inr hrest

/-- The hole is closed by a closing brace, and the next ones are text. -/
theorem Inside.closing {k : Nat} {rest : List Char} (hrest : rest.head? ≠ some '}') {h : Hole}
    (hshape : Shaped h) (hi : Inside hs n (List.replicate (k + 1) '}' ++ rest) h) :
    closesHole hs n = true ∧
      readingIn n (List.replicate (k + 1) '}' ++ rest) =
        List.replicate ((k + 1) / 2) (.inl '}') ++ readingFrom (n + (k + 1) : Nat) rest ∧
      Awaits hs (n + (k + 1)) (readingFrom (n + (k + 1) : Nat) rest) := by
  have hread : readingIn n (List.replicate (k + 1) '}' ++ rest) =
      List.replicate ((k + 1) / 2) (.inl '}') ++ readingFrom (n + (k + 1) : Nat) rest := by
    have hplace : (n : Int) + 1 + k = (n + (k + 1) : Nat) := by omega
    rw [List.replicate_succ, List.cons_append, readingIn_right, readingFrom_closing hrest, hplace]
  have hempty : holeBody (List.replicate (k + 1) '}' ++ rest) = [] := rfl
  have hclosed : h.closed = true := hi.closed
  have hstop := hi.stop hshape
  rw [hempty, List.length_nil, if_pos hclosed] at hstop
  refine ⟨List.any_eq_true.mpr ⟨h, hi.mem, ?_⟩, hread, fun h' hh' => ?_, fun h' hh' => ?_⟩
  · rw [Bool.and_eq_true, beq_iff_eq]
    exact ⟨hclosed, by omega⟩
  · rcases hi.past h' hh' with hle | rfl | hrest
    · exact .inl (by omega)
    · exact .inl (by omega)
    · rw [hread] at hrest
      exact .inr (inr_mem_replicate_append.mp hrest)
  · refine hi.ahead h' ?_
    rw [hread]
    exact inr_mem_replicate_append.mpr hh'

/-- The hole ends unclosed where an opening brace follows, or nothing. -/
theorem Inside.unclosed {cs : List Char} (hcs : cs = [] ∨ ∃ r, cs = '{' :: r) {h : Hole}
    (hshape : Shaped h) (hi : Inside hs n cs h) : Awaits hs n (readingFrom n cs) := by
  have hpast := hi.past
  have hahead := hi.ahead
  rw [readingIn_unclosed hcs] at hpast hahead
  have hbody : holeBody cs = [] ∧ (afterBody cs).head? ≠ some '}' := by
    rcases hcs with rfl | ⟨r, rfl⟩
    · exact ⟨rfl, nofun⟩
    · exact ⟨rfl, by simp [afterBody]⟩
  have hclosed : h.closed = false := by
    rw [hi.closed]
    exact beq_eq_false_iff_ne.mpr hbody.2
  have hstop := hi.stop hshape
  rw [hbody.1, hclosed, List.length_nil, if_neg Bool.false_ne_true] at hstop
  refine ⟨fun h' hh' => ?_, hahead⟩
  rcases hpast h' hh' with hle | rfl | hread
  · exact .inl hle
  · exact .inl (by omega)
  · exact .inr hread

/-! ## Reading by rows -/

theorem drop_row {c : Char} {k : Nat} {rest : List Char}
    (h : raw.drop n = List.replicate k c ++ rest) : raw.drop (n + k) = rest := by
  rw [← List.drop_drop, h]
  simp

/-- An odd row of opening braces is pairs and a hole. -/
theorem readingFrom_odd {m : Nat} {rest : List Char} (hrest : rest.head? ≠ some '{')
    (hraw : raw.drop n = List.replicate (2 * m + 1) '{' ++ rest) :
    readingFrom n (List.replicate (2 * m + 1) '{' ++ rest) =
      List.replicate m (.inl '{') ++
        .inr (holeAt raw (n + 2 * m)) :: readingIn (n + 2 * m + 1 : Nat) rest := by
  have hdrop : raw.drop (n + (2 * m + 1)) = rest := drop_row hraw
  have hhole := readHole_eq_holeAt raw (n + 2 * m)
  rw [Nat.add_assoc, hdrop] at hhole
  rw [List.replicate_succ', List.append_assoc, List.singleton_append, readingFrom_pairs,
    readingFrom_hole hrest, ← hhole]
  rfl

/-- A row that is read where no hole is open reads as it says. Then there is again none, or a hole
stands open. -/
theorem reading_row (hshape : ∀ h ∈ hs, Shaped h) {c : Char} {k : Nat} {rest : List Char}
    (hrest : rest.head? ≠ some c) (hraw : raw.drop n = List.replicate (k + 1) c ++ rest)
    (ha : Awaits hs n (readingFrom n (List.replicate (k + 1) c ++ rest))) :
    (readingFrom n (List.replicate (k + 1) c ++ rest) =
        Row.reading raw hs ⟨n, c, k + 1⟩ ++ readingFrom (n + (k + 1) : Nat) rest ∧
      Awaits hs (n + (k + 1)) (readingFrom (n + (k + 1) : Nat) rest)) ∨
    ∃ h, readingFrom n (List.replicate (k + 1) c ++ rest) =
        Row.reading raw hs ⟨n, c, k + 1⟩ ++ readingIn (n + (k + 1) : Nat) rest ∧
      Inside hs (n + (k + 1)) rest h := by
  have hclear := ha.clear
  have hnext : n ≤ n + (k + 1) := Nat.le_add_right n (k + 1)
  by_cases hl : c = '{'
  · subst hl
    obtain ⟨m, hm | hm⟩ : ∃ m, k + 1 = 2 * m ∨ k + 1 = 2 * m + 1 := ⟨(k + 1) / 2, by omega⟩
    · rw [hm] at ha hnext ⊢
      have hread := readingFrom_pairs n m rest
      rw [hread] at ha
      rw [hread, Row.reading_pairs]
      exact .inl ⟨rfl, ha.later hnext⟩
    · rw [hm] at ha hraw ⊢
      have hread := readingFrom_odd hrest hraw
      have hdrop : raw.drop (n + 2 * m + 1) = rest := by rw [Nat.add_assoc, drop_row hraw]
      rw [hread] at ha
      refine .inr ⟨holeAt raw (n + 2 * m), ?_, ?_⟩
      · rw [hread, Row.reading_odd, List.append_assoc]
        rfl
      · rw [← hdrop] at ha ⊢
        exact ha.inside
  · by_cases hr : c = '}'
    · subst hr
      have hread := readingFrom_closing hrest n (k + 1)
      rw [hread] at ha
      rw [hread, Row.reading_right raw n (k + 1) (hclear.closesHole hshape)]
      exact .inl ⟨rfl, ha.later hnext⟩
    · have hread := readingFrom_plain hl hr n (k + 1) rest
      rw [hread] at ha
      rw [hread, Row.reading_plain hl hr raw (k + 1) (hclear.inBody hshape)]
      exact .inl ⟨rfl, ha.later hnext⟩

/-- Where no hole is open, or one is, what is read is what the rows say. -/
theorem reading_rowsFrom (hshape : ∀ h ∈ hs, Shaped h) (cs : List Char) :
    (∀ n, raw.drop n = cs → Awaits hs n (readingFrom n cs) →
      readingFrom n cs = (rowsFrom n cs).flatMap (Row.reading raw hs)) ∧
    ∀ n h, raw.drop n = cs → Inside hs n cs h →
      readingIn n cs = (rowsFrom n cs).flatMap (Row.reading raw hs) := by
  induction cs using row_induction with
  | nil =>
    have hnil : ∀ n, (rowsFrom n []).flatMap (Row.reading raw hs) = [] := by
      intro n
      rw [rowsFrom]
      rfl
    refine ⟨fun n _ _ => ?_, fun n h _ _ => ?_⟩
    · rw [readingFrom_nil, hnil]
    · rw [readingIn_unclosed (.inl rfl), readingFrom_nil, hnil]
  | row c k rest hrest ih =>
    have hfrom : ∀ n, raw.drop n = List.replicate (k + 1) c ++ rest →
        Awaits hs n (readingFrom n (List.replicate (k + 1) c ++ rest)) →
        readingFrom n (List.replicate (k + 1) c ++ rest) =
          (rowsFrom n (List.replicate (k + 1) c ++ rest)).flatMap (Row.reading raw hs) := by
      intro n hraw ha
      have hdrop := drop_row hraw
      rw [rowsFrom_row n hrest, List.flatMap_cons]
      rcases reading_row hshape hrest hraw ha with ⟨hread, ha⟩ | ⟨h, hread, hi⟩
      · rw [hread, ih.1 _ hdrop ha]
      · rw [hread, ih.2 _ h hdrop hi]
    refine ⟨hfrom, fun n h hraw hi => ?_⟩
    by_cases hl : c = '{'
    · have hopening : ∃ r, List.replicate (k + 1) c ++ rest = '{' :: r := by
        rw [hl]
        exact ⟨_, rfl⟩
      have ha := hi.unclosed (.inr hopening) (hshape h hi.mem)
      rw [readingIn_unclosed (.inr hopening)]
      exact hfrom n hraw ha
    · have hdrop := drop_row hraw
      rw [rowsFrom_row n hrest, List.flatMap_cons]
      by_cases hr : c = '}'
      · subst hr
        obtain ⟨hcloses, hread, ha⟩ := hi.closing hrest (hshape h hi.mem)
        rw [hread, Row.reading_closing raw n k hcloses, ih.1 _ hdrop ha]
      · obtain ⟨hin, hi⟩ := hi.plain hl hr
        have hread : readingIn n (List.replicate (k + 1) c ++ rest) =
            readingIn (n + (k + 1) : Nat) rest := readingIn_plain hl hr n (k + 1) rest
        rw [hread, Row.reading_body hl hr raw (k + 1) hin, ih.2 _ h hdrop hi, List.nil_append]

/-! ## The holes among what is read -/

/-- A row brings a hole if it is an odd one of opening braces. -/
theorem Row.getRight?_reading (raw : List Char) (hs : List Hole) (r : Row) :
    (r.reading raw hs).filterMap Sum.getRight? = if r.opens then [holeAt raw r.last] else [] := by
  unfold Row.reading
  split
  · rw [List.filterMap_append, getRight?_replicate, List.nil_append]
    split <;> rfl
  · rename_i hl
    have hopens : r.opens = false := by
      unfold Row.opens
      rw [decide_eq_false hl, Bool.false_and]
    rw [hopens, if_neg Bool.false_ne_true]
    split
    · exact getRight?_replicate _ _
    · split
      · rfl
      · exact getRight?_replicate _ _

theorem getRight?_readings (raw : List Char) (hs : List Hole) (rs : List Row) :
    (rs.flatMap (Row.reading raw hs)).filterMap Sum.getRight? =
      (rs.filter Row.opens).map fun r => holeAt raw r.last := by
  induction rs with
  | nil => rfl
  | cons r rs ih =>
    rw [List.flatMap_cons, List.filterMap_append, ih, Row.getRight?_reading]
    cases hr : r.opens with
    | false => rw [if_neg Bool.false_ne_true, List.filter_cons_of_neg (by simp [hr]),
        List.nil_append]
    | true => rw [if_pos rfl, List.filter_cons_of_pos hr, List.map_cons, List.singleton_append]

/-! ## The whole -/

/-- The longest stretch without braces at the beginning of characters. -/
structure LongestBraceless (body cs : List Char) : Prop where
  isPrefix : body <+: cs
  braceless : Braceless body
  longest : ∀ other, other <+: cs → Braceless other → other <+: body

theorem longestBraceless_holeBody (cs : List Char) : LongestBraceless (holeBody cs) cs := by
  refine ⟨List.takeWhile_prefix _, braceless_holeBody cs, ?_⟩
  rintro other ⟨rest, rfl⟩ hother
  rw [holeBody_append hother]
  exact List.prefix_append other (holeBody rest)

theorem shaped_holes (raw : String) : ∀ h ∈ holes raw, Shaped h := by
  intro h hh
  obtain ⟨n, hstands⟩ := (placed_holes raw).stands h hh
  unfold Shaped
  rw [hstands.start]
  exact hstands.stop

/-- Holes are decided by the parity of rows. The rows of a raw template are all that reach as far as
they can, one behind the other. The odd rows of opening braces are the holes, in the same order: a
hole starts at the last brace of its row, its body is the longest stretch without braces that
follows, and it is closed if a closing brace follows that. What the raw template reads as is what
its rows read as: half of the opening braces, rounded down, half of the closing braces, rounded up,
but for the one that closes a hole, and all other characters outside of bodies. -/
theorem reading_scan_rows (raw : String) :
    (∀ r, r ∈ rows raw ↔ r.Maximal 0 raw.toList) ∧
    (rows raw).flatMap Row.chars = raw.toList ∧
    holes raw = ((rows raw).filter Row.opens).map (fun r => holeAt raw.toList r.last) ∧
    (∀ h ∈ holes raw,
      LongestBraceless h.body.toList (raw.toList.drop (h.start.toNat + 1)) ∧
      (h.closed = true ↔ raw.toList[h.start.toNat + 1 + h.body.length]? = some '}')) ∧
    (scan raw).flatMap Token.reading =
      (rows raw).flatMap (Row.reading raw.toList (holes raw)) := by
  have hawaits : Awaits (holes raw) 0 (readingFrom 0 raw.toList) :=
    ⟨fun h hh => .inr (inr_mem_flatMap_iff.mpr hh), fun h hh => inr_mem_flatMap_iff.mp hh⟩
  have hread : (scan raw).flatMap Token.reading =
      (rows raw).flatMap (Row.reading raw.toList (holes raw)) :=
    (reading_rowsFrom (shaped_holes raw) raw.toList).1 0 rfl hawaits
  have hholes : holes raw =
      ((rows raw).filter Row.opens).map (fun r => holeAt raw.toList r.last) := by
    rw [← getRight?_readings raw.toList (holes raw), ← hread, getRight?_tokens]
    rfl
  refine ⟨mem_rowsFrom_iff 0 raw.toList, flatMap_rowsFrom 0 raw.toList, hholes, fun h hh => ?_,
    hread⟩
  rw [hholes] at hh
  obtain ⟨r, _, rfl⟩ := List.mem_map.mp hh
  have hbody : (holeAt raw.toList r.last).body.toList = holeBody (raw.toList.drop (r.last + 1)) :=
    String.toList_ofList
  have hlength : (holeAt raw.toList r.last).body.length =
      (holeBody (raw.toList.drop (r.last + 1))).length := String.length_ofList
  have hstart : (holeAt raw.toList r.last).start.toNat = r.last := rfl
  rw [hbody, hlength, hstart]
  refine ⟨longestBraceless_holeBody _, ?_⟩
  exact beq_iff_eq

/-- An odd row of opening braces, a hole that is not closed, an empty one, and closing braces behind
it. -/
example :
    let raw := "{{{a{}}}}"
    (rows raw).flatMap (Row.reading raw.toList (holes raw)) =
      [.inl '{', .inr ⟨"a", 2, 4, false⟩, .inr ⟨"", 4, 6, true⟩, .inl '}', .inl '}'] := by
  decide +kernel

end EventTemplate
