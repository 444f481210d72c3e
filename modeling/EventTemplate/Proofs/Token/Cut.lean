import EventTemplate.Token.Scan

/-
  The cut of a raw template, said without a scanner: stretches of literal text and holes take turns.
  In literal text opening braces come in pairs, and a stretch of it reaches as far as it can; a
  hole reaches from its brace to the next one. `Cut n cs ts` says that the characters `cs`, which
  begin at position `n`, fall into the tokens `ts`.

  Proved: a raw template has exactly one cut, and scanning finds it (`scan_eq_iff_cut`).
-/

namespace EventTemplate

/-! ## Literal text -/

/-- Literal text as it reads: from the left, `{{` is one brace and so is `}}`; any other character
stands for itself. -/
def unescape : List Char → List Char
  | '{' :: '{' :: rest => '{' :: unescape rest
  | '}' :: '}' :: rest => '}' :: unescape rest
  | c :: rest => c :: unescape rest
  | [] => []

/-- Characters that are literal text: an opening brace never stands alone. -/
inductive Literal : List Char → Prop where
  | nil : Literal []
  | pair {cs : List Char} (h : Literal cs) : Literal ('{' :: '{' :: cs)
  | char {c : Char} {cs : List Char} (hc : c ≠ '{') (h : Literal cs) : Literal (c :: cs)

/-- Characters before which literal text ends: there are none, or a hole opens. -/
inductive Opens : List Char → Prop where
  | done : Opens []
  | hole {rest : List Char} (h : ∀ r, rest ≠ '{' :: r) : Opens ('{' :: rest)

/-- Characters without braces. -/
def Braceless (cs : List Char) : Prop := ∀ c ∈ cs, c ≠ '{' ∧ c ≠ '}'

theorem Literal.append {cs ds : List Char} (hc : Literal cs) (hd : Literal ds) :
    Literal (cs ++ ds) := by
  induction hc with
  | nil => exact hd
  | pair _ ih => exact .pair ih
  | char hc _ ih => exact .char hc ih

theorem Literal.of_pair {cs : List Char} (h : Literal ('{' :: '{' :: cs)) : Literal cs := by
  cases h with
  | pair h => exact h
  | char hc _ => exact absurd rfl hc

theorem Literal.of_cons {c : Char} {cs : List Char} (hc : c ≠ '{') (h : Literal (c :: cs)) :
    Literal cs := by
  cases h with
  | pair _ => exact absurd rfl hc
  | char _ h => exact h

theorem Literal.ne_left {c : Char} {cs : List Char} (h : Literal (c :: cs))
    (hl : ∀ r, c = '{' → cs = '{' :: r → False) : c ≠ '{' := by
  rintro rfl
  cases h with
  | pair _ => exact hl _ rfl rfl
  | char hc _ => exact hc rfl

theorem unescape_ne_nil {cs : List Char} (h : cs ≠ []) : unescape cs ≠ [] := by
  fun_cases unescape cs with
  | case1 => exact List.cons_ne_nil _ _
  | case2 => exact List.cons_ne_nil _ _
  | case3 => exact List.cons_ne_nil _ _
  | case4 => exact absurd rfl h

theorem Opens.ne_right {cs : List Char} (h : Opens cs) (r : List Char) : cs ≠ '}' :: r := by
  cases h with
  | done => exact (List.cons_ne_nil _ _).symm
  | hole _ => intro e; exact absurd (List.head_eq_of_cons_eq e) (by decide)

/-- Literal text does not end before it begins. -/
theorem Literal.not_opens {cs : List Char} (h : Literal cs) (hne : cs ≠ []) (rest : List Char) :
    ¬ Opens (cs ++ rest) := by
  intro ho
  cases h with
  | nil => exact hne rfl
  | pair _ => cases ho with | hole ho => exact ho _ rfl
  | char hc _ => cases ho with | hole _ => exact hc rfl

/-- Some literal text comes first, perhaps none, and where it ends no more can follow. -/
theorem exists_literal_opens (cs : List Char) :
    ∃ source rest, cs = source ++ rest ∧ Literal source ∧ Opens rest := by
  fun_induction unescape cs with
  | case1 r ih =>
    obtain ⟨source, rest, rfl, hs, hr⟩ := ih
    exact ⟨'{' :: '{' :: source, rest, rfl, .pair hs, hr⟩
  | case2 r ih =>
    obtain ⟨source, rest, rfl, hs, hr⟩ := ih
    exact ⟨'}' :: '}' :: source, rest, rfl, .char (by decide) (.char (by decide) hs), hr⟩
  | case3 c r h _ ih =>
    by_cases hc : c = '{'
    · subst hc
      exact ⟨[], _, rfl, .nil, .hole fun r' e => h r' rfl e⟩
    · obtain ⟨source, rest, rfl, hs, hr⟩ := ih
      exact ⟨c :: source, rest, rfl, .char hc hs, hr⟩
  | case4 => exact ⟨[], [], rfl, .nil, .done⟩

/-! ## Holes -/

theorem Braceless.append {cs ds : List Char} (hc : Braceless cs) (hd : Braceless ds) :
    Braceless (cs ++ ds) := by
  intro c h
  rcases List.mem_append.mp h with h | h
  · exact hc c h
  · exact hd c h

theorem all_takeWhile {p : Char → Bool} {cs : List Char} : ∀ c ∈ cs.takeWhile p, p c = true :=
  List.all_eq_true.mp List.all_takeWhile

theorem braceless_holeBody (cs : List Char) : Braceless (holeBody cs) := by
  intro c h
  have := all_takeWhile c h
  simpa using this

theorem holeBody_append_afterBody (cs : List Char) : holeBody cs ++ afterBody cs = cs :=
  List.takeWhile_append_dropWhile

theorem holeBody_append {body : List Char} (hb : Braceless body) (rest : List Char) :
    holeBody (body ++ rest) = body ++ holeBody rest := by
  unfold holeBody
  refine List.takeWhile_append_of_pos fun c hc => ?_
  simpa using hb c hc

theorem afterBody_append {body : List Char} (hb : Braceless body) (rest : List Char) :
    afterBody (body ++ rest) = afterBody rest := by
  unfold afterBody
  refine List.dropWhile_append_of_pos fun c hc => ?_
  simpa using hb c hc

/-- What follows a hole's body is nothing, or begins with a brace. -/
theorem afterBody_cases (cs : List Char) :
    afterBody cs = [] ∨ (∃ rest, afterBody cs = '{' :: rest) ∨
      ∃ rest, afterBody cs = '}' :: rest := by
  have h := List.head?_dropWhile_not (fun c => c ≠ '{' && c ≠ '}') cs
  unfold afterBody
  cases e : cs.dropWhile fun c => c ≠ '{' && c ≠ '}' with
  | nil => exact .inl rfl
  | cons c rest =>
    rw [e] at h
    by_cases hc : c = '{'
    · exact .inr (.inl ⟨rest, by rw [hc]⟩)
    · have : c = '}' := by simpa [hc] using h
      exact .inr (.inr ⟨rest, by rw [this]⟩)

theorem readHole_closed {body : List Char} (hb : Braceless body) (n : Int) (rest : List Char) :
    readHole n (body ++ '}' :: rest) =
      (⟨String.ofList body, n, n + 1 + body.length + 1, true⟩, rest) := by
  have h₁ : holeBody (body ++ '}' :: rest) = body := by
    rw [holeBody_append hb]; simp [holeBody]
  have h₂ : afterBody (body ++ '}' :: rest) = '}' :: rest := by
    rw [afterBody_append hb]; simp [afterBody]
  unfold readHole
  rw [h₁, h₂]
  rfl

theorem readHole_unclosed {body rest : List Char} (hb : Braceless body) (n : Int)
    (hr : rest = [] ∨ ∃ r, rest = '{' :: r) :
    readHole n (body ++ rest) = (⟨String.ofList body, n, n + 1 + body.length, false⟩, rest) := by
  have h₁ : holeBody (body ++ rest) = body := by
    rw [holeBody_append hb]
    rcases hr with rfl | ⟨r, rfl⟩ <;> simp [holeBody]
  have h₂ : afterBody (body ++ rest) = rest := by
    rw [afterBody_append hb]
    rcases hr with rfl | ⟨r, rfl⟩ <;> simp [afterBody]
  unfold readHole
  rw [h₁, h₂]
  rcases hr with rfl | ⟨r, rfl⟩ <;> rfl

/-! ## Scanning, a stretch at a time -/

theorem scanFrom_char {c : Char} (hc : c ≠ '{') {cs : List Char} (h : ∀ r, c = '}' → cs ≠ '}' :: r)
    (n : Int) (p : Pending) : scanFrom n p (c :: cs) = scanFrom (n + 1) (p.push c [c]) cs :=
  scanFrom.eq_5 n p c cs (fun _ e _ => hc e) h hc

/-- A stretch of literal text is read to its end and waits, as it reads and as it is written. -/
theorem scanFrom_literal {source rest : List Char} (hs : Literal source) (hr : Opens rest) (n : Int)
    (p : Pending) : scanFrom n p (source ++ rest) =
      scanFrom (n + source.length) ⟨(unescape source).reverse ++ p.text, source.reverse ++ p.source⟩
        rest := by
  -- two closing braces are read at once, so the induction is on the pairs of `unescape`
  fun_induction unescape source generalizing n p with
  | case1 cs ih =>
    have e : n + 2 + (cs.length : Int) = n + (cs.length + 1 + 1) := by omega
    rw [List.cons_append, List.cons_append, scanFrom, ih hs.of_pair]
    simp [Pending.push, e]
  | case2 cs ih =>
    have hs' := (hs.of_cons (by decide)).of_cons (by decide)
    have e : n + 2 + (cs.length : Int) = n + (cs.length + 1 + 1) := by omega
    rw [List.cons_append, List.cons_append, scanFrom, ih hs']
    simp [Pending.push, e]
  | case3 c cs hl hrt ih =>
    have hc := hs.ne_left hl
    have hcs : ∀ r, c = '}' → cs ++ rest ≠ '}' :: r := by
      intro r e
      cases cs with
      | nil => exact hr.ne_right r
      | cons d cs =>
        intro e'
        exact hrt cs e (by rw [List.head_eq_of_cons_eq e'])
    have e : n + 1 + (cs.length : Int) = n + (cs.length + 1) := by omega
    rw [List.cons_append, scanFrom_char hc hcs, ih (hs.of_cons hc)]
    simp [Pending.push, e]
  | case4 => simp

/-- Where literal text ends, what waits becomes a token. -/
theorem scanFrom_opens {cs : List Char} (h : Opens cs) (n : Int) (p : Pending) :
    scanFrom n p cs = p.flush (scanFrom n {} cs) := by
  cases h with
  | done => rw [scanFrom, scanFrom]; rfl
  | hole h => rw [scanFrom.eq_4 _ _ _ h, scanFrom.eq_4 _ _ _ h]; rfl

theorem flush_of_ne_nil {text source : List Char} (h : text ≠ []) (tokens : List Token) :
    Pending.flush ⟨text.reverse, source.reverse⟩ tokens =
      .run ⟨String.ofList text, some (String.ofList source)⟩ :: tokens := by
  simp [Pending.flush, h]

/-! ## The cut -/

/-- `Cut n cs ts`: the characters `cs`, which begin at position `n`, fall into the tokens `ts`. -/
inductive Cut : Int → List Char → List Token → Prop where
  | done (n : Int) : Cut n [] []
  | text {n : Int} {source rest : List Char} {tokens : List Token} (hne : source ≠ [])
      (hs : Literal source) (hr : Opens rest) (h : Cut (n + source.length) rest tokens) :
      Cut n (source ++ rest)
        (.run ⟨String.ofList (unescape source), some (String.ofList source)⟩ :: tokens)
  | closed {n : Int} {body rest : List Char} {tokens : List Token} (hb : Braceless body)
      (h : Cut (n + 1 + body.length + 1) rest tokens) :
      Cut n ('{' :: (body ++ '}' :: rest))
        (.hole ⟨String.ofList body, n, n + 1 + body.length + 1, true⟩ :: tokens)
  | unclosed {n : Int} {body rest : List Char} {tokens : List Token} (hb : Braceless body)
      (hr : rest = [] ∨ ∃ r, rest = '{' :: r) (ho : Opens ('{' :: (body ++ rest)))
      (h : Cut (n + 1 + body.length) rest tokens) :
      Cut n ('{' :: (body ++ rest))
        (.hole ⟨String.ofList body, n, n + 1 + body.length, false⟩ :: tokens)

theorem opens_closed {body : List Char} (hb : Braceless body) (rest : List Char) :
    Opens ('{' :: (body ++ '}' :: rest)) := by
  refine .hole fun r e => ?_
  cases body with
  | nil => exact absurd (List.head_eq_of_cons_eq e) (by decide)
  | cons c body => exact (hb c List.mem_cons_self).1 (List.head_eq_of_cons_eq e)

theorem scanFrom_hole {cs : List Char} (h : Opens ('{' :: cs)) (n : Int) :
    scanFrom n {} ('{' :: cs) =
      .hole (readHole n cs).1 :: scanFrom (readHole n cs).1.stop {} (readHole n cs).2 := by
  cases h with
  | hole h => rw [scanFrom.eq_4 _ _ _ h]; rfl

/-- Scanning finds every cut. -/
theorem scanFrom_of_cut {n : Int} {cs : List Char} {tokens : List Token} (h : Cut n cs tokens) :
    scanFrom n {} cs = tokens := by
  induction h with
  | done n => rw [scanFrom]; rfl
  | text hne hs hr _ ih =>
    rw [scanFrom_literal hs hr, scanFrom_opens hr, ih, List.append_nil, List.append_nil,
      flush_of_ne_nil (unescape_ne_nil hne)]
  | closed hb _ ih => rw [scanFrom_hole (opens_closed hb _), readHole_closed hb, ih]
  | unclosed hb hr ho _ ih => rw [scanFrom_hole ho, readHole_unclosed hb _ hr, ih]

/-- Where a hole opens, the cut of what follows the hole gives a cut. -/
theorem exists_cut_hole {rest : List Char} (ho : Opens ('{' :: rest)) (n : Int)
    (ih : ∀ (m : Int) (ds : List Char), ds.length ≤ rest.length → ∃ tokens, Cut m ds tokens) :
    ∃ tokens, Cut n ('{' :: rest) tokens := by
  have hb := braceless_holeBody rest
  have hsplit := holeBody_append_afterBody rest
  have hle := length_afterBody_le rest
  rw [← hsplit] at ho ⊢
  rcases afterBody_cases rest with e | ⟨r, e⟩ | ⟨r, e⟩
  · rw [e] at ho ⊢
    exact ⟨_, .unclosed hb (.inl rfl) ho (.done _)⟩
  · obtain ⟨tokens, h⟩ := ih (n + 1 + (holeBody rest).length) (afterBody rest) hle
    exact ⟨_, .unclosed hb (.inr ⟨r, e⟩) ho h⟩
  · rw [e] at hle ⊢
    obtain ⟨tokens, h⟩ := ih (n + 1 + (holeBody rest).length + 1) r (Nat.le_of_succ_le hle)
    exact ⟨_, .closed hb h⟩

theorem exists_cut (n : Int) (cs : List Char) : ∃ tokens, Cut n cs tokens := by
  induction e : cs.length using Nat.strongRecOn generalizing n cs with
  | ind k ih =>
    -- a cut of any shorter end is there, so it is enough to take off one hole
    have hopens : ∀ (m : Int) (rest : List Char), rest.length ≤ k → Opens rest →
        ∃ tokens, Cut m rest tokens := by
      intro m rest hlen ho
      cases ho with
      | done => exact ⟨[], .done m⟩
      | hole ho =>
        rw [List.length_cons] at hlen
        refine exists_cut_hole (.hole ho) m fun m' ds hds => ?_
        exact ih ds.length (by omega) m' ds rfl
    obtain ⟨source, rest, rfl, hs, hr⟩ := exists_literal_opens cs
    rw [List.length_append] at e
    obtain ⟨tokens, h⟩ := hopens (n + source.length) rest (by omega) hr
    cases source with
    | nil => exact hopens n rest (by omega) hr
    | cons c source => exact ⟨_, .text (List.cons_ne_nil _ _) hs hr h⟩

theorem cut_scanFrom (n : Int) (cs : List Char) : Cut n cs (scanFrom n {} cs) := by
  obtain ⟨tokens, h⟩ := exists_cut n cs
  rw [scanFrom_of_cut h]
  exact h

theorem cut_scan (raw : String) : Cut 0 raw.toList (scan raw) :=
  cut_scanFrom 0 raw.toList

/-- The cut of a raw template is what scanning gives, and it is the only one. -/
theorem scan_eq_iff_cut (raw : String) (tokens : List Token) :
    scan raw = tokens ↔ Cut 0 raw.toList tokens := by
  constructor
  · rintro rfl
    exact cut_scan raw
  · exact scanFrom_of_cut

end EventTemplate
