import Mathlib.Order.Bounds.Basic
import EventTemplate.Proofs.Property.Grammar

/-
  Where the reading of a body ends when the body is no property. The parts are read one after the
  other, and a part that is not there is passed over, so reading goes on as long as the grammar
  does.

  Proved: a body that has a designator is read to the end of its longest beginning that is the body
  of a property, and what is found behind it is told (`read_unexpected`). A body without a
  designator has no such beginning, and is read to the end of its operator (`read_nameExpected`).
  Unless the body ends where its designator should be, there is a character at the place of the
  fault (`offset_lt_of_read`).
-/

namespace EventTemplate

/-- The length of the operator of a body, if it has one. -/
def operatorLength : List Char → Nat
  | '@' :: _ => 1
  | '$' :: _ => 1
  | _ => 0

/-- Behind its operator, if it has one, a body ends or goes on with a comma or a colon. -/
def Nameless (cs : List Char) : Prop :=
  ∀ c ∈ (cs.drop (operatorLength cs)).head?, c = ',' ∨ c = ':'

/-- The lengths of the beginnings of a body that are bodies of properties. -/
def properLengths (cs : List Char) : Set Nat :=
  {n | n ≤ cs.length ∧ ∃ p, PropertyForm (cs.take n) p}

/-- A body can be read up to the end of its longest beginning that is the body of a property or, if
it has none, up to the end of its operator. -/
def ReadsUpTo (cs : List Char) (n : Nat) : Prop :=
  IsGreatest (properLengths cs) n ∨ properLengths cs = ∅ ∧ n = operatorLength cs

/-- The character at the place of a fault, if there is one. -/
def BodyFault.found? : BodyFault → Option Char
  | nameExpected _ found => found
  | unexpected _ found => some found

variable {cs front rest as fs : List Char} {p : Property} {a : Option Int} {f : Option String}

/-! ## Operators -/

theorem readOperator_eq_drop (cs : List Char) :
    (Body.readOperator cs).2 = cs.drop (operatorLength cs) := by
  unfold Body.readOperator
  split
  · rfl
  · rfl
  · rename_i h₁ h₂
    have hnone : operatorLength cs = 0 := by
      unfold operatorLength
      split
      · exact absurd rfl (h₁ _)
      · exact absurd rfl (h₂ _)
      · rfl
    rw [hnone]
    rfl

theorem operatorLength_le (cs : List Char) : operatorLength cs ≤ cs.length := by
  unfold operatorLength
  split
  · exact Nat.le_add_left 1 _
  · exact Nat.le_add_left 1 _
  · exact Nat.zero_le _

theorem lacksName_iff (cs : List Char) : Body.lacksName cs = true ↔ Nameless cs := by
  unfold Body.lacksName Nameless
  rw [readOperator_eq_drop]
  cases cs.drop (operatorLength cs) <;> simp

/-- The grammar derives no body without a designator. -/
theorem Nameless.not_form (h : Nameless cs) (p : Property) : ¬ PropertyForm cs p := by
  intro hp
  have hlacks := hp.lacksName
  rw [(lacksName_iff cs).mpr h] at hlacks
  cases hlacks

/-! ## No beginning is longer than what is read -/

theorem readFormat_colon (cs : List Char) : Body.readFormat (':' :: cs) =
    if (cs.takeWhile (· ≠ '}')).isEmpty then (none, ':' :: cs)
    else (some (cs.takeWhile (· ≠ '}')), cs.dropWhile (· ≠ '}')) :=
  rfl

theorem readAlignment_comma (cs : List Char) : Body.readAlignment (',' :: cs) =
    if ((Body.readMinus cs).2.takeWhile Char.isDigit).isEmpty then (none, ',' :: cs)
    else (some ((Body.readMinus cs).1 ++ (Body.readMinus cs).2.takeWhile Char.isDigit),
      (Body.readMinus cs).2.dropWhile Char.isDigit) :=
  rfl

theorem length_readFormat_le (cs : List Char) : (Body.readFormat cs).2.length ≤ cs.length := by
  unfold Body.readFormat
  split
  · dsimp only
    split
    · exact Nat.le_refl _
    · exact Nat.le_trans (List.dropWhile_sublist _).length_le (Nat.le_succ _)
  · exact Nat.le_refl _

theorem length_readAlignment_le (cs : List Char) :
    (Body.readAlignment cs).2.length ≤ cs.length := by
  obtain ⟨as, has, _⟩ := readAlignment_sound cs
  have hlength := congrArg List.length has
  rw [List.length_append] at hlength
  omega

/-- Characters of one kind are read, if there are any, and whatever follows is not more than
before. -/
theorem dropWhile_of_front {q : Char → Bool} (hne : front ≠ []) (hq : ∀ c ∈ front, q c = true)
    (rest : List Char) :
    ¬ ((front ++ rest).takeWhile q).isEmpty = true ∧
      ((front ++ rest).dropWhile q).length ≤ rest.length := by
  rw [List.takeWhile_append_of_pos hq, List.dropWhile_append_of_pos hq]
  exact ⟨by simp [hne], (List.dropWhile_sublist _).length_le⟩

theorem length_readFormat_append_le (h : FormatForm fs f) (rest : List Char) :
    (Body.readFormat (fs ++ rest)).2.length ≤ rest.length := by
  cases h with
  | none => exact length_readFormat_le rest
  | some hne hb =>
    have hq := dropWhile_of_front hne (fun c hc => decide_eq_true (hb c hc).2) rest
    rw [List.cons_append, readFormat_colon, if_neg hq.1]
    exact hq.2

theorem length_readAlignment_append_le (h : AlignmentForm as a) (rest : List Char) :
    (Body.readAlignment (as ++ rest)).2.length ≤ rest.length := by
  cases h with
  | none => exact length_readAlignment_le rest
  | positive hd =>
    have hq := dropWhile_of_front hd.ne_nil hd.digits rest
    rw [List.cons_append, readAlignment_comma, readMinus_of_numeral hd, if_neg hq.1]
    exact hq.2
  | @negative ds hd =>
    have hq := dropWhile_of_front hd.ne_nil hd.digits rest
    have hminus : Body.readMinus ('-' :: (ds ++ rest)) = (['-'], ds ++ rest) := rfl
    rw [List.cons_append, List.cons_append, readAlignment_comma, hminus, if_neg hq.1]
    exact hq.2

/-- Of an alignment and a format everything is read. -/
theorem length_readFormat_readAlignment_le (ha : AlignmentForm as a) (hf : FormatForm fs f)
    (rest : List Char) :
    (Body.readFormat (Body.readAlignment (as ++ (fs ++ rest))).2).2.length ≤ rest.length := by
  cases hf with
  | none =>
    exact Nat.le_trans (length_readFormat_le _) (length_readAlignment_append_le ha rest)
  | some hne hb =>
    -- the colon of the format ends the alignment
    rw [readAlignment_complete ha fun c hc => by cases hc; rfl]
    exact length_readFormat_append_le (.some hne hb) rest

/-- Of the body of a property everything is read, whatever follows it. -/
theorem PropertyForm.length_left_le (h : PropertyForm front p) (rest : List Char) :
    (Body.left (front ++ rest)).length ≤ rest.length := by
  cases h with
  | @intro ds as fs _ _ _ operator hd ha hf =>
    unfold Body.left
    rw [List.append_assoc, List.append_assoc, readOperator_complete operator (hd.head? _)]
    dsimp only
    rw [List.dropWhile_append_of_pos hd.isWordChar, List.append_assoc]
    by_cases hparts : as ++ fs = []
    · -- the designator comes last, and may go on in what follows
      obtain ⟨rfl, rfl⟩ := List.append_eq_nil_iff.mp hparts
      rw [List.nil_append, List.nil_append]
      refine Nat.le_trans (length_readFormat_le _) (Nat.le_trans (length_readAlignment_le _) ?_)
      exact (List.dropWhile_sublist _).length_le
    · have hstop : (as ++ (fs ++ rest)).dropWhile Body.isWordChar = as ++ (fs ++ rest) := by
        obtain ⟨c, more, hc⟩ := List.exists_cons_of_ne_nil hparts
        have hword := ha.isWordChar_head? hf c (by rw [hc]; rfl)
        rw [← List.append_assoc, hc, List.cons_append, List.dropWhile_cons_of_neg (by simp [hword])]
      rw [hstop]
      exact length_readFormat_readAlignment_le ha hf rest

/-- A body with a beginning that is the body of a property has a designator. -/
theorem PropertyForm.designator_ne_nil (h : PropertyForm front p) (rest : List Char) :
    (Body.parts (front ++ rest)).designator ≠ [] := by
  cases h with
  | @intro ds as fs _ _ _ operator hd ha hf =>
    unfold Body.parts
    rw [List.append_assoc, List.append_assoc, readOperator_complete operator (hd.head? _)]
    dsimp only
    rw [List.takeWhile_append_of_pos hd.isWordChar]
    exact List.append_ne_nil_of_left_ne_nil hd.ne_nil _

/-! ## Faults -/

/-- All that reading a faulty body can tell. -/
theorem read_error_cases {fault : BodyFault} (h : Body.read cs = .error fault) :
    (Body.parts cs).designator = [] ∧
      fault = .nameExpected (operatorLength cs) cs[operatorLength cs]? ∨
    (Body.parts cs).designator ≠ [] ∧
      ∃ c more, Body.left cs = c :: more ∧
        fault = .unexpected (cs.length - (Body.left cs).length) c := by
  rw [read_eq] at h
  split at h
  · rename_i hempty
    refine .inl ⟨List.isEmpty_iff.mp hempty, ?_⟩
    have hle := operatorLength_le cs
    have hlength : cs.length - (cs.drop (operatorLength cs)).length = operatorLength cs := by
      rw [List.length_drop]
      omega
    rw [readOperator_eq_drop, hlength, List.head?_drop] at h
    cases h
    rfl
  · rename_i hne
    split at h
    · cases h
    · rename_i c more hleft
      cases h
      exact .inr ⟨by simpa using hne, c, more, hleft, rfl⟩

/-- A body without a designator has no beginning that is the body of a property. -/
theorem read_nameExpected {n : Nat} {found : Option Char}
    (h : Body.read cs = .error (.nameExpected n found)) :
    properLengths cs = ∅ ∧ n = operatorLength cs ∧ found = cs[n]? := by
  rcases read_error_cases h with ⟨hnone, hfault⟩ | ⟨_, _, _, _, hfault⟩
  · cases hfault
    refine ⟨Set.eq_empty_iff_forall_notMem.mpr ?_, rfl, rfl⟩
    rintro m ⟨_, p, hp⟩
    have hsome := hp.designator_ne_nil (cs.drop m)
    rw [List.take_append_drop] at hsome
    exact hsome hnone
  · cases hfault

/-- A body with a designator is read to the end of its longest beginning that is the body of a
property. -/
theorem read_unexpected {n : Nat} {found : Char} (hb : Braceless cs)
    (h : Body.read cs = .error (.unexpected n found)) :
    IsGreatest (properLengths cs) n ∧ cs[n]? = some found := by
  rcases read_error_cases h with ⟨_, hfault⟩ | ⟨hsome, c, more, hleft, hfault⟩
  · cases hfault
  · obtain ⟨front, hfront, hform⟩ := exists_front hb hsome
    have hlength : cs.length = front.length + (Body.left cs).length := by
      rw [← List.length_append, ← hfront]
    have hn : n = front.length := by
      cases hfault
      omega
    have htake : cs.take front.length = front := by
      conv_lhs => rw [hfront]
      exact List.take_left
    have hfound : found = c := by
      cases hfault
      rfl
    subst hn hfound
    refine ⟨⟨⟨by omega, _, by rw [htake]; exact hform⟩, ?_⟩, ?_⟩
    · rintro m ⟨hm, p, hp⟩
      have hle := hp.length_left_le (cs.drop m)
      rw [List.take_append_drop, List.length_drop] at hle
      omega
    · rw [hfront, hleft, List.getElem?_append_right (Nat.le_refl _), Nat.sub_self]
      rfl

/-- A faulty body is read as far as the grammar goes, and the character behind that is told. -/
theorem readsUpTo_of_read {fault : BodyFault} (hb : Braceless cs)
    (h : Body.read cs = .error fault) :
    ReadsUpTo cs fault.offset ∧ cs[fault.offset]? = fault.found? := by
  cases fault with
  | nameExpected n found =>
    obtain ⟨hnone, hn, hfound⟩ := read_nameExpected h
    exact ⟨.inr ⟨hnone, hn⟩, hfound.symm⟩
  | unexpected n found =>
    obtain ⟨hgreatest, hfound⟩ := read_unexpected hb h
    exact ⟨.inl hgreatest, hfound⟩

/-- A body that does not end where its designator should be is faulty at one of its characters. -/
theorem offset_lt_of_read {fault : BodyFault} (hn : ¬ Nameless cs)
    (h : Body.read cs = .error fault) : fault.offset < cs.length := by
  rcases read_error_cases h with ⟨_, rfl⟩ | ⟨hsome, c, more, hleft, rfl⟩
  · by_contra hle
    have hdrop : cs.drop (operatorLength cs) = [] := List.drop_eq_nil_of_le (Nat.le_of_not_lt hle)
    refine hn fun c hc => ?_
    rw [hdrop] at hc
    cases hc
  · have hpos : 0 < cs.length := by
      refine List.length_pos_iff.mpr fun hnil => hsome ?_
      rw [hnil]
      rfl
    rw [BodyFault.offset, hleft]
    exact Nat.sub_lt hpos (Nat.succ_pos _)

theorem exists_found {fault : BodyFault} (hn : ¬ Nameless cs) (h : Body.read cs = .error fault) :
    ∃ c, fault.found? = some c := by
  cases fault with
  | nameExpected n found =>
    have hlt : n < cs.length := offset_lt_of_read hn h
    obtain ⟨_, _, hfound⟩ := read_nameExpected h
    rw [List.getElem?_eq_getElem hlt] at hfound
    exact ⟨_, hfound⟩
  | unexpected n found => exact ⟨found, rfl⟩

end EventTemplate
