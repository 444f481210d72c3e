import EventTemplate.Token.Scan

/-
  Rows of equal characters. A row is a character as often as it stands in a row, from where it
  starts. The rows of a text, each as long as it can be, are counted from the left.

  Proved: the rows are there and there are no others (`mem_rowsFrom_iff`), and one behind the other
  they are the text (`flatMap_rowsFrom`). An induction over a text a row at a time goes by
  `row_induction`.
-/

namespace EventTemplate

/-- A row of one character: where it starts, and how often the character stands there. -/
structure Row where
  start : Nat
  char : Char
  length : Nat
  deriving DecidableEq, Repr

def Row.chars (r : Row) : List Char :=
  List.replicate r.length r.char

/-- The position of the last character of a row. -/
def Row.last (r : Row) : Nat :=
  r.start + r.length - 1

/-- The rows of the characters from position `start` on. -/
def rowsFrom (start : Nat) : List Char → List Row
  | [] => []
  | c :: cs =>
    let length := (cs.takeWhile (· = c)).length + 1
    ⟨start, c, length⟩ :: rowsFrom (start + length) (cs.dropWhile (· = c))
termination_by cs => cs.length
decreasing_by
  have hle := (List.dropWhile_sublist (· = c) (l := cs)).length_le
  rw [List.length_cons]
  omega

def rows (raw : String) : List Row :=
  rowsFrom 0 raw.toList

/-- The row stands among characters that begin at position `n`, and reaches as far as it can on both
sides. -/
def Row.Maximal (n : Nat) (cs : List Char) (r : Row) : Prop :=
  0 < r.length ∧ ∃ before after, cs = before ++ (r.chars ++ after) ∧ r.start = n + before.length ∧
    before.getLast? ≠ some r.char ∧ after.head? ≠ some r.char

/-! ## A row at a time -/

theorem takeWhile_eq_replicate (c : Char) (cs : List Char) :
    cs.takeWhile (· = c) = List.replicate (cs.takeWhile (· = c)).length c := by
  refine List.eq_replicate_iff.mpr ⟨rfl, fun d hd => ?_⟩
  simpa using List.all_eq_true.mp List.all_takeWhile d hd

theorem head?_dropWhile_ne (c : Char) (cs : List Char) :
    (cs.dropWhile (· = c)).head? ≠ some c := by
  intro h
  have hnot := List.head?_dropWhile_not (· = c) cs
  rw [h] at hnot
  simp at hnot

/-- The first row of a text. -/
theorem exists_row (c : Char) (cs : List Char) :
    ∃ k rest, c :: cs = List.replicate (k + 1) c ++ rest ∧ rest.head? ≠ some c := by
  refine ⟨(cs.takeWhile (· = c)).length, cs.dropWhile (· = c), ?_, head?_dropWhile_ne c cs⟩
  rw [List.replicate_succ, List.cons_append, ← takeWhile_eq_replicate,
    List.takeWhile_append_dropWhile]

/-- What holds of no characters, and with what follows a row also with the row, holds of all
characters. -/
@[elab_as_elim]
theorem row_induction {motive : List Char → Prop} (nil : motive [])
    (row : ∀ c k rest, rest.head? ≠ some c → motive rest →
      motive (List.replicate (k + 1) c ++ rest)) (cs : List Char) : motive cs := by
  induction hlen : cs.length using Nat.strongRecOn generalizing cs with
  | ind m ih =>
    cases cs with
    | nil => exact nil
    | cons c cs =>
      obtain ⟨k, rest, hcs, hrest⟩ := exists_row c cs
      have hlt : rest.length < m := by
        rw [← hlen, hcs, List.length_append, List.length_replicate]
        omega
      rw [hcs]
      exact row c k rest hrest (ih rest.length hlt rest rfl)

/-- The rows of a text whose first row is given. -/
theorem rowsFrom_row (n : Nat) {c : Char} {rest : List Char} (hrest : rest.head? ≠ some c)
    (k : Nat) : rowsFrom n (List.replicate (k + 1) c ++ rest) =
      ⟨n, c, k + 1⟩ :: rowsFrom (n + (k + 1)) rest := by
  have hstop : rest.takeWhile (· = c) = [] ∧ rest.dropWhile (· = c) = rest := by
    cases rest with
    | nil => exact ⟨rfl, rfl⟩
    | cons d rest =>
      have hd : ¬ d = c := fun h => hrest (congrArg some h)
      simp [hd]
  have htake : (List.replicate k c ++ rest).takeWhile (· = c) = List.replicate k c := by
    rw [List.takeWhile_append_of_pos (by simp), hstop.1, List.append_nil]
  have hdrop : (List.replicate k c ++ rest).dropWhile (· = c) = rest := by
    rw [List.dropWhile_append_of_pos (by simp), hstop.2]
  rw [List.replicate_succ, List.cons_append, rowsFrom, htake, hdrop, List.length_replicate]

/-! ## All rows, and no others -/

theorem flatMap_rowsFrom (n : Nat) (cs : List Char) :
    (rowsFrom n cs).flatMap Row.chars = cs := by
  induction cs using row_induction generalizing n with
  | nil => rw [rowsFrom]; rfl
  | row c k rest hrest ih =>
    rw [rowsFrom_row n hrest, List.flatMap_cons, ih]
    rfl

/-- Two rows at the same place, with other characters behind them, are the same. -/
theorem replicate_append_cancel {c d : Char} {k l : Nat} {xs ys : List Char}
    (hx : xs.head? ≠ some c) (hy : ys.head? ≠ some d)
    (h : List.replicate (k + 1) c ++ xs = List.replicate (l + 1) d ++ ys) :
    c = d ∧ k = l ∧ xs = ys := by
  have hcd : c = d := List.head_eq_of_cons_eq h
  subst hcd
  refine ⟨rfl, ?_⟩
  have htail : List.replicate k c ++ xs = List.replicate l c ++ ys := List.tail_eq_of_cons_eq h
  clear h
  induction k generalizing l with
  | zero =>
    cases l with
    | zero => exact ⟨rfl, htail⟩
    | succ l =>
      rw [List.replicate_succ] at htail
      exact absurd (congrArg List.head? htail) hx
  | succ k ih =>
    cases l with
    | zero =>
      rw [List.replicate_succ] at htail
      exact absurd (congrArg List.head? htail.symm) hy
    | succ l =>
      obtain ⟨hkl, hrest⟩ := ih (List.tail_eq_of_cons_eq htail)
      exact ⟨congrArg (· + 1) hkl, hrest⟩

theorem Row.Maximal.cons {n k : Nat} {c : Char} {rest : List Char} {r : Row}
    (hrest : rest.head? ≠ some c) (h : r.Maximal (n + (k + 1)) rest) :
    r.Maximal n (List.replicate (k + 1) c ++ rest) := by
  obtain ⟨start, d, length⟩ := r
  obtain ⟨hpos, before, after, rfl, hstart, hbefore, hafter⟩ := h
  obtain ⟨l, rfl⟩ : ∃ l, length = l + 1 := ⟨length - 1, (Nat.sub_add_cancel hpos).symm⟩
  have hplace : start = n + (List.replicate (k + 1) c ++ before).length := by
    rw [List.length_append, List.length_replicate, ← Nat.add_assoc]
    exact hstart
  refine ⟨hpos, List.replicate (k + 1) c ++ before, after, by rw [List.append_assoc], hplace, ?_,
    hafter⟩
  intro hlast
  rw [List.getLast?_append, Option.or_eq_some_iff] at hlast
  rcases hlast with hlast | ⟨hnil, hlast⟩
  · exact hbefore hlast
  · -- the row comes first in the rest, which does not begin with the character before it
    rw [List.getLast?_eq_none_iff.mp hnil] at hrest
    rw [List.getLast?_replicate] at hlast
    exact hrest hlast.symm

theorem Row.Maximal.of_cons {n k : Nat} {c : Char} {rest : List Char} {r : Row}
    (hrest : rest.head? ≠ some c) (h : r.Maximal n (List.replicate (k + 1) c ++ rest)) :
    r = ⟨n, c, k + 1⟩ ∨ r.Maximal (n + (k + 1)) rest := by
  obtain ⟨start, d, length⟩ := r
  obtain ⟨hpos, before, after, heq, hstart, hbefore, hafter⟩ := h
  obtain ⟨l, rfl⟩ : ∃ l, length = l + 1 := ⟨length - 1, (Nat.sub_add_cancel hpos).symm⟩
  rcases List.append_eq_append_iff.mp heq with ⟨between, rfl, rfl⟩ | ⟨between, hrow, hfollow⟩
  · have hplace : start = n + (k + 1) + between.length := by
      rw [List.length_append, List.length_replicate, ← Nat.add_assoc] at hstart
      exact hstart
    refine .inr ⟨hpos, between, after, rfl, hplace, fun hlast => hbefore ?_, hafter⟩
    rw [List.getLast?_append, hlast]
    rfl
  · cases between with
    | nil =>
      have hlength := congrArg List.length hrow
      rw [List.append_nil, List.length_replicate] at hlength
      have hplace : start = n + (k + 1) + ([] : List Char).length := by rw [hlength]; exact hstart
      exact .inr ⟨hpos, [], after, hfollow.symm, hplace, nofun, hafter⟩
    | cons b between =>
      -- the two rows share a character, so the second one cannot begin inside of the first
      have hb : b = d := (List.head_eq_of_cons_eq hfollow).symm
      have hmem : ∀ a ∈ before ++ b :: between, a = c := by
        rw [← hrow]
        exact fun a ha => List.eq_of_mem_replicate ha
      have hcd : c = d := by
        rw [← hb]
        exact (hmem b (List.mem_append_right _ List.mem_cons_self)).symm
      cases hlast : before.getLast? with
      | some a =>
        have ha := hmem a (List.mem_append_left _ (List.mem_of_getLast? hlast))
        rw [hlast, ha, hcd] at hbefore
        exact absurd rfl hbefore
      | none =>
        rw [List.getLast?_eq_none_iff.mp hlast] at heq hstart
        obtain ⟨rfl, rfl, _⟩ := replicate_append_cancel hrest hafter heq
        exact .inl (congrArg (Row.mk · c (k + 1)) hstart)

/-- A row is counted if it is one that reaches as far as it can. -/
theorem mem_rowsFrom_iff (n : Nat) (cs : List Char) (r : Row) :
    r ∈ rowsFrom n cs ↔ r.Maximal n cs := by
  induction cs using row_induction generalizing n with
  | nil =>
    have hnone : ¬ r.Maximal n [] := by
      rintro ⟨hpos, before, after, heq, _⟩
      have hlength := congrArg List.length heq
      rw [List.length_append, List.length_append, Row.chars, List.length_replicate,
        List.length_nil] at hlength
      omega
    rw [rowsFrom]
    exact iff_of_false List.not_mem_nil hnone
  | row c k rest hrest ih =>
    rw [rowsFrom_row n hrest, List.mem_cons, ih]
    constructor
    · rintro (rfl | h)
      · exact ⟨Nat.succ_pos k, [], rest, rfl, rfl, nofun, hrest⟩
      · exact h.cons hrest
    · exact Row.Maximal.of_cons hrest

end EventTemplate
