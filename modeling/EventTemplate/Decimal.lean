/-
  Whole numbers in decimal digits. Reading and writing many digits takes long, so there is a limit:
  a number with more digits is neither read nor written.
-/

namespace EventTemplate

/-- Why a number is not read, or not written. -/
inductive DecimalError where
  /-- There are that many digits to read. -/
  | tooLong (digits : Nat)
  /-- The number has too many digits to be written. -/
  | tooGreat
  deriving DecidableEq, Repr

namespace Decimal

/-- The greatest count of digits; leading zeros count. -/
def mostDigits : Nat := 4300

/-- The number that digits stand for, given by their values. -/
def ofDigits (digits : List Nat) : Except DecimalError Nat :=
  if mostDigits < digits.length then .error (.tooLong digits.length)
  else .ok (digits.foldl (fun n d => 10 * n + d) 0)

/-- The number that ASCII digits stand for. -/
def read (ds : List Char) : Except DecimalError Nat :=
  ofDigits (ds.map fun c => c.toNat - '0'.toNat)

/-- Whether a number can be written. -/
def Short (n : Nat) : Prop :=
  (Nat.toDigits 10 n).length ≤ mostDigits

instance (n : Nat) : Decidable (Short n) :=
  inferInstanceAs (Decidable (_ ≤ _))

/-- A number in digits, without leading zeros. -/
def print (n : Nat) : Except DecimalError String :=
  if Short n then .ok (toString n) else .error .tooGreat

/-- A number in digits, with a minus if it is negative. -/
def printInt (n : Int) : Except DecimalError String :=
  if Short n.natAbs then .ok (toString n) else .error .tooGreat

end Decimal

def DecimalError.message : DecimalError → String
  | tooLong digits => limit ++ ": value has " ++ toString digits ++ " digits" ++ advice
  | tooGreat => limit ++ advice
where
  limit := "Exceeds the limit (" ++ toString Decimal.mostDigits
    ++ " digits) for integer string conversion"
  advice := "; use sys.set_int_max_str_digits() to increase the limit"

namespace Decimal

theorem read_eq (ds : List Char) :
    read ds = if mostDigits < ds.length then .error (.tooLong ds.length)
      else .ok (Nat.ofDigitChars 10 ds 0) := by
  rw [read, ofDigits, List.length_map, List.foldl_map]
  rfl

theorem short_iff (n : Nat) : Short n ↔ n < Nat.pow 10 mostDigits := by
  rw [Short, Nat.length_toDigits_le_iff (by decide) (by decide), Nat.pow_eq]

/-- Digits stand for a number that has no more of them. -/
theorem ofDigitChars_lt {ds : List Char} (h : ∀ c ∈ ds, c.isDigit = true) :
    Nat.ofDigitChars 10 ds 0 < Nat.pow 10 ds.length := by
  induction ds with
  | nil => exact Nat.one_pos
  | cons d ds ih =>
    obtain ⟨hd, hds⟩ := List.forall_mem_cons.mp h
    have hrest := ih hds
    have hvalue : d.toNat - '0'.toNat ≤ 9 := by
      have hle := (Char.isDigit_iff_toNat.mp hd).2
      exact Nat.sub_le_sub_right hle _
    rw [Nat.pow_eq] at hrest
    have hhead : 10 ^ ds.length * (d.toNat - '0'.toNat) ≤ 10 ^ ds.length * 9 :=
      Nat.mul_le_mul_left _ hvalue
    rw [Nat.ofDigitChars_cons, Nat.mul_zero, Nat.zero_add,
      Nat.ofDigitChars_eq_ofDigitChars_zero, List.length_cons, Nat.pow_eq, Nat.pow_succ]
    omega

/-- What is read can be written. -/
theorem short_ofDigitChars {ds : List Char} (h : ∀ c ∈ ds, c.isDigit = true)
    (hlength : ds.length ≤ mostDigits) : Short (Nat.ofDigitChars 10 ds 0) := by
  have hlt := ofDigitChars_lt h
  rw [Nat.pow_eq] at hlt
  rw [short_iff, Nat.pow_eq]
  exact Nat.lt_of_lt_of_le hlt (Nat.pow_le_pow_right (by decide) hlength)

theorem print_of_short {n : Nat} (h : Short n) : print n = .ok (toString n) :=
  if_pos h

theorem printInt_of_short {n : Int} (h : Short n.natAbs) : printInt n = .ok (toString n) :=
  if_pos h

end Decimal

end EventTemplate
