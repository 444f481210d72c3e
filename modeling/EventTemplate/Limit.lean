/-
  The limits that machine words and memory set.
-/

namespace EventTemplate

/-- The greatest number that a signed machine word holds: no text is longer and no store larger. -/
def greatestSize : Nat := Nat.pow 2 63 - 1

/-- Whether a signed machine word holds a number. -/
def fitsWord (n : Int) : Bool :=
  -(greatestSize : Int) - 1 ≤ n && n ≤ greatestSize

/-- What is said of a position that no machine word holds. -/
def tooFarMessage : String := "cannot fit 'int' into an index-sized integer"

/-- What is said of a size beyond that limit. -/
def tooLargeMessage : String := "Python int too large to convert to C ssize_t"

/-- The longest filling that memory usually has room for. -/
def usualRoom : Nat := Nat.pow 2 28

end EventTemplate
