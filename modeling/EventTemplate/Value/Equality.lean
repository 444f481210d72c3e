import EventTemplate.Value.Basic

/-
  When two values are equal. Numbers compare by what they are worth, across kinds, and truth
  values count as 0 and 1; the order of a dictionary's entries does not matter; what is not a
  number, and a foreign object, equal only themselves.
-/

namespace EventTemplate

/-- Whether `±m · 2^e` is the whole number `n`. -/
def Double.isInt (negative : Bool) (m : Nat) (e : Int) (n : Int) : Bool :=
  let (num, den) := ratio m e
  (if negative then -(num : Int) else num) == n * den

/-- Whether two floating-point numbers are worth the same. -/
def Double.same : Double → Double → Bool
  | finite s m e, finite s' m' e' => m == m' && ((s == s' && e == e') || m == 0)
  | infinite s, infinite s' => s == s'
  | _, _ => false

/-- Whether a floating-point number is worth a whole number. -/
def Double.sameInt (x : Double) (n : Int) : Bool :=
  match x with
  | finite s m e => isInt s m e n
  | _ => false

namespace Value

/-- Equality of values that hold no others. -/
def sameLeaf : Value → Value → Bool
  | null, null => true
  | bool b, bool b' => b == b'
  | bool b, int n => ofBool b == n
  | int n, bool b => n == ofBool b
  | int n, int n' => n == n'
  | real x _, int n => x.sameInt n
  | int n, real x _ => x.sameInt n
  | real x _, bool b => x.sameInt (ofBool b)
  | bool b, real x _ => x.sameInt (ofBool b)
  | real .notANumber mark, real .notANumber mark' => mark == mark'
  | real x _, real x' _ => x.same x'
  | text s, text s' => s == s'
  | foreign _ mark, foreign _ mark' => mark == mark'
  | _, _ => false

mutual

/-- Whether two values are equal. -/
def same : Value → Value → Bool
  | list items, list items' => sameItems items items'
  | dict entries, dict entries' =>
    entries.length == entries'.length && sameEntries entries entries'
  | v, w => sameLeaf v w

/-- Whether two lists are equal item by item. -/
def sameItems : List Value → List Value → Bool
  | [], [] => true
  | v :: vs, w :: ws => same v w && sameItems vs ws
  | _, _ => false

/-- Whether every entry is found, with an equal value, among others. -/
def sameEntries : List (String × Value) → List (String × Value) → Bool
  | [], _ => true
  | (k, v) :: rest, others =>
    (match others.lookup k with
      | some w => same v w
      | none => false) && sameEntries rest others

end

end Value

end EventTemplate
