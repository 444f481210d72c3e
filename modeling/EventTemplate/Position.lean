/-
  Positions in a list that may also count from its end: the last item is at position -1, the one
  before it at -2 and so on.
-/

namespace EventTemplate

/-- The place, counted from the front, of a position among `count` items. -/
def placeOf? (count : Nat) (position : Int) : Option Nat :=
  let place := if 0 ≤ position then position else count + position
  if 0 ≤ place ∧ place < count then some place.toNat else none

/-- The item at a position. -/
def itemAt? {α : Type} (xs : List α) (position : Int) : Option α :=
  (placeOf? xs.length position).bind (xs[·]?)

theorem itemAt?_natCast {α : Type} (xs : List α) (n : Nat) : itemAt? xs n = xs[n]? := by
  unfold itemAt? placeOf?
  rcases Nat.lt_or_ge n xs.length with h | h
  · simp [h]
  · simp [Nat.not_lt.mpr h]

theorem itemAt?_map {α β : Type} (f : α → β) (xs : List α) (position : Int) :
    itemAt? (xs.map f) position = (itemAt? xs position).map f := by
  unfold itemAt?
  rw [List.length_map, Option.map_bind]
  exact congrArg _ (funext fun _ => List.getElem?_map)

end EventTemplate
