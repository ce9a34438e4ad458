/-!
# Selections

Keeping some of a pool: the drawn values are put in order, the wanted end first,
and the front of that order stays. Equal values stay in the order of the pool.
-/

namespace DicePool

/-- The end of the ordered values that is kept. -/
inductive Selection where
  /-- The highest values. -/
  | highest
  /-- The lowest values. -/
  | lowest
deriving DecidableEq

/-- Whether `left` is kept no later than `right`. -/
def Selection.prefers : Selection → Int64 → Int64 → Bool
  | .highest, left, right => right ≤ left
  | .lowest, left, right => left ≤ right

/-- The `count` most wanted entries by their values, most wanted first. -/
def Selection.take {α : Type} (selection : Selection) (count : Nat) (drawn : List (Int64 × α)) :
    List (Int64 × α) :=
  (drawn.mergeSort fun left right => selection.prefers left.1 right.1).take count

end DicePool
