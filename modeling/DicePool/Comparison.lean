/-!
# Cutoffs

A drawn value hits a cutoff when it reaches it from the tested side; the cutoff
itself is a hit on either side.
-/

namespace DicePool

/-- The side of a cutoff on which values are hits. -/
inductive Comparison where
  /-- At the cutoff or above it. -/
  | above
  /-- At the cutoff or under it. -/
  | under
deriving DecidableEq

/-- Whether `value` is a hit. -/
def Comparison.holds : Comparison → Int64 → Int64 → Bool
  | .above, value, cutoff => cutoff ≤ value
  | .under, value, cutoff => value ≤ cutoff

end DicePool
