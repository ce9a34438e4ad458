import DicePool.Text.Decimal

/-!
# Why a roll is refused

The causes that stop an evaluation, and their wording.
-/

namespace DicePool

/-- The causes that stop an evaluation. -/
inductive RollError where
  /-- The budget does not cover another roll. -/
  | tooManyRolls
  /-- A quotient has no value. -/
  | divideByZero
  /-- A result lies outside the 64-bit range. -/
  | overflow
  /-- A die needs between one and `2 ^ 32 - 1` sides. -/
  | invalidSides (sides : Int64)
deriving DecidableEq

/-- The sentence shown for a cause. -/
def RollError.message : RollError → String
  | .tooManyRolls => "too many dice rolled"
  | .divideByZero => "cannot divide by zero"
  | .overflow => "integer overflow"
  | .invalidSides sides =>
    "a die cannot have " ++ String.ofList (Decimal.ofInt64 sides) ++ " sides"

end DicePool
