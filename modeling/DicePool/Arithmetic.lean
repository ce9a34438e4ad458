import DicePool.RollError

/-!
# Checked arithmetic

Values are 64-bit integers and never wrap: an operation whose exact result does
not fit is refused. Quotients are rounded toward negative infinity, by correcting
the truncated quotient of the machine.
-/

namespace DicePool

/-- The exact integer `n` as a 64-bit value, refused outside the range. -/
def fit (n : Int) : Except RollError Int64 :=
  if Int64.minValue.toInt ≤ n ∧ n ≤ Int64.maxValue.toInt then .ok (Int64.ofInt n)
  else .error .overflow

/-- The operations between two values. -/
inductive Arithmetic where
  /-- The sum. -/
  | add
  /-- The difference. -/
  | subtract
  /-- The product. -/
  | multiply
  /-- The quotient, rounded down. -/
  | divide
deriving DecidableEq

/-- Whether the truncated quotient of `left` by `right` lies above the exact one. -/
def truncatesUp (left right : Int64) : Bool :=
  left % right != 0 && decide (left < 0) != decide (right < 0)

/-- The quotient rounded down. The two pairs for which the machine's quotient is not
the exact one are refused before it is taken. -/
def floorQuotient (left right : Int64) : Except RollError Int64 :=
  if right = 0 then .error .divideByZero
  else if left = Int64.minValue ∧ right = -1 then .error .overflow
  else if truncatesUp left right then .ok (left / right - 1)
  else .ok (left / right)

/-- The exact result of an operation, or the reason why there is none. -/
def Arithmetic.apply : Arithmetic → Int64 → Int64 → Except RollError Int64
  | .add, left, right => fit (left.toInt + right.toInt)
  | .subtract, left, right => fit (left.toInt - right.toInt)
  | .multiply, left, right => fit (left.toInt * right.toInt)
  | .divide, left, right => floorQuotient left right

/-- The value with its sign turned around. -/
def negate (value : Int64) : Except RollError Int64 := fit (-value.toInt)

/-- The values added up from the left, every partial sum within the range. -/
def sum (values : List Int64) : Except RollError Int64 :=
  values.foldlM Arithmetic.add.apply 0

/-- A number fits a value exactly when it is that of the value. -/
theorem fit_eq_ok_iff {n : Int} {value : Int64} : fit n = .ok value ↔ value.toInt = n := by
  have low := value.le_toInt
  have high := value.toInt_lt
  have least : Int64.minValue.toInt = -2 ^ 63 := by decide
  have greatest : Int64.maxValue.toInt = 2 ^ 63 - 1 := by decide
  unfold fit
  split
  · rename_i inside
    constructor
    · rintro ⟨⟩
      exact Int64.toInt_ofInt_of_le (by omega) (by omega)
    · rintro rfl
      simp
  · rename_i outside
    constructor
    · intro h; cases h
    · rintro rfl
      omega

/-- The number of a value fits it. -/
theorem fit_toInt (value : Int64) : fit value.toInt = .ok value := fit_eq_ok_iff.2 rfl

end DicePool
