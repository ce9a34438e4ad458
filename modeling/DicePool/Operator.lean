import DicePool.Arithmetic
import DicePool.Comparison
import DicePool.Selection

/-!
# Operators

The eighteen signs that join two expressions, with their spelling and with the
strength by which they hold their operands.
-/

namespace DicePool

/-- The signs that join two expressions. -/
inductive Operator where
  /-- A number of dice with so many sides. -/
  | dice
  /-- Arithmetic between whole pools. -/
  | arithmetic (op : Arithmetic)
  /-- Arithmetic on every slot of a pool. -/
  | bonus (op : Arithmetic)
  /-- Drawing again and adding, as long as the draws are hits. -/
  | explode (cmp : Comparison)
  /-- Keeping some of the slots. -/
  | keep (selection : Selection)
  /-- Another slot for every hit. -/
  | again (cmp : Comparison)
  /-- Counting the hits. -/
  | threshold (cmp : Comparison)
  /-- Rolling the left side several times. -/
  | repetition
deriving DecidableEq

/-- The bare sign of an arithmetic operation. -/
def Arithmetic.sign : Arithmetic → Char
  | .add => '+'
  | .subtract => '-'
  | .multiply => '*'
  | .divide => '/'

namespace Operator

/-- Every operator once. -/
def all : List Operator :=
  [dice,
    arithmetic .add, arithmetic .subtract, arithmetic .multiply, arithmetic .divide,
    bonus .add, bonus .subtract, bonus .multiply, bonus .divide,
    explode .above, explode .under, keep .highest, keep .lowest,
    again .above, again .under, threshold .above, threshold .under, repetition]

/-- The characters of an operator. Spaces around a sign belong to it. -/
def letters : Operator → List Char
  | dice => ['d']
  | arithmetic op => [' ', op.sign, ' ']
  | bonus op => [op.sign]
  | explode .above => ['E']
  | explode .under => ['e']
  | keep .highest => ['K']
  | keep .lowest => ['k']
  | again .above => ['A']
  | again .under => ['a']
  | threshold .above => ['T']
  | threshold .under => ['t']
  | repetition => [' ', 'x', ' ']

/-- The text of an operator. -/
def spelling (op : Operator) : String := String.ofList op.letters

/-- How tightly an operator holds its left operand. -/
def power : Operator → Nat
  | repetition => 5
  | arithmetic .add | arithmetic .subtract => 10
  | arithmetic .multiply | arithmetic .divide => 15
  | bonus _ => 20
  | dice | explode _ | keep _ | again _ | threshold _ => 30

/-- The strength with which the operand of a leading sign is read: exactly the dice
operators hold tighter. -/
def leadingPower : Nat := 29

/-- The strength with which the right operand is read. Dice operators group to the right,
so they admit their own strength there; all others group to the left. -/
def rightPower : Operator → Nat
  | dice | explode _ | keep _ | again _ | threshold _ => leadingPower
  | op => op.power

/-- Every operator is listed. -/
theorem mem_all (op : Operator) : op ∈ all := by
  cases op with
  | dice => decide
  | arithmetic op => cases op <;> decide
  | bonus op => cases op <;> decide
  | explode cmp => cases cmp <;> decide
  | keep selection => cases selection <;> decide
  | again cmp => cases cmp <;> decide
  | threshold cmp => cases cmp <;> decide
  | repetition => decide

end Operator

end DicePool
