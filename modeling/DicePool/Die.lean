import DicePool.Expr.Parser

/-!
# Dice

A die says how to roll: how a pool is built and what each of its slots draws. An
expression stands for a die, operator by operator.
-/

namespace DicePool

/-- A rule for rolling a pool. -/
inductive Die where
  /-- One slot with a fixed value. -/
  | constant (value : Int64)
  /-- `count` faces of `sides` sides. -/
  | dice (count sides : Die)
  /-- Both pools. -/
  | add (left right : Die)
  /-- Both pools, the right one negated. -/
  | subtract (left right : Die)
  /-- The product of the totals. -/
  | multiply (left right : Die)
  /-- The quotient of the totals, rounded down. -/
  | divide (left right : Die)
  /-- Every slot negated. -/
  | negative (body : Die)
  /-- Every slot joined with a total of `amount` rolled for it alone. -/
  | bonus (op : Arithmetic) (body amount : Die)
  /-- Every slot drawn again and added, as long as the draws are hits. -/
  | explode (cmp : Comparison) (cutoff body : Die)
  /-- The `count` most wanted slots. -/
  | keep (selection : Selection) (count body : Die)
  /-- Another slot for every hit. -/
  | again (cmp : Comparison) (cutoff body : Die)
  /-- One for every hit and zero for any other slot. -/
  | threshold (cmp : Comparison) (cutoff body : Die)
  /-- The pools of `count` rolls of the body. -/
  | repetition (body count : Die)
deriving DecidableEq

namespace Die

/-- The die that an operator makes of the dice on its two sides. -/
def binary (left : Die) : Operator → Die → Die
  | .dice, right => dice left right
  | .arithmetic .add, right => add left right
  | .arithmetic .subtract, right => subtract left right
  | .arithmetic .multiply, right => multiply left right
  | .arithmetic .divide, right => divide left right
  | .bonus op, right => bonus op left right
  | .explode cmp, right => explode cmp left right
  | .keep selection, right => keep selection left right
  | .again cmp, right => again cmp left right
  | .threshold cmp, right => threshold cmp left right
  | .repetition, right => repetition left right

/-- The die that an expression stands for. -/
def ofExpr : Expr → Die
  | .number value => constant value
  | .negative operand => negative (ofExpr operand)
  | .binary left op right => binary (ofExpr left) op (ofExpr right)

/-- The die that a text denotes. -/
def ofText (text : String) : Except ParseError Die := ofExpr <$> Expr.ofText text

end Die

end DicePool
