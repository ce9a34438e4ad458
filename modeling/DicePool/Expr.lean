import DicePool.Operator

/-!
# Expressions

An expression is a tree of numbers, signs and operators. It is written with every
compound in parentheses, so its grouping shows.
-/

namespace DicePool

/-- An expression in dice notation. -/
inductive Expr where
  /-- A number. -/
  | number (value : Int64)
  /-- An operand behind a minus. -/
  | negative (operand : Expr)
  /-- An operator between two operands. -/
  | binary (left : Expr) (op : Operator) (right : Expr)
deriving DecidableEq

namespace Expr

/-- The written expression with `behind` after it. Everything but numbers stands in
parentheses. -/
def renderOnto (behind : List Char) : Expr → List Char
  | number value => Decimal.ofInt64 value ++ behind
  | negative operand => '(' :: '-' :: operand.renderOnto (')' :: behind)
  | binary left op right =>
    '(' :: left.renderOnto (op.letters ++ right.renderOnto (')' :: behind))

/-- The written expression. -/
def render (expr : Expr) : List Char := expr.renderOnto []

/-- Rendering in front of a text puts the rendered expression before it. -/
theorem renderOnto_eq (expr : Expr) (behind : List Char) :
    expr.renderOnto behind = expr.render ++ behind := by
  unfold render
  induction expr generalizing behind with
  | number value => simp [renderOnto]
  | negative operand ih =>
    rw [renderOnto, renderOnto, ih, ih [')']]
    simp
  | binary left op right ihl ihr =>
    rw [renderOnto, renderOnto, ihl, ihr, ihl (op.letters ++ _), ihr [')']]
    simp

/-- A number is rendered in decimal. -/
theorem render_number (value : Int64) : (number value).render = Decimal.ofInt64 value := by
  simp [render, renderOnto]

/-- A negated operand is rendered in parentheses behind its sign. -/
theorem render_negative (operand : Expr) :
    (negative operand).render = ['(', '-'] ++ operand.render ++ [')'] := by
  simp [render, renderOnto, renderOnto_eq operand [')']]

/-- An operation is rendered in parentheses with its operator between the operands. -/
theorem render_binary (left : Expr) (op : Operator) (right : Expr) :
    (binary left op right).render =
      ['('] ++ left.render ++ op.letters ++ right.render ++ [')'] := by
  rw [render, renderOnto, renderOnto_eq left, renderOnto_eq right]
  simp

/-- The text of an expression. -/
def text (expr : Expr) : String := String.ofList expr.render

end Expr

end DicePool
