import DicePool.Die
import DicePool.Proofs.Reparsing

/-!
# Writing dice

Every die is written in dice notation with its operands in the order in which its operator takes
them. The spellings stand here once more, die by die, and not by way of the operators of
expressions: that they lead back to the same die says that nothing is swapped on the way through
cutting, parsing and the choice of the die.
-/

namespace DicePool.Die

/-- Two written operands with a spelling between them, in parentheses. -/
def group (left : List Char) (spelling : String) (right : List Char) : List Char :=
  ['('] ++ left ++ spelling.toList ++ right ++ [')']

/-- A die with every compound in parentheses. -/
def write : Die → List Char
  | constant value => Decimal.ofInt64 value
  | dice count sides => group count.write "d" sides.write
  | add left right => group left.write " + " right.write
  | subtract left right => group left.write " - " right.write
  | multiply left right => group left.write " * " right.write
  | divide left right => group left.write " / " right.write
  | negative body => ['(', '-'] ++ body.write ++ [')']
  | bonus .add body amount => group body.write "+" amount.write
  | bonus .subtract body amount => group body.write "-" amount.write
  | bonus .multiply body amount => group body.write "*" amount.write
  | bonus .divide body amount => group body.write "/" amount.write
  | explode .above cutoff body => group cutoff.write "E" body.write
  | explode .under cutoff body => group cutoff.write "e" body.write
  | keep .highest count body => group count.write "K" body.write
  | keep .lowest count body => group count.write "k" body.write
  | again .above cutoff body => group cutoff.write "A" body.write
  | again .under cutoff body => group cutoff.write "a" body.write
  | threshold .above cutoff body => group cutoff.write "T" body.write
  | threshold .under cutoff body => group cutoff.write "t" body.write
  | repetition body count => group body.write " x " count.write

/-- The text of a die. -/
def text (die : Die) : String := String.ofList die.write

/-- The constants of a die, from left to right. -/
def constants : Die → List Int64
  | constant value => [value]
  | negative body => body.constants
  | dice left right | add left right | subtract left right | multiply left right
  | divide left right | bonus _ left right | explode _ left right | keep _ left right
  | again _ left right | threshold _ left right | repetition left right =>
    left.constants ++ right.constants

/-- The expression that stands for a die. -/
def toExpr : Die → Expr
  | constant value => .number value
  | negative body => .negative body.toExpr
  | dice count sides => .binary count.toExpr .dice sides.toExpr
  | add left right => .binary left.toExpr (.arithmetic .add) right.toExpr
  | subtract left right => .binary left.toExpr (.arithmetic .subtract) right.toExpr
  | multiply left right => .binary left.toExpr (.arithmetic .multiply) right.toExpr
  | divide left right => .binary left.toExpr (.arithmetic .divide) right.toExpr
  | bonus op body amount => .binary body.toExpr (.bonus op) amount.toExpr
  | explode cmp cutoff body => .binary cutoff.toExpr (.explode cmp) body.toExpr
  | keep selection count body => .binary count.toExpr (.keep selection) body.toExpr
  | again cmp cutoff body => .binary cutoff.toExpr (.again cmp) body.toExpr
  | threshold cmp cutoff body => .binary cutoff.toExpr (.threshold cmp) body.toExpr
  | repetition body count => .binary body.toExpr .repetition count.toExpr

/-- The expression of a die stands for that die. -/
theorem ofExpr_toExpr (die : Die) : ofExpr die.toExpr = die := by
  induction die with
  | constant value => rfl
  | negative body ih => rw [toExpr, ofExpr, ih]
  | dice _ _ ihl ihr | add _ _ ihl ihr | subtract _ _ ihl ihr | multiply _ _ ihl ihr
  | divide _ _ ihl ihr | bonus _ _ _ ihl ihr | explode _ _ _ ihl ihr | keep _ _ _ ihl ihr
  | again _ _ _ ihl ihr | threshold _ _ _ ihl ihr | repetition _ _ ihl ihr =>
    rw [toExpr, ofExpr, ihl, ihr, binary]

/-- The operands of a die are those of its operator, in the same order. -/
theorem toExpr_binary (left : Die) (op : Operator) (right : Die) :
    (binary left op right).toExpr = .binary left.toExpr op right.toExpr := by
  cases op with
  | arithmetic op => cases op <;> rfl
  | dice | bonus _ | explode _ | keep _ | again _ | threshold _ | repetition => rfl

/-- No two expressions stand for the same die. -/
theorem toExpr_ofExpr (expr : Expr) : (ofExpr expr).toExpr = expr := by
  induction expr with
  | number value => rfl
  | negative operand ih => rw [ofExpr, toExpr, ih]
  | binary left op right ihl ihr => rw [ofExpr, toExpr_binary, ihl, ihr]

/-- A die has the numbers of its expression. -/
theorem constants_toExpr (die : Die) : die.toExpr.constants = die.constants := by
  induction die with
  | constant value => rfl
  | negative body ih => exact ih
  | dice _ _ ihl ihr | add _ _ ihl ihr | subtract _ _ ihl ihr | multiply _ _ ihl ihr
  | divide _ _ ihl ihr | bonus _ _ _ ihl ihr | explode _ _ _ ihl ihr | keep _ _ _ ihl ihr
  | again _ _ _ ihl ihr | threshold _ _ _ ihl ihr | repetition _ _ ihl ihr =>
    rw [toExpr, Expr.constants, constants, ihl, ihr]

/-- A die is written as its expression. -/
theorem render_toExpr (die : Die) : die.toExpr.render = die.write := by
  induction die with
  | constant value => exact Expr.render_number value
  | negative body ih => rw [toExpr, Expr.render_negative, ih, write]
  | dice _ _ ihl ihr | add _ _ ihl ihr | subtract _ _ ihl ihr | multiply _ _ ihl ihr
  | divide _ _ ihl ihr | repetition _ _ ihl ihr =>
    rw [toExpr, Expr.render_binary, ihl, ihr]
    rfl
  | bonus op _ _ ihl ihr | explode op _ _ ihl ihr | keep op _ _ ihl ihr | again op _ _ ihl ihr
  | threshold op _ _ ihl ihr =>
    rw [toExpr, Expr.render_binary, ihl, ihr]
    cases op <;> rfl

/-- Reading a die is reading its expression. -/
theorem ofText_eq_ok_iff {text : String} {die : Die} :
    ofText text = .ok die ↔ Expr.ofText text = .ok die.toExpr := by
  unfold ofText
  cases Expr.ofText text with
  | error error => exact ⟨fun h => (by cases h), fun h => (by cases h)⟩
  | ok tree =>
    constructor
    · intro read
      cases read
      rw [toExpr_ofExpr]
    · intro read
      cases read
      exact congrArg Except.ok (ofExpr_toExpr die)

/-- Every die without constants below zero is read back from its text, every die that is read has
no constant below zero, and texts of the same die are texts of the same expression. -/
theorem ofText_of_written :
    (∀ die : Die, (∀ value ∈ die.constants, 0 ≤ value) → ofText die.text = .ok die) ∧
    (∀ text die, ofText text = .ok die → ∀ value ∈ die.constants, 0 ≤ value) ∧
    ∀ first second, (∃ die, ofText first = .ok die ∧ ofText second = .ok die) ↔
      ∃ tree, Expr.ofText first = .ok tree ∧ Expr.ofText second = .ok tree := by
  refine ⟨fun die natural => ?_, fun text die read => ?_, fun first second => ⟨?_, ?_⟩⟩
  · have same : die.text = die.toExpr.text := by rw [text, Expr.text, render_toExpr]
    rw [ofText_eq_ok_iff, same, Expr.ofText_text_eq_ok_iff, constants_toExpr]
    exact natural
  · have natural := Expr.constants_nonneg_of_ofText (ofText_eq_ok_iff.1 read)
    rwa [constants_toExpr] at natural
  · rintro ⟨die, readFirst, readSecond⟩
    exact ⟨die.toExpr, ofText_eq_ok_iff.1 readFirst, ofText_eq_ok_iff.1 readSecond⟩
  · rintro ⟨tree, readFirst, readSecond⟩
    have reads {text : String} (read : Expr.ofText text = .ok tree) :
        ofText text = .ok (ofExpr tree) := by
      rw [ofText_eq_ok_iff, toExpr_ofExpr, read]
    exact ⟨ofExpr tree, reads readFirst, reads readSecond⟩

/-- The letters of exploding, keeping and counting are not mixed up in a die that has them all. -/
theorem ofText_of_written_nested :
    let die : Die := repetition (threshold .under (constant 2)
      (keep .lowest (constant 3) (explode .above (constant 6) (dice (constant 4) (constant 6)))))
      (negative (bonus .subtract (constant 5) (constant 1)))
    die.text = "((2t(3k(6E(4d6)))) x (-(5-1)))" ∧ (∀ value ∈ die.constants, 0 ≤ value) ∧
      ofText die.text = .ok die := by
  intro die
  have natural : ∀ value ∈ die.constants, 0 ≤ value := by
    simp [die, constants]
  exact ⟨by decide, natural, ofText_of_written.1 die natural⟩

end DicePool.Die
