import DicePool.Expr.Parser

/-!
# The grammar of expressions

Dice notation as six layers of productions, from repetitions down to numbers and groups.
The layers know nothing of binding powers or of the order in which lexemes are read.
Beside them stand the two numbers by which a layer meets the precedence parser: how
tightly the operators of its phrases hold, and what may follow a phrase.
-/

namespace DicePool

/-- The nine operators that ask for draws: a number of dice, and the letters in front of
a pool. -/
def Operator.isDice : Operator → Bool
  | dice | explode _ | keep _ | again _ | threshold _ => true
  | arithmetic _ | bonus _ | repetition => false

/-- The layers of the grammar, loosest first. -/
inductive Layer where
  /-- Sums, and repetitions of them. -/
  | repetition
  /-- Products, and what is added to them or taken off. -/
  | sum
  /-- Bonuses, and their products and quotients. -/
  | product
  /-- Dice, and what is joined to every value. -/
  | bonus
  /-- Atoms, and the operators of dice and signs. -/
  | dice
  /-- Numbers and groups. -/
  | atom
deriving DecidableEq

/-- The productions: `Derives layer tokens tree` says that the layer derives the whole token
sequence as the tree. A group adds no node of its own. -/
inductive Derives : Layer → List Token → Expr → Prop
  | sumAlone {tokens tree} : Derives .sum tokens tree → Derives .repetition tokens tree
  | repetition {left right l r} : Derives .repetition left l → Derives .sum right r →
      Derives .repetition (left ++ .operator .repetition :: right) (.binary l .repetition r)
  | productAlone {tokens tree} : Derives .product tokens tree → Derives .sum tokens tree
  | sum {op left right l r} (spaced : op = .add ∨ op = .subtract) :
      Derives .sum left l → Derives .product right r →
      Derives .sum (left ++ .operator (.arithmetic op) :: right) (.binary l (.arithmetic op) r)
  | bonusAlone {tokens tree} : Derives .bonus tokens tree → Derives .product tokens tree
  | product {op left right l r} (spaced : op = .multiply ∨ op = .divide) :
      Derives .product left l → Derives .bonus right r →
      Derives .product (left ++ .operator (.arithmetic op) :: right)
        (.binary l (.arithmetic op) r)
  | diceAlone {tokens tree} : Derives .dice tokens tree → Derives .bonus tokens tree
  | bonus {op left right l r} : Derives .bonus left l → Derives .dice right r →
      Derives .bonus (left ++ .operator (.bonus op) :: right) (.binary l (.bonus op) r)
  | atomAlone {tokens tree} : Derives .atom tokens tree → Derives .dice tokens tree
  | dice {op left right l r} (tight : op.isDice = true) :
      Derives .atom left l → Derives .dice right r →
      Derives .dice (left ++ .operator op :: right) (.binary l op r)
  | negative {tokens tree} : Derives .dice tokens tree →
      Derives .dice (.operator (.bonus .subtract) :: tokens) (.negative tree)
  | single {tokens tree} : Derives .dice tokens tree →
      Derives .dice (.operator .dice :: tokens) (.binary (.number 1) .dice tree)
  | number (value : Int64) : Derives .atom [.number value] (.number value)
  | group {tokens tree} : Derives .repetition tokens tree →
      Derives .atom (.opening :: tokens ++ [.closing]) tree

namespace Layer

/-- The least power among the operators that may stand open in a phrase of the layer. -/
def strength : Layer → Nat
  | repetition => 5
  | sum => 10
  | product => 15
  | bonus => 20
  | dice => 30
  | atom => 31

/-- The greatest power of an operator that may follow a phrase of the layer and leave the
phrase whole. -/
def limit : Layer → Nat
  | repetition => 5
  | sum => 10
  | product => 15
  | bonus => 20
  | dice => 29
  | atom => 30

/-- The layer of the phrases whose open operators all hold tighter than `power`. -/
def above (power : Nat) : Layer :=
  if power < 5 then repetition
  else if power < 10 then sum
  else if power < 15 then product
  else if power < 20 then bonus
  else dice

/-- A phrase in which operators above `power` may stand open has the layer that `power` asks
for. -/
theorem strength_above_le {power : Nat} {layer : Layer} (open_ : power < layer.strength) :
    (above power).strength ≤ layer.strength := by
  unfold above
  repeat' split
  all_goals cases layer <;> simp only [strength] at open_ ⊢ <;> omega

end Layer

namespace Operator

/-- The layer whose phrases the operator forms. -/
def layer : Operator → Layer
  | repetition => .repetition
  | arithmetic .add | arithmetic .subtract => .sum
  | arithmetic .multiply | arithmetic .divide => .product
  | bonus _ => .bonus
  | dice | explode _ | keep _ | again _ | threshold _ => .dice

/-- The layer of its left operands. Dice operators group to the right, so theirs are atoms. -/
def leftLayer (op : Operator) : Layer := if op.isDice then .atom else op.layer

/-- No operator holds tighter than those of dice. -/
theorem power_le (op : Operator) : op.power ≤ 30 := by
  cases op with
  | arithmetic op => cases op <;> simp [power]
  | _ => simp [power]

/-- No operator holds less tightly than repetition. -/
theorem le_power (op : Operator) : 5 ≤ op.power := by
  cases op with
  | arithmetic op => cases op <;> simp [power]
  | _ => simp [power]

/-- No operator asks more of its right operand than the power behind a sign. -/
theorem rightPower_le (op : Operator) : op.rightPower ≤ leadingPower := by
  cases op with
  | arithmetic op => cases op <;> decide
  | _ => simp [rightPower, power, leadingPower]

/-- An operator can stand open in the phrases that it forms. -/
theorem strength_layer (op : Operator) : op.layer.strength = op.power := by
  cases op with
  | arithmetic op => cases op <;> rfl
  | _ => rfl

/-- The right operand of an operator ends where a phrase of the operator ends. -/
theorem limit_layer (op : Operator) : op.layer.limit = op.rightPower := by
  cases op with
  | arithmetic op => cases op <;> rfl
  | _ => rfl

/-- The dice operators hold tightest, and admit their own strength on the right. -/
theorem layer_of_isDice {op : Operator} (tight : op.isDice = true) :
    op.layer = .dice ∧ op.power = 30 ∧ op.rightPower = 29 := by
  cases op with
  | dice | explode _ | keep _ | again _ | threshold _ => exact ⟨rfl, rfl, rfl⟩
  | arithmetic _ | bonus _ | repetition => cases tight

/-- A phrase that an operator may follow is as tight as the left operands of the operator. -/
theorem strength_leftLayer_le {op : Operator} {layer : Layer} (follows : op.power ≤ layer.limit) :
    op.leftLayer.strength ≤ layer.strength := by
  cases op with
  | arithmetic op =>
    cases op <;> cases layer <;> simp_all [power, Layer.limit, leftLayer, isDice, Operator.layer,
      Layer.strength]
  | _ =>
    cases layer <;> simp_all [power, Layer.limit, leftLayer, isDice, Operator.layer,
      Layer.strength]

end Operator

/-- An operator and its two operands form a phrase of the operator's layer. -/
theorem Derives.operator {op : Operator} {left right : List Token} {l r : Expr}
    (first : Derives op.leftLayer left l) (second : Derives (.above op.rightPower) right r) :
    Derives op.layer (left ++ .operator op :: right) (.binary l op r) := by
  cases op with
  | arithmetic op =>
    cases op with
    | add => exact .sum (.inl rfl) first second
    | subtract => exact .sum (.inr rfl) first second
    | multiply => exact .product (.inl rfl) first second
    | divide => exact .product (.inr rfl) first second
  | bonus op => exact .bonus first second
  | repetition => exact .repetition first second
  | dice | explode _ | keep _ | again _ | threshold _ => exact .dice rfl first second

/-- A layer takes in the phrases of every tighter one. -/
theorem Derives.loosen {layer : Layer} {tokens : List Token} {tree : Expr}
    (derived : Derives layer tokens tree) (looser : Layer)
    (tighter : looser.strength ≤ layer.strength) :
    Derives looser tokens tree := by
  cases looser <;> cases layer <;> first
    | exact absurd tighter (by decide)
    | repeat first
      | exact derived
      | apply sumAlone
      | apply productAlone
      | apply bonusAlone
      | apply diceAlone
      | apply atomAlone

end DicePool
