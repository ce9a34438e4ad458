import DicePool.Proofs.Parsing

/-!
# Where reading stands

What may come next in an expression depends on two things alone: whether an operand has to
come, and how many groups are open. A stance holds both, and every token leads from a stance
to the next one or cannot come there. The binding powers play no part in it: they decide how
an expression is grouped, not where it can go on.
-/

namespace DicePool

/-- Whether an operand has to come behind the tokens: there are none, or an operator or a left
parenthesis stands last. -/
def awaitsOperand (before : List Token) : Bool :=
  match before.getLast? with
  | none | some (.operator _) | some .opening => true
  | some (.number _) | some .closing => false

/-- Where reading stands between two tokens. -/
structure Stance where
  /-- Whether an operand has to come next. -/
  awaits : Bool
  /-- The number of open groups. -/
  depth : Nat
deriving DecidableEq

namespace Stance

/-- The stance behind one more token, if that token can come. -/
def step : Stance → Token → Option Stance
  | ⟨true, depth⟩, .number _ => some ⟨false, depth⟩
  | ⟨true, depth⟩, .opening => some ⟨true, depth + 1⟩
  | ⟨true, depth⟩, .operator (.bonus .subtract) => some ⟨true, depth⟩
  | ⟨true, depth⟩, .operator .dice => some ⟨true, depth⟩
  | ⟨false, depth⟩, .operator _ => some ⟨true, depth⟩
  | ⟨false, depth + 1⟩, .closing => some ⟨false, depth⟩
  | _, _ => none

/-- The stance behind a row of tokens, if every one of them can come. -/
def walk (stance : Stance) (tokens : List Token) : Option Stance := tokens.foldlM step stance

/-- Nothing has been read. -/
def start : Stance := ⟨true, 0⟩

/-- A whole expression has been read. -/
def complete : Stance := ⟨false, 0⟩

/-- A walk takes the first step and goes on from there. -/
theorem walk_cons (stance : Stance) (token : Token) (tokens : List Token) :
    walk stance (token :: tokens) = (stance.step token).bind fun next => walk next tokens := rfl

/-- A walk along two rows is a walk along one and then the other. -/
theorem walk_append (stance : Stance) (before behind : List Token) :
    walk stance (before ++ behind) = (walk stance before).bind fun next => walk next behind :=
  List.foldlM_append

/-- A walk along one token is a step. -/
theorem walk_singleton (stance : Stance) (token : Token) :
    walk stance [token] = stance.step token := by
  rw [walk_cons]
  exact Option.bind_fun_some _

/-- Behind an operand any operator may come. -/
theorem step_operator (op : Operator) (depth : Nat) :
    step ⟨false, depth⟩ (.operator op) = some ⟨true, depth⟩ := rfl

/-- Only a sign or a die without a count can begin an operand. -/
theorem step_operator_eq_none {op : Operator} (unsigned : op ≠ .bonus .subtract)
    (counted : op ≠ .dice) (depth : Nat) : step ⟨true, depth⟩ (.operator op) = none := by
  cases op with
  | dice => exact absurd rfl counted
  | bonus op =>
    cases op with
    | subtract => exact absurd rfl unsigned
    | add | multiply | divide => rfl
  | arithmetic _ | explode _ | keep _ | again _ | threshold _ | repetition => rfl

/-- A phrase of the grammar is an operand, whatever groups are open around it. -/
theorem walk_of_derives {layer : Layer} {tokens : List Token} {tree : Expr}
    (derived : Derives layer tokens tree) (depth : Nat) :
    walk ⟨true, depth⟩ tokens = some ⟨false, depth⟩ := by
  induction derived generalizing depth with
  | sumAlone _ ih | productAlone _ ih | bonusAlone _ ih | diceAlone _ ih | atomAlone _ ih =>
    exact ih depth
  | repetition _ _ first second | sum _ _ _ first second | product _ _ _ first second
  | bonus _ _ first second | dice _ _ _ first second =>
    rw [walk_append, first depth, Option.bind_some, walk_cons, step_operator, Option.bind_some]
    exact second depth
  | negative _ ih | single _ ih => exact ih depth
  | number value => rfl
  | group _ ih =>
    rw [List.cons_append, walk_cons]
    show walk ⟨true, depth + 1⟩ _ = _
    rw [walk_append, ih (depth + 1)]
    rfl

/-- A token that can come decides whether an operand has to come behind it, and opens or closes a
group if it is a parenthesis. -/
theorem step_cases {stance next : Stance} {token : Token}
    (stepped : stance.step token = some next) :
    next.awaits = awaitsOperand [token] ∧
      next.depth + [token].count .closing = stance.depth + [token].count .opening := by
  unfold step at stepped
  split at stepped <;> cases stepped <;> simp [awaitsOperand]

/-- The groups that are open are those that were open and those that have been opened since, less
those that have been closed. -/
theorem depth_of_walk {tokens : List Token} {stance reached : Stance}
    (walked : walk stance tokens = some reached) :
    reached.depth + tokens.count .closing = stance.depth + tokens.count .opening := by
  induction tokens generalizing stance with
  | nil =>
    cases walked
    rfl
  | cons token tokens ih =>
    rw [walk_cons] at walked
    obtain ⟨next, stepped, rest⟩ := Option.bind_eq_some_iff.1 walked
    have one := (step_cases stepped).2
    have others := ih rest
    rw [← List.singleton_append, List.count_append, List.count_append]
    omega

/-- An operand has to come where the tokens say so. -/
theorem awaits_of_walk {tokens : List Token} {reached : Stance}
    (walked : walk start tokens = some reached) : reached.awaits = awaitsOperand tokens := by
  rcases List.eq_nil_or_concat tokens with rfl | ⟨before, last, rfl⟩
  · cases walked
    rfl
  · rw [List.concat_eq_append] at walked ⊢
    rw [walk_append] at walked
    obtain ⟨next, -, stepped⟩ := Option.bind_eq_some_iff.1 walked
    rw [walk_singleton] at stepped
    rw [(step_cases stepped).1]
    simp [awaitsOperand]

end Stance

end DicePool
