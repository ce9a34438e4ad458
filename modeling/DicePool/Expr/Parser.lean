import DicePool.Expr
import DicePool.Lexeme

/-!
# Reading expressions

Lexemes are read by operator precedence: an operand, then as many operators as
hold tighter than the place where the expression stands, each with its own right
operand. Every step leaves fewer lexemes than it was given, so reading ends.
-/

namespace DicePool.Expr

/-- A tree read off the front of fewer than `bound` lexemes, and the lexemes left. -/
structure Parsed (bound : Nat) where
  /-- The expression read. -/
  tree : Expr
  /-- The lexemes that are left. -/
  rest : List Lexeme
  /-- Fewer lexemes are left than the bound. -/
  shorter : rest.length < bound

/-- The same result where more lexemes were available. -/
def Parsed.widen {bound wider : Nat} (parsed : Parsed bound) (h : bound ≤ wider) :
    Parsed wider :=
  ⟨parsed.tree, parsed.rest, Nat.lt_of_lt_of_le parsed.shorter h⟩

/-- The place where reading stands: the next lexeme, or the end of the text at byte
`finish`, as an error shows it. -/
def refuse (finish : Nat) (fault : Kind → Fault) : List Lexeme → ParseError
  | [] => ⟨fault .finish, finish, ""⟩
  | next :: _ => ⟨fault next.token.kind, next.start, String.ofList next.text⟩

/-- What follows a right parenthesis that has to come next. -/
def close (finish : Nat) : List Lexeme → Except ParseError (List Lexeme)
  | ⟨.closing, _, _⟩ :: rest => .ok rest
  | input => .error (refuse finish (.unexpected · .closing []) input)

/-- Closing a group takes a lexeme. -/
theorem length_close {finish : Nat} {input rest : List Lexeme}
    (h : close finish input = .ok rest) : rest.length < input.length := by
  unfold close at h
  split at h
  · cases h
    simp
  · cases h

mutual

/-- An expression of operators that hold tighter than `power`. -/
def expression (finish power : Nat) (input : List Lexeme) :
    Except ParseError (Parsed input.length) := do
  let first ← operand finish input
  have := first.shorter
  let whole ← extend finish power first.tree first.rest
  return whole.widen (by omega)
termination_by (input.length, 2)

/-- A number, a group, or a leading sign with its operand. A leading `d` rolls one die. -/
def operand (finish : Nat) (input : List Lexeme) : Except ParseError (Parsed input.length) :=
  match input with
  | ⟨.number value, _, _⟩ :: rest => return ⟨.number value, rest, by simp⟩
  | ⟨.opening, _, _⟩ :: rest => do
    let group ← expression finish 0 rest
    match h : close finish group.rest with
    | .ok behind =>
      have := group.shorter
      have := length_close h
      return ⟨group.tree, behind, by simp; omega⟩
    | .error error => throw error
  | ⟨.operator (.bonus .subtract), _, _⟩ :: rest => do
    let negated ← expression finish Operator.leadingPower rest
    have := negated.shorter
    return ⟨.negative negated.tree, negated.rest, by simp; omega⟩
  | ⟨.operator .dice, _, _⟩ :: rest => do
    let sides ← expression finish Operator.leadingPower rest
    have := sides.shorter
    return ⟨.binary (.number 1) .dice sides.tree, sides.rest, by simp; omega⟩
  | input => throw (refuse finish .expectedOperand input)
termination_by (input.length, 0)

/-- The tree `left`, extended by the operators that hold tighter than `power`. -/
def extend (finish power : Nat) (left : Expr) (input : List Lexeme) :
    Except ParseError (Parsed (input.length + 1)) :=
  match input with
  | ⟨.operator op, start, text⟩ :: rest =>
    if power < op.power then do
      let right ← expression finish op.rightPower rest
      have := right.shorter
      let whole ← extend finish power (.binary left op right.tree) right.rest
      return whole.widen (by simp; omega)
    else return ⟨left, ⟨.operator op, start, text⟩ :: rest, by simp⟩
  | input => return ⟨left, input, by simp⟩
termination_by (input.length, 1)

end

/-- The expression that the lexemes of a text ending at byte `finish` form. -/
def ofLexemes (finish : Nat) (input : List Lexeme) : Except ParseError Expr := do
  let whole ← expression finish 0 input
  match whole.rest with
  | [] => return whole.tree
  | input => throw (refuse finish (.unexpected · .finish []) input)

/-- The expression that a text denotes. -/
def ofText (text : String) : Except ParseError Expr := do
  ofLexemes text.utf8ByteSize (← Lexeme.ofText text)

end DicePool.Expr
