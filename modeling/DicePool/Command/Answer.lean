import DicePool.Command.Options
import DicePool.Evaluation

/-!
# Answers of the command line

A line of text is read, rolled and answered by its result, or by one sentence
that says why there is none.
-/

namespace DicePool

variable {ρ : Type}

/-- What a run of the program leaves: its exit code and the texts on both outputs. -/
structure Report where
  /-- The exit code. -/
  code : Nat
  /-- What is printed. -/
  out : String
  /-- What is printed as errors. -/
  err : String
deriving DecidableEq

/-- The values of a pool between brackets. -/
def renderPool (values : List Int64) : String :=
  "[" ++ ", ".intercalate (values.map fun value => String.ofList (Decimal.ofInt64 value)) ++ "]"

/-- The line that shows an error. -/
def errorLine (message : String) : String := "Error: " ++ message ++ "\n"

namespace Options

variable [Roller ρ]

/-- The result of a die as the options want it shown. -/
def result (options : Options) (die : Die) : Rolling ρ String :=
  if options.pool then renderPool <$> die.pool
  else (fun total => String.ofList (Decimal.ofInt64 total)) <$> die.roll

/-- The text that answers a line, or the sentence of its error. -/
def answer (options : Options) (line : String) : Table ρ (Except String String) :=
  match Expr.ofText line with
  | .error error => return .error error.message
  | .ok expr => do
    match ← (options.result (Die.ofExpr expr)).run with
    | .error error => return .error error.message
    | .ok result => return .ok (if options.tree then expr.text ++ "\n" ++ result else result)

/-- The report on a single expression. -/
def answerOnce (options : Options) (expression : String) : Table ρ Report := do
  match ← options.answer expression with
  | .ok text => return ⟨0, text ++ "\n", ""⟩
  | .error message => return ⟨1, "", errorLine message⟩

end Options

end DicePool
