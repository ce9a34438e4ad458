import DicePool.Context
import DicePool.Text.Decimal

/-!
# Arguments of the command line

Switches and settings may stand before and after the expression, each at most
once. Two dashes end them, so that an expression can begin with a sign.
-/

namespace DicePool

/-- What the arguments of the command line ask for. -/
structure Options where
  /-- The expression to roll; without one there is a prompt. -/
  expression : Option String := none
  /-- Show the values of all slots instead of the total. -/
  pool : Bool := false
  /-- Start of the pseudo-random faces. -/
  seed : Option UInt64 := none
  /-- The budget of each evaluation, if one is named. -/
  maxRolls : Option Nat := none
  /-- Roll without a budget. -/
  unbounded : Bool := false
  /-- Show the expression as it is grouped before the result. -/
  tree : Bool := false

namespace Options

/-- The budget that the options give an evaluation. -/
def budget (options : Options) : Option Nat :=
  if options.unbounded then none else some (options.maxRolls.getD standardBudget)

/-- A numeral of at most 64 bits, with an optional plus in front. -/
def word? (text : List Char) : Option UInt64 :=
  let run := match text with
    | '+' :: run => run
    | run => run
  if run ≠ [] ∧ run.all Char.isDigit ∧ Decimal.value run < UInt64.size then
    some (UInt64.ofNat (Decimal.value run))
  else none

/-- Turns on the switch of the given name, unless it is on already. -/
def switchOn (options : Options) (name : String) : Option Options :=
  if name = "pool" ∧ !options.pool then some { options with pool := true }
  else if name = "unbounded" ∧ !options.unbounded then some { options with unbounded := true }
  else if name = "ast" ∧ !options.tree then some { options with tree := true }
  else none

/-- Gives the setting of the given name its value, unless it has one already. -/
def assign (options : Options) (name : String) (value : List Char) : Option Options :=
  if name = "seed" ∧ options.seed.isNone then do
    return { options with seed := some (← word? value) }
  else if name = "max-rolls" ∧ options.maxRolls.isNone then do
    return { options with maxRolls := some (← word? value).toNat }
  else none

/-- Takes the expression, unless there is one already. -/
def withExpression (options : Options) (text : String) : Option Options :=
  if options.expression.isNone then some { options with expression := some text } else none

/-- Whether an argument stands for itself, and does not name an option. -/
def isPlain (argument : List Char) : Bool :=
  argument = ['-'] || argument.head? != some '-'

/-- Reads the arguments on top of the given options. -/
def readFrom (options : Options) : List String → Option Options
  | [] => some options
  | argument :: rest =>
    match argument.toList with
    | ['-', '-'] => rest.foldlM withExpression options
    | '-' :: '-' :: long =>
      let name := String.ofList (long.takeWhile (· ≠ '='))
      match long.dropWhile (· ≠ '=') with
      | _ :: value => do (← options.assign name value).readFrom rest
      | [] =>
        match options.switchOn name, rest with
        | some options, rest => options.readFrom rest
        | none, value :: rest => do
          guard (isPlain value.toList)
          (← options.assign name value.toList).readFrom rest
        | none, [] => none
    | ['-', 'p'] => do (← options.switchOn "pool").readFrom rest
    | text => do
      guard (isPlain text)
      (← options.withExpression argument).readFrom rest

/-- The options that the arguments stand for, if they are well formed and agree. -/
def ofArguments (arguments : List String) : Option Options := do
  let options ← readFrom {} arguments
  guard !(options.unbounded && options.maxRolls.isSome)
  return options

end Options

end DicePool
