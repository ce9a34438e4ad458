import DicePool.Command.Generator
import DicePool.Command.Prompt

/-!
# The program

The whole program as a function of its arguments' options, its input and a
roller.
-/

namespace DicePool

/-- The context in which the program starts. -/
def Options.context {ρ : Type} (options : Options) (roller : ρ) : Context ρ :=
  .start options.budget roller

/-- The roller that the program brings: its faces start at the seed of the options, or at a fresh
one. -/
def Options.roller (options : Options) (fresh : UInt64) : Generator := ⟨options.seed.getD fresh⟩

/-- The report on a run of the program. There is none if a roll without a budget never
ends. -/
def Options.run {ρ : Type} [Roller ρ] (options : Options) (input : List UInt8) (roller : ρ) :
    Option Report :=
  let context := options.context roller
  match options.expression with
  | some expression => (options.answerOnce expression).run' context
  | none => Prompt.run options input context

end DicePool
