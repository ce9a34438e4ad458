import DicePool.Roller

/-!
# Contexts

A context is what an evaluation works with: the budget, the rolls counted so far,
and the roller. An evaluation asks three things of it: that a roll be counted,
that a number of rolls be affordable, and a face.
-/

namespace DicePool

/-- What an evaluation works with. -/
structure Context (ρ : Type) where
  /-- The most rolls that one evaluation may count; without a budget there is no bound. -/
  budget : Option Nat
  /-- The rolls counted since the last evaluation began. -/
  rolls : Nat
  /-- Where the faces come from. -/
  roller : ρ

/-- The budget where none is named. -/
def standardBudget : Nat := 10000

/-- The count at which the counter of rolls stays. -/
def rollLimit : Nat := UInt64.size - 1

namespace Context

variable {ρ : Type}

/-- A context before its first evaluation. -/
def start (budget : Option Nat) (roller : ρ) : Context ρ := ⟨budget, 0, roller⟩

/-- The counter after `count` more rolls. -/
def after (context : Context ρ) (count : Nat) : Nat := min (context.rolls + count) rollLimit

/-- Whether the budget does not cover so many rolls. -/
def exceeds (context : Context ρ) (rolls : Nat) : Bool :=
  match context.budget with
  | none => false
  | some most => most < rolls

end Context

/-- A computation that reads and changes a context. It has no result if its fuel runs out. -/
abbrev Table (ρ : Type) := StateT (Context ρ) Option

/-- A computation at the table that can be refused. The context stays as the refusal
finds it. -/
abbrev Rolling (ρ : Type) := ExceptT RollError (Table ρ)

section

variable {ρ α : Type}

/-- The end of a computation whose fuel ran out. -/
def exhausted : Table ρ α := fun _ => none

/-- A result or refusal that involves no context. -/
def settle (result : Except RollError α) : Rolling ρ α := fun context => some (result, context)

/-- Sets the counter back before an evaluation. -/
def restart : Rolling ρ Unit := fun context => some (.ok (), { context with rolls := 0 })

/-- Counts one roll, which is refused beyond the budget but counted all the same. -/
def countRoll : Rolling ρ Unit := fun context =>
  let rolls := context.after 1
  some (if context.exceeds rolls then .error .tooManyRolls else .ok (), { context with rolls })

/-- Makes sure that the budget covers `count` more rolls, without counting them. -/
def reserve (count : Nat) : Rolling ρ Unit := fun context =>
  some (if context.exceeds (context.after count) then .error .tooManyRolls else .ok (), context)

/-- Takes a face from the roller. -/
def takeFace [Roller ρ] (sides : Sides) : Rolling ρ Int64 := fun context =>
  let (face, roller) := Roller.roll context.roller sides
  some (.ok (Int64.ofNat face.toNat), { context with roller })

/-- Rolls a die of so many sides, after counting the roll. -/
def rollFace [Roller ρ] (sides : Int64) : Rolling ρ Int64 := do
  let sides ← settle (Sides.ofInt64 sides)
  countRoll
  takeFace sides

end

end DicePool
