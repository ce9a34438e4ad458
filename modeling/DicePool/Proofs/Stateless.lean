import DicePool.Evaluation

/-!
# Evaluation without memos

The same evaluation with slots that never change. In place of a slot stand the two ways
in which it can be drawn from: the first time, and every later time. A pool is a list of
such pairs, and totalling it draws from each for the first time. Nothing is remembered
but the values that keep and again have drawn, and those only for the first time.
-/

namespace DicePool.Stateless

variable {ρ : Type}

/-- How a slot is drawn from. -/
structure Draws (ρ : Type) where
  /-- The first draw. -/
  first : Rolling ρ Int64
  /-- Every later draw. -/
  later : Rolling ρ Int64

open Classical in
/-- A loop that may take any number of turns. It ends as it does within some number of them, and
has no result when no number suffices. -/
noncomputable def unbounded {α : Type} (loop : Nat → Rolling ρ α) : Rolling ρ α := fun context =>
  if ends : ∃ out turns, loop turns context = some out then some ends.choose else none

/-- Goes on adding draws to `total` as long as the last one is a hit, for so many turns. -/
def explodeWithin (draw : Rolling ρ Int64) (cmp : Comparison) (cutoff : Int64) :
    Nat → Int64 → Int64 → Rolling ρ Int64
  | 0, _, _ => exhausted
  | turns + 1, total, last => do
    if cmp.holds last cutoff then
      countRoll
      let value ← draw
      let total ← settle (Arithmetic.add.apply total value)
      explodeWithin draw cmp cutoff turns total value
    else return total

/-- Goes on adding draws to the value drawn first as long as the last one is a hit. -/
noncomputable def explodeFrom (draw : Rolling ρ Int64) (cmp : Comparison) (cutoff value : Int64) :
    Rolling ρ Int64 :=
  unbounded fun turns => explodeWithin draw cmp cutoff turns value value

namespace Draws

/-- A value that is always the same. -/
def fixed (value : Int64) : Draws ρ := ⟨pure value, pure value⟩

/-- A face that is rolled every time. -/
def face [Roller ρ] (sides : Int64) : Draws ρ := ⟨rollFace sides, rollFace sides⟩

/-- Every draw followed by a step on its value. -/
def followedBy (draws : Draws ρ) (step : Int64 → Rolling ρ Int64) : Draws ρ :=
  ⟨draws.first >>= step, draws.later >>= step⟩

/-- Every draw negated. -/
def negative (draws : Draws ρ) : Draws ρ :=
  draws.followedBy fun value => settle (negate value)

/-- Every draw tested. -/
def threshold (cmp : Comparison) (cutoff : Int64) (draws : Draws ρ) : Draws ρ :=
  draws.followedBy fun value => return if cmp.holds value cutoff then 1 else 0

/-- Every draw joined with a total of its own. -/
def bonus (op : Arithmetic) (total : Rolling ρ Int64) (draws : Draws ρ) : Draws ρ :=
  draws.followedBy fun value => do settle (op.apply value (← total))

/-- Draws added up as long as they hit. Only the very first one is a first draw. -/
noncomputable def explode (cmp : Comparison) (cutoff : Int64) (draws : Draws ρ) : Draws ρ :=
  draws.followedBy (explodeFrom draws.later cmp cutoff)

/-- A value already drawn, with the draws that are left. -/
def recorded (value : Int64) (later : Rolling ρ Int64) : Draws ρ := ⟨pure value, later⟩

/-- The draws that are left, for a new slot. -/
def renewed (later : Rolling ρ Int64) : Draws ρ := ⟨later, later⟩

end Draws

/-- The value of the first draw, with the draws that are left. -/
def drawOnce (draws : Draws ρ) : Rolling ρ (Int64 × Rolling ρ Int64) := do
  return (← draws.first, draws.later)

/-- The first draw, for which a roll is counted if it hits. -/
def drawCounting (cmp : Comparison) (cutoff : Int64) (draws : Draws ρ) :
    Rolling ρ (Int64 × Rolling ρ Int64) := do
  let value ← draws.first
  if cmp.holds value cutoff then countRoll
  return (value, draws.later)

/-- A generation, each first draw recorded, and the generations that its hits start, for so many
turns. -/
def generationsWithin (cmp : Comparison) (cutoff : Int64) :
    Nat → List (Draws ρ) → Rolling ρ (List (Draws ρ))
  | _, [] => return []
  | 0, _ => exhausted
  | turns + 1, generation => do
    let drawn ← generation.mapM (drawCounting cmp cutoff)
    let hits := drawn.filter fun entry => cmp.holds entry.1 cutoff
    let others ← generationsWithin cmp cutoff turns (hits.map fun entry => .renewed entry.2)
    return drawn.map (fun entry => .recorded entry.1 entry.2) ++ others

/-- A generation and all that its hits start. -/
noncomputable def generations (cmp : Comparison) (cutoff : Int64) (generation : List (Draws ρ)) :
    Rolling ρ (List (Draws ρ)) :=
  unbounded fun turns => generationsWithin cmp cutoff turns generation

/-- The sum of the first draws of a pool. -/
def totalOf (pool : Rolling ρ (List (Draws ρ))) : Rolling ρ Int64 := do
  let pool ← pool
  let values ← pool.mapM Draws.first
  settle (sum values)

variable [Roller ρ]

/-- The pool of a die. -/
noncomputable def generate : Die → Rolling ρ (List (Draws ρ))
  | .constant value => return [.fixed value]
  | .dice count sides => do
    let count := quantity (← totalOf (generate count))
    let sides ← totalOf (generate sides)
    reserve count
    return List.replicate count (.face sides)
  | .add left right => do
    let left ← generate left
    let right ← generate right
    return left ++ right
  | .subtract left right => do
    let left ← generate left
    let right ← generate right
    return left ++ right.map .negative
  | .multiply left right => do
    let left ← totalOf (generate left)
    let right ← totalOf (generate right)
    return [.fixed (← settle (Arithmetic.multiply.apply left right))]
  | .divide left right => do
    let left ← totalOf (generate left)
    let right ← totalOf (generate right)
    return [.fixed (← settle (Arithmetic.divide.apply left right))]
  | .negative body => do
    let pool ← generate body
    return pool.map .negative
  | .bonus op body amount => do
    let pool ← generate body
    return pool.map (.bonus op (totalOf (generate amount)))
  | .explode cmp cutoff body => do
    let cutoff ← totalOf (generate cutoff)
    let pool ← generate body
    return pool.map (.explode cmp cutoff)
  | .keep selection count body => do
    let count := quantity (← totalOf (generate count))
    let pool ← generate body
    let drawn ← pool.mapM drawOnce
    return (selection.take count drawn).map fun entry => .recorded entry.1 entry.2
  | .again cmp cutoff body => do
    let cutoff ← totalOf (generate cutoff)
    let pool ← generate body
    generations cmp cutoff pool
  | .threshold cmp cutoff body => do
    let cutoff ← totalOf (generate cutoff)
    let pool ← generate body
    return pool.map (.threshold cmp cutoff)
  | .repetition body count => do
    let count := quantity (← totalOf (generate count))
    reserve count
    let pools ← (List.replicate count ()).mapM fun _ => generate body
    return pools.flatten

/-- The total of a die. -/
noncomputable def total (die : Die) : Rolling ρ Int64 := totalOf (generate die)

/-- One evaluation: the total of a die. -/
noncomputable def roll (die : Die) : Rolling ρ Int64 := do
  restart
  total die

/-- One evaluation: the first draws of the pool of a die. -/
noncomputable def pool (die : Die) : Rolling ρ (List Int64) := do
  restart
  let pool ← generate die
  pool.mapM Draws.first

end DicePool.Stateless
