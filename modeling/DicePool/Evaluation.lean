import DicePool.Context
import DicePool.Slot

/-!
# Evaluation

Generating a die builds its pool and draws only what decides the pool's shape:
counts, sides, cutoffs, and the values that keep and again look at. Forcing the
slots draws the rest. Both and the totals they need call one another, and rolls
without a budget need not end, so the depth of the calls is bounded by fuel.
-/

namespace DicePool

variable {ρ : Type}

/-- What forcing a slot gives: a value or refusal, and the slot as it is left. A refused
slot keeps what it has handed out already. -/
structure Forced where
  /-- The value drawn, or why there is none. -/
  value : Except RollError Int64
  /-- The slot as it is left. -/
  slot : Slot

/-- The value and the slot left by a force, refused where the force is refused. -/
def drawFrom (force : Slot → Table ρ Forced) (slot : Slot) : Rolling ρ (Int64 × Slot) := do
  let forced ← force slot
  let value ← settle forced.value
  return (value, forced.slot)

/-- Draws from every slot of a pool in order. -/
def drawAll (force : Slot → Table ρ Forced) (pool : Pool) : Rolling ρ (List (Int64 × Slot)) :=
  pool.mapM (drawFrom force)

/-- Goes on adding draws to `total` as long as the last one is a hit. Every further draw
counts as a roll before it is made. -/
def explodeFrom (force : Slot → Table ρ Forced) (cmp : Comparison) (cutoff : Int64) :
    Nat → Int64 → Int64 → Slot → Table ρ Forced
  | 0, _, _, _ => exhausted
  | fuel + 1, total, last, slot => do
    if cmp.holds last cutoff then
      match ← countRoll.run with
      | .error error => return ⟨.error error, slot⟩
      | .ok () =>
        let next ← force slot
        match next.value with
        | .error error => return ⟨.error error, next.slot⟩
        | .ok value =>
          match Arithmetic.add.apply total value with
          | .error error => return ⟨.error error, next.slot⟩
          | .ok total => explodeFrom force cmp cutoff fuel total value next.slot
    else return ⟨.ok total, slot⟩

/-- Draws from every slot of a generation, counting a roll for every hit. -/
def drawGeneration (force : Slot → Table ρ Forced) (cmp : Comparison) (cutoff : Int64)
    (generation : Pool) : Rolling ρ (List (Int64 × Slot)) :=
  generation.mapM fun slot => do
    let drawn ← drawFrom force slot
    if cmp.holds drawn.1 cutoff then countRoll
    return drawn

/-- A slot that remembers the value drawn from it. -/
def remember (drawn : Int64 × Slot) : Slot := .drawn (.resolved drawn.1) drawn.2

/-- The slots of a generation, and of the generations that its hits start. The slots that
hit are drawn from once more, as the draw left them. -/
def generations (force : Slot → Table ρ Forced) (cmp : Comparison) (cutoff : Int64) :
    Nat → Pool → Rolling ρ Pool
  | _, [] => return []
  | 0, _ => exhausted
  | fuel + 1, generation => do
    let drawn ← drawGeneration force cmp cutoff generation
    let hits := drawn.filter fun entry => cmp.holds entry.1 cutoff
    let later ← generations force cmp cutoff fuel (hits.map Prod.snd)
    return drawn.map remember ++ later

/-- A total read as a number of things: below one there are none. -/
def quantity (total : Int64) : Nat := total.toInt.toNat

mutual

/-- The pool of a die. -/
def Die.generate [Roller ρ] : Nat → Die → Rolling ρ Pool
  | 0, _ => exhausted
  | _ + 1, .constant value => return [.fixed value]
  | fuel + 1, .dice count sides => do
    let count := quantity (← count.total fuel)
    let sides ← sides.total fuel
    reserve count
    return List.replicate count (.face sides)
  | fuel + 1, .add left right => do
    let left ← left.generate fuel
    let right ← right.generate fuel
    return left ++ right
  | fuel + 1, .subtract left right => do
    let left ← left.generate fuel
    let right ← right.generate fuel
    return left ++ right.map .negative
  | fuel + 1, .multiply left right => do
    let left ← left.total fuel
    let right ← right.total fuel
    return [.fixed (← settle (Arithmetic.multiply.apply left right))]
  | fuel + 1, .divide left right => do
    let left ← left.total fuel
    let right ← right.total fuel
    return [.fixed (← settle (Arithmetic.divide.apply left right))]
  | fuel + 1, .negative body => do
    let pool ← body.generate fuel
    return pool.map .negative
  | fuel + 1, .bonus op body amount => do
    let pool ← body.generate fuel
    return pool.map (.bonus op · amount)
  | fuel + 1, .explode cmp cutoff body => do
    let cutoff ← cutoff.total fuel
    let pool ← body.generate fuel
    return pool.map (.explode cmp cutoff)
  | fuel + 1, .keep selection count body => do
    let count := quantity (← count.total fuel)
    let pool ← body.generate fuel
    let drawn ← drawAll (Slot.force fuel) pool
    return (selection.take count drawn).map remember
  | fuel + 1, .again cmp cutoff body => do
    let cutoff ← cutoff.total fuel
    let pool ← body.generate fuel
    generations (Slot.force fuel) cmp cutoff fuel pool
  | fuel + 1, .threshold cmp cutoff body => do
    let cutoff ← cutoff.total fuel
    let pool ← body.generate fuel
    return pool.map (.threshold cmp cutoff)
  | fuel + 1, .repetition body count => do
    let count := quantity (← count.total fuel)
    reserve count
    let pools ← (List.replicate count body).mapM fun body => body.generate fuel
    return pools.flatten

/-- The sum of the pool of a die, taken when all its slots are drawn. -/
def Die.total [Roller ρ] : Nat → Die → Rolling ρ Int64
  | 0, _ => exhausted
  | fuel + 1, die => do
    let pool ← die.generate fuel
    let drawn ← drawAll (Slot.force fuel) pool
    settle (sum (drawn.map Prod.fst))

/-- The value drawn from a slot, and the slot as it is left. -/
def Slot.force [Roller ρ] : Nat → Slot → Table ρ Forced
  | 0, _ => exhausted
  | _ + 1, .fixed value => return ⟨.ok value, .fixed value⟩
  | _ + 1, .face sides => do
    let value ← (rollFace sides).run
    return ⟨value, .face sides⟩
  | fuel + 1, .negative slot => do
    let inner ← slot.force fuel
    return ⟨inner.value.bind negate, .negative inner.slot⟩
  | fuel + 1, .bonus op slot amount => do
    let inner ← slot.force fuel
    match inner.value with
    | .error error => return ⟨.error error, .bonus op inner.slot amount⟩
    | .ok value =>
      let extra ← (amount.total fuel).run
      return ⟨extra.bind (op.apply value), .bonus op inner.slot amount⟩
  | fuel + 1, .explode cmp cutoff slot => do
    let inner ← slot.force fuel
    match inner.value with
    | .error error => return ⟨.error error, .explode cmp cutoff inner.slot⟩
    | .ok value =>
      let last ← explodeFrom (Slot.force fuel) cmp cutoff fuel value value inner.slot
      return ⟨last.value, .explode cmp cutoff last.slot⟩
  | fuel + 1, .threshold cmp cutoff slot => do
    let inner ← slot.force fuel
    let value := inner.value.map fun value => if cmp.holds value cutoff then 1 else 0
    return ⟨value, .threshold cmp cutoff inner.slot⟩
  | _ + 1, .drawn (.resolved value) slot => return ⟨.ok value, .drawn .spent slot⟩
  | fuel + 1, .drawn .spent slot => do
    let inner ← slot.force fuel
    return ⟨inner.value, .drawn .spent inner.slot⟩

end

/-- Fuel for something of the given size. No loop goes round more often than the budget
has rolls, and no call nests deeper than the size. -/
def fuelFor (budget : Option Nat) (size : Nat) : Nat := budget.getD rollLimit + 3 * size + 3

namespace Die

variable [Roller ρ]

/-- The slots of a die, on top of the rolls counted so far. -/
def slots (die : Die) : Rolling ρ Pool := do
  die.generate (fuelFor (← get).budget die.size)

/-- One evaluation: the total of a die. -/
def roll (die : Die) : Rolling ρ Int64 := do
  restart
  die.total (fuelFor (← get).budget die.size)

/-- One evaluation: the values of all slots of a die. -/
def pool (die : Die) : Rolling ρ (List Int64) := do
  restart
  let fuel := fuelFor (← get).budget die.size
  let pool ← die.generate fuel
  let drawn ← drawAll (Slot.force fuel) pool
  return drawn.map Prod.fst

end Die

/-- Draws from a slot, on top of the rolls counted so far. -/
def Slot.draw [Roller ρ] (slot : Slot) : Table ρ Forced := do
  slot.force (fuelFor (← get).budget slot.size)

end DicePool
