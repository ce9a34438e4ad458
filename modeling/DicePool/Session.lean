import DicePool.Evaluation

/-!
# Sessions

A session is a context in use, with one pool on the table whose slots can be
forced one at a time. Whole evaluations leave that pool alone.
-/

namespace DicePool

/-- A context and the pool on the table. -/
structure Session (ρ : Type) where
  /-- The context in which calls are made. -/
  context : Context ρ
  /-- The slots that are held between calls. -/
  pool : Pool

namespace Session

variable {ρ α : Type}

/-- A session with an empty table. -/
def start (context : Context ρ) : Session ρ := ⟨context, []⟩

/-- Runs an evaluation on the session's context. -/
def evaluate (evaluation : Rolling ρ α) : StateT (Session ρ) Option (Except RollError α) :=
  fun session => do
    let (result, context) ← evaluation.run session.context
    return (result, { session with context })

/-- Puts the given slots on the table. -/
def place (pool : Pool) : StateT (Session ρ) Option Unit :=
  modify fun session => { session with pool }

/-- Puts the pool of a die on the table, or clears the table when the pool is refused. -/
def generate [Roller ρ] (die : Die) : StateT (Session ρ) Option (Except RollError Pool) := do
  let result ← evaluate die.slots
  place (result.toOption.getD [])
  return result

/-- Forces the slot at an index where it lies; there may be none. -/
def force [Roller ρ] (index : Nat) : StateT (Session ρ) Option (Option Forced) := fun session =>
  match session.pool[index]? with
  | none => some (none, session)
  | some slot => do
    let (forced, context) ← slot.draw.run session.context
    return (some forced, ⟨context, session.pool.set index forced.slot⟩)

/-- Adds a copy of the slot at an index, memo included, and tells how many slots lie there;
there may be no such slot. -/
def copy (index : Nat) : StateT (Session ρ) Option (Option Nat) := fun session =>
  match session.pool[index]? with
  | none => some (none, session)
  | some slot =>
    let pool := session.pool ++ [slot]
    some (some pool.length, { session with pool })

end Session

end DicePool
