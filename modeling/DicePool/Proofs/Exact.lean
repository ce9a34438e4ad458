import DicePool.Proofs.Calculation

/-!
# Evaluation over the integers

The same evaluation with integers in place of 64-bit values, as calculations. No operation
is refused for the size of its result; counts, sides and cutoffs are read off the integers.
Only the constants of a die are 64-bit values.
-/

namespace DicePool.Exact

/-- A value of a pool that is drawn when it is needed. -/
inductive Slot where
  /-- A value that is known. -/
  | fixed (value : Int)
  /-- One face of a die. -/
  | face (sides : Int)
  /-- The negative of a draw. -/
  | negative (slot : Slot)
  /-- The slot joined with a fresh total of `amount`. -/
  | bonus (op : Arithmetic) (slot : Slot) (amount : Die)
  /-- The sum of draws, the last of which is no hit. -/
  | explode (cmp : Comparison) (cutoff : Int) (slot : Slot)
  /-- One for a hit and zero otherwise. -/
  | threshold (cmp : Comparison) (cutoff : Int) (slot : Slot)
  /-- A slot drawn once while its pool was built, with the value that is not yet handed out. -/
  | drawn (memo : Option Int) (slot : Slot)

/-- The slots of one roll, in order. -/
abbrev Pool := List Slot

/-- Whether an integer is a hit. -/
def hits : Comparison → Int → Int → Bool
  | .above, value, cutoff => cutoff ≤ value
  | .under, value, cutoff => value ≤ cutoff

/-- Whether `left` is kept no later than `right`. -/
def prefers : Selection → Int → Int → Bool
  | .highest, left, right => right ≤ left
  | .lowest, left, right => left ≤ right

/-- The `count` most wanted entries by their integers, most wanted first. -/
def take {α : Type} (selection : Selection) (count : Nat) (drawn : List (Int × α)) :
    List (Int × α) :=
  (drawn.mergeSort fun left right => prefers selection left.1 right.1).take count

/-- The integers added up from the left. -/
def sum (values : List Int) : Calculation Int :=
  values.foldlM (fun total value => Calculation.compute (.apply .add total value)) 0

section

variable (draw : Slot → Calculation (Int × Slot)) (cmp : Comparison) (cutoff : Int)

/-- Goes on adding draws to `total` as long as the last one is a hit. -/
def explodeFrom : Nat → Int → Int → Slot → Calculation (Int × Slot)
  | 0, _, _, _ => .stuck
  | turns + 1, total, last, slot =>
    if hits cmp last cutoff then do
      Calculation.countRoll
      let drawn ← draw slot
      let total ← Calculation.compute (.apply .add total drawn.1)
      explodeFrom turns total drawn.1 drawn.2
    else return (total, slot)

/-- One draw, for which a roll is counted if it hits. -/
def drawCounting (slot : Slot) : Calculation (Int × Slot) := do
  let drawn ← draw slot
  if hits cmp drawn.1 cutoff then Calculation.countRoll
  return drawn

/-- A slot that remembers the integer drawn from it. -/
def remember (drawn : Int × Slot) : Slot := .drawn (some drawn.1) drawn.2

/-- The slots of a generation, and of the generations that its hits start. -/
def generations : Nat → Pool → Calculation Pool
  | _, [] => return []
  | 0, _ => .stuck
  | turns + 1, generation => do
    let drawn ← generation.mapM (drawCounting draw cmp cutoff)
    let again := drawn.filter fun entry => hits cmp entry.1 cutoff
    let later ← generations turns (again.map Prod.snd)
    return drawn.map remember ++ later

end

mutual

/-- The pool of a die. -/
def generate : Nat → Die → Calculation Pool
  | 0, _ => .stuck
  | _ + 1, .constant value => return [.fixed value.toInt]
  | fuel + 1, .dice count sides => do
    let count := (← total fuel count).toNat
    let sides ← total fuel sides
    Calculation.reserve count
    return List.replicate count (.face sides)
  | fuel + 1, .add left right => do
    let left ← generate fuel left
    let right ← generate fuel right
    return left ++ right
  | fuel + 1, .subtract left right => do
    let left ← generate fuel left
    let right ← generate fuel right
    return left ++ right.map .negative
  | fuel + 1, .multiply left right => do
    let left ← total fuel left
    let right ← total fuel right
    return [.fixed (← Calculation.compute (.apply .multiply left right))]
  | fuel + 1, .divide left right => do
    let left ← total fuel left
    let right ← total fuel right
    return [.fixed (← Calculation.compute (.apply .divide left right))]
  | fuel + 1, .negative body => do
    let pool ← generate fuel body
    return pool.map .negative
  | fuel + 1, .bonus op body amount => do
    let pool ← generate fuel body
    return pool.map (.bonus op · amount)
  | fuel + 1, .explode cmp cutoff body => do
    let cutoff ← total fuel cutoff
    let pool ← generate fuel body
    return pool.map (.explode cmp cutoff)
  | fuel + 1, .keep selection count body => do
    let count := (← total fuel count).toNat
    let pool ← generate fuel body
    let drawn ← pool.mapM (draw fuel)
    return (take selection count drawn).map remember
  | fuel + 1, .again cmp cutoff body => do
    let cutoff ← total fuel cutoff
    let pool ← generate fuel body
    generations (draw fuel) cmp cutoff fuel pool
  | fuel + 1, .threshold cmp cutoff body => do
    let cutoff ← total fuel cutoff
    let pool ← generate fuel body
    return pool.map (.threshold cmp cutoff)
  | fuel + 1, .repetition body count => do
    let count := (← total fuel count).toNat
    Calculation.reserve count
    let pools ← (List.replicate count body).mapM fun body => generate fuel body
    return pools.flatten

/-- The sum of the pool of a die, taken when all its slots are drawn. -/
def total : Nat → Die → Calculation Int
  | 0, _ => .stuck
  | fuel + 1, die => do
    let pool ← generate fuel die
    let drawn ← pool.mapM (draw fuel)
    sum (drawn.map Prod.fst)

/-- The integer drawn from a slot, and the slot as it is left. -/
def draw : Nat → Slot → Calculation (Int × Slot)
  | 0, _ => .stuck
  | _ + 1, .fixed value => return (value, .fixed value)
  | _ + 1, .face sides => do
    return (← Calculation.rollFace sides, .face sides)
  | fuel + 1, .negative slot => do
    let drawn ← draw fuel slot
    return (← Calculation.compute (.negate drawn.1), .negative drawn.2)
  | fuel + 1, .bonus op slot amount => do
    let drawn ← draw fuel slot
    let extra ← total fuel amount
    return (← Calculation.compute (.apply op drawn.1 extra), .bonus op drawn.2 amount)
  | fuel + 1, .explode cmp cutoff slot => do
    let drawn ← draw fuel slot
    let last ← explodeFrom (draw fuel) cmp cutoff fuel drawn.1 drawn.1 drawn.2
    return (last.1, .explode cmp cutoff last.2)
  | fuel + 1, .threshold cmp cutoff slot => do
    let drawn ← draw fuel slot
    return (if hits cmp drawn.1 cutoff then 1 else 0, .threshold cmp cutoff drawn.2)
  | _ + 1, .drawn (some value) slot => return (value, .drawn none slot)
  | fuel + 1, .drawn none slot => do
    let drawn ← draw fuel slot
    return (drawn.1, .drawn none drawn.2)

end

/-- The integers of all slots of a die. -/
def values (fuel : Nat) (die : Die) : Calculation (List Int) := do
  let pool ← generate fuel die
  let drawn ← pool.mapM (draw fuel)
  return drawn.map Prod.fst

open Calculation

/-- What is evaluated with so much fuel is kept by more. -/
structure Grows (fuel : Nat) : Prop where
  /-- Generating a die grows. -/
  generate : ∀ die, Below (generate fuel die) (generate (fuel + 1) die)
  /-- Totalling a die grows. -/
  total : ∀ die, Below (total fuel die) (total (fuel + 1) die)
  /-- Drawing from a slot grows. -/
  draw : ∀ slot, Below (draw fuel slot) (draw (fuel + 1) slot)

section

variable {draw further : Slot → Calculation (Int × Slot)}
  (grows : ∀ slot, Below (draw slot) (further slot)) (cmp : Comparison) (cutoff : Int)

include grows in
/-- An exploding slot keeps its outcome when its draws and its turns grow. -/
theorem below_explodeFrom (turns : Nat) : ∀ total last slot,
    Below (explodeFrom draw cmp cutoff turns total last slot)
      (explodeFrom further cmp cutoff (turns + 1) total last slot) := by
  induction turns with
  | zero => exact fun _ _ _ => Below.stuck _
  | succ turns ih =>
    intro total last slot
    rw [explodeFrom, explodeFrom]
    cases hits cmp last cutoff with
    | false => exact Below.refl _
    | true =>
      apply (Below.refl Calculation.countRoll).bind
      intro _
      apply (grows slot).bind
      intro drawn
      apply (Below.refl (compute _)).bind
      intro total
      exact ih total drawn.1 drawn.2

include grows in
/-- Generations keep their outcome when their draws and their turns grow. -/
theorem below_generations (turns : Nat) : ∀ generation,
    Below (generations draw cmp cutoff turns generation)
      (generations further cmp cutoff (turns + 1) generation) := by
  have counting (slot : Slot) :
      Below (drawCounting draw cmp cutoff slot) (drawCounting further cmp cutoff slot) :=
    (grows slot).bind fun _ => Below.refl _
  induction turns with
  | zero =>
    intro generation
    cases generation with
    | nil => exact Below.refl (Pure.pure [])
    | cons slot rest => exact Below.stuck _
  | succ turns ih =>
    intro generation
    cases generation with
    | nil => exact Below.refl (Pure.pure [])
    | cons slot rest =>
      apply (Below.mapM counting (slot :: rest)).bind
      intro drawn
      apply (ih _).bind
      intro later
      exact Below.refl (Pure.pure _)

end

namespace Grows

variable {fuel : Nat}

/-- What is stuck for want of fuel is below everything. -/
theorem zero : Grows 0 where
  generate die := by
    rw [Exact.generate]
    exact Below.stuck _
  total die := by
    rw [Exact.total]
    exact Below.stuck _
  draw slot := by
    rw [Exact.draw]
    exact Below.stuck _

/-- A pool that is made of that of another die. -/
theorem generate_map (known : Grows fuel) (body : Die) (make : Pool → Calculation Pool) :
    Below (Exact.generate fuel body >>= make) (Exact.generate (fuel + 1) body >>= make) :=
  (known.generate body).bind fun pool => Below.refl (make pool)

/-- A pool that is made of those of two dice. -/
theorem generate_both (known : Grows fuel) (first second : Die)
    (make : Pool → Pool → Calculation Pool) :
    Below (do let front ← Exact.generate fuel first
              let behind ← Exact.generate fuel second
              make front behind)
      (do let front ← Exact.generate (fuel + 1) first
          let behind ← Exact.generate (fuel + 1) second
          make front behind) :=
  (known.generate first).bind fun front => known.generate_map second (make front)

/-- A pool that is made of two totals. -/
theorem total_both (known : Grows fuel) (first second : Die)
    (make : Int → Int → Calculation Pool) :
    Below (do let one ← Exact.total fuel first
              let other ← Exact.total fuel second
              make one other)
      (do let one ← Exact.total (fuel + 1) first
          let other ← Exact.total (fuel + 1) second
          make one other) :=
  (known.total first).bind fun one => (known.total second).bind fun other =>
    Below.refl (make one other)

/-- Each die generates from parts that grow. -/
theorem generate_succ (known : Grows fuel) (die : Die) :
    Below (Exact.generate (fuel + 1) die) (Exact.generate (fuel + 1 + 1) die) := by
  cases die <;> rw [Exact.generate, Exact.generate]
  case constant value => exact Below.refl _
  case dice count sides => exact known.total_both count sides _
  case add first second => exact known.generate_both first second _
  case subtract first second => exact known.generate_both first second _
  case multiply first second => exact known.total_both first second _
  case divide first second => exact known.total_both first second _
  case negative body => exact known.generate_map body _
  case bonus op body amount => exact known.generate_map body _
  case explode cmp cutoff body =>
    exact (known.total cutoff).bind fun value => known.generate_map body _
  case keep selection count body =>
    apply (known.total count).bind
    intro count
    apply (known.generate body).bind
    intro pool
    apply (Below.mapM known.draw pool).bind
    intro drawn
    exact Below.refl _
  case again cmp cutoff body =>
    apply (known.total cutoff).bind
    intro cutoff
    apply (known.generate body).bind
    intro pool
    exact below_generations known.draw cmp cutoff fuel pool
  case threshold cmp cutoff body =>
    exact (known.total cutoff).bind fun value => known.generate_map body _
  case repetition body count =>
    apply (known.total count).bind
    intro count
    apply (Below.refl (Calculation.reserve _)).bind
    intro _
    apply (Below.mapM known.generate _).bind
    intro pools
    exact Below.refl _

/-- A total is taken of a pool and of draws that grow. -/
theorem total_succ (known : Grows fuel) (die : Die) :
    Below (Exact.total (fuel + 1) die) (Exact.total (fuel + 1 + 1) die) := by
  rw [Exact.total, Exact.total]
  apply (known.generate die).bind
  intro pool
  apply (Below.mapM known.draw pool).bind
  intro drawn
  exact Below.refl _

/-- Each slot is drawn from parts that grow. -/
theorem draw_succ (known : Grows fuel) (slot : Slot) :
    Below (Exact.draw (fuel + 1) slot) (Exact.draw (fuel + 1 + 1) slot) := by
  cases slot with
  | fixed value =>
    rw [Exact.draw, Exact.draw]
    exact Below.refl _
  | face sides =>
    rw [Exact.draw, Exact.draw]
    exact Below.refl _
  | negative slot | threshold cmp cutoff slot =>
    rw [Exact.draw, Exact.draw]
    exact (known.draw slot).bind fun drawn => Below.refl _
  | bonus op slot amount =>
    rw [Exact.draw, Exact.draw]
    apply (known.draw slot).bind
    intro drawn
    apply (known.total amount).bind
    intro extra
    exact Below.refl _
  | explode cmp cutoff slot =>
    rw [Exact.draw, Exact.draw]
    apply (known.draw slot).bind
    intro drawn
    apply (below_explodeFrom known.draw cmp cutoff fuel _ _ _).bind
    intro last
    exact Below.refl _
  | drawn memo slot =>
    cases memo with
    | some value =>
      rw [Exact.draw, Exact.draw]
      exact Below.refl _
    | none =>
      rw [Exact.draw, Exact.draw]
      exact (known.draw slot).bind fun drawn => Below.refl _

end Grows

/-- Generating, totalling and drawing grow with the fuel. -/
theorem grows (fuel : Nat) : Grows fuel := by
  induction fuel with
  | zero => exact Grows.zero
  | succ fuel known => exact ⟨known.generate_succ, known.total_succ, known.draw_succ⟩

/-- The values of a die grow with the fuel. -/
theorem below_values (fuel : Nat) (die : Die) :
    Below (values fuel die) (values (fuel + 1) die) := by
  have known := grows fuel
  apply (known.generate die).bind
  intro pool
  apply (Below.mapM known.draw pool).bind
  intro drawn
  exact Below.refl _

end DicePool.Exact
