import DicePool.Proofs.Agreement
import DicePool.Proofs.Steady

/-!
# Evaluations without regard to fuel

Fuel decides only whether an evaluation ends: more of it keeps the outcome. So an evaluation
has one outcome at most, whatever fuel it takes. Under a budget it has one, and an amount of
fuel that depends on the die and the budget alone is enough for it.
-/

namespace DicePool

variable {ρ α β : Type} [Roller ρ]

/-- A computation for every amount of fuel, with the calculation over the integers that it agrees
with. Both do more the more fuel they get. -/
structure Evaluation (ρ : Type) [Roller ρ] (α β : Type) where
  /-- The computation with so much fuel. -/
  code : Nat → Rolling ρ α
  /-- The calculation with so much fuel. -/
  plan : Nat → Calculation β
  /-- How the calculation shows a value of the computation. -/
  view : α → β
  /-- The view tells values apart. -/
  injective : ∀ left right, view left = view right → left = right
  /-- The computation agrees with the calculation. -/
  agrees : ∀ fuel, Agrees view (code fuel) (plan fuel)
  /-- The calculation grows with the fuel. -/
  grows : ∀ fuel, Calculation.Below (plan fuel) (plan (fuel + 1))

namespace Evaluation

variable {evaluation : Evaluation ρ α β} {context after : Context ρ} {result : Except RollError α}

/-- One evaluation ends so, with whatever fuel it takes. -/
def EndsIn (evaluation : Evaluation ρ α β) (context : Context ρ) (result : Except RollError α)
    (after : Context ρ) : Prop :=
  ∃ fuel, evaluation.code fuel { context with rolls := 0 } = some (result, after)

/-- More fuel keeps the outcome. -/
theorem steady (evaluation : Evaluation ρ α β) : Steady evaluation.code := by
  intro fuel more context result after le ends
  have agrees (fuel : Nat) : evaluation.code fuel context = some (result, after) ↔
      ∃ outcome, (evaluation.plan fuel).checked context = some (outcome, after) ∧
        Matches evaluation.view result outcome :=
    (evaluation.agrees fuel).eq_some_iff evaluation.injective
  obtain ⟨outcome, checked, matching⟩ := (agrees fuel).1 ends
  have kept : (evaluation.plan more).checked context = some (outcome, after) :=
    Calculation.Below.run_of_le evaluation.grows le checked
  exact (agrees more).2 ⟨outcome, kept, matching⟩

/-- There is one outcome at most. -/
theorem EndsIn.unique {other : Except RollError α} {last : Context ρ}
    (first : evaluation.EndsIn context result after)
    (second : evaluation.EndsIn context other last) : result = other ∧ after = last := by
  obtain ⟨fuel, ends⟩ := first
  obtain ⟨more, stops⟩ := second
  exact evaluation.steady.unique ends stops

end Evaluation

namespace Die

variable {die : Die} {context after : Context ρ}

/-- The evaluation of the total of a die. -/
def totalling (ρ : Type) [Roller ρ] (die : Die) : Evaluation ρ Int64 Int where
  code fuel := die.total fuel
  plan fuel := Exact.total fuel die
  view := Int64.toInt
  injective _ _ := Int64.toInt_inj.1
  agrees fuel := (agreesWith ρ fuel).total die
  grows fuel := (Exact.grows fuel).total die

/-- The evaluation of the values of all slots of a die. -/
def pooling (ρ : Type) [Roller ρ] (die : Die) : Evaluation ρ (List Int64) (List Int) where
  code fuel := die.values fuel
  plan fuel := Exact.values fuel die
  view := List.map Int64.toInt
  injective _ _ := (List.map_inj_right fun _ _ => Int64.toInt_inj.1).1
  agrees fuel := (agreesWith ρ fuel).values die
  grows fuel := Exact.below_values fuel die

/-- Rolling the die ends so, with whatever fuel it takes. -/
def RollsTo (die : Die) (context : Context ρ) (result : Except RollError Int64)
    (after : Context ρ) : Prop :=
  ∃ fuel, die.total fuel { context with rolls := 0 } = some (result, after)

/-- Pooling the die ends so, with whatever fuel it takes. -/
def PoolsTo (die : Die) (context : Context ρ) (result : Except RollError (List Int64))
    (after : Context ρ) : Prop :=
  ∃ fuel, die.values fuel { context with rolls := 0 } = some (result, after)

/-- Rolling has one outcome at most. -/
theorem RollsTo.unique {result other : Except RollError Int64} {last : Context ρ}
    (first : die.RollsTo context result after) (second : die.RollsTo context other last) :
    result = other ∧ after = last := by
  have ends : (die.totalling ρ).EndsIn context result after := first
  exact ends.unique second

/-- Pooling has one outcome at most. -/
theorem PoolsTo.unique {result other : Except RollError (List Int64)} {last : Context ρ}
    (first : die.PoolsTo context result after) (second : die.PoolsTo context other last) :
    result = other ∧ after = last := by
  have ends : (die.pooling ρ).EndsIn context result after := first
  exact ends.unique second

section

variable {most : Nat} (room : most < rollLimit) (bounded : context.budget = some most)

include room bounded

/-- Under a budget, rolling finds the outcome. -/
theorem roll_eq_some_iff {result : Except RollError Int64} :
    die.roll context = some (result, after) ↔ die.RollsTo context result after := by
  refine ⟨fun ends => ⟨_, ends⟩, fun outcome => ?_⟩
  obtain ⟨known, reached, ends, -⟩ := die.roll_ends room bounded
  obtain ⟨rfl, rfl⟩ := outcome.unique ⟨_, ends⟩
  exact ends

/-- Under a budget, pooling finds the outcome. -/
theorem pool_eq_some_iff {result : Except RollError (List Int64)} :
    die.pool context = some (result, after) ↔ die.PoolsTo context result after := by
  refine ⟨fun ends => ⟨_, ends⟩, fun outcome => ?_⟩
  obtain ⟨known, reached, ends, -⟩ := die.pool_ends room bounded
  obtain ⟨rfl, rfl⟩ := outcome.unique ⟨_, ends⟩
  exact ends

/-- Under a budget, dice that pool to the same outcomes are pooled alike. -/
theorem pool_eq_pool {other : Die} (same : ∀ result after,
    die.PoolsTo context result after ↔ other.PoolsTo context result after) :
    die.pool context = other.pool context := by
  obtain ⟨result, reached, ends, -⟩ := die.pool_ends room bounded
  have outcome := (die.pool_eq_some_iff room bounded).1 ends
  have others := (other.pool_eq_some_iff room bounded).2 ((same result reached).1 outcome)
  rw [ends, others]

end

/-- Fuel that is enough for a die under a budget, whatever faces are drawn. -/
def enoughFuel (die : Die) (most : Nat) : Nat := 2 * die.size + most + 3

end Die

/-- Under a budget every evaluation ends, with fuel that depends on the die and the budget alone. -/
theorem evaluation_ends_with_enough_fuel (die : Die) {most fuel : Nat} (room : most < rollLimit)
    (enough : die.enoughFuel most ≤ fuel) (ρ : Type) [Roller ρ] {context : Context ρ}
    (bounded : context.budget = some most) :
    (∃ result after, die.roll context = some (result, after) ∧
      die.total fuel { context with rolls := 0 } = some (result, after)) ∧
    ∃ result after, die.pool context = some (result, after) ∧
      die.values fuel { context with rolls := 0 } = some (result, after) := by
  have known := endsWith ρ room fuel
  have restarted : ({ context with rolls := 0 } : Context ρ).budget = some most := bounded
  unfold Die.enoughFuel at enough
  constructor
  · have total := known.total die enough (most + 1) (Nat.le_refl _)
    obtain ⟨result, after, ends, -⟩ := total.run restarted
    exact ⟨result, after, (Die.roll_eq_some_iff room bounded).2 ⟨fuel, ends⟩, ends⟩
  · have values := known.values die (by omega)
    obtain ⟨result, after, ends, -⟩ := values.run restarted
    exact ⟨result, after, (Die.pool_eq_some_iff room bounded).2 ⟨fuel, ends⟩, ends⟩

/-- A slot that explodes over slots that are rolled again over kept ones, with a bonus that
explodes itself and a hit that draws no face. -/
theorem evaluation_ends_with_enough_fuel_nested :
    let cycle : FaceCycle := ⟨[6, 5, 6], by decide, 0⟩
    let kept := Die.keep .highest (.constant 1) (.dice (.constant 2) (.constant 6))
    let amount := Die.explode .above (.constant 6) (.add (.dice (.constant 1) (.constant 6))
      (.constant 6))
    let die := Die.explode .above (.constant 2) (.again .above (.constant 5)
      (.bonus .add kept amount))
    let context := Context.start (some 9) cycle
    9 < rollLimit ∧ die.enoughFuel 9 ≤ 50 ∧ context.budget = some 9 ∧
    (∃ result after, die.roll context = some (result, after) ∧
      die.total 50 { context with rolls := 0 } = some (result, after)) ∧
    ∃ result after, die.pool context = some (result, after) ∧
      die.values 50 { context with rolls := 0 } = some (result, after) := by
  intro cycle kept amount die context
  have room : 9 < rollLimit := by decide
  have enough : die.enoughFuel 9 ≤ 50 := by decide
  have bounded : context.budget = some 9 := rfl
  exact ⟨room, enough, bounded,
    evaluation_ends_with_enough_fuel die room enough FaceCycle bounded⟩

end DicePool
