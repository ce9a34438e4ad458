import DicePool.Proofs.Slotwise

/-!
# Repetition as iterated addition

Generating dice one after the other is associative, and a die without slots is neutral for it. So
a number of copies of a die are a power of it, however they are added up. A repetition is that
power, once the budget covers as many rolls as there are copies.
-/

namespace DicePool

/-- What generating comes to from a context, and the context it leaves. -/
def Generation (ρ : Type) : Type := Context ρ → Except RollError Pool → Context ρ → Prop

namespace Generation

variable {ρ : Type} {first second third : Generation ρ} {context after : Context ρ}
  {result : Except RollError Pool}

/-- Generations are the same when they end in the same ways. -/
@[ext]
theorem ext (same : ∀ context result after,
    first context result after ↔ second context result after) : first = second := by
  funext context result after
  exact propext (same context result after)

/-- There are no slots, and the context is left alone. -/
instance : One (Generation ρ) := ⟨fun context result after => result = .ok [] ∧ after = context⟩

/-- One generation after the other: the slots of both, or the first refusal. -/
instance : Mul (Generation ρ) := ⟨fun first second context result after =>
  (∃ error, first context (.error error) after ∧ result = .error error) ∨
    ∃ pool reached, first context (.ok pool) reached ∧
      ∃ outcome, second reached outcome after ∧ result = outcome.map (pool ++ ·)⟩

/-- The neutral generation makes no slots. -/
theorem one_iff : (1 : Generation ρ) context result after ↔ result = .ok [] ∧ after = context :=
  Iff.rfl

/-- Two generations end where the first is refused, or where the second ends behind it. -/
theorem mul_iff : (first * second) context result after ↔
    (∃ error, first context (.error error) after ∧ result = .error error) ∨
      ∃ pool reached, first context (.ok pool) reached ∧
        ∃ outcome, second reached outcome after ∧ result = outcome.map (pool ++ ·) := Iff.rfl

/-- Two generations make the slots of both. -/
theorem mul_ok_iff {pool : Pool} : (first * second) context (.ok pool) after ↔
    ∃ front reached, first context (.ok front) reached ∧
      ∃ behind, second reached (.ok behind) after ∧ pool = front ++ behind := by
  simp [mul_iff, exists_ok_eq_map_iff]

/-- Two generations are refused at the first or behind it. -/
theorem mul_error_iff {error : RollError} : (first * second) context (.error error) after ↔
    first context (.error error) after ∨
      ∃ front reached, first context (.ok front) reached ∧ second reached (.error error) after := by
  simp [mul_iff, exists_error_eq_map_iff]

/-- The generation with something made of its slots. -/
def each (make : Pool → Pool) (generation : Generation ρ) : Generation ρ :=
  fun context result after =>
    ∃ outcome, generation context outcome after ∧ result = outcome.map make

/-- Making nothing of the slots leaves the generation as it is. -/
theorem each_id : first.each id = first := by
  have same (outcome : Except RollError Pool) : outcome.map id = outcome := by
    cases outcome <;> rfl
  ext context result after
  simp [each, same]

/-- What is made of the second pool stands behind the first one. -/
theorem mul_each_iff {make : Pool → Pool} : (first * second.each make) context result after ↔
    (∃ error, first context (.error error) after ∧ result = .error error) ∨
      ∃ pool reached, first context (.ok pool) reached ∧
        ∃ outcome, second reached outcome after ∧
          result = outcome.map fun behind => pool ++ make behind := by
  have twice (pool : Pool) (outcome : Except RollError Pool) :
      (outcome.map make).map (pool ++ ·) = outcome.map fun behind => pool ++ make behind := by
    cases outcome <;> rfl
  simp [mul_iff, each, twice]

/-- Generating one after the other is associative, and generating nothing is neutral for it. -/
instance : Monoid (Generation ρ) where
  mul_assoc first second third := by
    ext context result after
    cases result with
    | error error =>
      simp only [mul_error_iff, mul_ok_iff]
      constructor
      · rintro ((refused | ⟨front, reached, made, refused⟩) |
          ⟨-, middle, ⟨front, reached, made, behind, later, rfl⟩, refused⟩)
        · exact .inl refused
        · exact .inr ⟨front, reached, made, .inl refused⟩
        · exact .inr ⟨front, reached, made, .inr ⟨behind, middle, later, refused⟩⟩
      · rintro (refused | ⟨front, reached, made, refused | ⟨behind, middle, later, refused⟩⟩)
        · exact .inl (.inl refused)
        · exact .inl (.inr ⟨front, reached, made, refused⟩)
        · exact .inr ⟨_, middle, ⟨front, reached, made, behind, later, rfl⟩, refused⟩
    | ok pool =>
      simp only [mul_ok_iff]
      constructor
      · rintro ⟨-, middle, ⟨front, reached, made, behind, later, rfl⟩, last, latest, rfl⟩
        exact ⟨front, reached, made, behind ++ last, ⟨behind, middle, later, last, latest, rfl⟩,
          List.append_assoc front behind last⟩
      · rintro ⟨front, reached, made, -, ⟨behind, middle, later, last, latest, rfl⟩, rfl⟩
        exact ⟨front ++ behind, middle, ⟨front, reached, made, behind, later, rfl⟩, last, latest,
          (List.append_assoc front behind last).symm⟩
  one_mul generation := by
    ext context result after
    cases result with
    | error error => simp [mul_error_iff, one_iff]
    | ok pool => simp [mul_ok_iff, one_iff]
  mul_one generation := by
    ext context result after
    cases result with
    | error error => simp [mul_error_iff, one_iff]
    | ok pool => simp [mul_ok_iff, one_iff]

end Generation

section

variable {ρ : Type}

/-- In contexts without a budget the generations do the same, and leave them without one. Under a
budget a repetition and its copies may differ, as only the repetition makes a reservation. -/
structure SameUnbounded (first second : Generation ρ) : Prop where
  /-- Both end in the same ways. -/
  iff : ∀ context result after, context.budget = none →
    (first context result after ↔ second context result after)
  /-- The context that is left has no budget either. -/
  keeps : ∀ context result after, context.budget = none → first context result after →
    after.budget = none

namespace SameUnbounded

variable {first second third fourth : Generation ρ}

/-- Nothing is generated with or without a budget. -/
theorem one : SameUnbounded (1 : Generation ρ) 1 where
  iff _ _ _ _ := Iff.rfl
  keeps context result after unbounded ends := by
    obtain ⟨-, rfl⟩ := Generation.one_iff.1 ends
    exact unbounded

/-- Two generations are the same without a budget when each of them is. -/
theorem mul (front : SameUnbounded first second) (behind : SameUnbounded third fourth) :
    SameUnbounded (first * third) (second * fourth) where
  iff context result after unbounded := by
    rw [Generation.mul_iff, Generation.mul_iff]
    simp only [← front.iff _ _ _ unbounded]
    refine or_congr_right (exists_congr fun pool => exists_congr fun reached => ?_)
    refine and_congr_right fun made => exists_congr fun outcome => ?_
    rw [behind.iff reached outcome after (front.keeps _ _ _ unbounded made)]
  keeps context result after unbounded ends := by
    obtain ⟨error, refused, -⟩ | ⟨pool, reached, made, outcome, later, -⟩ :=
      Generation.mul_iff.1 ends
    · exact front.keeps _ _ _ unbounded refused
    · have still := front.keeps _ _ _ unbounded made
      exact behind.keeps _ _ _ still later

/-- So are any number of them. -/
theorem pow (same : SameUnbounded first second) (count : Nat) :
    SameUnbounded (first ^ count) (second ^ count) := by
  induction count with
  | zero =>
    rw [pow_zero, pow_zero]
    exact one
  | succ count ih =>
    rw [pow_succ, pow_succ]
    exact ih.mul same

end SameUnbounded

end

section

variable {ρ : Type} [Roller ρ] {body left right joined : Die} {context after : Context ρ}
  {result : Except RollError Pool} {number : Nat}

/-- The generation of the pool of a die. -/
def Die.generation (ρ : Type) [Roller ρ] (die : Die) : Generation ρ := die.GeneratesTo

/-- A die that generates two others, and makes something of the second pool. -/
theorem Die.generation_eq_mul {die : Die} {make : Pool → Pool}
    (sequence : ∀ fuel, (die.generate (fuel + 1) : Rolling ρ Pool) =
      (do let front ← left.generate fuel
          let behind ← right.generate fuel
          return front ++ make behind)) :
    die.generation ρ = left.generation ρ * (right.generation ρ).each make := by
  ext context result after
  have steady (front : Pool) : Steady fun fuel =>
      (do let behind ← right.generate fuel
          return front ++ make behind : Rolling ρ Pool) :=
    right.steady_generate.map fun behind => front ++ make behind
  rw [Generation.mul_each_iff]
  show die.GeneratesTo context result after ↔ _
  unfold Die.GeneratesTo
  rw [← die.steady_generate.exists_add_iff 1]
  simp only [sequence, left.steady_generate.exists_bind_iff steady, exists_bind_pure_iff]
  rfl

/-- A sum generates its dice one after the other. -/
theorem Die.generation_add :
    (Die.add left right).generation ρ = left.generation ρ * right.generation ρ := by
  have both : (Die.add left right).generation ρ =
      left.generation ρ * (right.generation ρ).each id :=
    generation_eq_mul fun fuel => by
      rw [Die.generate]
      rfl
  rw [both, Generation.each_id]

/-- Taking a die off is adding its negative. -/
theorem Die.generation_subtract :
    (Die.subtract left right).generation ρ = (Die.add left (.negative right)).generation ρ := by
  have both : (Die.subtract left right).generation ρ =
      left.generation ρ * (right.generation ρ).each (List.map .negative) :=
    generation_eq_mul fun fuel => by rw [Die.generate]
  have negative : (Die.negative right).generation ρ =
      (right.generation ρ).each (List.map .negative) := by
    ext context result after
    exact SlotOperation.negate.die_generatesTo_iff
  rw [both, generation_add, negative]

/-- The dice that add up so many copies of a die, in whatever order they do. -/
inductive Joins (body : Die) : Nat → Die → Prop where
  /-- The die itself is one copy. -/
  | one : Joins body 1 body
  /-- The copies of two sums are added up. -/
  | add {front behind : Nat} {left right : Die} : Joins body front left →
      Joins body behind right → Joins body (front + behind) (.add left right)

/-- However copies are added up, they are generated one after the other. -/
theorem Joins.generation (joins : Joins body number joined) :
    joined.generation ρ = body.generation ρ ^ number := by
  induction joins with
  | one => rw [pow_one]
  | add _ _ front behind => rw [Die.generation_add, front, behind, pow_add]

/-- The pools of copies of a die, one after the other. -/
def Die.copies (fuel : Nat) (count : Nat) (body : Die) : Rolling ρ Pool := do
  let pools ← (List.replicate count body).mapM fun body => body.generate fuel
  return pools.flatten

/-- More fuel keeps the slots of the copies. -/
theorem Die.steady_copies (count : Nat) (body : Die) :
    Steady fun fuel => (body.copies fuel count : Rolling ρ Pool) :=
  (Steady.mapM Die.steady_generate (List.replicate count body)).map List.flatten

/-- The first copy is generated before the others. -/
theorem Die.copies_succ (fuel count : Nat) (body : Die) :
    (body.copies fuel (count + 1) : Rolling ρ Pool) =
      (do let pool ← body.generate fuel
          let later ← body.copies fuel count
          return pool ++ later) := by
  simp only [copies, List.replicate_succ, List.mapM_cons, bind_assoc, pure_bind, List.flatten_cons]

/-- Copies are generated as a power. -/
theorem Die.exists_copies_iff (count : Nat) :
    (∃ fuel, body.copies fuel count context = some (result, after)) ↔
      (body.generation ρ ^ count) context result after := by
  induction count generalizing context result with
  | zero =>
    rw [pow_zero, Generation.one_iff]
    constructor
    · rintro ⟨fuel, ends⟩
      cases ends
      exact ⟨rfl, rfl⟩
    · rintro ⟨rfl, rfl⟩
      exact ⟨0, rfl⟩
  | succ count ih =>
    have steady (pool : Pool) : Steady fun fuel =>
        (do let later ← body.copies fuel count
            return pool ++ later : Rolling ρ Pool) :=
      (body.steady_copies count).map (pool ++ ·)
    simp only [copies_succ, body.steady_generate.exists_bind_iff steady, exists_bind_pure_iff, ih]
    rw [pow_succ', Generation.mul_iff]
    rfl

/-- A repetition is refused, or else it generates its copies. -/
theorem Die.repetition_generatesTo_iff (count : Int64) :
    (Die.repetition body (.constant count)).GeneratesTo context result after ↔
      if context.exceeds (context.after (quantity count)) then
        result = .error .tooManyRolls ∧ after = context
      else (body.generation ρ ^ quantity count) context result after := by
  have sequence (fuel : Nat) :
      ((Die.repetition body (.constant count)).generate (fuel + 3) : Rolling ρ Pool) =
        (reserve (quantity count) >>= fun _ => body.copies (fuel + 2) (quantity count)) := by
    rw [Die.generate, Die.total_constant, pure_bind]
    rfl
  unfold GeneratesTo
  rw [← (Die.steady_generate _).exists_add_iff 3]
  simp only [sequence, reserve_bind_apply]
  split
  · constructor
    · rintro ⟨fuel, ends⟩
      cases ends
      exact ⟨rfl, rfl⟩
    · rintro ⟨rfl, rfl⟩
      exact ⟨0, rfl⟩
  · rw [(body.steady_copies _).exists_add_iff 2, exists_copies_iff]

/-- Without a budget no repetition is refused. -/
theorem Die.repetition_generatesTo_unbounded (unbounded : context.budget = none) (count : Int64) :
    (Die.repetition body (.constant count)).GeneratesTo context result after ↔
      (body.generation ρ ^ quantity count) context result after := by
  rw [Die.repetition_generatesTo_iff, Context.exceeds_of_unbounded unbounded]
  rfl

/-- Without a budget a repetition is a power of its body, in every context that is reached. -/
theorem Die.sameUnbounded_repetition (count : Int64) :
    SameUnbounded ((Die.repetition body (.constant count)).generation ρ)
      (body.generation ρ ^ quantity count) where
  iff context result after unbounded := Die.repetition_generatesTo_unbounded unbounded count
  keeps context result after unbounded := by
    rintro ⟨fuel, ends⟩
    have still := ((followsScripts fuel).generate _).budget_of_run ends
    rw [still, unbounded]

/-- The quantity of a product is the product of the quantities. -/
theorem quantity_mul {left right product : Int64} (leftNonneg : 0 ≤ left)
    (rightNonneg : 0 ≤ right) (fits : product.toInt = left.toInt * right.toInt) :
    quantity product = quantity left * quantity right := by
  have first : 0 ≤ left.toInt := Int64.le_iff_toInt_le.1 leftNonneg
  have second : 0 ≤ right.toInt := Int64.le_iff_toInt_le.1 rightNonneg
  rw [quantity, fits, Int.toNat_mul first second]
  rfl

/-- Without a budget, repeating a repetition is repeating the body as often as both say together. -/
theorem Die.repetition_repetition_generatesTo_iff (unbounded : context.budget = none)
    {inner outer product : Int64} (innerNonneg : 0 ≤ inner) (outerNonneg : 0 ≤ outer)
    (fits : product.toInt = inner.toInt * outer.toInt) :
    (Die.repetition (.repetition body (.constant inner)) (.constant outer)).GeneratesTo
        context result after ↔
      (Die.repetition body (.constant product)).GeneratesTo context result after := by
  have powers := (body.sameUnbounded_repetition (ρ := ρ) inner).pow (quantity outer)
  rw [repetition_generatesTo_unbounded unbounded, repetition_generatesTo_unbounded unbounded,
    powers.iff _ _ _ unbounded, ← pow_mul, quantity_mul innerNonneg outerNonneg fits]

end

/-- A repetition that the budget covers generates what its copies do, however they are added up, and
is refused at once otherwise. Taking a die off is adding its negative. -/
theorem repetition_iterates_addition (ρ : Type) [Roller ρ] (body : Die) (context : Context ρ) :
    (∀ count : Int64, (∀ most, context.budget = some most →
        min (context.rolls + quantity count) rollLimit ≤ most) →
      ∀ joined, Joins body (quantity count) joined →
        let repeated := Die.repetition body (.constant count)
        (∀ result after,
          repeated.GeneratesTo context result after ↔ joined.GeneratesTo context result after) ∧
        ∀ most, context.budget = some most → most < rollLimit →
          repeated.slots context = joined.slots context) ∧
    (∀ (count : Int64) (most : Nat), context.budget = some most →
      most < min (context.rolls + quantity count) rollLimit →
      let repeated := Die.repetition body (.constant count)
      (∀ result after, repeated.GeneratesTo context result after ↔
        result = .error .tooManyRolls ∧ after = context) ∧
      repeated.slots context = some (.error .tooManyRolls, context)) ∧
    (context.budget = none → ∀ inner outer product : Int64, 0 ≤ inner → 0 ≤ outer →
      product.toInt = inner.toInt * outer.toInt → ∀ result after,
        (Die.repetition (.repetition body (.constant inner)) (.constant outer)).GeneratesTo
            context result after ↔
          (Die.repetition body (.constant product)).GeneratesTo context result after) ∧
    ∀ left right : Die,
      let taken := Die.subtract left right
      let added := Die.add left (.negative right)
      (∀ result after,
        taken.GeneratesTo context result after ↔ added.GeneratesTo context result after) ∧
      ∀ most, context.budget = some most → most < rollLimit →
        taken.slots context = added.slots context := by
  refine ⟨?_, ?_, ?_, ?_⟩
  · intro count covered joined joins repeated
    have free : context.exceeds (context.after (quantity count)) = false :=
      Context.exceeds_eq_false_iff.2 covered
    have same (result : Except RollError Pool) (after : Context ρ) :
        repeated.GeneratesTo context result after ↔ joined.GeneratesTo context result after := by
      have power : joined.generation ρ = body.generation ρ ^ quantity count := joins.generation
      rw [Die.repetition_generatesTo_iff, free, ← power]
      rfl
    exact ⟨same, fun most bounded room => Die.slots_eq_slots room bounded same⟩
  · intro count most bounded beyond repeated
    have refused : context.exceeds (context.after (quantity count)) = true :=
      Context.exceeds_eq_true_iff.2 ⟨most, bounded, beyond⟩
    have only (result : Except RollError Pool) (after : Context ρ) :
        repeated.GeneratesTo context result after ↔
          result = .error .tooManyRolls ∧ after = context := by
      rw [Die.repetition_generatesTo_iff, refused]
      rfl
    have room : most < rollLimit := Nat.lt_of_lt_of_le beyond (Nat.min_le_right _ _)
    exact ⟨only, (Die.slots_eq_some_iff room bounded).2 ((only _ _).2 ⟨rfl, rfl⟩)⟩
  · intro unbounded inner outer product innerNonneg outerNonneg fits result after
    exact Die.repetition_repetition_generatesTo_iff unbounded innerNonneg outerNonneg fits
  · intro left right taken added
    have same (result : Except RollError Pool) (after : Context ρ) :
        taken.GeneratesTo context result after ↔ added.GeneratesTo context result after :=
      Generation.ext_iff.1 Die.generation_subtract context result after
    exact ⟨same, fun most bounded room => Die.slots_eq_slots room bounded same⟩

/-- Three copies of a kept face are covered by a budget of eight rolls and nine are not; without a
budget two copies of two are four. -/
theorem repetition_iterates_addition_kept :
    let cycle (taken : Nat) : FaceCycle := ⟨[3, 5, 2], by decide, taken⟩
    let start : Context FaceCycle := Context.start (some 8) (cycle 0)
    let free : Context FaceCycle := Context.start none (cycle 0)
    let body := Die.keep .highest (.constant 1) (.dice (.constant 2) (.constant 6))
    let kept (value : Int64) := Slot.drawn (.resolved value) (.face 6)
    let after : Context FaceCycle := ⟨none, 8, cycle 8⟩
    start.budget = some 8 ∧ min (start.rolls + quantity 3) rollLimit ≤ 8 ∧ 8 < rollLimit ∧
    Joins body (quantity 3) (.add body (.add body body)) ∧
    (Die.repetition body (.constant 3)).slots start = (Die.add body (.add body body)).slots start ∧
    8 < min (start.rolls + quantity 9) rollLimit ∧
    (Die.repetition body (.constant 9)).slots start = some (.error .tooManyRolls, start) ∧
    (Die.subtract body body).slots start = (Die.add body (.negative body)).slots start ∧
    free.budget = none ∧ (0 : Int64) ≤ 2 ∧
    (4 : Int64).toInt = (2 : Int64).toInt * (2 : Int64).toInt ∧
    (Die.repetition (.repetition body (.constant 2)) (.constant 2)).GeneratesTo free
      (.ok [kept 5, kept 3, kept 5, kept 5]) after := by
  intro cycle start free body kept after
  have bounded : start.budget = some 8 := rfl
  have covered : min (start.rolls + quantity 3) rollLimit ≤ 8 := by decide
  have room : 8 < rollLimit := by decide
  have three : quantity 3 = 1 + (1 + 1) := by decide
  have joins : Joins body (quantity 3) (.add body (.add body body)) := by
    rw [three]
    exact .add .one (.add .one .one)
  have beyond : 8 < min (start.rolls + quantity 9) rollLimit := by decide
  have unbounded : free.budget = none := rfl
  have nonneg : (0 : Int64) ≤ 2 := by decide
  have fits : (4 : Int64).toInt = (2 : Int64).toInt * (2 : Int64).toInt := by decide
  have once : (Die.repetition body (.constant 4)).GeneratesTo free
      (.ok [kept 5, kept 3, kept 5, kept 5]) after := ⟨9, by cbv⟩
  obtain ⟨iterates, refuses, -, subtracts⟩ := repetition_iterates_addition FaceCycle body start
  obtain ⟨-, -, nests, -⟩ := repetition_iterates_addition FaceCycle body free
  have least (most : Nat) (same : start.budget = some most) :
      min (start.rolls + quantity 3) rollLimit ≤ most := by
    cases same
    exact covered
  have slots := (iterates 3 least _ joins).2 8 bounded room
  have refused := (refuses 9 8 bounded beyond).2
  have taken := (subtracts body body).2 8 bounded room
  have twice := (nests unbounded 2 2 4 nonneg nonneg fits _ _).2 once
  exact ⟨bounded, covered, room, joins, slots, beyond, refused, taken, unbounded, nonneg, fits,
    twice⟩

end DicePool
