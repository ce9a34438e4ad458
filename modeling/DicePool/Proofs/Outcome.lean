import DicePool.Proofs.Fuel

/-!
# Outcomes on top of the rolls counted so far

Generating a die, totalling it and drawing from a pool can start in any context, in the middle
of an evaluation too. Each has one outcome there at most, whatever fuel it takes: integers in
place of 64-bit values tell slots apart as well, and over the integers more fuel keeps what is
reached.
-/

namespace DicePool

variable {ρ : Type}

/-- The slot whose 64-bit values are the integers of the given one, which has to have come from
such a slot for its integers to be kept. -/
def Exact.Slot.narrow : Exact.Slot → DicePool.Slot
  | fixed value => .fixed (.ofInt value)
  | face sides => .face (.ofInt sides)
  | negative slot => .negative slot.narrow
  | bonus op slot amount => .bonus op slot.narrow amount
  | explode cmp cutoff slot => .explode cmp (.ofInt cutoff) slot.narrow
  | threshold cmp cutoff slot => .threshold cmp (.ofInt cutoff) slot.narrow
  | drawn (some value) slot => .drawn (.resolved (.ofInt value)) slot.narrow
  | drawn none slot => .drawn .spent slot.narrow

/-- A slot is restored from its integers. -/
theorem Slot.narrow_exact (slot : Slot) : slot.exact.narrow = slot := by
  induction slot with
  | fixed value => rw [exact, Exact.Slot.narrow, Int64.ofInt_toInt]
  | face sides => rw [exact, Exact.Slot.narrow, Int64.ofInt_toInt]
  | negative slot ih => rw [exact, Exact.Slot.narrow, ih]
  | bonus op slot amount ih => rw [exact, Exact.Slot.narrow, ih]
  | explode cmp cutoff slot ih => rw [exact, Exact.Slot.narrow, Int64.ofInt_toInt, ih]
  | threshold cmp cutoff slot ih => rw [exact, Exact.Slot.narrow, Int64.ofInt_toInt, ih]
  | drawn memo slot ih =>
    cases memo with
    | resolved value => rw [exact, Exact.Slot.narrow, Int64.ofInt_toInt, ih]
    | spent => rw [exact, Exact.Slot.narrow, ih]

/-- Slots are told apart by their integers. -/
theorem Slot.exact_injective (left right : Slot) (same : left.exact = right.exact) :
    left = right := by
  rw [← left.narrow_exact, same, right.narrow_exact]

/-- Draws are told apart by their integers. -/
theorem exactEntry_injective (left right : Int64 × Slot)
    (same : exactEntry left = exactEntry right) : left = right := by
  have values : left.1.toInt = right.1.toInt := congrArg Prod.fst same
  have slots : left.2.exact = right.2.exact := congrArg Prod.snd same
  exact Prod.ext (Int64.toInt_inj.1 values) (Slot.exact_injective _ _ slots)

namespace Die

/-- Totalling the die from the context ends so, with whatever fuel it takes. -/
def TotalsTo [Roller ρ] (die : Die) (context : Context ρ) (result : Except RollError Int64)
    (after : Context ρ) : Prop :=
  ∃ fuel, die.total fuel context = some (result, after)

/-- Generating the die from the context ends so, with whatever fuel it takes. -/
def GeneratesTo [Roller ρ] (die : Die) (context : Context ρ) (result : Except RollError Pool)
    (after : Context ρ) : Prop :=
  ∃ fuel, die.generate fuel context = some (result, after)

/-- Taking the values of all slots of the die from the context ends so, with whatever fuel it
takes. -/
def ValuesTo [Roller ρ] (die : Die) (context : Context ρ)
    (result : Except RollError (List Int64)) (after : Context ρ) : Prop :=
  ∃ fuel, die.values fuel context = some (result, after)

end Die

/-- Drawing from the slot in the context ends so, with whatever fuel it takes. -/
def Slot.DrawsTo [Roller ρ] (slot : Slot) (context : Context ρ)
    (result : Except RollError (Int64 × Slot)) (after : Context ρ) : Prop :=
  ∃ fuel, drawFrom (Slot.force fuel) slot context = some (result, after)

/-- Drawing from every slot of the pool in the context ends so, with whatever fuel it takes. -/
def Pool.DrawsTo [Roller ρ] (pool : Pool) (context : Context ρ)
    (result : Except RollError (List (Int64 × Slot))) (after : Context ρ) : Prop :=
  ∃ fuel, drawAll (Slot.force fuel) pool context = some (result, after)

section

variable [Roller ρ]

/-- The evaluation of the pool of a die. -/
def Die.generating (ρ : Type) [Roller ρ] (die : Die) : Evaluation ρ Pool Exact.Pool where
  code fuel := die.generate fuel
  plan fuel := Exact.generate fuel die
  view := List.map Slot.exact
  injective _ _ := (List.map_inj_right Slot.exact_injective).1
  agrees fuel := (agreesWith ρ fuel).generate die
  grows fuel := (Exact.grows fuel).generate die

/-- The evaluation of the draws from a pool. -/
def Pool.drawing (ρ : Type) [Roller ρ] (pool : Pool) :
    Evaluation ρ (List (Int64 × Slot)) (List (Int × Exact.Slot)) where
  code fuel := drawAll (Slot.force fuel) pool
  plan fuel := (pool.map Slot.exact).mapM (Exact.draw fuel)
  view := List.map exactEntry
  injective _ _ := (List.map_inj_right exactEntry_injective).1
  agrees fuel := (agreesWith ρ fuel).drawAll pool
  grows fuel := Calculation.Below.mapM (Exact.grows fuel).draw _

/-- More fuel keeps the pool of a die. -/
theorem Die.steady_generate (die : Die) :
    Steady fun fuel => (die.generate fuel : Rolling ρ Pool) := (die.generating ρ).steady

/-- More fuel keeps the total of a die. -/
theorem Die.steady_total (die : Die) :
    Steady fun fuel => (die.total fuel : Rolling ρ Int64) := (die.totalling ρ).steady

/-- More fuel keeps the values of a die. -/
theorem Die.steady_values (die : Die) :
    Steady fun fuel => (die.values fuel : Rolling ρ (List Int64)) := (die.pooling ρ).steady

/-- More fuel keeps what is drawn from a pool. -/
theorem Pool.steady_drawAll (pool : Pool) :
    Steady fun fuel => (drawAll (Slot.force fuel) pool : Rolling ρ (List (Int64 × Slot))) :=
  (Pool.drawing ρ pool).steady

/-- The evaluation of a draw from a slot. -/
def Slot.drawing (ρ : Type) [Roller ρ] (slot : Slot) :
    Evaluation ρ (Int64 × Slot) (Int × Exact.Slot) where
  code fuel := drawFrom (Slot.force fuel) slot
  plan fuel := Exact.draw fuel slot.exact
  view := exactEntry
  injective := exactEntry_injective
  agrees fuel := (agreesWith ρ fuel).draw slot
  grows fuel := (Exact.grows fuel).draw slot.exact

/-- More fuel keeps what is drawn from a slot. -/
theorem Slot.steady_draw (slot : Slot) :
    Steady fun fuel => (drawFrom (Slot.force fuel) slot : Rolling ρ (Int64 × Slot)) :=
  (Slot.drawing ρ slot).steady

variable {die : Die} {context after last : Context ρ}

/-- Totalling has one outcome at most. -/
theorem Die.TotalsTo.unique {result other : Except RollError Int64}
    (first : die.TotalsTo context result after) (second : die.TotalsTo context other last) :
    result = other ∧ after = last := by
  obtain ⟨fuel, ends⟩ := first
  obtain ⟨more, stops⟩ := second
  exact die.steady_total.unique ends stops

/-- Generating has one outcome at most. -/
theorem Die.GeneratesTo.unique {result other : Except RollError Pool}
    (first : die.GeneratesTo context result after) (second : die.GeneratesTo context other last) :
    result = other ∧ after = last := by
  obtain ⟨fuel, ends⟩ := first
  obtain ⟨more, stops⟩ := second
  exact die.steady_generate.unique ends stops

section

variable {most : Nat} (room : most < rollLimit) (bounded : context.budget = some most)

include room bounded

/-- Under a budget, generating finds the outcome. -/
theorem Die.slots_eq_some_iff {result : Except RollError Pool} :
    die.slots context = some (result, after) ↔ die.GeneratesTo context result after := by
  constructor
  · intro ends
    exact ⟨_, ends⟩
  · intro outcome
    obtain ⟨known, reached, ends, -⟩ := die.slots_ends room bounded
    obtain ⟨rfl, rfl⟩ := outcome.unique ⟨_, ends⟩
    exact ends

/-- Under a budget, dice that generate to the same outcomes have the same slots. -/
theorem Die.slots_eq_slots {other : Die} (same : ∀ result after,
    die.GeneratesTo context result after ↔ other.GeneratesTo context result after) :
    die.slots context = other.slots context := by
  obtain ⟨result, reached, ends, -⟩ := die.slots_ends room bounded
  have outcome := (die.slots_eq_some_iff room bounded).1 ends
  have others := (other.slots_eq_some_iff room bounded).2 ((same result reached).1 outcome)
  rw [ends, others]

end

/-- Dice total their count and then their sides, reserve as many rolls as they have faces, and leave
the faces to be drawn. -/
theorem Die.dice_generatesTo_iff {count sides : Die} {result : Except RollError Pool} :
    (Die.dice count sides).GeneratesTo context result after ↔
      (∃ error, count.TotalsTo context (.error error) after ∧ result = .error error) ∨
      ∃ number middle, count.TotalsTo context (.ok number) middle ∧
        ((∃ error, sides.TotalsTo middle (.error error) after ∧ result = .error error) ∨
        ∃ faces reached, sides.TotalsTo middle (.ok faces) reached ∧ after = reached ∧
          result = if reached.exceeds (reached.after (quantity number)) then .error .tooManyRolls
            else .ok (List.replicate (quantity number) (.face faces))) := by
  have sequence (fuel : Nat) :
      ((Die.dice count sides).generate (fuel + 1) : Rolling ρ Pool) =
        (do let number ← count.total fuel
            let faces ← sides.total fuel
            reserve (quantity number)
            return List.replicate (quantity number) (.face faces)) := by
    rw [Die.generate]
  have pool (number faces : Int64) : Steady fun _ =>
      (do reserve (quantity number)
          return List.replicate (quantity number) (.face faces) : Rolling ρ Pool) :=
    Steady.const _
  have steady (number : Int64) : Steady fun fuel =>
      (do let faces ← sides.total fuel
          reserve (quantity number)
          return List.replicate (quantity number) (.face faces) : Rolling ρ Pool) :=
    sides.steady_total.bind (pool number)
  unfold GeneratesTo
  rw [← (Die.steady_generate _).exists_add_iff 1]
  simp only [sequence, count.steady_total.exists_bind_iff steady,
    sides.steady_total.exists_bind_iff (pool _), reserve_bind_pure_eq_some_iff, exists_const]
  rfl

/-- Nothing is drawn from a pool without slots. -/
theorem Pool.nil_drawsTo_iff {result : Except RollError (List (Int64 × Slot))} :
    Pool.DrawsTo [] context result after ↔ result = .ok [] ∧ after = context := by
  constructor
  · rintro ⟨fuel, ends⟩
    cases ends
    exact ⟨rfl, rfl⟩
  · rintro ⟨rfl, rfl⟩
    exact ⟨0, rfl⟩

/-- The first slot of a pool is drawn from before the others. -/
theorem Pool.cons_drawsTo_iff {slot : Slot} {rest : Pool}
    {result : Except RollError (List (Int64 × Slot))} :
    Pool.DrawsTo (slot :: rest) context result after ↔
      (∃ error, slot.DrawsTo context (.error error) after ∧ result = .error error) ∨
      ∃ entry reached, slot.DrawsTo context (.ok entry) reached ∧
        ∃ outcome, rest.DrawsTo reached outcome after ∧
          result = outcome.map (entry :: ·) := by
  have sequence (fuel : Nat) :
      (drawAll (Slot.force fuel) (slot :: rest) : Rolling ρ (List (Int64 × Slot))) =
        (do let entry ← drawFrom (Slot.force fuel) slot
            let drawn ← drawAll (Slot.force fuel) rest
            return entry :: drawn) := List.mapM_cons
  have steady (entry : Int64 × Slot) : Steady fun fuel =>
      (do let drawn ← drawAll (Slot.force fuel) rest
          return entry :: drawn : Rolling ρ (List (Int64 × Slot))) :=
    rest.steady_drawAll.map (entry :: ·)
  unfold Pool.DrawsTo
  simp only [sequence, slot.steady_draw.exists_bind_iff steady, exists_bind_pure_iff]
  rfl

/-- Drawing from a pool ends well when the first draw and the others do. -/
theorem Pool.cons_drawsTo_ok_iff {slot : Slot} {rest : Pool} {drawn : List (Int64 × Slot)} :
    Pool.DrawsTo (slot :: rest) context (.ok drawn) after ↔
      ∃ entry reached, slot.DrawsTo context (.ok entry) reached ∧
        ∃ others, rest.DrawsTo reached (.ok others) after ∧ drawn = entry :: others := by
  simp [cons_drawsTo_iff, exists_ok_eq_map_iff]

/-- Drawing from a pool is refused at the first draw or behind it. -/
theorem Pool.cons_drawsTo_error_iff {slot : Slot} {rest : Pool} {error : RollError} :
    Pool.DrawsTo (slot :: rest) context (.error error) after ↔
      slot.DrawsTo context (.error error) after ∨
      ∃ entry reached, slot.DrawsTo context (.ok entry) reached ∧
        rest.DrawsTo reached (.error error) after := by
  simp [cons_drawsTo_iff, exists_error_eq_map_iff]

/-- The values of a die are those that are drawn from its pool. -/
theorem Die.valuesTo_ok_iff {values : List Int64} :
    die.ValuesTo context (.ok values) after ↔
      ∃ slots reached, die.GeneratesTo context (.ok slots) reached ∧
        ∃ drawn, slots.DrawsTo reached (.ok drawn) after ∧ values = drawn.map Prod.fst := by
  have steady (slots : Pool) : Steady fun fuel =>
      (do let drawn ← drawAll (Slot.force fuel) slots
          return drawn.map Prod.fst : Rolling ρ (List Int64)) :=
    slots.steady_drawAll.map (List.map Prod.fst)
  unfold ValuesTo Die.values
  simp only [die.steady_generate.exists_bind_ok_iff steady, exists_bind_pure_iff,
    exists_ok_eq_map_iff]
  rfl

/-- A die has no values where its pool is refused, or a draw from the pool is. -/
theorem Die.valuesTo_error_iff {error : RollError} :
    die.ValuesTo context (.error error) after ↔
      die.GeneratesTo context (.error error) after ∨
      ∃ slots reached, die.GeneratesTo context (.ok slots) reached ∧
        slots.DrawsTo reached (.error error) after := by
  have steady (slots : Pool) : Steady fun fuel =>
      (do let drawn ← drawAll (Slot.force fuel) slots
          return drawn.map Prod.fst : Rolling ρ (List Int64)) :=
    slots.steady_drawAll.map (List.map Prod.fst)
  unfold ValuesTo Die.values
  simp only [die.steady_generate.exists_bind_error_iff steady, exists_bind_pure_iff,
    exists_error_eq_map_iff]
  rfl

/-- A single value is its own sum. -/
theorem sum_singleton (value : Int64) : sum [value] = .ok value := by
  show (fit ((0 : Int64).toInt + value.toInt) >>= pure) = _
  rw [Int64.toInt_zero, Int.zero_add, fit_toInt]
  rfl

/-- A constant totals to its value and asks nothing of the context. -/
theorem Die.total_constant (fuel : Nat) (value : Int64) :
    ((Die.constant value).total (fuel + 2) : Rolling ρ Int64) = pure value := by
  show settle (sum [value]) = _
  rw [sum_singleton]
  rfl

end

end DicePool
