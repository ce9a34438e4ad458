import DicePool.Proofs.Agreement

/-!
# Exact results and a machine that traps

What an operation should come to is said without any division: a quotient rounded down is the
integer that leaves a remainder between zero and the divisor. Every operation returns that
result, or is refused because there is none or because it does not fit.

The rounded quotient takes one off the truncated one and looks at a remainder. A machine that
checks neither would trap at the least value and at the pairs that it cannot divide. The same
steps on such a machine come to the same quotient, so it never does.
-/

namespace DicePool

/-- The exact results of the operations between integers. Nothing is a quotient by zero. -/
inductive Arithmetic.Yields : Arithmetic → Int → Int → Int → Prop where
  /-- The sum is exact. -/
  | add (left right : Int) : Yields .add left right (left + right)
  /-- The difference is exact. -/
  | subtract (left right : Int) : Yields .subtract left right (left - right)
  /-- The product is exact. -/
  | multiply (left right : Int) : Yields .multiply left right (left * right)
  /-- A positive divisor leaves a remainder that is not negative. -/
  | divideByPositive {left right quotient : Int} (positive : 0 < right)
    (low : 0 ≤ left - quotient * right) (high : left - quotient * right < right) :
    Yields .divide left right quotient
  /-- A negative divisor leaves a remainder that is not positive. -/
  | divideByNegative {left right quotient : Int} (negative : right < 0)
    (low : right < left - quotient * right) (high : left - quotient * right ≤ 0) :
    Yields .divide left right quotient

/-- What an unchecked operation of the machine stops at. -/
inductive Trap where
  /-- The remainder of a pair that cannot be divided. -/
  | remainder (left right : Int64)
  /-- One taken off the least value. -/
  | decrement (value : Int64)
deriving DecidableEq

namespace Machine

/-- The pairs without a truncated quotient in the range. -/
def Undivided (left right : Int64) : Prop := right = 0 ∨ left = Int64.minValue ∧ right = -1

/-- Whether a division has a quotient is decidable. -/
instance (left right : Int64) : Decidable (Undivided left right) :=
  inferInstanceAs (Decidable (_ ∨ _))

/-- The truncated quotient, checked. -/
def quotient? (left right : Int64) : Option Int64 :=
  if Undivided left right then none else some (left / right)

/-- The remainder that goes with the truncated quotient, unchecked. -/
def remainder (left right : Int64) : Except Trap Int64 :=
  if Undivided left right then .error (.remainder left right) else .ok (left % right)

/-- One less, unchecked. -/
def decrement (value : Int64) : Except Trap Int64 :=
  if value = Int64.minValue then .error (.decrement value) else .ok (value - 1)

/-- The quotient rounded down, if there is one in the range. -/
def floorQuotient (left right : Int64) : Except Trap (Option Int64) :=
  match quotient? left right with
  | none => return none
  | some quotient => do
    let rest ← remainder left right
    if rest ≠ 0 ∧ decide (left < 0) ≠ decide (right < 0) then
      let lowered ← decrement quotient
      return some lowered
    else return some quotient

end Machine

/-- A quotient rounded down is the integer that leaves a remainder on the divisor's side. -/
theorem Arithmetic.divide_yields_iff {left right n : Int} :
    Arithmetic.divide.Yields left right n ↔ right ≠ 0 ∧ left.fdiv right = n := by
  have remainder : ∀ rest, rest + right * n = left ↔ rest = left - n * right := by
    intro rest
    rw [Int.mul_comm right n]
    omega
  constructor
  · intro yields
    cases yields with
    | divideByPositive positive low high =>
      have unique := Int.fdiv_fmod_unique (a := left) (r := left - n * right) (q := n) positive
      exact ⟨by omega, (unique.2 ⟨(remainder _).2 rfl, low, high⟩).1⟩
    | divideByNegative negative low high =>
      have unique := Int.fdiv_fmod_unique' (a := left) (r := left - n * right) (q := n) negative
      exact ⟨by omega, (unique.2 ⟨(remainder _).2 rfl, low, high⟩).1⟩
  · rintro ⟨nonzero, same⟩
    rcases Int.lt_or_gt_of_ne nonzero with negative | positive
    · obtain ⟨whole, low, high⟩ := (Int.fdiv_fmod_unique' negative).1 ⟨same, rfl⟩
      rw [(remainder _).1 whole] at low high
      exact .divideByNegative negative low high
    · obtain ⟨whole, low, high⟩ := (Int.fdiv_fmod_unique positive).1 ⟨same, rfl⟩
      rw [(remainder _).1 whole] at low high
      exact .divideByPositive positive low high

/-- An operation has one exact result, the one that its definition over the integers gives. -/
theorem Arithmetic.yields_iff {op : Arithmetic} {left right n : Int} :
    op.Yields left right n ↔ (Operation.apply op left right).result? = some n := by
  cases op with
  | add => exact ⟨fun | .add _ _ => rfl, fun same => Option.some.inj same ▸ .add left right⟩
  | subtract =>
    exact ⟨fun | .subtract _ _ => rfl, fun same => Option.some.inj same ▸ .subtract left right⟩
  | multiply =>
    exact ⟨fun | .multiply _ _ => rfl, fun same => Option.some.inj same ▸ .multiply left right⟩
  | divide =>
    rw [divide_yields_iff, Operation.result?]
    by_cases zero : right = 0
    · simp [zero]
    · simp [zero]

/-- Only a quotient by zero has no exact result. -/
theorem Operation.result?_apply_eq_none_iff {op : Arithmetic} {left right : Int64} :
    (Operation.apply op left.toInt right.toInt).result? = none ↔ op = .divide ∧ right = 0 := by
  have zero : right.toInt = 0 ↔ right = 0 := by
    rw [← Int64.toInt_inj, Int64.toInt_zero]
  cases op with
  | add | subtract | multiply => simp [result?]
  | divide => simp [result?, zero]

/-- Putting an integer into the range fails only for its size. -/
theorem fit_eq_error_iff {n : Int} {error : RollError} :
    fit n = .error error ↔ ¬Fits n ∧ error = .overflow := by
  by_cases fits : Fits n
  · rw [fit_of_fits fits]
    exact ⟨fun refused => (by cases refused), fun ⟨large, _⟩ => absurd fits large⟩
  · rw [fit_of_not_fits fits, Except.error.injEq, eq_comm]
    exact (and_iff_right fits).symm

namespace Machine

variable {left right : Int64}

/-- Where the truncated quotient is refused, so is the one rounded down. -/
theorem floorQuotient_of_undivided (undivided : Undivided left right) :
    floorQuotient left right = .ok (DicePool.floorQuotient left right).toOption := by
  have refused : (DicePool.floorQuotient left right).toOption = none := by
    unfold DicePool.floorQuotient
    by_cases zero : right = 0
    · rw [if_pos zero]
      rfl
    · rw [if_neg zero, if_pos (undivided.resolve_left zero)]
      rfl
  rw [floorQuotient, quotient?, if_pos undivided, refused]
  rfl

/-- The steps of the machine never trap, and come to the quotient rounded down. -/
theorem floorQuotient_eq (left right : Int64) :
    floorQuotient left right = .ok (DicePool.floorQuotient left right).toOption := by
  by_cases undivided : Undivided left right
  · exact floorQuotient_of_undivided undivided
  · obtain ⟨zero, least⟩ := not_or.1 undivided
    have corrects : (left % right ≠ 0 ∧ decide (left < 0) ≠ decide (right < 0)) ↔
        truncatesUp left right = true := by
      unfold truncatesUp
      rw [Bool.and_eq_true, bne_iff_ne, bne_iff_ne]
    rw [floorQuotient, quotient?, if_neg undivided, remainder, if_neg undivided,
      DicePool.floorQuotient, if_neg zero, if_neg least]
    simp only [bind, Except.bind]
    by_cases up : truncatesUp left right = true
    · have above := least_lt_toInt_div_of_truncatesUp least up
      have other : left / right ≠ Int64.minValue := fun same => by
        rw [same] at above
        exact absurd above (Int.lt_irrefl _)
      rw [if_pos (corrects.2 up), decrement, if_neg other, if_pos up]
      rfl
    · rw [if_neg fun holds => up (corrects.1 holds), if_neg up]
      rfl

end Machine

/-- A quotient by zero is refused as one. Every other operation has one exact result, which it
returns if it fits, and no step of the rounded quotient traps. -/
theorem apply_exact_or_refused (op : Arithmetic) (left right : Int64) :
    (op.apply left right = .error .divideByZero ↔ op = .divide ∧ right = 0) ∧
    (¬(op = .divide ∧ right = 0) → ∃ n,
      (∀ other, op.Yields left.toInt right.toInt other ↔ other = n) ∧
      (∀ value, op.apply left right = .ok value ↔ Fits n ∧ value.toInt = n) ∧
      (op.apply left right = .error .overflow ↔ ¬Fits n)) ∧
    Machine.floorQuotient left right = .ok (floorQuotient left right).toOption := by
  have applied := apply_eq_fit op left right
  have none_iff := @Operation.result?_apply_eq_none_iff op left right
  cases result : (Operation.apply op left.toInt right.toInt).result? with
  | none =>
    rw [result] at applied
    have zero := none_iff.1 result
    exact ⟨⟨fun _ => zero, fun _ => applied⟩, fun other => absurd zero other,
      Machine.floorQuotient_eq left right⟩
  | some n =>
    rw [result] at applied none_iff
    have other : ¬(op = .divide ∧ right = 0) := fun zero => (by cases none_iff.2 zero)
    refine ⟨⟨fun refused => ?_, fun zero => absurd zero other⟩, fun _ => ⟨n, fun m => ?_, ?_, ?_⟩,
      Machine.floorQuotient_eq left right⟩
    · rw [applied] at refused
      cases (fit_eq_error_iff.1 refused).2
    · rw [Arithmetic.yields_iff, result, Option.some.injEq, eq_comm]
    · intro value
      rw [applied, fit_eq_ok_iff]
      exact ⟨fun same => ⟨same ▸ fits_toInt value, same⟩, And.right⟩
    · rw [applied, fit_eq_error_iff]
      exact and_iff_left rfl

/-- A quotient that truncation moves up, and the one quotient that does not fit. -/
theorem apply_exact_or_refused_least :
    (¬(Arithmetic.divide = .divide ∧ (2 : Int64) = 0) ∧
      Arithmetic.divide.apply (-7) 2 = .ok (-4) ∧
      ∀ other, Arithmetic.divide.Yields (-7) 2 other ↔ other = -4) ∧
    ¬(Arithmetic.divide = .divide ∧ (-1 : Int64) = 0) ∧
      Arithmetic.divide.apply Int64.minValue (-1) = .error .overflow ∧
      ∃ n, (∀ other, Arithmetic.divide.Yields Int64.minValue.toInt (-1) other ↔ other = n) ∧
        ¬Fits n := by
  have two : ¬(Arithmetic.divide = .divide ∧ (2 : Int64) = 0) := by decide
  have lowered : Arithmetic.divide.apply (-7) 2 = .ok (-4) := rfl
  have minus : ¬(Arithmetic.divide = .divide ∧ (-1 : Int64) = 0) := by decide
  have large : Arithmetic.divide.apply Int64.minValue (-1) = .error .overflow := rfl
  obtain ⟨n, only, values, -⟩ := (apply_exact_or_refused .divide (-7) 2).2.1 two
  obtain ⟨m, unique, -, overflows⟩ :=
    (apply_exact_or_refused .divide Int64.minValue (-1)).2.1 minus
  obtain ⟨-, rfl⟩ := (values (-4)).1 lowered
  exact ⟨⟨two, lowered, only⟩, minus, large, m, unique, overflows.1 large⟩

end DicePool
