import DicePool.Arithmetic

/-!
# The quotient rounded down

The machine truncates. Taking one off where it truncates upward gives the exact quotient
rounded down, and the one pair whose quotient does not fit is refused before.
-/

namespace DicePool

variable {left right : Int64}

/-- The machine's quotient is the truncated one for every pair that is not refused. -/
theorem toInt_div_of_not_least (small : ¬(left = Int64.minValue ∧ right = -1)) :
    (left / right).toInt = left.toInt.tdiv right.toInt := by
  by_cases least : left = Int64.minValue
  · have other : right ≠ -1 := fun same => small ⟨least, same⟩
    exact Int64.toInt_div_of_ne_right left right other
  · exact Int64.toInt_div_of_ne_left left right least

/-- Truncation goes up where the quotient is negative and not whole. -/
theorem truncatesUp_iff :
    truncatesUp left right = true ↔
      ¬right.toInt ∣ left.toInt ∧ ¬(left.toInt < 0 ↔ right.toInt < 0) := by
  have remainder : left % right = 0 ↔ right.toInt ∣ left.toInt := by
    rw [← Int64.toInt_inj, Int64.toInt_mod, Int64.toInt_zero]
    exact Int.dvd_iff_tmod_eq_zero.symm
  have leftSign : left < 0 ↔ left.toInt < 0 := by
    rw [Int64.lt_iff_toInt_lt, Int64.toInt_zero]
  have rightSign : right < 0 ↔ right.toInt < 0 := by
    rw [Int64.lt_iff_toInt_lt, Int64.toInt_zero]
  unfold truncatesUp
  simp only [Bool.and_eq_true, bne_iff_ne, ne_eq, decide_eq_decide, remainder, leftSign, rightSign]

/-- The exact quotient is the truncated one, less one where truncation goes up. -/
theorem fdiv_eq_tdiv_sub (nonzero : right.toInt ≠ 0) :
    left.toInt.fdiv right.toInt =
      left.toInt.tdiv right.toInt - if truncatesUp left right then 1 else 0 := by
  have up : truncatesUp left right = true ↔
      ¬right.toInt ∣ left.toInt ∧ ¬(left.toInt < 0 ↔ right.toInt < 0) := truncatesUp_iff
  rw [Int.fdiv_eq_tdiv]
  congr 1
  by_cases whole : right.toInt ∣ left.toInt
  · rw [if_pos whole, if_neg fun truncates => (up.1 truncates).1 whole]
  · rw [if_neg whole]
    rcases Int.lt_or_gt_of_ne nonzero with negative | positive
    · have sign : right.toInt.sign = -1 := Int.sign_eq_neg_one_of_neg negative
      by_cases below : left.toInt < 0
      · have down : truncatesUp left right ≠ true := fun truncates =>
          (up.1 truncates).2 (iff_of_true below negative)
        rw [if_neg down, if_neg (by omega), if_neg (by omega), sign]
        rfl
      · have upward := up.2 ⟨whole, fun same => below (same.2 negative)⟩
        rw [if_pos upward, if_pos (by omega), if_neg (by omega)]
    · have sign : right.toInt.sign = 1 := Int.sign_eq_one_of_pos positive
      by_cases below : left.toInt < 0
      · have upward := up.2 ⟨whole, fun same => absurd (same.1 below) (by omega)⟩
        rw [if_pos upward, if_neg (by omega), if_pos (by omega), sign]
      · have down : truncatesUp left right ≠ true := fun truncates =>
          (up.1 truncates).2 (iff_of_false below (by omega))
        rw [if_neg down, if_pos (by omega), if_pos (by omega)]

/-- A truncated quotient that is not whole is at most half as large as the dividend. -/
theorem natAbs_tdiv_le_of_not_dvd (whole : ¬right.toInt ∣ left.toInt) :
    2 * (left.toInt.tdiv right.toInt).natAbs ≤ left.toInt.natAbs := by
  have large : 2 ≤ right.toInt.natAbs ∨ right.toInt = 0 := by
    have one : right.toInt ≠ 1 := fun same => whole (same ▸ Int.one_dvd _)
    have minus : right.toInt ≠ -1 := fun same => whole (same ▸ Int.neg_dvd.2 (Int.one_dvd _))
    omega
  have quotient : (left.toInt.tdiv right.toInt).natAbs =
      left.toInt.natAbs / right.toInt.natAbs := Int.natAbs_tdiv _ _
  rw [quotient]
  rcases large with large | zero
  · have half : left.toInt.natAbs / right.toInt.natAbs ≤ left.toInt.natAbs / 2 :=
      Nat.div_le_div_left large (by decide)
    omega
  · rw [zero, Int.natAbs_zero, Nat.div_zero]
    omega

/-- A quotient that truncation has moved up is far from the least value, so one can be taken
off. -/
theorem least_lt_toInt_div_of_truncatesUp (divided : ¬(left = Int64.minValue ∧ right = -1))
    (up : truncatesUp left right = true) : Int64.minValue.toInt < (left / right).toInt := by
  have least : Int64.minValue.toInt = -2 ^ 63 := by decide
  have half := natAbs_tdiv_le_of_not_dvd (truncatesUp_iff.1 up).1
  have low := left.le_toInt
  have high := left.toInt_lt
  rw [toInt_div_of_not_least divided, least]
  omega

/-- The quotient is the exact one rounded down, refused where that does not fit. -/
theorem floorQuotient_of_ne_zero (nonzero : right ≠ 0) :
    floorQuotient left right = fit (left.toInt.fdiv right.toInt) := by
  have divisor : right.toInt ≠ 0 := fun same =>
    nonzero (Int64.toInt_inj.1 (same.trans Int64.toInt_zero.symm))
  have exact : left.toInt.fdiv right.toInt =
      left.toInt.tdiv right.toInt - if truncatesUp left right then 1 else 0 :=
    fdiv_eq_tdiv_sub divisor
  unfold floorQuotient
  rw [if_neg nonzero]
  by_cases refused : left = Int64.minValue ∧ right = -1
  · obtain ⟨rfl, rfl⟩ := refused
    rfl
  · have truncated := toInt_div_of_not_least refused
    rw [if_neg refused]
    cases up : truncatesUp left right with
    | false =>
      rw [up] at exact
      rw [if_neg Bool.false_ne_true, exact, if_neg Bool.false_ne_true, Int.sub_zero, ← truncated,
        fit_toInt]
    | true =>
      rw [up] at exact
      have least : Int64.minValue.toInt = -2 ^ 63 := by decide
      have low := least_lt_toInt_div_of_truncatesUp refused up
      have high := (left / right).toInt_lt
      have lowered : (left / right - 1).toInt = (left / right).toInt - 1 := by
        rw [Int64.toInt_sub, Int64.toInt_one]
        apply Int.bmod_eq_of_le <;> omega
      rw [if_pos rfl, exact, if_pos rfl, ← truncated, ← lowered, fit_toInt]

end DicePool
