import DicePool.Proofs.Keeping

/-!
# Keeping in steps, and splitting a pool

The values of a pool decide which of them are kept, whatever slots they were drawn from. So
keeping from what is kept already is keeping once, and the values that the two ends of a pool
keep, as many together as it has, make up the pool.
-/

namespace DicePool

namespace Selection

variable {selection : Selection}

/-- The `count` most wanted values, most wanted first. -/
def best (selection : Selection) (count : Nat) (values : List Int64) : List Int64 :=
  (values.mergeSort selection.prefers).take count

/-- The values kept of some draws are the most wanted of their values. -/
theorem map_fst_take {α : Type} (count : Nat) (drawn : List (Int64 × α)) :
    (selection.take count drawn).map Prod.fst = selection.best count (drawn.map Prod.fst) := by
  have sorted : (drawn.mergeSort fun left right => selection.prefers left.1 right.1).map Prod.fst =
      (drawn.map Prod.fst).mergeSort selection.prefers :=
    List.map_mergeSort fun left _ right _ => rfl
  rw [take, best, List.map_take, sorted]

/-- Sorted values stand in the order of preference. -/
theorem pairwise_mergeSort (selection : Selection) (values : List Int64) :
    (values.mergeSort selection.prefers).Pairwise fun left right =>
      selection.prefers left right = true :=
  List.pairwise_mergeSort prefers_trans prefers_total values

/-- The most wanted of the most wanted values are found at the front. -/
theorem best_best (outer inner : Nat) (values : List Int64) :
    selection.best outer (selection.best inner values) =
      selection.best (min outer inner) values := by
  have sorted : (selection.best inner values).Pairwise fun left right =>
      selection.prefers left right = true :=
    (selection.pairwise_mergeSort values).sublist (List.take_sublist inner _)
  have same : (selection.best inner values).mergeSort selection.prefers =
      selection.best inner values := List.mergeSort_of_pairwise sorted
  rw [best, same, best, best, List.take_take]

/-- One order of values is the other one backwards. -/
theorem mergeSort_lowest (values : List Int64) :
    values.mergeSort lowest.prefers = (values.mergeSort highest.prefers).reverse := by
  have all : (values.mergeSort lowest.prefers).Perm (values.mergeSort highest.prefers).reverse :=
    (List.mergeSort_perm values _).trans
      ((List.mergeSort_perm values _).symm.trans (List.reverse_perm _).symm)
  have backwards : (values.mergeSort highest.prefers).reverse.Pairwise fun left right =>
      lowest.prefers left right = true :=
    List.pairwise_reverse.2 (highest.pairwise_mergeSort values)
  refine all.eq_of_pairwise ?_ (lowest.pairwise_mergeSort values) backwards
  intro left right _ _ forward backward
  exact Int64.le_antisymm (of_decide_eq_true forward) (of_decide_eq_true backward)

/-- The highest values and the lowest ones, as many as there are in all, are all values. -/
theorem best_highest_append_best_lowest {high low : Nat} {values : List Int64}
    (whole : high + low = values.length) :
    (highest.best high values ++ lowest.best low values).Perm values := by
  let sorted := values.mergeSort highest.prefers
  have length : sorted.length = values.length := List.length_mergeSort values
  have front : highest.best high values = sorted.take high := rfl
  have behind : lowest.best low values = (sorted.drop high).reverse := by
    have rest : sorted.length - low = high := by omega
    rw [best, mergeSort_lowest, List.take_reverse, rest]
  calc
    (highest.best high values ++ lowest.best low values).Perm
        (sorted.take high ++ sorted.drop high) := by
      rw [front, behind]
      exact (List.reverse_perm _).append_left _
    _ = sorted := List.take_append_drop high sorted
    List.Perm _ values := List.mergeSort_perm values _

end Selection

/-- The quantity of the smaller number is the smaller quantity. -/
theorem quantity_min (left right : Int64) :
    quantity (min left right) = min (quantity left) (quantity right) := by
  have ordered {lesser greater : Int64} (le : lesser ≤ greater) :
      quantity lesser ≤ quantity greater := by
    have values : lesser.toInt ≤ greater.toInt := Int64.le_iff_toInt_le.1 le
    unfold quantity
    omega
  rw [Std.min_eq_if]
  by_cases le : left ≤ right
  · rw [if_pos le, Nat.min_eq_left (ordered le)]
  · have ge : right ≤ left := Int64.le_of_lt (Int64.not_le.1 le)
    rw [if_neg le, Nat.min_eq_right (ordered ge)]

section

variable {ρ : Type} [Roller ρ] {selection : Selection} {count body : Die}
  {context after : Context ρ}

/-- Keep totals its count, takes the values of its body and keeps the most wanted of them: handing
out what it remembers changes nothing. -/
theorem Die.values_keep (fuel : Nat) :
    ((Die.keep selection count body).values (fuel + 1) : Rolling ρ (List Int64)) =
      (do let total ← count.total fuel
          let values ← body.values fuel
          return selection.best (quantity total) values) := by
  have kept (total : Int64) (drawn : List (Int64 × Slot)) :
      ((selection.take (quantity total) drawn).map handedOut).map Prod.fst =
        selection.best (quantity total) (drawn.map Prod.fst) := by
    rw [← Selection.map_fst_take, List.map_map]
    rfl
  rw [Die.values, Die.generate]
  simp only [Die.values, bind_assoc, pure_bind, drawAll_remember, kept]

/-- The values of what a constant number keeps are the most wanted values of the body. -/
theorem Die.keep_constant_valuesTo_iff {number : Int64} {result : Except RollError (List Int64)} :
    (Die.keep selection (.constant number) body).ValuesTo context result after ↔
      ∃ outcome, body.ValuesTo context outcome after ∧
        result = outcome.map (selection.best (quantity number)) := by
  have values (fuel : Nat) :
      ((Die.keep selection (.constant number) body).values (fuel + 3) : Rolling ρ (List Int64)) =
        (do let values ← body.values (fuel + 2)
            return selection.best (quantity number) values) := by
    rw [Die.values_keep, Die.total_constant, pure_bind]
  unfold Die.ValuesTo
  rw [← (Die.steady_values _).exists_add_iff 3]
  simp only [values]
  rw [exists_bind_pure_iff]
  simp only [body.steady_values.exists_add_iff 2]

end

/-- Keeping from what is kept already is keeping once, the smaller number of the two. -/
theorem Die.keep_keep_poolsTo_iff {ρ : Type} [Roller ρ] (selection : Selection) (body : Die)
    (outer inner : Int64) {context after : Context ρ} {result : Except RollError (List Int64)} :
    (Die.keep selection (.constant outer)
        (.keep selection (.constant inner) body)).PoolsTo context result after ↔
      (Die.keep selection (.constant (min outer inner)) body).PoolsTo context result after := by
  have twice (outcome : Except RollError (List Int64)) :
      (outcome.map (selection.best (quantity inner))).map (selection.best (quantity outer)) =
        outcome.map (selection.best (quantity (min outer inner))) := by
    cases outcome with
    | error error => rw [Except.map, Except.map, Except.map]
    | ok values =>
      have once : selection.best (quantity outer) (selection.best (quantity inner) values) =
          selection.best (min (quantity outer) (quantity inner)) values :=
        Selection.best_best (quantity outer) (quantity inner) values
      rw [← quantity_min] at once
      rw [Except.map, Except.map, Except.map, once]
  show Die.ValuesTo _ _ result after ↔ Die.ValuesTo _ _ result after
  rw [Die.keep_constant_valuesTo_iff, Die.keep_constant_valuesTo_iff]
  constructor
  · rintro ⟨between, kept, rfl⟩
    obtain ⟨outcome, valued, rfl⟩ := Die.keep_constant_valuesTo_iff.1 kept
    exact ⟨outcome, valued, twice outcome⟩
  · rintro ⟨outcome, valued, rfl⟩
    have kept : (Die.keep selection (.constant inner) body).ValuesTo { context with rolls := 0 }
        (outcome.map (selection.best (quantity inner))) after :=
      Die.keep_constant_valuesTo_iff.2 ⟨outcome, valued, rfl⟩
    exact ⟨_, kept, (twice outcome).symm⟩

/-- What a constant number keeps of the values of the body. -/
theorem Die.keep_constant_poolsTo {ρ : Type} [Roller ρ] {body : Die} {context after : Context ρ}
    {values : List Int64} (selection : Selection) (number : Int64)
    (pooled : body.PoolsTo context (.ok values) after) :
    (Die.keep selection (.constant number) body).PoolsTo context
      (.ok (selection.best (quantity number) values)) after :=
  Die.keep_constant_valuesTo_iff.2 ⟨.ok values, pooled, rfl⟩

/-- Two numbers that add up to the length of a list are the numbers of values kept from it. -/
theorem quantity_add_quantity {high low : Int64} {length : Nat} (highNonneg : 0 ≤ high)
    (lowNonneg : 0 ≤ low) (whole : high.toInt + low.toInt = length) :
    quantity high + quantity low = length := by
  have first : 0 ≤ high.toInt := Int64.le_iff_toInt_le.1 highNonneg
  have second : 0 ≤ low.toInt := Int64.le_iff_toInt_le.1 lowNonneg
  unfold quantity
  omega

/-- Keeping from what is kept is keeping the smaller number once. The highest values and the lowest,
as many together as there are, are all values of the pool. -/
theorem keep_composes_and_splits (ρ : Type) [Roller ρ] (body : Die) (context : Context ρ) :
    (∀ (selection : Selection) (outer inner : Int64),
      let twice := Die.keep selection (.constant outer) (.keep selection (.constant inner) body)
      let once := Die.keep selection (.constant (min outer inner)) body
      (∀ result after, twice.PoolsTo context result after ↔ once.PoolsTo context result after) ∧
      ∀ most, context.budget = some most → most < rollLimit →
        twice.pool context = once.pool context) ∧
    (∀ values after, body.PoolsTo context (.ok values) after →
      ∀ high low : Int64, 0 ≤ high → 0 ≤ low → high.toInt + low.toInt = values.length →
        ∃ highest lowest,
          (Die.keep .highest (.constant high) body).PoolsTo context (.ok highest) after ∧
          (Die.keep .lowest (.constant low) body).PoolsTo context (.ok lowest) after ∧
          (highest ++ lowest).Perm values) ∧
    ∀ most, context.budget = some most → most < rollLimit → ∀ values after,
      body.pool context = some (.ok values, after) →
      ∀ high low : Int64, 0 ≤ high → 0 ≤ low → high.toInt + low.toInt = values.length →
        ∃ highest lowest,
          (Die.keep .highest (.constant high) body).pool context = some (.ok highest, after) ∧
          (Die.keep .lowest (.constant low) body).pool context = some (.ok lowest, after) ∧
          (highest ++ lowest).Perm values := by
  refine ⟨?_, ?_, ?_⟩
  · intro selection outer inner twice once
    have same (result : Except RollError (List Int64)) (after : Context ρ) :
        twice.PoolsTo context result after ↔ once.PoolsTo context result after :=
      Die.keep_keep_poolsTo_iff selection body outer inner
    exact ⟨same, fun most bounded room => Die.pool_eq_pool room bounded same⟩
  · intro values after pooled high low highNonneg lowNonneg whole
    have numbers := quantity_add_quantity highNonneg lowNonneg whole
    exact ⟨_, _, Die.keep_constant_poolsTo .highest high pooled,
      Die.keep_constant_poolsTo .lowest low pooled,
      Selection.best_highest_append_best_lowest numbers⟩
  · intro most bounded room values after ends high low highNonneg lowNonneg whole
    have pooled := (Die.pool_eq_some_iff room bounded).1 ends
    have numbers := quantity_add_quantity highNonneg lowNonneg whole
    have highest := Die.keep_constant_poolsTo .highest high pooled
    have lowest := Die.keep_constant_poolsTo .lowest low pooled
    exact ⟨_, _, (Die.pool_eq_some_iff room bounded).2 highest,
      (Die.pool_eq_some_iff room bounded).2 lowest,
      Selection.best_highest_append_best_lowest numbers⟩

/-- Two of the three highest of four faces, and the four faces in two halves: a five and the six
are kept from above, the other five and the two from below. -/
theorem keep_composes_and_splits_two_fives :
    let cycle (taken : Nat) : FaceCycle := ⟨[5, 2, 6, 5], by decide, taken⟩
    let start : Context FaceCycle := Context.start (some 4) (cycle 0)
    let after : Context FaceCycle := ⟨some 4, 4, cycle 4⟩
    let body := Die.dice (.constant 4) (.constant 6)
    start.budget = some 4 ∧ 4 < rollLimit ∧
    (Die.keep .highest (.constant 2) (.keep .highest (.constant 3) body)).pool start =
      (Die.keep .highest (.constant (min 2 3)) body).pool start ∧
    body.PoolsTo start (.ok [5, 2, 6, 5]) after ∧
    body.pool start = some (.ok [5, 2, 6, 5], after) ∧ (0 : Int64) ≤ 2 ∧
    (2 : Int64).toInt + (2 : Int64).toInt = [5, 2, 6, 5].length ∧
    (∃ highest lowest,
      (Die.keep .highest (.constant 2) body).PoolsTo start (.ok highest) after ∧
      (Die.keep .lowest (.constant 2) body).PoolsTo start (.ok lowest) after ∧
      (highest ++ lowest).Perm [5, 2, 6, 5]) ∧
    ∃ highest lowest,
      (Die.keep .highest (.constant 2) body).pool start = some (.ok highest, after) ∧
      (Die.keep .lowest (.constant 2) body).pool start = some (.ok lowest, after) ∧
      (highest ++ lowest).Perm [5, 2, 6, 5] := by
  intro cycle start after body
  have bounded : start.budget = some 4 := rfl
  have room : 4 < rollLimit := by decide
  have pooled : body.PoolsTo start (.ok [5, 2, 6, 5]) after := ⟨9, by cbv⟩
  have nonneg : (0 : Int64) ≤ 2 := by decide
  have whole : (2 : Int64).toInt + (2 : Int64).toInt = [5, 2, 6, 5].length := by decide
  have ends := (Die.pool_eq_some_iff room bounded).2 pooled
  obtain ⟨composes, splits, halves⟩ := keep_composes_and_splits FaceCycle body start
  have same := (composes .highest 2 3).2 4 bounded room
  have split := splits [5, 2, 6, 5] after pooled 2 2 nonneg nonneg whole
  have found := halves 4 bounded room [5, 2, 6, 5] after ends 2 2 nonneg nonneg whole
  exact ⟨bounded, room, same, pooled, ends, nonneg, whole, split, found⟩

end DicePool
