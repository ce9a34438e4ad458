import DicePool.Proofs.Outcome

/-!
# Exact values

No value is wrapped, and no value is refused without need. On the same faces the exact
evaluation ends with the same result. Where an evaluation is refused for an overflow, the exact
one comes to the operation that was refused, and the exact value of it is out of range. The
total of a die is the exact sum of its pool and overflows where a partial sum does.
-/

namespace DicePool

variable {ρ α β : Type}

section

variable [Roller ρ] (plan : Nat → Calculation β) (context : Context ρ)

/-- With enough fuel the exact evaluation ends so, and each of its operations fits. -/
def EndsExactly (outcome : Except Cause β) (after : Context ρ) : Prop :=
  ∃ fuel, ∀ more, fuel ≤ more →
    (plan more).exact { context with rolls := 0 } = some (outcome, after) ∧
      ∀ entry ∈ (plan more).operations { context with rolls := 0 }, entry.1.Fits

/-- With enough fuel the exact evaluation comes to the operation, in the context `reached`, and
each operation before it fits. -/
def ReachesExactly (operation : Operation) (reached : Context ρ) : Prop :=
  ∃ fuel, ∀ more, fuel ≤ more → ∃ earlier later,
    (plan more).operations { context with rolls := 0 } =
        earlier ++ (operation, reached) :: later ∧
      ∀ entry ∈ earlier, entry.1.Fits

/-- What the exact evaluation does on the same faces as an evaluation that ends with `result`. -/
structure Unwrapped (view : α → β) (result : Except RollError α) (after : Context ρ) : Prop where
  /-- Unless there is an overflow, it ends with the same result in the same context. -/
  ends : result ≠ .error .overflow →
    ∃ outcome, Matches view result outcome ∧ EndsExactly plan context outcome after
  /-- If there is an overflow, it comes to the operation that is refused, with the same operands
  and in the same context, and the exact value does not fit. -/
  reaches : result = .error .overflow →
    ∃ operation value, operation.Gives (.error .overflow) ∧ operation.result? = some value ∧
      ¬Fits value ∧ ReachesExactly plan context operation after

end

/-- Every evaluation that ends does what the exact one does, up to the first operation that does not
fit, which more fuel keeps. -/
theorem Evaluation.unwrapped [Roller ρ] (evaluation : Evaluation ρ α β) {context after : Context ρ}
    {result : Except RollError α} (ended : evaluation.EndsIn context result after) :
    Unwrapped evaluation.plan context evaluation.view result after := by
  obtain ⟨fuel, ends⟩ := ended
  have agrees := evaluation.agrees fuel
  obtain ⟨outcome, checked, matching⟩ := (agrees.eq_some_iff evaluation.injective).1 ends
  have kept (more : Nat) (enough : fuel ≤ more) :
      (evaluation.plan more).checked { context with rolls := 0 } = some (outcome, after) :=
    Calculation.Below.run_of_le evaluation.grows enough checked
  constructor
  · intro other
    have named (operation : Operation) : outcome ≠ .error (.overflow operation) := by
      rintro rfl
      cases matching with
      | error reported =>
        cases reported
        exact other rfl
    refine ⟨outcome, matching, fuel, fun more enough => ?_⟩
    exact Calculation.exact_of_checked (kept more enough) named
  · rintro rfl
    cases matching with
    | error reported =>
      cases reported with
      | @overflow operation refused =>
        obtain ⟨value, -, -, exact, large, -, -⟩ := Calculation.operations_of_overflow checked
        refine ⟨operation, value, refused, exact, large, fuel, fun more enough => ?_⟩
        obtain ⟨-, earlier, later, -, -, reached, fits⟩ :=
          Calculation.operations_of_overflow (kept more enough)
        exact ⟨earlier, later, reached, fits⟩

/-- The total with a value added exactly. -/
def addExactly (total : Int) (value : Int64) : Int := total + value.toInt

/-- The exact sum of values, added up from the left. -/
def exactSum (values : List Int64) : Int := values.foldl addExactly 0

/-- Adding up goes through where every partial sum fits. -/
theorem foldlM_add_eq_ok_iff (values : List Int64) : ∀ start total : Int64,
    values.foldlM Arithmetic.add.apply start = .ok total ↔
      (∀ count, Fits ((values.take count).foldl addExactly start.toInt)) ∧
        total.toInt = values.foldl addExactly start.toInt := by
  induction values with
  | nil =>
    intro start total
    constructor
    · intro same
      cases same
      exact ⟨fun count => by rw [List.take_nil]; exact fits_toInt start, rfl⟩
    · rintro ⟨-, same⟩
      rw [Int64.toInt_inj.1 same]
      rfl
  | cons value values ih =>
    intro start total
    rw [List.foldlM_cons]
    by_cases fits : Fits (start.toInt + value.toInt)
    · have step : Arithmetic.add.apply start value =
          .ok (Int64.ofInt (start.toInt + value.toInt)) := fit_of_fits fits
      have shown : (Int64.ofInt (start.toInt + value.toInt)).toInt = start.toInt + value.toInt :=
        fit_eq_ok_iff.1 step
      have rest := ih (Int64.ofInt (start.toInt + value.toInt)) total
      rw [shown] at rest
      rw [step]
      refine rest.trans (and_congr_left fun _ => ?_)
      constructor
      · intro partials count
        cases count with
        | zero => exact fits_toInt start
        | succ count => exact partials count
      · intro partials count
        exact partials (count + 1)
    · have step : Arithmetic.add.apply start value = .error .overflow := fit_of_not_fits fits
      rw [step]
      constructor
      · intro same
        cases same
      · rintro ⟨partials, -⟩
        exact absurd (partials 1) fits

/-- Values add up exactly when all partial sums fit, and to their exact sum. -/
theorem sum_eq_ok_iff {values : List Int64} {total : Int64} :
    sum values = .ok total ↔
      (∀ count, Fits (exactSum (values.take count))) ∧ total.toInt = exactSum values :=
  foldlM_add_eq_ok_iff values 0 total

/-- Adding up is refused for an overflow only. -/
theorem overflow_of_sum {values : List Int64} {error : RollError}
    (refused : sum values = .error error) :
    error = .overflow := by
  have each (values : List Int64) : ∀ start : Int64,
      values.foldlM Arithmetic.add.apply start = .error error → error = .overflow := by
    induction values with
    | nil =>
      intro start refused
      cases refused
    | cons value values ih =>
      intro start refused
      rw [List.foldlM_cons] at refused
      cases step : Arithmetic.add.apply start value with
      | ok total =>
        rw [step] at refused
        exact ih total refused
      | error cause =>
        rw [step] at refused
        cases refused
        by_cases fits : Fits (start.toInt + value.toInt)
        · rw [Arithmetic.apply, fit_of_fits fits] at step
          cases step
        · rw [Arithmetic.apply, fit_of_not_fits fits] at step
          cases step
          rfl
  exact each values 0 refused

/-- Adding up may start at any number. -/
theorem foldl_addExactly (values : List Int64) (start : Int) :
    values.foldl addExactly start = start + exactSum values := by
  induction values generalizing start with
  | nil => exact (Int.add_zero start).symm
  | cons value values ih =>
    have first := ih (addExactly start value)
    have second := ih (addExactly 0 value)
    rw [exactSum, List.foldl_cons, List.foldl_cons, first, second, addExactly, addExactly]
    omega

/-- The first value is added to the sum of the others. -/
theorem exactSum_cons (value : Int64) (values : List Int64) :
    exactSum (value :: values) = value.toInt + exactSum values := by
  rw [exactSum, List.foldl_cons, foldl_addExactly, addExactly, Int.zero_add]

/-- The sum of two lists is the sum of their sums. -/
theorem exactSum_append (values others : List Int64) :
    exactSum (values ++ others) = exactSum values + exactSum others := by
  rw [exactSum, List.foldl_append, foldl_addExactly]
  rfl

/-- Values that are not negative have such a sum. -/
theorem exactSum_nonneg {values : List Int64} (nonneg : ∀ value ∈ values, 0 ≤ value.toInt) :
    0 ≤ exactSum values := by
  induction values with
  | nil => exact Int.le_refl 0
  | cons value values ih =>
    rw [List.forall_mem_cons] at nonneg
    have rest := ih nonneg.2
    have first := nonneg.1
    rw [exactSum_cons]
    omega

/-- Bounded values have a bounded sum. -/
theorem exactSum_le {values : List Int64} {most : Int}
    (bounded : ∀ value ∈ values, value.toInt ≤ most) : exactSum values ≤ values.length * most := by
  induction values with
  | nil =>
    show 0 ≤ (0 : Int) * most
    omega
  | cons value values ih =>
    rw [List.forall_mem_cons] at bounded
    have rest := ih bounded.2
    have first := bounded.1
    rw [exactSum_cons, List.length_cons]
    push_cast
    rw [Int.add_mul]
    omega

/-- Values that are not negative add up if their sum fits: no partial sum is larger. -/
theorem sum_of_nonneg {values : List Int64} (nonneg : ∀ value ∈ values, 0 ≤ value.toInt)
    (fits : Fits (exactSum values)) : sum values = .ok (Int64.ofInt (exactSum values)) := by
  rw [sum_eq_ok_iff]
  refine ⟨fun count => ?_, fit_eq_ok_iff.1 (fit_of_fits fits)⟩
  have parts : exactSum (values.take count) + exactSum (values.drop count) = exactSum values := by
    rw [← exactSum_append, List.take_append_drop]
  have front : 0 ≤ exactSum (values.take count) :=
    exactSum_nonneg fun value member => nonneg value (List.mem_of_mem_take member)
  have back : 0 ≤ exactSum (values.drop count) :=
    exactSum_nonneg fun value member => nonneg value (List.mem_of_mem_drop member)
  unfold Fits at fits ⊢
  omega

/-- Values that are not negative add up to their exact sum or not at all. -/
theorem sum_eq_fit {values : List Int64} (nonneg : ∀ value ∈ values, 0 ≤ value.toInt) :
    sum values = fit (exactSum values) := by
  by_cases fits : Fits (exactSum values)
  · rw [sum_of_nonneg nonneg fits, fit_of_fits fits]
  · rw [fit_of_not_fits fits]
    cases known : sum values with
    | error error => rw [overflow_of_sum known]
    | ok total =>
      obtain ⟨-, same⟩ := sum_eq_ok_iff.1 known
      rw [← same] at fits
      exact absurd (fits_toInt total) fits

section

variable [Roller ρ]

/-- A total takes the pool and adds it up. -/
theorem Die.total_eq_values_bind (fuel : Nat) (die : Die) :
    die.total (fuel + 1) =
      (die.values fuel >>= fun values => settle (sum values) : Rolling ρ Int64) := by
  rw [Die.total, Die.values]
  simp only [bind_assoc, pure_bind]

/-- A die rolls to the sum of the pool that it pools to, where there is one. -/
theorem Die.rollsTo_iff {die : Die} {context after : Context ρ} {result : Except RollError Int64} :
    die.RollsTo context result after ↔
      ∃ pooled, die.PoolsTo context pooled after ∧ result = pooled.bind sum := by
  unfold RollsTo PoolsTo
  rw [← die.steady_total.exists_add_iff 1]
  simp only [total_eq_values_bind]
  exact exists_bind_settle_iff

/-- How rolling a die and pooling it from the same context belong together. -/
structure TotalOfPool (die : Die) (context : Context ρ) : Prop where
  /-- There is a total where there is a pool whose partial sums all fit, and it is the exact sum. -/
  ok_iff : ∀ total after, die.RollsTo context (.ok total) after ↔
    ∃ values, die.PoolsTo context (.ok values) after ∧
      (∀ count, Fits (exactSum (values.take count))) ∧ total.toInt = exactSum values
  /-- What the pool is refused for, the total is refused for. -/
  error : ∀ error after, die.PoolsTo context (.error error) after →
    die.RollsTo context (.error error) after
  /-- A total whose partial sums do not all fit overflows. -/
  overflow : ∀ values after count, die.PoolsTo context (.ok values) after →
    ¬Fits (exactSum (values.take count)) → die.RollsTo context (.error .overflow) after
  /-- Both end or none does, and they leave the same counter and the same roller. -/
  after_iff : ∀ after, (∃ rolled, die.RollsTo context rolled after) ↔
    ∃ pooled, die.PoolsTo context pooled after

/-- Rolling a die is adding up the pool that it pools to. -/
theorem Die.totalOfPool (die : Die) (context : Context ρ) : TotalOfPool die context where
  ok_iff total after := by
    rw [Die.rollsTo_iff]
    constructor
    · rintro ⟨pooled, ended, same⟩
      cases pooled with
      | error error => cases same
      | ok values => exact ⟨values, ended, sum_eq_ok_iff.1 same.symm⟩
    · rintro ⟨values, ended, sums⟩
      exact ⟨.ok values, ended, (sum_eq_ok_iff.2 sums).symm⟩
  error error after ended := Die.rollsTo_iff.2 ⟨.error error, ended, rfl⟩
  overflow values after count ended large := by
    cases known : sum values with
    | ok total => exact absurd ((sum_eq_ok_iff.1 known).1 count) large
    | error cause =>
      have overflow : cause = .overflow := overflow_of_sum known
      subst overflow
      exact Die.rollsTo_iff.2 ⟨.ok values, ended, known.symm⟩
  after_iff after := by
    constructor
    · rintro ⟨rolled, ended⟩
      obtain ⟨pooled, same, -⟩ := Die.rollsTo_iff.1 ended
      exact ⟨pooled, same⟩
    · rintro ⟨pooled, ended⟩
      exact ⟨_, Die.rollsTo_iff.2 ⟨pooled, ended, rfl⟩⟩

end

/-- No value that rolling or pooling gives is wrapped: the exact evaluation gives the same, what is
refused for an overflow is out of range, and the total is the exact sum of the pool. -/
theorem no_wrapped_value (ρ : Type) [Roller ρ] (die : Die) (context : Context ρ) :
    (∀ result after, die.RollsTo context result after →
      Unwrapped (Exact.total · die) context Int64.toInt result after) ∧
    (∀ result after, die.PoolsTo context result after →
      Unwrapped (Exact.values · die) context (List.map Int64.toInt) result after) ∧
    (∀ total after, die.RollsTo context (.ok total) after → Fits total.toInt) ∧
    (∀ values after, die.PoolsTo context (.ok values) after →
      ∀ value ∈ values, Fits value.toInt) ∧
    TotalOfPool die context ∧
    (∀ result after, die.roll context = some (result, after) → die.RollsTo context result after) ∧
    (∀ result after, die.pool context = some (result, after) → die.PoolsTo context result after) ∧
    ∀ most, context.budget = some most → most < rollLimit →
      (∀ result after,
        die.roll context = some (result, after) ↔ die.RollsTo context result after) ∧
      ∀ result after,
        die.pool context = some (result, after) ↔ die.PoolsTo context result after := by
  refine ⟨?_, ?_, ?_, ?_, die.totalOfPool context, ?_, ?_, ?_⟩
  · intro result after ended
    exact (die.totalling ρ).unwrapped ended
  · intro result after ended
    exact (die.pooling ρ).unwrapped ended
  · intro total after _
    exact fits_toInt total
  · intro values after _ value _
    exact fits_toInt value
  · intro result after ends
    exact ⟨_, ends⟩
  · intro result after ends
    exact ⟨_, ends⟩
  · intro most bounded room
    exact ⟨fun _ _ => Die.roll_eq_some_iff room bounded,
      fun _ _ => Die.pool_eq_some_iff room bounded⟩

/-- The greatest value, a one and a one taken off: the exact total fits, but the first two of the
pool do not add up, and the total overflows at their sum. -/
theorem no_wrapped_value_partial_sum :
    let cycle : FaceCycle := ⟨[1], by decide, 0⟩
    let die := Die.add (.constant Int64.maxValue) (.subtract (.constant 1) (.constant 1))
    let context := Context.start (some 2) cycle
    context.budget = some 2 ∧ 2 < rollLimit ∧
    die.pool context = some (.ok [Int64.maxValue, 1, -1], context) ∧
    Fits (exactSum [Int64.maxValue, 1, -1]) ∧
    die.roll context = some (.error .overflow, context) ∧
    ∃ operation value, operation.Gives (.error .overflow) ∧ operation.result? = some value ∧
      ¬Fits value ∧ ReachesExactly (Exact.total · die) context operation context := by
  intro cycle die context
  have bounded : context.budget = some 2 := rfl
  have room : 2 < rollLimit := by decide
  obtain ⟨rolls, -, -, -, belongs, -, -, entries⟩ := no_wrapped_value FaceCycle die context
  obtain ⟨rolled, pools⟩ := entries 2 bounded room
  have pooled : die.PoolsTo context (.ok [Int64.maxValue, 1, -1]) context := ⟨5, rfl⟩
  have small : Fits (exactSum [Int64.maxValue, 1, -1]) := by decide
  have large : ¬Fits (exactSum ([Int64.maxValue, 1, -1].take 2)) := by decide
  have refused : die.RollsTo context (.error .overflow) context :=
    belongs.overflow _ context 2 pooled large
  exact ⟨bounded, room, (pools _ context).2 pooled, small, (rolled _ context).2 refused,
    (rolls _ context refused).reaches rfl⟩

end DicePool
