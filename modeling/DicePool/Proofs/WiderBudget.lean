import DicePool.Proofs.Fuel

/-!
# Wider budgets

A budget never changes an answer, it only cuts it off. Two evaluations that differ in nothing
but their budgets make the same requests up to the first that one of the budgets refuses. What
a budget lets through, every wider one lets through.
-/

namespace DicePool

variable {ρ α β : Type}

/-- Whether `wider` covers all that `budget` covers. The counter stays at its limit, so a budget
that reaches there is as good as none. -/
def Widens : Option Nat → Option Nat → Prop
  | _, none => True
  | none, some more => rollLimit ≤ more
  | some most, some more => most ≤ more

namespace Context

variable {budget wider : Option Nat}

/-- The context with another budget. -/
def under (budget : Option Nat) (context : Context ρ) : Context ρ := { context with budget }

/-- A context is unchanged under its own budget. -/
theorem under_of_budget_eq {context : Context ρ} (same : context.budget = budget) :
    context.under budget = context := by
  subst same
  rfl

/-- No counter goes beyond its limit. -/
theorem after_le (context : Context ρ) (count : Nat) : context.after count ≤ rollLimit :=
  Nat.min_le_right _ _

/-- A wider budget covers what the counter can show and the budget covers. -/
theorem exceeds_of_widens {context : Context ρ} (widens : Widens budget wider) {rolls : Nat}
    (shown : rolls ≤ rollLimit) (covered : (context.under budget).exceeds rolls = false) :
    (context.under wider).exceeds rolls = false := by
  cases wider with
  | none => rfl
  | some more =>
    have enough : rolls ≤ more := by
      cases budget with
      | none => exact Nat.le_trans shown widens
      | some most =>
        have within : rolls ≤ most := Nat.le_of_not_lt (of_decide_eq_false covered)
        exact Nat.le_trans within widens
    exact decide_eq_false (Nat.not_lt_of_le enough)

/-- Two budgets refuse a request both, or neither, or only the one that is not as wide. -/
theorem exceeds_under_cases (context : Context ρ) (widens : Widens budget wider) (count : Nat) :
    (context.under budget).exceeds (context.after count) = false ∧
        (context.under wider).exceeds (context.after count) = false ∨
      (context.under budget).exceeds (context.after count) = true ∧
        (context.under wider).exceeds (context.after count) = true ∨
      (context.under budget).exceeds (context.after count) = true ∧ ¬Widens wider budget := by
  have shown : context.after count ≤ rollLimit := context.after_le count
  cases covered : (context.under budget).exceeds (context.after count) with
  | false => exact .inl ⟨rfl, exceeds_of_widens widens shown covered⟩
  | true =>
    cases refused : (context.under wider).exceeds (context.after count) with
    | true => exact .inr (.inl ⟨rfl, rfl⟩)
    | false =>
      refine .inr (.inr ⟨rfl, fun back => ?_⟩)
      rw [exceeds_of_widens back shown refused] at covered
      cases covered

end Context

namespace Calculation

variable [Roller ρ] {admits : Int → Bool} {plan : Calculation α} {context after : Context ρ}
  {result : Except Cause α} {budget wider : Option Nat}

/-- A request goes the same way under a wider budget if what comes after it does, or only the
wider one covers it. -/
theorem request_under (widens : Widens budget wider) (context stop next : Context ρ) (count : Nat)
    (rest : plan.run admits (next.under budget) = some (result, after) →
      plan.run admits (next.under wider) = some (result, after.under wider) ∨
        result = .error .tooManyRolls ∧ ¬Widens wider budget)
    (run : (if (context.under budget).exceeds (context.after count) then
      some (.error .tooManyRolls, stop.under budget)
      else plan.run admits (next.under budget)) = some (result, after)) :
    (if (context.under wider).exceeds (context.after count) then
      some (.error .tooManyRolls, stop.under wider)
      else plan.run admits (next.under wider)) = some (result, after.under wider) ∨
        result = .error .tooManyRolls ∧ ¬Widens wider budget := by
  rcases context.exceeds_under_cases widens count with
    ⟨free, wide⟩ | ⟨full, wide⟩ | ⟨full, narrower⟩
  · rw [free] at run
    rw [wide]
    exact rest run
  · rw [full] at run
    rw [wide]
    cases run
    exact .inl rfl
  · rw [full] at run
    cases run
    exact .inr ⟨rfl, narrower⟩

/-- A calculation goes the same way under a wider budget, up to a roll that only the wider one
covers. -/
theorem run_under (widens : Widens budget wider)
    (run : plan.run admits (context.under budget) = some (result, after)) :
    plan.run admits (context.under wider) = some (result, after.under wider) ∨
      result = .error .tooManyRolls ∧ ¬Widens wider budget := by
  induction plan generalizing context with
  | done value =>
    cases run
    exact .inl rfl
  | stuck => cases run
  | counting rest ih => exact request_under widens context context.counted context.counted 1 ih run
  | reserving rolls rest ih => exact request_under widens context context context rolls ih run
  | rolling sides rest ih =>
    rw [Calculation.run] at run ⊢
    cases known : Sides.ofInt? sides with
    | none =>
      rw [known] at run
      cases run
      exact .inl rfl
    | some valid =>
      rw [known] at run
      exact request_under widens context context.counted (context.rolled valid) 1
        (ih (Roller.roll context.roller valid).1.toNat) run
  | computing operation rest ih =>
    rw [Calculation.run] at run ⊢
    cases known : operation.result? with
    | none =>
      rw [known] at run
      cases run
      exact .inl rfl
    | some value =>
      rw [known] at run
      dsimp only at run ⊢
      cases admitted : admits value with
      | true =>
        rw [admitted] at run
        exact ih value run
      | false =>
        rw [admitted] at run
        cases run
        exact .inl rfl

/-- Without a budget no roll is one too many. -/
theorem ne_tooManyRolls_of_run (unbounded : context.budget = none)
    (run : plan.run admits context = some (result, after)) : result ≠ .error .tooManyRolls := by
  induction plan generalizing context with
  | done value =>
    cases run
    intro same
    cases same
  | stuck => cases run
  | counting rest ih =>
    rw [Calculation.run, Context.full, Context.exceeds_of_unbounded unbounded] at run
    exact ih (show context.counted.budget = none from unbounded) run
  | reserving rolls rest ih =>
    rw [Calculation.run, Context.exceeds_of_unbounded unbounded] at run
    exact ih unbounded run
  | rolling sides rest ih =>
    rw [Calculation.run, Context.full, Context.exceeds_of_unbounded unbounded] at run
    cases known : Sides.ofInt? sides with
    | none =>
      rw [known] at run
      cases run
      intro same
      cases same
    | some valid =>
      rw [known] at run
      exact ih _ (show (context.rolled valid).budget = none from unbounded) run
  | computing operation rest ih =>
    rw [Calculation.run] at run
    cases known : operation.result? with
    | none =>
      rw [known] at run
      cases run
      intro same
      cases same
    | some value =>
      rw [known] at run
      dsimp only at run
      cases admitted : admits value with
      | true =>
        rw [admitted] at run
        exact ih value unbounded run
      | false =>
        rw [admitted] at run
        cases run
        intro same
        cases same

end Calculation

namespace Evaluation

variable [Roller ρ] {evaluation : Evaluation ρ α β} {fuel : Nat} {context after : Context ρ}
  {result : Except RollError α} {budget wider : Option Nat}

/-- An evaluation ends in the same way under a wider budget, unless it is refused a roll that only
the wider one covers. -/
theorem code_under (evaluation : Evaluation ρ α β) (context : Context ρ)
    (widens : Widens budget wider)
    (run : evaluation.code fuel (context.under budget) = some (result, after)) :
    evaluation.code fuel (context.under wider) = some (result, after.under wider) ∨
      result = .error .tooManyRolls ∧ ¬Widens wider budget := by
  have agrees := evaluation.agrees fuel
  obtain ⟨outcome, checked, matching⟩ := (agrees.eq_some_iff evaluation.injective).1 run
  rcases Calculation.run_under widens checked with same | ⟨rfl, narrower⟩
  · exact .inl ((agrees.eq_some_iff evaluation.injective).2 ⟨outcome, same, matching⟩)
  · cases matching with
    | error reported =>
      cases reported
      exact .inr ⟨rfl, narrower⟩

/-- Without a budget no evaluation is refused for its rolls. -/
theorem ne_tooManyRolls_of_code (unbounded : context.budget = none)
    (run : evaluation.code fuel context = some (result, after)) :
    result ≠ .error .tooManyRolls := by
  have agrees := evaluation.agrees fuel
  obtain ⟨outcome, checked, matching⟩ := (agrees.eq_some_iff evaluation.injective).1 run
  rintro rfl
  cases matching with
  | error reported =>
    cases reported
    exact Calculation.ne_tooManyRolls_of_run unbounded checked rfl

end Evaluation

/-- What a budget does to an evaluation, of which `ends` tells for every budget how it ends.
Budgets go up to the limit of the counter. -/
structure OnlyCutOff (ends : Option Nat → Except RollError α → Context ρ → Prop) : Prop where
  /-- Without a budget no roll is one too many. -/
  answered : ∀ {result after}, ends none result after → result ≠ .error .tooManyRolls
  /-- An answer stays the same under every larger budget and without one, and so do the counter
  and the roller that it leaves. -/
  kept : ∀ {most result after}, most ≤ rollLimit → ends (some most) result after →
    result ≠ .error .tooManyRolls →
    ends none result (after.under none) ∧
      ∀ more, most ≤ more → more ≤ rollLimit → ends (some more) result (after.under (some more))
  /-- What ends without a budget ends so under a budget, or is refused for too many rolls. -/
  cut : ∀ {result after}, ends none result after → ∀ most, most ≤ rollLimit →
    ends (some most) result (after.under (some most)) ∨
      ∃ last, ends (some most) (.error .tooManyRolls) last
  /-- Above a budget under which it ends so, it ends so under every budget. -/
  upward : ∀ {result after}, ends none result after → ∀ most more, most ≤ more →
    more ≤ rollLimit → ends (some most) result (after.under (some most)) →
    ends (some more) result (after.under (some more))

/-- Whether a budget fits into the counter. -/
def WithinLimit (budget : Option Nat) : Prop := ∀ most, budget = some most → most ≤ rollLimit

/-- More rolls need more fuel. -/
theorem fuelFor_le_of_widens {budget wider : Option Nat} (limited : WithinLimit budget)
    (widens : Widens budget wider) (size : Nat) : fuelFor budget size ≤ fuelFor wider size := by
  have turns : budget.getD rollLimit ≤ wider.getD rollLimit := by
    cases budget with
    | none =>
      cases wider with
      | none => exact Nat.le_refl _
      | some more => exact widens
    | some most =>
      cases wider with
      | none => exact limited most rfl
      | some more => exact widens
  unfold fuelFor
  omega

/-- Why a budget only cuts off: up to a refusal the evaluation goes the same way under a wider
budget. -/
structure Lockstep (ends : Option Nat → Except RollError α → Context ρ → Prop) : Prop where
  /-- Without a budget no roll is one too many. -/
  answered : ∀ result after, ends none result after → result ≠ .error .tooManyRolls
  /-- Under a wider budget it ends so too, or a roll is refused that only the wider one covers. -/
  widened : ∀ budget wider result after, WithinLimit budget → Widens budget wider →
    ends budget result after → ends wider result (after.under wider) ∨
      result = .error .tooManyRolls ∧ ¬Widens wider budget
  /-- Without a budget it has one end at most. -/
  unique : ∀ result after other last, ends none result after → ends none other last →
    result = other ∧ after = last
  /-- Under a budget below the limit it ends. -/
  bounded : ∀ most, most < rollLimit →
    ∃ result after, ends (some most) result after ∧ after.budget = some most

namespace Lockstep

variable {ends : Option Nat → Except RollError α → Context ρ → Prop} {most : Nat}
  {result : Except RollError α} {after : Context ρ}

/-- An outcome is kept by a wider budget, unless it is a refusal for too many rolls. -/
theorem keeps (lockstep : Lockstep ends) {wider : Option Nat} (small : most ≤ rollLimit)
    (widens : Widens (some most) wider) (ended : ends (some most) result after)
    (other : result ≠ .error .tooManyRolls) : ends wider result (after.under wider) := by
  have limited : WithinLimit (some most) := by
    rintro _ ⟨⟩
    exact small
  rcases lockstep.widened _ _ _ _ limited widens ended with same | ⟨refused, -⟩
  · exact same
  · exact absurd refused other

/-- A budget below the limit brings the evaluation to an end, which is a refusal or the end that
there is without one. -/
theorem cuts_below (lockstep : Lockstep ends) (room : most < rollLimit)
    (ended : ends none result after) :
    ends (some most) result (after.under (some most)) ∨
      ∃ last, ends (some most) (.error .tooManyRolls) last := by
  obtain ⟨known, reached, stops, still⟩ := lockstep.bounded most room
  by_cases refused : known = .error .tooManyRolls
  · subst refused
    exact .inr ⟨reached, stops⟩
  · have free : ends none known (reached.under none) :=
      lockstep.keeps (Nat.le_of_lt room) trivial stops refused
    obtain ⟨rfl, rfl⟩ := lockstep.unique _ _ _ _ ended free
    have same : (reached.under none).under (some most) = reached :=
      Context.under_of_budget_eq still
    rw [same]
    exact .inl stops

/-- A budget that reaches the limit refuses nothing. -/
theorem same_at_limit (lockstep : Lockstep ends) (full : rollLimit ≤ most)
    (ended : ends none result after) : ends (some most) result (after.under (some most)) := by
  have limited : WithinLimit none := by
    intro most same
    cases same
  rcases lockstep.widened none (some most) _ _ limited full ended with same | ⟨refused, -⟩
  · exact same
  · exact absurd refused (lockstep.answered _ _ ended)

/-- Evaluations in lockstep are only cut off by their budgets. -/
theorem onlyCutOff (lockstep : Lockstep ends) : OnlyCutOff ends where
  answered ended := lockstep.answered _ _ ended
  kept small ended other := by
    refine ⟨lockstep.keeps small trivial ended other, fun more larger _ => ?_⟩
    exact lockstep.keeps small larger ended other
  cut ended most small := by
    by_cases room : most < rollLimit
    · exact lockstep.cuts_below room ended
    · exact .inl (lockstep.same_at_limit (Nat.le_of_not_lt room) ended)
  upward ended most more larger small same := by
    have within : most ≤ rollLimit := Nat.le_trans larger small
    have widens : Widens (some most) (some more) := larger
    have wider := lockstep.keeps within widens same (lockstep.answered _ _ ended)
    exact wider

end Lockstep

namespace Evaluation

variable [Roller ρ] (evaluation : Evaluation ρ α β) (context : Context ρ)

/-- Budgets only cut off evaluations with whatever fuel they take. -/
theorem onlyCutOff_endsIn
    (bounded : ∀ most, most < rollLimit → ∃ result after,
      evaluation.EndsIn (context.under (some most)) result after ∧ after.budget = some most) :
    OnlyCutOff fun budget => evaluation.EndsIn (context.under budget) := by
  let start : Context ρ := { context with rolls := 0 }
  refine Lockstep.onlyCutOff ⟨?_, ?_, ?_, bounded⟩
  · rintro result after ⟨fuel, ends⟩
    exact ne_tooManyRolls_of_code rfl ends
  · rintro budget wider result after - widens ⟨fuel, ends⟩
    rcases evaluation.code_under start widens ends with same | narrower
    · exact .inl ⟨fuel, same⟩
    · exact .inr narrower
  · intro result after other last first second
    exact first.unique second

/-- Budgets only cut off evaluations with the fuel for their budget. -/
theorem onlyCutOff_fuelFor (size : Nat)
    (bounded : ∀ most, most < rollLimit → ∃ result after,
      evaluation.code (fuelFor (some most) size) (context.under (some most)) =
        some (result, after) ∧ after.budget = some most) :
    OnlyCutOff fun budget result after =>
      evaluation.code (fuelFor budget size) (context.under budget) = some (result, after) := by
  refine Lockstep.onlyCutOff ⟨?_, ?_, ?_, bounded⟩
  · intro result after ends
    exact ne_tooManyRolls_of_code rfl ends
  · intro budget wider result after limited widens ends
    rcases evaluation.code_under context widens ends with same | narrower
    · exact .inl (evaluation.steady (fuelFor_le_of_widens limited widens size) same)
    · exact .inr narrower
  · intro result after other last first second
    rw [first] at second
    cases second
    exact ⟨rfl, rfl⟩

end Evaluation

namespace Die

variable [Roller ρ] (die : Die) (context : Context ρ)

/-- Budgets only cut off rolling. -/
theorem rollsTo_onlyCutOff : OnlyCutOff fun budget => die.RollsTo (context.under budget) := by
  apply (die.totalling ρ).onlyCutOff_endsIn context
  intro most room
  have bounded : (context.under (some most)).budget = some most := rfl
  obtain ⟨result, after, ends, still⟩ := die.roll_ends room bounded
  exact ⟨result, after, ⟨_, ends⟩, still⟩

/-- Budgets only cut off pooling. -/
theorem poolsTo_onlyCutOff : OnlyCutOff fun budget => die.PoolsTo (context.under budget) := by
  apply (die.pooling ρ).onlyCutOff_endsIn context
  intro most room
  have bounded : (context.under (some most)).budget = some most := rfl
  obtain ⟨result, after, ends, still⟩ := die.pool_ends room bounded
  exact ⟨result, after, ⟨_, ends⟩, still⟩

end Die

/-- A budget never changes how a die rolls or pools, it only cuts the evaluation off. -/
theorem budgets_only_cut_off (ρ : Type) [Roller ρ] (die : Die) (context : Context ρ) :
    (OnlyCutOff fun budget => die.RollsTo (context.under budget)) ∧
    (OnlyCutOff fun budget => die.PoolsTo (context.under budget)) ∧
    (OnlyCutOff fun budget result after =>
      die.roll (context.under budget) = some (result, after)) ∧
    OnlyCutOff fun budget result after =>
      die.pool (context.under budget) = some (result, after) := by
  let start : Context ρ := { context with rolls := 0 }
  refine ⟨die.rollsTo_onlyCutOff context, die.poolsTo_onlyCutOff context, ?_, ?_⟩
  · apply (die.totalling ρ).onlyCutOff_fuelFor start die.size
    intro most room
    exact die.roll_ends room (show (context.under (some most)).budget = some most from rfl)
  · apply (die.pooling ρ).onlyCutOff_fuelFor start die.size
    intro most room
    exact die.pool_ends room (show (context.under (some most)).budget = some most from rfl)

/-- Two sixes and a two are five rolls with the two that are counted for the sixes: five are
enough, and with more the answer is the same, but four are not. -/
theorem budgets_only_cut_off_exploding :
    let cycle : FaceCycle := ⟨[6, 6, 2], by decide, 0⟩
    let die := Die.explode .above (.constant 6) (.dice (.constant 1) (.constant 6))
    let context := Context.start none cycle
    ∃ total after, die.roll (context.under (some 5)) = some (.ok total, after) ∧
      (total, after.rolls, after.roller.taken) = (14, 5, 3) ∧
      die.roll (context.under none) = some (.ok total, after.under none) ∧
      die.roll (context.under (some 9)) = some (.ok total, after.under (some 9)) ∧
      ∃ last, die.roll (context.under (some 4)) = some (.error .tooManyRolls, last) := by
  intro cycle die context
  have answer : (die.roll (context.under (some 5))).map (fun out =>
      (out.1.toOption, out.2.rolls, out.2.roller.taken)) = some (some 14, 5, 3) := by
    decide +kernel
  have narrow : (die.roll (context.under (some 4))).map (fun out => out.1.toOption) =
      some none := by
    decide +kernel
  obtain ⟨-, -, rolls, -⟩ := budgets_only_cut_off FaceCycle die context
  obtain ⟨⟨result, after⟩, ends, shown⟩ := Option.map_eq_some_iff.1 answer
  obtain ⟨sum, counted⟩ := Prod.mk.inj shown
  cases result with
  | error error => cases sum
  | ok total =>
    have answered : (.ok total : Except RollError Int64) ≠ .error .tooManyRolls := by
      intro same
      cases same
    obtain ⟨free, wider⟩ := rolls.kept (by decide) ends answered
    refine ⟨total, after, ends, Prod.ext (Option.some.inj sum) counted, free,
      wider 9 (by decide) (by decide), ?_⟩
    rcases rolls.cut free 4 (by decide) with same | refused
    · rw [same] at narrow
      cases narrow
    · exact refused

end DicePool
