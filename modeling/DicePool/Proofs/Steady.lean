import DicePool.Proofs.Drawing

/-!
# Steady computations

A computation is steady when more fuel keeps what it comes to. Then it has one outcome at most in
each context, and the steps of a sequence can be looked at one by one, each with whatever fuel it
takes.
-/

namespace DicePool

variable {ρ α β : Type}

/-- More fuel keeps what the computation comes to. -/
def Steady (code : Nat → Rolling ρ α) : Prop :=
  ∀ ⦃fuel more : Nat⦄ ⦃context : Context ρ⦄ ⦃result : Except RollError α⦄ ⦃after : Context ρ⦄,
    fuel ≤ more → code fuel context = some (result, after) →
      code more context = some (result, after)

namespace Steady

variable {code : Nat → Rolling ρ α} {next : Nat → α → Rolling ρ β} {context after : Context ρ}

/-- Fuel changes nothing where none is used. -/
theorem const (code : Rolling ρ α) : Steady fun _ => code := fun _ _ _ _ _ _ ends => ends

/-- Two steps are steady when the first one is, and the second one is for every value. -/
theorem bind (first : Steady code) (rest : ∀ value, Steady fun fuel => next fuel value) :
    Steady fun fuel => code fuel >>= next fuel := by
  intro fuel more context result after le ends
  obtain ⟨error, refused, same⟩ | ⟨value, reached, done, ends⟩ := Rolling.bind_eq_some_iff.1 ends
  · have still := first le refused
    exact Rolling.bind_eq_some_iff.2 (.inl ⟨error, still, same⟩)
  · have still := first le done
    have later := rest value le ends
    exact Rolling.bind_eq_some_iff.2 (.inr ⟨value, reached, still, later⟩)

/-- What is made of a result needs no fuel. -/
theorem map (steady : Steady code) (make : α → β) :
    Steady fun fuel => (do let value ← code fuel
                           return make value) :=
  steady.bind fun value => const (pure (make value))

/-- A list of steps is steady when each of them is. -/
theorem mapM {step : Nat → α → Rolling ρ β} (each : ∀ value, Steady fun fuel => step fuel value)
    (values : List α) : Steady fun fuel => values.mapM (step fuel) := by
  induction values with
  | nil => exact const (pure [])
  | cons value values ih =>
    simp only [List.mapM_cons]
    apply (each value).bind
    intro head
    apply ih.bind
    intro tail
    exact const (pure (head :: tail))

/-- Two amounts of fuel that suffice lead to one outcome. -/
theorem unique (steady : Steady code) {fuel more : Nat} {result other : Except RollError α}
    {last : Context ρ} (first : code fuel context = some (result, after))
    (second : code more context = some (other, last)) : result = other ∧ after = last := by
  have left := steady (Nat.le_max_left fuel more) first
  have right := steady (Nat.le_max_right fuel more) second
  rw [left] at right
  cases right
  exact ⟨rfl, rfl⟩

/-- Some fuel is enough where some fuel with so much on top of it is. -/
theorem exists_add_iff (steady : Steady code) (extra : Nat) {result : Except RollError α} :
    (∃ fuel, code (fuel + extra) context = some (result, after)) ↔
      ∃ fuel, code fuel context = some (result, after) := by
  constructor
  · rintro ⟨fuel, ends⟩
    exact ⟨fuel + extra, ends⟩
  · rintro ⟨fuel, ends⟩
    exact ⟨fuel, steady (Nat.le_add_right fuel extra) ends⟩

/-- A sequence of two steps ends with a refusal of the first, or as the second does, whatever fuel
each of them takes. -/
theorem exists_bind_iff (first : Steady code) (rest : ∀ value, Steady fun fuel => next fuel value)
    {result : Except RollError β} :
    (∃ fuel, (code fuel >>= next fuel) context = some (result, after)) ↔
      (∃ error, (∃ fuel, code fuel context = some (.error error, after)) ∧
        result = .error error) ∨
      ∃ value reached, (∃ fuel, code fuel context = some (.ok value, reached)) ∧
        ∃ fuel, next fuel value reached = some (result, after) := by
  simp only [Rolling.bind_eq_some_iff]
  constructor
  · rintro ⟨fuel, ⟨error, refused, same⟩ | ⟨value, reached, done, ends⟩⟩
    · exact .inl ⟨error, ⟨fuel, refused⟩, same⟩
    · exact .inr ⟨value, reached, ⟨fuel, done⟩, fuel, ends⟩
  · rintro (⟨error, ⟨fuel, refused⟩, same⟩ | ⟨value, reached, ⟨fuel, done⟩, more, ends⟩)
    · exact ⟨fuel, .inl ⟨error, refused, same⟩⟩
    · have enough := first (Nat.le_max_left fuel more) done
      have later := rest value (Nat.le_max_right fuel more) ends
      exact ⟨max fuel more, .inr ⟨value, reached, enough, later⟩⟩

/-- A sequence of two steps has a value where both have one. -/
theorem exists_bind_ok_iff (first : Steady code)
    (rest : ∀ value, Steady fun fuel => next fuel value) {value : β} :
    (∃ fuel, (code fuel >>= next fuel) context = some (.ok value, after)) ↔
      ∃ middle reached, (∃ fuel, code fuel context = some (.ok middle, reached)) ∧
        ∃ fuel, next fuel middle reached = some (.ok value, after) := by
  rw [first.exists_bind_iff rest]
  constructor
  · rintro (⟨error, -, same⟩ | ends)
    · cases same
    · exact ends
  · exact .inr

/-- A sequence of two steps is refused where one of them is. -/
theorem exists_bind_error_iff (first : Steady code)
    (rest : ∀ value, Steady fun fuel => next fuel value) {error : RollError} :
    (∃ fuel, (code fuel >>= next fuel) context = some (.error error, after)) ↔
      (∃ fuel, code fuel context = some (.error error, after)) ∨
      ∃ middle reached, (∃ fuel, code fuel context = some (.ok middle, reached)) ∧
        ∃ fuel, next fuel middle reached = some (.error error, after) := by
  rw [first.exists_bind_iff rest]
  refine or_congr_left ?_
  constructor
  · rintro ⟨cause, refused, same⟩
    cases same
    exact refused
  · intro refused
    exact ⟨error, refused, rfl⟩

end Steady

/-- A last step that asks nothing of the context leaves it as it is. -/
theorem exists_bind_settle_iff {code : Nat → Rolling ρ α} {finish : α → Except RollError β}
    {context after : Context ρ} {result : Except RollError β} :
    (∃ fuel, (code fuel >>= fun value => settle (finish value)) context = some (result, after)) ↔
      ∃ outcome, (∃ fuel, code fuel context = some (outcome, after)) ∧
        result = outcome.bind finish := by
  simp only [Rolling.bind_settle_eq_some_iff]
  constructor
  · rintro ⟨fuel, outcome, ends, same⟩
    exact ⟨outcome, ⟨fuel, ends⟩, same⟩
  · rintro ⟨outcome, ⟨fuel, ends⟩, same⟩
    exact ⟨fuel, outcome, ends, same⟩

/-- What is made of a result changes neither its refusals nor the context. -/
theorem exists_bind_pure_iff {code : Nat → Rolling ρ α} {make : α → β}
    {context after : Context ρ} {result : Except RollError β} :
    (∃ fuel, (code fuel >>= fun value => pure (make value)) context = some (result, after)) ↔
      ∃ outcome, (∃ fuel, code fuel context = some (outcome, after)) ∧
        result = outcome.map make := by
  simp only [Rolling.bind_pure_eq_some_iff]
  constructor
  · rintro ⟨fuel, outcome, ends, same⟩
    exact ⟨outcome, ⟨fuel, ends⟩, same⟩
  · rintro ⟨outcome, ⟨fuel, ends⟩, same⟩
    exact ⟨fuel, outcome, ends, same⟩

end DicePool
