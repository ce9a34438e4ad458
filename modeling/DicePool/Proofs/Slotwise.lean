import Mathlib
import DicePool.Proofs.Overflow

/-!
# Operators on every slot

Negating a die, testing it against a constant and joining it with a constant wrap every slot of its
pool, and each slot is operated on when it has been drawn, before the next one is drawn. What comes
of it is the operation on every value of the pool, as long as it has a result at each. The first
value without one is where the pool is refused, and so is the first slot that is refused itself.
-/

namespace DicePool

/-- An operation on every slot of a pool. -/
inductive SlotOperation where
  /-- Every value negated. -/
  | negate
  /-- The verdict in place of every value. -/
  | test (cmp : Comparison) (cutoff : Int64)
  /-- Every value joined with the same amount. -/
  | join (op : Arithmetic) (amount : Int64)

/-- One for a hit and zero otherwise. -/
def verdict (cmp : Comparison) (cutoff value : Int64) : Int64 :=
  if cmp.holds value cutoff then 1 else 0

namespace SlotOperation

/-- The die that operates on every slot of another die. -/
def die : SlotOperation → Die → Die
  | negate, body => .negative body
  | test cmp cutoff, body => .threshold cmp (.constant cutoff) body
  | join op amount, body => .bonus op body (.constant amount)

/-- The slot that operates on another slot. -/
def slot : SlotOperation → Slot → Slot
  | negate, slot => .negative slot
  | test cmp cutoff, slot => .threshold cmp cutoff slot
  | join op amount, slot => .bonus op slot (.constant amount)

/-- What is made of a value, or why nothing is. -/
def apply : SlotOperation → Int64 → Except RollError Int64
  | negate, value => DicePool.negate value
  | test cmp cutoff, value => .ok (verdict cmp cutoff value)
  | join op amount, value => op.apply value amount

/-- What is made of a draw. -/
def entry (operation : SlotOperation) (drawn : Int64 × Slot) : Except RollError (Int64 × Slot) :=
  (operation.apply drawn.1).map fun value => (value, operation.slot drawn.2)

end SlotOperation

/-- The values have these results, one by one. -/
def Maps (operation : SlotOperation) (values results : List Int64) : Prop :=
  List.Forall₂ (fun value result => operation.apply value = .ok result) values results

/-- At the first value that has no result, the error is the reason. -/
inductive FailsFirst (operation : SlotOperation) : List Int64 → RollError → Prop where
  /-- The first value has no result. -/
  | here {value : Int64} {values : List Int64} {error : RollError} :
    operation.apply value = .error error → FailsFirst operation (value :: values) error
  /-- The first value has one, and a later one fails. -/
  | behind {value result : Int64} {values : List Int64} {error : RollError} :
    operation.apply value = .ok result → FailsFirst operation values error →
      FailsFirst operation (value :: values) error

/-- Either all values have results, or there is a first one that has none. -/
theorem SlotOperation.maps_or_failsFirst (operation : SlotOperation) (values : List Int64) :
    (∃ results, Maps operation values results) ∨ ∃ error, FailsFirst operation values error := by
  induction values with
  | nil => exact .inl ⟨[], .nil⟩
  | cons value values ih =>
    cases made : operation.apply value with
    | error error => exact .inr ⟨error, .here made⟩
    | ok result =>
      obtain ⟨results, maps⟩ | ⟨error, fails⟩ := ih
      · exact .inl ⟨result :: results, .cons made maps⟩
      · exact .inr ⟨error, .behind made fails⟩

/-- Drawing from the pool is refused at a slot, when the slots before it have given the values. -/
inductive Pool.RefusedAfter {ρ : Type} [Roller ρ] :
    Pool → Context ρ → List Int64 → RollError → Context ρ → Prop where
  /-- The first slot is refused. -/
  | here {slot : Slot} {rest : Pool} {context after : Context ρ} {error : RollError} :
    slot.DrawsTo context (.error error) after →
      RefusedAfter (slot :: rest) context [] error after
  /-- The first slot gives its value, and a later one is refused. -/
  | behind {slot : Slot} {rest : Pool} {context reached after : Context ρ}
      {entry : Int64 × Slot} {values : List Int64} {error : RollError} :
    slot.DrawsTo context (.ok entry) reached → RefusedAfter rest reached values error after →
      RefusedAfter (slot :: rest) context (entry.1 :: values) error after

/-- Pooling the die is refused, when slots of its pool have given the values. -/
inductive Die.RefusedAfter {ρ : Type} [Roller ρ] (die : Die) (context : Context ρ) :
    List Int64 → RollError → Context ρ → Prop where
  /-- There is no pool. -/
  | generating {error : RollError} {after : Context ρ} :
    die.GeneratesTo { context with rolls := 0 } (.error error) after →
      RefusedAfter die context [] error after
  /-- A slot of the pool is refused. -/
  | drawing {pool : Pool} {reached after : Context ρ} {values : List Int64} {error : RollError} :
    die.GeneratesTo { context with rolls := 0 } (.ok pool) reached →
      pool.RefusedAfter reached values error after → RefusedAfter die context values error after

section

variable {ρ : Type} [Roller ρ] {die : Die} {pool : Pool} {context after : Context ρ}
  {error : RollError}

/-- A refusal of a pool comes at one of its slots. -/
theorem Pool.drawsTo_error_iff :
    pool.DrawsTo context (.error error) after ↔
      ∃ values, pool.RefusedAfter context values error after := by
  induction pool generalizing context with
  | nil =>
    rw [Pool.nil_drawsTo_iff]
    constructor
    · rintro ⟨same, -⟩
      cases same
    · rintro ⟨values, refused⟩
      cases refused
  | cons slot rest ih =>
    rw [Pool.cons_drawsTo_error_iff]
    constructor
    · rintro (refused | ⟨entry, reached, drawn, later⟩)
      · exact ⟨[], .here refused⟩
      · obtain ⟨values, refused⟩ := ih.1 later
        exact ⟨entry.1 :: values, .behind drawn refused⟩
    · rintro ⟨values, refused⟩
      cases refused with
      | here refused => exact .inl refused
      | behind drawn later => exact .inr ⟨_, _, drawn, ih.2 ⟨_, later⟩⟩

/-- A refusal of a pool comes while it is built or at one of its slots. -/
theorem Die.poolsTo_error_iff :
    die.PoolsTo context (.error error) after ↔
      ∃ values, die.RefusedAfter context values error after := by
  have valued : die.PoolsTo context (.error error) after ↔ _ := Die.valuesTo_error_iff
  rw [valued]
  constructor
  · rintro (refused | ⟨pool, reached, made, draws⟩)
    · exact ⟨[], .generating refused⟩
    · obtain ⟨values, refused⟩ := Pool.drawsTo_error_iff.1 draws
      exact ⟨values, .drawing made refused⟩
  · rintro ⟨values, refused⟩
    cases refused with
    | generating refused => exact .inl refused
    | drawing made refused => exact .inr ⟨_, _, made, Pool.drawsTo_error_iff.2 ⟨_, refused⟩⟩

end

section

variable {ρ : Type} [Roller ρ] (operation : SlotOperation) {body : Die} {slot : Slot} {pool : Pool}
  {context after : Context ρ}

/-- The pool of the operated die is that of the body with every slot operated on. Two calls are
what the cutoff of a test takes, so both sides have fuel for them. -/
theorem SlotOperation.generate_die (fuel : Nat) :
    ((operation.die body).generate (fuel + 3) : Rolling ρ Pool) =
      (do let pool ← body.generate (fuel + 2)
          return pool.map operation.slot) := by
  cases operation with
  | negate =>
    rw [die, Die.generate]
    rfl
  | test cmp cutoff =>
    rw [die, Die.generate, Die.total_constant, pure_bind]
    rfl
  | join op amount =>
    rw [die, Die.generate]
    rfl

/-- A slot is operated on once it has been drawn. -/
theorem SlotOperation.drawFrom_slot (fuel : Nat) :
    (drawFrom (Slot.force (fuel + 3)) (operation.slot slot) : Rolling ρ (Int64 × Slot)) =
      (do let drawn ← drawFrom (Slot.force (fuel + 2)) slot
          settle (operation.entry drawn)) := by
  have settles (value : Except RollError Int64) (left : Slot) :
      (do let value ← settle value
          return (value, left) : Rolling ρ (Int64 × Slot)) =
        settle (value.map fun value => (value, left)) := by
    cases value <;> rfl
  cases operation with
  | negate =>
    rw [SlotOperation.slot, drawFrom_negative]
    simp only [settles]
    rfl
  | test cmp cutoff =>
    rw [SlotOperation.slot, drawFrom_threshold]
    rfl
  | join op amount =>
    rw [SlotOperation.slot, drawFrom_bonus]
    simp only [Die.total_constant, pure_bind, settles]
    rfl

/-- The operated die makes the slots of its body, each wrapped. -/
theorem SlotOperation.die_generatesTo_iff {result : Except RollError Pool} :
    (operation.die body).GeneratesTo context result after ↔
      ∃ outcome, body.GeneratesTo context outcome after ∧
        result = outcome.map (List.map operation.slot) := by
  unfold Die.GeneratesTo
  rw [← (operation.die body).steady_generate.exists_add_iff 3]
  simp only [operation.generate_die, exists_bind_pure_iff, body.steady_generate.exists_add_iff 2]

/-- The wrapped slot gives what the operation makes of the draw. -/
theorem SlotOperation.slot_drawsTo_iff {result : Except RollError (Int64 × Slot)} :
    (operation.slot slot).DrawsTo context result after ↔
      ∃ outcome, slot.DrawsTo context outcome after ∧ result = outcome.bind operation.entry := by
  unfold Slot.DrawsTo
  rw [← (operation.slot slot).steady_draw.exists_add_iff 3]
  simp only [operation.drawFrom_slot, exists_bind_settle_iff, slot.steady_draw.exists_add_iff 2]

variable {drawn : List (Int64 × Slot)} {values results : List Int64} {error cause : RollError}

/-- A slot that has a value with a result. -/
theorem SlotOperation.slot_drawsTo_ok {entry : Int64 × Slot} {result : Int64}
    (draws : slot.DrawsTo context (.ok entry) after) (made : operation.apply entry.1 = .ok result) :
    (operation.slot slot).DrawsTo context (.ok (result, operation.slot entry.2)) after := by
  refine operation.slot_drawsTo_iff.2 ⟨.ok entry, draws, ?_⟩
  show _ = (operation.apply entry.1).map _
  rw [made]
  rfl

/-- A slot that has a value without a result. -/
theorem SlotOperation.slot_drawsTo_error {entry : Int64 × Slot}
    (draws : slot.DrawsTo context (.ok entry) after)
    (fails : operation.apply entry.1 = .error error) :
    (operation.slot slot).DrawsTo context (.error error) after := by
  refine operation.slot_drawsTo_iff.2 ⟨.ok entry, draws, ?_⟩
  show _ = (operation.apply entry.1).map _
  rw [fails]
  rfl

/-- The draws of an operated pool have the results. -/
theorem SlotOperation.pool_drawsTo_ok (draws : pool.DrawsTo context (.ok drawn) after)
    (maps : Maps operation (drawn.map Prod.fst) results) :
    ∃ entries, Pool.DrawsTo (pool.map operation.slot) context (.ok entries) after ∧
      entries.map Prod.fst = results := by
  induction pool generalizing context drawn results with
  | nil =>
    obtain ⟨same, rfl⟩ := Pool.nil_drawsTo_iff.1 draws
    cases same
    cases maps
    exact ⟨[], Pool.nil_drawsTo_iff.2 ⟨rfl, rfl⟩, rfl⟩
  | cons slot rest ih =>
    obtain ⟨entry, reached, first, others, later, rfl⟩ := Pool.cons_drawsTo_ok_iff.1 draws
    cases maps with
    | cons made maps =>
      obtain ⟨entries, mapped, rfl⟩ := ih later maps
      have front := operation.slot_drawsTo_ok first made
      exact ⟨_, Pool.cons_drawsTo_ok_iff.2 ⟨_, reached, front, entries, mapped, rfl⟩, rfl⟩

/-- An operated pool is refused at the first value without a result. -/
theorem SlotOperation.pool_drawsTo_error (draws : pool.DrawsTo context (.ok drawn) after)
    (fails : FailsFirst operation (drawn.map Prod.fst) error) :
    ∃ reached, Pool.DrawsTo (pool.map operation.slot) context (.error error) reached := by
  induction pool generalizing context drawn with
  | nil =>
    obtain ⟨same, -⟩ := Pool.nil_drawsTo_iff.1 draws
    cases same
    cases fails
  | cons slot rest ih =>
    obtain ⟨entry, middle, first, others, later, rfl⟩ := Pool.cons_drawsTo_ok_iff.1 draws
    cases fails with
    | here none =>
      have refused := operation.slot_drawsTo_error first none
      exact ⟨middle, Pool.cons_drawsTo_error_iff.2 (.inl refused)⟩
    | behind made fails =>
      obtain ⟨reached, refused⟩ := ih later fails
      have front := operation.slot_drawsTo_ok first made
      exact ⟨reached, Pool.cons_drawsTo_error_iff.2 (.inr ⟨_, middle, front, refused⟩)⟩

/-- A refused pool is refused so when operated on, if the values before have results. -/
theorem SlotOperation.pool_refused_of_maps (refused : pool.RefusedAfter context values error after)
    (maps : Maps operation values results) :
    Pool.DrawsTo (pool.map operation.slot) context (.error error) after := by
  induction refused generalizing results with
  | here refused =>
    have same := operation.slot_drawsTo_iff.2 ⟨_, refused, rfl⟩
    exact Pool.cons_drawsTo_error_iff.2 (.inl same)
  | behind draws _ ih =>
    cases maps with
    | cons made maps =>
      have front := operation.slot_drawsTo_ok draws made
      exact Pool.cons_drawsTo_error_iff.2 (.inr ⟨_, _, front, ih maps⟩)

/-- A refused pool is refused earlier when operated on, if a value before has no result. -/
theorem SlotOperation.pool_refused_of_failsFirst
    (refused : pool.RefusedAfter context values error after)
    (fails : FailsFirst operation values cause) :
    ∃ reached, Pool.DrawsTo (pool.map operation.slot) context (.error cause) reached := by
  induction refused with
  | here refused => cases fails
  | behind draws _ ih =>
    cases fails with
    | here none =>
      have first := operation.slot_drawsTo_error draws none
      exact ⟨_, Pool.cons_drawsTo_error_iff.2 (.inl first)⟩
    | behind made fails =>
      obtain ⟨reached, later⟩ := ih fails
      have front := operation.slot_drawsTo_ok draws made
      exact ⟨reached, Pool.cons_drawsTo_error_iff.2 (.inr ⟨_, _, front, later⟩)⟩

end

section

variable {ρ : Type} [Roller ρ]

/-- How the pool of an operated die comes from that of its body. -/
structure OperatesSlotwise (operation : SlotOperation) (body : Die) (context : Context ρ) :
    Prop where
  /-- All values are operated on if all have results, and nothing else is drawn. -/
  maps : ∀ values after results, body.PoolsTo context (.ok values) after →
    Maps operation values results → (operation.die body).PoolsTo context (.ok results) after
  /-- The first value without a result is where the operated pool is refused. -/
  fails : ∀ values after error, body.PoolsTo context (.ok values) after →
    FailsFirst operation values error →
      ∃ reached, (operation.die body).PoolsTo context (.error error) reached
  /-- A refusal of the body stays, if there are results as far as it has values. -/
  refused : ∀ values error after results, body.RefusedAfter context values error after →
    Maps operation values results → (operation.die body).PoolsTo context (.error error) after
  /-- A value without a result before the refusal of the body comes first. -/
  precedes : ∀ values error after cause, body.RefusedAfter context values error after →
    FailsFirst operation values cause →
      ∃ reached, (operation.die body).PoolsTo context (.error cause) reached

/-- The operated pool is drawn slot by slot, like that of the body. -/
theorem SlotOperation.operatesSlotwise (operation : SlotOperation) (body : Die)
    (context : Context ρ) : OperatesSlotwise operation body context where
  maps values after results pooled maps := by
    obtain ⟨slots, reached, made, drawn, draws, rfl⟩ := Die.valuesTo_ok_iff.1 pooled
    obtain ⟨entries, mapped, rfl⟩ := operation.pool_drawsTo_ok draws maps
    have built := operation.die_generatesTo_iff.2 ⟨_, made, rfl⟩
    exact Die.valuesTo_ok_iff.2 ⟨_, reached, built, entries, mapped, rfl⟩
  fails values after error pooled fails := by
    obtain ⟨slots, middle, made, drawn, draws, rfl⟩ := Die.valuesTo_ok_iff.1 pooled
    obtain ⟨reached, refused⟩ := operation.pool_drawsTo_error draws fails
    have built := operation.die_generatesTo_iff.2 ⟨_, made, rfl⟩
    exact ⟨reached, Die.valuesTo_error_iff.2 (.inr ⟨_, middle, built, refused⟩)⟩
  refused values error after results refused maps := by
    cases refused with
    | generating refused =>
      have none := operation.die_generatesTo_iff.2 ⟨_, refused, rfl⟩
      exact Die.valuesTo_error_iff.2 (.inl none)
    | drawing made refused =>
      have built := operation.die_generatesTo_iff.2 ⟨_, made, rfl⟩
      have draws := operation.pool_refused_of_maps refused maps
      exact Die.valuesTo_error_iff.2 (.inr ⟨_, _, built, draws⟩)
  precedes values error after cause refused fails := by
    cases refused with
    | generating refused => cases fails
    | drawing made refused =>
      have built := operation.die_generatesTo_iff.2 ⟨_, made, rfl⟩
      obtain ⟨reached, draws⟩ := operation.pool_refused_of_failsFirst refused fails
      exact ⟨reached, Die.valuesTo_error_iff.2 (.inr ⟨_, _, built, draws⟩)⟩

end

/-- How many of the values are hits. -/
def hitCount (cmp : Comparison) (cutoff : Int64) (values : List Int64) : Nat :=
  values.countP fun value => cmp.holds value cutoff

/-- Every value has a verdict. -/
theorem SlotOperation.test_maps (cmp : Comparison) (cutoff : Int64) (values : List Int64) :
    Maps (.test cmp cutoff) values (values.map (verdict cmp cutoff)) := by
  induction values with
  | nil => exact .nil
  | cons value values ih => exact .cons rfl ih

/-- The verdicts add up to the number of hits. -/
theorem exactSum_verdicts (cmp : Comparison) (cutoff : Int64) (values : List Int64) :
    exactSum (values.map (verdict cmp cutoff)) = hitCount cmp cutoff values := by
  induction values with
  | nil => rfl
  | cons value values ih =>
    have first : (verdict cmp cutoff value).toInt = if cmp.holds value cutoff then 1 else 0 := by
      unfold verdict
      split <;> rfl
    have counted : hitCount cmp cutoff (value :: values) =
        hitCount cmp cutoff values + if cmp.holds value cutoff then 1 else 0 := List.countP_cons
    rw [List.map_cons, exactSum_cons, ih, first, counted]
    split <;> omega

/-- A test totals to the number of hits, as long as it has a 64-bit value. -/
theorem Die.threshold_rollsTo {ρ : Type} [Roller ρ] {body : Die} {context after : Context ρ}
    {values : List Int64} (cmp : Comparison) (cutoff : Int64)
    (pooled : body.PoolsTo context (.ok values) after) :
    (Die.threshold cmp (.constant cutoff) body).RollsTo context (fit (hitCount cmp cutoff values))
      after := by
  have tested : (Die.threshold cmp (.constant cutoff) body).PoolsTo context
      (.ok (values.map (verdict cmp cutoff))) after :=
    ((SlotOperation.test cmp cutoff).operatesSlotwise body context).maps _ _ _ pooled
      (SlotOperation.test_maps cmp cutoff values)
  have nonneg : ∀ value ∈ values.map (verdict cmp cutoff), 0 ≤ value.toInt := by
    intro value member
    obtain ⟨drawn, -, rfl⟩ := List.mem_map.1 member
    unfold verdict
    split <;> decide
  have total := sum_eq_fit nonneg
  rw [exactSum_verdicts] at total
  exact Die.rollsTo_iff.2 ⟨_, tested, total.symm⟩

/-- Every value is at the cutoff or above it, or else it is under it. -/
theorem hitCount_above_add_hitCount_under {cutoff : Int64} (least : Int64.minValue < cutoff)
    (values : List Int64) :
    hitCount .above cutoff values + hitCount .under (cutoff - 1) values = values.length := by
  have before : (cutoff - 1).toInt = cutoff.toInt - 1 := by
    have low : Int64.minValue.toInt < cutoff.toInt := Int64.lt_iff_toInt_lt.1 least
    have high := cutoff.toInt_lt
    rw [Int64.toInt_minValue] at low
    rw [Int64.toInt_sub, Int64.toInt_one]
    exact Int.bmod_eq_of_le (by omega) (by omega)
  have other (value : Int64) :
      Comparison.under.holds value (cutoff - 1) =
        decide ¬Comparison.above.holds value cutoff = true := by
    unfold Comparison.holds
    simp only [decide_eq_true_eq, Int64.le_iff_toInt_le, before]
    apply decide_eq_decide.2
    omega
  have rest : hitCount .under (cutoff - 1) values =
      values.countP fun value => decide ¬Comparison.above.holds value cutoff = true :=
    List.countP_congr fun value _ => by rw [other]
  rw [rest, hitCount]
  exact (List.length_eq_countP_add_countP _).symm

/-- A test and the test for everything under its cutoff, each rolled from the same context, count
the whole pool between them. -/
theorem Die.threshold_complementary {ρ : Type} [Roller ρ] {body : Die} {context after : Context ρ}
    {values : List Int64} {cutoff : Int64} (least : Int64.minValue < cutoff)
    (pooled : body.PoolsTo context (.ok values) after) {high low : Int64} {reached last : Context ρ}
    (above : (Die.threshold .above (.constant cutoff) body).RollsTo context (.ok high) reached)
    (under : (Die.threshold .under (.constant (cutoff - 1)) body).RollsTo context (.ok low) last) :
    high.toInt + low.toInt = values.length := by
  have whole := hitCount_above_add_hitCount_under least values
  have first := (Die.threshold_rollsTo .above cutoff pooled).unique above
  have second := (Die.threshold_rollsTo .under (cutoff - 1) pooled).unique under
  have left : high.toInt = hitCount .above cutoff values := fit_eq_ok_iff.1 first.1
  have right : low.toInt = hitCount .under (cutoff - 1) values := fit_eq_ok_iff.1 second.1
  omega

/-- What pooling and rolling return for the operations on a body, by what it is pooled to. -/
structure ReturnsSlotwise {ρ : Type} [Roller ρ] (body : Die) (context : Context ρ) : Prop where
  /-- All values are operated on if all have results. -/
  maps : ∀ operation values after results, body.pool context = some (.ok values, after) →
    Maps operation values results →
      (operation.die body).pool context = some (.ok results, after)
  /-- The first value without a result refuses the pool. -/
  fails : ∀ operation values after error, body.pool context = some (.ok values, after) →
    FailsFirst operation values error →
      ∃ reached, (operation.die body).pool context = some (.error error, reached)
  /-- What refuses the body refuses the pool, unless a value drawn earlier has no result. -/
  refused : ∀ error after, body.pool context = some (.error error, after) →
    ∃ values, body.RefusedAfter context values error after ∧
      ∀ operation : SlotOperation,
        (∀ results, Maps operation values results →
          (operation.die body).pool context = some (.error error, after)) ∧
        ∀ cause, FailsFirst operation values cause →
          ∃ reached, (operation.die body).pool context = some (.error cause, reached)
  /-- A test rolls to the number of hits, as long as that is a value. -/
  counts : ∀ cmp cutoff values after, body.pool context = some (.ok values, after) →
    (Die.threshold cmp (.constant cutoff) body).roll context =
      some (fit (hitCount cmp cutoff values), after)
  /-- The totals of a test and of the test for the rest count the whole pool between them. -/
  complementary : ∀ (cutoff : Int64) values after, Int64.minValue < cutoff →
    body.pool context = some (.ok values, after) → ∀ high low reached last,
      (Die.threshold .above (.constant cutoff) body).roll context = some (.ok high, reached) →
      (Die.threshold .under (.constant (cutoff - 1)) body).roll context = some (.ok low, last) →
        high.toInt + low.toInt = values.length

/-- Under a budget, pooling and rolling find all that the operations come to. -/
theorem Die.returnsSlotwise {ρ : Type} [Roller ρ] (body : Die) {context : Context ρ} {most : Nat}
    (room : most < rollLimit) (bounded : context.budget = some most) :
    ReturnsSlotwise body context where
  maps operation values after results ends maps := by
    have pooled := (Die.pool_eq_some_iff room bounded).1 ends
    have operated := (operation.operatesSlotwise body context).maps _ _ _ pooled maps
    exact (Die.pool_eq_some_iff room bounded).2 operated
  fails operation values after error ends fails := by
    have pooled := (Die.pool_eq_some_iff room bounded).1 ends
    have operated := (operation.operatesSlotwise body context).fails _ _ _ pooled fails
    obtain ⟨reached, refused⟩ := operated
    exact ⟨reached, (Die.pool_eq_some_iff room bounded).2 refused⟩
  refused error after ends := by
    have pooled := (Die.pool_eq_some_iff room bounded).1 ends
    obtain ⟨values, refused⟩ := Die.poolsTo_error_iff.1 pooled
    refine ⟨values, refused, fun operation => ⟨fun results maps => ?_, fun cause fails => ?_⟩⟩
    · have operated := (operation.operatesSlotwise body context).refused _ _ _ _ refused maps
      exact (Die.pool_eq_some_iff room bounded).2 operated
    · have operated := (operation.operatesSlotwise body context).precedes _ _ _ _ refused fails
      obtain ⟨reached, earlier⟩ := operated
      exact ⟨reached, (Die.pool_eq_some_iff room bounded).2 earlier⟩
  counts cmp cutoff values after ends := by
    have pooled := (Die.pool_eq_some_iff room bounded).1 ends
    exact (Die.roll_eq_some_iff room bounded).2 (Die.threshold_rollsTo cmp cutoff pooled)
  complementary cutoff values after least ends high low reached last above under := by
    have pooled := (Die.pool_eq_some_iff room bounded).1 ends
    have first := (Die.roll_eq_some_iff room bounded).1 above
    have second := (Die.roll_eq_some_iff room bounded).1 under
    exact Die.threshold_complementary least pooled first second

/-- Negating a die, testing it and joining it with a constant operate on its pool value by value.
The first refusal in the order of the slots refuses the pool, and tests total to their hits. -/
theorem slotwise_maps_pool (ρ : Type) [Roller ρ] (body : Die) (context : Context ρ) :
    (∀ operation : SlotOperation, OperatesSlotwise operation body context ∧
      ∀ values, (∃ results, Maps operation values results) ∨
        ∃ error, FailsFirst operation values error) ∧
    (∀ error after, body.PoolsTo context (.error error) after ↔
      ∃ values, body.RefusedAfter context values error after) ∧
    (∀ values after, body.PoolsTo context (.ok values) after →
      (∀ cmp cutoff, (Die.threshold cmp (.constant cutoff) body).RollsTo context
        (fit (hitCount cmp cutoff values)) after) ∧
      ∀ cutoff : Int64, Int64.minValue < cutoff →
        let above := Die.threshold .above (.constant cutoff) body
        let under := Die.threshold .under (.constant (cutoff - 1)) body
        (∀ high low reached last, above.RollsTo context (.ok high) reached →
          under.RollsTo context (.ok low) last → high.toInt + low.toInt = values.length) ∧
        (Fits values.length → ∃ high low, above.RollsTo context (.ok high) after ∧
          under.RollsTo context (.ok low) after ∧ high.toInt + low.toInt = values.length)) ∧
    ∀ most, context.budget = some most → most < rollLimit → ReturnsSlotwise body context := by
  refine ⟨fun operation => ⟨?_, operation.maps_or_failsFirst⟩, fun error after => ?_, ?_, ?_⟩
  · exact operation.operatesSlotwise body context
  · exact Die.poolsTo_error_iff
  · intro values after pooled
    refine ⟨fun cmp cutoff => Die.threshold_rollsTo cmp cutoff pooled, ?_⟩
    intro cutoff least above under
    refine ⟨fun high low reached last => Die.threshold_complementary least pooled, fun fits => ?_⟩
    have whole := hitCount_above_add_hitCount_under least values
    have first := Die.threshold_rollsTo .above cutoff pooled
    have second := Die.threshold_rollsTo .under (cutoff - 1) pooled
    rw [fit_of_fits (by unfold Fits at fits ⊢; omega)] at first second
    exact ⟨_, _, first, second, Die.threshold_complementary least pooled first second⟩
  · intro most bounded room
    exact body.returnsSlotwise room bounded

/-- A face and the least value, which has no negative: the pool is negated no further than that,
also when a third slot of it divides by zero. -/
theorem slotwise_maps_pool_least :
    let cycle (taken : Nat) : FaceCycle := ⟨[4, 5], by decide, taken⟩
    let start : Context FaceCycle := Context.start (some 3) (cycle 0)
    let after (rolls : Nat) : Context FaceCycle := ⟨some 3, rolls, cycle rolls⟩
    let face := Die.dice (.constant 1) (.constant 6)
    let body := Die.add face (.constant Int64.minValue)
    let longer := Die.add body (.bonus .divide face (.constant 0))
    body.PoolsTo start (.ok [4, Int64.minValue]) (after 1) ∧
    Maps (.join .add 1) [4, Int64.minValue] [5, Int64.minValue + 1] ∧
    (Die.bonus .add body (.constant 1)).PoolsTo start (.ok [5, Int64.minValue + 1]) (after 1) ∧
    FailsFirst .negate [4, Int64.minValue] .overflow ∧
    (∃ reached, (Die.negative body).PoolsTo start (.error .overflow) reached) ∧
    longer.RefusedAfter start [4, Int64.minValue] .divideByZero (after 2) ∧
    (Die.bonus .add longer (.constant 1)).PoolsTo start (.error .divideByZero) (after 2) ∧
    (∃ reached, (Die.negative longer).PoolsTo start (.error .overflow) reached) ∧
    Int64.minValue < 5 ∧ Fits [4, Int64.minValue].length ∧
    (∃ high low, (Die.threshold .above (.constant 5) body).RollsTo start (.ok high) (after 1) ∧
      (Die.threshold .under (.constant (5 - 1)) body).RollsTo start (.ok low) (after 1) ∧
      high.toInt + low.toInt = [4, Int64.minValue].length) ∧
    start.budget = some 3 ∧ 3 < rollLimit ∧
    body.pool start = some (.ok [4, Int64.minValue], after 1) ∧
    (Die.bonus .add body (.constant 1)).pool start =
      some (.ok [5, Int64.minValue + 1], after 1) ∧
    (Die.threshold .above (.constant 5) body).roll start = some (.ok 0, after 1) := by
  intro cycle start after face body longer
  have pooled : body.PoolsTo start (.ok [4, Int64.minValue]) (after 1) := ⟨6, by cbv⟩
  have maps : Maps (.join .add 1) [4, Int64.minValue] [5, Int64.minValue + 1] :=
    .cons rfl (.cons rfl .nil)
  have fails : FailsFirst .negate [4, Int64.minValue] .overflow := .behind rfl (.here rfl)
  let quotient := Slot.bonus .divide (.face 6) (.constant 0)
  have built : longer.GeneratesTo start (.ok [.face 6, .fixed Int64.minValue, quotient]) start :=
    ⟨6, by cbv⟩
  have first : Slot.DrawsTo (.face 6) start (.ok (4, .face 6)) (after 1) := ⟨1, by cbv⟩
  have second : Slot.DrawsTo (.fixed Int64.minValue) (after 1)
      (.ok (Int64.minValue, .fixed Int64.minValue)) (after 1) := ⟨1, by cbv⟩
  have third : quotient.DrawsTo (after 1) (.error .divideByZero) (after 2) := ⟨4, by cbv⟩
  have refused : longer.RefusedAfter start [4, Int64.minValue] .divideByZero (after 2) :=
    .drawing built (.behind first (.behind second (.here third)))
  have least : Int64.minValue < 5 := by decide
  have short : Fits [4, Int64.minValue].length := by decide
  have bounded : start.budget = some 3 := rfl
  have room : 3 < rollLimit := by decide
  obtain ⟨operates, -, counts, returns⟩ := slotwise_maps_pool FaceCycle body start
  obtain ⟨others, -, -, -⟩ := slotwise_maps_pool FaceCycle longer start
  have joined := (operates (.join .add 1)).1.maps _ _ _ pooled maps
  have negated := (operates .negate).1.fails _ _ _ pooled fails
  have still := (others (.join .add 1)).1.refused _ _ _ _ refused maps
  have earlier := (others .negate).1.precedes _ _ _ _ refused fails
  have whole := ((counts _ _ pooled).2 5 least).2 short
  have ends := (Die.pool_eq_some_iff room bounded).2 pooled
  have found := (returns 3 bounded room).maps (.join .add 1) _ _ _ ends maps
  have none := (returns 3 bounded room).counts .above 5 _ _ ends
  exact ⟨pooled, maps, joined, fails, negated, refused, still, earlier, least, short, whole,
    bounded, room, ends, found, none⟩

end DicePool
