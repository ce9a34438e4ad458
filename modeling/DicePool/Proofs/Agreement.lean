import DicePool.Proofs.Exact
import DicePool.Proofs.Quotient

/-!
# Checked evaluation

An evaluation with 64-bit values carries out the calculation over the integers, checked. It
asks the same of its context in the same order, makes the same operations with the same
operands, and is refused where the calculation stops.
-/

namespace DicePool

variable {ρ α β γ δ : Type}

/-- An integer within the range is put into it unchanged. -/
theorem fit_of_fits {n : Int} (fits : Fits n) : fit n = .ok (Int64.ofInt n) :=
  if_pos fits

/-- An integer beyond the range overflows. -/
theorem fit_of_not_fits {n : Int} (large : ¬Fits n) : fit n = .error .overflow :=
  if_neg large

/-- Every operation is the exact one, put into the range. -/
theorem apply_eq_fit (op : Arithmetic) (left right : Int64) :
    op.apply left right =
      match (Operation.apply op left.toInt right.toInt).result? with
      | none => .error .divideByZero
      | some n => fit n := by
  cases op with
  | add => rfl
  | subtract => rfl
  | multiply => rfl
  | divide =>
    have zero : right.toInt = 0 ↔ right = 0 := by
      rw [← Int64.toInt_inj, Int64.toInt_zero]
    rw [Operation.result?, Arithmetic.apply]
    by_cases none : right = 0
    · rw [if_pos (zero.2 none), floorQuotient, if_pos none]
    · rw [if_neg fun same => none (zero.1 same)]
      exact floorQuotient_of_ne_zero none

/-- What an operation comes to when its operands are 64-bit values. -/
inductive Operation.Gives : Operation → Except RollError Int64 → Prop where
  /-- Two values are joined. -/
  | apply (op : Arithmetic) (left right : Int64) :
    Gives (.apply op left.toInt right.toInt) (op.apply left right)
  /-- A value is negated. -/
  | negate (value : Int64) : Gives (.negate value.toInt) (DicePool.negate value)

/-- What an operation comes to is its exact result, put into the range. -/
theorem Operation.Gives.eq_fit {operation : Operation} {result : Except RollError Int64}
    (gives : operation.Gives result) :
    result =
      match operation.result? with
      | none => .error .divideByZero
      | some n => fit n := by
  cases gives with
  | apply op left right => exact apply_eq_fit op left right
  | negate value => rfl

/-- The sides of a die are read off the integer. -/
theorem ofInt64_eq_ofInt? (sides : Int64) :
    Sides.ofInt64 sides =
      match Sides.ofInt? sides.toInt with
      | none => .error (.invalidSides sides)
      | some valid => .ok valid := by
  unfold Sides.ofInt64 Sides.ofInt?
  split <;> rfl

/-- A face is its number. -/
theorem toInt_ofNat_toNat (face : UInt32) : (Int64.ofNat face.toNat).toInt = face.toNat := by
  have small := face.toNat_lt
  exact Int64.toInt_ofNat_of_lt (by omega)

/-- Hits are the same on the integers. -/
theorem hits_toInt (cmp : Comparison) (value cutoff : Int64) :
    Exact.hits cmp value.toInt cutoff.toInt = cmp.holds value cutoff := by
  cases cmp with
  | above => exact decide_eq_decide.2 Int64.le_iff_toInt_le.symm
  | under => exact decide_eq_decide.2 Int64.le_iff_toInt_le.symm

/-- Preferences are the same on the integers. -/
theorem prefers_toInt (selection : Selection) (left right : Int64) :
    Exact.prefers selection left.toInt right.toInt = selection.prefers left right := by
  cases selection with
  | highest => exact decide_eq_decide.2 Int64.le_iff_toInt_le.symm
  | lowest => exact decide_eq_decide.2 Int64.le_iff_toInt_le.symm

/-- The refusal that a cause is reported as. -/
inductive Cause.Reported : Cause → RollError → Prop where
  /-- A roll beyond the budget. -/
  | tooManyRolls : Reported .tooManyRolls .tooManyRolls
  /-- A quotient by zero. -/
  | divideByZero : Reported .divideByZero .divideByZero
  /-- An operation between values that overflows. -/
  | overflow {operation : Operation} (refused : operation.Gives (.error .overflow)) :
    Reported (.overflow operation) .overflow
  /-- A number that is no number of sides. -/
  | invalidSides (sides : Int64) : Reported (.invalidSides sides.toInt) (.invalidSides sides)

/-- A result of a calculation and what is reported of it: the value as `view` shows it, or the
refusal. -/
inductive Matches (view : α → β) : Except RollError α → Except Cause β → Prop where
  /-- A value and what is seen of it. -/
  | ok (value : α) : Matches view (.ok value) (.ok (view value))
  /-- A refusal and its cause. -/
  | error {cause : Cause} {error : RollError} (reported : cause.Reported error) :
    Matches view (.error error) (.error cause)

/-- A cause is reported in one way only. -/
theorem Cause.Reported.unique {cause : Cause} {left right : RollError}
    (first : cause.Reported left) (second : cause.Reported right) : left = right := by
  cases first with
  | tooManyRolls => cases second; rfl
  | divideByZero => cases second; rfl
  | overflow refused => cases second; rfl
  | invalidSides sides =>
    generalize known : sides.toInt = n at second
    cases second with
    | invalidSides other => rw [Int64.toInt_inj.1 known]

/-- Results that match the same one are the same, if the view tells values apart. -/
theorem Matches.unique {view : α → β}
    (injective : ∀ left right, view left = view right → left = right)
    {left right : Except RollError α} {outcome : Except Cause β} (first : Matches view left outcome)
    (second : Matches view right outcome) : left = right := by
  cases first with
  | ok value =>
    generalize known : view value = seen at second
    cases second with
    | ok other => rw [injective value other known]
  | error reported =>
    cases second with
    | error other => rw [reported.unique other]

/-- The computation ends where the checked calculation does, in the same context and with a result
that matches. -/
def Agrees (view : α → β) (code : Rolling ρ α) [Roller ρ] (plan : Calculation β) : Prop :=
  ∀ context, Option.Rel (fun out seen => Matches view out.1 seen.1 ∧ out.2 = seen.2)
    (code context) (plan.checked context)

namespace Agrees

variable [Roller ρ] {view : α → β} {further : γ → δ}

/-- Without fuel the calculation is stuck. -/
theorem exhausted : Agrees view (exhausted : Rolling ρ α) .stuck := fun _ => .none

/-- A value agrees with what is seen of it. -/
theorem pure {value : α} {seen : β} (same : view value = seen) :
    Agrees view (Pure.pure value : Rolling ρ α) (Pure.pure seen) := by
  intro context
  subst same
  exact .some ⟨.ok value, rfl⟩

/-- Two steps agree when the first ones do, and the second ones do for every value. -/
theorem bind {code : Rolling ρ α} {plan : Calculation β} {next : α → Rolling ρ γ}
    {planNext : β → Calculation δ} (first : Agrees view code plan)
    (rest : ∀ value, Agrees further (next value) (planNext (view value))) :
    Agrees further (code >>= next) (plan >>= planNext) := by
  intro context
  have start := first context
  rw [Rolling.bind_apply, Calculation.checked, Calculation.run_bind]
  rw [Calculation.checked] at start
  generalize code context = out at start
  generalize plan.run (fun value => decide (Fits value)) context = seen at start
  cases start with
  | none => exact .none
  | @some out seen related =>
    obtain ⟨result, reached⟩ := out
    obtain ⟨outcome, same⟩ := seen
    obtain ⟨matching, rfl⟩ := related
    cases matching with
    | ok value => exact rest value reached
    | error reported => exact .some ⟨.error reported, rfl⟩

/-- What is only built from a result is no step of its own. -/
theorem map {code : Rolling ρ α} {plan : Calculation β} {next : α → γ} {planNext : β → δ}
    (first : Agrees view code plan) (same : ∀ value, further (next value) = planNext (view value)) :
    Agrees further (code >>= fun value => Pure.pure (next value))
      (plan >>= fun seen => Pure.pure (planNext seen)) :=
  first.bind fun value => pure (same value)

/-- Counting a roll agrees with the request for it. -/
theorem countRoll : Agrees id (countRoll : Rolling ρ Unit) Calculation.countRoll := by
  intro context
  have counted : DicePool.countRoll context =
      (DicePool.countRoll >>= fun _ => Pure.pure ()) context := by rw [bind_pure_unit]
  rw [counted, countRoll_bind_apply, Calculation.checked, Calculation.countRoll, Calculation.run]
  cases context.full with
  | true => exact .some ⟨.error .tooManyRolls, rfl⟩
  | false => exact .some ⟨.ok (), rfl⟩

/-- Reserving rolls agrees with the request for them. -/
theorem reserve (rolls : Nat) :
    Agrees id (reserve rolls : Rolling ρ Unit) (Calculation.reserve rolls) := by
  intro context
  rw [DicePool.reserve, Calculation.checked, Calculation.reserve, Calculation.run]
  cases context.exceeds (context.after rolls) with
  | true => exact .some ⟨.error .tooManyRolls, rfl⟩
  | false => exact .some ⟨.ok (), rfl⟩

/-- Rolling a face agrees with the request for one. -/
theorem rollFace (sides : Int64) :
    Agrees Int64.toInt (rollFace sides : Rolling ρ Int64) (Calculation.rollFace sides.toInt) := by
  intro context
  rw [DicePool.rollFace, ofInt64_eq_ofInt?, Calculation.checked, Calculation.rollFace,
    Calculation.run]
  cases Sides.ofInt? sides.toInt with
  | none => exact .some ⟨.error (.invalidSides sides), rfl⟩
  | some valid =>
    show Option.Rel _ ((DicePool.countRoll >>= fun _ => takeFace valid) context) _
    rw [countRoll_bind_apply]
    dsimp only
    cases context.full with
    | true => exact .some ⟨.error .tooManyRolls, rfl⟩
    | false =>
      refine .some ⟨?_, rfl⟩
      have seen (face : UInt32) :
          Matches Int64.toInt (.ok (Int64.ofNat face.toNat)) (.ok (face.toNat : Int)) := by
        rw [← toInt_ofNat_toNat face]
        exact .ok _
      exact seen _

/-- An operation between 64-bit values is the one that the checked calculation lets through. -/
theorem compute {operation : Operation} {result : Except RollError Int64}
    (gives : operation.Gives result) :
    Agrees Int64.toInt (settle result : Rolling ρ Int64) (Calculation.compute operation) := by
  intro context
  have same := gives.eq_fit
  rw [Calculation.checked, Calculation.compute, Calculation.run]
  cases known : operation.result? with
  | none =>
    rw [known] at same
    rw [same]
    exact .some ⟨.error .divideByZero, rfl⟩
  | some n =>
    rw [known] at same
    dsimp only at same ⊢
    by_cases fits : Fits n
    · have exact : (Int64.ofInt n).toInt = n := fit_eq_ok_iff.1 (fit_of_fits fits)
      rw [same, fit_of_fits fits, if_pos (decide_eq_true fits)]
      have value : Matches Int64.toInt (.ok (Int64.ofInt n)) (.ok (Int64.ofInt n).toInt) := .ok _
      rw [exact] at value
      exact .some ⟨value, rfl⟩
    · rw [fit_of_not_fits fits] at same
      subst same
      rw [if_neg (by simpa using fits)]
      exact .some ⟨.error (.overflow gives), rfl⟩

/-- An operation on two values agrees with the one on their integers. -/
theorem apply (op : Arithmetic) (left right : Int64) :
    Agrees Int64.toInt (settle (op.apply left right) : Rolling ρ Int64)
      (Calculation.compute (.apply op left.toInt right.toInt)) :=
  compute (.apply op left right)

/-- Negating a value agrees with negating its integer. -/
theorem negate (value : Int64) :
    Agrees Int64.toInt (settle (negate value) : Rolling ρ Int64)
      (Calculation.compute (.negate value.toInt)) :=
  compute (.negate value)

/-- The values added up, step by step. Adding up starts at zero, but goes on from any partial
sum. -/
theorem sum (values : List Int64) :
    Agrees Int64.toInt (settle (sum values) : Rolling ρ Int64)
      (Exact.sum (values.map Int64.toInt)) := by
  have partialSums (values : List Int64) : ∀ total : Int64,
      Agrees Int64.toInt (settle (values.foldlM Arithmetic.add.apply total) : Rolling ρ Int64)
        ((values.map Int64.toInt).foldlM
          (fun total value => Calculation.compute (.apply .add total value)) total.toInt) := by
    induction values with
    | nil => exact fun total => pure rfl
    | cons value values ih =>
      intro total
      have step : (settle ((value :: values).foldlM Arithmetic.add.apply total) : Rolling ρ Int64) =
          settle (Arithmetic.add.apply total value) >>= fun total =>
            settle (values.foldlM Arithmetic.add.apply total) := by
        rw [List.foldlM_cons]
        cases Arithmetic.add.apply total value <;> rfl
      rw [step, List.map_cons, List.foldlM_cons]
      exact (apply .add total value).bind fun total => ih total
  exact partialSums values 0

/-- Every element agrees with what is read of it. -/
theorem mapM {ε : Type} {read : ε → δ} {step : ε → Rolling ρ α} {planStep : δ → Calculation β}
    (each : ∀ element, Agrees view (step element) (planStep (read element))) (elements : List ε) :
    Agrees (List.map view) (elements.mapM step) ((elements.map read).mapM planStep) := by
  induction elements with
  | nil => exact pure rfl
  | cons element elements ih =>
    rw [List.map_cons, List.mapM_cons, List.mapM_cons]
    apply (each element).bind
    intro head
    apply ih.bind
    intro tail
    exact pure rfl

/-- The computation ends exactly as the calculation does. -/
theorem eq_some_iff {code : Rolling ρ α} {plan : Calculation β} (agrees : Agrees view code plan)
    (injective : ∀ left right, view left = view right → left = right) {context after : Context ρ}
    {result : Except RollError α} :
    code context = some (result, after) ↔
      ∃ outcome, plan.checked context = some (outcome, after) ∧ Matches view result outcome := by
  have related := agrees context
  generalize code context = out at related
  generalize plan.checked context = seen at related
  cases related with
  | none => simp
  | @some out seen related =>
    obtain ⟨known, reached⟩ := out
    obtain ⟨outcome, same⟩ := seen
    obtain ⟨matching, rfl⟩ := related
    constructor
    · intro ends
      cases ends
      exact ⟨outcome, rfl, matching⟩
    · rintro ⟨other, ends, second⟩
      cases ends
      have same : known = result := matching.unique injective second
      rw [same]

end Agrees

/-- The slot with integers for its values. -/
def Slot.exact : Slot → Exact.Slot
  | fixed value => .fixed value.toInt
  | face sides => .face sides.toInt
  | negative slot => .negative slot.exact
  | bonus op slot amount => .bonus op slot.exact amount
  | explode cmp cutoff slot => .explode cmp cutoff.toInt slot.exact
  | threshold cmp cutoff slot => .threshold cmp cutoff.toInt slot.exact
  | drawn (.resolved value) slot => .drawn (some value.toInt) slot.exact
  | drawn .spent slot => .drawn none slot.exact

/-- A draw with integers for its values. -/
def exactEntry (entry : Int64 × Slot) : Int × Exact.Slot := (entry.1.toInt, entry.2.exact)

/-- Selecting is the same on the integers. -/
theorem take_map_exactEntry (selection : Selection) (count : Nat) (drawn : List (Int64 × Slot)) :
    Exact.take selection count (drawn.map exactEntry) =
      (selection.take count drawn).map exactEntry := by
  have ordered : (drawn.map exactEntry).mergeSort
        (fun left right => Exact.prefers selection left.1 right.1) =
      (drawn.mergeSort fun left right => selection.prefers left.1 right.1).map exactEntry :=
    (List.map_mergeSort fun left _ right _ =>
      (prefers_toInt selection left.1 right.1).symm).symm
  rw [Exact.take, ordered, Selection.take, List.map_take]

/-- Slots remember the integers that were drawn from them. -/
theorem exact_remember (drawn : List (Int64 × Slot)) :
    (drawn.map remember).map Slot.exact = (drawn.map exactEntry).map Exact.remember := by
  rw [List.map_map, List.map_map]
  rfl

/-- The slots of the hits are the same on the integers. -/
theorem exact_hits (cmp : Comparison) (cutoff : Int64) (drawn : List (Int64 × Slot)) :
    ((drawn.filter fun entry => cmp.holds entry.1 cutoff).map Prod.snd).map Slot.exact =
      ((drawn.map exactEntry).filter fun entry => Exact.hits cmp entry.1 cutoff.toInt).map
        Prod.snd := by
  have same : ((fun entry : Int × Exact.Slot => Exact.hits cmp entry.1 cutoff.toInt) ∘
      exactEntry) = fun entry : Int64 × Slot => cmp.holds entry.1 cutoff :=
    funext fun entry => hits_toInt cmp entry.1 cutoff
  rw [List.filter_map, same, List.map_map, List.map_map]
  rfl

/-- What is evaluated with so much fuel agrees with the calculation with so much fuel. -/
structure AgreesWith (ρ : Type) [Roller ρ] (fuel : Nat) : Prop where
  /-- Generating a die agrees. -/
  generate : ∀ die : Die, Agrees (List.map Slot.exact) (die.generate fuel : Rolling ρ Pool)
    (Exact.generate fuel die)
  /-- Totalling a die agrees. -/
  total : ∀ die : Die, Agrees Int64.toInt (die.total fuel : Rolling ρ Int64)
    (Exact.total fuel die)
  /-- Drawing from a slot agrees. -/
  draw : ∀ slot : Slot, Agrees exactEntry (drawFrom (Slot.force fuel) slot : Rolling ρ _)
    (Exact.draw fuel slot.exact)

namespace AgreesWith

variable [Roller ρ] {fuel : Nat}

/-- Drawing from a whole pool. -/
theorem drawAll (known : AgreesWith ρ fuel) (pool : Pool) :
    Agrees (List.map exactEntry) (DicePool.drawAll (Slot.force fuel) pool : Rolling ρ _)
      ((pool.map Slot.exact).mapM (Exact.draw fuel)) :=
  Agrees.mapM known.draw pool

/-- The loop of an exploding slot. -/
theorem explodeFrom (known : AgreesWith ρ fuel) (cmp : Comparison) (cutoff : Int64)
    (turns : Nat) : ∀ (total last : Int64) (slot : Slot), Agrees exactEntry
      (drawFrom (DicePool.explodeFrom (Slot.force fuel) cmp cutoff turns total last) slot :
        Rolling ρ _)
      (Exact.explodeFrom (Exact.draw fuel) cmp cutoff.toInt turns total.toInt last.toInt
        slot.exact) := by
  induction turns with
  | zero =>
    intro total last slot
    rw [drawFrom_explodeFrom_zero, Exact.explodeFrom]
    exact Agrees.exhausted
  | succ turns ih =>
    intro total last slot
    rw [Exact.explodeFrom, hits_toInt]
    cases holds : cmp.holds last cutoff with
    | false =>
      rw [drawFrom_explodeFrom_miss _ _ _ _ _ _ _ holds]
      exact Agrees.pure rfl
    | true =>
      rw [drawFrom_explodeFrom_hit _ _ _ _ _ _ _ holds, if_pos rfl]
      apply Agrees.countRoll.bind
      intro _
      apply (known.draw slot).bind
      intro drawn
      apply (Agrees.apply .add total drawn.1).bind
      intro total
      exact ih total drawn.1 drawn.2

/-- A generation, with a roll counted for every hit. -/
theorem drawGeneration (known : AgreesWith ρ fuel) (cmp : Comparison) (cutoff : Int64)
    (generation : Pool) :
    Agrees (List.map exactEntry)
      (DicePool.drawGeneration (Slot.force fuel) cmp cutoff generation : Rolling ρ _)
      ((generation.map Slot.exact).mapM
        (Exact.drawCounting (Exact.draw fuel) cmp cutoff.toInt)) := by
  refine Agrees.mapM (fun slot => ?_) generation
  rw [Exact.drawCounting]
  apply (known.draw slot).bind
  intro drawn
  rw [show Exact.hits cmp (exactEntry drawn).1 cutoff.toInt = cmp.holds drawn.1 cutoff from
    hits_toInt cmp drawn.1 cutoff]
  cases cmp.holds drawn.1 cutoff with
  | false => exact Agrees.pure rfl
  | true => exact Agrees.countRoll.bind fun _ => Agrees.pure rfl

/-- The generations of slots that are rolled again. -/
theorem generations (known : AgreesWith ρ fuel) (cmp : Comparison) (cutoff : Int64)
    (turns : Nat) : ∀ generation : Pool, Agrees (List.map Slot.exact)
      (DicePool.generations (Slot.force fuel) cmp cutoff turns generation : Rolling ρ Pool)
      (Exact.generations (Exact.draw fuel) cmp cutoff.toInt turns
        (generation.map Slot.exact)) := by
  induction turns with
  | zero =>
    intro generation
    cases generation with
    | nil => exact Agrees.pure rfl
    | cons slot rest => exact Agrees.exhausted
  | succ turns ih =>
    intro generation
    cases generation with
    | nil => exact Agrees.pure rfl
    | cons slot rest =>
      rw [generations_succ]
      apply (known.drawGeneration cmp cutoff (slot :: rest)).bind
      intro drawn
      have later := ih ((drawn.filter fun entry => cmp.holds entry.1 cutoff).map Prod.snd)
      rw [exact_hits] at later
      apply later.bind
      intro later
      refine Agrees.pure ?_
      rw [List.map_append, exact_remember]

/-- Without fuel all calculations are stuck. -/
theorem zero : AgreesWith ρ 0 where
  generate die := by
    rw [Die.generate, Exact.generate]
    exact Agrees.exhausted
  total die := by
    rw [Die.total, Exact.total]
    exact Agrees.exhausted
  draw slot := by
    rw [drawFrom_zero, Exact.draw]
    exact Agrees.exhausted

/-- One value of two totals. -/
theorem generate_fixed (known : AgreesWith ρ fuel) (op : Arithmetic) (first second : Die) :
    Agrees (List.map Slot.exact)
      (do let left ← first.total fuel
          let right ← second.total fuel
          return [.fixed (← settle (op.apply left right))] : Rolling ρ Pool)
      (do let left ← Exact.total fuel first
          let right ← Exact.total fuel second
          return [.fixed (← Calculation.compute (.apply op left right))]) := by
  apply (known.total first).bind
  intro left
  apply (known.total second).bind
  intro right
  exact (Agrees.apply op left right).map fun value => rfl

/-- A pool whose slots are wrapped. -/
theorem generate_map (known : AgreesWith ρ fuel) (body : Die) {wrap : Slot → Slot}
    {plainly : Exact.Slot → Exact.Slot} (same : ∀ slot, (wrap slot).exact = plainly slot.exact) :
    Agrees (List.map Slot.exact)
      (do let pool ← body.generate fuel
          return pool.map wrap : Rolling ρ Pool)
      (do let pool ← Exact.generate fuel body
          return pool.map plainly) := by
  apply (known.generate body).map
  intro pool
  rw [List.map_map, List.map_map]
  exact List.map_congr_left fun slot _ => same slot

/-- Two pools, the second one wrapped. -/
theorem generate_both (known : AgreesWith ρ fuel) (first second : Die) (wrap : Slot → Slot)
    (plainly : Exact.Slot → Exact.Slot) (same : ∀ slot, (wrap slot).exact = plainly slot.exact) :
    Agrees (List.map Slot.exact)
      (do let front ← first.generate fuel
          let behind ← second.generate fuel
          return front ++ behind.map wrap : Rolling ρ Pool)
      (do let front ← Exact.generate fuel first
          let behind ← Exact.generate fuel second
          return front ++ behind.map plainly) := by
  apply (known.generate first).bind
  intro front
  apply (known.generate second).map
  intro behind
  rw [List.map_append, List.map_map, List.map_map]
  exact congrArg _ (List.map_congr_left fun slot _ => same slot)

/-- The selected slots, which remember what was drawn from them. -/
theorem generate_kept (known : AgreesWith ρ fuel) (body : Die) (selection : Selection)
    (count : Nat) :
    Agrees (List.map Slot.exact)
      (do let pool ← body.generate fuel
          let drawn ← DicePool.drawAll (Slot.force fuel) pool
          return (selection.take count drawn).map remember : Rolling ρ Pool)
      (do let pool ← Exact.generate fuel body
          let drawn ← pool.mapM (Exact.draw fuel)
          return (Exact.take selection count drawn).map Exact.remember) := by
  apply (known.generate body).bind
  intro pool
  apply (known.drawAll pool).map
  intro drawn
  rw [exact_remember, ← take_map_exactEntry]

/-- So many pools of one die. -/
theorem generate_copies (known : AgreesWith ρ fuel) (body : Die) (count : Nat) :
    Agrees (List.map Slot.exact)
      (do reserve count
          let pools ← (List.replicate count body).mapM fun body => body.generate fuel
          return pools.flatten : Rolling ρ Pool)
      (do Calculation.reserve count
          let pools ← (List.replicate count body).mapM fun body => Exact.generate fuel body
          return pools.flatten) := by
  have copies (bodies : List Die) : Agrees (List.map (List.map Slot.exact))
      (bodies.mapM fun body => body.generate fuel : Rolling ρ _)
      ((bodies.map id).mapM fun body => Exact.generate fuel body) :=
    Agrees.mapM known.generate bodies
  simp only [List.map_id] at copies
  apply (Agrees.reserve count).bind
  intro _
  apply (copies _).bind
  intro pools
  exact Agrees.pure List.map_flatten

/-- Each die builds its pool in one of these ways. -/
theorem generate_succ (known : AgreesWith ρ fuel) (die : Die) :
    Agrees (List.map Slot.exact) (die.generate (fuel + 1) : Rolling ρ Pool)
      (Exact.generate (fuel + 1) die) := by
  cases die <;> rw [Die.generate, Exact.generate]
  case constant value => exact Agrees.pure rfl
  case dice count sides =>
    apply (known.total count).bind
    intro count
    apply (known.total sides).bind
    intro sides
    apply (Agrees.reserve _).bind
    intro _
    exact Agrees.pure List.map_replicate
  case add first second =>
    have both := known.generate_both first second id id fun _ => rfl
    simp only [List.map_id] at both
    exact both
  case subtract first second =>
    exact known.generate_both first second .negative .negative fun _ => rfl
  case multiply first second => exact known.generate_fixed .multiply first second
  case divide first second => exact known.generate_fixed .divide first second
  case negative body => exact known.generate_map body fun _ => rfl
  case bonus op body amount => exact known.generate_map body fun _ => rfl
  case explode cmp cutoff body =>
    exact (known.total cutoff).bind fun _ => known.generate_map body fun _ => rfl
  case keep selection count body =>
    exact (known.total count).bind fun _ => known.generate_kept body selection _
  case again cmp cutoff body =>
    apply (known.total cutoff).bind
    intro cutoff
    apply (known.generate body).bind
    intro pool
    exact known.generations cmp cutoff fuel pool
  case threshold cmp cutoff body =>
    exact (known.total cutoff).bind fun _ => known.generate_map body fun _ => rfl
  case repetition body count =>
    exact (known.total count).bind fun _ => known.generate_copies body _

/-- A total draws from the pool and adds up the values. -/
theorem total_succ (known : AgreesWith ρ fuel) (die : Die) :
    Agrees Int64.toInt (die.total (fuel + 1) : Rolling ρ Int64) (Exact.total (fuel + 1) die) := by
  rw [Die.total, Exact.total]
  apply (known.generate die).bind
  intro pool
  apply (known.drawAll pool).bind
  intro drawn
  have sum := Agrees.sum (ρ := ρ) (drawn.map Prod.fst)
  rw [List.map_map] at sum
  rw [List.map_map]
  exact sum

/-- Each slot is drawn from in its own way. -/
theorem draw_succ (known : AgreesWith ρ fuel) (slot : Slot) :
    Agrees exactEntry (drawFrom (Slot.force (fuel + 1)) slot : Rolling ρ _)
      (Exact.draw (fuel + 1) slot.exact) := by
  cases slot with
  | fixed value =>
    rw [drawFrom_fixed, Slot.exact, Exact.draw]
    exact Agrees.pure rfl
  | face sides =>
    rw [drawFrom_face, Slot.exact, Exact.draw]
    exact (Agrees.rollFace sides).map fun value => rfl
  | negative slot =>
    rw [drawFrom_negative, Slot.exact, Exact.draw]
    apply (known.draw slot).bind
    intro drawn
    exact (Agrees.negate drawn.1).map fun value => rfl
  | bonus op slot amount =>
    rw [drawFrom_bonus, Slot.exact, Exact.draw]
    apply (known.draw slot).bind
    intro drawn
    apply (known.total amount).bind
    intro extra
    exact (Agrees.apply op drawn.1 extra).map fun value => rfl
  | explode cmp cutoff slot =>
    rw [drawFrom_explode, Slot.exact, Exact.draw]
    apply (known.draw slot).bind
    intro drawn
    exact (known.explodeFrom cmp cutoff fuel drawn.1 drawn.1 drawn.2).map fun last => rfl
  | threshold cmp cutoff slot =>
    rw [drawFrom_threshold, Slot.exact, Exact.draw]
    apply (known.draw slot).map
    intro drawn
    have same : Exact.hits cmp (exactEntry drawn).1 cutoff.toInt = cmp.holds drawn.1 cutoff :=
      hits_toInt cmp drawn.1 cutoff
    rw [same]
    cases cmp.holds drawn.1 cutoff <;> rfl
  | drawn memo slot =>
    cases memo with
    | resolved value =>
      rw [drawFrom_resolved, Slot.exact, Exact.draw]
      exact Agrees.pure rfl
    | spent =>
      rw [drawFrom_spent, Slot.exact, Exact.draw]
      exact (known.draw slot).map fun drawn => rfl

/-- The values of a die are those of its pool. -/
theorem values (known : AgreesWith ρ fuel) (die : Die) :
    Agrees (List.map Int64.toInt) (die.values fuel : Rolling ρ (List Int64))
      (Exact.values fuel die) := by
  apply (known.generate die).bind
  intro pool
  apply (known.drawAll pool).map
  intro drawn
  rw [List.map_map, List.map_map]
  rfl

end AgreesWith

/-- Generating, totalling and drawing agree with their calculations with any fuel. -/
theorem agreesWith (ρ : Type) [Roller ρ] (fuel : Nat) : AgreesWith ρ fuel := by
  induction fuel with
  | zero => exact AgreesWith.zero
  | succ fuel known => exact ⟨known.generate_succ, known.total_succ, known.draw_succ⟩

end DicePool
