import DicePool.Command.Generator
import DicePool.Proofs.Faceless
import DicePool.Proofs.Splitting
import DicePool.Proofs.WiderBudget

/-!
# A calculator of lists

Without faces and loops nothing is left of a die but lists of numbers: its pool has the values that
the direct reading of the die as operations on lists gives, and is refused where one of these
operations has no result. Evaluation carries out part of them while it builds the pool and leaves
the others in the slots, each to be carried out once. So a pool may be built whose values do not
exist; what it stands for is a list of outcomes still to come.
-/

namespace DicePool

/-- Whether nothing explodes or is rolled again anywhere in the die. -/
def Die.Loopless : Die → Prop
  | constant _ => True
  | explode _ _ _ | again _ _ _ => False
  | dice left right | add left right | subtract left right | multiply left right
  | divide left right => left.Loopless ∧ right.Loopless
  | negative body => body.Loopless
  | bonus _ body amount => body.Loopless ∧ amount.Loopless
  | threshold _ cutoff body => cutoff.Loopless ∧ body.Loopless
  | keep _ count body => count.Loopless ∧ body.Loopless
  | repetition body count => body.Loopless ∧ count.Loopless

namespace Listing

/-- The exact result of an operation, if there is one and it is in the range. -/
def result? (operation : Operation) : Option Int64 := do
  let exact ← operation.result?
  if Fits exact then some (Int64.ofInt exact) else none

/-- The exact result of an operation on two values, if there is one in the range. -/
def operate? (op : Arithmetic) (left right : Int64) : Option Int64 :=
  result? (.apply op left.toInt right.toInt)

/-- The negative of a value, if it is in the range. -/
def negate? (value : Int64) : Option Int64 := result? (.negate value.toInt)

/-- The values added up from the left, every partial sum within the range. -/
def sum? (values : List Int64) : Option Int64 := values.foldlM (operate? .add) 0

end Listing

open Listing (operate? negate? sum?)

/-- The list that a die without faces and loops stands for, if all its operations have results. -/
def Die.listed : Die → Option (List Int64)
  | constant value => some [value]
  | add left right => do
    let front ← left.listed
    let behind ← right.listed
    return front ++ behind
  | subtract left right => do
    let front ← left.listed
    let behind ← right.listed
    let negated ← behind.mapM negate?
    return front ++ negated
  | multiply left right => do
    let left ← left.listed.bind sum?
    let right ← right.listed.bind sum?
    return [← operate? .multiply left right]
  | divide left right => do
    let left ← left.listed.bind sum?
    let right ← right.listed.bind sum?
    return [← operate? .divide left right]
  | negative body => do
    let values ← body.listed
    values.mapM negate?
  | bonus op body amount => do
    let values ← body.listed
    values.mapM fun value => do operate? op value (← amount.listed.bind sum?)
  | threshold cmp cutoff body => do
    let cutoff ← cutoff.listed.bind sum?
    let values ← body.listed
    return values.map fun value => if cmp.holds value cutoff then 1 else 0
  | keep selection count body => do
    let count ← count.listed.bind sum?
    let values ← body.listed
    return selection.best (quantity count) values
  | repetition body count => do
    let count ← count.listed.bind sum?
    let copies ← (List.replicate (quantity count) ()).mapM fun _ => body.listed
    return copies.flatten
  | dice _ _ | explode _ _ _ | again _ _ _ => none

variable {ρ α β : Type}

/-- The budget covers at once as many rolls as any value names. -/
def Context.Ample (context : Context ρ) : Prop :=
  ∀ count : Int64, context.exceeds (context.after (quantity count)) = false

/-- A value is good, and a refusal is no question of the budget and happens only where it must. -/
inductive Meets (Good : α → Prop) (fails : Prop) : Except RollError α → Prop where
  /-- The value is good. -/
  | ok {value : α} (good : Good value) : Meets Good fails (.ok value)
  /-- The refusal has to come, and not from the budget. -/
  | error {error : RollError} (failed : fails) (other : error ≠ .tooManyRolls) :
    Meets Good fails (.error error)

/-- Where the budget is ample, the computation ends and leaves the context as it is, with a good
value or where it must fail. -/
def Comes (Good : α → Prop) (fails : Prop) (code : Rolling ρ α) : Prop :=
  ∀ context : Context ρ, context.Ample →
    ∃ result, code context = some (result, context) ∧ Meets Good fails result

/-- The computation comes to the known value, or fails if there is none. -/
def Computes (code : Rolling ρ α) (known : Option α) : Prop :=
  Comes (fun value => known = some value) (known = none) code

namespace Comes

variable {Good : α → Prop} {Later : β → Prop} {fails failsLater : Prop}

/-- A good value is come to at once. -/
theorem pure {value : α} (good : Good value) :
    Comes Good fails (Pure.pure value : Rolling ρ α) :=
  fun _ _ => ⟨.ok value, rfl, .ok good⟩

/-- A result that is known is come to at once. -/
theorem settle {result : Except RollError α} (meets : Meets Good fails result) :
    Comes Good fails (settle result : Rolling ρ α) :=
  fun _ _ => ⟨result, rfl, meets⟩

/-- A step whose first part comes to a value goes on with the second. -/
theorem bind {code : Rolling ρ α} {next : α → Rolling ρ β} (first : Comes Good fails code)
    (stop : fails → failsLater) (rest : ∀ value, Good value → Comes Later failsLater (next value)) :
    Comes Later failsLater (code >>= next) := by
  intro context ample
  obtain ⟨result, done, meets⟩ := first context ample
  rw [Rolling.bind_apply, done]
  cases meets with
  | ok good => exact rest _ good context ample
  | error failed other => exact ⟨_, rfl, .error (stop failed) other⟩

/-- Nothing that a value names is too much to reserve. -/
theorem reserve (count : Int64) :
    Comes (fun _ => True) False (reserve (quantity count) : Rolling ρ Unit) := by
  intro context ample
  refine ⟨.ok (), ?_, .ok trivial⟩
  rw [DicePool.reserve, ample count]
  rfl

/-- A list of steps comes to a list of values, and fails where one of them does. -/
theorem mapM {step : α → Rolling ρ β} {values : List α}
    (each : ∀ value ∈ values, Comes Later fails (step value)) :
    Comes (fun results => results.length = values.length ∧ ∀ result ∈ results, Later result)
      (values ≠ [] ∧ fails) (values.mapM step) := by
  induction values with
  | nil => exact pure ⟨rfl, by simp⟩
  | cons value values ih =>
    rw [List.mapM_cons]
    have nonempty : value :: values ≠ [] := List.cons_ne_nil _ _
    apply (each value List.mem_cons_self).bind (fun failed => ⟨nonempty, failed⟩)
    intro head good
    apply (ih fun other member => each other (List.mem_cons_of_mem _ member)).bind
      (fun failed => ⟨nonempty, failed.2⟩)
    intro tail others
    exact pure ⟨congrArg (· + 1) others.1, List.forall_mem_cons.2 ⟨good, others.2⟩⟩

end Comes

namespace Computes

/-- A computation of two steps computes the second value from the first. -/
theorem bind {code : Rolling ρ α} {next : α → Rolling ρ β} {known : Option α}
    {further : α → Option β} (first : Computes code known)
    (rest : ∀ value, Computes (next value) (further value)) :
    Computes (code >>= next) (known.bind further) := by
  apply Comes.bind first
  · rintro rfl
    rfl
  · rintro value rfl
    exact rest value

end Computes

/-- An integer is put into the range where it fits. -/
theorem meets_fit (n : Int) : Meets
    (fun value => (if Fits n then some (Int64.ofInt n) else none) = some value)
    ((if Fits n then some (Int64.ofInt n) else none) = none) (fit n) := by
  by_cases fits : Fits n
  · rw [fit_of_fits fits]
    exact .ok (if_pos fits)
  · rw [fit_of_not_fits fits]
    exact .error (if_neg fits) (by simp)

/-- An operation comes to its exact result where that fits. -/
theorem meets_apply (op : Arithmetic) (left right : Int64) : Meets
    (fun value => operate? op left right = some value) (operate? op left right = none)
    (op.apply left right) := by
  rw [apply_eq_fit, operate?, Listing.result?]
  cases (Operation.apply op left.toInt right.toInt).result? with
  | none => exact .error rfl (by simp)
  | some exact => exact meets_fit exact

/-- A negation comes to its exact result where that fits. -/
theorem meets_negate (value : Int64) : Meets
    (fun negated => negate? value = some negated) (negate? value = none) (negate value) :=
  meets_fit _

/-- A sum comes to its exact result where all partial sums fit. -/
theorem meets_sum (values : List Int64) : Meets
    (fun total => sum? values = some total) (sum? values = none) (sum values) := by
  unfold sum? sum
  generalize (0 : Int64) = start
  induction values generalizing start with
  | nil => exact .ok rfl
  | cons value values ih =>
    rw [List.foldlM_cons, List.foldlM_cons]
    have first := meets_apply .add start value
    revert first
    generalize Arithmetic.add.apply start value = result
    rintro (good | ⟨failed, other⟩)
    · rw [good]
      exact ih _
    · rw [failed]
      exact .error rfl other

namespace Stateless

/-- First draws from the pool, one after the other, come to the values listed, or to a refusal if
none are. -/
inductive Pending : List (Draws ρ) → Option (List Int64) → Prop where
  /-- There is nothing to draw. -/
  | nil : Pending [] (some [])
  /-- The first draw comes to the first value. -/
  | cons {draws : Draws ρ} {outcome : Option Int64} {pool : List (Draws ρ)}
    {listed : Option (List Int64)} (first : Computes draws.first outcome)
    (rest : Pending pool listed) :
    Pending (draws :: pool) (do let value ← outcome
                                let values ← listed
                                return value :: values)

namespace Pending

variable {pool others : List (Draws ρ)} {listed more : Option (List Int64)}

/-- A pool of one draw that computes a value. -/
theorem single {draws : Draws ρ} {value : Int64} (computes : Computes draws.first (some value)) :
    Pending [draws] (some [value]) := .cons computes .nil

/-- Values that are drawn already. -/
theorem of_values (record : α → Draws ρ) (read : α → Int64)
    (recorded : ∀ entry, (record entry).first = Pure.pure (read entry)) (entries : List α) :
    Pending (entries.map record) (some (entries.map read)) := by
  induction entries with
  | nil => exact .nil
  | cons entry entries ih =>
    have first : Computes (record entry).first (some (read entry)) := by
      rw [recorded]
      exact Comes.pure rfl
    exact .cons first ih

/-- The values of two pools, one behind the other. -/
theorem append (first : Pending pool listed) (second : Pending others more) :
    Pending (pool ++ others)
      (do let front ← listed
          let behind ← more
          return front ++ behind) := by
  induction first with
  | nil => cases more <;> exact second
  | @cons _ outcome _ listed draws _ ih =>
    have whole := Pending.cons draws ih
    cases outcome <;> cases listed <;> cases more <;> exact whole

/-- A step behind each of the draws. -/
theorem map (pending : Pending pool listed) (change : Draws ρ → Draws ρ)
    (further : Int64 → Option Int64)
    (each : ∀ (draws : Draws ρ) (outcome : Option Int64), Computes draws.first outcome →
      Computes (change draws).first (outcome.bind further)) :
    Pending (pool.map change) (listed.bind (List.mapM further)) := by
  induction pending with
  | nil => exact .nil
  | @cons _ outcome _ listed draws _ ih =>
    have whole := Pending.cons (each _ _ draws) ih
    cases outcome with
    | none => exact whole
    | some value =>
      cases listed with
      | none =>
        cases known : further value <;> simpa [known] using whole
      | some values =>
        simpa [List.mapM_cons] using whole

/-- The values of many pools, one behind the other. -/
theorem flatten {pools : List (List (Draws ρ))} (each : ∀ pool ∈ pools, Pending pool listed) :
    Pending pools.flatten
      (do let copies ← (List.replicate pools.length ()).mapM fun _ => listed
          return copies.flatten) := by
  induction pools with
  | nil => exact .nil
  | cons pool pools ih =>
    obtain ⟨first, others⟩ := List.forall_mem_cons.1 each
    have whole := first.append (ih others)
    rw [List.length_cons, List.replicate_succ, List.mapM_cons]
    revert whole
    generalize (List.replicate pools.length ()).mapM (fun _ => listed) = copies
    cases listed <;> cases copies <;> exact id

/-- Drawing from the whole pool, whatever is kept beside the values. -/
theorem drawEach (pending : Pending pool listed) (record : Draws ρ → Int64 → α)
    (read : α → Int64) (reads : ∀ draws value, read (record draws value) = value) :
    Comes (fun entries => listed = some (entries.map read)) (listed = none)
      (pool.mapM fun draws => do return record draws (← draws.first)) := by
  induction pending with
  | nil => exact Comes.pure rfl
  | @cons draws outcome pool listed first rest ih =>
    rw [List.mapM_cons, bind_assoc]
    apply Comes.bind first
    · rintro rfl
      rfl
    · rintro value rfl
      rw [pure_bind]
      apply ih.bind
      · rintro rfl
        rfl
      · rintro entries rfl
        refine Comes.pure ?_
        rw [List.map_cons, reads]
        rfl

/-- Drawing the values of the whole pool. -/
theorem drawAll (pending : Pending pool listed) : Computes (pool.mapM Draws.first) listed := by
  have values := pending.drawEach (fun _ value => value) id fun _ _ => rfl
  simp only [bind_pure, List.map_id] at values
  exact values

end Pending

/-- The computation builds a pool with the listed values to come, or fails if there are none. -/
def Lists (code : Rolling ρ (List (Draws ρ))) (listed : Option (List Int64)) : Prop :=
  Comes (fun pool => Pending pool listed) (listed = none) code

namespace Lists

variable {code other : Rolling ρ (List (Draws ρ))} {listed more : Option (List Int64)}

/-- A pool that depends on a known result. -/
theorem of_computes {first : Rolling ρ α} {next : α → Rolling ρ (List (Draws ρ))}
    {known : Option α} {further : α → Option (List Int64)} (computes : Computes first known)
    (rest : ∀ value, Lists (next value) (further value)) :
    Lists (first >>= next) (known.bind further) := by
  apply Comes.bind computes
  · rintro rfl
    rfl
  · rintro value rfl
    exact rest value

/-- Both pools, one behind the other. -/
theorem append (first : Lists code listed) (second : Lists other more) :
    Lists (do let front ← code
              let behind ← other
              return front ++ behind)
      (do let front ← listed
          let behind ← more
          return front ++ behind) := by
  apply Comes.bind first
  · rintro rfl
    rfl
  · intro front pending
    apply Comes.bind second
    · rintro rfl
      cases listed <;> rfl
    · intro behind others
      exact Comes.pure (pending.append others)

/-- A step behind each of the draws of the pool. -/
theorem map (lists : Lists code listed) (change : Draws ρ → Draws ρ)
    (further : Int64 → Option Int64)
    (each : ∀ (draws : Draws ρ) (outcome : Option Int64), Computes draws.first outcome →
      Computes (change draws).first (outcome.bind further)) :
    Lists (do let pool ← code
              return pool.map change)
      (do let values ← listed
          values.mapM further) := by
  apply Comes.bind lists
  · rintro rfl
    rfl
  · intro pool pending
    exact Comes.pure (pending.map change further each)

/-- The sum of the values of the pool. -/
theorem totalOf (lists : Lists code listed) : Computes (totalOf code) (listed.bind sum?) := by
  apply Comes.bind lists
  · rintro rfl
    rfl
  · intro pool pending
    apply pending.drawAll.bind
    intro values
    exact Comes.settle (meets_sum values)

/-- The values of the pool that are kept. -/
theorem keep (lists : Lists code listed) (selection : Selection) (count : Nat) :
    Lists (do let pool ← code
              let drawn ← pool.mapM drawOnce
              return (selection.take count drawn).map fun entry => .recorded entry.1 entry.2)
      (do let values ← listed
          return selection.best count values) := by
  apply Comes.bind lists
  · rintro rfl
    rfl
  · intro pool pending
    have drawn := pending.drawEach (fun draws value => (value, draws.later)) Prod.fst
      fun _ _ => rfl
    apply drawn.bind
    · rintro rfl
      rfl
    · rintro entries rfl
      have kept := Pending.of_values (fun entry => Draws.recorded entry.1 entry.2) Prod.fst
        (fun _ => rfl) (selection.take count entries)
      rw [Selection.map_fst_take] at kept
      exact Comes.pure kept

/-- The pools of so many copies. -/
theorem copies (lists : Lists code listed) (count : Nat) :
    Lists (do let pools ← (List.replicate count ()).mapM fun _ => code
              return pools.flatten)
      (do let copies ← (List.replicate count ()).mapM fun _ => listed
          return copies.flatten) := by
  apply (Comes.mapM fun _ _ => lists).bind
  · rintro ⟨some_copy, rfl⟩
    cases count with
    | zero => exact absurd rfl some_copy
    | succ count => rfl
  · rintro pools ⟨length, pending⟩
    have joined := Pending.flatten pending
    rw [length, List.length_replicate] at joined
    exact Comes.pure joined

end Lists

/-- The pool of a die without faces and loops has the listed values to come. -/
theorem lists_generate [Roller ρ] {die : Die} (faceless : die.Faceless) (loopless : die.Loopless) :
    Lists (generate die : Rolling ρ (List (Draws ρ))) die.listed := by
  induction die with
  | constant value =>
    rw [generate]
    exact Comes.pure (.single (Comes.pure rfl))
  | dice count sides => exact faceless.elim
  | explode cmp cutoff body | again cmp cutoff body => exact loopless.elim
  | add left right ihl ihr =>
    rw [generate]
    exact (ihl faceless.1 loopless.1).append (ihr faceless.2 loopless.2)
  | subtract left right ihl ihr =>
    rw [generate]
    have negated := (ihr faceless.2 loopless.2).map Draws.negative negate?
      fun draws outcome computes => computes.bind fun value => Comes.settle (meets_negate value)
    have whole := (ihl faceless.1 loopless.1).append negated
    simp only [bind_assoc, pure_bind] at whole
    exact whole
  | multiply left right ihl ihr | divide left right ihl ihr =>
    rw [generate]
    apply Lists.of_computes (ihl faceless.1 loopless.1).totalOf
    intro left
    apply Lists.of_computes (ihr faceless.2 loopless.2).totalOf
    intro right
    apply Lists.of_computes (Comes.settle (meets_apply _ left right))
    intro value
    exact Comes.pure (.single (Comes.pure rfl))
  | negative body ih =>
    rw [generate]
    apply (ih faceless loopless).map
    intro draws outcome computes
    exact computes.bind fun value => Comes.settle (meets_negate value)
  | bonus op body amount ihBody ihAmount =>
    rw [generate]
    apply (ihBody faceless.1 loopless.1).map
    intro draws outcome computes
    apply computes.bind
    intro value
    apply (ihAmount faceless.2 loopless.2).totalOf.bind
    intro extra
    exact Comes.settle (meets_apply op value extra)
  | threshold cmp cutoff body ihCutoff ihBody =>
    rw [generate]
    apply Lists.of_computes (ihCutoff faceless.1 loopless.1).totalOf
    intro total
    have tested := (ihBody faceless.2 loopless.2).map (Draws.threshold cmp total)
      (fun value => some (if cmp.holds value total then 1 else 0))
      fun draws outcome computes => computes.bind fun value => Comes.pure rfl
    have verdicts (values : List Int64) :
        (values.mapM fun value => some (if cmp.holds value total then (1 : Int64) else 0)) =
          some (values.map fun value => if cmp.holds value total then 1 else 0) := List.mapM_pure
    simp only [verdicts] at tested
    exact tested
  | keep selection count body ihCount ihBody =>
    rw [generate]
    apply Lists.of_computes (ihCount faceless.1 loopless.1).totalOf
    intro total
    exact (ihBody faceless.2 loopless.2).keep selection (quantity total)
  | repetition body count ihBody ihCount =>
    rw [generate]
    apply Lists.of_computes (ihCount faceless.2 loopless.2).totalOf
    intro total
    apply (Comes.reserve total).bind False.elim
    intro _ _
    exact (ihBody faceless.1 loopless.1).copies (quantity total)

end Stateless

/-- No value asks for as many rolls as the counter can hold. -/
theorem quantity_lt_rollLimit (count : Int64) : quantity count < rollLimit - 1 := by
  have high := count.toInt_lt
  have limit : rollLimit = 18446744073709551615 := rfl
  unfold quantity
  omega

/-- Right below the limit of the counter a budget is ample. -/
theorem Context.ample_of_limit {context : Context ρ} (fresh : context.rolls = 0)
    (bounded : context.budget = some (rollLimit - 1)) : context.Ample := by
  intro count
  apply Context.exceeds_eq_false_iff.2
  intro most same
  rw [bounded] at same
  cases same
  have small := quantity_lt_rollLimit count
  unfold Context.after
  omega

/-- Without a budget an evaluation comes to what its counterpart without memos comes to, with no
roll counted, as an ample budget would bring it there. -/
theorem Evaluation.ends_of_computes [Roller ρ] (evaluation : Evaluation ρ α β)
    {stateless : Rolling ρ α} {known : Option α} (computes : Computes stateless known)
    (simulates : ∀ fuel, Simulates id (fun _ => True) (evaluation.code fuel) stateless)
    {start : Context ρ} (fresh : start.rolls = 0) (unbounded : start.budget = none) {size : Nat}
    (bounded : ∀ most, most < rollLimit → ∃ result after,
      evaluation.code (fuelFor (some most) size) (start.under (some most)) =
        some (result, after) ∧ after.budget = some most) :
    ∃ result, evaluation.code (fuelFor none size) start = some (result, start) ∧
      ∀ value, result = .ok value ↔ known = some value := by
  have room : rollLimit - 1 < rollLimit := by decide
  obtain ⟨result, after, ends, -⟩ := bounded (rollLimit - 1) room
  have plain := (simulates _ _ _ _ ends).1
  rw [Except.map_id] at plain
  obtain ⟨found, done, meets⟩ :=
    computes (start.under (some (rollLimit - 1))) (Context.ample_of_limit fresh rfl)
  have same : some (result, after) = some (found, start.under (some (rollLimit - 1))) :=
    plain.symm.trans done
  cases same
  have answered : result ≠ .error .tooManyRolls := by
    cases meets with
    | ok good => simp
    | error failed other => simpa using other
  have free := ((evaluation.onlyCutOff_fuelFor start size bounded).kept (Nat.le_of_lt room) ends
    answered).1
  have self : start.under none = start := Context.under_of_budget_eq unbounded
  have back : (start.under (some (rollLimit - 1))).under none = start := self
  rw [self, back] at free
  refine ⟨result, free, fun value => ?_⟩
  cases meets with
  | ok good => rw [good, Except.ok.injEq, Option.some.injEq]
  | error failed other =>
    rw [failed]
    exact ⟨fun same => (by cases same), fun same => (by cases same)⟩

/-- A die without faces takes none and does the same with every roller. Without loops as well it
counts no roll and has the values that it lists, or is refused where it lists none. -/
theorem faceless_dice_calculate_lists (die : Die) (faceless : die.Faceless) :
    ((TakesNoFace fun _ _ => die.RollsTo) ∧ (TakesNoFace fun _ _ => die.PoolsTo) ∧
      (TakesNoFace fun _ _ context result after => die.roll context = some (result, after)) ∧
      TakesNoFace fun _ _ context result after => die.pool context = some (result, after)) ∧
    (die.Loopless → ∀ (ρ : Type) [Roller ρ] (context : Context ρ), context.budget = none →
      (∃ result, die.pool context = some (result, { context with rolls := 0 }) ∧
        ∀ values, result = .ok values ↔ die.listed = some values) ∧
      ∃ result, die.roll context = some (result, { context with rolls := 0 }) ∧
        ∀ total, result = .ok total ↔ die.listed.bind sum? = some total) := by
  refine ⟨Die.takesNoFace faceless, fun loopless ρ _ context unbounded => ?_⟩
  have lists := Stateless.lists_generate (ρ := ρ) faceless loopless
  have values : Computes _ die.listed := Comes.bind lists id fun pool pending => pending.drawAll
  have fuel : fuelFor context.budget die.size = fuelFor none die.size := by rw [unbounded]
  let start : Context ρ := { context with rolls := 0 }
  have fresh : start.rolls = 0 := rfl
  have free : start.budget = none := unbounded
  rw [Die.pool_apply, Die.roll_apply, fuel]
  constructor
  · apply (die.pooling ρ).ends_of_computes values (fun fuel => (refines ρ fuel).values die)
      fresh free
    intro most room
    exact die.pool_ends room (show (context.under (some most)).budget = some most from rfl)
  · apply (die.totalling ρ).ends_of_computes lists.totalOf (fun fuel => (refines ρ fuel).total die)
      fresh free
    intro most room
    exact die.roll_ends room (show (context.under (some most)).budget = some most from rfl)

/-- Copies of a kept value have the values that they list; a quotient by zero lists none and is
refused; a value rolled again without end is refused under a budget. -/
theorem faceless_dice_calculate_lists_kept :
    let cycle : FaceCycle := ⟨[6, 2], by decide, 0⟩
    let free := Context.start none cycle
    let bounded := Context.start (some 2) cycle
    let other := Context.start (some 2) (Generator.mk 7)
    let values := Die.subtract (.add (.constant 7) (.constant 3)) (.constant (-5))
    let kept := Die.bonus .subtract (.keep .highest (.constant 2) values) (.constant 1)
    let endless := Die.again .above (.constant 5) (.constant 5)
    (Die.repetition kept (.constant 2)).pool free = some (.ok [6, 4, 6, 4], free) ∧
    (∃ result, (Die.divide kept (.constant 0)).roll free = some (result, free) ∧
      ∀ total, result ≠ .ok total) ∧
    ∃ after, endless.roll bounded = some (.error .tooManyRolls, after) ∧ after.rolls = 3 ∧
      after.roller = cycle ∧
      endless.roll other = some (.error .tooManyRolls, after.withRoller (Generator.mk 7)) := by
  intro cycle free bounded other values kept endless
  have twice : (Die.repetition kept (.constant 2)).listed = some [6, 4, 6, 4] := by cbv
  have nothing : (Die.divide kept (.constant 0)).listed.bind sum? = none := by cbv
  have refused : (Die.again .above (.constant 5) (.constant 5)).roll bounded =
      some (.error .tooManyRolls, ⟨some 2, 3, cycle⟩) := by cbv
  have copies := faceless_dice_calculate_lists (.repetition kept (.constant 2))
    (by simp [Die.Faceless, kept, values])
  have quotient := faceless_dice_calculate_lists (.divide kept (.constant 0))
    (by simp [Die.Faceless, kept, values])
  have again := faceless_dice_calculate_lists endless (by simp [Die.Faceless, endless])
  obtain ⟨⟨pooled, ends, exact⟩, -⟩ :=
    copies.2 (by simp [Die.Loopless, kept, values]) FaceCycle free rfl
  obtain ⟨-, rolled, stops, none⟩ :=
    quotient.2 (by simp [Die.Loopless, kept, values]) FaceCycle free rfl
  obtain ⟨same, alike⟩ := again.1.2.2.1 FaceCycle Generator bounded _ other _ rfl refused
  obtain rfl := (exact _).2 twice
  refine ⟨ends, ⟨rolled, stops, fun total answered => ?_⟩, _, refused, rfl, same, alike⟩
  rw [(none total).1 answered] at nothing
  cases nothing

end DicePool
