import DicePool.Proofs.Drawing

/-!
# Scripts

Whatever the roller is, an evaluation asks the same of its context: that a roll be
counted, that a number of rolls be affordable, and a face for a roll just counted. A
script is the tree of these requests, which branches on the faces. Every evaluation
follows a script, so what each request keeps, every evaluation keeps.
-/

namespace DicePool

variable {α β : Type}

/-- The requests of a computation, each with what comes after it. -/
inductive Script (α : Type) where
  /-- A result or refusal. -/
  | done (result : Except RollError α)
  /-- The fuel has run out. -/
  | stuck
  /-- A roll is counted. -/
  | count (next : Script α)
  /-- The budget has to cover `rolls` more rolls. -/
  | reserve (rolls : Nat) (next : Script α)
  /-- A roll is counted and a face taken. -/
  | roll (sides : Sides) (next : Int64 → Script α)

namespace Script

/-- The computation that makes the requests of a script. -/
def run {ρ : Type} [Roller ρ] : Script α → Rolling ρ α
  | done result => settle result
  | stuck => exhausted
  | count next => do
    countRoll
    next.run
  | reserve rolls next => do
    DicePool.reserve rolls
    next.run
  | roll sides next => do
    countRoll
    let face ← takeFace sides
    (next face).run

/-- The requests of one script, and then those of the script its result decides. -/
def bind : Script α → (α → Script β) → Script β
  | done (.ok value), next => next value
  | done (.error error), _ => done (.error error)
  | stuck, _ => stuck
  | count rest, next => count (rest.bind next)
  | reserve rolls rest, next => reserve rolls (rest.bind next)
  | roll sides rest, next => roll sides fun face => (rest face).bind next

/-- Two scripts run one after the other. -/
theorem run_bind {ρ : Type} [Roller ρ] (script : Script α) (next : α → Script β) :
    (script.bind next).run = (script.run >>= fun value => (next value).run : Rolling ρ β) := by
  induction script with
  | done result => cases result <;> rfl
  | stuck => rfl
  | count rest ih => rw [bind, run, run, bind_assoc, ih]
  | reserve rolls rest ih => rw [bind, run, run, bind_assoc, ih]
  | roll sides rest ih =>
    rw [bind, run, run, bind_assoc]
    congr 1
    funext _
    rw [bind_assoc]
    congr 1
    funext face
    exact ih face

end Script

/-- Whether a computation follows one script with every roller. -/
def Scripted (computation : (ρ : Type) → [Roller ρ] → Rolling ρ α) : Prop :=
  ∃ script : Script α, ∀ (ρ : Type) [Roller ρ], computation ρ = script.run

namespace Scripted

/-- A result that is known follows a script without requests. -/
theorem settle (result : Except RollError α) : Scripted fun _ _ => settle result :=
  ⟨.done result, fun _ _ => rfl⟩

/-- A value follows a script without requests. -/
theorem pure (value : α) : Scripted fun _ _ => Pure.pure value := settle (.ok value)

/-- Without fuel the script is stuck. -/
theorem exhausted : Scripted (α := α) fun _ _ => exhausted := ⟨.stuck, fun _ _ => rfl⟩

/-- Counting a roll is one request. -/
theorem countRoll : Scripted fun _ _ => countRoll :=
  ⟨.count (.done (.ok ())), fun _ _ => (bind_pure _).symm⟩

/-- Reserving rolls is one request. -/
theorem reserve (rolls : Nat) : Scripted fun _ _ => reserve rolls :=
  ⟨.reserve rolls (.done (.ok ())), fun _ _ => (bind_pure _).symm⟩

/-- Rolling a face is one request, or none if the sides are refused. -/
theorem rollFace (sides : Int64) : Scripted fun _ _ => rollFace sides := by
  cases known : Sides.ofInt64 sides with
  | error error =>
    refine ⟨.done (.error error), fun ρ _ => ?_⟩
    show DicePool.rollFace sides = _
    rw [DicePool.rollFace, known]
    rfl
  | ok sides =>
    refine ⟨.roll sides fun face => .done (.ok face), fun ρ _ => ?_⟩
    show DicePool.rollFace _ = _
    rw [DicePool.rollFace, known]
    show (do DicePool.countRoll; takeFace sides) = _
    exact congrArg _ (funext fun _ => (bind_pure _).symm)

/-- Two steps follow the script of the first and then that of the second. -/
theorem bind {first : (ρ : Type) → [Roller ρ] → Rolling ρ α}
    {next : α → (ρ : Type) → [Roller ρ] → Rolling ρ β} (start : Scripted first)
    (rest : ∀ value, Scripted (next value)) :
    Scripted fun ρ _ => first ρ >>= fun value => next value ρ := by
  obtain ⟨script, same⟩ := start
  have each : ∀ value, ∃ script : Script β,
      ∀ (ρ : Type) [Roller ρ], next value ρ = script.run := rest
  obtain ⟨scripts, follows⟩ := Classical.axiomOfChoice each
  refine ⟨script.bind scripts, fun ρ _ => ?_⟩
  show (first ρ >>= fun value => next value ρ) = _
  rw [Script.run_bind, same]
  congr 1
  funext value
  exact follows value ρ

/-- A list of steps follows their scripts in turn. -/
theorem mapM {step : α → (ρ : Type) → [Roller ρ] → Rolling ρ β}
    (each : ∀ value, Scripted (step value)) (values : List α) :
    Scripted fun ρ _ => values.mapM fun value => step value ρ := by
  induction values with
  | nil => exact pure []
  | cons value values ih =>
    simp only [List.mapM_cons]
    apply (each value).bind
    intro head
    apply ih.bind
    intro tail
    exact pure (head :: tail)

end Scripted

/-- What is evaluated with so much fuel follows scripts. -/
structure FollowsScripts (fuel : Nat) : Prop where
  /-- Generating a die follows a script. -/
  generate : ∀ die : Die, Scripted fun _ _ => die.generate fuel
  /-- Totalling a die follows a script. -/
  total : ∀ die : Die, Scripted fun _ _ => die.total fuel
  /-- Drawing from a slot follows a script. -/
  draw : ∀ slot, Scripted fun _ _ => drawFrom (Slot.force fuel) slot

namespace FollowsScripts

variable {fuel : Nat}

/-- Drawing from a whole pool follows a script. -/
theorem drawAll (known : FollowsScripts fuel) (pool : Pool) :
    Scripted fun _ _ => DicePool.drawAll (Slot.force fuel) pool :=
  Scripted.mapM known.draw pool

/-- The loop of an exploding slot. -/
theorem explodeFrom (known : FollowsScripts fuel) (cmp : Comparison) (cutoff : Int64)
    (turns : Nat) : ∀ total last slot, Scripted fun _ _ =>
      drawFrom (DicePool.explodeFrom (Slot.force fuel) cmp cutoff turns total last) slot := by
  induction turns with
  | zero =>
    intro total last slot
    simp only [drawFrom_explodeFrom_zero]
    exact Scripted.exhausted
  | succ turns ih =>
    intro total last slot
    cases holds : cmp.holds last cutoff with
    | false =>
      simp only [drawFrom_explodeFrom_miss _ _ _ _ _ _ _ holds]
      exact Scripted.pure (total, slot)
    | true =>
      simp only [drawFrom_explodeFrom_hit _ _ _ _ _ _ _ holds]
      apply Scripted.countRoll.bind
      intro _
      apply (known.draw slot).bind
      intro drawn
      apply (Scripted.settle _).bind
      intro total
      exact ih total drawn.1 drawn.2

/-- Drawing a generation follows a script. -/
theorem drawGeneration (known : FollowsScripts fuel) (cmp : Comparison) (cutoff : Int64)
    (generation : Pool) :
    Scripted fun _ _ => DicePool.drawGeneration (Slot.force fuel) cmp cutoff generation := by
  refine Scripted.mapM (fun slot => (known.draw slot).bind fun drawn => ?_) generation
  cases cmp.holds drawn.1 cutoff with
  | false => exact Scripted.pure drawn
  | true => exact Scripted.countRoll.bind fun _ => Scripted.pure drawn

/-- The generations of slots that are rolled again. -/
theorem generations (known : FollowsScripts fuel) (cmp : Comparison) (cutoff : Int64)
    (turns : Nat) : ∀ generation, Scripted fun _ _ =>
      DicePool.generations (Slot.force fuel) cmp cutoff turns generation := by
  induction turns with
  | zero =>
    intro generation
    cases generation with
    | nil =>
      simp only [generations_nil]
      exact Scripted.pure []
    | cons slot rest =>
      simp only [generations_zero]
      exact Scripted.exhausted
  | succ turns ih =>
    intro generation
    cases generation with
    | nil =>
      simp only [generations_nil]
      exact Scripted.pure []
    | cons slot rest =>
      simp only [generations_succ]
      apply (known.drawGeneration cmp cutoff (slot :: rest)).bind
      intro drawn
      apply (ih _).bind
      intro later
      exact Scripted.pure _

/-- Without fuel all scripts are stuck. -/
theorem zero : FollowsScripts 0 where
  generate die := by
    simp only [Die.generate]
    exact Scripted.exhausted
  total die := by
    simp only [Die.total]
    exact Scripted.exhausted
  draw slot := by
    simp only [drawFrom_zero]
    exact Scripted.exhausted

/-- A pool that is built from that of another die. -/
theorem generate_map (known : FollowsScripts fuel) (body : Die) (build : Pool → Pool) :
    Scripted fun _ _ => do
      let pool ← body.generate fuel
      return build pool :=
  (known.generate body).bind fun pool => Scripted.pure (build pool)

/-- A pool that is built from those of two dice. -/
theorem generate_both (known : FollowsScripts fuel) (first second : Die)
    (build : Pool → Pool → Pool) :
    Scripted fun _ _ => do
      let front ← first.generate fuel
      let behind ← second.generate fuel
      return build front behind :=
  (known.generate first).bind fun front => known.generate_map second (build front)

/-- One value of two totals. -/
theorem generate_fixed (known : FollowsScripts fuel) (first second : Die)
    (combine : Int64 → Int64 → Except RollError Int64) :
    Scripted fun _ _ => do
      let one ← first.total fuel
      let other ← second.total fuel
      return [Slot.fixed (← settle (combine one other))] := by
  apply (known.total first).bind
  intro one
  apply (known.total second).bind
  intro other
  apply (Scripted.settle _).bind
  intro value
  exact Scripted.pure [Slot.fixed value]

/-- Each die builds its pool in one of these ways, or makes requests of its own. -/
theorem generate_succ (known : FollowsScripts fuel) (die : Die) :
    Scripted fun _ _ => die.generate (fuel + 1) := by
  cases die <;> simp only [Die.generate]
  case constant value => exact Scripted.pure _
  case dice count sides =>
    apply (known.total count).bind
    intro count
    apply (known.total sides).bind
    intro sides
    apply (Scripted.reserve _).bind
    intro _
    exact Scripted.pure _
  case add first second => exact known.generate_both first second (· ++ ·)
  case subtract first second =>
    exact known.generate_both first second fun front behind => front ++ behind.map .negative
  case multiply first second => exact known.generate_fixed first second _
  case divide first second => exact known.generate_fixed first second _
  case negative body => exact known.generate_map body _
  case bonus op body amount => exact known.generate_map body _
  case explode cmp cutoff body =>
    exact (known.total cutoff).bind fun cutoff => known.generate_map body _
  case keep selection count body =>
    apply (known.total count).bind
    intro count
    apply (known.generate body).bind
    intro pool
    apply (known.drawAll pool).bind
    intro drawn
    exact Scripted.pure _
  case again cmp cutoff body =>
    apply (known.total cutoff).bind
    intro cutoff
    apply (known.generate body).bind
    intro pool
    exact known.generations cmp cutoff fuel pool
  case threshold cmp cutoff body =>
    exact (known.total cutoff).bind fun cutoff => known.generate_map body _
  case repetition body count =>
    apply (known.total count).bind
    intro count
    apply (Scripted.reserve _).bind
    intro _
    apply (Scripted.mapM known.generate _).bind
    intro pools
    exact Scripted.pure _

/-- A total follows the script of its pool and those of the draws. -/
theorem total_succ (known : FollowsScripts fuel) (die : Die) :
    Scripted fun _ _ => die.total (fuel + 1) := by
  simp only [Die.total]
  apply (known.generate die).bind
  intro pool
  apply (known.drawAll pool).bind
  intro drawn
  exact Scripted.settle _

/-- Each slot follows the scripts of what it draws from. -/
theorem draw_succ (known : FollowsScripts fuel) (slot : Slot) :
    Scripted fun _ _ => drawFrom (Slot.force (fuel + 1)) slot := by
  cases slot with
  | fixed value =>
    simp only [drawFrom_fixed]
    exact Scripted.pure _
  | face sides =>
    simp only [drawFrom_face]
    exact (Scripted.rollFace sides).bind fun value => Scripted.pure _
  | negative slot =>
    simp only [drawFrom_negative]
    apply (known.draw slot).bind
    intro drawn
    apply (Scripted.settle _).bind
    intro value
    exact Scripted.pure _
  | bonus op slot amount =>
    simp only [drawFrom_bonus]
    apply (known.draw slot).bind
    intro drawn
    apply (known.total amount).bind
    intro extra
    apply (Scripted.settle _).bind
    intro value
    exact Scripted.pure _
  | explode cmp cutoff slot =>
    simp only [drawFrom_explode]
    apply (known.draw slot).bind
    intro drawn
    apply (known.explodeFrom cmp cutoff fuel drawn.1 drawn.1 drawn.2).bind
    intro last
    exact Scripted.pure _
  | threshold cmp cutoff slot =>
    simp only [drawFrom_threshold]
    exact (known.draw slot).bind fun drawn => Scripted.pure _
  | drawn memo slot =>
    cases memo with
    | resolved value =>
      simp only [drawFrom_resolved]
      exact Scripted.pure _
    | spent =>
      simp only [drawFrom_spent]
      exact (known.draw slot).bind fun drawn => Scripted.pure _

end FollowsScripts

/-- Generating, totalling and drawing follow scripts with any fuel. -/
theorem followsScripts (fuel : Nat) : FollowsScripts fuel := by
  induction fuel with
  | zero => exact FollowsScripts.zero
  | succ fuel known => exact ⟨known.generate_succ, known.total_succ, known.draw_succ⟩

/-- The values of a die follow a script. -/
theorem scripted_values (fuel : Nat) (die : Die) : Scripted fun _ _ => die.values fuel := by
  have known := followsScripts fuel
  apply (known.generate die).bind
  intro pool
  apply (known.drawAll pool).bind
  intro drawn
  exact Scripted.pure _

namespace Context

variable {ρ : Type}

/-- The context after one more roll is counted. -/
def counted (context : Context ρ) : Context ρ := { context with rolls := context.after 1 }

/-- The context after one more roll is counted and its face taken. -/
def rolled [Roller ρ] (sides : Sides) (context : Context ρ) : Context ρ :=
  { context.counted with roller := (Roller.roll context.roller sides).2 }

/-- Whether one more roll is beyond the budget. -/
def full (context : Context ρ) : Bool := context.exceeds (context.after 1)

/-- Without a budget nothing is beyond it. -/
theorem exceeds_of_unbounded {context : Context ρ} (unbounded : context.budget = none)
    (rolls : Nat) : context.exceeds rolls = false := by
  rw [exceeds, unbounded]

/-- Rolls are too many when there is a budget below them. -/
theorem exceeds_eq_true_iff {context : Context ρ} {rolls : Nat} :
    context.exceeds rolls = true ↔ ∃ most, context.budget = some most ∧ most < rolls := by
  unfold exceeds
  cases context.budget <;> simp

/-- Rolls are not too many when no budget is below them. -/
theorem exceeds_eq_false_iff {context : Context ρ} {rolls : Nat} :
    context.exceeds rolls = false ↔ ∀ most, context.budget = some most → rolls ≤ most := by
  unfold exceeds
  cases context.budget <;> simp

end Context

/-- What comes after a counted roll is not reached if the roll is refused. -/
theorem countRoll_bind_apply {ρ : Type} (next : Unit → Rolling ρ α) (context : Context ρ) :
    (countRoll >>= next) context =
      if context.full then some (.error .tooManyRolls, context.counted)
      else next () context.counted := by
  rw [Rolling.bind_apply, countRoll]
  cases full : context.full with
  | false =>
    rw [show context.exceeds (context.after 1) = false from full]
    rfl
  | true =>
    rw [show context.exceeds (context.after 1) = true from full]
    rfl

/-- What comes after a reservation is not reached if the budget does not cover it. -/
theorem reserve_bind_apply {ρ : Type} (rolls : Nat) (next : Unit → Rolling ρ α)
    (context : Context ρ) :
    (reserve rolls >>= next) context =
      if context.exceeds (context.after rolls) then some (.error .tooManyRolls, context)
      else next () context := by
  rw [Rolling.bind_apply, reserve]
  cases context.exceeds (context.after rolls) <;> rfl

/-- A reservation asks nothing of the context, whether it is granted or not. -/
theorem reserve_bind_pure_eq_some_iff {ρ : Type} {rolls : Nat} {value : α}
    {context after : Context ρ} {result : Except RollError α} :
    (do reserve rolls
        return value : Rolling ρ α) context = some (result, after) ↔
      after = context ∧
        result = if context.exceeds (context.after rolls) then .error .tooManyRolls
          else .ok value := by
  rw [reserve_bind_apply]
  split
  · constructor
    · intro ends
      cases ends
      exact ⟨rfl, rfl⟩
    · rintro ⟨rfl, rfl⟩
      rfl
  · constructor
    · intro ends
      cases ends
      exact ⟨rfl, rfl⟩
    · rintro ⟨rfl, rfl⟩
      rfl

namespace Script

variable {ρ : Type} [Roller ρ]

/-- A script that counts a roll stops where the context is full. -/
theorem run_count (next : Script α) (context : Context ρ) :
    (count next).run context =
      if context.full then some (.error .tooManyRolls, context.counted)
      else next.run context.counted := by
  rw [run, countRoll_bind_apply]

/-- A script that reserves rolls stops where the budget does not cover them. -/
theorem run_reserve (rolls : Nat) (next : Script α) (context : Context ρ) :
    (reserve rolls next).run context =
      if context.exceeds (context.after rolls) then some (.error .tooManyRolls, context)
      else next.run context := by
  rw [run, reserve_bind_apply]

/-- A script that rolls goes on with the face that the roller gives. -/
theorem run_roll (sides : Sides) (next : Int64 → Script α) (context : Context ρ) :
    (roll sides next).run context =
      if context.full then some (.error .tooManyRolls, context.counted)
      else (next (Int64.ofNat (Roller.roll context.roller sides).1.toNat)).run
        (context.rolled sides) := by
  rw [run, countRoll_bind_apply]
  rfl

end Script

/-- The roller hands out the faces when it is asked for the sides, and then stands at `last`. -/
def HandsOut {ρ : Type} [Roller ρ] : ρ → List (Sides × UInt32) → ρ → Prop
  | roller, [], last => roller = last
  | roller, (sides, face) :: later, last =>
    (Roller.roll roller sides).1 = face ∧ HandsOut (Roller.roll roller sides).2 later last

/-- The context with another roller. -/
def Context.withRoller {ρ σ : Type} (context : Context ρ) (roller : σ) : Context σ :=
  { context with roller }

namespace Script

/-- The run of a script was handed the faces of the log, and ends in the same way with any other
roller that hands them out. -/
structure DecidedBy {ρ : Type} [Roller ρ] (script : Script α) (context : Context ρ)
    (log : List (Sides × UInt32)) (result : Except RollError α) (after : Context ρ) : Prop where
  /-- The roller hands out the log. -/
  handed : HandsOut context.roller log after.roller
  /-- Any roller that hands it out leads to the same end. -/
  again : ∀ (σ : Type) [Roller σ] (other last : σ), HandsOut other log last →
    script.run (context.withRoller other) = some (result, after.withRoller last)

section

variable {ρ : Type} [Roller ρ] {script : Script α} {context after : Context ρ}
  {result : Except RollError α}

/-- A run that leaves the roller alone is decided by no face. -/
theorem DecidedBy.still (same : context.roller = after.roller)
    (ends : ∀ (σ : Type) [Roller σ] (other : σ),
      script.run (context.withRoller other) = some (result, after.withRoller other)) :
    script.DecidedBy context [] result after := by
  refine ⟨same, ?_⟩
  rintro σ _ other _ rfl
  exact ends σ other

/-- A counted roll is refused without a face, or the faces behind it decide. -/
theorem DecidedBy.of_count {next : Script α}
    (rest : next.run context.counted = some (result, after) →
      ∃ log, next.DecidedBy context.counted log result after)
    (run : (count next).run context = some (result, after)) :
    ∃ log, (count next).DecidedBy context log result after := by
  rw [run_count] at run
  cases full : context.full with
  | true =>
    rw [full] at run
    cases run
    refine ⟨[], .still rfl fun σ _ other => ?_⟩
    rw [run_count, show (context.withRoller other).full = true from full]
    rfl
  | false =>
    rw [full] at run
    obtain ⟨log, handed, again⟩ := rest run
    refine ⟨log, handed, fun σ _ other last others => ?_⟩
    rw [run_count, show (context.withRoller other).full = false from full]
    exact again σ other last others

/-- A reservation is refused without a face, or the faces behind it decide. -/
theorem DecidedBy.of_reserve {rolls : Nat} {next : Script α}
    (rest : next.run context = some (result, after) →
      ∃ log, next.DecidedBy context log result after)
    (run : (reserve rolls next).run context = some (result, after)) :
    ∃ log, (reserve rolls next).DecidedBy context log result after := by
  rw [run_reserve] at run
  cases beyond : context.exceeds (context.after rolls) with
  | true =>
    rw [beyond] at run
    cases run
    refine ⟨[], .still rfl fun σ _ other => ?_⟩
    rw [run_reserve, show (context.withRoller other).exceeds
      ((context.withRoller other).after rolls) = true from beyond]
    rfl
  | false =>
    rw [beyond] at run
    obtain ⟨log, handed, again⟩ := rest run
    refine ⟨log, handed, fun σ _ other last others => ?_⟩
    rw [run_reserve, show (context.withRoller other).exceeds
      ((context.withRoller other).after rolls) = false from beyond]
    exact again σ other last others

/-- A roll is refused without a face, or its face is the first of those that decide. -/
theorem DecidedBy.of_roll {sides : Sides} {next : Int64 → Script α}
    (rest : ∀ face, (next face).run (context.rolled sides) = some (result, after) →
      ∃ log, (next face).DecidedBy (context.rolled sides) log result after)
    (run : (roll sides next).run context = some (result, after)) :
    ∃ log, (roll sides next).DecidedBy context log result after := by
  rw [run_roll] at run
  cases full : context.full with
  | true =>
    rw [full] at run
    cases run
    refine ⟨[], .still rfl fun σ _ other => ?_⟩
    rw [run_roll, show (context.withRoller other).full = true from full]
    rfl
  | false =>
    rw [full] at run
    obtain ⟨log, handed, again⟩ := rest _ run
    refine ⟨(sides, (Roller.roll context.roller sides).1) :: log, ⟨rfl, handed⟩, ?_⟩
    rintro σ _ other last ⟨same, others⟩
    have face : (Roller.roll (context.withRoller other).roller sides).1 =
        (Roller.roll context.roller sides).1 := same
    rw [run_roll, show (context.withRoller other).full = false from full, face]
    exact again σ _ last others

/-- Every run that ends is decided by the faces that it has been handed, one for each roll that
the script makes. -/
theorem decidedBy_of_run (run : script.run context = some (result, after)) :
    ∃ log, script.DecidedBy context log result after := by
  induction script generalizing context with
  | done known =>
    cases run
    exact ⟨[], .still rfl fun _ _ _ => rfl⟩
  | stuck => cases run
  | count next ih => exact DecidedBy.of_count ih run
  | reserve rolls next ih => exact DecidedBy.of_reserve ih run
  | roll sides next ih => exact DecidedBy.of_roll (fun face => ih face) run

end

end Script

end DicePool
