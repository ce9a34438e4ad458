import DicePool.Proofs.Script
import DicePool.Proofs.Termination

/-!
# Faces within the budget

No evaluation takes more faces than its budget has rolls. The faces are counted by a
meter on the roller, which changes nothing else. Every request keeps the meter at or
below the counter of rolls and at or below the budget, whatever calls have been made
before and however they ended.
-/

namespace DicePool

variable {ρ α : Type}

/-- A roller that counts the faces taken from it. -/
structure Metered (ρ : Type) where
  /-- The roller that is metered. -/
  roller : ρ
  /-- The faces taken since the meter was set back. -/
  taken : Nat

/-- The face is that of the roller, and one more is counted as taken. -/
instance [Roller ρ] : Roller (Metered ρ) where
  roll metered sides :=
    let (face, roller) := Roller.roll metered.roller sides
    (face, ⟨roller, metered.taken + 1⟩)

/-- A meter shows how many faces it has seen, and hands them out as they come. -/
theorem HandsOut.metered [Roller ρ] {roller last : ρ} {log : List (Sides × UInt32)}
    (handed : HandsOut roller log last) (taken : Nat) :
    HandsOut (Metered.mk roller taken) log ⟨last, taken + log.length⟩ := by
  induction log generalizing roller taken with
  | nil =>
    cases handed
    rfl
  | cons entry log ih =>
    obtain ⟨face, later⟩ := handed
    have rest := ih later (taken + 1)
    rw [Nat.add_right_comm] at rest
    exact ⟨face, rest⟩

namespace Context

/-- The context with a meter at its roller that shows `taken`. -/
def metered (taken : Nat) (context : Context ρ) : Context (Metered ρ) :=
  { context with roller := ⟨context.roller, taken⟩ }

/-- The context without the meter. -/
def plain (context : Context (Metered ρ)) : Context ρ :=
  { context with roller := context.roller.roller }

/-- Taking the meter off a context and putting it back restores the context. -/
theorem metered_plain (context : Context (Metered ρ)) :
    context.plain.metered context.roller.taken = context := rfl

/-- A context is full when one more roll would exceed its budget. -/
theorem full_eq_true_iff {context : Context ρ} {most : Nat} (bounded : context.budget = some most) :
    context.full = true ↔ most < context.counted.rolls := by
  unfold full exceeds counted
  rw [bounded]
  exact decide_eq_true_iff

/-- Counting a roll stops at the largest counter. -/
theorem counted_rolls (context : Context ρ) :
    context.counted.rolls = min (context.rolls + 1) rollLimit := rfl

/-- A roll that is not refused is within the budget. -/
theorem counted_le_of_free {context : Context ρ} {most : Nat}
    (bounded : context.budget = some most) (free : context.full = false) :
    context.counted.rolls ≤ most := by
  apply Nat.le_of_not_lt
  rw [← full_eq_true_iff bounded, free]
  decide

/-- Beyond the budget every roll is refused. -/
theorem full_of_lt {context : Context ρ} {most : Nat} (bounded : context.budget = some most)
    (room : most < rollLimit) (beyond : most < context.rolls) : context.full = true := by
  have counter := context.counted_rolls
  rw [full_eq_true_iff bounded]
  omega

end Context

/-- A roll that leaves the counter beyond the budget takes no face. -/
theorem roller_of_rollFace [Roller ρ] {most : Nat} (sides : Int64) {context : Context ρ}
    (bounded : context.budget = some most) :
    ∃ result after, rollFace sides context = some (result, after) ∧
      (most < after.rolls → after.roller = context.roller) := by
  cases known : Sides.ofInt64 sides with
  | error error =>
    refine ⟨.error error, context, ?_, fun _ => rfl⟩
    rw [rollFace, known]
    rfl
  | ok valid =>
    have rolled : rollFace sides context = (countRoll >>= fun _ => takeFace valid) context := by
      rw [rollFace, known]
      rfl
    rw [rolled, countRoll_bind_apply]
    cases full : context.full with
    | true => exact ⟨_, _, rfl, fun _ => rfl⟩
    | false =>
      have within := Context.counted_le_of_free bounded full
      refine ⟨_, _, rfl, fun beyond => ?_⟩
      exact absurd within (Nat.not_le_of_lt beyond)

namespace Script

section

variable [Roller ρ]

/-- What every request keeps holds when the script ends, and so does what a request that is
refused leads to. -/
theorem run_keeps (Before : Context ρ → Prop) (After : Except RollError α → Context ρ → Prop)
    (ended : ∀ result context, Before context → After result context)
    (refused : ∀ context, Before context → context.full = true →
      After (.error .tooManyRolls) context.counted)
    (counts : ∀ context, Before context → context.full = false → Before context.counted)
    (rolls : ∀ context sides, Before context → context.full = false →
      Before (context.rolled sides))
    {script : Script α} {context after : Context ρ} {result : Except RollError α}
    (before : Before context) (run : script.run context = some (result, after)) :
    After result after := by
  induction script generalizing context with
  | done known =>
    cases run
    exact ended _ _ before
  | stuck => cases run
  | count next ih =>
    rw [run_count] at run
    cases full : context.full with
    | true =>
      rw [full] at run
      cases run
      exact refused context before full
    | false =>
      rw [full] at run
      exact ih (counts context before full) run
  | reserve amount next ih =>
    rw [run_reserve] at run
    split at run
    · cases run
      exact ended _ _ before
    · exact ih before run
  | roll sides next ih =>
    rw [run_roll] at run
    cases full : context.full with
    | true =>
      rw [full] at run
      cases run
      exact refused context before full
    | false =>
      rw [full] at run
      exact ih _ (rolls context sides before full) run

/-- A run can be repeated with a meter, which shows something in the end. -/
theorem run_metered {script : Script α} {context after : Context ρ} {result : Except RollError α}
    (run : script.run context = some (result, after)) (taken : Nat) :
    ∃ shown, script.run (context.metered taken) = some (result, after.metered shown) := by
  obtain ⟨log, decided⟩ := decidedBy_of_run run
  have metered := decided.handed.metered taken
  exact ⟨taken + log.length, decided.again _ _ _ metered⟩

end

end Script

namespace Context

/-- The meter shows no more than the counter of rolls, and no more than the budget. -/
structure Covered (most : Nat) (context : Context (Metered ρ)) : Prop where
  /-- The budget is known. -/
  budget : context.budget = some most
  /-- Every face taken has been counted. -/
  taken_le_rolls : context.roller.taken ≤ context.rolls
  /-- No face is taken beyond the budget. -/
  taken_le_most : context.roller.taken ≤ most

section

variable {most : Nat} {context : Context (Metered ρ)}

/-- A roll that is counted takes no face, so the faces stay covered. -/
theorem Covered.counted (covered : context.Covered most) (room : most < rollLimit) :
    context.counted.Covered most := by
  have rolls := covered.taken_le_rolls
  have faces := covered.taken_le_most
  refine ⟨covered.budget, ?_, faces⟩
  rw [counted_rolls]
  show context.roller.taken ≤ _
  omega

/-- One more roll is within the budget, and then so is its face. -/
theorem Covered.rolled [Roller ρ] (covered : context.Covered most) (room : most < rollLimit)
    (free : context.full = false) (sides : Sides) : (context.rolled sides).Covered most := by
  have rolls := covered.taken_le_rolls
  have within := counted_le_of_free covered.budget free
  have counter := context.counted_rolls
  refine ⟨covered.budget, ?_, ?_⟩
  · show context.roller.taken + 1 ≤ context.counted.rolls
    omega
  · show context.roller.taken + 1 ≤ most
    omega

end

end Context

/-- How an evaluation ends that took `taken` faces and left the counter at `rolls`. -/
structure WithinBudget (most : Nat) (result : Except RollError α) (rolls taken : Nat) :
    Prop where
  /-- Every face taken has been counted. -/
  taken_le_rolls : taken ≤ rolls
  /-- No face is taken beyond the budget. -/
  taken_le_most : taken ≤ most
  /-- Only a refusal for too many rolls leaves the counter beyond the budget. -/
  rolls_le_most : result ≠ .error .tooManyRolls → rolls ≤ most
  /-- The counter is never left more than one roll beyond the budget. -/
  rolls_le_succ : rolls ≤ most + 1

namespace Script

variable [Roller ρ] {most : Nat} {script : Script α} {context after : Context (Metered ρ)}
  {result : Except RollError α}

/-- An evaluation that starts within the budget ends so. -/
theorem withinBudget_of_run (room : most < rollLimit) (covered : context.Covered most)
    (started : context.rolls ≤ most) (run : script.run context = some (result, after)) :
    WithinBudget most result after.rolls after.roller.taken := by
  refine run_keeps (fun context => context.Covered most ∧ context.rolls ≤ most)
    (fun result context => WithinBudget most result context.rolls context.roller.taken)
    ?_ ?_ ?_ ?_ ⟨covered, started⟩ run
  · rintro result context ⟨covered, started⟩
    exact ⟨covered.taken_le_rolls, covered.taken_le_most, fun _ => started, by omega⟩
  · rintro context ⟨covered, started⟩ -
    have counted := covered.counted room
    have counter := context.counted_rolls
    exact ⟨counted.taken_le_rolls, counted.taken_le_most, fun other => absurd rfl other, by omega⟩
  · rintro context ⟨covered, -⟩ free
    exact ⟨covered.counted room, Context.counted_le_of_free covered.budget free⟩
  · rintro context sides ⟨covered, -⟩ free
    exact ⟨covered.rolled room free sides, Context.counted_le_of_free covered.budget free⟩

/-- Whatever the counter shows, the meter stays within it and within the budget. -/
theorem covered_of_run (room : most < rollLimit) (covered : context.Covered most)
    (run : script.run context = some (result, after)) : after.Covered most :=
  run_keeps (Context.Covered most) (fun _ => Context.Covered most)
    (fun _ _ covered => covered) (fun _ covered _ => covered.counted room)
    (fun _ covered _ => covered.counted room)
    (fun _ sides covered free => covered.rolled room free sides) covered run

/-- Beyond the budget no face is taken. -/
theorem roller_of_run {ρ : Type} [Roller ρ] {context after : Context ρ} (room : most < rollLimit)
    (bounded : context.budget = some most) (beyond : most < context.rolls)
    (run : script.run context = some (result, after)) :
    after.budget = some most ∧ most < after.rolls ∧ after.roller = context.roller := by
  refine run_keeps
    (fun reached =>
      reached.budget = some most ∧ most < reached.rolls ∧ reached.roller = context.roller)
    (fun _ reached =>
      reached.budget = some most ∧ most < reached.rolls ∧ reached.roller = context.roller)
    (fun _ _ kept => kept) ?_ ?_ ?_ ⟨bounded, beyond, rfl⟩ run
  · rintro reached ⟨bounded, beyond, same⟩ full
    exact ⟨bounded, (Context.full_eq_true_iff bounded).1 full, same⟩
  · rintro reached ⟨bounded, beyond, -⟩ free
    rw [Context.full_of_lt bounded room beyond] at free
    cases free
  · rintro reached sides ⟨bounded, beyond, -⟩ free
    rw [Context.full_of_lt bounded room beyond] at free
    cases free

end Script

/-- What a context can be asked for. -/
inductive Call where
  /-- The total of a die. -/
  | roll (die : Die)
  /-- The values of a die. -/
  | pool (die : Die)
  /-- The slots of a die, on top of the rolls counted so far. -/
  | generate (die : Die)
  /-- A draw from a slot, on top of the rolls counted so far. -/
  | force (slot : Slot)

namespace Call

/-- Whether a call is an evaluation of its own, which sets the counter back first. -/
def resets : Call → Bool
  | roll _ | pool _ => true
  | generate _ | force _ => false

/-- The context after a call, refused or not. -/
def run [Roller ρ] : Call → Context ρ → Option (Context ρ)
  | roll die, context => Prod.snd <$> die.roll context
  | pool die, context => Prod.snd <$> die.pool context
  | generate die, context => Prod.snd <$> die.slots context
  | force slot, context => Prod.snd <$> slot.draw context

/-- The context after calls made one after the other. -/
def runAll [Roller ρ] (calls : List Call) (context : Context ρ) : Option (Context ρ) :=
  calls.foldlM (fun context call => call.run context) context

/-- The context after a call, with a meter that is set back whenever the counter is. -/
def meter [Roller ρ] (call : Call) (context : Context (Metered ρ)) :
    Option (Context (Metered ρ)) :=
  call.run (if call.resets then context.plain.metered 0 else context)

/-- The context after calls made one after the other, with a meter that shows the faces taken
since the counter was set back. -/
def meterAll [Roller ρ] (calls : List Call) (context : Context (Metered ρ)) :
    Option (Context (Metered ρ)) :=
  calls.foldlM (fun context call => call.meter context) context

/-- The context in which a call begins to work. -/
def enter (call : Call) (context : Context ρ) : Context ρ :=
  if call.resets then { context with rolls := 0 } else context

end Call

/-- What follows a script keeps the budget. -/
theorem Scripted.budget_of_run [Roller ρ] {computation : (ρ : Type) → [Roller ρ] → Rolling ρ α}
    (scripted : Scripted computation) {context after : Context ρ} {result : Except RollError α}
    (run : computation ρ context = some (result, after)) : after.budget = context.budget := by
  obtain ⟨script, same⟩ := scripted
  rw [same] at run
  exact Script.run_keeps (fun reached => reached.budget = context.budget)
    (fun _ reached => reached.budget = context.budget) (fun _ _ kept => kept)
    (fun _ kept _ => kept) (fun _ kept _ => kept) (fun _ _ kept _ => kept) rfl run

/-- What a computation does to the context is what a script without a result does. -/
theorem Scripted.effect {computation : (ρ : Type) → [Roller ρ] → Rolling ρ α}
    (scripted : Scripted computation) : ∃ script : Script Unit, ∀ (ρ : Type) [Roller ρ]
      (context : Context ρ),
      Prod.snd <$> computation ρ context = Prod.snd <$> script.run context := by
  obtain ⟨script, same⟩ := scripted
  refine ⟨script.bind fun _ => .done (.ok ()), fun ρ _ context => ?_⟩
  rw [Script.run_bind, Rolling.bind_apply, same]
  cases script.run context with
  | none => rfl
  | some out => obtain ⟨error | value, context⟩ := out <;> rfl

namespace Call

/-- A call makes the requests of a script, which the budget decides. -/
theorem follows_script (call : Call) (budget : Option Nat) : ∃ script : Script Unit,
    ∀ (ρ : Type) [Roller ρ] (context : Context ρ), context.budget = budget →
      call.run context = Prod.snd <$> script.run (call.enter context) := by
  cases call with
  | roll die =>
    obtain ⟨script, same⟩ := ((followsScripts (fuelFor budget die.size)).total die).effect
    refine ⟨script, ?_⟩
    rintro ρ _ context rfl
    rw [run, Die.roll_apply, enter]
    exact same ρ { context with rolls := 0 }
  | pool die =>
    obtain ⟨script, same⟩ := (scripted_values (fuelFor budget die.size) die).effect
    refine ⟨script, ?_⟩
    rintro ρ _ context rfl
    rw [run, Die.pool_apply, enter]
    exact same ρ { context with rolls := 0 }
  | generate die =>
    obtain ⟨script, same⟩ := ((followsScripts (fuelFor budget die.size)).generate die).effect
    refine ⟨script, ?_⟩
    rintro ρ _ context rfl
    rw [run, Die.slots_apply, enter]
    exact same ρ context
  | force slot =>
    obtain ⟨script, same⟩ := ((followsScripts (fuelFor budget slot.size)).draw slot).effect
    refine ⟨script, ?_⟩
    rintro ρ _ context rfl
    rw [run, Slot.draw_apply, enter]
    show _ = Prod.snd <$> script.run context
    rw [← same, drawFrom_apply]
    cases slot.force (fuelFor context.budget slot.size) context <;> rfl

/-- A metered call starts its script with the meter set back if the counter is. -/
theorem meter_eq {call : Call} {script : Script Unit} {budget : Option Nat}
    (same : ∀ (ρ : Type) [Roller ρ] (context : Context ρ), context.budget = budget →
      call.run context = Prod.snd <$> script.run (call.enter context))
    [Roller ρ] {context : Context ρ} (bounded : context.budget = budget) (taken : Nat) :
    call.meter (context.metered taken) = Prod.snd <$>
      script.run ((call.enter context).metered (if call.resets then 0 else taken)) := by
  unfold meter enter
  cases resets : call.resets with
  | false =>
    have metered := same (Metered ρ) (context.metered taken) bounded
    rw [enter, resets] at metered
    exact metered
  | true =>
    have metered := same (Metered ρ) (context.metered 0) bounded
    rw [enter, resets] at metered
    exact metered

section

variable [Roller ρ] {most : Nat}

/-- Every call under a budget ends. -/
theorem run_ends (room : most < rollLimit) (call : Call) {context : Context ρ}
    (bounded : context.budget = some most) :
    ∃ after, call.run context = some after ∧ after.budget = some most := by
  cases call with
  | roll die =>
    obtain ⟨result, after, run, still⟩ := die.roll_ends room bounded
    exact ⟨after, congrArg (Prod.snd <$> ·) run, still⟩
  | pool die =>
    obtain ⟨result, after, run, still⟩ := die.pool_ends room bounded
    exact ⟨after, congrArg (Prod.snd <$> ·) run, still⟩
  | generate die =>
    obtain ⟨result, after, run, still⟩ := die.slots_ends room bounded
    exact ⟨after, congrArg (Prod.snd <$> ·) run, still⟩
  | force slot =>
    obtain ⟨forced, after, run, still⟩ := slot.draw_ends room bounded
    exact ⟨after, congrArg (Prod.snd <$> ·) run, still⟩

/-- A call can be repeated with a meter. -/
theorem meter_of_run {call : Call} {context after : Context ρ}
    (run : call.run context = some after) (taken : Nat) :
    ∃ shown, call.meter (context.metered taken) = some (after.metered shown) := by
  obtain ⟨script, same⟩ := call.follows_script context.budget
  rw [same ρ context rfl] at run
  obtain ⟨⟨result, reached⟩, done, rfl⟩ := Option.map_eq_some_iff.1 run
  obtain ⟨shown, metered⟩ := Script.run_metered done (if call.resets then 0 else taken)
  refine ⟨shown, ?_⟩
  rw [meter_eq same rfl, metered]
  rfl

/-- Every call keeps the meter within the counter and the budget. -/
theorem covered_of_meter (room : most < rollLimit) {call : Call}
    {context after : Context (Metered ρ)} (covered : context.Covered most)
    (done : call.meter context = some after) : after.Covered most := by
  obtain ⟨script, same⟩ := call.follows_script (some most)
  rw [← context.metered_plain,
    meter_eq same (show context.plain.budget = some most from covered.budget)] at done
  obtain ⟨⟨result, reached⟩, run, rfl⟩ := Option.map_eq_some_iff.1 done
  refine Script.covered_of_run room ?_ run
  unfold enter
  cases call.resets with
  | false => exact covered
  | true => exact ⟨covered.budget, Nat.le_refl 0, Nat.zero_le most⟩

/-- Beyond the budget a call that does not set the counter back takes no face. -/
theorem roller_of_run (room : most < rollLimit) {call : Call} {context after : Context ρ}
    (continues : call.resets = false) (bounded : context.budget = some most)
    (beyond : most < context.rolls) (run : call.run context = some after) :
    after.budget = some most ∧ most < after.rolls ∧ after.roller = context.roller := by
  obtain ⟨script, same⟩ := call.follows_script (some most)
  rw [same ρ context bounded, enter, continues] at run
  obtain ⟨⟨result, reached⟩, done, rfl⟩ := Option.map_eq_some_iff.1 run
  exact Script.roller_of_run room bounded beyond done

/-- Without calls the context stays as it is. -/
theorem runAll_nil (context : Context ρ) : runAll [] context = some context := rfl

/-- Without metered calls the context stays as it is. -/
theorem meterAll_nil (context : Context (Metered ρ)) : meterAll [] context = some context := rfl

/-- The first call leaves the context in which the others are made. -/
theorem runAll_cons (call : Call) (calls : List Call) (context : Context ρ) :
    runAll (call :: calls) context = (call.run context).bind (runAll calls) := rfl

/-- The first metered call leaves the context in which the others are made. -/
theorem meterAll_cons (call : Call) (calls : List Call) (context : Context (Metered ρ)) :
    meterAll (call :: calls) context = (call.meter context).bind (meterAll calls) := rfl

/-- Under a budget every sequence of calls ends. -/
theorem runAll_ends (room : most < rollLimit) (calls : List Call) {context : Context ρ}
    (bounded : context.budget = some most) : ∃ after, runAll calls context = some after := by
  induction calls generalizing context with
  | nil => exact ⟨context, runAll_nil context⟩
  | cons call calls ih =>
    obtain ⟨reached, first, still⟩ := run_ends room call bounded
    obtain ⟨after, rest⟩ := ih still
    refine ⟨after, ?_⟩
    rw [runAll_cons, first]
    exact rest

/-- What calls do in a context, metered calls do in the metered one. -/
theorem meterAll_of_runAll {calls : List Call} {context after : Context ρ}
    (run : runAll calls context = some after) (taken : Nat) :
    ∃ shown, meterAll calls (context.metered taken) = some (after.metered shown) := by
  induction calls generalizing context taken with
  | nil =>
    cases run
    exact ⟨taken, rfl⟩
  | cons call calls ih =>
    rw [runAll_cons] at run
    obtain ⟨reached, first, rest⟩ := Option.bind_eq_some_iff.1 run
    obtain ⟨shown, metered⟩ := meter_of_run first taken
    obtain ⟨last, others⟩ := ih rest shown
    refine ⟨last, ?_⟩
    rw [meterAll_cons, metered]
    exact others

/-- Calls in a sequence keep the faces covered. -/
theorem covered_of_meterAll (room : most < rollLimit) {calls : List Call}
    {context after : Context (Metered ρ)} (covered : context.Covered most)
    (done : meterAll calls context = some after) : after.Covered most := by
  induction calls generalizing context with
  | nil =>
    cases done
    exact covered
  | cons call calls ih =>
    rw [meterAll_cons] at done
    obtain ⟨reached, first, rest⟩ := Option.bind_eq_some_iff.1 done
    exact ih (covered_of_meter room covered first) rest

/-- Beyond the budget, calls that continue an evaluation take no face. -/
theorem roller_of_runAll (room : most < rollLimit) {calls : List Call} {context after : Context ρ}
    (continues : ∀ call ∈ calls, call.resets = false) (bounded : context.budget = some most)
    (beyond : most < context.rolls) (run : runAll calls context = some after) :
    after.roller = context.roller := by
  induction calls generalizing context with
  | nil =>
    cases run
    rfl
  | cons call calls ih =>
    rw [runAll_cons] at run
    obtain ⟨reached, first, rest⟩ := Option.bind_eq_some_iff.1 run
    obtain ⟨bounded, beyond, same⟩ :=
      roller_of_run room (continues call List.mem_cons_self) bounded beyond first
    rw [← same]
    exact ih (fun call member => continues call (List.mem_cons_of_mem _ member)) bounded beyond
      rest

/-- Calls that do not set the counter back leave the meter to the roller. -/
theorem meterAll_eq_runAll {calls : List Call} (continues : ∀ call ∈ calls, call.resets = false)
    (context : Context (Metered ρ)) : meterAll calls context = runAll calls context := by
  induction calls generalizing context with
  | nil => rw [meterAll_nil, runAll_nil]
  | cons call calls ih =>
    have rest := funext (ih fun call member => continues call (List.mem_cons_of_mem _ member))
    rw [meterAll_cons, runAll_cons, meter, continues call List.mem_cons_self,
      if_neg Bool.false_ne_true, rest]

end

end Call

/-- A computation that follows a script, started with the counter and the meter set back, ends
within the budget. -/
theorem Scripted.withinBudget [Roller ρ] {most : Nat}
    {computation : (ρ : Type) → [Roller ρ] → Rolling ρ α} (scripted : Scripted computation)
    (room : most < rollLimit) {context after : Context ρ}
    {result : Except RollError α} (bounded : context.budget = some most)
    (run : computation ρ { context with rolls := 0 } = some (result, after)) :
    ∃ taken, computation (Metered ρ) (Context.metered 0 { context with rolls := 0 }) =
        some (result, after.metered taken) ∧
      WithinBudget most result after.rolls taken := by
  obtain ⟨script, same⟩ := scripted
  rw [same] at run
  obtain ⟨taken, metered⟩ := Script.run_metered run 0
  refine ⟨taken, by rw [same]; exact metered, ?_⟩
  exact Script.withinBudget_of_run room ⟨bounded, Nat.le_refl 0, Nat.zero_le most⟩
    (Nat.zero_le most) metered

/-- An evaluation ends and takes no more faces than it counts rolls and than its budget has. The
counter goes at most one roll beyond the budget, and from there no call takes a face. -/
theorem faces_within_budget (ρ : Type) [Roller ρ] {most : Nat} (room : most < rollLimit) :
    (∀ (die : Die) (context : Context ρ), context.budget = some most →
      ∃ result after taken, die.roll context = some (result, after) ∧
        die.roll (context.metered 0) = some (result, after.metered taken) ∧
        WithinBudget most result after.rolls taken) ∧
    (∀ (die : Die) (context : Context ρ), context.budget = some most →
      ∃ result after taken, die.pool context = some (result, after) ∧
        die.pool (context.metered 0) = some (result, after.metered taken) ∧
        WithinBudget most result after.rolls taken) ∧
    (∀ (calls : List Call) (roller : ρ),
      ∃ after taken, Call.runAll calls (Context.start (some most) roller) = some after ∧
        Call.meterAll calls ((Context.start (some most) roller).metered 0) =
          some (after.metered taken) ∧
        taken ≤ after.rolls ∧ taken ≤ most) ∧
    (∀ (calls : List Call) (context : Context ρ), (∀ call ∈ calls, call.resets = false) →
      context.budget = some most → most < context.rolls →
      ∃ after, Call.runAll calls context = some after ∧ after.roller = context.roller ∧
        ∀ taken, Call.meterAll calls (context.metered taken) = some (after.metered taken)) ∧
    ∀ (sides : Int64) (context : Context (Metered ρ)), context.budget = some most →
      ∃ result after, rollFace sides context = some (result, after) ∧
        (most < after.rolls → after.roller = context.roller) := by
  refine ⟨?_, ?_, ?_, ?_, fun sides context bounded => roller_of_rollFace sides bounded⟩
  · intro die context bounded
    obtain ⟨result, after, run, -⟩ := die.roll_ends room bounded
    have follows := (followsScripts (fuelFor context.budget die.size)).total die
    have started := run
    rw [Die.roll_apply] at started
    obtain ⟨taken, metered, within⟩ := follows.withinBudget room bounded started
    exact ⟨result, after, taken, run, by rw [Die.roll_apply]; exact metered, within⟩
  · intro die context bounded
    obtain ⟨result, after, run, -⟩ := die.pool_ends room bounded
    have follows := scripted_values (fuelFor context.budget die.size) die
    have started := run
    rw [Die.pool_apply] at started
    obtain ⟨taken, metered, within⟩ := follows.withinBudget room bounded started
    exact ⟨result, after, taken, run, by rw [Die.pool_apply]; exact metered, within⟩
  · intro calls roller
    obtain ⟨after, run⟩ := Call.runAll_ends room calls
      (show (Context.start (some most) roller).budget = some most from rfl)
    obtain ⟨taken, metered⟩ := Call.meterAll_of_runAll run 0
    have covered := Call.covered_of_meterAll room
      ⟨rfl, Nat.le_refl 0, Nat.zero_le most⟩ metered
    exact ⟨after, taken, run, metered, covered.taken_le_rolls, covered.taken_le_most⟩
  · intro calls context continues bounded beyond
    obtain ⟨after, run⟩ := Call.runAll_ends room calls bounded
    refine ⟨after, run, Call.roller_of_runAll room continues bounded beyond run, fun taken => ?_⟩
    obtain ⟨shown, metered⟩ := Call.meterAll_of_runAll run taken
    have kept := metered
    rw [Call.meterAll_eq_runAll continues] at kept
    have same := Call.roller_of_runAll room continues
      (show (context.metered taken).budget = some most from bounded) beyond kept
    rw [metered, show shown = taken from congrArg Metered.taken same]

/-- A die that explodes for ever under a budget of two, and a slot forced after the refusal: the
bounds hold of all that follows, and beyond the budget the meter stands still. -/
theorem faces_within_budget_two :
    let cycle : FaceCycle := ⟨[4, 5, 6], by decide, 0⟩
    let die := Die.explode .above (.constant 1) (.dice (.constant 1) (.constant 6))
    let fresh := Context.start (some 2) cycle
    let full : Context FaceCycle := ⟨some 2, 2, cycle⟩
    let spent : Context FaceCycle := ⟨some 2, 3, cycle⟩
    2 < rollLimit ∧
    (∃ result after taken, die.roll fresh = some (result, after) ∧
      die.roll (fresh.metered 0) = some (result, after.metered taken) ∧
      WithinBudget 2 result after.rolls taken) ∧
    (∃ result after taken, die.pool fresh = some (result, after) ∧
      die.pool (fresh.metered 0) = some (result, after.metered taken) ∧
      WithinBudget 2 result after.rolls taken) ∧
    (∃ after taken, Call.runAll [.pool die, .force (.face 6)] fresh = some after ∧
      Call.meterAll [.pool die, .force (.face 6)] (fresh.metered 0) = some (after.metered taken) ∧
      taken ≤ after.rolls ∧ taken ≤ 2) ∧
    (∃ after, Call.runAll [.force (.face 6)] spent = some after ∧ after.roller = spent.roller ∧
      ∀ taken, Call.meterAll [.force (.face 6)] (spent.metered taken) =
        some (after.metered taken)) ∧
    ∃ result after, rollFace 6 (full.metered 2) = some (result, after) ∧
      (2 < after.rolls → after.roller = (full.metered 2).roller) := by
  intro cycle die fresh full spent
  have room : 2 < rollLimit := by decide
  obtain ⟨rolled, pooled, called, beyond, face⟩ := faces_within_budget FaceCycle room
  refine ⟨room, rolled die fresh rfl, pooled die fresh rfl,
    called [.pool die, .force (.face 6)] cycle,
    beyond [.force (.face 6)] spent ?_ rfl (by decide), face 6 (full.metered 2) rfl⟩
  intro call member
  rw [List.mem_singleton.1 member]
  rfl

end DicePool
