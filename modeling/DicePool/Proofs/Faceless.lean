import DicePool.Proofs.Fuel
import DicePool.Proofs.Refinement

/-!
# Dice without faces

A die without a `d` takes no face, so all rollers are alike to it, however long it explodes or is
rolled again and whether it is refused or not. That no draw touches the roller is seen in the
evaluation without memos, whose pools are made by recursion on the die. What a script does for a
roller that it does not touch, it does for every other one.
-/

namespace DicePool

/-- Whether no number of faces is asked for anywhere in the die. -/
def Die.Faceless : Die → Prop
  | constant _ => True
  | dice _ _ => False
  | add left right | subtract left right | multiply left right | divide left right =>
    left.Faceless ∧ right.Faceless
  | negative body => body.Faceless
  | bonus _ body amount => body.Faceless ∧ amount.Faceless
  | explode _ cutoff body | again _ cutoff body | threshold _ cutoff body =>
    cutoff.Faceless ∧ body.Faceless
  | keep _ count body => count.Faceless ∧ body.Faceless
  | repetition body count => body.Faceless ∧ count.Faceless

/-- How an evaluation ends does not depend on the roller, which it leaves alone. -/
def TakesNoFace {α : Type}
    (ends : (ρ : Type) → [Roller ρ] → Context ρ → Except RollError α → Context ρ → Prop) : Prop :=
  ∀ (ρ σ : Type) [Roller ρ] [Roller σ] (context after : Context ρ) (other : Context σ)
    (result : Except RollError α), other.budget = context.budget → ends ρ context result after →
    after.roller = context.roller ∧ ends σ other result (after.withRoller other.roller)

variable {ρ α β : Type}

/-- However the computation ends, the roller stands where it stood, and a value is good. -/
def Idle (Good : α → Prop) (code : Rolling ρ α) : Prop :=
  ∀ context result after, code context = some (result, after) →
    after.roller = context.roller ∧ ∀ value, result = .ok value → Good value

namespace Idle

variable {Good : α → Prop} {Later : β → Prop}

/-- Nothing happens without fuel. -/
theorem exhausted : Idle Good (exhausted : Rolling ρ α) := by
  intro context result after run
  cases run

/-- A good value touches nothing. -/
theorem pure {value : α} (good : Good value) : Idle Good (Pure.pure value : Rolling ρ α) := by
  intro context result after run
  cases run
  refine ⟨rfl, ?_⟩
  rintro _ ⟨⟩
  exact good

/-- A result that is known touches nothing. -/
theorem settle (result : Except RollError α) :
    Idle (fun _ => True) (settle result : Rolling ρ α) := by
  intro context known after run
  cases run
  exact ⟨rfl, fun _ _ => trivial⟩

/-- Counting a roll takes no face. -/
theorem countRoll : Idle (fun _ => True) (countRoll : Rolling ρ Unit) := by
  intro context result after run
  cases run
  exact ⟨rfl, fun _ _ => trivial⟩

/-- Reserving rolls takes no face. -/
theorem reserve (count : Nat) : Idle (fun _ => True) (reserve count : Rolling ρ Unit) := by
  intro context result after run
  cases run
  exact ⟨rfl, fun _ _ => trivial⟩

/-- What is good is good in a weaker sense. -/
theorem mono {Weaker : α → Prop} {code : Rolling ρ α} (idle : Idle Good code)
    (weaker : ∀ value, Good value → Weaker value) : Idle Weaker code := by
  intro context result after run
  obtain ⟨same, good⟩ := idle context result after run
  exact ⟨same, fun value known => weaker value (good value known)⟩

/-- Two steps leave the roller alone when each of them does. -/
theorem bind {code : Rolling ρ α} {next : α → Rolling ρ β} (first : Idle Good code)
    (rest : ∀ value, Good value → Idle Later (next value)) : Idle Later (code >>= next) := by
  intro context result after run
  obtain ⟨error, refused, rfl⟩ | ⟨value, reached, done, run⟩ := Rolling.bind_eq_some_iff.1 run
  · refine ⟨(first context _ after refused).1, ?_⟩
    rintro _ ⟨⟩
  · obtain ⟨same, good⟩ := first context _ reached done
    obtain ⟨still, later⟩ := rest value (good value rfl) reached result after run
    exact ⟨still.trans same, later⟩

/-- A list of steps leaves the roller alone when each of them does. -/
theorem mapM {step : α → Rolling ρ β} {values : List α}
    (each : ∀ value ∈ values, Idle Later (step value)) :
    Idle (fun results => ∀ result ∈ results, Later result) (values.mapM step) := by
  induction values with
  | nil => exact pure (by simp)
  | cons value values ih =>
    rw [List.mapM_cons]
    apply (each value List.mem_cons_self).bind
    intro head good
    apply (ih fun other member => each other (List.mem_cons_of_mem _ member)).bind
    intro tail others
    exact pure (List.forall_mem_cons.2 ⟨good, others⟩)

/-- A loop leaves the roller alone if it does so within any number of turns. -/
theorem unbounded {loop : Nat → Rolling ρ α} (within : ∀ turns, Idle Good (loop turns)) :
    Idle Good (Stateless.unbounded loop) := by
  intro context result after run
  unfold Stateless.unbounded at run
  split at run
  · rename_i ends
    obtain ⟨turns, done⟩ := ends.choose_spec
    rw [Option.some.inj run] at done
    exact within turns context result after done
  · cases run

end Idle

namespace Stateless

/-- Neither the first draw nor a later one touches the roller. -/
structure Draws.Still (draws : Draws ρ) : Prop where
  /-- The first draw leaves the roller alone. -/
  first : Idle (fun _ => True) draws.first
  /-- The later draws do. -/
  later : Idle (fun _ => True) draws.later

/-- Draws may be followed by steps that leave the roller alone. -/
theorem Draws.Still.followedBy {draws : Draws ρ} {step : Int64 → Rolling ρ Int64}
    (still : draws.Still) (steps : ∀ value, Idle (fun _ => True) (step value)) :
    (draws.followedBy step).Still :=
  ⟨still.first.bind fun value _ => steps value, still.later.bind fun value _ => steps value⟩

/-- An exploding draw leaves the roller alone, however many turns it takes. -/
theorem idle_explodeWithin {draw : Rolling ρ Int64} (idle : Idle (fun _ => True) draw)
    (cmp : Comparison) (cutoff : Int64) (turns : Nat) : ∀ total last : Int64,
      Idle (fun _ => True) (explodeWithin draw cmp cutoff turns total last) := by
  induction turns with
  | zero => exact fun _ _ => Idle.exhausted
  | succ turns ih =>
    intro total last
    rw [explodeWithin]
    split
    · apply Idle.countRoll.bind
      intro _ _
      apply idle.bind
      intro value _
      apply (Idle.settle _).bind
      intro total _
      exact ih total value
    · exact Idle.pure trivial

/-- A draw for which a roll is counted leaves the roller alone. -/
theorem idle_drawCounting {draws : Draws ρ} (still : draws.Still) (cmp : Comparison)
    (cutoff : Int64) :
    Idle (fun entry => Idle (fun _ => True) entry.2) (drawCounting cmp cutoff draws) := by
  apply still.first.bind
  intro value _
  split
  · exact Idle.countRoll.bind fun _ _ => Idle.pure still.later
  · exact Idle.pure still.later

/-- Generations leave the roller alone, however many turns they take. -/
theorem idle_generationsWithin (cmp : Comparison) (cutoff : Int64) (turns : Nat) :
    ∀ generation : List (Draws ρ), (∀ draws ∈ generation, draws.Still) →
      Idle (fun pool => ∀ draws ∈ pool, draws.Still)
        (generationsWithin cmp cutoff turns generation) := by
  induction turns with
  | zero =>
    intro generation still
    cases generation with
    | nil => exact Idle.pure (by simp)
    | cons draws rest => exact Idle.exhausted
  | succ turns ih =>
    intro generation still
    cases generation with
    | nil => exact Idle.pure (by simp)
    | cons draws rest =>
      apply (Idle.mapM fun draws member => idle_drawCounting (still draws member) cmp cutoff).bind
      intro drawn left
      have renewed : ∀ draws ∈ (drawn.filter fun entry => cmp.holds entry.1 cutoff).map
          (fun entry => Draws.renewed entry.2), draws.Still := by
        intro draws member
        obtain ⟨entry, among, rfl⟩ := List.mem_map.1 member
        have later := left entry (List.mem_filter.1 among).1
        exact ⟨later, later⟩
      apply (ih _ renewed).bind
      intro others still
      refine Idle.pure (List.forall_mem_append.2 ⟨?_, still⟩)
      exact List.forall_mem_map.2 fun entry member => ⟨Idle.pure trivial, left entry member⟩

/-- The sum of a pool leaves the roller alone if its draws do. -/
theorem idle_totalOf {pool : Rolling ρ (List (Draws ρ))}
    (idle : Idle (fun pool => ∀ draws ∈ pool, draws.Still) pool) :
    Idle (fun _ => True) (totalOf pool) := by
  apply idle.bind
  intro pool still
  apply (Idle.mapM fun draws member => (still draws member).first).bind
  intro values _
  exact Idle.settle _

/-- A pool made without touching the roller, whose draws do not touch it either. -/
abbrev StillPool (code : Rolling ρ (List (Draws ρ))) : Prop :=
  Idle (fun pool => ∀ draws ∈ pool, draws.Still) code

namespace StillPool

variable {code : Rolling ρ (List (Draws ρ))}

/-- A value draws nothing. -/
theorem fixed (value : Int64) : StillPool (Pure.pure [.fixed value] : Rolling ρ _) := by
  apply Idle.pure
  intro draws member
  obtain rfl := List.mem_singleton.1 member
  exact ⟨Idle.pure trivial, Idle.pure trivial⟩

/-- A pool that decides how another one is made is totalled first. -/
theorem total_bind (still : StillPool code) {next : Int64 → Rolling ρ (List (Draws ρ))}
    (rest : ∀ value, StillPool (next value)) : StillPool (totalOf code >>= next) :=
  (idle_totalOf still).bind fun value _ => rest value

/-- One value of two totals. -/
theorem combined {other : Rolling ρ (List (Draws ρ))} (still : StillPool code)
    (still' : StillPool other) (combine : Int64 → Int64 → Except RollError Int64) :
    StillPool (do let one ← totalOf code
                  let two ← totalOf other
                  return [.fixed (← settle (combine one two))]) := by
  apply still.total_bind
  intro one
  apply still'.total_bind
  intro two
  apply (Idle.settle _).bind
  intro value _
  exact fixed value

/-- A pool whose draws are followed by more. -/
theorem map (still : StillPool code) {wrap : Draws ρ → Draws ρ}
    (each : ∀ draws : Draws ρ, draws.Still → (wrap draws).Still) :
    StillPool (do let pool ← code
                  return pool.map wrap) := by
  apply still.bind
  intro pool among
  exact Idle.pure (List.forall_mem_map.2 fun draws member => each draws (among draws member))

/-- Two pools, the second one with draws that are followed by more. -/
theorem both {other : Rolling ρ (List (Draws ρ))} (still : StillPool code)
    (still' : StillPool other) (wrap : Draws ρ → Draws ρ)
    (each : ∀ draws : Draws ρ, draws.Still → (wrap draws).Still) :
    StillPool (do let front ← code
                  let behind ← other
                  return front ++ behind.map wrap) := by
  apply still.bind
  intro front among
  apply still'.bind
  intro behind among'
  refine Idle.pure (List.forall_mem_append.2 ⟨among, List.forall_mem_map.2 ?_⟩)
  exact fun draws member => each draws (among' draws member)

/-- The selected draws, recorded. -/
theorem kept (still : StillPool code) (selection : Selection) (count : Nat) :
    StillPool (do let pool ← code
                  let drawn ← pool.mapM drawOnce
                  return (selection.take count drawn).map fun entry =>
                    .recorded entry.1 entry.2) := by
  apply still.bind
  intro pool among
  have each : ∀ draws ∈ pool, Idle (fun entry => Idle (fun _ => True) entry.2)
      (drawOnce draws) := fun draws member =>
    (among draws member).first.bind fun _ _ => Idle.pure (among draws member).later
  apply (Idle.mapM each).bind
  intro drawn left
  refine Idle.pure (List.forall_mem_map.2 fun entry member => ?_)
  exact ⟨Idle.pure trivial, left entry (mem_of_mem_take member)⟩

/-- The draws of a pool, and those that their hits add. -/
theorem again (still : StillPool code) (cmp : Comparison) (cutoff : Int64) :
    StillPool (do let pool ← code
                  generations cmp cutoff pool) := by
  apply still.bind
  intro pool among
  exact Idle.unbounded fun turns => idle_generationsWithin cmp cutoff turns pool among

/-- So many pools of one kind. -/
theorem copies (still : StillPool code) (count : Nat) :
    StillPool (do reserve count
                  let pools ← (List.replicate count ()).mapM fun _ => code
                  return pools.flatten) := by
  apply (Idle.reserve _).bind
  intro _ _
  apply (Idle.mapM fun _ _ => still).bind
  intro pools among
  apply Idle.pure
  intro draws member
  obtain ⟨pool, inside, within⟩ := List.mem_flatten.1 member
  exact among pool inside draws within

end StillPool

/-- More draws of the same kind may follow as long as the last one is a hit. -/
theorem Draws.Still.explode {draws : Draws ρ} (still : draws.Still) (cmp : Comparison)
    (cutoff : Int64) : (draws.explode cmp cutoff).Still := by
  apply still.followedBy
  intro value
  apply Idle.unbounded
  intro turns
  exact idle_explodeWithin still.later cmp cutoff turns value value

/-- A total of its own may be joined to each draw. -/
theorem Draws.Still.bonus {draws : Draws ρ} (still : draws.Still) (op : Arithmetic)
    {code : Rolling ρ (List (Draws ρ))} (amount : StillPool code) :
    (draws.bonus op (totalOf code)).Still := by
  apply still.followedBy
  intro value
  apply (idle_totalOf amount).bind
  intro extra _
  exact Idle.settle _

/-- A die without faces leaves the roller alone, and so do the draws of its pool. -/
theorem idle_generate [Roller ρ] {die : Die} (faceless : die.Faceless) :
    Idle (fun pool : List (Draws ρ) => ∀ draws ∈ pool, draws.Still) (generate die) := by
  have negated (draws : Draws ρ) (still : draws.Still) : draws.negative.Still :=
    still.followedBy fun _ => Idle.settle _
  induction die with
  | constant value =>
    rw [generate]
    exact StillPool.fixed value
  | dice count sides => exact faceless.elim
  | add left right ihl ihr =>
    rw [generate]
    have both := StillPool.both (ihl faceless.1) (ihr faceless.2) id fun _ => id
    simp only [List.map_id] at both
    exact both
  | subtract left right ihl ihr =>
    rw [generate]
    exact StillPool.both (ihl faceless.1) (ihr faceless.2) .negative negated
  | multiply left right ihl ihr | divide left right ihl ihr =>
    rw [generate]
    exact StillPool.combined (ihl faceless.1) (ihr faceless.2) _
  | negative body ih =>
    rw [generate]
    exact StillPool.map (ih faceless) negated
  | bonus op body amount ihBody ihAmount =>
    rw [generate]
    exact StillPool.map (ihBody faceless.1) fun draws still => still.bonus op (ihAmount faceless.2)
  | explode cmp cutoff body ihCutoff ihBody =>
    rw [generate]
    apply StillPool.total_bind (ihCutoff faceless.1)
    intro cutoff
    exact StillPool.map (ihBody faceless.2) fun draws still => still.explode cmp cutoff
  | keep selection count body ihCount ihBody =>
    rw [generate]
    apply StillPool.total_bind (ihCount faceless.1)
    intro count
    exact StillPool.kept (ihBody faceless.2) selection (quantity count)
  | again cmp cutoff body ihCutoff ihBody =>
    rw [generate]
    apply StillPool.total_bind (ihCutoff faceless.1)
    intro cutoff
    exact StillPool.again (ihBody faceless.2) cmp cutoff
  | threshold cmp cutoff body ihCutoff ihBody =>
    rw [generate]
    apply StillPool.total_bind (ihCutoff faceless.1)
    intro cutoff
    exact StillPool.map (ihBody faceless.2) fun draws still =>
      still.followedBy fun _ => Idle.pure trivial
  | repetition body count ihBody ihCount =>
    rw [generate]
    apply StillPool.total_bind (ihCount faceless.2)
    intro count
    exact StillPool.copies (ihBody faceless.1) (quantity count)

end Stateless

/-- What follows a script and never touches a roller does the same for every other roller, as no
face was handed out that a meter could count. -/
theorem Scripted.with_any_roller {computation : (ρ : Type) → [Roller ρ] → Rolling ρ α}
    (scripted : Scripted computation)
    (idle : ∀ (ρ : Type) [Roller ρ], Idle (fun _ => True) (computation ρ)) [Roller ρ]
    {context after : Context ρ} {result : Except RollError α}
    (run : computation ρ context = some (result, after)) (σ : Type) [Roller σ] (other : σ) :
    computation σ (context.withRoller other) = some (result, after.withRoller other) := by
  obtain ⟨script, same⟩ := scripted
  rw [same] at run
  obtain ⟨log, decided⟩ := Script.decidedBy_of_run run
  have metered := decided.again _ _ _ (decided.handed.metered 0)
  rw [← same] at metered
  have untouched := (idle (Metered ρ) _ _ _ metered).1
  have none : log = [] := by
    have taken := congrArg Metered.taken untouched
    exact List.length_eq_zero_iff.1 ((Nat.zero_add _).symm.trans taken)
  rw [none] at decided
  rw [same]
  exact decided.again σ other other rfl

namespace Die

variable {die : Die}

/-- The total of a die without faces leaves the roller alone. -/
theorem idle_total [Roller ρ] (faceless : die.Faceless) (fuel : Nat) :
    Idle (fun _ => True) (die.total fuel : Rolling ρ Int64) := by
  intro context result after run
  have stateless := ((refines ρ fuel).total die context result after run).1
  have idle := Stateless.idle_totalOf (Stateless.idle_generate (ρ := ρ) faceless)
  exact ⟨(idle context _ after stateless).1, fun _ _ => trivial⟩

/-- The values of a die without faces leave the roller alone. -/
theorem idle_values [Roller ρ] (faceless : die.Faceless) (fuel : Nat) :
    Idle (fun _ => True) (die.values fuel : Rolling ρ (List Int64)) := by
  intro context result after run
  have stateless := ((refines ρ fuel).values die context result after run).1
  have idle : Idle (fun _ => True)
      (do let pool ← Stateless.generate (ρ := ρ) die
          pool.mapM Stateless.Draws.first) := by
    apply (Stateless.idle_generate faceless).bind
    intro pool still
    exact (Idle.mapM fun draws member => (still draws member).first).mono fun _ _ => trivial
  exact ⟨(idle context _ after stateless).1, fun _ _ => trivial⟩

end Die

/-- After a restart, contexts with the same budget differ only in their rollers. So a computation
that touches none takes no face, with whatever fuel, and with the fuel that the budget asks for. -/
theorem takesNoFace_of_idle {code : Nat → (ρ : Type) → [Roller ρ] → Rolling ρ α}
    (scripted : ∀ fuel, Scripted (code fuel))
    (idle : ∀ (fuel : Nat) (ρ : Type) [Roller ρ], Idle (fun _ => True) (code fuel ρ)) :
    (TakesNoFace fun ρ _ context result after =>
      ∃ fuel, code fuel ρ { context with rolls := 0 } = some (result, after)) ∧
    ∀ size, TakesNoFace fun ρ _ context result after =>
      code (fuelFor context.budget size) ρ { context with rolls := 0 } = some (result, after) := by
  have restarted (fuel : Nat) (ρ σ : Type) [Roller ρ] [Roller σ] (context after : Context ρ)
      (other : Context σ) (result : Except RollError α) (same : other.budget = context.budget)
      (run : code fuel ρ { context with rolls := 0 } = some (result, after)) :
      after.roller = context.roller ∧
        code fuel σ { other with rolls := 0 } = some (result, after.withRoller other.roller) := by
    refine ⟨(idle fuel ρ _ _ _ run).1, ?_⟩
    have again := (scripted fuel).with_any_roller (idle fuel) run σ other.roller
    rwa [Context.withRoller, ← same] at again
  constructor
  · rintro ρ σ _ _ context after other result same ⟨fuel, run⟩
    obtain ⟨still, again⟩ := restarted fuel ρ σ context after other result same run
    exact ⟨still, fuel, again⟩
  · intro size ρ σ _ _ context after other result same run
    have again := restarted _ ρ σ context after other result same run
    rw [← same] at again
    exact again

/-- A die without faces takes none, whatever it is evaluated to and with whatever fuel. -/
theorem Die.takesNoFace {die : Die} (faceless : die.Faceless) :
    (TakesNoFace fun _ _ => die.RollsTo) ∧ (TakesNoFace fun _ _ => die.PoolsTo) ∧
    (TakesNoFace fun _ _ context result after => die.roll context = some (result, after)) ∧
    TakesNoFace fun _ _ context result after => die.pool context = some (result, after) := by
  have totals := takesNoFace_of_idle (fun fuel => (followsScripts fuel).total die)
    fun fuel _ _ => die.idle_total faceless fuel
  have pools := takesNoFace_of_idle (fun fuel => scripted_values fuel die)
    fun fuel _ _ => die.idle_values faceless fuel
  exact ⟨totals.1, pools.1, totals.2 die.size, pools.2 die.size⟩

end DicePool
