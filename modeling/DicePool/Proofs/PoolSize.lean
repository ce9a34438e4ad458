import DicePool.Proofs.Repeating
import DicePool.Proofs.Rerolling

/-!
# How large a pool can be

A reservation looks at the rolls counted so far and not at the reservations before it. So a budget
bounds the faces of one `d` and the slots that hits add, but a repetition may have as many pools as
the budget has rolls, and repetitions of repetitions multiply. The bound that follows, die by die,
is attained by repetitions inside each other, which draw no face and count no roll.
-/

namespace DicePool

/-- The most slots that a die can have under the budget. -/
def Die.mostSlots (most : Nat) : Die → Nat
  | constant _ | multiply _ _ | divide _ _ => 1
  | dice _ _ => most
  | add left right | subtract left right => left.mostSlots most + right.mostSlots most
  | negative body | bonus _ body _ | explode _ _ body | threshold _ _ body | keep _ _ body =>
    body.mostSlots most
  | again _ _ body => body.mostSlots most + most
  | repetition body _ => most * body.mostSlots most

variable {ρ α β : Type}

/-- The counter is within the budget. -/
structure Context.Within (most : Nat) (context : Context ρ) : Prop where
  /-- The budget is known. -/
  budget : context.budget = some most
  /-- No roll is counted beyond it. -/
  rolls_le : context.rolls ≤ most

/-- A roll that is granted leaves the counter within the budget, one further than it was. -/
theorem Context.Within.counted {most : Nat} {context : Context ρ} (within : context.Within most)
    (room : most < rollLimit) (free : context.full = false) :
    context.counted.Within most ∧ context.rolls + 1 ≤ context.counted.rolls := by
  have inside := Context.counted_le_of_free within.budget free
  have started := within.rolls_le
  have counter := context.counted_rolls
  exact ⟨⟨within.budget, inside⟩, by omega⟩

/-- A budget that covers so many more rolls has that many. -/
theorem Context.Within.le_of_not_exceeds {most count : Nat} {context : Context ρ}
    (within : context.Within most) (room : most < rollLimit)
    (covered : context.exceeds (context.after count) = false) : count ≤ most := by
  have enough : context.after count ≤ most :=
    Context.exceeds_eq_false_iff.1 covered most within.budget
  unfold Context.after at enough
  omega

/-- An evaluation that is not refused leaves the counter within the budget and sets it back at no
time. -/
theorem Scripted.within_of_run [Roller ρ] {computation : (ρ : Type) → [Roller ρ] → Rolling ρ α}
    (scripted : Scripted computation) {most : Nat} (room : most < rollLimit)
    {context after : Context ρ} {value : α} (within : context.Within most)
    (run : computation ρ context = some (.ok value, after)) :
    after.Within most ∧ context.rolls ≤ after.rolls := by
  obtain ⟨script, same⟩ := scripted
  rw [same] at run
  have further {reached : Context ρ} (kept : reached.Within most ∧ context.rolls ≤ reached.rolls)
      (free : reached.full = false) :
      reached.counted.Within most ∧ context.rolls ≤ reached.counted.rolls := by
    have counted := kept.1.counted room free
    exact ⟨counted.1, by omega⟩
  refine Script.run_keeps (fun reached => reached.Within most ∧ context.rolls ≤ reached.rolls)
    (fun result reached => result ≠ .error .tooManyRolls →
      reached.Within most ∧ context.rolls ≤ reached.rolls)
    (fun _ _ kept _ => kept) (fun _ _ _ other => absurd rfl other)
    (fun _ kept free => further kept free) (fun _ _ kept free => ?_)
    ⟨within, Nat.le_refl _⟩ run (by simp)
  have counted := further kept free
  exact ⟨⟨counted.1.budget, counted.1.rolls_le⟩, counted.2⟩

/-- From a counter within the budget the computation comes to good values only, and leaves the
counter within the budget. -/
def Stays (most : Nat) (Good : α → Prop) (code : Rolling ρ α) : Prop :=
  ∀ context value after, context.Within most → code context = some (.ok value, after) →
    after.Within most ∧ Good value

namespace Stays

variable {most : Nat} {Good : α → Prop} {Later : β → Prop}

/-- A good value leaves the context as it is. -/
theorem pure {value : α} (good : Good value) :
    Stays most Good (Pure.pure value : Rolling ρ α) := by
  intro context known after within run
  cases run
  exact ⟨within, good⟩

/-- Two steps stay within the budget when each of them does. -/
theorem bind {code : Rolling ρ α} {next : α → Rolling ρ β} (first : Stays most Good code)
    (rest : ∀ value, Good value → Stays most Later (next value)) :
    Stays most Later (code >>= next) := by
  intro context last after within run
  obtain ⟨value, reached, done, run⟩ := Rolling.bind_eq_ok_iff.1 run
  obtain ⟨inside, good⟩ := first context value reached within done
  exact rest value good reached last after inside run

/-- A list of steps stays within the budget when each of them does. -/
theorem mapM {step : α → Rolling ρ β} {values : List α}
    (each : ∀ value ∈ values, Stays most Later (step value)) :
    Stays most (fun results => results.length = values.length ∧ ∀ result ∈ results, Later result)
      (values.mapM step) := by
  induction values with
  | nil => exact pure ⟨rfl, by simp⟩
  | cons value values ih =>
    rw [List.mapM_cons]
    apply (each value List.mem_cons_self).bind
    intro head good
    apply (ih fun other member => each other (List.mem_cons_of_mem _ member)).bind
    intro tail others
    refine pure ⟨?_, List.forall_mem_cons.2 ⟨good, others.2⟩⟩
    rw [List.length_cons, List.length_cons, others.1]

/-- What follows a script stays within the budget. -/
theorem scripted [Roller ρ] (room : most < rollLimit)
    {computation : (ρ : Type) → [Roller ρ] → Rolling ρ α} (scripted : Scripted computation) :
    Stays most (fun _ => True) (computation ρ : Rolling ρ α) := by
  intro context value after within run
  exact ⟨(scripted.within_of_run room within run).1, trivial⟩

/-- A reservation that is granted is for no more rolls than the budget has. -/
theorem reserve (room : most < rollLimit) (count : Nat) :
    Stays most (fun _ => count ≤ most) (reserve count : Rolling ρ Unit) := by
  intro context value after within run
  unfold DicePool.reserve at run
  cases covered : context.exceeds (context.after count) with
  | true =>
    rw [covered] at run
    cases run
  | false =>
    rw [covered] at run
    cases run
    exact ⟨within, within.le_of_not_exceeds room covered⟩

end Stays

section

variable [Roller ρ] {most : Nat} (room : most < rollLimit) {cmp : Comparison} {cutoff : Int64}
  {context after : Context ρ} {slots : Pool}

include room

/-- Every hit of a generation counts a roll. -/
theorem Pool.DrawsCounting.hits_le {drawn : List (Int64 × Slot)}
    (draws : slots.DrawsCounting cmp cutoff context drawn after) (within : context.Within most) :
    after.Within most ∧ context.rolls + (hits cmp cutoff drawn).length ≤ after.rolls := by
  obtain ⟨fuel, run⟩ := draws
  unfold drawGeneration at run
  induction slots generalizing context drawn with
  | nil =>
    cases run
    exact ⟨within, Nat.le_refl _⟩
  | cons slot rest ih =>
    rw [List.mapM_cons] at run
    obtain ⟨entry, granted, step, run⟩ := Rolling.bind_eq_ok_iff.1 run
    obtain ⟨tail, last, others, ended⟩ := Rolling.bind_eq_ok_iff.1 run
    cases ended
    obtain ⟨drawn, reached, draw, counting⟩ := Rolling.bind_eq_ok_iff.1 step
    obtain ⟨inside, later⟩ := ((followsScripts fuel).draw slot).within_of_run room within draw
    cases hit : cmp.holds drawn.1 cutoff with
    | false =>
      rw [hit] at counting
      cases counting
      obtain ⟨kept, counted⟩ := ih inside others
      have none : hits cmp cutoff (entry :: tail) = hits cmp cutoff tail :=
        List.filter_cons_of_neg (by simp [hit])
      rw [none]
      exact ⟨kept, by omega⟩
    | true =>
      rw [hit, if_pos rfl] at counting
      obtain ⟨_, counter, counts, ended⟩ := Rolling.bind_eq_ok_iff.1 counting
      cases ended
      obtain ⟨free, rfl⟩ := countRoll_eq_ok_iff.1 counts
      have further := inside.counted room free
      obtain ⟨kept, counted⟩ := ih further.1 others
      have one : hits cmp cutoff (entry :: tail) = entry :: hits cmp cutoff tail :=
        List.filter_cons_of_pos hit
      rw [one, List.length_cons]
      exact ⟨kept, by omega⟩

/-- Every hit of all generations counts a roll. -/
theorem Descends.hits_le {drawn : List (List (Int64 × Slot))}
    (descends : Descends cmp cutoff slots context drawn after) (within : context.Within most) :
    after.Within most ∧ context.rolls + (hits cmp cutoff drawn.flatten).length ≤ after.rolls := by
  induction descends with
  | last draws misses =>
    rw [List.flatten_singleton]
    exact draws.hits_le room within
  | next draws some_hit rest ih =>
    obtain ⟨inside, counted⟩ := draws.hits_le room within
    obtain ⟨kept, others⟩ := ih inside
    rw [List.flatten_cons, hits_append, List.length_append]
    exact ⟨kept, by omega⟩

/-- Hits add no more slots than the budget has rolls. -/
theorem stays_generations (fuel turns : Nat) (slots : Pool) :
    Stays most (fun pool => pool.length ≤ slots.length + most)
      (generations (Slot.force fuel) cmp cutoff turns slots : Rolling ρ Pool) := by
  intro context pool after within run
  obtain ⟨drawn, descends, rfl⟩ := descends_of_generations run
  obtain ⟨kept, counted⟩ := descends.hits_le room within
  refine ⟨kept, ?_⟩
  have inside := kept.rolls_le
  have length := descends.length_eq
  show (drawn.flatten.map remember).length ≤ slots.length + most
  rw [List.length_map]
  omega

end

/-- Pools of bounded length add up to no more than that for each. -/
theorem length_flatten_le {bound : Nat} {pools : List Pool}
    (small : ∀ pool ∈ pools, pool.length ≤ bound) :
    pools.flatten.length ≤ pools.length * bound := by
  have most := List.sum_le_card_nsmul (pools.map List.length) bound (by simpa using small)
  rwa [List.length_map, smul_eq_mul, ← List.length_flatten] at most

/-- The pools of the dice have no more slots than their bounds, with so much fuel. -/
def GenerateStays (ρ : Type) [Roller ρ] (most fuel : Nat) : Prop :=
  ∀ die : Die, Stays most (fun pool => pool.length ≤ die.mostSlots most)
    (die.generate fuel : Rolling ρ Pool)

namespace GenerateStays

variable [Roller ρ] {most fuel : Nat}

omit [Roller ρ] in
/-- A reservation bounds the faces of one die. -/
theorem faces (room : most < rollLimit) (count : Nat) (sides : Int64) :
    Stays most (fun pool => pool.length ≤ most)
      (do reserve count
          return List.replicate count (.face sides) : Rolling ρ Pool) := by
  apply (Stays.reserve room count).bind
  intro _ covered
  refine Stays.pure ?_
  rw [List.length_replicate]
  exact covered

/-- A total comes first, and has no slots. -/
theorem total_bind (room : most < rollLimit) (fuel : Nat) (die : Die) {Good : α → Prop}
    {next : Int64 → Rolling ρ α} (rest : ∀ value, Stays most Good (next value)) :
    Stays most Good (die.total fuel >>= next) :=
  (Stays.scripted room ((followsScripts fuel).total die)).bind fun value _ => rest value

/-- Two totals give one slot. -/
theorem fixed (room : most < rollLimit) (fuel : Nat) (left right : Die)
    (combine : Int64 → Int64 → Except RollError Int64) :
    Stays most (fun pool => pool.length ≤ 1)
      (do let left ← left.total fuel
          let right ← right.total fuel
          return [.fixed (← settle (combine left right))] : Rolling ρ Pool) := by
  apply total_bind room fuel left
  intro left
  apply total_bind room fuel right
  intro right
  exact (Stays.scripted room (Scripted.settle _)).bind fun value _ => Stays.pure (Nat.le_refl 1)

/-- Wrapped slots are as many. -/
theorem map (known : GenerateStays ρ most fuel) (body : Die) (wrap : Slot → Slot) :
    Stays most (fun pool => pool.length ≤ body.mostSlots most)
      (do let pool ← body.generate fuel
          return pool.map wrap : Rolling ρ Pool) := by
  apply (known body).bind
  intro pool small
  refine Stays.pure ?_
  rw [List.length_map]
  exact small

/-- Two pools have as many slots as both. -/
theorem both (known : GenerateStays ρ most fuel) (left right : Die) (wrap : Slot → Slot) :
    Stays most (fun pool => pool.length ≤ left.mostSlots most + right.mostSlots most)
      (do let front ← left.generate fuel
          let behind ← right.generate fuel
          return front ++ behind.map wrap : Rolling ρ Pool) := by
  apply (known left).bind
  intro front first
  apply (known right).bind
  intro behind second
  refine Stays.pure ?_
  rw [List.length_append, List.length_map]
  exact Nat.add_le_add first second

/-- Selected slots are no more. -/
theorem kept (known : GenerateStays ρ most fuel) (room : most < rollLimit) (body : Die)
    (selection : Selection) (count : Nat) :
    Stays most (fun pool => pool.length ≤ body.mostSlots most)
      (do let pool ← body.generate fuel
          let drawn ← drawAll (Slot.force fuel) pool
          return (selection.take count drawn).map remember : Rolling ρ Pool) := by
  apply (known body).bind
  intro pool small
  have draw (slot : Slot) : Stays most (fun _ => True)
      (drawFrom (Slot.force fuel) slot : Rolling ρ (Int64 × Slot)) :=
    Stays.scripted room ((followsScripts fuel).draw slot)
  apply (Stays.mapM fun slot _ => draw slot).bind
  intro drawn same
  refine Stays.pure ?_
  have fewer : (selection.take count drawn).length ≤ drawn.length := by
    rw [Selection.take, List.length_take, List.length_mergeSort]
    exact Nat.min_le_right _ _
  rw [List.length_map]
  exact Nat.le_trans fewer (Nat.le_trans (Nat.le_of_eq same.1) small)

/-- Hits add no more slots than the budget has rolls. -/
theorem again (known : GenerateStays ρ most fuel) (room : most < rollLimit) (body : Die)
    (cmp : Comparison) (cutoff : Int64) :
    Stays most (fun pool => pool.length ≤ body.mostSlots most + most)
      (do let pool ← body.generate fuel
          generations (Slot.force fuel) cmp cutoff fuel pool : Rolling ρ Pool) := by
  apply (known body).bind
  intro pool small context slots after within run
  obtain ⟨kept, added⟩ := stays_generations room fuel fuel pool context slots after within run
  exact ⟨kept, Nat.le_trans added (Nat.add_le_add_right small most)⟩

/-- A reservation bounds the copies as well. -/
theorem copies (known : GenerateStays ρ most fuel) (room : most < rollLimit) (body : Die)
    (count : Nat) :
    Stays most (fun pool => pool.length ≤ most * body.mostSlots most)
      (do reserve count
          let pools ← (List.replicate count body).mapM fun body => body.generate fuel
          return pools.flatten : Rolling ρ Pool) := by
  apply (Stays.reserve room count).bind
  intro _ covered
  have each := Stays.mapM fun (copy : Die) (member : copy ∈ List.replicate count body) => by
    rw [List.eq_of_mem_replicate member]
    exact known body
  apply each.bind
  intro pools small
  refine Stays.pure ?_
  have length := length_flatten_le small.2
  rw [small.1, List.length_replicate] at length
  exact Nat.le_trans length (Nat.mul_le_mul_right _ covered)

/-- Each die builds its pool in one of these ways. -/
theorem succ (known : GenerateStays ρ most fuel) (room : most < rollLimit) :
    GenerateStays ρ most (fuel + 1) := by
  intro die
  cases die <;> rw [Die.generate]
  case constant value => exact Stays.pure (Nat.le_refl 1)
  case dice count sides =>
    exact total_bind room fuel count fun count =>
      total_bind room fuel sides fun sides => faces room (quantity count) sides
  case add left right =>
    have pools := known.both left right id
    simp only [List.map_id] at pools
    exact pools
  case subtract left right => exact known.both left right .negative
  case multiply left right => exact fixed room fuel left right _
  case divide left right => exact fixed room fuel left right _
  case negative body => exact known.map body .negative
  case bonus op body amount => exact known.map body (.bonus op · amount)
  case explode cmp cutoff body =>
    exact total_bind room fuel cutoff fun cutoff => known.map body (.explode cmp cutoff)
  case threshold cmp cutoff body =>
    exact total_bind room fuel cutoff fun cutoff => known.map body (.threshold cmp cutoff)
  case keep selection count body =>
    exact total_bind room fuel count fun count => known.kept room body selection (quantity count)
  case again cmp cutoff body =>
    exact total_bind room fuel cutoff fun cutoff => known.again room body cmp cutoff
  case repetition body count =>
    exact total_bind room fuel count fun count => known.copies room body (quantity count)

end GenerateStays

/-- No die has more slots than its bound. -/
theorem Die.stays_generate [Roller ρ] {most : Nat} (room : most < rollLimit) (fuel : Nat) :
    GenerateStays ρ most fuel := by
  induction fuel with
  | zero =>
    intro die context pool after within run
    rw [Die.generate] at run
    cases run
  | succ fuel known => exact known.succ room

/-- So many faces of one die, repeated as often, and that repeated so often, and so on. -/
def Die.nested (number sides : Int64) : Nat → Die
  | 0 => dice (constant number) (constant sides)
  | depth + 1 => repetition (nested number sides depth) (constant number)

/-- The bound on nested repetitions is a power of the budget. -/
theorem Die.mostSlots_nested (number sides : Int64) (depth most : Nat) :
    (nested number sides depth).mostSlots most = most ^ (depth + 1) := by
  induction depth with
  | zero => rw [nested, mostSlots, Nat.zero_add, pow_one]
  | succ depth ih => rw [nested, mostSlots, ih, pow_succ' most (depth + 1)]

section

variable [Roller ρ] {context : Context ρ}

/-- Copies of a die that asks nothing of the context are its pool over and over. -/
theorem Die.generation_pow {body : Die} {pool : Pool}
    (made : body.GeneratesTo context (.ok pool) context) (count : Nat) :
    (body.generation ρ ^ count) context (.ok (List.replicate count pool).flatten) context := by
  induction count with
  | zero =>
    rw [pow_zero, Generation.one_iff]
    exact ⟨rfl, rfl⟩
  | succ count ih =>
    rw [pow_succ', Generation.mul_ok_iff]
    exact ⟨pool, context, made, _, ih, rfl⟩

/-- Repetitions inside each other are all granted, as none of them counts a roll. -/
theorem Die.nested_generatesTo {number sides : Int64}
    (covered : context.exceeds (context.after (quantity number)) = false) (depth : Nat) :
    (Die.nested number sides depth).GeneratesTo context
      (.ok (List.replicate (quantity number ^ (depth + 1)) (.face sides))) context := by
  induction depth with
  | zero =>
    rw [Nat.zero_add, pow_one]
    refine Die.dice_generatesTo_iff.2 (.inr ⟨number, context, constant_totalsTo number context,
      .inr ⟨sides, context, constant_totalsTo sides context, rfl, ?_⟩⟩)
    rw [covered]
    rfl
  | succ depth ih =>
    have copies := Die.generation_pow ih (quantity number)
    rw [List.flatten_replicate_replicate, ← pow_succ'] at copies
    refine (Die.repetition_generatesTo_iff number).2 ?_
    rw [covered]
    exact copies

end

/-- Under a budget every die has at most as many slots as its bound says. Repetitions inside each
other attain it without drawing a face or counting a roll. -/
theorem budget_bounds_pool (ρ : Type) [Roller ρ] :
    (∀ (die : Die) (most : Nat) (context after : Context ρ) (pool : Pool), most < rollLimit →
      context.budget = some most → context.rolls ≤ most →
      die.GeneratesTo context (.ok pool) after → pool.length ≤ die.mostSlots most) ∧
    ∀ (number sides : Int64) (most depth : Nat) (context : Context ρ), number.toInt = most →
      context.budget = some most → context.rolls = 0 →
      let die := Die.nested number sides depth
      die.slots context =
          some (.ok (List.replicate (most ^ (depth + 1)) (.face sides)), context) ∧
        die.mostSlots most = most ^ (depth + 1) := by
  constructor
  · rintro die most context after pool room bounded started ⟨fuel, run⟩
    exact (Die.stays_generate room fuel die context pool after ⟨bounded, started⟩ run).2
  · intro number sides most depth context same bounded unrolled die
    have count : quantity number = most := by
      rw [quantity, same, Int.toNat_natCast]
    have room : most < rollLimit := by
      have high := number.toInt_lt
      have limit : rollLimit = 18446744073709551615 := rfl
      omega
    have covered : context.exceeds (context.after (quantity number)) = false := by
      rw [Context.exceeds_eq_false_iff, bounded, count]
      rintro least ⟨⟩
      unfold Context.after
      omega
    have made : die.GeneratesTo context
        (.ok (List.replicate (most ^ (depth + 1)) (.face sides))) context := by
      rw [← count]
      exact Die.nested_generatesTo covered depth
    exact ⟨(die.slots_eq_some_iff room bounded).2 made,
      Die.mostSlots_nested number sides depth most⟩

/-- Three faces repeated three times, and that three times, are twenty-seven slots under a budget
of three rolls; slots that hit are at most three more. -/
theorem budget_bounds_pool_three :
    let start (taken : Nat) : Context FaceCycle := ⟨some 3, 0, ⟨[6, 1], by decide, taken⟩⟩
    let faces := Die.dice (.constant 1) (.constant 6)
    let hit : Slot := .drawn (.resolved 6) (.face 6)
    let miss : Slot := .drawn (.resolved 1) (.face 6)
    3 < rollLimit ∧ (start 0).budget = some 3 ∧ (start 0).rolls ≤ 3 ∧
    (Die.again .above (.constant 6) faces).GeneratesTo (start 0) (.ok [hit, miss])
      { start 2 with rolls := 3 } ∧
    [hit, miss].length ≤ (Die.again .above (.constant 6) faces).mostSlots 3 ∧
    (3 : Int64).toInt = (3 : Nat) ∧ (start 0).rolls = 0 ∧
    (Die.nested 3 6 2).slots (start 0) =
      some (.ok (List.replicate 27 (.face 6)), start 0) := by
  intro start faces hit miss
  have room : 3 < rollLimit := by decide
  have made : (Die.again .above (.constant 6) faces).GeneratesTo (start 0) (.ok [hit, miss])
      { start 2 with rolls := 3 } := ⟨5, by cbv⟩
  have same : (3 : Int64).toInt = (3 : Nat) := by decide
  obtain ⟨bound, attained⟩ := budget_bounds_pool FaceCycle
  have small := bound _ 3 (start 0) _ _ room rfl (Nat.zero_le 3) made
  have nested := (attained 3 6 3 2 (start 0) same rfl rfl).1
  exact ⟨room, rfl, Nat.zero_le 3, made, small, same, rfl, nested⟩

end DicePool
