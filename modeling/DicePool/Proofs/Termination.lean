import DicePool.Proofs.Drawing

/-!
# Evaluations under a budget end

Every turn of a loop counts a roll, and beyond the budget no roll is granted, so the
budget bounds the turns. How deep calls nest is bounded by the size of the die or slot,
which drawing does not change. Fuel that covers both never runs out, whatever is drawn.
-/

namespace DicePool

variable {ρ α β : Type}

/-- The rolls that are left of the budget, and the one that is refused. -/
def Context.left (most : Nat) (context : Context ρ) : Nat := most + 1 - context.rolls

/-- From every context with at most `left` rolls left, the computation ends with no more of them
left, and its value is good for as many as are left then. -/
def Ends (most left : Nat) (Good : α → Nat → Prop) (code : Rolling ρ α) : Prop :=
  ∀ context : Context ρ, context.budget = some most → context.left most ≤ left →
    ∃ result after, code context = some (result, after) ∧ after.budget = some most ∧
      after.left most ≤ left ∧ ∀ value, result = .ok value → Good value (after.left most)

namespace Ends

variable {most left : Nat} {Good : α → Nat → Prop} {Later : β → Nat → Prop}

/-- A value is reached at once. -/
theorem pure {value : α} (good : ∀ rest ≤ left, Good value rest) :
    Ends most left Good (Pure.pure value : Rolling ρ α) := by
  intro context bounded enough
  refine ⟨.ok value, context, rfl, bounded, enough, fun known same => ?_⟩
  cases same
  exact good _ enough

/-- A result that is known is reached at once. -/
theorem settle (result : Except RollError α) :
    Ends most left (fun _ _ => True) (settle result : Rolling ρ α) := by
  intro context bounded enough
  exact ⟨result, context, rfl, bounded, enough, fun _ _ => trivial⟩

/-- What is good is good in a weaker sense. -/
theorem mono {Weaker : α → Nat → Prop} {code : Rolling ρ α} (ends : Ends most left Good code)
    (weaker : ∀ value rest, Good value rest → Weaker value rest) : Ends most left Weaker code := by
  intro context bounded enough
  obtain ⟨result, after, run, still, fewer, good⟩ := ends context bounded enough
  exact ⟨result, after, run, still, fewer, fun value same => weaker value _ (good value same)⟩

/-- Two steps end when the first one does, and the second one does with the rolls it leaves. -/
theorem bind {code : Rolling ρ α} {next : α → Rolling ρ β} (first : Ends most left Good code)
    (others : ∀ value, ∀ rest ≤ left, Good value rest → Ends most rest Later (next value)) :
    Ends most left Later (code >>= next) := by
  intro context bounded enough
  obtain ⟨result, reached, run, still, fewer, good⟩ := first context bounded enough
  rw [Rolling.bind_apply, run]
  cases result with
  | error error =>
    refine ⟨.error error, reached, rfl, still, fewer, fun value same => ?_⟩
    cases same
  | ok value =>
    obtain ⟨result, after, done, stays, least, last⟩ :=
      others value _ fewer (good value rfl) reached still (Nat.le_refl _)
    exact ⟨result, after, done, stays, Nat.le_trans least fewer, last⟩

/-- A roll that is granted is one less to be left. -/
theorem countRoll (room : most < rollLimit) :
    Ends most left (fun _ rest => rest < left) (countRoll : Rolling ρ Unit) := by
  intro context bounded enough
  have counter : context.after 1 = min (context.rolls + 1) rollLimit := rfl
  have refuses : context.exceeds (context.after 1) = decide (most < context.after 1) := by
    unfold Context.exceeds
    rw [bounded]
  refine ⟨_, _, rfl, bounded, ?_, fun value granted => ?_⟩
  · unfold Context.left at enough ⊢
    show most + 1 - context.after 1 ≤ left
    omega
  · have within : ¬most < context.after 1 := by
      intro beyond
      rw [refuses, if_pos (decide_eq_true beyond)] at granted
      cases granted
    unfold Context.left at enough ⊢
    show most + 1 - context.after 1 < left
    omega

/-- Reserving rolls takes none of them. -/
theorem reserve (count : Nat) :
    Ends most left (fun _ _ => True) (reserve count : Rolling ρ Unit) := by
  intro context bounded enough
  exact ⟨_, context, rfl, bounded, enough, fun _ _ => trivial⟩

/-- Rolling a face takes one roll at most. -/
theorem rollFace [Roller ρ] (room : most < rollLimit) (sides : Int64) :
    Ends most left (fun _ _ => True) (rollFace sides : Rolling ρ Int64) := by
  apply (settle _).bind
  intro sides rest _ _
  apply (countRoll room).bind
  intro _ rest _ _ context bounded enough
  exact ⟨_, _, rfl, bounded, enough, fun _ _ => trivial⟩

/-- A list of steps ends when each of them does with whatever rolls are left. -/
theorem mapM {Each : β → Prop} {step : α → Rolling ρ β} {values : List α}
    (each : ∀ value ∈ values, ∀ rest ≤ left, Ends most rest (fun result _ => Each result)
      (step value)) :
    Ends most left (fun results _ => ∀ result ∈ results, Each result) (values.mapM step) := by
  induction values generalizing left with
  | nil => exact pure (by simp)
  | cons value values ih =>
    rw [List.mapM_cons]
    have first := each value List.mem_cons_self left (Nat.le_refl left)
    apply first.bind
    intro head rest fewer good
    have behind := ih fun other member less le =>
      each other (List.mem_cons_of_mem _ member) less (Nat.le_trans le fewer)
    apply behind.bind
    intro tail _ _ others
    exact pure fun _ _ => List.forall_mem_cons.2 ⟨good, others⟩

/-- So many faces, once the budget is known to cover them. -/
theorem faces (count : Nat) (sides : Int64) {size : Nat} (room : 1 ≤ size) :
    Ends most left (fun pool _ => ∀ slot ∈ pool, slot.size ≤ size)
      (do DicePool.reserve count
          return List.replicate count (.face sides) : Rolling ρ Pool) := by
  apply (reserve count).bind
  intro _ _ _ _
  apply pure
  intro _ _ slot member
  rw [List.eq_of_mem_replicate member, Slot.size]
  exact room

end Ends

/-- What ends with so much fuel under the budget, and how large its slots are. -/
structure EndsWith (ρ : Type) [Roller ρ] (most fuel : Nat) : Prop where
  /-- Generating a die ends, with slots no larger than the die. -/
  generate : ∀ die : Die, 2 * die.size + most + 2 ≤ fuel → ∀ left ≤ most + 1,
    Ends most left (fun pool _ => ∀ slot ∈ pool, slot.size ≤ die.size)
      (die.generate fuel : Rolling ρ Pool)
  /-- Totalling a die ends. -/
  total : ∀ die : Die, 2 * die.size + most + 3 ≤ fuel → ∀ left ≤ most + 1,
    Ends most left (fun _ _ => True) (die.total fuel : Rolling ρ Int64)
  /-- Drawing from a slot ends and keeps its size. -/
  draw : ∀ slot : Slot, 2 * slot.size + most + 2 ≤ fuel → ∀ left ≤ most + 1,
    Ends most left (fun entry _ => entry.2.size = slot.size)
      (drawFrom (Slot.force fuel) slot : Rolling ρ (Int64 × Slot))

/-- Draws from slots of at most the given size end, and leave the slots as large as they are. -/
def DrawsEnd (most size : Nat) (force : Slot → Table ρ Forced) : Prop :=
  ∀ slot : Slot, slot.size ≤ size → ∀ left ≤ most + 1,
    Ends most left (fun entry _ => entry.2.size = slot.size) (drawFrom force slot)

section

variable {most size : Nat} {force : Slot → Table ρ Forced} (draws : DrawsEnd most size force)
  (room : most < rollLimit) (cmp : Comparison) (cutoff : Int64)

include draws room in
/-- Every turn of an exploding slot leaves fewer rolls. -/
theorem DrawsEnd.explodeFrom (turns : Nat) :
    ∀ (left : Nat) (total last : Int64) (slot : Slot), left ≤ most + 1 → left < turns →
      slot.size ≤ size → Ends most left (fun entry _ => entry.2.size = slot.size)
        (drawFrom (explodeFrom force cmp cutoff turns total last) slot) := by
  induction turns with
  | zero =>
    intro left total last slot inside covered
    exact absurd covered (Nat.not_lt_zero left)
  | succ turns ih =>
    intro left total last slot inside covered small
    cases holds : cmp.holds last cutoff with
    | false =>
      rw [drawFrom_explodeFrom_miss _ _ _ _ _ _ _ holds]
      exact Ends.pure fun _ _ => rfl
    | true =>
      rw [drawFrom_explodeFrom_hit _ _ _ _ _ _ _ holds]
      apply (Ends.countRoll room).bind
      intro _ granted _ fewer
      apply (draws slot small granted (by omega)).bind
      intro entry drawn le same
      apply (Ends.settle _).bind
      intro total rest le' _
      have again := ih rest total entry.1 entry.2 (by omega) (by omega) (by omega)
      exact again.mono fun last _ still => still.trans same

include draws room in
/-- A draw that hits leaves fewer rolls. -/
theorem DrawsEnd.drawCounting {left : Nat} (inside : left ≤ most + 1) {slot : Slot}
    (small : slot.size ≤ size) :
    Ends most left (fun entry rest => entry.2.size ≤ size ∧
        (cmp.holds entry.1 cutoff = true → rest < left))
      (do let drawn ← drawFrom force slot
          if cmp.holds drawn.1 cutoff then countRoll
          return drawn) := by
  apply (draws slot small left inside).bind
  intro entry rest le same
  have bounded : entry.2.size ≤ size := by
    rw [same]
    exact small
  cases holds : cmp.holds entry.1 cutoff with
  | false =>
    refine Ends.pure fun _ _ => ⟨bounded, fun hit => ?_⟩
    rw [holds] at hit
    cases hit
  | true =>
    apply (Ends.countRoll room).bind
    intro _ granted _ fewer
    exact Ends.pure fun last le' => ⟨bounded, fun _ => by omega⟩

include draws room in
/-- A generation with a hit leaves fewer rolls. -/
theorem DrawsEnd.drawGeneration {generation : Pool}
    (small : ∀ slot ∈ generation, slot.size ≤ size) :
    ∀ left ≤ most + 1, Ends most left
      (fun drawn rest => (∀ entry ∈ drawn, entry.2.size ≤ size) ∧
        ((∃ entry ∈ drawn, cmp.holds entry.1 cutoff = true) → rest < left))
      (drawGeneration force cmp cutoff generation) := by
  unfold DicePool.drawGeneration
  induction generation with
  | nil => exact fun left inside => Ends.pure fun _ _ => ⟨by simp, by simp⟩
  | cons slot rest ih =>
    intro left inside
    obtain ⟨first, others⟩ := List.forall_mem_cons.1 small
    rw [List.mapM_cons]
    apply (draws.drawCounting room cmp cutoff inside first).bind
    intro entry granted le good
    apply (ih others granted (by omega)).bind
    intro tail last le' behind
    refine Ends.pure fun least le'' => ⟨List.forall_mem_cons.2 ⟨good.1, behind.1⟩, ?_⟩
    rintro ⟨hit, member, holds⟩
    rcases List.mem_cons.1 member with rfl | among
    · have fewer := good.2 holds
      omega
    · have fewer := behind.2 ⟨hit, among, holds⟩
      omega

include draws room in
/-- Every generation but the last leaves fewer rolls. -/
theorem DrawsEnd.generations (turns : Nat) :
    ∀ (left : Nat) (generation : Pool), left ≤ most + 1 → left < turns →
      (∀ slot ∈ generation, slot.size ≤ size) →
      Ends most left (fun pool _ => ∀ slot ∈ pool, slot.size ≤ size + 1)
        (DicePool.generations force cmp cutoff turns generation) := by
  induction turns with
  | zero =>
    intro left generation inside covered
    exact absurd covered (Nat.not_lt_zero left)
  | succ turns ih =>
    intro left generation inside covered small
    cases generation with
    | nil =>
      rw [generations_nil]
      exact Ends.pure (by simp)
    | cons slot others =>
      rw [generations_succ]
      have now := draws.drawGeneration room cmp cutoff small left inside
      apply now.bind
      intro drawn rest le good
      have hits : ∀ slot ∈ (drawn.filter fun entry => cmp.holds entry.1 cutoff).map Prod.snd,
          slot.size ≤ size := by
        intro slot member
        obtain ⟨entry, among, rfl⟩ := List.mem_map.1 member
        exact good.1 entry (List.mem_filter.1 among).1
      have later : Ends most rest (fun pool _ => ∀ slot ∈ pool, slot.size ≤ size + 1)
          (DicePool.generations force cmp cutoff turns
            ((drawn.filter fun entry => cmp.holds entry.1 cutoff).map Prod.snd)) := by
        by_cases some : ∃ entry ∈ drawn, cmp.holds entry.1 cutoff = true
        · have fewer := good.2 some
          exact ih rest _ (by omega) (by omega) hits
        · have none : (drawn.filter fun entry => cmp.holds entry.1 cutoff) = [] :=
            List.filter_eq_nil_iff.2 fun entry member hit => some ⟨entry, member, hit⟩
          rw [none, List.map_nil, generations_nil]
          exact Ends.pure (by simp)
      refine later.bind fun later _ _ behind => Ends.pure fun _ _ => ?_
      refine List.forall_mem_append.2 ⟨List.forall_mem_map.2 fun entry member => ?_, behind⟩
      exact Nat.succ_le_succ (good.1 entry member)

end

namespace EndsWith

variable [Roller ρ] {most fuel : Nat}

/-- No die and no slot is so small that it needs no fuel. -/
theorem zero : EndsWith ρ most 0 where
  generate die enough := absurd enough (by omega)
  total die enough := absurd enough (by omega)
  draw slot enough := absurd enough (by omega)

/-- Fuel for a size covers the draws from all slots of that size. -/
theorem draws (known : EndsWith ρ most fuel) {size : Nat} (enough : 2 * size + most + 2 ≤ fuel) :
    DrawsEnd (ρ := ρ) most size (Slot.force fuel) := fun slot small =>
  known.draw slot (by omega)

/-- Drawing from a whole pool ends when its slots are small. -/
theorem drawAll (known : EndsWith ρ most fuel) {size : Nat} (enough : 2 * size + most + 2 ≤ fuel)
    {pool : Pool} (small : ∀ slot ∈ pool, slot.size ≤ size) {left : Nat}
    (inside : left ≤ most + 1) :
    Ends most left (fun drawn _ => ∀ entry ∈ drawn, entry.2.size ≤ size)
      (DicePool.drawAll (Slot.force fuel) pool : Rolling ρ (List (Int64 × Slot))) := by
  refine Ends.mapM fun slot member rest le => ?_
  refine (known.draws enough slot (small slot member) rest (by omega)).mono fun entry _ same => ?_
  rw [same]
  exact small slot member

/-- A die that decides how a pool is built is totalled first, which leaves no more rolls. -/
theorem total_bind (known : EndsWith ρ most fuel) {die : Die}
    (enough : 2 * die.size + most + 3 ≤ fuel) {left : Nat} (inside : left ≤ most + 1)
    {Good : Pool → Nat → Prop} {next : Int64 → Rolling ρ Pool}
    (rest : ∀ value, ∀ less ≤ most + 1, Ends most less Good (next value)) :
    Ends most left Good (die.total fuel >>= next) :=
  (known.total die enough left inside).bind fun value less le _ =>
    rest value less (Nat.le_trans le inside)

/-- One value of two totals. -/
theorem generate_fixed (known : EndsWith ρ most fuel) {first second : Die}
    (enough : 2 * first.size + most + 3 ≤ fuel) (enough' : 2 * second.size + most + 3 ≤ fuel)
    (combine : Int64 → Int64 → Except RollError Int64) {left size : Nat} (inside : left ≤ most + 1)
    (room : 1 ≤ size) :
    Ends most left (fun pool _ => ∀ slot ∈ pool, slot.size ≤ size)
      (do let one ← first.total fuel
          let other ← second.total fuel
          return [.fixed (← settle (combine one other))] : Rolling ρ Pool) := by
  apply known.total_bind enough inside
  intro one less within
  apply known.total_bind enough' within
  intro other less within
  apply (Ends.settle _).bind
  intro value _ _ _
  apply Ends.pure
  intro _ _ slot member
  rw [List.mem_singleton.1 member, Slot.size]
  exact room

/-- A pool whose slots are wrapped. -/
theorem generate_map (known : EndsWith ρ most fuel) {body : Die}
    (enough : 2 * body.size + most + 2 ≤ fuel) {wrap : Slot → Slot} {size : Nat}
    (small : ∀ slot, slot.size ≤ body.size → (wrap slot).size ≤ size) {left : Nat}
    (inside : left ≤ most + 1) :
    Ends most left (fun pool _ => ∀ slot ∈ pool, slot.size ≤ size)
      (do let pool ← body.generate fuel
          return pool.map wrap : Rolling ρ Pool) := by
  apply (known.generate body enough left inside).bind
  intro pool _ _ bounds
  refine Ends.pure fun _ _ => List.forall_mem_map.2 fun slot member => ?_
  exact small slot (bounds slot member)

/-- Two pools, the second one wrapped. -/
theorem generate_both (known : EndsWith ρ most fuel) (first second : Die) (wrap : Slot → Slot)
    (enough : 2 * first.size + most + 2 ≤ fuel) (enough' : 2 * second.size + most + 2 ≤ fuel)
    {size : Nat} (room : first.size ≤ size)
    (small : ∀ slot, slot.size ≤ second.size → (wrap slot).size ≤ size) {left : Nat}
    (inside : left ≤ most + 1) :
    Ends most left (fun pool _ => ∀ slot ∈ pool, slot.size ≤ size)
      (do let front ← first.generate fuel
          let behind ← second.generate fuel
          return front ++ behind.map wrap : Rolling ρ Pool) := by
  apply (known.generate first enough left inside).bind
  intro front less le bounds
  apply (known.generate second enough' less (Nat.le_trans le inside)).bind
  intro behind _ _ bounds'
  refine Ends.pure fun _ _ =>
    List.forall_mem_append.2 ⟨fun slot member => ?_, List.forall_mem_map.2 fun slot member => ?_⟩
  · exact Nat.le_trans (bounds slot member) room
  · exact small slot (bounds' slot member)

/-- The selected slots, which remember what was drawn from them. -/
theorem generate_kept (known : EndsWith ρ most fuel) {body : Die}
    (enough : 2 * body.size + most + 2 ≤ fuel) (selection : Selection) (count : Nat) {size : Nat}
    (room : body.size + 1 ≤ size) {left : Nat} (inside : left ≤ most + 1) :
    Ends most left (fun pool _ => ∀ slot ∈ pool, slot.size ≤ size)
      (do let pool ← body.generate fuel
          let drawn ← DicePool.drawAll (Slot.force fuel) pool
          return (selection.take count drawn).map remember : Rolling ρ Pool) := by
  apply (known.generate body enough left inside).bind
  intro pool less le small
  apply (known.drawAll enough small (Nat.le_trans le inside)).bind
  intro drawn _ _ bounds
  refine Ends.pure fun _ _ => List.forall_mem_map.2 fun entry member => ?_
  exact Nat.le_trans (Nat.succ_le_succ (bounds entry (mem_of_mem_take member))) room

/-- The slots of a pool, and those that their hits add. -/
theorem generate_again (known : EndsWith ρ most fuel) (room : most < rollLimit) {body : Die}
    (enough : 2 * body.size + most + 2 ≤ fuel) (cmp : Comparison) (cutoff : Int64) {left : Nat}
    (inside : left ≤ most + 1) :
    Ends most left (fun pool _ => ∀ slot ∈ pool, slot.size ≤ body.size + 1)
      (do let pool ← body.generate fuel
          generations (Slot.force fuel) cmp cutoff fuel pool : Rolling ρ Pool) := by
  apply (known.generate body enough left inside).bind
  intro pool less le small
  have draws : DrawsEnd (ρ := ρ) most body.size (Slot.force fuel) := known.draws enough
  exact draws.generations room cmp cutoff fuel less pool (by omega) (by omega) small

/-- So many pools of one die. -/
theorem generate_copies (known : EndsWith ρ most fuel) {body : Die}
    (enough : 2 * body.size + most + 2 ≤ fuel) (count : Nat) {left : Nat}
    (inside : left ≤ most + 1) :
    Ends most left (fun pool _ => ∀ slot ∈ pool, slot.size ≤ body.size)
      (do reserve count
          let pools ← (List.replicate count body).mapM fun body => body.generate fuel
          return pools.flatten : Rolling ρ Pool) := by
  apply (Ends.reserve count).bind
  intro _ less le _
  have copies : Ends (ρ := ρ) most less
      (fun pools _ => ∀ pool ∈ pools, ∀ slot ∈ pool, slot.size ≤ body.size)
      ((List.replicate count body).mapM fun body => body.generate fuel) := by
    refine Ends.mapM fun die member rest le' => ?_
    rw [List.eq_of_mem_replicate member]
    exact known.generate body enough rest (by omega)
  refine copies.bind fun pools _ _ small => Ends.pure fun _ _ slot member => ?_
  obtain ⟨pool, among, within⟩ := List.mem_flatten.1 member
  exact small pool among slot within

/-- Each die builds its pool in one of these ways. -/
theorem generate_succ (known : EndsWith ρ most fuel) (room : most < rollLimit) (die : Die)
    (enough : 2 * die.size + most + 2 ≤ fuel + 1) (left : Nat) (inside : left ≤ most + 1) :
    Ends most left (fun pool _ => ∀ slot ∈ pool, slot.size ≤ die.size)
      (die.generate (fuel + 1) : Rolling ρ Pool) := by
  cases die <;> simp only [Die.size] at enough ⊢ <;> rw [Die.generate]
  case constant value => exact Ends.pure (by simp [Slot.size])
  case dice count sides =>
    apply known.total_bind (by omega) inside
    intro count less within
    apply known.total_bind (by omega) within
    intro sides less within
    exact Ends.faces _ sides (by omega)
  case add first second =>
    have both := known.generate_both first second id (by omega) (by omega) (by omega)
      (fun slot small => Nat.le_trans small (Nat.le_add_left _ first.size)) inside
    simp only [List.map_id] at both
    exact both.mono fun pool _ small slot member => Nat.le_trans (small slot member) (by omega)
  case subtract first second =>
    apply known.generate_both first second .negative (by omega) (by omega) (by omega) _ inside
    intro slot small
    rw [Slot.size]
    omega
  case multiply first second =>
    exact known.generate_fixed (by omega) (by omega) _ inside (by omega)
  case divide first second =>
    exact known.generate_fixed (by omega) (by omega) _ inside (by omega)
  case negative body =>
    apply known.generate_map (by omega) _ inside
    intro slot small
    exact Nat.succ_le_succ small
  case bonus op body amount =>
    apply known.generate_map (by omega) _ inside
    intro slot small
    rw [Slot.size]
    omega
  case explode cmp cutoff body =>
    apply known.total_bind (by omega) inside
    intro cutoff less within
    apply known.generate_map (by omega) _ within
    intro slot small
    rw [Slot.size]
    omega
  case threshold cmp cutoff body =>
    apply known.total_bind (by omega) inside
    intro cutoff less within
    apply known.generate_map (by omega) _ within
    intro slot small
    rw [Slot.size]
    omega
  case keep selection count body =>
    apply known.total_bind (by omega) inside
    intro count less within
    exact known.generate_kept (by omega) selection _ (by omega) within
  case again cmp cutoff body =>
    apply known.total_bind (by omega) inside
    intro cutoff less within
    refine (known.generate_again room (by omega) cmp cutoff within).mono ?_
    intro pool _ small slot member
    exact Nat.le_trans (small slot member) (by omega)
  case repetition body count =>
    apply known.total_bind (by omega) inside
    intro count less within
    refine (known.generate_copies (by omega) _ within).mono ?_
    intro pool _ small slot member
    exact Nat.le_trans (small slot member) (by omega)

/-- A total ends when its pool and the draws from it do. -/
theorem total_succ (known : EndsWith ρ most fuel) (die : Die)
    (enough : 2 * die.size + most + 3 ≤ fuel + 1) (left : Nat) (inside : left ≤ most + 1) :
    Ends most left (fun _ _ => True) (die.total (fuel + 1) : Rolling ρ Int64) := by
  rw [Die.total]
  apply (known.generate die (by omega) left inside).bind
  intro pool first le small
  apply (known.drawAll (by omega) small (by omega)).bind
  intro drawn _ _ _
  exact Ends.settle _

/-- Each slot ends when what it draws from does. -/
theorem draw_succ (known : EndsWith ρ most fuel) (room : most < rollLimit) (slot : Slot)
    (enough : 2 * slot.size + most + 2 ≤ fuel + 1) (left : Nat) (inside : left ≤ most + 1) :
    Ends most left (fun entry _ => entry.2.size = slot.size)
      (drawFrom (Slot.force (fuel + 1)) slot : Rolling ρ (Int64 × Slot)) := by
  cases slot with
  | fixed value =>
    rw [drawFrom_fixed]
    exact Ends.pure fun _ _ => rfl
  | face sides =>
    rw [drawFrom_face]
    exact (Ends.rollFace room sides).bind fun value _ _ _ => Ends.pure fun _ _ => rfl
  | negative slot =>
    rw [drawFrom_negative]
    simp only [Slot.size] at enough ⊢
    apply (known.draw slot (by omega) left inside).bind
    intro entry _ _ same
    apply (Ends.settle _).bind
    intro value _ _ _
    exact Ends.pure fun _ _ => congrArg (· + 1) same
  | bonus op slot amount =>
    rw [drawFrom_bonus]
    simp only [Slot.size] at enough ⊢
    apply (known.draw slot (by omega) left inside).bind
    intro entry first le same
    apply (known.total amount (by omega) first (by omega)).bind
    intro extra _ _ _
    apply (Ends.settle _).bind
    intro value _ _ _
    exact Ends.pure fun _ _ => congrArg (· + amount.size + 1) same
  | explode cmp cutoff slot =>
    rw [drawFrom_explode]
    simp only [Slot.size] at enough ⊢
    apply (known.draw slot (by omega) left inside).bind
    intro entry first le same
    have draws : DrawsEnd (ρ := ρ) most slot.size (Slot.force fuel) := known.draws (by omega)
    have loop := draws.explodeFrom room cmp cutoff fuel first entry.1 entry.1 entry.2 (by omega)
      (by omega) (by omega)
    apply loop.bind
    intro last _ _ still
    exact Ends.pure fun _ _ => congrArg (· + 1) (still.trans same)
  | threshold cmp cutoff slot =>
    rw [drawFrom_threshold]
    simp only [Slot.size] at enough ⊢
    apply (known.draw slot (by omega) left inside).bind
    intro entry _ _ same
    exact Ends.pure fun _ _ => congrArg (· + 1) same
  | drawn memo slot =>
    simp only [Slot.size] at enough ⊢
    cases memo with
    | resolved value =>
      rw [drawFrom_resolved]
      exact Ends.pure fun _ _ => rfl
    | spent =>
      rw [drawFrom_spent]
      apply (known.draw slot (by omega) left inside).bind
      intro entry _ _ same
      exact Ends.pure fun _ _ => congrArg (· + 1) same

/-- The values of all slots of a die. -/
theorem values (known : EndsWith ρ most fuel) (die : Die)
    (enough : 2 * die.size + most + 2 ≤ fuel) :
    Ends most (most + 1) (fun _ _ => True) (die.values fuel : Rolling ρ (List Int64)) := by
  apply (known.generate die enough _ (Nat.le_refl _)).bind
  intro pool _ inside small
  apply (known.drawAll enough small inside).bind
  intro drawn _ _ _
  exact Ends.pure fun _ _ => trivial

end EndsWith

/-- Whatever the fuel is, dice and slots that are small enough for it and the budget end. -/
theorem endsWith (ρ : Type) [Roller ρ] {most : Nat} (room : most < rollLimit) (fuel : Nat) :
    EndsWith ρ most fuel := by
  induction fuel with
  | zero => exact EndsWith.zero
  | succ fuel known => exact ⟨known.generate_succ room, known.total_succ, known.draw_succ room⟩

/-- What ends with a whole budget left ends in every context with that budget. -/
theorem Ends.run {most : Nat} {Good : α → Nat → Prop} {code : Rolling ρ α}
    (ends : Ends most (most + 1) Good code) {context : Context ρ}
    (bounded : context.budget = some most) :
    ∃ result after, code context = some (result, after) ∧ after.budget = some most := by
  obtain ⟨result, after, run, still, -⟩ := ends context bounded (Nat.sub_le _ _)
  exact ⟨result, after, run, still⟩

section

variable [Roller ρ] {most : Nat} (room : most < rollLimit) {context : Context ρ}
  (bounded : context.budget = some most)

include room bounded

/-- Under a budget every roll ends and keeps the budget. -/
theorem Die.roll_ends (die : Die) :
    ∃ result after, die.roll context = some (result, after) ∧ after.budget = some most := by
  rw [Die.roll_apply, bounded]
  have known := endsWith ρ room (fuelFor (some most) die.size)
  refine (known.total die ?_ (most + 1) (Nat.le_refl _)).run rfl
  simp only [fuelFor, Option.getD_some]
  omega

/-- Under a budget every pool ends and keeps the budget. -/
theorem Die.pool_ends (die : Die) :
    ∃ result after, die.pool context = some (result, after) ∧ after.budget = some most := by
  rw [Die.pool_apply, bounded]
  have known := endsWith ρ room (fuelFor (some most) die.size)
  have enough : 2 * die.size + most + 2 ≤ fuelFor (some most) die.size := by
    simp only [fuelFor, Option.getD_some]
    omega
  exact (known.values die enough).run rfl

/-- Under a budget generating ends and keeps the budget. -/
theorem Die.slots_ends (die : Die) :
    ∃ result after, die.slots context = some (result, after) ∧ after.budget = some most := by
  rw [Die.slots_apply, bounded]
  have known := endsWith ρ room (fuelFor (some most) die.size)
  refine (known.generate die ?_ (most + 1) (Nat.le_refl _)).run bounded
  simp only [fuelFor, Option.getD_some]
  omega

/-- Under a budget drawing from a slot ends and keeps the budget. -/
theorem Slot.draw_ends (slot : Slot) :
    ∃ forced after, slot.draw context = some (forced, after) ∧ after.budget = some most := by
  rw [Slot.draw_apply, bounded]
  have known := endsWith ρ room (fuelFor (some most) slot.size)
  have enough : 2 * slot.size + most + 2 ≤ fuelFor (some most) slot.size := by
    simp only [fuelFor, Option.getD_some]
    omega
  obtain ⟨result, after, run, still⟩ :=
    (known.draw slot enough (most + 1) (Nat.le_refl _)).run bounded
  rw [drawFrom_apply] at run
  cases forced : slot.force (fuelFor (some most) slot.size) context with
  | none =>
    rw [forced] at run
    cases run
  | some out =>
    rw [forced] at run
    cases run
    exact ⟨out.1, out.2, rfl, still⟩

end

end DicePool
