import DicePool.Proofs.WiderBudget

/-!
# Reserved rolls

A die with a count makes sure that the budget covers its faces long before it takes them. It
refuses nothing that would have fitted: of an evaluation that succeeds, every face that a slot
owes is taken in the end. The rolls owed are carried through the evaluation as a debt, and so
the counter in the end is above whatever was reserved on the way. Only a repetition reserves
rolls that nobody owes.
-/

namespace DicePool

variable {ρ α β : Type}

/-- Whether there is no repetition anywhere in a die. -/
def Die.RepetitionFree : Die → Prop
  | constant _ => True
  | dice count sides => count.RepetitionFree ∧ sides.RepetitionFree
  | add left right | subtract left right | multiply left right | divide left right =>
    left.RepetitionFree ∧ right.RepetitionFree
  | negative body => body.RepetitionFree
  | bonus _ body amount => body.RepetitionFree ∧ amount.RepetitionFree
  | explode _ cutoff body | again _ cutoff body | threshold _ cutoff body =>
    cutoff.RepetitionFree ∧ body.RepetitionFree
  | keep _ count body => count.RepetitionFree ∧ body.RepetitionFree
  | repetition _ _ => False

namespace Slot

/-- Whether there is no repetition in the dice of a slot. -/
def RepetitionFree : Slot → Prop
  | fixed _ | face _ => True
  | negative slot | explode _ _ slot | threshold _ _ slot | drawn _ slot => slot.RepetitionFree
  | bonus _ slot amount => slot.RepetitionFree ∧ amount.RepetitionFree

/-- The faces that the next draw from a slot takes at least. -/
def owed : Slot → Nat
  | fixed _ => 0
  | face _ => 1
  | negative slot | bonus _ slot _ | explode _ _ slot | threshold _ _ slot => slot.owed
  | drawn (.resolved _) _ => 0
  | drawn .spent slot => slot.owed

end Slot

/-- The shares of all elements of a list. -/
def shares (share : α → Nat) : List α → Nat
  | [] => 0
  | element :: elements => share element + shares share elements

/-- The faces that drawing a whole pool takes at least. -/
abbrev owed (pool : Pool) : Nat := shares Slot.owed pool

/-- Two pools owe what each of them owes. -/
theorem owed_append (left right : Pool) : owed (left ++ right) = owed left + owed right := by
  induction left with
  | nil => exact (Nat.zero_add _).symm
  | cons slot left ih =>
    show slot.owed + owed (left ++ right) = slot.owed + owed left + owed right
    rw [ih, Nat.add_assoc]

/-- Every face that is not yet drawn is owed. -/
theorem owed_replicate_face (count : Nat) (sides : Int64) :
    owed (List.replicate count (.face sides)) = count := by
  induction count with
  | zero => rfl
  | succ count ih =>
    show 1 + owed (List.replicate count (.face sides)) = count + 1
    rw [ih, Nat.add_comm]

/-- Slots that owe what the slots inside them owe. -/
theorem owed_map {wrap : Slot → Slot} (same : ∀ slot, (wrap slot).owed = slot.owed) (pool : Pool) :
    owed (pool.map wrap) = owed pool := by
  induction pool with
  | nil => rfl
  | cons slot pool ih =>
    show (wrap slot).owed + owed (pool.map wrap) = slot.owed + owed pool
    rw [ih, same]

/-- Slots that remember their draws owe nothing. -/
theorem owed_map_remember (drawn : List (Int64 × Slot)) : owed (drawn.map remember) = 0 := by
  induction drawn with
  | nil => rfl
  | cons entry drawn ih =>
    show 0 + owed (drawn.map remember) = 0
    rw [ih]

/-- A computation that succeeds without a budget takes over a debt and leaves one, and counts
whatever it does not leave. It does the same under every budget that covers both. -/
def Pays (debt : Nat) (owed : α → Nat) (Kept : α → Prop) (code : Rolling ρ α) : Prop :=
  ∀ (context : Context ρ) (value : α) (after : Context ρ), context.budget = none →
    code context = some (.ok value, after) →
    after.budget = none ∧ Kept value ∧ context.after debt ≤ after.after (owed value) ∧
      ∀ most, after.after (owed value) ≤ most →
        code (context.under (some most)) = some (.ok value, after.under (some most))

namespace Pays

variable {debt : Nat} {owed : α → Nat} {Kept : α → Prop} {code : Rolling ρ α}

/-- Without fuel there is nothing to pay. -/
theorem exhausted : Pays debt owed Kept (exhausted : Rolling ρ α) := by
  intro context value after _ run
  cases run

/-- A value pays what it still owes. -/
theorem pure {value : α} (kept : Kept value) (left : debt ≤ owed value) :
    Pays debt owed Kept (Pure.pure value : Rolling ρ α) := by
  intro context known after unbounded run
  cases run
  refine ⟨unbounded, kept, ?_, fun most _ => rfl⟩
  unfold Context.after
  omega

/-- A result that is known pays nothing and owes nothing. -/
theorem settle (result : Except RollError α) :
    Pays 0 (fun _ => 0) (fun _ => True) (settle result : Rolling ρ α) := by
  intro context value after unbounded run
  cases run
  exact ⟨unbounded, trivial, Nat.le_refl _, fun most _ => rfl⟩

/-- What is left is taken over. -/
theorem bind {between : α → Nat} {Middle : α → Prop} {next : α → Rolling ρ β} {last : β → Nat}
    {Last : β → Prop} (first : Pays debt between Middle code)
    (rest : ∀ value, Middle value → Pays (between value) last Last (next value)) :
    Pays debt last Last (code >>= next) := by
  intro context final after unbounded run
  obtain ⟨value, reached, start, run⟩ := Rolling.bind_eq_ok_iff.1 run
  obtain ⟨free, kept, paid, again⟩ := first context value reached unbounded start
  obtain ⟨still, good, more, further⟩ := rest value kept reached final after free run
  refine ⟨still, good, Nat.le_trans paid more, fun most enough => ?_⟩
  rw [Rolling.bind_apply, again most (Nat.le_trans more enough)]
  exact further most enough

/-- A smaller debt is paid too, and more may be owed behind it. -/
theorem mono {less : Nat} {more : α → Nat} {Weaker : α → Prop} (pays : Pays debt owed Kept code)
    (lower : less ≤ debt) (higher : ∀ value, Kept value → owed value ≤ more value)
    (weaker : ∀ value, Kept value → Weaker value) : Pays less more Weaker code := by
  intro context value after unbounded run
  obtain ⟨free, kept, paid, again⟩ := pays context value after unbounded run
  have grown : after.after (owed value) ≤ after.after (more value) := by
    have left := higher value kept
    unfold Context.after
    omega
  have smaller : context.after less ≤ context.after debt := by
    unfold Context.after
    omega
  refine ⟨free, weaker value kept, Nat.le_trans smaller (Nat.le_trans paid grown), ?_⟩
  exact fun most enough => again most (Nat.le_trans grown enough)

/-- A debt that the computation has nothing to do with is left as it is, also where the counter
stays at its limit. -/
theorem frame (pays : Pays debt owed Kept code) (other : Nat) :
    Pays (debt + other) (fun value => owed value + other) Kept code := by
  intro context value after unbounded run
  obtain ⟨free, kept, paid, again⟩ := pays context value after unbounded run
  have grown : after.after (owed value) ≤ after.after (owed value + other) := by
    unfold Context.after
    omega
  refine ⟨free, kept, ?_, fun most enough => again most (Nat.le_trans grown enough)⟩
  show context.after (debt + other) ≤ after.after (owed value + other)
  unfold Context.after at paid ⊢
  omega

/-- A counted roll pays for one. -/
theorem countRoll : Pays 1 (fun _ => 0) (fun _ => True) (countRoll : Rolling ρ Unit) := by
  intro context value after unbounded run
  have free := Context.exceeds_of_unbounded unbounded (context.after 1)
  have counted : after = context.counted := by
    rw [DicePool.countRoll, free] at run
    cases run
    rfl
  subst counted
  have shown : context.counted.after 0 = context.after 1 := by
    unfold Context.counted Context.after
    dsimp only
    omega
  refine ⟨unbounded, trivial, Nat.le_of_eq shown.symm, fun most enough => ?_⟩
  have covered : (context.under (some most)).exceeds (context.after 1) = false := by
    rw [shown] at enough
    exact decide_eq_false (Nat.not_lt_of_le enough)
  show some (if (context.under (some most)).exceeds (context.after 1) then _ else _, _) = _
  rw [covered]
  rfl

/-- Rolls that are made sure of have to be owed. -/
theorem reserve (count : Nat) :
    Pays 0 (fun _ => count) (fun _ => True) (reserve count : Rolling ρ Unit) := by
  intro context value after unbounded run
  have free := Context.exceeds_of_unbounded unbounded (context.after count)
  have same : after = context := by
    rw [DicePool.reserve, free] at run
    cases run
    rfl
  subst same
  have grown : after.after 0 ≤ after.after count := by
    unfold Context.after
    omega
  refine ⟨unbounded, trivial, grown, fun most enough => ?_⟩
  have covered : (after.under (some most)).exceeds (after.after count) = false :=
    decide_eq_false (Nat.not_lt_of_le enough)
  show some (if (after.under (some most)).exceeds (after.after count) then _ else _, _) = _
  rw [covered]
  rfl

/-- A roll that is counted on top pays for nothing. -/
theorem countMore : Pays 0 (fun _ => 0) (fun _ => True) (DicePool.countRoll : Rolling ρ Unit) :=
  countRoll.mono (Nat.zero_le 1) (fun _ _ => Nat.le_refl 0) fun _ kept => kept

/-- A face pays for one roll. -/
theorem rollFace [Roller ρ] (sides : Int64) :
    Pays 1 (fun _ => 0) (fun _ => True) (rollFace sides : Rolling ρ Int64) := by
  cases known : Sides.ofInt64 sides with
  | error error =>
    intro context value after _ run
    rw [DicePool.rollFace, known] at run
    cases run
  | ok valid =>
    rw [DicePool.rollFace, known]
    apply countRoll.bind
    intro _ _ context value after unbounded run
    cases run
    exact ⟨unbounded, trivial, Nat.le_refl _, fun most _ => rfl⟩

/-- Every element pays for itself. -/
theorem mapM {ε : Type} {share : ε → Nat} {Each : α → Prop} {step : ε → Rolling ρ α}
    {elements : List ε}
    (each : ∀ element ∈ elements, Pays (share element) (fun _ => 0) Each (step element)) :
    Pays (shares share elements) (fun _ => 0) (fun values => ∀ value ∈ values, Each value)
      (elements.mapM step) := by
  induction elements with
  | nil => exact pure (by simp) (Nat.le_refl 0)
  | cons element elements ih =>
    rw [List.mapM_cons, shares]
    have head := each element List.mem_cons_self
    have tail := ih fun other member => each other (List.mem_cons_of_mem _ member)
    apply (head.frame _).bind
    intro value kept
    rw [Nat.zero_add]
    apply tail.bind
    intro values others
    exact pure (List.forall_mem_cons.2 ⟨kept, others⟩) (Nat.le_refl 0)

end Pays

/-- What is evaluated with so much fuel pays what it owes: a pool owes what its slots do, a total
owes nothing, and a draw takes what its slot owed. -/
structure PaysWith (ρ : Type) [Roller ρ] (fuel : Nat) : Prop where
  /-- Generating a die leaves the debt of its pool. -/
  generate : ∀ die : Die, die.RepetitionFree →
    Pays 0 owed (fun pool => ∀ slot ∈ pool, slot.RepetitionFree)
      (die.generate fuel : Rolling ρ Pool)
  /-- Totalling a die pays for all of it. -/
  total : ∀ die : Die, die.RepetitionFree →
    Pays 0 (fun _ => 0) (fun _ => True) (die.total fuel : Rolling ρ Int64)
  /-- Drawing from a slot pays what it owes. -/
  draw : ∀ slot : Slot, slot.RepetitionFree →
    Pays slot.owed (fun _ => 0) (fun entry => entry.2.RepetitionFree)
      (drawFrom (Slot.force fuel) slot : Rolling ρ _)

namespace PaysWith

variable [Roller ρ] {fuel : Nat}

/-- Drawing from a whole pool pays what the pool owes. -/
theorem drawAll (known : PaysWith ρ fuel) {pool : Pool}
    (free : ∀ slot ∈ pool, slot.RepetitionFree) :
    Pays (owed pool) (fun _ => 0) (fun drawn => ∀ entry ∈ drawn, entry.2.RepetitionFree)
      (DicePool.drawAll (Slot.force fuel) pool : Rolling ρ _) :=
  Pays.mapM fun slot member => known.draw slot (free slot member)

/-- A draw that owes nothing any more. -/
theorem redraw (known : PaysWith ρ fuel) {slot : Slot} (free : slot.RepetitionFree) :
    Pays 0 (fun _ => 0) (fun entry => entry.2.RepetitionFree)
      (drawFrom (Slot.force fuel) slot : Rolling ρ _) :=
  (known.draw slot free).mono (Nat.zero_le _) (fun _ _ => Nat.le_refl 0) fun _ kept => kept

/-- The loop of an exploding slot. -/
theorem explodeFrom (known : PaysWith ρ fuel) (cmp : Comparison) (cutoff : Int64) (turns : Nat) :
    ∀ (total last : Int64) (slot : Slot), slot.RepetitionFree →
      Pays 0 (fun _ => 0) (fun entry => entry.2.RepetitionFree)
        (drawFrom (DicePool.explodeFrom (Slot.force fuel) cmp cutoff turns total last) slot :
          Rolling ρ _) := by
  induction turns with
  | zero =>
    intro total last slot free
    rw [drawFrom_explodeFrom_zero]
    exact Pays.exhausted
  | succ turns ih =>
    intro total last slot free
    cases holds : cmp.holds last cutoff with
    | false =>
      rw [drawFrom_explodeFrom_miss _ _ _ _ _ _ _ holds]
      exact Pays.pure free (Nat.le_refl 0)
    | true =>
      rw [drawFrom_explodeFrom_hit _ _ _ _ _ _ _ holds]
      apply Pays.countMore.bind
      intro _ _
      apply (known.redraw free).bind
      intro drawn kept
      apply (Pays.settle _).bind
      intro total _
      exact ih total drawn.1 drawn.2 kept

/-- A generation takes what its slots owe. What its hits count comes on top. -/
theorem drawGeneration (known : PaysWith ρ fuel) (cmp : Comparison) (cutoff : Int64)
    {generation : Pool} (free : ∀ slot ∈ generation, slot.RepetitionFree) :
    Pays (owed generation) (fun _ => 0) (fun drawn => ∀ entry ∈ drawn, entry.2.RepetitionFree)
      (DicePool.drawGeneration (Slot.force fuel) cmp cutoff generation : Rolling ρ _) := by
  refine Pays.mapM fun slot member => ?_
  apply (known.draw slot (free slot member)).bind
  intro drawn kept
  cases cmp.holds drawn.1 cutoff with
  | false => exact Pays.pure kept (Nat.le_refl 0)
  | true =>
    apply Pays.countMore.bind
    intro _ _
    exact Pays.pure kept (Nat.le_refl 0)

/-- Slots that remember their draws hold no repetition if these do not. -/
theorem free_remember {drawn : List (Int64 × Slot)}
    (free : ∀ entry ∈ drawn, entry.2.RepetitionFree) :
    ∀ slot ∈ drawn.map remember, slot.RepetitionFree := by
  intro slot member
  obtain ⟨entry, among, rfl⟩ := List.mem_map.1 member
  exact free entry among

/-- The generations of slots that are rolled again leave nothing owed: no reservation rests on the
faces that their hits add. -/
theorem generations (known : PaysWith ρ fuel) (cmp : Comparison) (cutoff : Int64) (turns : Nat) :
    ∀ generation : Pool, (∀ slot ∈ generation, slot.RepetitionFree) →
      Pays (owed generation) owed (fun pool => ∀ slot ∈ pool, slot.RepetitionFree)
        (DicePool.generations (Slot.force fuel) cmp cutoff turns generation : Rolling ρ Pool) := by
  induction turns with
  | zero =>
    intro generation free
    cases generation with
    | nil => exact Pays.pure (by simp) (Nat.le_refl 0)
    | cons slot rest => exact Pays.exhausted
  | succ turns ih =>
    intro generation free
    cases generation with
    | nil => exact Pays.pure (by simp) (Nat.le_refl 0)
    | cons slot rest =>
      rw [generations_succ]
      apply (known.drawGeneration cmp cutoff free).bind
      intro drawn kept
      have hits : ∀ slot ∈ (drawn.filter fun entry => cmp.holds entry.1 cutoff).map Prod.snd,
          slot.RepetitionFree := by
        intro slot member
        obtain ⟨entry, among, rfl⟩ := List.mem_map.1 member
        exact kept entry (List.mem_filter.1 among).1
      have later := (ih _ hits).mono (Nat.zero_le _) (fun _ _ => Nat.le_refl _) fun _ good => good
      apply later.bind
      intro later good
      refine Pays.pure (List.forall_mem_append.2 ⟨free_remember kept, good⟩) ?_
      rw [owed_append]
      exact Nat.le_add_left _ _

/-- Without fuel nothing is owed. -/
theorem zero : PaysWith ρ 0 where
  generate die _ := by
    rw [Die.generate]
    exact Pays.exhausted
  total die _ := by
    rw [Die.total]
    exact Pays.exhausted
  draw slot _ := by
    rw [drawFrom_zero]
    exact Pays.exhausted

/-- Slots that are wrapped owe what they owed. -/
theorem generate_map (known : PaysWith ρ fuel) {body : Die} (free : body.RepetitionFree)
    (wrap : Slot → Slot) (same : ∀ slot, (wrap slot).owed = slot.owed)
    (kept : ∀ slot, slot.RepetitionFree → (wrap slot).RepetitionFree) :
    Pays 0 owed (fun pool => ∀ slot ∈ pool, slot.RepetitionFree)
      (do
        let pool ← body.generate fuel
        return pool.map wrap : Rolling ρ Pool) := by
  apply (known.generate body free).bind
  intro pool good
  refine Pays.pure ?_ (Nat.le_of_eq (owed_map same pool).symm)
  intro slot member
  obtain ⟨inner, among, rfl⟩ := List.mem_map.1 member
  exact kept inner (good inner among)

/-- Two pools, the second wrapped, owe what both owed. -/
theorem generate_both (known : PaysWith ρ fuel) {left right : Die} (first : left.RepetitionFree)
    (second : right.RepetitionFree) (wrap : Slot → Slot)
    (same : ∀ slot, (wrap slot).owed = slot.owed)
    (kept : ∀ slot, slot.RepetitionFree → (wrap slot).RepetitionFree) :
    Pays 0 owed (fun pool => ∀ slot ∈ pool, slot.RepetitionFree)
      (do
        let left ← left.generate fuel
        let right ← right.generate fuel
        return left ++ right.map wrap : Rolling ρ Pool) := by
  apply (known.generate left first).bind
  intro left good
  have other := (known.generate right second).frame (owed left)
  rw [Nat.zero_add] at other
  apply other.bind
  intro right fine
  refine Pays.pure ?_ ?_
  · refine List.forall_mem_append.2 ⟨good, fun slot member => ?_⟩
    obtain ⟨inner, among, rfl⟩ := List.mem_map.1 member
    exact kept inner (fine inner among)
  · rw [owed_append, owed_map same]
    exact Nat.le_of_eq (Nat.add_comm _ _)

/-- Each die leaves the debt of its pool. -/
theorem generate_succ (known : PaysWith ρ fuel) (die : Die) (free : die.RepetitionFree) :
    Pays 0 owed (fun pool => ∀ slot ∈ pool, slot.RepetitionFree)
      (die.generate (fuel + 1) : Rolling ρ Pool) := by
  cases die with
  | constant value =>
    rw [Die.generate]
    exact Pays.pure (by simp [Slot.RepetitionFree]) (Nat.le_refl 0)
  | dice count sides =>
    rw [Die.generate]
    apply (known.total count free.1).bind
    intro count _
    apply (known.total sides free.2).bind
    intro sides _
    apply (Pays.reserve _).bind
    intro _ _
    refine Pays.pure ?_ (Nat.le_of_eq (owed_replicate_face _ _).symm)
    intro slot member
    rw [List.eq_of_mem_replicate member]
    trivial
  | add left right =>
    rw [Die.generate]
    have both := known.generate_both free.1 free.2 id (fun _ => rfl) fun _ kept => kept
    simp only [List.map_id] at both
    exact both
  | subtract left right =>
    rw [Die.generate]
    exact known.generate_both free.1 free.2 .negative (fun _ => rfl) fun _ kept => kept
  | multiply left right | divide left right =>
    rw [Die.generate]
    apply (known.total left free.1).bind
    intro left _
    apply (known.total right free.2).bind
    intro right _
    apply (Pays.settle _).bind
    intro value _
    exact Pays.pure (by simp [Slot.RepetitionFree]) (Nat.le_refl 0)
  | negative body =>
    rw [Die.generate]
    have inner : body.RepetitionFree := free
    exact known.generate_map inner .negative (fun _ => rfl) fun _ kept => kept
  | bonus op body amount =>
    rw [Die.generate]
    exact known.generate_map free.1 (.bonus op · amount) (fun _ => rfl) fun _ kept => ⟨kept, free.2⟩
  | explode cmp cutoff body =>
    rw [Die.generate]
    apply (known.total cutoff free.1).bind
    intro cutoff _
    exact known.generate_map free.2 (.explode cmp cutoff) (fun _ => rfl) fun _ kept => kept
  | threshold cmp cutoff body =>
    rw [Die.generate]
    apply (known.total cutoff free.1).bind
    intro cutoff _
    exact known.generate_map free.2 (.threshold cmp cutoff) (fun _ => rfl) fun _ kept => kept
  | keep selection count body =>
    rw [Die.generate]
    apply (known.total count free.1).bind
    intro count _
    apply (known.generate body free.2).bind
    intro pool good
    apply (known.drawAll good).bind
    intro drawn kept
    have taken : ∀ entry ∈ selection.take (quantity count) drawn, entry.2.RepetitionFree :=
      fun entry member => kept entry (mem_of_mem_take member)
    exact Pays.pure (free_remember taken) (Nat.le_of_eq (owed_map_remember _).symm)
  | again cmp cutoff body =>
    rw [Die.generate]
    apply (known.total cutoff free.1).bind
    intro cutoff _
    apply (known.generate body free.2).bind
    intro pool good
    exact known.generations cmp cutoff fuel pool good
  | repetition body count => exact absurd free id

/-- A total pays for the whole pool. -/
theorem total_succ (known : PaysWith ρ fuel) (die : Die) (free : die.RepetitionFree) :
    Pays 0 (fun _ => 0) (fun _ => True) (die.total (fuel + 1) : Rolling ρ Int64) := by
  rw [Die.total]
  apply (known.generate die free).bind
  intro pool good
  apply (known.drawAll good).bind
  intro drawn _
  exact Pays.settle _

/-- Each slot pays what it owes. -/
theorem draw_succ (known : PaysWith ρ fuel) (slot : Slot) (free : slot.RepetitionFree) :
    Pays slot.owed (fun _ => 0) (fun entry => entry.2.RepetitionFree)
      (drawFrom (Slot.force (fuel + 1)) slot : Rolling ρ _) := by
  cases slot with
  | fixed value =>
    rw [drawFrom_fixed]
    exact Pays.pure free (Nat.le_refl 0)
  | face sides =>
    rw [drawFrom_face]
    apply (Pays.rollFace sides).bind
    intro value _
    exact Pays.pure free (Nat.le_refl 0)
  | negative slot =>
    rw [drawFrom_negative]
    apply (known.draw slot free).bind
    intro drawn kept
    apply (Pays.settle _).bind
    intro value _
    exact Pays.pure kept (Nat.le_refl 0)
  | bonus op slot amount =>
    rw [drawFrom_bonus]
    apply (known.draw slot free.1).bind
    intro drawn kept
    apply (known.total amount free.2).bind
    intro extra _
    apply (Pays.settle _).bind
    intro value _
    exact Pays.pure ⟨kept, free.2⟩ (Nat.le_refl 0)
  | explode cmp cutoff slot =>
    rw [drawFrom_explode]
    apply (known.draw slot free).bind
    intro drawn kept
    apply (known.explodeFrom cmp cutoff fuel drawn.1 drawn.1 drawn.2 kept).bind
    intro last good
    exact Pays.pure good (Nat.le_refl 0)
  | threshold cmp cutoff slot =>
    rw [drawFrom_threshold]
    apply (known.draw slot free).bind
    intro drawn kept
    exact Pays.pure kept (Nat.le_refl 0)
  | drawn memo slot =>
    cases memo with
    | resolved value =>
      rw [drawFrom_resolved]
      exact Pays.pure free (Nat.le_refl 0)
    | spent =>
      rw [drawFrom_spent]
      apply (known.draw slot free).bind
      intro drawn kept
      exact Pays.pure kept (Nat.le_refl 0)

/-- The values of a die are paid for in full. -/
theorem values (known : PaysWith ρ fuel) {die : Die} (free : die.RepetitionFree) :
    Pays 0 (fun _ => 0) (fun _ => True) (die.values fuel : Rolling ρ (List Int64)) := by
  apply (known.generate die free).bind
  intro pool good
  apply (known.drawAll good).bind
  intro drawn _
  exact Pays.pure trivial (Nat.le_refl 0)

end PaysWith

/-- Generating, totalling and drawing pay what they owe with any fuel. -/
theorem paysWith (ρ : Type) [Roller ρ] (fuel : Nat) : PaysWith ρ fuel := by
  induction fuel with
  | zero => exact PaysWith.zero
  | succ fuel known => exact ⟨known.generate_succ, known.total_succ, known.draw_succ⟩

section

variable [Roller ρ] {die : Die} {context after : Context ρ} {most : Nat}

/-- The counter never shows more than its limit. -/
theorem Die.PoolsTo.rolls_le {result : Except RollError (List Int64)}
    (ended : die.PoolsTo context result after) : after.rolls ≤ rollLimit := by
  obtain ⟨fuel, ends⟩ := ended
  obtain ⟨script, same⟩ := scripted_values fuel die
  have follows : die.values fuel = script.run := same ρ
  rw [follows] at ends
  exact Script.run_keeps (fun context => context.rolls ≤ rollLimit)
    (fun _ context => context.rolls ≤ rollLimit) (fun _ _ shown => shown)
    (fun context _ _ => context.after_le 1) (fun context _ _ => context.after_le 1)
    (fun context _ _ _ => context.after_le 1) (Nat.zero_le rollLimit) ends

/-- Under a budget only a refusal for too many rolls counts more of them than it has. -/
theorem Die.PoolsTo.rolls_le_budget {values : List Int64} (room : most < rollLimit)
    (bounded : context.budget = some most) (ended : die.PoolsTo context (.ok values) after) :
    after.rolls ≤ most := by
  obtain ⟨fuel, ends⟩ := ended
  obtain ⟨taken, -, within⟩ := (scripted_values fuel die).withinBudget room bounded ends
  have answered : (.ok values : Except RollError (List Int64)) ≠ .error .tooManyRolls := by
    intro same
    cases same
  exact within.rolls_le_most answered

/-- A budget that covers the rolls counted without one is enough. -/
theorem Die.PoolsTo.under_of_le (free : die.RepetitionFree) {values : List Int64}
    (ended : die.PoolsTo (context.under none) (.ok values) after) (covered : after.rolls ≤ most) :
    die.PoolsTo (context.under (some most)) (.ok values) (after.under (some most)) := by
  obtain ⟨fuel, ends⟩ := ended
  obtain ⟨-, -, -, again⟩ := (paysWith ρ fuel).values free _ values after rfl ends
  have shown : after.after 0 ≤ most := Nat.le_trans (Nat.min_le_left _ _) covered
  exact ⟨fuel, again most shown⟩

/-- A budget that does not cover them is not. -/
theorem Die.PoolsTo.tooManyRolls_of_lt {values : List Int64}
    (ended : die.PoolsTo (context.under none) (.ok values) after) (short : most < after.rolls) :
    ∃ last, die.PoolsTo (context.under (some most)) (.error .tooManyRolls) last := by
  have room : most < rollLimit := Nat.lt_of_lt_of_le short ended.rolls_le
  rcases (die.poolsTo_onlyCutOff context).cut ended most (Nat.le_of_lt room) with same | refused
  · have within := Die.PoolsTo.rolls_le_budget room rfl same
    exact absurd within (Nat.not_le_of_lt short)
  · exact refused

end

/-- A die without repetitions whose pool ends without a budget ends so under the budgets that cover
the rolls it counts, and is refused under the others. No reservation refuses what would fit. -/
theorem reservation_exact (ρ : Type) [Roller ρ] {die : Die} (free : die.RepetitionFree)
    {context after : Context ρ} {values : List Int64}
    (ended : die.PoolsTo (context.under none) (.ok values) after) (most : Nat) :
    (after.rolls ≤ most →
      die.PoolsTo (context.under (some most)) (.ok values) (after.under (some most)) ∧
      (most < rollLimit →
        die.pool (context.under (some most)) = some (.ok values, after.under (some most)))) ∧
    (most < after.rolls →
      ∃ last, die.pool (context.under (some most)) = some (.error .tooManyRolls, last)) := by
  have bounded : (context.under (some most)).budget = some most := rfl
  constructor
  · intro covered
    have same := ended.under_of_le free covered
    exact ⟨same, fun room => (Die.pool_eq_some_iff room bounded).2 same⟩
  · intro short
    have room : most < rollLimit := Nat.lt_of_lt_of_le short ended.rolls_le
    obtain ⟨last, refused⟩ := ended.tooManyRolls_of_lt short
    exact ⟨last, (Die.pool_eq_some_iff room bounded).2 refused⟩

/-- A count that is rolled itself, slots that explode or are rolled again, and a bonus for each
slot: ten rolls are enough, and nine are not. -/
theorem reservation_exact_ten :
    let cycle : FaceCycle := ⟨[2, 5, 3, 6, 1, 4], by decide, 0⟩
    let counted := Die.dice (.dice (.constant 1) (.constant 2)) (.constant 6)
    let again := Die.again .above (.constant 5) (.dice (.constant 1) (.constant 6))
    let die := Die.add (.explode .above (.constant 6) counted)
      (.bonus .add again (.dice (.constant 1) (.constant 4)))
    let context := Context.start none cycle
    die.RepetitionFree ∧
    ∃ values after, die.PoolsTo (context.under none) (.ok values) after ∧
      (values, after.rolls) = ([7, 4, 7, 4], 10) ∧
      die.pool (context.under (some 10)) = some (.ok values, after.under (some 10)) ∧
      ∃ last, die.pool (context.under (some 9)) = some (.error .tooManyRolls, last) := by
  intro cycle counted again die context
  have free : die.RepetitionFree := by simp [die, counted, again, Die.RepetitionFree]
  have shown : (die.values 20 (context.under none)).map (fun out =>
      (out.1.toOption, out.2.rolls)) = some (some [7, 4, 7, 4], 10) := by
    decide +kernel
  obtain ⟨⟨result, after⟩, ends, seen⟩ := Option.map_eq_some_iff.1 shown
  obtain ⟨same, ten⟩ := Prod.mk.inj seen
  cases result with
  | error error => cases same
  | ok values =>
    have ended : die.PoolsTo (context.under none) (.ok values) after := ⟨20, ends⟩
    have enough := (reservation_exact FaceCycle free ended 10).1 (Nat.le_of_eq ten)
    have short := (reservation_exact FaceCycle free ended 9).2 (Nat.le_of_eq ten.symm)
    exact ⟨free, values, after, ended, Prod.ext (Option.some.inj same) ten, enough.2 (by decide),
      short⟩

end DicePool
