import DicePool.Proofs.Stateless
import DicePool.Proofs.Termination

/-!
# Slots refine stateless draws

A slot changes when it is drawn from, but only its memos do. What a slot draws now and
what it draws later can be read off it, and a draw leaves a slot whose draws are all
later ones. So every evaluation that ends does the same as the one without memos.
-/

namespace DicePool

variable {ρ α β γ δ : Type}

/-- Wherever `code` ends, so does `plain`, in the same context and with the same refusal or the
value that `view` makes of the result, for which `Kept` holds. -/
def Simulates (view : α → β) (Kept : α → Prop) (code : Rolling ρ α) (plain : Rolling ρ β) : Prop :=
  ∀ context result after, code context = some (result, after) →
    plain context = some (result.map view, after) ∧ ∀ value, result = .ok value → Kept value

namespace Simulates

variable {view : α → β} {Kept : α → Prop} {further : γ → δ} {Later : γ → Prop}

/-- Nothing ends without fuel. -/
theorem exhausted (plain : Rolling ρ β) : Simulates view Kept exhausted plain := by
  intro context result after run
  cases run

/-- A value is simulated by what is seen of it. -/
theorem pure {value : α} {seen : β} (kept : Kept value) (same : view value = seen) :
    Simulates view Kept (Pure.pure value : Rolling ρ α) (Pure.pure seen) := by
  intro context result after run
  cases run
  refine ⟨?_, fun known ended => ?_⟩
  · rw [← same]
    rfl
  · cases ended
    exact kept

/-- Every computation simulates itself. -/
theorem refl (code : Rolling ρ α) : Simulates id (fun _ => True) code code := by
  intro context result after run
  refine ⟨?_, fun _ _ => trivial⟩
  rw [run]
  cases result <;> rfl

/-- What holds of the values may be weakened. -/
theorem mono {code : Rolling ρ α} {plain : Rolling ρ β} {Weaker : α → Prop}
    (code_plain : Simulates view Kept code plain) (weaker : ∀ value, Kept value → Weaker value) :
    Simulates view Weaker code plain := by
  intro context result after run
  obtain ⟨simulated, kept⟩ := code_plain context result after run
  exact ⟨simulated, fun value same => weaker value (kept value same)⟩

/-- Two steps are simulated when the first one is, and the second one is for every value. -/
theorem bind {code : Rolling ρ α} {plain : Rolling ρ β} {next : α → Rolling ρ γ}
    {plainNext : β → Rolling ρ δ} (first : Simulates view Kept code plain)
    (rest : ∀ value, Kept value → Simulates further Later (next value) (plainNext (view value))) :
    Simulates further Later (code >>= next) (plain >>= plainNext) := by
  intro context result after run
  rw [Rolling.bind_apply]
  obtain ⟨error, refused, rfl⟩ | ⟨value, reached, done, run⟩ := Rolling.bind_eq_some_iff.1 run
  · rw [(first context _ after refused).1]
    refine ⟨rfl, fun value same => ?_⟩
    cases same
  · have simulated := first context _ reached done
    rw [simulated.1]
    exact rest value (simulated.2 value rfl) reached result after run

/-- What is only built from a result is no step of its own. -/
theorem map {code : Rolling ρ α} {plain : Rolling ρ β} {next : α → γ} {seen : γ → β}
    (first : Simulates view Kept code plain)
    (rest : ∀ value, Kept value → Later (next value) ∧ seen (next value) = view value) :
    Simulates seen Later (code >>= fun value => Pure.pure (next value)) plain := by
  rw [← bind_pure plain]
  exact first.bind fun value kept => pure (rest value kept).1 (rest value kept).2

/-- Every element is simulated by what is read of it. -/
theorem mapM {ε : Type} {read : ε → δ} {step : ε → Rolling ρ α} {plainStep : δ → Rolling ρ β}
    {elements : List ε}
    (each : ∀ element ∈ elements, Simulates view Kept (step element) (plainStep (read element))) :
    Simulates (List.map view) (fun values => ∀ value ∈ values, Kept value)
      (elements.mapM step) ((elements.map read).mapM plainStep) := by
  induction elements with
  | nil => exact pure (by simp) rfl
  | cons element elements ih =>
    rw [List.map_cons, List.mapM_cons, List.mapM_cons]
    apply (each element List.mem_cons_self).bind
    intro head kept
    have behind := ih fun other member => each other (List.mem_cons_of_mem _ member)
    apply behind.bind
    intro tail others
    exact pure (List.forall_mem_cons.2 ⟨kept, others⟩) rfl

end Simulates

namespace Stateless

/-- A loop keeps its outcome when it may take more turns. -/
def Grows (loop : Nat → Rolling ρ α) : Prop :=
  ∀ turns, Simulates id (fun _ => True) (loop turns) (loop (turns + 1))

/-- Any number of further turns keeps the outcome. -/
theorem Grows.keeps {loop : Nat → Rolling ρ α} (grows : Grows loop) {turns more : Nat}
    (le : turns ≤ more) {context : Context ρ} {out : Except RollError α × Context ρ}
    (ends : loop turns context = some out) : loop more context = some out := by
  induction le with
  | refl => exact ends
  | step le ih =>
    have kept := (grows _ context out.1 out.2 ih).1
    rw [Except.map_id] at kept
    exact kept

/-- A loop without a bound ends as it does within any number of turns that suffices. -/
theorem unbounded_eq_some_iff {loop : Nat → Rolling ρ α} (grows : Grows loop)
    {context : Context ρ} {out : Except RollError α × Context ρ} :
    unbounded loop context = some out ↔ ∃ turns, loop turns context = some out := by
  unfold unbounded
  constructor
  · intro ended
    split at ended
    · rename_i ends
      cases ended
      exact ends.choose_spec
    · cases ended
  · rintro ⟨turns, done⟩
    have ends : ∃ out turns, loop turns context = some out := ⟨out, turns, done⟩
    obtain ⟨others, same⟩ := ends.choose_spec
    have left := grows.keeps (Nat.le_max_left turns others) done
    have right := grows.keeps (Nat.le_max_right turns others) same
    rw [dif_pos ends]
    exact right.symm.trans left

/-- An exploding draw keeps its outcome when it may take more turns. -/
theorem grows_explodeWithin (draw : Rolling ρ Int64) (cmp : Comparison) (cutoff : Int64) :
    ∀ total last, Grows fun turns => explodeWithin draw cmp cutoff turns total last := by
  intro total last turns
  induction turns generalizing total last with
  | zero => exact Simulates.exhausted _
  | succ turns ih =>
    show Simulates _ _ (explodeWithin draw cmp cutoff (turns + 1) total last)
      (explodeWithin draw cmp cutoff (turns + 1 + 1) total last)
    rw [explodeWithin, explodeWithin]
    cases cmp.holds last cutoff with
    | false => exact Simulates.refl _
    | true =>
      apply (Simulates.refl countRoll).bind
      intro _ _
      apply (Simulates.refl draw).bind
      intro value _
      apply (Simulates.refl (settle _)).bind
      intro total _
      exact ih total value

/-- Generations keep their outcome when they may take more turns. -/
theorem grows_generationsWithin (cmp : Comparison) (cutoff : Int64) :
    ∀ generation : List (Draws ρ), Grows fun turns =>
      generationsWithin cmp cutoff turns generation := by
  intro generation turns
  induction turns generalizing generation with
  | zero =>
    cases generation with
    | nil => exact Simulates.refl (Pure.pure [])
    | cons draws rest => exact Simulates.exhausted _
  | succ turns ih =>
    cases generation with
    | nil => exact Simulates.refl (Pure.pure [])
    | cons draws rest =>
      apply (Simulates.refl (List.mapM _ _)).bind
      intro drawn _
      apply (ih _).bind
      intro others _
      exact Simulates.refl (Pure.pure _)

end Stateless

/-- What is simulated within some number of turns is simulated without a bound. -/
theorem Simulates.unbounded {view : α → β} {Kept : α → Prop} {code : Rolling ρ α}
    {loop : Nat → Rolling ρ β} {turns : Nat} (within : Simulates view Kept code (loop turns))
    (grows : Stateless.Grows loop) : Simulates view Kept code (Stateless.unbounded loop) := by
  intro context result after run
  obtain ⟨same, kept⟩ := within context result after run
  exact ⟨(Stateless.unbounded_eq_some_iff grows).2 ⟨turns, same⟩, kept⟩

namespace Slot

/-- No memo in the slot holds a value. -/
def Settled : Slot → Prop
  | fixed _ | face _ => True
  | negative slot | bonus _ slot _ | explode _ _ slot | threshold _ _ slot => slot.Settled
  | drawn (.resolved _) _ => False
  | drawn .spent slot => slot.Settled

/-- No memo in the slot holds a value under one that holds a value. -/
def Fresh : Slot → Prop
  | fixed _ | face _ => True
  | negative slot | bonus _ slot _ | explode _ _ slot | threshold _ _ slot => slot.Fresh
  | drawn (.resolved _) slot => slot.Settled
  | drawn .spent slot => slot.Fresh

/-- A slot that remembers nothing remembers nothing twice. -/
theorem Settled.fresh {slot : Slot} (settled : slot.Settled) : slot.Fresh := by
  induction slot with
  | fixed value => trivial
  | face sides => trivial
  | negative slot ih => exact ih settled
  | bonus op slot amount ih => exact ih settled
  | explode cmp cutoff slot ih => exact ih settled
  | threshold cmp cutoff slot ih => exact ih settled
  | drawn memo slot ih =>
    cases memo with
    | resolved value => exact settled.elim
    | spent => exact ih settled

/-- What a slot draws now, and what it draws from then on. -/
noncomputable def draws (ρ : Type) [Roller ρ] : Slot → Stateless.Draws ρ
  | fixed value => .fixed value
  | face sides => .face sides
  | negative slot => (slot.draws ρ).negative
  | bonus op slot amount => (slot.draws ρ).bonus op (Stateless.total amount)
  | explode cmp cutoff slot => (slot.draws ρ).explode cmp cutoff
  | threshold cmp cutoff slot => (slot.draws ρ).threshold cmp cutoff
  | drawn (.resolved value) slot => .recorded value (slot.draws ρ).later
  | drawn .spent slot => slot.draws ρ

section

variable [Roller ρ]

/-- A slot without a value to hand out draws the same every time. -/
theorem Settled.first_eq {slot : Slot} (settled : slot.Settled) :
    (slot.draws ρ).first = (slot.draws ρ).later := by
  induction slot with
  | fixed value => rfl
  | face sides => rfl
  | negative slot ih => exact congrArg (· >>= _) (ih settled)
  | bonus op slot amount ih => exact congrArg (· >>= _) (ih settled)
  | explode cmp cutoff slot ih => exact congrArg (· >>= _) (ih settled)
  | threshold cmp cutoff slot ih => exact congrArg (· >>= _) (ih settled)
  | drawn memo slot ih =>
    cases memo with
    | resolved value => exact settled.elim
    | spent => exact ih settled

/-- All draws from a slot without a value to hand out are later ones. -/
theorem Settled.draws_eq {slot : Slot} (settled : slot.Settled) :
    slot.draws ρ = .renewed (slot.draws ρ).later :=
  congrArg (Stateless.Draws.mk · (slot.draws ρ).later) settled.first_eq

end

/-- What a draw leaves of a slot: no memo with a value, and the later draws. -/
structure Leaves (ρ : Type) [Roller ρ] (slot left : Slot) : Prop where
  /-- No memo is left with a value. -/
  settled : left.Settled
  /-- The later draws stay the same. -/
  later : (left.draws ρ).later = (slot.draws ρ).later

namespace Leaves

variable [Roller ρ] {slot left : Slot}

/-- A negated slot is left negated. -/
theorem negative (leaves : slot.Leaves ρ left) : slot.negative.Leaves ρ left.negative :=
  ⟨leaves.settled, congrArg (· >>= _) leaves.later⟩

/-- A slot with a bonus is left with it. -/
theorem bonus (leaves : slot.Leaves ρ left) (op : Arithmetic) (amount : Die) :
    (slot.bonus op amount).Leaves ρ (left.bonus op amount) :=
  ⟨leaves.settled, congrArg (· >>= _) leaves.later⟩

/-- An exploding slot is left exploding. -/
theorem explode (leaves : slot.Leaves ρ left) (cmp : Comparison) (cutoff : Int64) :
    (slot.explode cmp cutoff).Leaves ρ (left.explode cmp cutoff) :=
  ⟨leaves.settled, congrArg (fun later => later >>= Stateless.explodeFrom later cmp cutoff)
    leaves.later⟩

/-- A tested slot is left to be tested. -/
theorem threshold (leaves : slot.Leaves ρ left) (cmp : Comparison) (cutoff : Int64) :
    (slot.threshold cmp cutoff).Leaves ρ (left.threshold cmp cutoff) :=
  ⟨leaves.settled, congrArg (· >>= _) leaves.later⟩

/-- A spent memo is left spent. -/
theorem spent (leaves : slot.Leaves ρ left) :
    (slot.drawn .spent).Leaves ρ (left.drawn .spent) := ⟨leaves.settled, leaves.later⟩

end Leaves

end Slot

/-- The value of a draw, with the draws that are left. -/
noncomputable def seen (ρ : Type) [Roller ρ] (entry : Int64 × Slot) : Int64 × Rolling ρ Int64 :=
  (entry.1, (entry.2.draws ρ).later)

/-- Selecting looks at the values only. -/
theorem take_map_seen [Roller ρ] (selection : Selection) (count : Nat)
    (drawn : List (Int64 × Slot)) :
    selection.take count (drawn.map (seen ρ)) = (selection.take count drawn).map (seen ρ) := by
  have ordered : (drawn.map (seen ρ)).mergeSort
        (fun left right => selection.prefers left.1 right.1) =
      (drawn.mergeSort fun left right => selection.prefers left.1 right.1).map (seen ρ) :=
    (List.map_mergeSort (by intro _ _ _ _; rfl)).symm
  rw [Selection.take, ordered, Selection.take, List.map_take]

/-- Slots that remember a draw are read as recorded draws. -/
theorem draws_remember [Roller ρ] (drawn : List (Int64 × Slot)) :
    (drawn.map remember).map (Slot.draws ρ) =
      (drawn.map (seen ρ)).map fun entry => .recorded entry.1 entry.2 := by
  rw [List.map_map, List.map_map]
  rfl

/-- Slots without memos are fresh when a draw is remembered of them. -/
theorem fresh_remember {drawn : List (Int64 × Slot)} (settled : ∀ entry ∈ drawn, entry.2.Settled) :
    ∀ slot ∈ drawn.map remember, slot.Fresh := by
  intro slot member
  obtain ⟨entry, among, rfl⟩ := List.mem_map.1 member
  exact settled entry among

/-- The slots of the hits are read as the draws left by them. -/
theorem draws_hits [Roller ρ] {drawn : List (Int64 × Slot)}
    (settled : ∀ entry ∈ drawn, entry.2.Settled) (hit : Int64 → Bool) :
    ((drawn.filter fun entry => hit entry.1).map Prod.snd).map (Slot.draws ρ) =
      ((drawn.map (seen ρ)).filter fun entry => hit entry.1).map fun entry =>
        .renewed entry.2 := by
  rw [List.filter_map, List.map_map, List.map_map]
  refine List.map_congr_left fun entry member => ?_
  exact (settled entry (List.mem_filter.1 member).1).draws_eq

/-- A pool whose slots are read as the draws of the pool without memos. -/
abbrev Builds [Roller ρ] (code : Rolling ρ Pool) (plain : Rolling ρ (List (Stateless.Draws ρ))) :
    Prop :=
  Simulates (List.map (Slot.draws ρ)) (fun pool => ∀ slot ∈ pool, slot.Fresh) code plain

/-- A value is read as a value. -/
theorem Builds.fixed [Roller ρ] (value : Int64) :
    Builds (ρ := ρ) (pure [.fixed value]) (pure [.fixed value]) :=
  Simulates.pure (by simp [Slot.Fresh]) rfl

/-- Faces are read as faces. -/
theorem Builds.faces [Roller ρ] (count : Nat) (sides : Int64) :
    Builds (ρ := ρ) (pure (List.replicate count (.face sides)))
      (pure (List.replicate count (.face sides))) := by
  refine Simulates.pure (fun slot member => ?_) List.map_replicate
  rw [List.eq_of_mem_replicate member]
  trivial

/-- What is evaluated with so much fuel refines stateless evaluation. -/
structure Refines (ρ : Type) [Roller ρ] (fuel : Nat) : Prop where
  /-- Generating a die is simulated. -/
  generate : ∀ die : Die, Simulates (List.map (Slot.draws ρ))
    (fun pool => ∀ slot ∈ pool, slot.Fresh) (die.generate fuel) (Stateless.generate die)
  /-- Totalling a die is simulated. -/
  total : ∀ die : Die, Simulates (ρ := ρ) id (fun _ => True) (die.total fuel) (Stateless.total die)
  /-- Drawing from a fresh slot is simulated. -/
  draw : ∀ slot : Slot, slot.Fresh → Simulates Prod.fst (fun entry => slot.Leaves ρ entry.2)
    (drawFrom (Slot.force fuel) slot) (slot.draws ρ).first

namespace Refines

variable [Roller ρ] {fuel : Nat}

/-- Drawing from a whole pool. -/
theorem drawAll (known : Refines ρ fuel) {pool : Pool} (fresh : ∀ slot ∈ pool, slot.Fresh) :
    Simulates (List.map Prod.fst) (fun _ => True) (DicePool.drawAll (Slot.force fuel) pool)
      ((pool.map (Slot.draws ρ)).mapM Stateless.Draws.first) := by
  have each : ∀ slot ∈ pool, Simulates Prod.fst (fun _ => True)
      (drawFrom (Slot.force fuel) slot) (slot.draws ρ).first := fun slot member =>
    (known.draw slot (fresh slot member)).mono fun _ _ => trivial
  exact (Simulates.mapM each).mono fun _ _ => trivial

/-- A draw whose slot is kept. -/
theorem drawOnce (known : Refines ρ fuel) {slot : Slot} (fresh : slot.Fresh) :
    Simulates (seen ρ) (fun entry => entry.2.Settled)
      (drawFrom (Slot.force fuel) slot) (Stateless.drawOnce (slot.draws ρ)) := by
  rw [← bind_pure (drawFrom _ slot), Stateless.drawOnce]
  apply (known.draw slot fresh).bind
  intro entry leaves
  exact Simulates.pure leaves.settled (congrArg (entry.1, ·) leaves.later)

/-- A draw for which a roll is counted if it hits. -/
theorem drawCounting (known : Refines ρ fuel) (cmp : Comparison) (cutoff : Int64) {slot : Slot}
    (fresh : slot.Fresh) :
    Simulates (seen ρ) (fun entry => entry.2.Settled)
      (do let drawn ← drawFrom (Slot.force fuel) slot
          if cmp.holds drawn.1 cutoff then countRoll
          return drawn)
      (Stateless.drawCounting cmp cutoff (slot.draws ρ)) := by
  apply (known.draw slot fresh).bind
  intro entry leaves
  have same := congrArg (entry.1, ·) leaves.later
  cases cmp.holds entry.1 cutoff with
  | false => exact Simulates.pure leaves.settled same
  | true => exact (Simulates.refl countRoll).bind fun _ _ => Simulates.pure leaves.settled same

/-- The loop of an exploding slot, which draws for later times only. -/
theorem explodeFrom (known : Refines ρ fuel) (cmp : Comparison) (cutoff : Int64) (turns : Nat) :
    ∀ (total last : Int64) (slot : Slot), slot.Settled →
      Simulates Prod.fst (fun entry => slot.Leaves ρ entry.2)
        (drawFrom (DicePool.explodeFrom (Slot.force fuel) cmp cutoff turns total last) slot)
        (Stateless.explodeWithin (slot.draws ρ).later cmp cutoff turns total last) := by
  induction turns with
  | zero =>
    intro total last slot settled
    rw [drawFrom_explodeFrom_zero]
    exact Simulates.exhausted _
  | succ turns ih =>
    intro total last slot settled
    rw [Stateless.explodeWithin]
    cases holds : cmp.holds last cutoff with
    | false =>
      rw [drawFrom_explodeFrom_miss _ _ _ _ _ _ _ holds]
      exact Simulates.pure ⟨settled, rfl⟩ rfl
    | true =>
      rw [drawFrom_explodeFrom_hit _ _ _ _ _ _ _ holds, ← settled.first_eq]
      apply (Simulates.refl countRoll).bind
      intro _ _
      apply (known.draw slot settled.fresh).bind
      intro entry leaves
      apply (Simulates.refl (settle _)).bind
      intro total _
      rw [settled.first_eq, ← leaves.later]
      exact (ih total entry.1 entry.2 leaves.settled).mono fun last later =>
        ⟨later.settled, later.later.trans leaves.later⟩

/-- The generations of slots that are rolled again. -/
theorem generations (known : Refines ρ fuel) (cmp : Comparison) (cutoff : Int64) (turns : Nat) :
    ∀ generation : Pool, (∀ slot ∈ generation, slot.Fresh) →
      Simulates (List.map (Slot.draws ρ)) (fun pool => ∀ slot ∈ pool, slot.Fresh)
        (DicePool.generations (Slot.force fuel) cmp cutoff turns generation)
        (Stateless.generationsWithin cmp cutoff turns (generation.map (Slot.draws ρ))) := by
  induction turns with
  | zero =>
    intro generation fresh
    cases generation with
    | nil =>
      rw [generations_nil]
      exact Simulates.pure (by simp) rfl
    | cons slot rest =>
      rw [generations_zero]
      exact Simulates.exhausted _
  | succ turns ih =>
    intro generation fresh
    cases generation with
    | nil =>
      rw [generations_nil]
      exact Simulates.pure (by simp) rfl
    | cons slot rest =>
      rw [generations_succ]
      have each := Simulates.mapM fun slot member =>
        known.drawCounting cmp cutoff (fresh slot member)
      apply each.bind
      intro drawn settled
      have hits : ∀ slot ∈ (drawn.filter fun entry => cmp.holds entry.1 cutoff).map Prod.snd,
          slot.Fresh := by
        intro slot member
        obtain ⟨entry, among, rfl⟩ := List.mem_map.1 member
        exact (settled entry (List.mem_filter.1 among).1).fresh
      have others := ih _ hits
      rw [draws_hits settled fun value => cmp.holds value cutoff] at others
      refine others.bind fun later fresh => Simulates.pure ?_ ?_
      · exact List.forall_mem_append.2 ⟨fresh_remember settled, fresh⟩
      · rw [List.map_append, draws_remember]

/-- Nothing is refined without fuel. -/
theorem zero : Refines ρ 0 where
  generate die := by
    rw [Die.generate]
    exact Simulates.exhausted _
  total die := by
    rw [Die.total]
    exact Simulates.exhausted _
  draw slot _ := by
    rw [drawFrom_zero]
    exact Simulates.exhausted _

/-- A die that decides how a pool is built is totalled first. -/
theorem total_bind (known : Refines ρ fuel) {die : Die} {next : Int64 → Rolling ρ Pool}
    {plain : Int64 → Rolling ρ (List (Stateless.Draws ρ))}
    (rest : ∀ value, Builds (next value) (plain value)) :
    Builds (die.total fuel >>= next) (Stateless.totalOf (Stateless.generate die) >>= plain) :=
  (known.total die).bind fun value _ => rest value

/-- One value of two totals. -/
theorem builds_fixed (known : Refines ρ fuel) (first second : Die)
    (combine : Int64 → Int64 → Except RollError Int64) :
    Builds (ρ := ρ)
      (do let one ← first.total fuel
          let other ← second.total fuel
          return [.fixed (← settle (combine one other))])
      (do let one ← Stateless.totalOf (Stateless.generate first)
          let other ← Stateless.totalOf (Stateless.generate second)
          return [.fixed (← settle (combine one other))]) := by
  apply known.total_bind
  intro one
  apply known.total_bind
  intro other
  apply (Simulates.refl (settle _)).bind
  intro value _
  exact Builds.fixed value

/-- A pool whose slots are wrapped. -/
theorem builds_map (known : Refines ρ fuel) (body : Die) {wrap : Slot → Slot}
    {plainly : Stateless.Draws ρ → Stateless.Draws ρ}
    (fresh : ∀ slot, slot.Fresh → (wrap slot).Fresh)
    (same : ∀ slot, (wrap slot).draws ρ = plainly (slot.draws ρ)) :
    Builds (do let pool ← body.generate fuel
               return pool.map wrap)
      (do let pool ← Stateless.generate body
          return pool.map plainly) := by
  apply (known.generate body).bind
  intro pool still
  refine Simulates.pure (List.forall_mem_map.2 fun slot member => fresh slot (still slot member)) ?_
  rw [List.map_map, List.map_map]
  exact List.map_congr_left fun slot _ => same slot

/-- Two pools, the second one wrapped. -/
theorem builds_both (known : Refines ρ fuel) (first second : Die) (wrap : Slot → Slot)
    (plainly : Stateless.Draws ρ → Stateless.Draws ρ)
    (fresh : ∀ slot, slot.Fresh → (wrap slot).Fresh)
    (same : ∀ slot, (wrap slot).draws ρ = plainly (slot.draws ρ)) :
    Builds (do let front ← first.generate fuel
               let behind ← second.generate fuel
               return front ++ behind.map wrap)
      (do let front ← Stateless.generate first
          let behind ← Stateless.generate second
          return front ++ behind.map plainly) := by
  apply (known.generate first).bind
  intro front freshFront
  apply (known.generate second).bind
  intro behind freshBehind
  apply Simulates.pure
  · refine List.forall_mem_append.2 ⟨freshFront, List.forall_mem_map.2 fun slot member => ?_⟩
    exact fresh slot (freshBehind slot member)
  · rw [List.map_append, List.map_map, List.map_map]
    exact congrArg _ (List.map_congr_left fun slot _ => same slot)

/-- The selected slots, which remember what was drawn from them. -/
theorem builds_kept (known : Refines ρ fuel) (body : Die) (selection : Selection) (count : Nat) :
    Builds (do let pool ← body.generate fuel
               let drawn ← DicePool.drawAll (Slot.force fuel) pool
               return (selection.take count drawn).map remember)
      (do let pool ← Stateless.generate (ρ := ρ) body
          let drawn ← pool.mapM Stateless.drawOnce
          return (selection.take count drawn).map fun entry => .recorded entry.1 entry.2) := by
  apply (known.generate body).bind
  intro pool fresh
  have each := Simulates.mapM fun slot member => known.drawOnce (fresh slot member)
  apply each.bind
  intro drawn settled
  apply Simulates.pure
  · exact fresh_remember fun entry member => settled entry (mem_of_mem_take member)
  · rw [draws_remember, take_map_seen]

/-- The slots of a pool, and those that their hits add. -/
theorem builds_again (known : Refines ρ fuel) (body : Die) (cmp : Comparison) (cutoff : Int64) :
    Builds (do let pool ← body.generate fuel
               DicePool.generations (Slot.force fuel) cmp cutoff fuel pool)
      (do let pool ← Stateless.generate (ρ := ρ) body
          Stateless.generations cmp cutoff pool) := by
  apply (known.generate body).bind
  intro pool fresh
  have within := known.generations cmp cutoff fuel pool fresh
  exact within.unbounded (Stateless.grows_generationsWithin cmp cutoff _)

/-- Generating the same die over and over. -/
theorem builds_copies (known : Refines ρ fuel) (body : Die) (count : Nat) :
    Builds (do reserve count
               let pools ← (List.replicate count body).mapM fun body => body.generate fuel
               return pools.flatten)
      (do reserve count
          let pools ← (List.replicate count ()).mapM fun _ => Stateless.generate (ρ := ρ) body
          return pools.flatten) := by
  have copies : Simulates (List.map (List.map (Slot.draws ρ)))
      (fun pools => ∀ pool ∈ pools, ∀ slot ∈ pool, slot.Fresh)
      ((List.replicate count body).mapM fun body => body.generate fuel)
      ((List.replicate count ()).mapM fun _ => Stateless.generate body) := by
    have read : (List.replicate count body).map (fun _ => ()) = List.replicate count () :=
      List.map_replicate
    rw [← read]
    refine Simulates.mapM fun die member => ?_
    rw [List.eq_of_mem_replicate member]
    exact known.generate body
  apply (Simulates.refl (reserve count)).bind
  intro _ _
  apply copies.bind
  intro pools fresh
  refine Simulates.pure (fun slot member => ?_) List.map_flatten
  obtain ⟨pool, among, within⟩ := List.mem_flatten.1 member
  exact fresh pool among slot within

/-- Each die builds its pool in one of these ways. -/
theorem generate_succ (known : Refines ρ fuel) (die : Die) :
    Builds (die.generate (fuel + 1)) (Stateless.generate (ρ := ρ) die) := by
  cases die <;> rw [Die.generate, Stateless.generate]
  case constant value => exact Builds.fixed value
  case dice count sides =>
    apply known.total_bind
    intro count
    apply known.total_bind
    intro sides
    apply (Simulates.refl (reserve _)).bind
    intro _ _
    exact Builds.faces _ sides
  case add first second =>
    have both := known.builds_both first second id id (fun _ => id) fun _ => rfl
    simp only [List.map_id] at both
    exact both
  case subtract first second =>
    exact known.builds_both first second .negative .negative (fun _ => id) fun _ => rfl
  case multiply first second => exact known.builds_fixed first second _
  case divide first second => exact known.builds_fixed first second _
  case negative body => exact known.builds_map body (fun _ => id) fun _ => rfl
  case bonus op body amount => exact known.builds_map body (fun _ => id) fun _ => rfl
  case explode cmp cutoff body =>
    exact known.total_bind fun _ => known.builds_map body (fun _ => id) fun _ => rfl
  case keep selection count body =>
    exact known.total_bind fun _ => known.builds_kept body selection _
  case again cmp cutoff body =>
    exact known.total_bind fun value => known.builds_again body cmp value
  case threshold cmp cutoff body =>
    exact known.total_bind fun _ => known.builds_map body (fun _ => id) fun _ => rfl
  case repetition body count => exact known.total_bind fun _ => known.builds_copies body _

/-- The sum of a pool is simulated by that of the draws. -/
theorem total_succ (known : Refines ρ fuel) (die : Die) :
    Simulates id (fun _ => True) (die.total (fuel + 1) : Rolling ρ Int64)
      (Stateless.total die) := by
  rw [Die.total, Stateless.total, Stateless.totalOf]
  apply (known.generate die).bind
  intro pool fresh
  apply (known.drawAll fresh).bind
  intro drawn _
  exact Simulates.refl (settle _)

/-- Each slot is drawn from as its draws say. -/
theorem draw_succ (known : Refines ρ fuel) (slot : Slot) (fresh : slot.Fresh) :
    Simulates Prod.fst (fun entry => slot.Leaves ρ entry.2)
      (drawFrom (Slot.force (fuel + 1)) slot) (slot.draws ρ).first := by
  cases slot with
  | fixed value =>
    rw [drawFrom_fixed]
    exact Simulates.pure ⟨trivial, rfl⟩ rfl
  | face sides =>
    rw [drawFrom_face]
    exact (Simulates.refl (rollFace sides)).map fun value _ => ⟨⟨trivial, rfl⟩, rfl⟩
  | negative slot =>
    rw [drawFrom_negative]
    apply (known.draw slot fresh).bind
    intro entry leaves
    exact (Simulates.refl (settle _)).map fun value _ => ⟨leaves.negative, rfl⟩
  | bonus op slot amount =>
    rw [drawFrom_bonus]
    apply (known.draw slot fresh).bind
    intro entry leaves
    apply (known.total amount).bind
    intro extra _
    exact (Simulates.refl (settle _)).map fun value _ => ⟨leaves.bonus op amount, rfl⟩
  | explode cmp cutoff slot =>
    rw [drawFrom_explode]
    apply (known.draw slot fresh).bind
    intro entry leaves
    have loop := known.explodeFrom cmp cutoff fuel entry.1 entry.1 entry.2 leaves.settled
    rw [leaves.later] at loop
    exact (loop.unbounded (Stateless.grows_explodeWithin _ cmp cutoff _ _)).map fun last later =>
      ⟨Slot.Leaves.explode ⟨later.settled, later.later.trans leaves.later⟩ cmp cutoff, rfl⟩
  | threshold cmp cutoff slot =>
    rw [drawFrom_threshold]
    apply (known.draw slot fresh).bind
    intro entry leaves
    exact Simulates.pure (leaves.threshold cmp cutoff) rfl
  | drawn memo slot =>
    cases memo with
    | resolved value =>
      rw [drawFrom_resolved]
      exact Simulates.pure ⟨fresh, rfl⟩ rfl
    | spent =>
      rw [drawFrom_spent]
      exact (known.draw slot fresh).map fun entry leaves => ⟨leaves.spent, rfl⟩

/-- The values of a pool are simulated by its first draws. -/
theorem values (known : Refines ρ fuel) (die : Die) :
    Simulates id (fun _ => True) (die.values fuel)
      (do let pool ← Stateless.generate (ρ := ρ) die
          pool.mapM Stateless.Draws.first) :=
  (known.generate die).bind fun _ fresh => (known.drawAll fresh).map fun _ _ => ⟨trivial, rfl⟩

end Refines

/-- Generating, totalling and drawing refine stateless evaluation with any fuel. -/
theorem refines (ρ : Type) [Roller ρ] (fuel : Nat) : Refines ρ fuel := by
  induction fuel with
  | zero => exact Refines.zero
  | succ fuel known => exact ⟨known.generate_succ, known.total_succ, known.draw_succ⟩

/-- Every evaluation that ends, as all do under a budget, gives the same result, counts the same
rolls and leaves the roller at the same place as the evaluation without memos. -/
theorem roll_and_pool_refine_stateless (ρ : Type) [Roller ρ] (die : Die) (context : Context ρ) :
    (∀ out, die.roll context = some out → Stateless.roll die context = some out) ∧
    (∀ out, die.pool context = some out → Stateless.pool die context = some out) ∧
    (∀ fuel out, die.total fuel { context with rolls := 0 } = some out →
      Stateless.roll die context = some out) ∧
    (∀ fuel out, die.values fuel { context with rolls := 0 } = some out →
      Stateless.pool die context = some out) ∧
    ∀ most, context.budget = some most → most < rollLimit →
      (∃ out, die.roll context = some out) ∧ ∃ out, die.pool context = some out := by
  have totals (fuel : Nat) (out : Except RollError Int64 × Context ρ)
      (run : die.total fuel { context with rolls := 0 } = some out) :
      Stateless.roll die context = some out := by
    have same := ((refines ρ fuel).total die _ _ _ run).1
    rw [Except.map_id] at same
    exact same
  have pools (fuel : Nat) (out : Except RollError (List Int64) × Context ρ)
      (run : die.values fuel { context with rolls := 0 } = some out) :
      Stateless.pool die context = some out := by
    have same := ((refines ρ fuel).values die _ _ _ run).1
    rw [Except.map_id] at same
    exact same
  refine ⟨?_, ?_, totals, pools, ?_⟩
  · intro out run
    rw [Die.roll_apply] at run
    exact totals _ out run
  · intro out run
    rw [Die.pool_apply] at run
    exact pools _ out run
  · intro most bounded room
    obtain ⟨total, after, rolled, -⟩ := die.roll_ends room bounded
    obtain ⟨values, later, pooled, -⟩ := die.pool_ends room bounded
    exact ⟨⟨_, rolled⟩, ⟨_, pooled⟩⟩

/-- A six that is rolled again hands out its memo and is then drawn afresh when it explodes, which
the evaluation without memos does as well. -/
theorem roll_and_pool_refine_stateless_of_six :
    let cycle : FaceCycle := ⟨[6, 2, 3], by decide, 0⟩
    let die := Die.explode .above (.constant 6)
      (.again .above (.constant 6) (.dice (.constant 1) (.constant 6)))
    let context := Context.start (some 6) cycle
    (∃ out, die.roll context = some out ∧ Stateless.roll die context = some out ∧
      (out.1.toOption, out.2.rolls, out.2.roller.taken) = (some 11, 5, 3)) ∧
    (∃ out, die.pool context = some out ∧ Stateless.pool die context = some out ∧
      (out.1.toOption, out.2.rolls, out.2.roller.taken) = (some [9, 2], 5, 3)) := by
  intro cycle die context
  obtain ⟨rolled, pooled, -⟩ := roll_and_pool_refine_stateless FaceCycle die context
  have total : (die.roll context).map (fun out =>
      (out.1.toOption, out.2.rolls, out.2.roller.taken)) = some (some 11, 5, 3) := by
    decide +kernel
  have values : (die.pool context).map (fun out =>
      (out.1.toOption, out.2.rolls, out.2.roller.taken)) = some (some [9, 2], 5, 3) := by
    decide +kernel
  constructor
  · obtain ⟨out, ends, shown⟩ := Option.map_eq_some_iff.1 total
    exact ⟨out, ends, rolled out ends, shown⟩
  · obtain ⟨out, ends, shown⟩ := Option.map_eq_some_iff.1 values
    exact ⟨out, ends, pooled out ends, shown⟩

end DicePool
