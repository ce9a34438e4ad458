import Mathlib
import DicePool.Proofs.Outcome
import DicePool.Proofs.Refinement

/-!
# Remembered draws

A remembered draw is handed out once, and nothing is asked of the context for it. Under its memo
lies the slot as the draw left it, with no value to hand out. From then on no draw changes that
slot, so a slot that is drawn from again is the same slot, and its draws are new ones.
-/

namespace DicePool

variable {ρ α β : Type}

/-- What holds of every step relates the values to the results, one by one. -/
theorem Rolling.forall₂_of_mapM {Rel : α → β → Prop} {step : α → Rolling ρ β} {values : List α}
    (each : ∀ value ∈ values, ∀ context result after,
      step value context = some (.ok result, after) → Rel value result)
    {results : List β} {context after : Context ρ}
    (run : values.mapM step context = some (.ok results, after)) :
    List.Forall₂ Rel values results := by
  induction values generalizing results context with
  | nil =>
    cases run
    exact .nil
  | cons value values ih =>
    rw [List.mapM_cons, Rolling.bind_eq_ok_iff] at run
    obtain ⟨head, reached, first, rest⟩ := run
    obtain ⟨tail, last, others, ended⟩ := Rolling.bind_eq_ok_iff.1 rest
    cases ended
    have related := each value List.mem_cons_self context head reached first
    have behind := ih (fun other member => each other (List.mem_cons_of_mem _ member)) others
    exact .cons related behind

/-- A draw from the slot gives the value and leaves the slot so, in some context. -/
def Slot.Yields (ρ : Type) [Roller ρ] (slot : Slot) (entry : Int64 × Slot) : Prop :=
  ∃ before later : Context ρ, slot.DrawsTo before (.ok entry) later

/-- Every draw from a pool is a draw from its own slot. -/
theorem Pool.DrawsTo.each [Roller ρ] {pool : Pool} {context after : Context ρ}
    {drawn : List (Int64 × Slot)} (draws : pool.DrawsTo context (.ok drawn) after) :
    List.Forall₂ (Slot.Yields ρ) pool drawn := by
  obtain ⟨fuel, run⟩ := draws
  exact Rolling.forall₂_of_mapM
    (fun slot _ before entry later draw => ⟨before, later, fuel, draw⟩) run

/-- Wherever the step at the table ends, it leaves the slot. -/
def Table.LeavesAs (slot : Slot) (step : Table ρ Forced) : Prop :=
  ∀ context forced after, step context = some (forced, after) → forced.slot = slot

namespace Table.LeavesAs

variable {slot outer : Slot}

/-- Without fuel nothing is left. -/
theorem exhausted : LeavesAs slot (exhausted : Table ρ Forced) := by
  intro context forced after run
  cases run

/-- A step may come to any value beside the slot. -/
theorem pure (value : Except RollError Int64) :
    LeavesAs slot (Pure.pure ⟨value, slot⟩ : Table ρ Forced) := by
  intro context forced after run
  cases run
  rfl

/-- What is done before does not matter, if no slot comes from it. -/
theorem behind {first : Table ρ α} {next : α → Table ρ Forced}
    (rest : ∀ value, LeavesAs slot (next value)) : LeavesAs slot (first >>= next) := by
  intro context forced after run
  obtain ⟨value, reached, -, later⟩ := Table.bind_eq_some_iff.1 run
  exact rest value reached forced after later

/-- A slot that is left by one step is the one that the next step has. -/
theorem through {first : Table ρ Forced} {next : Forced → Table ρ Forced}
    (leaves : LeavesAs slot first) (rest : ∀ value, LeavesAs outer (next ⟨value, slot⟩)) :
    LeavesAs outer (first >>= next) := by
  intro context forced after run
  obtain ⟨⟨value, left⟩, reached, forces, later⟩ := Table.bind_eq_some_iff.1 run
  obtain rfl : left = slot := leaves context _ reached forces
  exact rest value reached forced after later

/-- The loop of an exploding slot leaves the slot as the draws do. -/
theorem explodeFrom {force : Slot → Table ρ Forced} (keeps : LeavesAs slot (force slot))
    (cmp : Comparison) (cutoff : Int64) (turns : Nat) : ∀ total last : Int64,
      LeavesAs slot (explodeFrom force cmp cutoff turns total last slot) := by
  induction turns with
  | zero => exact fun _ _ => exhausted
  | succ turns ih =>
    intro total last
    rw [DicePool.explodeFrom]
    split
    · apply behind
      intro granted
      cases granted with
      | error error => exact pure (.error error)
      | ok _ =>
        apply keeps.through
        intro value
        cases value with
        | error error => exact pure (.error error)
        | ok value =>
          dsimp only
          cases Arithmetic.add.apply total value with
          | error error => exact pure (.error error)
          | ok total => exact ih total value
    · exact pure (.ok total)

end Table.LeavesAs

/-- A slot without a value to hand out is left by every draw as it was. -/
theorem Slot.Settled.leavesAs [Roller ρ] {slot : Slot} (settled : slot.Settled) (fuel : Nat) :
    Table.LeavesAs slot (slot.force fuel : Table ρ Forced) := by
  induction fuel generalizing slot with
  | zero => exact .exhausted
  | succ fuel ih =>
    cases slot with
    | fixed value => exact .pure (.ok value)
    | face sides =>
      rw [Slot.force]
      exact .behind fun value => .pure value
    | negative slot | threshold cmp cutoff slot =>
      rw [Slot.force]
      exact (ih (show slot.Settled from settled)).through fun value => .pure _
    | bonus op slot amount =>
      rw [Slot.force]
      apply (ih (show slot.Settled from settled)).through
      intro value
      cases value with
      | error error => exact .pure (.error error)
      | ok value => exact .behind fun extra => .pure _
    | explode cmp cutoff slot =>
      rw [Slot.force]
      have draws := ih (show slot.Settled from settled)
      apply draws.through
      intro value
      cases value with
      | error error => exact .pure (.error error)
      | ok value =>
        exact (draws.explodeFrom cmp cutoff fuel value value).through fun last => .pure last
    | drawn memo slot =>
      cases memo with
      | resolved value => exact settled.elim
      | spent =>
        rw [Slot.force]
        exact (ih (show slot.Settled from settled)).through fun value => .pure value

section

variable [Roller ρ] {fuel : Nat} {context after : Context ρ}

/-- The slots of a die hold no value under a value. -/
theorem Die.fresh_of_generate {die : Die} {pool : Pool}
    (made : die.generate fuel context = some (.ok pool, after)) : ∀ slot ∈ pool, slot.Fresh :=
  ((refines ρ fuel).generate die context _ after made).2 pool rfl

/-- A draw leaves no value to hand out. -/
theorem Slot.Fresh.settled_of_yields {slot : Slot} (fresh : slot.Fresh) {entry : Int64 × Slot}
    (yields : slot.Yields ρ entry) : entry.2.Settled := by
  obtain ⟨before, later, fuel, drawn⟩ := yields
  exact (((refines ρ fuel).draw slot fresh before _ later drawn).2 entry rfl).settled

/-- A slot without a value to hand out is the slot that a draw from it leaves. -/
theorem Slot.Settled.slot_of_yields {slot : Slot} (settled : slot.Settled) {entry : Int64 × Slot}
    (yields : slot.Yields ρ entry) : entry.2 = slot := by
  obtain ⟨before, later, fuel, drawn⟩ := yields
  rw [drawFrom_apply] at drawn
  cases forces : slot.force fuel before with
  | none =>
    rw [forces] at drawn
    cases drawn
  | some out =>
    obtain ⟨⟨error | value, left⟩, reached⟩ := out
    · rw [forces] at drawn
      cases drawn
    · rw [forces] at drawn
      cases drawn
      exact settled.leavesAs _ _ _ _ forces

/-- Draws from fresh slots leave no values to hand out. -/
theorem settled_of_forall₂ {slots : Pool} {drawn : List (Int64 × Slot)}
    (each : List.Forall₂ (Slot.Yields ρ) slots drawn) (fresh : ∀ slot ∈ slots, slot.Fresh) :
    ∀ entry ∈ drawn, entry.2.Settled := by
  induction each with
  | nil =>
    intro entry member
    cases member
  | cons yields rest ih =>
    rw [List.forall_mem_cons] at fresh
    rw [List.forall_mem_cons]
    exact ⟨fresh.1.settled_of_yields yields, ih fresh.2⟩

/-- Draws from slots without values to hand out leave the slots as they were. -/
theorem slots_of_forall₂ {slots : Pool} {drawn : List (Int64 × Slot)}
    (each : List.Forall₂ (Slot.Yields ρ) slots drawn) (settled : ∀ slot ∈ slots, slot.Settled) :
    drawn.map Prod.snd = slots := by
  induction each with
  | nil => rfl
  | cons yields rest ih =>
    rw [List.forall_mem_cons] at settled
    rw [List.map_cons, settled.1.slot_of_yields yields, ih settled.2]

end

/-- What a remembered draw is once its value has been handed out. -/
def handedOut (drawn : Int64 × Slot) : Int64 × Slot := (drawn.1, .drawn .spent drawn.2)

/-- Remembered draws are handed out in order, and the context stays as it is. -/
theorem drawAll_remember [Roller ρ] (fuel : Nat) (drawn : List (Int64 × Slot)) :
    drawAll (Slot.force (ρ := ρ) (fuel + 1)) (drawn.map remember) =
      pure (drawn.map handedOut) := by
  have each : drawFrom (Slot.force (ρ := ρ) (fuel + 1)) ∘ remember =
      fun entry => pure (handedOut entry) :=
    funext fun entry => drawFrom_resolved fuel entry.1 entry.2
  rw [drawAll, List.mapM_map, each, List.mapM_pure]

end DicePool
