import DicePool.Proofs.Rerolling

/-!
# Forced slots forget

In a pool no memo holds a value under another one, so the first draw from a slot hands out what it
remembers, or draws afresh, and leaves no value behind. A slot that remembers nothing draws as if
it had never had a memo, and is left as it was. That is what lets a slot that hits be rolled
again: the copy remembers nothing, so what it gives is drawn anew.
-/

namespace DicePool

namespace Slot

/-- The slots that a slot is made of, itself first. -/
def parts : Slot → List Slot
  | fixed value => [fixed value]
  | face sides => [face sides]
  | negative slot => negative slot :: slot.parts
  | bonus op slot amount => bonus op slot amount :: slot.parts
  | explode cmp cutoff slot => explode cmp cutoff slot :: slot.parts
  | threshold cmp cutoff slot => threshold cmp cutoff slot :: slot.parts
  | drawn memo slot => drawn memo slot :: slot.parts

/-- Somewhere in the slot a memo holds a value. -/
def Remembers (slot : Slot) : Prop := ∃ value inner, drawn (.resolved value) inner ∈ slot.parts

/-- Somewhere in the slot a memo holds a value over another one that does. -/
def RemembersTwice (slot : Slot) : Prop :=
  ∃ value inner, drawn (.resolved value) inner ∈ slot.parts ∧ inner.Remembers

/-- The slot without its memos. -/
def bare : Slot → Slot
  | fixed value => fixed value
  | face sides => face sides
  | negative slot => negative slot.bare
  | bonus op slot amount => bonus op slot.bare amount
  | explode cmp cutoff slot => explode cmp cutoff slot.bare
  | threshold cmp cutoff slot => threshold cmp cutoff slot.bare
  | drawn _ slot => slot.bare

/-- A slot is settled when it remembers nothing. -/
theorem settled_iff_not_remembers {slot : Slot} : slot.Settled ↔ ¬slot.Remembers := by
  induction slot with
  | fixed value | face sides => simp [Settled, Remembers, parts]
  | negative slot ih | bonus op slot amount ih | explode cmp cutoff slot ih
  | threshold cmp cutoff slot ih =>
    simp only [Settled, ih, Remembers, parts, List.mem_cons, reduceCtorEq, false_or]
  | drawn memo slot ih =>
    cases memo with
    | resolved value =>
      simp only [Settled, Remembers, parts, List.mem_cons, false_iff, not_not]
      exact ⟨value, slot, .inl rfl⟩
    | spent =>
      simp only [Settled, ih, Remembers, parts, List.mem_cons, drawn.injEq, reduceCtorEq,
        false_and, false_or]

/-- A slot is fresh when it remembers nothing under a memo. -/
theorem fresh_iff_not_remembersTwice {slot : Slot} : slot.Fresh ↔ ¬slot.RemembersTwice := by
  induction slot with
  | fixed value | face sides => simp [Fresh, RemembersTwice, parts]
  | negative slot ih | bonus op slot amount ih | explode cmp cutoff slot ih
  | threshold cmp cutoff slot ih =>
    simp only [Fresh, ih, RemembersTwice, parts, List.mem_cons, reduceCtorEq, false_or]
  | drawn memo slot ih =>
    cases memo with
    | resolved value =>
      rw [Fresh, settled_iff_not_remembers, not_iff_not]
      constructor
      · intro remembers
        exact ⟨value, slot, List.mem_cons_self, remembers⟩
      · rintro ⟨other, inner, member, remembers⟩
        rcases List.mem_cons.1 member with same | inside
        · cases same
          exact remembers
        · exact ⟨other, inner, inside⟩
    | spent =>
      simp only [Fresh, ih, RemembersTwice, parts, List.mem_cons, drawn.injEq, reduceCtorEq,
        false_and, false_or]

end Slot

/-- A draw, with the slot that it leaves taken without its memos. -/
def bareEntry (drawn : Int64 × Slot) : Int64 × Slot := (drawn.1, drawn.2.bare)

section

variable {ρ : Type} {force : Slot → Table ρ Forced} {slot : Slot}

/-- The loop of an exploding slot does the same without memos if the draws do. -/
theorem simulates_bare_explodeFrom
    (draw : Simulates bareEntry (fun entry => entry.2 = slot) (drawFrom force slot)
      (drawFrom force slot.bare)) (cmp : Comparison) (cutoff : Int64) (turns : Nat) :
    ∀ total last, Simulates bareEntry (fun entry => entry.2 = slot)
      (drawFrom (explodeFrom force cmp cutoff turns total last) slot)
      (drawFrom (explodeFrom force cmp cutoff turns total last) slot.bare) := by
  induction turns with
  | zero =>
    intro total last
    rw [drawFrom_explodeFrom_zero]
    exact Simulates.exhausted _
  | succ turns ih =>
    intro total last
    cases holds : cmp.holds last cutoff with
    | false =>
      rw [drawFrom_explodeFrom_miss _ _ _ _ _ _ _ holds,
        drawFrom_explodeFrom_miss _ _ _ _ _ _ _ holds]
      exact Simulates.pure rfl rfl
    | true =>
      rw [drawFrom_explodeFrom_hit _ _ _ _ _ _ _ holds,
        drawFrom_explodeFrom_hit _ _ _ _ _ _ _ holds]
      apply (Simulates.refl countRoll).bind
      intro _ _
      apply draw.bind
      intro entry same
      apply (Simulates.refl (settle _)).bind
      intro total _
      rw [bareEntry, same]
      exact ih total entry.1

/-- What is simulated with some fuel is simulated with more. -/
theorem Simulates.of_le {α β : Type} {view : α → β} {Kept : α → Prop} {code : Rolling ρ α}
    {plain : Nat → Rolling ρ β} {fuel more : Nat} (within : Simulates view Kept code (plain fuel))
    (steady : Steady plain) (le : fuel ≤ more) : Simulates view Kept code (plain more) := by
  intro context result after run
  obtain ⟨same, kept⟩ := within context result after run
  exact ⟨steady le same, kept⟩

variable [Roller ρ]

/-- A slot that remembers nothing is drawn from as it would be without memos, and stays as it
is. -/
theorem Slot.Settled.simulates_bare (settled : slot.Settled) (fuel : Nat) :
    Simulates bareEntry (fun entry => entry.2 = slot)
      (drawFrom (Slot.force fuel) slot : Rolling ρ (Int64 × Slot))
      (drawFrom (Slot.force fuel) slot.bare) := by
  induction fuel generalizing slot with
  | zero =>
    rw [drawFrom_zero]
    exact Simulates.exhausted _
  | succ fuel known =>
    cases slot with
    | fixed value =>
      rw [bare, drawFrom_fixed]
      exact Simulates.pure rfl rfl
    | face sides =>
      rw [bare, drawFrom_face]
      apply (Simulates.refl (rollFace sides)).bind
      intro value _
      exact Simulates.pure rfl rfl
    | negative slot =>
      rw [bare, drawFrom_negative, drawFrom_negative]
      apply (known (show slot.Settled from settled)).bind
      intro entry same
      apply (Simulates.refl (settle _)).bind
      intro value _
      exact Simulates.pure (congrArg _ same) rfl
    | bonus op slot amount =>
      rw [bare, drawFrom_bonus, drawFrom_bonus]
      apply (known (show slot.Settled from settled)).bind
      intro entry same
      apply (Simulates.refl (amount.total fuel)).bind
      intro extra _
      apply (Simulates.refl (settle _)).bind
      intro value _
      exact Simulates.pure (congrArg (Slot.bonus op · amount) same) rfl
    | explode cmp cutoff slot =>
      rw [bare, drawFrom_explode, drawFrom_explode]
      have draw := known (show slot.Settled from settled)
      apply draw.bind
      intro entry same
      rw [bareEntry, same]
      apply (simulates_bare_explodeFrom draw cmp cutoff fuel entry.1 entry.1).bind
      intro last kept
      exact Simulates.pure (congrArg _ kept) rfl
    | threshold cmp cutoff slot =>
      rw [bare, drawFrom_threshold, drawFrom_threshold]
      apply (known (show slot.Settled from settled)).bind
      intro entry same
      exact Simulates.pure (congrArg _ same) rfl
    | drawn memo slot =>
      cases memo with
      | resolved value => exact settled.elim
      | spent =>
        rw [bare, drawFrom_spent]
        have draw := known (show slot.Settled from settled)
        refine Simulates.of_le ?_ slot.bare.steady_draw (Nat.le_succ fuel)
        refine Simulates.map draw fun entry same => ?_
        exact ⟨congrArg (Slot.drawn .spent) same, rfl⟩

/-- What a slot that remembers nothing draws, it would draw without memos. -/
theorem Slot.Settled.bare_drawsTo (settled : slot.Settled) {context after : Context ρ}
    {result : Except RollError (Int64 × Slot)} (draws : slot.DrawsTo context result after) :
    slot.bare.DrawsTo context (result.map bareEntry) after := by
  obtain ⟨fuel, run⟩ := draws
  exact ⟨fuel, (settled.simulates_bare fuel context result after run).1⟩

/-- However often fresh slots are rolled again, no draw leaves a value to hand out. -/
theorem Descends.settled {cmp : Comparison} {cutoff : Int64} {slots : Pool}
    {context after : Context ρ} {drawn : List (List (Int64 × Slot))}
    (descends : Descends cmp cutoff slots context drawn after)
    (fresh : ∀ slot ∈ slots, slot.Fresh) :
    ∀ generation ∈ drawn, ∀ entry ∈ generation, entry.2.Settled := by
  induction descends with
  | last draws misses =>
    intro generation member
    obtain rfl := List.mem_singleton.1 member
    exact settled_of_forall₂ draws.each fresh
  | next draws some_hit rest ih =>
    have first := settled_of_forall₂ draws.each fresh
    refine List.forall_mem_cons.2 ⟨first, ih fun slot member => ?_⟩
    obtain ⟨entry, hit, rfl⟩ := List.mem_map.1 member
    exact (first entry (List.mem_of_mem_filter hit)).fresh

/-- A force that gives a value is a draw of that value. -/
theorem Slot.yields_of_force {fuel : Nat} {before later : Context ρ} {value : Int64} {left : Slot}
    (forced : slot.force fuel before = some (⟨.ok value, left⟩, later)) :
    slot.Yields ρ (value, left) := by
  refine ⟨before, later, fuel, ?_⟩
  rw [drawFrom_apply, forced]
  rfl

end

/-- In a pool no memo with a value lies over another. A successful force leaves none, and changes
the slot no more; so slots that are rolled again hand out nothing drawn before. -/
theorem forced_slots_remember_nothing (ρ : Type) [Roller ρ] (die : Die) {context after : Context ρ}
    {pool : Pool} (made : die.GeneratesTo context (.ok pool) after) :
    (∀ slot ∈ pool, ¬slot.RemembersTwice ∧
      ∀ (σ : Type) [Roller σ] (fuel : Nat) (before later : Context σ) (value : Int64) (left : Slot),
        slot.force fuel before = some (⟨.ok value, left⟩, later) → ¬left.Remembers) ∧
    (∀ slot : Slot, ¬slot.Remembers →
      ∀ (σ : Type) [Roller σ] (fuel : Nat) (before later : Context σ) (forced : Forced),
        slot.force fuel before = some (forced, later) → forced.slot = slot) ∧
    ∀ (σ : Type) [Roller σ] (cmp : Comparison) (cutoff : Int64) (before later : Context σ)
      (drawn : List (List (Int64 × Slot))), Descends cmp cutoff pool before drawn later →
        ∀ generation ∈ drawn, ∀ copy ∈ (hits cmp cutoff generation).map Prod.snd,
          ¬copy.Remembers ∧
          ∀ (start last : Context σ) (result : Except RollError (Int64 × Slot)),
            copy.DrawsTo start result last →
              copy.bare.DrawsTo start (result.map bareEntry) last := by
  have fresh : ∀ slot ∈ pool, slot.Fresh := by
    obtain ⟨fuel, run⟩ := made
    exact Die.fresh_of_generate run
  refine ⟨?_, ?_, ?_⟩
  · intro slot member
    refine ⟨Slot.fresh_iff_not_remembersTwice.1 (fresh slot member), ?_⟩
    intro σ _ fuel before later value left forced
    have settled := (fresh slot member).settled_of_yields (Slot.yields_of_force forced)
    exact Slot.settled_iff_not_remembers.1 settled
  · intro slot forgets σ _ fuel before later forced run
    exact (Slot.settled_iff_not_remembers.2 forgets).leavesAs _ _ _ _ run
  · intro σ _ cmp cutoff before later drawn descends generation among copy member
    obtain ⟨entry, hit, rfl⟩ := List.mem_map.1 member
    have settled : entry.2.Settled :=
      descends.settled fresh generation among entry (List.mem_of_mem_filter hit)
    exact ⟨Slot.settled_iff_not_remembers.1 settled, fun _ _ _ draws => settled.bare_drawsTo draws⟩

/-- A kept five is rolled again: it hands out its memo once, and the copies are drawn anew. -/
theorem forced_slots_remember_nothing_of_five :
    let cycle (taken : Nat) : FaceCycle := ⟨[5, 2, 6, 1], by decide, taken⟩
    let start : Context FaceCycle := Context.start (some 9) (cycle 0)
    let kept : Context FaceCycle := ⟨some 9, 2, cycle 2⟩
    let after : Context FaceCycle := ⟨some 9, 6, cycle 4⟩
    let two := Die.dice (.constant 2) (.constant 6)
    let slot : Slot := .drawn (.resolved 5) (.face 6)
    let copy : Slot := .drawn .spent (.face 6)
    (Die.keep .highest (.constant 1) two).GeneratesTo start (.ok [slot]) kept ∧
    ¬slot.RemembersTwice ∧
    slot.force 1 kept = some (⟨.ok 5, copy⟩, kept) ∧ ¬copy.Remembers ∧
    (∀ (fuel : Nat) (later : Context FaceCycle) (forced : Forced),
      copy.force fuel kept = some (forced, later) → forced.slot = copy) ∧
    Descends .above 5 [slot] kept [[(5, copy)], [(6, copy)], [(1, copy)]] after ∧
    copy.DrawsTo after (.ok (5, copy)) ⟨some 9, 7, cycle 5⟩ ∧
    copy.bare.DrawsTo after (.ok (5, .face 6)) ⟨some 9, 7, cycle 5⟩ := by
  intro cycle start kept after two slot copy
  have made : (Die.keep .highest (.constant 1) two).GeneratesTo start (.ok [slot]) kept :=
    ⟨5, by cbv⟩
  have forced : slot.force 1 kept = some (⟨.ok 5, copy⟩, kept) := by cbv
  have descends : Descends .above 5 [slot] kept [[(5, copy)], [(6, copy)], [(1, copy)]] after := by
    have first : Pool.DrawsCounting [slot] .above 5 kept [(5, copy)] ⟨some 9, 3, cycle 2⟩ :=
      ⟨1, by cbv⟩
    have second : Pool.DrawsCounting [copy] .above 5 ⟨some 9, 3, cycle 2⟩ [(6, copy)]
        ⟨some 9, 5, cycle 3⟩ := ⟨2, by cbv⟩
    have third : Pool.DrawsCounting [copy] .above 5 ⟨some 9, 5, cycle 3⟩ [(1, copy)] after :=
      ⟨2, by cbv⟩
    exact .next first (by decide) (.next second (by decide) (.last third (by decide)))
  have draws : copy.DrawsTo after (.ok (5, copy)) ⟨some 9, 7, cycle 5⟩ := ⟨2, by cbv⟩
  obtain ⟨slots, settled, copies⟩ := forced_slots_remember_nothing FaceCycle _ made
  obtain ⟨once, forgets⟩ := slots slot (List.mem_singleton_self slot)
  have nothing : ¬copy.Remembers := forgets FaceCycle 1 kept kept 5 copy forced
  have hit : copy ∈ (hits .above 5 [(5, copy)]).map Prod.snd := List.mem_singleton_self copy
  have anew := (copies FaceCycle .above 5 kept after _ descends [(5, copy)]
    List.mem_cons_self copy hit).2 after _ _ draws
  exact ⟨made, once, forced, nothing,
    fun fuel later forced run => settled copy nothing FaceCycle fuel kept later forced run,
    descends, draws, anew⟩

end DicePool
