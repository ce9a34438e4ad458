import DicePool.Evaluation

/-!
# Drawing step by step

A force reports a refusal beside the slot it leaves, and so it runs at the table. Read
as a computation that can be refused, it is a few steps for each kind of slot. These
equations are all that later proofs use of the way slots are forced.
-/

namespace DicePool

variable {ρ α β : Type}

/-- Nothing happens after a refusal. -/
theorem Rolling.bind_apply (first : Rolling ρ α) (next : α → Rolling ρ β) (context : Context ρ) :
    (first >>= next) context =
      match first context with
      | none => none
      | some (.error error, context) => some (.error error, context)
      | some (.ok value, context) => next value context := by
  simp only [bind, ExceptT.bind, StateT.bind, ExceptT.mk]
  cases first context with
  | none => rfl
  | some out => obtain ⟨error | value, context⟩ := out <;> rfl

/-- What is done at the table is never refused. -/
theorem Rolling.lift_apply (first : Table ρ α) (context : Context ρ) :
    (liftM first : Rolling ρ α) context =
      match first context with
      | none => none
      | some (value, context) => some (.ok value, context) := by
  change (ExceptT.lift first : Rolling ρ α) context = _
  unfold ExceptT.lift ExceptT.mk
  simp only [Functor.map, StateT.map]
  cases first context <;> rfl

/-- A step on slots goes on with the value and the context that the first one leaves. -/
theorem Table.bind_apply (first : Table ρ α) (next : α → Table ρ β) (context : Context ρ) :
    (first >>= next) context =
      match first context with
      | none => none
      | some (value, context) => next value context := by
  simp only [bind, StateT.bind]
  cases first context <;> rfl

/-- A sequence of two steps ends with a refusal of the first, or as the second does. -/
theorem Rolling.bind_eq_some_iff {first : Rolling ρ α} {next : α → Rolling ρ β}
    {context after : Context ρ} {result : Except RollError β} :
    (first >>= next) context = some (result, after) ↔
      (∃ error, first context = some (.error error, after) ∧ result = .error error) ∨
        ∃ value reached, first context = some (.ok value, reached) ∧
          next value reached = some (result, after) := by
  rw [bind_apply]
  constructor
  · intro ends
    cases known : first context with
    | none =>
      rw [known] at ends
      cases ends
    | some out =>
      obtain ⟨error | value, reached⟩ := out
      · rw [known] at ends
        cases ends
        exact .inl ⟨error, rfl, rfl⟩
      · rw [known] at ends
        exact .inr ⟨value, reached, rfl, ends⟩
  · rintro (⟨error, refused, rfl⟩ | ⟨value, reached, done, ends⟩)
    · rw [refused]
    · rw [done]
      exact ends

/-- A sequence of two steps has a value where both have one. -/
theorem Rolling.bind_eq_ok_iff {first : Rolling ρ α} {next : α → Rolling ρ β}
    {context after : Context ρ} {value : β} :
    (first >>= next) context = some (.ok value, after) ↔
      ∃ middle reached, first context = some (.ok middle, reached) ∧
        next middle reached = some (.ok value, after) := by
  rw [bind_eq_some_iff]
  constructor
  · rintro (⟨error, -, same⟩ | ends)
    · cases same
    · exact ends
  · exact .inr

/-- A last step that asks nothing of the context leaves it as it is. -/
theorem Rolling.bind_settle_eq_some_iff {first : Rolling ρ α} {finish : α → Except RollError β}
    {context after : Context ρ} {result : Except RollError β} :
    (first >>= fun value => settle (finish value)) context = some (result, after) ↔
      ∃ outcome, first context = some (outcome, after) ∧ result = outcome.bind finish := by
  rw [bind_eq_some_iff]
  constructor
  · rintro (⟨error, refused, rfl⟩ | ⟨value, reached, done, ended⟩)
    · exact ⟨.error error, refused, rfl⟩
    · cases ended
      exact ⟨.ok value, done, rfl⟩
  · rintro ⟨error | value, ends, rfl⟩
    · exact .inl ⟨error, ends, rfl⟩
    · exact .inr ⟨value, after, ends, rfl⟩

/-- What is made of a result changes neither its refusals nor the context. -/
theorem Rolling.bind_pure_eq_some_iff {first : Rolling ρ α} {make : α → β}
    {context after : Context ρ} {result : Except RollError β} :
    (first >>= fun value => pure (make value)) context = some (result, after) ↔
      ∃ outcome, first context = some (outcome, after) ∧ result = outcome.map make := by
  have made (outcome : Except RollError α) :
      (outcome.bind fun value => .ok (make value)) = outcome.map make := by
    cases outcome <;> rfl
  simp only [← made]
  exact bind_settle_eq_some_iff

/-- What is made of an outcome is a result where the outcome is. -/
theorem exists_ok_eq_map_iff {holds : Except RollError α → Prop} {make : α → β} {value : β} :
    (∃ outcome, holds outcome ∧ .ok value = outcome.map make) ↔
      ∃ made, holds (.ok made) ∧ value = make made := by
  constructor
  · rintro ⟨error | made, known, same⟩
    · cases same
    · cases same
      exact ⟨made, known, rfl⟩
  · rintro ⟨made, known, rfl⟩
    exact ⟨.ok made, known, rfl⟩

/-- It is refused where the outcome is. -/
theorem exists_error_eq_map_iff {holds : Except RollError α → Prop} {make : α → β}
    {error : RollError} :
    (∃ outcome, holds outcome ∧ .error error = outcome.map make) ↔ holds (.error error) := by
  constructor
  · rintro ⟨cause | made, known, same⟩
    · cases same
      exact known
    · cases same
  · intro known
    exact ⟨.error error, known, rfl⟩

/-- Two steps on slots end exactly when both do, one after the other. -/
theorem Table.bind_eq_some_iff {first : Table ρ α} {next : α → Table ρ β}
    {context after : Context ρ} {value : β} :
    (first >>= next) context = some (value, after) ↔
      ∃ middle reached, first context = some (middle, reached) ∧
        next middle reached = some (value, after) := by
  rw [bind_apply]
  constructor
  · intro ends
    cases known : first context with
    | none =>
      rw [known] at ends
      cases ends
    | some out =>
      rw [known] at ends
      exact ⟨out.1, out.2, rfl, ends⟩
  · rintro ⟨middle, reached, done, ends⟩
    rw [done]
    exact ends

/-- A draw changes the context as the force does. -/
theorem drawFrom_apply (force : Slot → Table ρ Forced) (slot : Slot) (context : Context ρ) :
    drawFrom force slot context =
      match force slot context with
      | none => none
      | some (forced, context) =>
        some (forced.value.map fun value => (value, forced.slot), context) := by
  unfold drawFrom
  rw [Rolling.bind_apply, Rolling.lift_apply]
  cases force slot context with
  | none => rfl
  | some out => obtain ⟨⟨error | value, slot⟩, context⟩ := out <;> rfl

section

variable [Roller ρ]

/-- The values of all slots of a die. -/
def Die.values (fuel : Nat) (die : Die) : Rolling ρ (List Int64) := do
  let pool ← die.generate fuel
  let drawn ← drawAll (Slot.force fuel) pool
  return drawn.map Prod.fst

/-- Rolling totals the die with the fuel for its size, from a counter at zero. -/
theorem Die.roll_apply (die : Die) (context : Context ρ) :
    die.roll context =
      die.total (fuelFor context.budget die.size) { context with rolls := 0 } := rfl

/-- Pooling takes the values of the die with the fuel for its size, from a counter at zero. -/
theorem Die.pool_apply (die : Die) (context : Context ρ) :
    die.pool context =
      die.values (fuelFor context.budget die.size) { context with rolls := 0 } := rfl

/-- The slots of a die are generated with the fuel for its size. -/
theorem Die.slots_apply (die : Die) (context : Context ρ) :
    die.slots context = die.generate (fuelFor context.budget die.size) context := rfl

/-- A slot is forced with the fuel for its size. -/
theorem Slot.draw_apply (slot : Slot) (context : Context ρ) :
    slot.draw context = slot.force (fuelFor context.budget slot.size) context := rfl

end

section

variable [Roller ρ] (fuel : Nat)

/-- Nothing is drawn without fuel. -/
theorem drawFrom_zero (slot : Slot) :
    drawFrom (Slot.force (ρ := ρ) 0) slot = exhausted := by
  funext context
  rw [drawFrom_apply]
  rfl

/-- A fixed value is drawn as it is. -/
theorem drawFrom_fixed (value : Int64) :
    drawFrom (Slot.force (ρ := ρ) (fuel + 1)) (.fixed value) = pure (value, .fixed value) := by
  funext context
  rw [drawFrom_apply]
  rfl

/-- A face is rolled for every draw. -/
theorem drawFrom_face (sides : Int64) :
    drawFrom (Slot.force (ρ := ρ) (fuel + 1)) (.face sides) =
      (do let value ← rollFace sides
          return (value, .face sides)) := by
  funext context
  have forced : Slot.force (fuel + 1) (.face sides) =
      (do let value ← (rollFace sides).run
          return ⟨value, .face sides⟩ : Table ρ Forced) := rfl
  rw [drawFrom_apply, forced, Table.bind_apply, Rolling.bind_apply, ExceptT.run]
  cases rollFace sides context with
  | none => rfl
  | some out => obtain ⟨error | value, context⟩ := out <;> rfl

/-- A negated slot gives the negative of what it is drawn from. -/
theorem drawFrom_negative (slot : Slot) :
    drawFrom (Slot.force (ρ := ρ) (fuel + 1)) (.negative slot) =
      (do let drawn ← drawFrom (Slot.force fuel) slot
          let value ← settle (negate drawn.1)
          return (value, .negative drawn.2)) := by
  funext context
  have forced : Slot.force (fuel + 1) (.negative slot) =
      (do let inner ← slot.force fuel
          return ⟨inner.value.bind negate, .negative inner.slot⟩ : Table ρ Forced) := rfl
  rw [drawFrom_apply, forced, Table.bind_apply, Rolling.bind_apply, drawFrom_apply]
  cases Slot.force fuel slot context with
  | none => rfl
  | some out =>
    obtain ⟨⟨error | value, slot⟩, context⟩ := out
    · rfl
    · simp only [Except.map, Rolling.bind_apply, settle, Except.bind]
      cases negate value <;> rfl

/-- A bonus joins the draw with a fresh total of its amount. -/
theorem drawFrom_bonus (op : Arithmetic) (slot : Slot) (amount : Die) :
    drawFrom (Slot.force (ρ := ρ) (fuel + 1)) (.bonus op slot amount) =
      (do let drawn ← drawFrom (Slot.force fuel) slot
          let extra ← amount.total fuel
          let value ← settle (op.apply drawn.1 extra)
          return (value, .bonus op drawn.2 amount)) := by
  funext context
  rw [drawFrom_apply, Slot.force, Table.bind_apply, Rolling.bind_apply, drawFrom_apply]
  cases Slot.force fuel slot context with
  | none => rfl
  | some out =>
    obtain ⟨⟨error | value, slot⟩, context⟩ := out
    · rfl
    · simp only [Except.map, Rolling.bind_apply, Table.bind_apply, ExceptT.run]
      cases amount.total fuel context with
      | none => rfl
      | some out =>
        obtain ⟨error | extra, context⟩ := out
        · rfl
        · simp only [settle, Except.bind]
          cases op.apply value extra <;> rfl

/-- An exploding slot goes on drawing from the first value. -/
theorem drawFrom_explode (cmp : Comparison) (cutoff : Int64) (slot : Slot) :
    drawFrom (Slot.force (ρ := ρ) (fuel + 1)) (.explode cmp cutoff slot) =
      (do let drawn ← drawFrom (Slot.force fuel) slot
          let last ← drawFrom
            (explodeFrom (Slot.force fuel) cmp cutoff fuel drawn.1 drawn.1) drawn.2
          return (last.1, .explode cmp cutoff last.2)) := by
  funext context
  rw [drawFrom_apply, Slot.force, Table.bind_apply, Rolling.bind_apply, drawFrom_apply]
  cases Slot.force fuel slot context with
  | none => rfl
  | some out =>
    obtain ⟨⟨error | value, slot⟩, context⟩ := out
    · rfl
    · simp only [Except.map, Rolling.bind_apply, Table.bind_apply, drawFrom_apply]
      cases explodeFrom (Slot.force fuel) cmp cutoff fuel value value slot context with
      | none => rfl
      | some out => obtain ⟨⟨error | value, slot⟩, context⟩ := out <;> rfl

/-- A tested slot gives one for a hit and zero otherwise. -/
theorem drawFrom_threshold (cmp : Comparison) (cutoff : Int64) (slot : Slot) :
    drawFrom (Slot.force (ρ := ρ) (fuel + 1)) (.threshold cmp cutoff slot) =
      (do let drawn ← drawFrom (Slot.force fuel) slot
          return (if cmp.holds drawn.1 cutoff then 1 else 0, .threshold cmp cutoff drawn.2)) := by
  funext context
  have forced : Slot.force (fuel + 1) (.threshold cmp cutoff slot) =
      (do let inner ← slot.force fuel
          let value := inner.value.map fun value => if cmp.holds value cutoff then 1 else 0
          return ⟨value, .threshold cmp cutoff inner.slot⟩ : Table ρ Forced) := rfl
  rw [drawFrom_apply, forced, Table.bind_apply, Rolling.bind_apply, drawFrom_apply]
  cases Slot.force fuel slot context with
  | none => rfl
  | some out => obtain ⟨⟨error | value, slot⟩, context⟩ := out <;> rfl

/-- A memo with a value hands it out and is spent. -/
theorem drawFrom_resolved (value : Int64) (slot : Slot) :
    drawFrom (Slot.force (ρ := ρ) (fuel + 1)) (.drawn (.resolved value) slot) =
      pure (value, .drawn .spent slot) := by
  funext context
  rw [drawFrom_apply]
  rfl

/-- A spent memo draws from its slot. -/
theorem drawFrom_spent (slot : Slot) :
    drawFrom (Slot.force (ρ := ρ) (fuel + 1)) (.drawn .spent slot) =
      (do let drawn ← drawFrom (Slot.force fuel) slot
          return (drawn.1, .drawn .spent drawn.2)) := by
  funext context
  have forced : Slot.force (fuel + 1) (.drawn .spent slot) =
      (do let inner ← slot.force fuel
          return ⟨inner.value, .drawn .spent inner.slot⟩ : Table ρ Forced) := rfl
  rw [drawFrom_apply, forced, Table.bind_apply, Rolling.bind_apply, drawFrom_apply]
  cases Slot.force fuel slot context with
  | none => rfl
  | some out => obtain ⟨⟨error | value, slot⟩, context⟩ := out <;> rfl

end

section

variable (force : Slot → Table ρ Forced) (cmp : Comparison) (cutoff : Int64)

/-- A loop without turns has no outcome. -/
theorem drawFrom_explodeFrom_zero (total last : Int64) (slot : Slot) :
    drawFrom (explodeFrom force cmp cutoff 0 total last) slot = exhausted := by
  funext context
  rw [drawFrom_apply, explodeFrom]
  rfl

/-- The loop ends at the first draw that is no hit. -/
theorem drawFrom_explodeFrom_miss (fuel : Nat) (total last : Int64) (slot : Slot)
    (miss : cmp.holds last cutoff = false) :
    drawFrom (explodeFrom force cmp cutoff (fuel + 1) total last) slot = pure (total, slot) := by
  funext context
  rw [drawFrom_apply, explodeFrom, miss]
  rfl

/-- After a hit a roll is counted, and then the next draw is added. -/
theorem drawFrom_explodeFrom_hit (fuel : Nat) (total last : Int64) (slot : Slot)
    (hit : cmp.holds last cutoff = true) :
    drawFrom (explodeFrom force cmp cutoff (fuel + 1) total last) slot =
      (do countRoll
          let drawn ← drawFrom force slot
          let total ← settle (Arithmetic.add.apply total drawn.1)
          drawFrom (explodeFrom force cmp cutoff fuel total drawn.1) drawn.2) := by
  funext context
  rw [drawFrom_apply, explodeFrom, if_pos hit, Table.bind_apply, Rolling.bind_apply,
    ExceptT.run]
  cases countRoll context with
  | none => rfl
  | some out =>
    obtain ⟨error | -, context⟩ := out
    · rfl
    · simp only [Table.bind_apply, Rolling.bind_apply, drawFrom_apply]
      cases force slot context with
      | none => rfl
      | some out =>
        obtain ⟨⟨error | value, slot⟩, context⟩ := out
        · rfl
        · simp only [Except.map, settle]
          cases Arithmetic.add.apply total value with
          | error error => rfl
          | ok total => rfl

/-- A generation without slots starts no other one. -/
theorem generations_nil (fuel : Nat) : generations force cmp cutoff fuel [] = pure [] := by
  cases fuel <;> rfl

/-- Generations end within their turns or not at all. -/
theorem generations_zero (slot : Slot) (rest : Pool) :
    generations force cmp cutoff 0 (slot :: rest) = exhausted := rfl

/-- The slots of a generation are drawn from before those that its hits add. -/
theorem generations_succ (fuel : Nat) (slot : Slot) (rest : Pool) :
    generations force cmp cutoff (fuel + 1) (slot :: rest) =
      (do let drawn ← drawGeneration force cmp cutoff (slot :: rest)
          let hits := drawn.filter fun entry => cmp.holds entry.1 cutoff
          let later ← generations force cmp cutoff fuel (hits.map Prod.snd)
          return drawn.map remember ++ later) := rfl

end

/-- What is selected is one of the draws. -/
theorem mem_of_mem_take {α : Type} {selection : Selection} {count : Nat}
    {drawn : List (Int64 × α)} {entry : Int64 × α} (member : entry ∈ selection.take count drawn) :
    entry ∈ drawn :=
  List.mem_mergeSort.1 (List.mem_of_mem_take member)

end DicePool
