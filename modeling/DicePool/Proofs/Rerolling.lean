import DicePool.Proofs.Pending

/-!
# Rolling again

A pool that is rolled again is drawn generation by generation. The slots that hit in one
generation are the slots of the next, as the draws left them, and the last generation has no hit.
So there is one slot more for every hit, and when all slots are faces of one die the generations
are a way of drawing until no draw is pending.
-/

namespace DicePool

variable {ρ : Type}

/-- The draws that hit the cutoff. -/
def hits (cmp : Comparison) (cutoff : Int64) (drawn : List (Int64 × Slot)) :
    List (Int64 × Slot) :=
  drawn.filter fun entry => cmp.holds entry.1 cutoff

/-- A generation is drawn from the slots that hit in the one before it, in the order of the hits. -/
def Renews (cmp : Comparison) (cutoff : Int64) (earlier later : List (Int64 × Slot)) : Prop :=
  later.map Prod.snd = (hits cmp cutoff earlier).map Prod.snd

/-- There are as many hits as drawn values that hit. -/
theorem length_hits (cmp : Comparison) (cutoff : Int64) (drawn : List (Int64 × Slot)) :
    (hits cmp cutoff drawn).length =
      (drawn.map Prod.fst).countP fun value => cmp.holds value cutoff := by
  rw [hits, ← List.countP_eq_length_filter, List.countP_map]
  rfl

/-- The hits of two lists of draws are those of each. -/
theorem hits_append (cmp : Comparison) (cutoff : Int64) (drawn others : List (Int64 × Slot)) :
    hits cmp cutoff (drawn ++ others) = hits cmp cutoff drawn ++ hits cmp cutoff others :=
  List.filter_append drawn others

/-- A generation has as many slots as the one before it has hits. -/
theorem Renews.length_eq {cmp : Comparison} {cutoff : Int64} {earlier later : List (Int64 × Slot)}
    (renews : Renews cmp cutoff earlier later) :
    later.length = (hits cmp cutoff earlier).length := by
  have lengths := congrArg List.length renews
  rwa [List.length_map, List.length_map] at lengths

section

variable [Roller ρ]

/-- Drawing a generation from the slots ends so, with whatever fuel it takes. -/
def Pool.DrawsCounting (slots : Pool) (cmp : Comparison) (cutoff : Int64) (context : Context ρ)
    (drawn : List (Int64 × Slot)) (after : Context ρ) : Prop :=
  ∃ fuel, drawGeneration (Slot.force fuel) cmp cutoff slots context = some (.ok drawn, after)

/-- The generations that the slots start, drawn one after the other until one has no hit. -/
inductive Descends (cmp : Comparison) (cutoff : Int64) :
    Pool → Context ρ → List (List (Int64 × Slot)) → Context ρ → Prop where
  /-- A generation without a hit is the last one. -/
  | last {slots : Pool} {context after : Context ρ} {drawn : List (Int64 × Slot)}
    (draws : slots.DrawsCounting cmp cutoff context drawn after)
    (misses : hits cmp cutoff drawn = []) :
    Descends cmp cutoff slots context [drawn] after
  /-- The slots that hit are drawn again. -/
  | next {slots : Pool} {context reached after : Context ρ} {drawn : List (Int64 × Slot)}
    {later : List (List (Int64 × Slot))}
    (draws : slots.DrawsCounting cmp cutoff context drawn reached)
    (some_hit : hits cmp cutoff drawn ≠ [])
    (rest : Descends cmp cutoff ((hits cmp cutoff drawn).map Prod.snd) reached later after) :
    Descends cmp cutoff slots context (drawn :: later) after

variable {cmp : Comparison} {cutoff : Int64} {slots : Pool} {context after : Context ρ}

/-- What a generation leaves is drawn from its own slots, as counting a roll changes no draw. -/
theorem Pool.DrawsCounting.each {drawn : List (Int64 × Slot)}
    (draws : slots.DrawsCounting cmp cutoff context drawn after) :
    List.Forall₂ (Slot.Yields ρ) slots drawn := by
  obtain ⟨fuel, run⟩ := draws
  refine Rolling.forall₂_of_mapM (fun slot _ before entry last step => ?_) run
  obtain ⟨drawn, reached, draw, rest⟩ := Rolling.bind_eq_ok_iff.1 step
  have same : drawn = entry := by
    cases hit : cmp.holds drawn.1 cutoff with
    | false =>
      rw [hit] at rest
      cases rest
      rfl
    | true =>
      rw [hit, if_pos rfl] at rest
      obtain ⟨granted, counted, counts, ended⟩ := Rolling.bind_eq_ok_iff.1 rest
      cases ended
      rfl
  exact ⟨before, reached, fuel, same ▸ draw⟩

/-- There is one draw for each slot. -/
theorem Pool.DrawsCounting.length_eq {drawn : List (Int64 × Slot)}
    (draws : slots.DrawsCounting cmp cutoff context drawn after) : drawn.length = slots.length :=
  draws.each.length_eq.symm

/-- The generations of the code are generations in which the hits of each are the slots of the
next. -/
theorem descends_of_generations {fuel turns : Nat} {pool : Pool}
    (run : generations (Slot.force fuel) cmp cutoff turns slots context = some (.ok pool, after)) :
    ∃ drawn, Descends cmp cutoff slots context drawn after ∧ pool = drawn.flatten.map remember := by
  induction turns generalizing slots context pool with
  | zero =>
    cases slots with
    | nil =>
      cases run
      exact ⟨[[]], .last ⟨fuel, rfl⟩ rfl, rfl⟩
    | cons slot rest => cases run
  | succ turns ih =>
    cases slots with
    | nil =>
      cases run
      exact ⟨[[]], .last ⟨fuel, rfl⟩ rfl, rfl⟩
    | cons slot rest =>
      rw [generations_succ] at run
      obtain ⟨drawn, reached, draws, rest⟩ := Rolling.bind_eq_ok_iff.1 run
      obtain ⟨later, last, others, ended⟩ := Rolling.bind_eq_ok_iff.1 rest
      cases ended
      by_cases misses : hits cmp cutoff drawn = []
      · rw [show (drawn.filter fun entry => cmp.holds entry.1 cutoff) = [] from misses,
          List.map_nil, generations_nil] at others
        cases others
        refine ⟨[drawn], .last ⟨fuel, draws⟩ misses, ?_⟩
        rw [List.flatten_singleton, List.append_nil]
      · obtain ⟨behind, descends, rfl⟩ := ih others
        refine ⟨drawn :: behind, .next ⟨fuel, draws⟩ misses descends, ?_⟩
        rw [List.flatten_cons, List.map_append]

namespace Descends

variable {drawn : List (List (Int64 × Slot))}

/-- The slots are drawn from in the first generation. -/
theorem exists_first (descends : Descends cmp cutoff slots context drawn after) :
    ∃ first later, drawn = first :: later ∧
      List.Forall₂ (Slot.Yields ρ) slots first := by
  cases descends with
  | last draws misses => exact ⟨_, [], rfl, draws.each⟩
  | next draws some_hit rest => exact ⟨_, _, rfl, draws.each⟩

/-- The last generation has no hit. -/
theorem no_hit (descends : Descends cmp cutoff slots context drawn after) :
    ∀ last ∈ drawn.getLast?, hits cmp cutoff last = [] := by
  induction descends with
  | last draws misses =>
    rintro last ⟨⟩
    exact misses
  | @next _ _ _ _ first later draws some_hit rest ih =>
    obtain ⟨second, others, rfl, -⟩ := rest.exists_first
    rw [List.getLast?_cons_cons]
    exact ih

/-- There is one draw for every slot at the start and one for every hit. -/
theorem length_eq (descends : Descends cmp cutoff slots context drawn after) :
    drawn.flatten.length = slots.length + (hits cmp cutoff drawn.flatten).length := by
  induction descends with
  | last draws misses =>
    rw [List.flatten_singleton, misses, draws.length_eq]
    rfl
  | next draws some_hit rest ih =>
    have first := draws.length_eq
    rw [List.length_map] at ih
    rw [List.flatten_cons, List.length_append, ih, first, hits_append, List.length_append]

/-- Every generation is drawn from the slots that hit in the one before it, which are left without a
value. -/
theorem isChain (descends : Descends cmp cutoff slots context drawn after)
    (fresh : ∀ slot ∈ slots, slot.Fresh) : drawn.IsChain (Renews cmp cutoff) := by
  induction descends with
  | last draws misses => exact .singleton _
  | @next slots _ _ _ first later draws some_hit rest ih =>
    have settled : ∀ slot ∈ (hits cmp cutoff first).map Prod.snd, slot.Settled := by
      intro slot member
      obtain ⟨entry, hit, rfl⟩ := List.mem_map.1 member
      exact settled_of_forall₂ draws.each fresh entry (List.mem_of_mem_filter hit)
    obtain ⟨second, others, rfl, each⟩ := rest.exists_first
    have chain := ih fun slot member => (settled slot member).fresh
    have renews : Renews cmp cutoff first second := slots_of_forall₂ each settled
    exact .cons_cons renews chain

end Descends

end

section

variable [Roller ρ] {sides cutoff : Int64} {cmp : Comparison} {context after : Context ρ}

/-- The draws of the faces of one die. -/
def faceDraws (sides : Int64) (faces : List Int64) : List (Int64 × Slot) :=
  faces.map fun face => (face, .face sides)

/-- The values drawn are the faces. -/
theorem fst_faceDraws (sides : Int64) (faces : List Int64) :
    (faceDraws sides faces).map Prod.fst = faces := by
  rw [faceDraws, List.map_map]
  exact List.map_id _

/-- The hits among faces of one die leave that many faces of it to draw. -/
theorem snd_hits_faceDraws (faces : List Int64) :
    (hits cmp cutoff (faceDraws sides faces)).map Prod.snd =
      List.replicate (faces.countP fun face => cmp.holds face cutoff) (.face sides) := by
  rw [List.eq_replicate_iff, List.length_map, length_hits, fst_faceDraws]
  refine ⟨rfl, fun slot member => ?_⟩
  obtain ⟨entry, hit, rfl⟩ := List.mem_map.1 member
  obtain ⟨face, -, rfl⟩ := List.mem_map.1 (List.mem_of_mem_filter hit)
  rfl

/-- A generation of faces draws a face of the die for each, and counts a roll for each hit. -/
theorem drawGeneration_replicate_succ (fuel count : Nat) :
    drawGeneration (Slot.force (ρ := ρ) (fuel + 1)) cmp cutoff
        (List.replicate (count + 1) (.face sides)) =
      (do let face ← rollCounting sides cmp cutoff
          let rest ← drawGeneration (Slot.force (fuel + 1)) cmp cutoff
            (List.replicate count (.face sides))
          return (face, .face sides) :: rest) := by
  have step : (do let drawn ← drawFrom (Slot.force (ρ := ρ) (fuel + 1)) (.face sides)
                  if cmp.holds drawn.1 cutoff then countRoll
                  return drawn) =
      (do let face ← rollCounting sides cmp cutoff
          return (face, .face sides)) := by
    rw [drawFrom_face, rollCounting]
    simp only [bind_assoc, pure_bind]
    refine bind_congr fun face => ?_
    cases cmp.holds face cutoff with
    | false => exact (pure_bind _ _).symm
    | true =>
      rw [if_pos rfl, if_pos rfl, bind_assoc]
      rfl
  rw [drawGeneration, List.replicate_succ, List.mapM_cons, step]
  simp only [bind_assoc, pure_bind]
  rfl

/-- When a generation of faces is drawn, that many pending draws are settled, and its hits are
pending instead. -/
theorem clears_of_drawGeneration {fuel count : Nat} {drawn : List (Int64 × Slot)}
    {reached : Context ρ}
    (run : drawGeneration (Slot.force (fuel + 1)) cmp cutoff
      (List.replicate count (.face sides)) context = some (.ok drawn, reached)) :
    ∃ faces, drawn = faceDraws sides faces ∧
      ∀ others result after,
        Clears sides cmp cutoff (others + faces.countP fun face => cmp.holds face cutoff) reached
          result after →
        Clears sides cmp cutoff (count + others) context (result.map (faces ++ ·)) after := by
  induction count generalizing context drawn with
  | zero =>
    cases run
    refine ⟨[], rfl, fun others result after rest => ?_⟩
    rw [Nat.zero_add]
    cases result <;> exact rest
  | succ count ih =>
    rw [drawGeneration_replicate_succ, Rolling.bind_eq_ok_iff] at run
    obtain ⟨face, next, draw, run⟩ := run
    obtain ⟨tail, last, draws, ended⟩ := Rolling.bind_eq_ok_iff.1 run
    cases ended
    obtain ⟨faces, rfl, behind⟩ := ih draws
    refine ⟨face :: faces, rfl, fun others result after rest => ?_⟩
    have hit : others + (face :: faces).countP (fun face => cmp.holds face cutoff) =
        others + (cmp.holds face cutoff).toNat +
          faces.countP fun face => cmp.holds face cutoff := by
      rw [List.countP_cons]
      cases cmp.holds face cutoff with
      | false => rfl
      | true => exact Nat.add_right_comm _ _ 1
    rw [hit] at rest
    have pending := behind _ _ _ rest
    rw [← Nat.add_assoc] at pending
    rw [Nat.add_right_comm]
    have whole := Clears.drawn draw pending
    cases result <;> exact whole

/-- A refusal in a generation of faces is the refusal of a pending draw. -/
theorem clears_of_drawGeneration_error {fuel count : Nat} {error : RollError}
    (run : drawGeneration (Slot.force (fuel + 1)) cmp cutoff
      (List.replicate count (.face sides)) context = some (.error error, after)) (others : Nat) :
    Clears sides cmp cutoff (count + others) context (.error error) after := by
  induction count generalizing context others with
  | zero => cases run
  | succ count ih =>
    rw [drawGeneration_replicate_succ, Rolling.bind_eq_some_iff] at run
    rw [Nat.add_right_comm]
    rcases run with ⟨refusal, stops, same⟩ | ⟨face, next, draw, run⟩
    · cases same
      exact .refused stops
    · rcases Rolling.bind_eq_some_iff.1 run with ⟨refusal, stops, same⟩ | ⟨_, _, _, ended⟩
      · cases same
        have pending := ih stops (others + (cmp.holds face cutoff).toNat)
        rw [← Nat.add_assoc] at pending
        exact Clears.drawn draw pending
      · cases ended

/-- The generations that faces of one die start are a way of drawing until no draw is pending. -/
theorem clears_of_generations {fuel turns count : Nat} {result : Except RollError Pool}
    (run : generations (Slot.force (fuel + 1)) cmp cutoff turns
      (List.replicate count (.face sides)) context = some (result, after)) :
    ∃ cleared, Clears sides cmp cutoff count context cleared after ∧
      result = cleared.map fun faces => (faceDraws sides faces).map remember := by
  induction turns generalizing context count result with
  | zero =>
    cases count with
    | zero =>
      cases run
      exact ⟨.ok [], .done _, rfl⟩
    | succ count => cases run
  | succ turns ih =>
    cases count with
    | zero =>
      cases run
      exact ⟨.ok [], .done _, rfl⟩
    | succ count =>
      rw [List.replicate_succ, generations_succ, ← List.replicate_succ] at run
      rcases Rolling.bind_eq_some_iff.1 run with ⟨error, stops, rfl⟩ | ⟨drawn, next, draws, run⟩
      · exact ⟨.error error, clears_of_drawGeneration_error stops 0, rfl⟩
      · obtain ⟨faces, rfl, pending⟩ := clears_of_drawGeneration draws
        have again : (hits cmp cutoff (faceDraws sides faces)).map Prod.snd = _ :=
          snd_hits_faceDraws faces
        rw [hits] at again
        rw [again] at run
        obtain ⟨outcome, rest, rfl⟩ := Rolling.bind_pure_eq_some_iff.1 run
        obtain ⟨cleared, clears, rfl⟩ := ih rest
        have whole := pending 0 cleared after (by rwa [Nat.zero_add])
        refine ⟨_, whole, ?_⟩
        cases cleared with
        | error error => rfl
        | ok later =>
          show Except.ok _ = Except.ok _
          simp only [faceDraws, List.map_append]

end

section

variable [Roller ρ] {context after : Context ρ}

/-- A constant totals to its value and asks nothing of the context. -/
theorem Die.constant_totalsTo (value : Int64) (context : Context ρ) :
    (Die.constant value).TotalsTo context (.ok value) context := by
  refine ⟨2, ?_⟩
  rw [Die.total_constant 0 value]
  rfl

/-- Dice total their count and their sides, and are that many faces. -/
theorem Die.dice_generatesTo {count sides : Die} {pool : Pool}
    (made : (Die.dice count sides).GeneratesTo context (.ok pool) after) :
    ∃ number reached faces, count.TotalsTo context (.ok number) reached ∧
      sides.TotalsTo reached (.ok faces) after ∧
      pool = List.replicate (quantity number) (.face faces) := by
  obtain ⟨error, -, same⟩ | ⟨number, middle, counted, ⟨error, -, same⟩ |
    ⟨faces, reached, sized, rfl, same⟩⟩ := Die.dice_generatesTo_iff.1 made
  · cases same
  · cases same
  · split at same
    · cases same
    · cases same
      exact ⟨number, middle, faces, counted, sized, rfl⟩

/-- Rolling again totals the cutoff, generates the body and draws the generations that its slots
start. -/
theorem Die.again_generatesTo {cmp : Comparison} {cutoff body : Die} {pool : Pool}
    (made : (Die.again cmp cutoff body).GeneratesTo context (.ok pool) after) :
    ∃ limit mid slots reached fuel, cutoff.TotalsTo context (.ok limit) mid ∧
      body.GeneratesTo mid (.ok slots) reached ∧
      generations (Slot.force (fuel + 1)) cmp limit (fuel + 1) slots reached =
        some (.ok pool, after) := by
  obtain ⟨fuel, made⟩ := made
  cases fuel with
  | zero => cases made
  | succ fuel =>
    rw [Die.generate] at made
    obtain ⟨limit, mid, bounded, rest⟩ := Rolling.bind_eq_ok_iff.1 made
    obtain ⟨slots, reached, generated, run⟩ := Rolling.bind_eq_ok_iff.1 rest
    cases fuel with
    | zero => cases generated
    | succ fuel =>
      exact ⟨limit, mid, slots, reached, fuel, ⟨fuel + 1, bounded⟩, ⟨fuel + 1, generated⟩, run⟩

end

/-- Slots that remember their draws tell these apart. -/
theorem remember_injective : Function.Injective remember := by
  intro left right same
  injection same with memos slots
  injection memos with values
  exact Prod.ext values slots

/-- A pool that is rolled again has a remembered draw for every slot of the body and one for every
hit, generation after generation; on constant dice they are the next faces. -/
theorem again_adds_a_slot_per_hit (ρ : Type) [Roller ρ] (cmp : Comparison) (cutoff body : Die)
    {context after : Context ρ} {pool : Pool}
    (made : (Die.again cmp cutoff body).GeneratesTo context (.ok pool) after) :
    ∃ limit mid slots reached drawn values,
      cutoff.TotalsTo context (.ok limit) mid ∧
      body.GeneratesTo mid (.ok slots) reached ∧
      Descends cmp limit slots reached drawn after ∧
      pool = drawn.flatten.map remember ∧
      values = drawn.flatten.map Prod.fst ∧
      pool.length = slots.length + values.countP (fun value => cmp.holds value limit) ∧
      (∃ first later, drawn = first :: later ∧ first.length = slots.length ∧
        List.Forall₂ (Slot.Yields ρ) slots first) ∧
      (drawn.IsChain fun earlier later => Renews cmp limit earlier later ∧
        later.length = (hits cmp limit earlier).length) ∧
      (∀ last ∈ drawn.getLast?, hits cmp limit last = []) ∧
      (∀ (fuel : Nat) (other : Context ρ), drawAll (Slot.force (fuel + 1)) pool other =
        some (.ok (drawn.flatten.map handedOut), other)) ∧
      ∀ count sides, body = .dice (.constant count) (.constant sides) →
        reached = mid ∧
        (∃ log, HandsOut mid.roller log after.roller ∧
          (∀ entry ∈ log, Sides.ofInt64 sides = .ok entry.1) ∧
          values = log.map fun entry => Int64.ofNat entry.2.toNat) ∧
        pool.length = quantity count + values.countP (fun value => cmp.holds value limit) ∧
        (∀ fewer < pool.length, fewer ≠
          quantity count + (values.take fewer).countP fun value => cmp.holds value limit) ∧
        (after.rolls < rollLimit →
          after.rolls + quantity count = reached.rolls + 2 * pool.length) := by
  obtain ⟨limit, mid, slots, reached, fuel, totalled, generated, run⟩ :=
    Die.again_generatesTo made
  have fresh : ∀ slot ∈ slots, slot.Fresh := by
    obtain ⟨_, ends⟩ := generated
    exact Die.fresh_of_generate ends
  obtain ⟨drawn, descends, remembered⟩ := descends_of_generations run
  obtain ⟨first, later, known, each⟩ := descends.exists_first
  have length : pool.length = slots.length +
      (drawn.flatten.map Prod.fst).countP fun value => cmp.holds value limit := by
    rw [remembered, List.length_map, descends.length_eq, length_hits]
  refine ⟨limit, mid, slots, reached, drawn, drawn.flatten.map Prod.fst, totalled, generated,
    descends, remembered, rfl, length, ⟨first, later, known, each.length_eq.symm, each⟩,
    (descends.isChain fresh).imp fun _ _ renews => ⟨renews, renews.length_eq⟩, descends.no_hit, ?_,
    ?_⟩
  · intro fuel other
    rw [remembered, drawAll_remember]
    rfl
  · rintro count sides rfl
    obtain ⟨number, between, faces, counted, sized, shown⟩ := Die.dice_generatesTo generated
    obtain ⟨⟨⟩, rfl⟩ := counted.unique (Die.constant_totalsTo count mid)
    obtain ⟨⟨⟩, rfl⟩ := sized.unique (Die.constant_totalsTo sides _)
    rw [shown] at run
    obtain ⟨cleared, clears, same⟩ := clears_of_generations run
    cases cleared with
    | error error => cases same
    | ok faces =>
      have entries : drawn.flatten = faceDraws sides faces := by
        apply remember_injective.list_map
        rw [← remembered]
        exact Except.ok.inj same
      have lengths : pool.length = faces.length := by
        rw [remembered, entries, faceDraws, List.length_map, List.length_map]
      rw [entries, fst_faceDraws, lengths]
      refine ⟨rfl, clears.handsOut, clears.length_eq, ?_, clears.rolls_eq⟩
      intro fewer below same
      have pending := clears.lt_of_lt_length below
      omega

/-- One of two faces hits, and so does the face drawn for it, but not the next one. -/
theorem again_adds_a_slot_per_hit_twice :
    let cycle (taken : Nat) : FaceCycle := ⟨[5, 2, 6, 1], by decide, taken⟩
    let start : Context FaceCycle := Context.start (some 9) (cycle 0)
    let after : Context FaceCycle := ⟨some 9, 6, cycle 4⟩
    let cutoff := Die.constant 5
    let body := Die.dice (.constant 2) (.constant 6)
    let slot (value : Int64) : Slot := .drawn (.resolved value) (.face 6)
    let pool := [slot 5, slot 2, slot 6, slot 1]
    (Die.again .above cutoff body).GeneratesTo start (.ok pool) after ∧
      after.rolls < rollLimit ∧
      ∃ limit mid values log, cutoff.TotalsTo start (.ok limit) mid ∧
        HandsOut mid.roller log after.roller ∧
        values = log.map (fun entry => Int64.ofNat entry.2.toNat) ∧
        pool.length = quantity 2 + values.countP (fun value => Comparison.above.holds value limit) ∧
        after.rolls + quantity 2 = mid.rolls + 2 * pool.length := by
  intro cycle start after cutoff body slot pool
  have made : (Die.again .above cutoff body).GeneratesTo start (.ok pool) after := ⟨5, by cbv⟩
  have room : after.rolls < rollLimit := by decide
  obtain ⟨limit, mid, slots, reached, drawn, values, totalled, -, -, -, -, -, -, -, -, -, dice⟩ :=
    again_adds_a_slot_per_hit FaceCycle .above cutoff body made
  obtain ⟨rfl, ⟨log, handed, -, shown⟩, length, -, rolls⟩ := dice 2 6 rfl
  exact ⟨made, room, limit, reached, values, log, totalled, handed, shown, length, rolls room⟩

end DicePool
