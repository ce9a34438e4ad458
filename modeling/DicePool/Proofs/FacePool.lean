import DicePool.Proofs.Pending
import DicePool.Proofs.Replay

/-!
# Pools of faces

Dice total their number first and their sides second, and reserve as many rolls as the number
says. Whether there are such sides shows when the first face is drawn. After that nothing stops
the faces: the budget covers them all.
-/

namespace DicePool

/-- The cycle when so many more faces have been taken. -/
def FaceCycle.later (cycle : FaceCycle) (count : Nat) : FaceCycle :=
  { cycle with taken := cycle.taken + count }

/-- The values that the next faces of the cycle have on dice of so many sides. -/
def FaceCycle.values (cycle : FaceCycle) (sides : Sides) (count : Nat) : List Int64 :=
  (List.range count).map fun index => Int64.ofNat (sides.wrap (cycle.later index).current).toNat

/-- The context when so many more rolls have been counted and their faces taken. -/
def Context.dealt (context : Context FaceCycle) (count : Nat) : Context FaceCycle :=
  ⟨context.budget, context.rolls + count, context.roller.later count⟩

/-- Faces are taken one after the other. -/
theorem FaceCycle.later_later (cycle : FaceCycle) (first second : Nat) :
    (cycle.later first).later second = cycle.later (first + second) := by
  unfold later
  rw [Nat.add_assoc]

/-- Faces are dealt one after the other. -/
theorem Context.dealt_dealt (context : Context FaceCycle) (first second : Nat) :
    (context.dealt first).dealt second = context.dealt (first + second) := by
  unfold dealt
  rw [FaceCycle.later_later, Nat.add_assoc]

/-- The first value is the face at which the cycle stands, and the others follow it. -/
theorem FaceCycle.values_succ (cycle : FaceCycle) (sides : Sides) (count : Nat) :
    cycle.values sides (count + 1) =
      Int64.ofNat (sides.wrap cycle.current).toNat :: (cycle.later 1).values sides count := by
  have shifted (index : Nat) : (cycle.later 1).later index = cycle.later (index + 1) := by
    rw [later_later, Nat.add_comm]
  unfold values
  rw [List.range_succ_eq_map, List.map_cons, List.map_map]
  simp only [shifted]
  rfl

/-- There are as many values as faces are taken. -/
theorem FaceCycle.length_values (cycle : FaceCycle) (sides : Sides) (count : Nat) :
    (cycle.values sides count).length = count := by
  rw [values, List.length_map, List.length_range]

/-- The values of the next faces of a cycle are their numbers, wrapped. -/
theorem FaceCycle.toInt_getElem_values (cycle : FaceCycle) (sides : Sides) (count index : Nat)
    (inside : index < (cycle.values sides count).length) :
    (cycle.values sides count)[index].toInt =
      (max ((cycle.later index).current.toNat : Int) 1 - 1) % (sides.word.toNat : Int) + 1 := by
  have read : ((cycle.later index).current.toNat - 1 : Nat) =
      max ((cycle.later index).current.toNat : Int) 1 - 1 := by
    omega
  simp only [values, List.getElem_map, List.getElem_range]
  rw [toInt_ofNat_toNat, Sides.toNat_wrap, ← read]
  push_cast
  rfl

/-- The numbers of the next faces, wrapped, are their values. -/
theorem FaceCycle.eq_values {cycle : FaceCycle} {valid : Sides} {values : List Int64} {count : Nat}
    (length : values.length = count)
    (each : ∀ index (inside : index < values.length), values[index].toInt =
      (max ((cycle.later index).current.toNat : Int) 1 - 1) % (valid.word.toNat : Int) + 1) :
    values = cycle.values valid count := by
  apply List.ext_getElem
  · rw [length, length_values]
  · intro index inside _
    apply Int64.toInt_inj.1
    rw [each index inside, toInt_getElem_values]

/-- A number from one to the largest face is a number of sides. -/
theorem Sides.ofInt64_eq_ok {value : Int64} (positive : 1 ≤ value.toInt)
    (small : value.toInt ≤ largestFace) :
    ∃ sides, ofInt64 value = .ok sides ∧ (sides.word.toNat : Int) = value.toInt := by
  have inside : 0 < value.toInt ∧ value.toInt < UInt32.size := by
    unfold largestFace at small
    have size : UInt32.size = 4294967296 := rfl
    omega
  rw [ofInt64, dif_pos inside]
  refine ⟨_, rfl, ?_⟩
  show ((UInt32.ofNat value.toInt.toNat).toNat : Int) = _
  rw [UInt32.toNat_ofNat_of_lt' (by omega)]
  omega

/-- Any other number is refused. -/
theorem Sides.ofInt64_eq_error {value : Int64}
    (invalid : value.toInt < 1 ∨ largestFace < value.toInt) :
    ofInt64 value = .error (.invalidSides value) := by
  have outside : ¬(0 < value.toInt ∧ value.toInt < UInt32.size) := by
    unfold largestFace at invalid
    have size : UInt32.size = 4294967296 := rfl
    omega
  rw [ofInt64, dif_neg outside]

/-- A positive number is taken as often as it says. -/
theorem toInt_quantity {number : Int64} (positive : 0 < number) :
    (quantity number : Int) = number.toInt := by
  have above : 0 < number.toInt := Int64.lt_iff_toInt_lt.1 positive
  exact Int.toNat_of_nonneg (Int.le_of_lt above)

/-- A positive number is taken at least once. -/
theorem quantity_pos {number : Int64} (positive : 0 < number) : 0 < quantity number := by
  have above : 0 < number.toInt := Int64.lt_iff_toInt_lt.1 positive
  have same := toInt_quantity positive
  omega

/-- Any other number is taken not at all. -/
theorem quantity_of_nonpos {number : Int64} (none : number ≤ 0) : quantity number = 0 := by
  have below : number.toInt ≤ 0 := Int64.le_iff_toInt_le.1 none
  exact Int.toNat_of_nonpos below

section

variable {sides : Int64} {valid : Sides} {context : Context FaceCycle}

/-- A face is dealt where there is room for one more roll. -/
theorem Slot.face_drawsTo_ok (known : Sides.ofInt64 sides = .ok valid)
    (free : context.full = false) (counts : context.rolls + 1 ≤ rollLimit) :
    (Slot.face sides).DrawsTo context
      (.ok (Int64.ofNat (valid.wrap context.roller.current).toNat, .face sides))
      (context.dealt 1) := by
  have shown : context.after 1 = context.rolls + 1 := Nat.min_eq_left counts
  have next : context.dealt 1 = context.rolled valid := by
    unfold Context.dealt Context.rolled Context.counted
    rw [shown]
    rfl
  have rolled : rollFace sides context =
      some (.ok (Int64.ofNat (valid.wrap context.roller.current).toNat), context.dealt 1) :=
    rollFace_eq_ok_iff.2 ⟨valid, known, free, rfl, next⟩
  refine ⟨1, ?_⟩
  rw [drawFrom_face, Rolling.bind_apply, rolled]
  rfl

/-- A face without a number of sides is refused, and nothing is counted. -/
theorem Slot.face_drawsTo_error (refused : Sides.ofInt64 sides = .error (.invalidSides sides)) :
    (Slot.face sides).DrawsTo context (.error (.invalidSides sides)) context := by
  refine ⟨1, ?_⟩
  rw [drawFrom_face, rollFace, refused]
  rfl

/-- Faces that the budget covers are all drawn: each one is counted, and the others are covered on
top of it. -/
theorem Pool.faces_drawsTo_ok (known : Sides.ofInt64 sides = .ok valid) (count : Nat)
    (covered : ∀ most, context.budget = some most → context.rolls + count ≤ most)
    (counts : context.rolls + count ≤ rollLimit) :
    ∃ drawn, Pool.DrawsTo (List.replicate count (.face sides)) context (.ok drawn)
        (context.dealt count) ∧
      drawn.map Prod.fst = context.roller.values valid count := by
  induction count generalizing context with
  | zero => exact ⟨[], Pool.nil_drawsTo_iff.2 ⟨rfl, rfl⟩, rfl⟩
  | succ count ih =>
    have free : context.full = false := by
      refine Context.exceeds_eq_false_iff.2 fun most bounded => ?_
      have enough := covered most bounded
      unfold Context.after
      omega
    have first := Slot.face_drawsTo_ok known free (by omega)
    have rest : ∀ most, (context.dealt 1).budget = some most →
        (context.dealt 1).rolls + count ≤ most := by
      intro most bounded
      have enough := covered most bounded
      show context.rolls + 1 + count ≤ most
      omega
    have limit : (context.dealt 1).rolls + count ≤ rollLimit := by
      show context.rolls + 1 + count ≤ rollLimit
      omega
    obtain ⟨drawn, draws, same⟩ := ih rest limit
    rw [Context.dealt_dealt, Nat.add_comm 1 count] at draws
    refine ⟨_, Pool.cons_drawsTo_ok_iff.2 ⟨_, _, first, drawn, draws, rfl⟩, ?_⟩
    rw [FaceCycle.values_succ, List.map_cons, same]
    rfl

end

section

variable {count sides : Die} {number faces : Int64} {context middle reached : Context FaceCycle}

/-- The number and the sides are totalled within the budget. -/
theorem Die.budget_of_totalsTo (counted : count.TotalsTo { context with rolls := 0 } (.ok number)
      middle) (sized : sides.TotalsTo middle (.ok faces) reached)
    (room : ∀ most, context.budget = some most → most < rollLimit) :
    reached.budget = context.budget ∧
      ∀ most, context.budget = some most → reached.rolls ≤ most := by
  obtain ⟨fuel, counted⟩ := counted
  obtain ⟨more, sized⟩ := sized
  have scripted : Scripted fun _ _ => (do
      let _ ← count.total fuel
      sides.total more) :=
    ((followsScripts fuel).total count).bind fun _ => (followsScripts more).total sides
  have run : (do
      let _ ← count.total fuel
      sides.total more : Rolling FaceCycle Int64) { context with rolls := 0 } =
        some (.ok faces, reached) :=
    Rolling.bind_eq_ok_iff.2 ⟨number, middle, counted, sized⟩
  have still : reached.budget = ({ context with rolls := 0 } : Context FaceCycle).budget :=
    scripted.budget_of_run run
  refine ⟨still, fun most bounded => ?_⟩
  obtain ⟨taken, -, within⟩ := scripted.withinBudget (room most bounded) bounded run
  exact within.rolls_le_most nofun

/-- What the pool of so many faces comes to when the number and the sides have been totalled. -/
inductive FacePool (number sides : Int64) (reached : Context FaceCycle) :
    Except RollError (List Int64) → Context FaceCycle → Prop where
  /-- The budget does not cover the faces. -/
  | beyond {most : Nat} : reached.budget = some most →
      most < reached.rolls + quantity number →
      FacePool number sides reached (.error .tooManyRolls) reached
  /-- There are no faces, and nobody asks for the sides. -/
  | empty : number ≤ 0 → FacePool number sides reached (.ok []) reached
  /-- There are faces, but no dice with such sides. -/
  | invalid : 0 < number →
      (∀ most, reached.budget = some most → reached.rolls + quantity number ≤ most) →
      sides.toInt < 1 ∨ largestFace < sides.toInt →
      FacePool number sides reached (.error (.invalidSides sides)) reached
  /-- The next faces of the cycle are drawn, one by one. -/
  | faces {values : List Int64} : 0 < number →
      (∀ most, reached.budget = some most → reached.rolls + quantity number ≤ most) →
      1 ≤ sides.toInt → sides.toInt ≤ largestFace →
      (values.length : Int) = number.toInt →
      (∀ index (inside : index < values.length),
        let face := (reached.roller.later index).current.toNat
        values[index].toInt = (max (face : Int) 1 - 1) % sides.toInt + 1) →
      FacePool number sides reached (.ok values) (reached.dealt (quantity number))

/-- One of the outcomes is there. -/
theorem exists_facePool (number faces : Int64) (reached : Context FaceCycle) :
    ∃ result after, FacePool number faces reached result after := by
  by_cases positive : 0 < number
  · by_cases covered : ∀ most, reached.budget = some most →
        reached.rolls + quantity number ≤ most
    · by_cases invalid : faces.toInt < 1 ∨ largestFace < faces.toInt
      · exact ⟨_, _, .invalid positive covered invalid⟩
      · have least : 1 ≤ faces.toInt := by omega
        have small : faces.toInt ≤ largestFace := by omega
        obtain ⟨valid, known, word⟩ := Sides.ofInt64_eq_ok least small
        have length := reached.roller.length_values valid (quantity number)
        refine ⟨.ok (reached.roller.values valid (quantity number)), _,
          .faces positive covered least small ?_ fun index inside => ?_⟩
        · rw [length, toInt_quantity positive]
        · rw [FaceCycle.toInt_getElem_values, word]
    · simp only [not_forall, Nat.not_le] at covered
      obtain ⟨most, bounded, short⟩ := covered
      exact ⟨_, _, .beyond bounded short⟩
  · exact ⟨_, _, .empty (Int64.not_lt.1 positive)⟩

section

variable (counted : count.TotalsTo context (.ok number) middle)
  (sized : sides.TotalsTo middle (.ok faces) reached)

include counted sized

/-- Dice beyond the budget are refused. -/
theorem Die.dice_generatesTo_error {most : Nat} (bounded : reached.budget = some most)
    (room : most < rollLimit) (short : most < reached.rolls + quantity number) :
    (Die.dice count sides).GeneratesTo context (.error .tooManyRolls) reached := by
  have beyond : reached.exceeds (reached.after (quantity number)) = true :=
    Context.exceeds_eq_true_iff.2 ⟨most, bounded, Nat.lt_min.2 ⟨short, room⟩⟩
  have outcome := Die.dice_generatesTo_iff.2
    (.inr ⟨number, middle, counted, .inr ⟨faces, reached, sized, rfl, rfl⟩⟩)
  rwa [beyond] at outcome

/-- Dice within the budget are faces to be drawn. -/
theorem Die.dice_generatesTo_ok
    (covered : ∀ most, reached.budget = some most → reached.rolls + quantity number ≤ most) :
    (Die.dice count sides).GeneratesTo context
      (.ok (List.replicate (quantity number) (.face faces))) reached := by
  have free : reached.exceeds (reached.after (quantity number)) = false := by
    refine Context.exceeds_eq_false_iff.2 fun most bounded => ?_
    exact Nat.le_trans (Nat.min_le_left _ _) (covered most bounded)
  have outcome := Die.dice_generatesTo_iff.2
    (.inr ⟨number, middle, counted, .inr ⟨faces, reached, sized, rfl, rfl⟩⟩)
  rwa [free] at outcome

end

/-- Every outcome is what the dice pool to, as long as the counter does not come to its limit, where
it would stay. -/
theorem FacePool.poolsTo {result : Except RollError (List Int64)} {after : Context FaceCycle}
    (outcome : FacePool number faces reached result after)
    (counted : count.TotalsTo { context with rolls := 0 } (.ok number) middle)
    (sized : sides.TotalsTo middle (.ok faces) reached)
    (room : ∀ most, context.budget = some most → most < rollLimit)
    (unsaturated : context.budget = none → reached.rolls + quantity number < rollLimit) :
    (Die.dice count sides).PoolsTo context result after := by
  obtain ⟨still, within⟩ := Die.budget_of_totalsTo counted sized room
  rw [← still] at room unsaturated within
  cases outcome with
  | beyond bounded short =>
    have refused := Die.dice_generatesTo_error counted sized bounded (room _ bounded) short
    exact Die.valuesTo_error_iff.2 (.inl refused)
  | empty none =>
    have zero := quantity_of_nonpos none
    have covered (most : Nat) (bounded : reached.budget = some most) :
        reached.rolls + quantity number ≤ most := by
      rw [zero]
      exact within most bounded
    have made := Die.dice_generatesTo_ok counted sized covered
    rw [zero] at made
    exact Die.valuesTo_ok_iff.2 ⟨_, _, made, [], Pool.nil_drawsTo_iff.2 ⟨rfl, rfl⟩, rfl⟩
  | invalid positive covered invalid =>
    have made := Die.dice_generatesTo_ok counted sized covered
    have some : quantity number = quantity number - 1 + 1 :=
      (Nat.sub_one_add_one (Nat.ne_of_gt (quantity_pos positive))).symm
    rw [some, List.replicate_succ] at made
    have refused : (Slot.face faces).DrawsTo reached (.error (.invalidSides faces)) reached :=
      Slot.face_drawsTo_error (Sides.ofInt64_eq_error invalid)
    exact Die.valuesTo_error_iff.2
      (.inr ⟨_, _, made, Pool.cons_drawsTo_error_iff.2 (.inl refused)⟩)
  | @faces values positive covered least small length each =>
    obtain ⟨valid, known, word⟩ := Sides.ofInt64_eq_ok least small
    have counts : reached.rolls + quantity number ≤ rollLimit := by
      cases budget : reached.budget with
      | none => exact Nat.le_of_lt (unsaturated budget)
      | some most =>
        have limit := room most budget
        exact Nat.le_trans (covered most budget) (Nat.le_of_lt limit)
    obtain ⟨drawn, draws, shown⟩ := Pool.faces_drawsTo_ok known (quantity number) covered counts
    have many : values.length = quantity number := by
      have positives := toInt_quantity positive
      omega
    rw [← word] at each
    have same : values = drawn.map Prod.fst := by rw [shown, FaceCycle.eq_values many each]
    have made := Die.dice_generatesTo_ok counted sized covered
    exact Die.valuesTo_ok_iff.2 ⟨_, _, made, drawn, draws, same⟩

/-- Faces that are drawn are faces of dice with so many sides. -/
theorem FacePool.range {values : List Int64} {after : Context FaceCycle}
    (outcome : FacePool number faces reached (.ok values) after) :
    ∀ value ∈ values, 1 ≤ value ∧ value ≤ faces := by
  cases outcome with
  | empty none => simp
  | faces positive covered least small length each =>
    intro value member
    obtain ⟨index, inside, rfl⟩ := List.getElem_of_mem member
    have read := each index inside
    have low := Int.emod_nonneg (max ((reached.roller.later index).current.toNat : Int) 1 - 1)
      (b := faces.toInt) (by omega)
    have high := Int.emod_lt_of_pos (max ((reached.roller.later index).current.toNat : Int) 1 - 1)
      (b := faces.toInt) (by omega)
    have one : (1 : Int64).toInt = 1 := rfl
    rw [Int64.le_iff_toInt_le, Int64.le_iff_toInt_le, one, read]
    omega

end

/-- Dice whose number and sides are totalled have one of four pools: too many for the budget, empty,
refused for their sides, or the next faces of the cycle, wrapped to the sides. -/
theorem dice_pool_outcomes {count sides : Die} {number faces : Int64}
    {context middle reached : Context FaceCycle}
    (counted : count.TotalsTo { context with rolls := 0 } (.ok number) middle)
    (sized : sides.TotalsTo middle (.ok faces) reached)
    (room : ∀ most, context.budget = some most → most < rollLimit)
    (unsaturated : context.budget = none → reached.rolls + quantity number < rollLimit) :
    (∀ result after, (Die.dice count sides).PoolsTo context result after ↔
      FacePool number faces reached result after) ∧
    (∀ values after, (Die.dice count sides).PoolsTo context (.ok values) after →
      ∀ value ∈ values, 1 ≤ value ∧ value ≤ faces) ∧
    ((∀ most, context.budget = some most → reached.rolls + quantity number ≤ most) →
      ∀ after, ¬(Die.dice count sides).PoolsTo context (.error .tooManyRolls) after) ∧
    ∀ most, context.budget = some most → ∀ result after,
      (Die.dice count sides).pool context = some (result, after) ↔
        FacePool number faces reached result after := by
  have pools (result : Except RollError (List Int64)) (after : Context FaceCycle) :
      (Die.dice count sides).PoolsTo context result after ↔
        FacePool number faces reached result after := by
    constructor
    · intro pooled
      obtain ⟨known, last, outcome⟩ := exists_facePool number faces reached
      have other := outcome.poolsTo counted sized room unsaturated
      obtain ⟨rfl, rfl⟩ := pooled.unique other
      exact outcome
    · intro outcome
      exact outcome.poolsTo counted sized room unsaturated
  obtain ⟨still, -⟩ := Die.budget_of_totalsTo counted sized room
  refine ⟨pools, ?_, ?_, ?_⟩
  · intro values after pooled
    exact ((pools _ _).1 pooled).range
  · intro covered after pooled
    cases (pools _ _).1 pooled with
    | beyond bounded short =>
      rw [still] at bounded
      exact absurd (covered _ bounded) (Nat.not_le_of_lt short)
  · intro most bounded result after
    rw [Die.pool_eq_some_iff (room most bounded) bounded, pools]

/-- A three asks for three dice and a wrapped eight gives seven sides; then a zero is read as a one,
and the largest face and a thirteen are wrapped. -/
theorem dice_pool_outcomes_wrapped :
    let cycle (taken : Nat) : FaceCycle := ⟨[3, 8, 0, 4294967295, 13], by decide, taken⟩
    let count := Die.dice (.constant 1) (.constant 6)
    let sides := Die.add (.dice (.constant 1) (.constant 6)) (.constant 5)
    let start : Context FaceCycle := Context.start (some 5) (cycle 0)
    let middle : Context FaceCycle := ⟨some 5, 1, cycle 1⟩
    let reached : Context FaceCycle := ⟨some 5, 2, cycle 2⟩
    count.TotalsTo { start with rolls := 0 } (.ok 3) middle ∧
    sides.TotalsTo middle (.ok 7) reached ∧ start.budget = some 5 ∧ 5 < rollLimit ∧
    FacePool 3 7 reached (.ok [1, 3, 6]) (reached.dealt 3) ∧
    (Die.dice count sides).pool start = some (.ok [1, 3, 6], reached.dealt 3) ∧
    reached.rolls + quantity 3 ≤ 5 ∧
    ∀ after, ¬(Die.dice count sides).PoolsTo start (.error .tooManyRolls) after := by
  intro cycle count sides start middle reached
  have counted : count.TotalsTo { start with rolls := 0 } (.ok 3) middle := ⟨9, by cbv⟩
  have sized : sides.TotalsTo middle (.ok 7) reached := ⟨9, by cbv⟩
  have bounded : start.budget = some 5 := rfl
  have limit : 5 < rollLimit := by decide
  have room (most : Nat) (same : start.budget = some most) : most < rollLimit := by
    cases same
    exact limit
  have pooled : (Die.dice count sides).PoolsTo start (.ok [1, 3, 6]) (reached.dealt 3) :=
    ⟨9, by cbv⟩
  have enough : reached.rolls + quantity 3 ≤ 5 := by decide
  have covered (most : Nat) (same : start.budget = some most) :
      reached.rolls + quantity 3 ≤ most := by
    cases same
    exact enough
  have unsaturated (unbounded : start.budget = none) :
      reached.rolls + quantity 3 < rollLimit := by
    cases unbounded
  obtain ⟨outcomes, -, granted, finds⟩ := dice_pool_outcomes counted sized room unsaturated
  have outcome := (outcomes _ _).1 pooled
  exact ⟨counted, sized, bounded, limit, outcome, (finds 5 bounded _ _).2 outcome, enough,
    granted covered⟩

end DicePool
