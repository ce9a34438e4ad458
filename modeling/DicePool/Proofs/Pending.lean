import DicePool.Proofs.Budget
import DicePool.Proofs.Memory

/-!
# Pending draws

Faces of one die that explode or are rolled again are drawn until no draw is pending: every draw
settles one, and every hit adds another and counts a roll for it. In which order the pending
draws stand does not matter, since all of them roll the same die. So the faces drawn, the rolls
counted and the place where a budget runs out are a matter of the number of pending draws alone.
-/

namespace DicePool

variable {ρ : Type}

/-- What it takes for a roll to be counted. -/
theorem countRoll_eq_ok_iff {context after : Context ρ} :
    countRoll context = some (.ok (), after) ↔ context.full = false ∧ after = context.counted := by
  have counting := countRoll_bind_apply pure context
  rw [bind_pure] at counting
  rw [counting]
  cases context.full with
  | true =>
    constructor
    · intro ends
      cases ends
    · rintro ⟨free, -⟩
      cases free
  | false =>
    constructor
    · intro ends
      cases ends
      exact ⟨rfl, rfl⟩
    · rintro ⟨-, rfl⟩
      rfl

/-- The largest number of 32 bits, which no face exceeds. -/
def largestFace : Int := 4294967295

variable [Roller ρ]

/-- A face of the die, and a roll counted for it if it hits. -/
def rollCounting (sides : Int64) (cmp : Comparison) (cutoff : Int64) : Rolling ρ Int64 := do
  let face ← rollFace sides
  if cmp.holds face cutoff then countRoll
  return face

/-- The face that the roller hands out next for the die. -/
def Context.nextFace (sides : Sides) (context : Context ρ) : Int64 :=
  Int64.ofNat (Roller.roll context.roller sides).1.toNat

/-- A face is rolled where the sides are valid and one more roll is affordable. -/
theorem rollFace_eq_ok_iff {sides face : Int64} {context after : Context ρ} :
    rollFace sides context = some (.ok face, after) ↔
      ∃ valid, Sides.ofInt64 sides = .ok valid ∧ context.full = false ∧
        face = context.nextFace valid ∧ after = context.rolled valid := by
  unfold rollFace
  cases known : Sides.ofInt64 sides with
  | error error =>
    constructor
    · intro ends
      cases ends
    · rintro ⟨valid, same, -⟩
      cases same
  | ok valid =>
    show (countRoll >>= fun _ => takeFace valid) context = _ ↔ _
    rw [countRoll_bind_apply]
    cases full : context.full with
    | true =>
      constructor
      · intro ends
        cases ends
      · rintro ⟨-, -, free, -⟩
        cases free
    | false =>
      constructor
      · intro ends
        cases ends
        exact ⟨valid, rfl, rfl, rfl, rfl⟩
      · rintro ⟨other, same, -, rfl, rfl⟩
        cases same
        rfl

/-- What it takes for a face to be drawn, and where that leads. -/
theorem rollCounting_eq_ok_iff {sides face cutoff : Int64} {cmp : Comparison}
    {context after : Context ρ} :
    rollCounting sides cmp cutoff context = some (.ok face, after) ↔
      ∃ valid, Sides.ofInt64 sides = .ok valid ∧ context.full = false ∧
        face = context.nextFace valid ∧
        if cmp.holds face cutoff then
          (context.rolled valid).full = false ∧ after = (context.rolled valid).counted
        else after = context.rolled valid := by
  unfold rollCounting
  rw [Rolling.bind_eq_ok_iff]
  constructor
  · rintro ⟨drawn, reached, rolled, rest⟩
    obtain ⟨valid, known, free, shown, rfl⟩ := rollFace_eq_ok_iff.1 rolled
    cases hit : cmp.holds drawn cutoff with
    | false =>
      rw [hit] at rest
      cases rest
      exact ⟨valid, known, free, shown, by rw [hit]; rfl⟩
    | true =>
      rw [hit, if_pos rfl] at rest
      obtain ⟨granted, counted, counts, ended⟩ := Rolling.bind_eq_ok_iff.1 rest
      cases ended
      refine ⟨valid, known, free, shown, ?_⟩
      rw [hit]
      exact countRoll_eq_ok_iff.1 counts
  · rintro ⟨valid, known, free, shown, rest⟩
    refine ⟨face, _, rollFace_eq_ok_iff.2 ⟨valid, known, free, shown, rfl⟩, ?_⟩
    cases hit : cmp.holds face cutoff with
    | false =>
      rw [hit] at rest
      rw [show after = context.rolled valid from rest]
      rfl
    | true =>
      rw [hit] at rest
      exact Rolling.bind_eq_ok_iff.2 ⟨(), after, countRoll_eq_ok_iff.2 rest, rfl⟩

/-- A draw takes the next face and keeps the budget, whether it hits or not. -/
theorem rollCounting_leaves {sides face cutoff : Int64} {cmp : Comparison}
    {context after : Context ρ}
    (draw : rollCounting sides cmp cutoff context = some (.ok face, after)) :
    after.budget = context.budget ∧ ∃ valid, Sides.ofInt64 sides = .ok valid ∧
      face = context.nextFace valid ∧
      after.roller = (Roller.roll context.roller valid).2 := by
  obtain ⟨valid, known, -, shown, ended⟩ := rollCounting_eq_ok_iff.1 draw
  split at ended
  · rw [ended.2]
    exact ⟨rfl, valid, known, shown, rfl⟩
  · rw [ended]
    exact ⟨rfl, valid, known, shown, rfl⟩

/-- With so many draws pending, drawing until none is leads to the faces drawn or to the refusal
that stops it. -/
inductive Clears (sides : Int64) (cmp : Comparison) (cutoff : Int64) :
    Nat → Context ρ → Except RollError (List Int64) → Context ρ → Prop where
  /-- No face is pending. -/
  | done (context : Context ρ) : Clears sides cmp cutoff 0 context (.ok []) context
  /-- A pending face is refused. -/
  | refused {pending : Nat} {context after : Context ρ} {error : RollError}
    (stops : rollCounting sides cmp cutoff context = some (.error error, after)) :
    Clears sides cmp cutoff (pending + 1) context (.error error) after
  /-- A pending face is drawn, and one more is pending if it hits. -/
  | drawn {pending : Nat} {context reached after : Context ρ} {face : Int64}
    {result : Except RollError (List Int64)}
    (draw : rollCounting sides cmp cutoff context = some (.ok face, reached))
    (rest : Clears sides cmp cutoff (pending + (cmp.holds face cutoff).toNat) reached result
      after) :
    Clears sides cmp cutoff (pending + 1) context (result.map (face :: ·)) after

namespace Clears

variable {sides cutoff : Int64} {cmp : Comparison} {pending : Nat} {context mid after : Context ρ}
  {result : Except RollError (List Int64)}

/-- The number of pending draws decides how it ends. -/
theorem unique {other : Except RollError (List Int64)} {last : Context ρ}
    (first : Clears sides cmp cutoff pending context result after)
    (second : Clears sides cmp cutoff pending context other last) :
    result = other ∧ after = last := by
  induction first generalizing other last with
  | done context =>
    cases second
    exact ⟨rfl, rfl⟩
  | refused stops =>
    cases second with
    | refused halts =>
      rw [stops] at halts
      cases halts
      exact ⟨rfl, rfl⟩
    | drawn draw rest =>
      rw [stops] at draw
      cases draw
  | drawn draw rest ih =>
    cases second with
    | refused halts =>
      rw [draw] at halts
      cases halts
    | drawn drawing others =>
      rw [draw] at drawing
      cases drawing
      obtain ⟨same, place⟩ := ih others
      rw [same, place]
      exact ⟨rfl, rfl⟩

/-- Pending draws can be settled some first, and then the others. -/
theorem append {faces : List Int64} {others : Nat}
    (first : Clears sides cmp cutoff pending context (.ok faces) mid)
    (second : Clears sides cmp cutoff others mid result after) :
    Clears sides cmp cutoff (pending + others) context (result.map (faces ++ ·)) after := by
  generalize known : (.ok faces : Except RollError (List Int64)) = outcome at first
  induction first generalizing faces with
  | done context =>
    cases known
    rw [Nat.zero_add]
    cases result <;> exact second
  | refused stops => cases known
  | @drawn pending context reached mid face tail draw rest ih =>
    cases tail with
    | error error => cases known
    | ok tail =>
      cases known
      have behind := ih second rfl
      rw [Nat.add_right_comm] at behind
      rw [Nat.add_right_comm]
      have whole := Clears.drawn draw behind
      cases result <;> exact whole

/-- A refusal among the first of the pending draws stops all. -/
theorem append_error {error : RollError}
    (first : Clears sides cmp cutoff pending context (.error error) after) (others : Nat) :
    Clears sides cmp cutoff (pending + others) context (.error error) after := by
  generalize known : (.error error : Except RollError (List Int64)) = outcome at first
  induction first with
  | done context => cases known
  | refused stops =>
    cases known
    rw [Nat.add_right_comm]
    exact .refused stops
  | @drawn pending context reached after face tail draw rest ih =>
    cases tail with
    | ok tail => cases known
    | error error =>
      cases known
      have behind := ih rfl
      rw [Nat.add_right_comm] at behind
      rw [Nat.add_right_comm]
      exact Clears.drawn draw behind

/-- No face is drawn when none is pending. -/
theorem nil_iff :
    Clears sides cmp cutoff pending context (.ok []) after ↔ pending = 0 ∧ context = after := by
  constructor
  · intro cleared
    generalize known : (.ok [] : Except RollError (List Int64)) = outcome at cleared
    cases cleared with
    | done context => exact ⟨rfl, rfl⟩
    | refused stops => cases known
    | @drawn _ _ _ _ _ tail draw rest => cases tail <;> cases known
  · rintro ⟨rfl, rfl⟩
    exact .done context

/-- The first face makes one more pending if it hits. -/
theorem cons_iff {face : Int64} {faces : List Int64} :
    Clears sides cmp cutoff pending context (.ok (face :: faces)) after ↔
      ∃ others reached, pending = others + 1 ∧
        rollCounting sides cmp cutoff context = some (.ok face, reached) ∧
        Clears sides cmp cutoff (others + (cmp.holds face cutoff).toNat) reached (.ok faces)
          after := by
  constructor
  · intro cleared
    generalize known : (.ok (face :: faces) : Except RollError (List Int64)) = outcome at cleared
    cases cleared with
    | done context => cases known
    | refused stops => cases known
    | @drawn others _ reached _ _ tail draw rest =>
      cases tail with
      | error error => cases known
      | ok tail =>
        cases known
        exact ⟨others, reached, rfl, draw, rest⟩
  · rintro ⟨others, reached, rfl, draw, rest⟩
    exact Clears.drawn draw rest

variable {faces : List Int64}

/-- Every pending draw and every hit is one face. -/
theorem length_eq (cleared : Clears sides cmp cutoff pending context (.ok faces) after) :
    faces.length = pending + faces.countP fun face => cmp.holds face cutoff := by
  induction faces generalizing pending context with
  | nil =>
    obtain ⟨rfl, -⟩ := nil_iff.1 cleared
    rfl
  | cons face faces ih =>
    obtain ⟨others, reached, rfl, -, rest⟩ := cons_iff.1 cleared
    have behind := ih rest
    rw [List.length_cons, List.countP_cons, behind]
    cases cmp.holds face cutoff with
    | false => exact Nat.add_right_comm _ _ _
    | true =>
      simp only [Bool.toNat_true, ↓reduceIte]
      omega

/-- Before the last face, a draw is still pending. -/
theorem lt_of_lt_length (cleared : Clears sides cmp cutoff pending context (.ok faces) after)
    {count : Nat} (fewer : count < faces.length) :
    count < pending + (faces.take count).countP fun face => cmp.holds face cutoff := by
  induction faces generalizing pending context count with
  | nil => exact absurd fewer (Nat.not_lt_zero count)
  | cons face faces ih =>
    obtain ⟨others, reached, rfl, -, rest⟩ := cons_iff.1 cleared
    cases count with
    | zero => exact Nat.lt_of_lt_of_le (Nat.succ_pos others) (Nat.le_add_right _ _)
    | succ count =>
      have behind := ih rest (Nat.lt_of_succ_lt_succ fewer)
      rw [List.take_succ_cons, List.countP_cons]
      cases hit : cmp.holds face cutoff with
      | false =>
        rw [hit, Bool.toNat_false] at behind
        simp only [Bool.false_eq_true, ↓reduceIte]
        omega
      | true =>
        rw [hit, Bool.toNat_true] at behind
        simp only [↓reduceIte]
        omega

/-- The roller hands the faces out in the order in which they are drawn, all of them for the same
die. -/
theorem handsOut (cleared : Clears sides cmp cutoff pending context (.ok faces) after) :
    ∃ log, HandsOut context.roller log after.roller ∧
      (∀ entry ∈ log, Sides.ofInt64 sides = .ok entry.1) ∧
      faces = log.map fun entry => Int64.ofNat entry.2.toNat := by
  induction faces generalizing pending context with
  | nil =>
    obtain ⟨-, rfl⟩ := nil_iff.1 cleared
    exact ⟨[], rfl, by simp, rfl⟩
  | cons face faces ih =>
    obtain ⟨others, reached, -, draw, rest⟩ := cons_iff.1 cleared
    obtain ⟨-, valid, known, rfl, next⟩ := rollCounting_leaves draw
    obtain ⟨log, handed, same, shown⟩ := ih rest
    rw [next] at handed
    refine ⟨(valid, (Roller.roll context.roller valid).1) :: log, ⟨rfl, handed⟩, ?_, ?_⟩
    · exact List.forall_mem_cons.2 ⟨known, same⟩
    · rw [List.map_cons, ← shown]
      rfl

/-- Clearing the pending faces keeps the budget. -/
theorem budget_eq (cleared : Clears sides cmp cutoff pending context (.ok faces) after) :
    after.budget = context.budget := by
  induction faces generalizing pending context with
  | nil =>
    obtain ⟨-, rfl⟩ := nil_iff.1 cleared
    rfl
  | cons face faces ih =>
    obtain ⟨others, reached, -, draw, rest⟩ := cons_iff.1 cleared
    exact (ih rest).trans (rollCounting_leaves draw).1

/-- Faces are numbers that a roller can hand out. -/
theorem face_bounds (cleared : Clears sides cmp cutoff pending context (.ok faces) after) :
    ∀ face ∈ faces, 0 ≤ face.toInt ∧ face.toInt ≤ largestFace := by
  obtain ⟨log, -, -, rfl⟩ := cleared.handsOut
  intro face member
  obtain ⟨entry, -, rfl⟩ := List.mem_map.1 member
  have below := entry.2.toNat_lt
  rw [toInt_ofNat_toNat]
  unfold largestFace
  omega

/-- Every face counts a roll, and so does every draw that a hit adds. -/
theorem rolls_eq (cleared : Clears sides cmp cutoff pending context (.ok faces) after)
    (room : after.rolls < rollLimit) :
    after.rolls + pending = context.rolls + 2 * faces.length := by
  induction faces generalizing pending context with
  | nil =>
    obtain ⟨rfl, rfl⟩ := nil_iff.1 cleared
    rfl
  | cons face faces ih =>
    obtain ⟨others, reached, rfl, draw, rest⟩ := cons_iff.1 cleared
    obtain ⟨valid, -, -, -, ended⟩ := rollCounting_eq_ok_iff.1 draw
    have behind := ih rest
    have enough := rest.length_eq
    have counted : (context.rolled valid).rolls = min (context.rolls + 1) rollLimit := rfl
    rw [List.length_cons]
    cases hit : cmp.holds face cutoff with
    | false =>
      rw [hit] at ended behind enough
      rw [show reached = context.rolled valid from ended, Bool.toNat_false] at *
      omega
    | true =>
      rw [hit] at ended behind enough
      have twice : (context.rolled valid).counted.rolls =
          min ((context.rolled valid).rolls + 1) rollLimit := rfl
      rw [ended.2, Bool.toNat_true] at *
      omega

/-- Under a budget, whatever is drawn is within it. -/
theorem rolls_le {most : Nat} (cleared : Clears sides cmp cutoff pending context (.ok faces) after)
    (bounded : context.budget = some most) (some_drawn : faces ≠ []) : after.rolls ≤ most := by
  induction faces generalizing pending context with
  | nil => exact absurd rfl some_drawn
  | cons face faces ih =>
    obtain ⟨others, reached, -, draw, rest⟩ := cons_iff.1 cleared
    obtain ⟨valid, -, free, -, ended⟩ := rollCounting_eq_ok_iff.1 draw
    have within : reached.budget = some most ∧ reached.rolls ≤ most := by
      split at ended
      · rw [ended.2]
        exact ⟨bounded, Context.counted_le_of_free bounded ended.1⟩
      · rw [ended]
        exact ⟨bounded, Context.counted_le_of_free bounded free⟩
    cases faces with
    | nil =>
      obtain ⟨-, rfl⟩ := nil_iff.1 rest
      exact within.2
    | cons next faces => exact ih rest within.1 (List.cons_ne_nil next faces)

end Clears

end DicePool
