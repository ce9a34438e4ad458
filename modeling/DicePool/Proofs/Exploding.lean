import DicePool.Proofs.Overflow
import DicePool.Proofs.Rerolling

/-!
# Exploding and rolling again

Slots that explode draw one slot after the other, each until it misses. Slots that are rolled
again draw one generation after the other, and their draws are added up at the end. With faces of
one die both are ways of drawing until no draw is pending, and as long as no sum overflows they
come to the same total.
-/

namespace DicePool

variable {ρ : Type}

/-- A budget of two to the power of 31 rolls: so many faces of 32 bits still add up within 64
bits. -/
def safeBudget : Nat := 2147483648

section

variable [Roller ρ] {sides cutoff : Int64} {cmp : Comparison} {pending most : Nat}
  {context after : Context ρ}

namespace Clears

variable {faces : List Int64}

/-- Under a budget there are no more faces than it has rolls. -/
theorem length_le (cleared : Clears sides cmp cutoff pending context (.ok faces) after)
    (bounded : context.budget = some most) (room : most < rollLimit) : faces.length ≤ most := by
  by_cases none : faces = []
  · rw [none]
    exact Nat.zero_le most
  · have within := cleared.rolls_le bounded none
    have counted := cleared.rolls_eq (Nat.lt_of_le_of_lt within room)
    have enough := cleared.length_eq
    omega

/-- Under a safe budget the sum of the faces fits. -/
theorem fits_sum (cleared : Clears sides cmp cutoff pending context (.ok faces) after)
    (bounded : context.budget = some most) (safe : most ≤ safeBudget) :
    0 ≤ exactSum faces ∧ Fits (exactSum faces) := by
  have room : most < rollLimit := Nat.lt_of_le_of_lt safe (by decide)
  have length := cleared.length_le bounded room
  have low : 0 ≤ exactSum faces :=
    exactSum_nonneg fun face member => (cleared.face_bounds face member).1
  have high : exactSum faces ≤ faces.length * largestFace :=
    exactSum_le fun face member => (cleared.face_bounds face member).2
  unfold safeBudget at safe
  unfold largestFace at high
  unfold Fits
  omega

end Clears

namespace Clears

/-- A refused face is a refused draw. -/
theorem of_refused {error : RollError}
    (refused : rollFace sides context = some (.error error, after)) :
    Clears sides cmp cutoff 1 context (.error error) after :=
  .refused (Rolling.bind_eq_some_iff.2 (.inl ⟨error, refused, rfl⟩))

variable {face : Int64} {reached : Context ρ}
  (rolled : rollFace sides context = some (.ok face, reached))

include rolled

/-- A pending face that misses is the only one. -/
theorem of_miss (miss : cmp.holds face cutoff = false) :
    Clears sides cmp cutoff 1 context (.ok [face]) reached := by
  have draw : rollCounting sides cmp cutoff context = some (.ok face, reached) := by
    refine Rolling.bind_eq_some_iff.2 (.inr ⟨face, reached, rolled, ?_⟩)
    rw [miss]
    rfl
  have none : Clears sides cmp cutoff (0 + (cmp.holds face cutoff).toNat) reached (.ok [])
      reached := by
    rw [miss]
    exact .done reached
  exact Clears.drawn draw none

/-- After a hit comes the roll that is counted for it, and then another pending draw. -/
theorem rollCounting_of_hit (hit : cmp.holds face cutoff = true) :
    rollCounting sides cmp cutoff context = (countRoll >>= fun _ => pure face) reached := by
  rw [rollCounting, Rolling.bind_apply, rolled]
  dsimp only
  rw [hit]
  rfl

/-- A hit whose roll is refused ends the run. -/
theorem of_hit_refused {error : RollError} (hit : cmp.holds face cutoff = true)
    (refused : countRoll reached = some (.error error, after)) :
    Clears sides cmp cutoff 1 context (.error error) after := by
  refine .refused ?_
  rw [rollCounting_of_hit rolled hit]
  exact Rolling.bind_eq_some_iff.2 (.inl ⟨error, refused, rfl⟩)

/-- A hit is followed by one more face. -/
theorem of_hit {counted : Context ρ} {result : Except RollError (List Int64)}
    (hit : cmp.holds face cutoff = true) (counts : countRoll reached = some (.ok (), counted))
    (rest : Clears sides cmp cutoff 1 counted result after) :
    Clears sides cmp cutoff 1 context (result.map (face :: ·)) after := by
  have draw : rollCounting sides cmp cutoff context = some (.ok face, counted) := by
    rw [rollCounting_of_hit rolled hit]
    exact Rolling.bind_eq_ok_iff.2 ⟨(), counted, counts, rfl⟩
  have one : Clears sides cmp cutoff (0 + (cmp.holds face cutoff).toNat) counted result after := by
    rw [hit]
    exact rest
  exact Clears.drawn draw one

end Clears

/-- A face added to a total, and the draws that it adds if it hits. -/
def explodingDraw (sides : Int64) (cmp : Comparison) (cutoff : Int64) (fuel turns : Nat)
    (total : Int64) : Rolling ρ (Int64 × Slot) := do
  let face ← rollFace sides
  let total ← settle (Arithmetic.add.apply total face)
  drawFrom (explodeFrom (Slot.force (fuel + 1)) cmp cutoff turns total face) (.face sides)

/-- After a hit a roll is counted, and another face is drawn. -/
theorem drawFrom_explodeFrom_face {fuel turns : Nat} {total last : Int64}
    (hit : cmp.holds last cutoff = true) :
    drawFrom (explodeFrom (Slot.force (ρ := ρ) (fuel + 1)) cmp cutoff (turns + 1) total last)
        (.face sides) =
      (do countRoll
          explodingDraw sides cmp cutoff fuel turns total) := by
  rw [drawFrom_explodeFrom_hit _ _ _ _ _ _ _ hit, drawFrom_face, explodingDraw]
  simp only [bind_assoc, pure_bind]

/-- An exploding face starts with nothing. -/
theorem drawFrom_explode_face (fuel : Nat) :
    drawFrom (Slot.force (ρ := ρ) (fuel + 2)) (.explode cmp cutoff (.face sides)) =
      (do let last ← explodingDraw sides cmp cutoff fuel (fuel + 1) 0
          return (last.1, .explode cmp cutoff last.2)) := by
  have start (face : Int64) : Arithmetic.add.apply 0 face = .ok face := by
    show fit ((0 : Int64).toInt + face.toInt) = _
    rw [Int64.toInt_zero, Int.zero_add, fit_toInt]
  rw [drawFrom_explode, drawFrom_face, explodingDraw]
  simp only [bind_assoc, pure_bind, start]
  rfl

/-- A total of faces that no more rolls are counted for than the context has counted. -/
def Covers (context : Context ρ) (total : Int64) : Prop :=
  0 ≤ total.toInt ∧ total.toInt ≤ context.rolls * largestFace

omit [Roller ρ] in
/-- One more roll covers no less. -/
theorem Covers.of_countRoll {total : Int64} {counted : Context ρ} (covers : Covers context total)
    (bounded : context.budget = some most) (safe : most ≤ safeBudget)
    (counts : countRoll context = some (.ok (), counted)) :
    counted.budget = some most ∧ Covers counted total := by
  obtain ⟨free, rfl⟩ := countRoll_eq_ok_iff.1 counts
  have within : context.counted.rolls ≤ most := Context.counted_le_of_free bounded free
  have counter := context.counted_rolls
  have limit : safeBudget < rollLimit := by decide
  have rolls : context.counted.rolls = context.rolls + 1 := by omega
  refine ⟨bounded, covers.1, Int.le_trans covers.2 ?_⟩
  rw [rolls]
  unfold largestFace
  push_cast
  omega

/-- A face is refused, or it is added without overflow and the draws go on. -/
theorem explodingDraw_cases {fuel turns : Nat} {total : Int64}
    {result : Except RollError (Int64 × Slot)} (bounded : context.budget = some most)
    (safe : most ≤ safeBudget) (covers : Covers context total)
    (run : explodingDraw sides cmp cutoff fuel turns total context = some (result, after)) :
    (∃ error, rollFace sides context = some (.error error, after) ∧ result = .error error) ∨
      ∃ face reached next, rollFace sides context = some (.ok face, reached) ∧
        reached.budget = some most ∧ next.toInt = total.toInt + face.toInt ∧
        Covers reached next ∧
        drawFrom (explodeFrom (Slot.force (fuel + 1)) cmp cutoff turns next face) (.face sides)
          reached = some (result, after) := by
  obtain ⟨error, refused, rfl⟩ | ⟨face, reached, rolled, run⟩ := Rolling.bind_eq_some_iff.1 run
  · exact .inl ⟨error, refused, rfl⟩
  · obtain ⟨valid, -, free, shown, rfl⟩ := rollFace_eq_ok_iff.1 rolled
    have within : context.counted.rolls ≤ most := Context.counted_le_of_free bounded free
    have counted := context.counted_rolls
    have word := (Roller.roll context.roller valid).1.toNat_lt
    have value : face.toInt = (Roller.roll context.roller valid).1.toNat := by
      rw [shown, Context.nextFace, toInt_ofNat_toNat]
    have limit : safeBudget < rollLimit := by decide
    have rolls : (context.rolled valid).rolls = context.rolls + 1 := by
      show context.counted.rolls = _
      omega
    have small : context.rolls + 1 ≤ safeBudget := by omega
    obtain ⟨low, high⟩ := covers
    unfold largestFace at high
    have fits : Fits (total.toInt + face.toInt) := by
      unfold safeBudget at small
      unfold Fits
      omega
    have added : Arithmetic.add.apply total face = .ok (Int64.ofInt (total.toInt + face.toInt)) :=
      fit_of_fits fits
    have next : (Int64.ofInt (total.toInt + face.toInt)).toInt = total.toInt + face.toInt :=
      fit_eq_ok_iff.1 added
    rw [added] at run
    refine .inr ⟨face, _, _, rolled, bounded, next, ⟨?_, ?_⟩, run⟩
    · omega
    · rw [next, rolls]
      unfold largestFace
      push_cast
      omega

/-- An exploding draw settles one pending draw, and the draws that its hits add. -/
theorem clears_of_explodingDraw {fuel turns : Nat} {total : Int64}
    {result : Except RollError (Int64 × Slot)} (bounded : context.budget = some most)
    (safe : most ≤ safeBudget) (covers : Covers context total)
    (run : explodingDraw sides cmp cutoff fuel turns total context = some (result, after)) :
    ∃ cleared, Clears sides cmp cutoff 1 context cleared after ∧
      result = cleared.map fun faces =>
        (Int64.ofInt (total.toInt + exactSum faces), .face sides) := by
  induction turns generalizing total context with
  | zero =>
    obtain ⟨error, refused, rfl⟩ | ⟨face, reached, next, -, -, -, -, run⟩ :=
      explodingDraw_cases bounded safe covers run
    · exact ⟨.error error, .of_refused refused, rfl⟩
    · rw [drawFrom_explodeFrom_zero] at run
      cases run
  | succ turns ih =>
    obtain ⟨error, refused, rfl⟩ | ⟨face, reached, next, rolled, still, added, covered, run⟩ :=
      explodingDraw_cases bounded safe covers run
    · exact ⟨.error error, .of_refused refused, rfl⟩
    · have sums (faces : List Int64) :
          total.toInt + exactSum (face :: faces) = next.toInt + exactSum faces := by
        rw [exactSum_cons, added, Int.add_assoc]
      cases hit : cmp.holds face cutoff with
      | false =>
        rw [drawFrom_explodeFrom_miss _ _ _ _ _ _ _ hit] at run
        cases run
        refine ⟨_, .of_miss rolled hit, ?_⟩
        have whole : Int64.ofInt (total.toInt + exactSum [face]) = next := by
          rw [sums, show exactSum [] = 0 from rfl, Int.add_zero, Int64.ofInt_toInt]
        rw [Except.map, whole]
      | true =>
        rw [drawFrom_explodeFrom_face hit] at run
        obtain ⟨error, refused, rfl⟩ | ⟨granted, counted, counts, run⟩ :=
          Rolling.bind_eq_some_iff.1 run
        · exact ⟨.error error, .of_hit_refused rolled hit refused, rfl⟩
        · obtain ⟨kept, covers⟩ := covered.of_countRoll still safe counts
          obtain ⟨cleared, clears, rfl⟩ := ih kept covers run
          refine ⟨_, .of_hit rolled hit counts clears, ?_⟩
          cases cleared with
          | error error => rw [Except.map, Except.map, Except.map]
          | ok faces => rw [Except.map, Except.map, Except.map, sums]

/-- An exploding face settles one pending draw and those that its hits add, and its value is the
sum of the faces. -/
theorem clears_of_explode {fuel : Nat} {result : Except RollError (Int64 × Slot)}
    (bounded : context.budget = some most) (safe : most ≤ safeBudget)
    (run : drawFrom (Slot.force (fuel + 2)) (.explode cmp cutoff (.face sides)) context =
      some (result, after)) :
    ∃ cleared, Clears sides cmp cutoff 1 context cleared after ∧
      result = cleared.map fun faces =>
        (Int64.ofInt (exactSum faces), .explode cmp cutoff (.face sides)) := by
  have nothing : Covers context 0 := by
    rw [Covers, Int64.toInt_zero, largestFace]
    omega
  rw [drawFrom_explode_face] at run
  obtain ⟨outcome, drawn, rfl⟩ := Rolling.bind_pure_eq_some_iff.1 run
  obtain ⟨cleared, clears, rfl⟩ := clears_of_explodingDraw bounded safe nothing drawn
  refine ⟨cleared, clears, ?_⟩
  cases cleared with
  | error error => rw [Except.map, Except.map, Except.map]
  | ok faces => rw [Except.map, Except.map, Except.map, Int64.toInt_zero, Int.zero_add]

/-- What is drawn first and what is drawn behind it add up to the faces of both. -/
theorem map_exactSum_cons {entry : Int64 × Slot} {faces : List Int64}
    {outcome : Except RollError (List (Int64 × Slot))} {rest : Except RollError (List Int64)}
    (first : entry.1.toInt = exactSum faces)
    (later : outcome.map (fun drawn => exactSum (drawn.map Prod.fst)) = rest.map exactSum) :
    (outcome.map (entry :: ·)).map (fun drawn => exactSum (drawn.map Prod.fst)) =
      (rest.map (faces ++ ·)).map exactSum := by
  cases outcome with
  | error error =>
    cases rest with
    | error cause => exact later
    | ok others => cases later
  | ok drawn =>
    cases rest with
    | error cause => cases later
    | ok others =>
      have behind : exactSum (drawn.map Prod.fst) = exactSum others := Except.ok.inj later
      simp only [Except.map, List.map_cons, exactSum_cons, exactSum_append, first, behind]

/-- Slots of one exploding die are a way of drawing until no draw is pending, and the values come
to the faces. -/
theorem clears_of_drawAll {fuel count : Nat} {result : Except RollError (List (Int64 × Slot))}
    (bounded : context.budget = some most) (safe : most ≤ safeBudget)
    (run : drawAll (Slot.force (fuel + 2))
      (List.replicate count (.explode cmp cutoff (.face sides))) context = some (result, after)) :
    ∃ cleared, Clears sides cmp cutoff count context cleared after ∧
      result.map (fun drawn => exactSum (drawn.map Prod.fst)) = cleared.map exactSum ∧
      ∀ drawn, result = .ok drawn → ∀ value ∈ drawn.map Prod.fst, 0 ≤ value.toInt := by
  induction count generalizing context result with
  | zero =>
    cases run
    refine ⟨.ok [], .done _, rfl, ?_⟩
    rintro _ ⟨⟩ value ⟨⟩
  | succ count ih =>
    rw [Nat.add_comm count 1]
    rw [drawAll, List.replicate_succ, List.mapM_cons] at run
    obtain ⟨error, refused, rfl⟩ | ⟨entry, reached, first, run⟩ := Rolling.bind_eq_some_iff.1 run
    · obtain ⟨cleared, clears, same⟩ := clears_of_explode bounded safe refused
      cases cleared with
      | ok faces => cases same
      | error cause =>
        cases same
        exact ⟨_, clears.append_error count, rfl, by rintro _ ⟨⟩⟩
    · obtain ⟨outcome, others, rfl⟩ := Rolling.bind_pure_eq_some_iff.1 run
      obtain ⟨cleared, clears, same⟩ := clears_of_explode bounded safe first
      cases cleared with
      | error cause => cases same
      | ok faces =>
        have still : reached.budget = some most := clears.budget_eq.trans bounded
        obtain ⟨rest, settles, sums, nonneg⟩ := ih still others
        obtain ⟨low, fits⟩ := clears.fits_sum bounded safe
        have value : entry.1.toInt = exactSum faces := by
          rw [Except.ok.inj same]
          exact fit_eq_ok_iff.1 (fit_of_fits fits)
        refine ⟨_, clears.append settles, map_exactSum_cons value sums, ?_⟩
        intro drawn shown
        cases outcome with
        | error error => cases shown
        | ok tail =>
          cases shown
          rw [List.map_cons, List.forall_mem_cons]
          exact ⟨value ▸ low, nonneg tail rfl⟩

/-- The total of exploding slots is the sum of the faces. -/
theorem clears_of_explode_total {fuel count : Nat} {result : Except RollError Int64}
    (bounded : context.budget = some most) (safe : most ≤ safeBudget)
    (run : (do
      let drawn ← drawAll (Slot.force (fuel + 2))
        (List.replicate count (.explode cmp cutoff (.face sides)))
      settle (sum (drawn.map Prod.fst))) context = some (result, after)) :
    ∃ cleared, Clears sides cmp cutoff count context cleared after ∧
      result = cleared.map fun faces => Int64.ofInt (exactSum faces) := by
  obtain ⟨error, refused, rfl⟩ | ⟨drawn, reached, draws, ended⟩ := Rolling.bind_eq_some_iff.1 run
  · obtain ⟨cleared, clears, sums, -⟩ := clears_of_drawAll bounded safe refused
    cases cleared with
    | error cause =>
      cases sums
      exact ⟨.error error, clears, by rw [Except.map]⟩
    | ok faces => cases sums
  · obtain ⟨cleared, clears, sums, nonneg⟩ := clears_of_drawAll bounded safe draws
    cases cleared with
    | error cause => cases sums
    | ok faces =>
      have same : exactSum (drawn.map Prod.fst) = exactSum faces := Except.ok.inj sums
      have fits := (clears.fits_sum bounded safe).2
      rw [← same] at fits
      rw [sum_of_nonneg (nonneg drawn rfl) fits, same] at ended
      cases ended
      exact ⟨.ok faces, clears, by rw [Except.map]⟩

/-- The total of slots that are rolled again is the sum of the faces. -/
theorem clears_of_again_total {fuel turns more count : Nat} {result : Except RollError Int64}
    (bounded : context.budget = some most) (safe : most ≤ safeBudget)
    (run : (do
      let pool ← generations (Slot.force (fuel + 1)) cmp cutoff turns
        (List.replicate count (.face sides))
      let drawn ← drawAll (Slot.force (more + 1)) pool
      settle (sum (drawn.map Prod.fst))) context = some (result, after)) :
    ∃ cleared, Clears sides cmp cutoff count context cleared after ∧
      result = cleared.map fun faces => Int64.ofInt (exactSum faces) := by
  obtain ⟨error, refused, rfl⟩ | ⟨pool, reached, made, rest⟩ := Rolling.bind_eq_some_iff.1 run
  · obtain ⟨cleared, clears, same⟩ := clears_of_generations refused
    cases cleared with
    | error cause =>
      cases same
      exact ⟨.error error, clears, by rw [Except.map]⟩
    | ok faces => cases same
  · obtain ⟨cleared, clears, same⟩ := clears_of_generations made
    cases cleared with
    | error cause => cases same
    | ok faces =>
      have remembered : pool = (faceDraws sides faces).map remember := Except.ok.inj same
      have values : ((faceDraws sides faces).map handedOut).map Prod.fst = faces := by
        rw [List.map_map]
        exact fst_faceDraws sides faces
      have fits := (clears.fits_sum bounded safe).2
      have total : sum faces = .ok (Int64.ofInt (exactSum faces)) :=
        sum_of_nonneg (fun face member => (clears.face_bounds face member).1) fits
      rw [remembered, drawAll_remember, pure_bind, values, total] at rest
      cases rest
      exact ⟨.ok faces, clears, by rw [Except.map]⟩

variable {body : Die}

/-- The total of exploding dice, from the parts that both kinds of dice share. -/
theorem Die.total_explode (fuel : Nat) (cutoff : Die) :
    (Die.explode cmp cutoff body).total (fuel + 2) =
      (do let limit ← cutoff.total fuel
          let slots ← body.generate fuel
          let drawn ← drawAll (Slot.force (fuel + 1)) (slots.map (.explode cmp limit))
          settle (sum (drawn.map Prod.fst)) : Rolling ρ Int64) := by
  rw [Die.total, Die.generate]
  simp only [bind_assoc, pure_bind]

/-- The total of dice that are rolled again, from the same parts. -/
theorem Die.total_again (fuel : Nat) (cutoff : Die) :
    (Die.again cmp cutoff body).total (fuel + 2) =
      (do let limit ← cutoff.total fuel
          let slots ← body.generate fuel
          let pool ← generations (Slot.force fuel) cmp limit fuel slots
          let drawn ← drawAll (Slot.force (fuel + 1)) pool
          settle (sum (drawn.map Prod.fst)) : Rolling ρ Int64) := by
  rw [Die.total, Die.generate]
  simp only [bind_assoc]

/-- With the same fuel, dice that explode and dice that are rolled again end in the same way: both
total the cutoff first, and then both generate the dice. -/
theorem Die.total_explode_unique {cutoff count sides : Die} {fuel : Nat}
    {left right : Except RollError Int64} {last other : Context ρ}
    (bounded : context.budget = some most) (safe : most ≤ safeBudget)
    (explodes : (Die.explode cmp cutoff (.dice count sides)).total (fuel + 3) context =
      some (left, last))
    (agains : (Die.again cmp cutoff (.dice count sides)).total (fuel + 3) context =
      some (right, other)) : left = right ∧ last = other := by
  rw [total_explode] at explodes
  rw [total_again, Rolling.bind_apply] at agains
  have known := followsScripts (fuel + 1)
  obtain ⟨error, refused, rfl⟩ | ⟨limit, mid, limits, explodes⟩ :=
    Rolling.bind_eq_some_iff.1 explodes
  · rw [refused] at agains
    cases agains
    exact ⟨rfl, rfl⟩
  · have still : mid.budget = context.budget := (known.total cutoff).budget_of_run limits
    rw [limits] at agains
    dsimp only at agains
    rw [Rolling.bind_apply] at agains
    obtain ⟨error, refused, rfl⟩ | ⟨slots, reached, made, explodes⟩ :=
      Rolling.bind_eq_some_iff.1 explodes
    · rw [refused] at agains
      cases agains
      exact ⟨rfl, rfl⟩
    · have kept : reached.budget = mid.budget := (known.generate _).budget_of_run made
      have covered : reached.budget = some most := kept.trans (still.trans bounded)
      obtain ⟨number, _, faces, -, -, rfl⟩ := Die.dice_generatesTo ⟨fuel + 1, made⟩
      rw [made] at agains
      dsimp only at agains
      rw [List.map_replicate] at explodes
      obtain ⟨cleared, clears, rfl⟩ := clears_of_explode_total covered safe explodes
      obtain ⟨_, settles, rfl⟩ := clears_of_again_total covered safe agains
      obtain ⟨rfl, same⟩ := clears.unique settles
      exact ⟨rfl, same⟩

end

/-- Under a budget for which no sum of faces overflows, dice that explode and dice that are rolled
again end with the same result, counter and roller. -/
theorem explode_eq_again (ρ : Type) [Roller ρ] (cmp : Comparison) (cutoff count sides : Die)
    {most : Nat} (safe : most ≤ safeBudget) (roller : ρ) (rolls others : Nat) :
    ∃ result after,
      (Die.explode cmp cutoff (.dice count sides)).roll ⟨some most, rolls, roller⟩ =
        some (result, after) ∧
      (Die.again cmp cutoff (.dice count sides)).roll ⟨some most, others, roller⟩ =
        some (result, after) := by
  have room : most < rollLimit := Nat.lt_of_le_of_lt safe (by decide)
  obtain ⟨left, last, explodes, -⟩ :=
    (Die.explode cmp cutoff (.dice count sides)).roll_ends room
      (show (⟨some most, rolls, roller⟩ : Context ρ).budget = some most from rfl)
  obtain ⟨right, other, agains, -⟩ :=
    (Die.again cmp cutoff (.dice count sides)).roll_ends room
      (show (⟨some most, others, roller⟩ : Context ρ).budget = some most from rfl)
  have bounded : (⟨some most, 0, roller⟩ : Context ρ).budget = some most := rfl
  rw [Die.roll_apply] at explodes agains
  obtain ⟨rfl, rfl⟩ := Die.total_explode_unique bounded safe explodes agains
  exact ⟨left, last, explodes, agains⟩

/-- A five and then a six hit, and one more face follows each: 14 in all, for six rolls and four
faces. -/
theorem explode_eq_again_two_hits :
    let roller (taken : Nat) : FaceCycle := ⟨[5, 2, 6, 1], by decide, taken⟩
    let body := Die.dice (.constant 2) (.constant 6)
    6 ≤ safeBudget ∧
      (Die.explode .above (.constant 5) body).roll ⟨some 6, 3, roller 0⟩ =
        some (.ok 14, ⟨some 6, 6, roller 4⟩) ∧
      (Die.again .above (.constant 5) body).roll ⟨some 6, 0, roller 0⟩ =
        some (.ok 14, ⟨some 6, 6, roller 4⟩) := by
  intro roller body
  have safe : 6 ≤ safeBudget := by decide
  have known : (Die.explode .above (.constant 5) body).roll ⟨some 6, 3, roller 0⟩ =
      some (.ok 14, ⟨some 6, 6, roller 4⟩) := by cbv
  obtain ⟨result, after, explodes, agains⟩ := explode_eq_again FaceCycle .above (.constant 5)
    (.constant 2) (.constant 6) safe (roller 0) 3 0
  have same : some (result, after) = some (.ok 14, ⟨some 6, 6, roller 4⟩) :=
    explodes.symm.trans known
  rw [same] at agains
  exact ⟨safe, known, agains⟩

end DicePool
