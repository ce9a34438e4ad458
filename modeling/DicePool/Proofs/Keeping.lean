import DicePool.Proofs.Memory

/-!
# Keeping

Keep draws from every slot of its body, in the order of the pool, and then asks nothing more of
the context. The draws are put in order with the most wanted ones first, and the earlier slot
first among equal values; the front of that order is kept, each draw with the slot it came from.
-/

namespace DicePool

/-- A draw with the place of its slot in the pool. -/
abbrev PlacedDraw := (Int64 × Slot) × Nat

namespace Selection

/-- Whether `left` is a more wanted value than `right`. -/
def Wants : Selection → Int64 → Int64 → Prop
  | .highest, left, right => right < left
  | .lowest, left, right => left < right

/-- Whether a draw comes before another: its value is more wanted, or the values are equal and
its slot is earlier in the pool. -/
def Before (selection : Selection) (left right : PlacedDraw) : Prop :=
  selection.Wants left.1.1 right.1.1 ∨ left.1.1 = right.1.1 ∧ left.2 < right.2

/-- What a selection keeps and drops of the draws from a pool when it keeps `count` of them. -/
structure Keeps (selection : Selection) (count : Nat) (drawn : List (Int64 × Slot))
    (kept dropped : List PlacedDraw) : Prop where
  /-- Every draw is kept or dropped, once. -/
  all : (kept ++ dropped).Perm drawn.zipIdx
  /-- The draws are in order, and those that are kept are the first. -/
  ordered : (kept ++ dropped).Pairwise selection.Before
  /-- As many are kept as are asked for and there are. -/
  length_kept : kept.length = min count drawn.length

variable {selection : Selection}

/-- A value is preferred unless the other one is wanted more. -/
theorem prefers_eq_true_iff {left right : Int64} :
    selection.prefers left right = true ↔ ¬selection.Wants right left := by
  cases selection with
  | highest => exact decide_eq_true_iff.trans Int64.not_lt.symm
  | lowest => exact decide_eq_true_iff.trans Int64.not_lt.symm

/-- Values of which neither is more wanted are equal. -/
theorem eq_of_not_wants {left right : Int64} (forward : ¬selection.Wants left right)
    (backward : ¬selection.Wants right left) : left = right := by
  cases selection with
  | highest => exact Int64.le_antisymm (Int64.not_lt.1 forward) (Int64.not_lt.1 backward)
  | lowest => exact Int64.le_antisymm (Int64.not_lt.1 backward) (Int64.not_lt.1 forward)

/-- Preferences are transitive. -/
theorem prefers_trans (first second third : Int64)
    (left : selection.prefers first second = true) (right : selection.prefers second third = true) :
    selection.prefers first third = true := by
  cases selection with
  | highest =>
    have lower := of_decide_eq_true left
    have upper := of_decide_eq_true right
    exact decide_eq_true (Int64.le_trans upper lower)
  | lowest =>
    have lower := of_decide_eq_true left
    have upper := of_decide_eq_true right
    exact decide_eq_true (Int64.le_trans lower upper)

/-- Of two values one is preferred. -/
theorem prefers_total (left right : Int64) :
    (selection.prefers left right || selection.prefers right left) = true := by
  rw [Bool.or_eq_true]
  cases selection with
  | highest => exact (Int64.le_total right left).imp decide_eq_true decide_eq_true
  | lowest => exact (Int64.le_total left right).imp decide_eq_true decide_eq_true

/-- In the order that breaks ties by place, draws of different places come one before the
other. -/
theorem before_of_zipIdxLE {left right : PlacedDraw}
    (ranked : List.zipIdxLE (fun left right => selection.prefers left.1 right.1) left right = true)
    (apart : left.2 ≠ right.2) : selection.Before left right := by
  by_cases forward : selection.prefers left.1.1 right.1.1 = true
  · have behind : ¬selection.Wants right.1.1 left.1.1 := prefers_eq_true_iff.1 forward
    by_cases backward : selection.prefers right.1.1 left.1.1 = true
    · have places : left.2 ≤ right.2 := by
        simpa only [List.zipIdxLE, if_pos forward, if_pos backward, decide_eq_true_eq] using ranked
      have same := eq_of_not_wants (prefers_eq_true_iff.1 backward) behind
      exact .inr ⟨same, Nat.lt_of_le_of_ne places apart⟩
    · exact .inl (Classical.not_not.1 fun others => backward (prefers_eq_true_iff.2 others))
  · simp only [List.zipIdxLE, if_neg forward] at ranked
    cases ranked

/-- Taking the most wanted draws keeps them in the order in which the earlier slot comes first
among equal values. -/
theorem exists_keeps (selection : Selection) (count : Nat) (drawn : List (Int64 × Slot)) :
    ∃ kept dropped, selection.Keeps count drawn kept dropped ∧
      selection.take count drawn = kept.map Prod.fst := by
  let rank (left right : Int64 × Slot) : Bool := selection.prefers left.1 right.1
  let ranked := drawn.zipIdx.mergeSort (List.zipIdxLE rank)
  have all : ranked.Perm drawn.zipIdx := List.mergeSort_perm _ _
  have values : ranked.map Prod.fst = drawn.mergeSort rank := List.mergeSort_zipIdx
  have places : (ranked.map Prod.snd).Nodup := by
    rw [(all.map Prod.snd).nodup_iff, List.zipIdx_map_snd]
    exact List.nodup_range' 1
  have apart : ranked.Pairwise fun left right => left.2 ≠ right.2 := List.pairwise_map.1 places
  have sorted : ranked.Pairwise fun left right => List.zipIdxLE rank left right = true :=
    List.pairwise_mergeSort
      (List.zipIdxLE_trans fun first second third => prefers_trans first.1 second.1 third.1)
      (List.zipIdxLE_total fun left right => prefers_total left.1 right.1) _
  have ordered : ranked.Pairwise selection.Before :=
    (sorted.and apart).imp fun both => before_of_zipIdxLE both.1 both.2
  have split : ranked.take count ++ ranked.drop count = ranked := List.take_append_drop count ranked
  refine ⟨ranked.take count, ranked.drop count, ⟨?_, ?_, ?_⟩, ?_⟩
  · rw [split]
    exact all
  · rw [split]
    exact ordered
  · rw [List.length_take, all.length_eq, List.length_zipIdx]
  · rw [take, List.map_take, values]

/-- No draw is less wanted than one behind it. -/
theorem not_wants_of_before {left right : PlacedDraw} (before : selection.Before left right) :
    ¬selection.Wants right.1.1 left.1.1 := by
  intro behind
  rcases before with ahead | ⟨same, -⟩
  · cases selection with
    | highest => exact Int64.lt_asymm ahead behind
    | lowest => exact Int64.lt_asymm ahead behind
  · rw [same] at behind
    cases selection with
    | highest => exact Int64.lt_irrefl behind
    | lowest => exact Int64.lt_irrefl behind

namespace Keeps

variable {count : Nat} {drawn : List (Int64 × Slot)} {kept dropped : List PlacedDraw}

/-- Kept values come with the most wanted first. -/
theorem sorted (keeps : selection.Keeps count drawn kept dropped) :
    (kept.map fun entry => entry.1.1).Pairwise
      fun earlier later => ¬selection.Wants later earlier := by
  have inOrder : kept.Pairwise selection.Before := (List.pairwise_append.1 keeps.ordered).1
  exact List.pairwise_map.2 (inOrder.imp not_wants_of_before)

/-- No dropped value is more wanted than a kept one. -/
theorem not_wants (keeps : selection.Keeps count drawn kept dropped) :
    ∀ entry ∈ kept, ∀ other ∈ dropped, ¬selection.Wants other.1.1 entry.1.1 := by
  intro entry inside other outside
  have across := (List.pairwise_append.1 keeps.ordered).2.2
  exact not_wants_of_before (across entry inside other outside)

/-- Kept and dropped values together are the values of the pool. -/
theorem values_perm (keeps : selection.Keeps count drawn kept dropped) :
    (kept.map (fun entry => entry.1.1) ++ dropped.map fun entry => entry.1.1).Perm
      (drawn.map Prod.fst) := by
  have values := keeps.all.map fun entry => entry.1.1
  have places : drawn.zipIdx.map (fun entry => entry.1.1) = drawn.map Prod.fst := by
    rw [← List.zipIdx_map_fst 0 drawn, List.map_map, List.zipIdx_map_fst]
    rfl
  rw [List.map_append, places] at values
  exact values

/-- The conditions leave no choice of what is kept. -/
theorem unique {others rest : List PlacedDraw}
    (keeps : selection.Keeps count drawn kept dropped)
    (same : selection.Keeps count drawn others rest) : kept = others := by
  have places : ∀ left right : PlacedDraw, selection.Before left right →
      selection.Before right left → left = right := by
    intro left right before after
    have forward := not_wants_of_before after
    have backward := not_wants_of_before before
    rcases before with ahead | ⟨-, earlier⟩
    · exact absurd ahead forward
    · rcases after with behind | ⟨-, later⟩
      · exact absurd behind backward
      · exact absurd later (Nat.lt_asymm earlier)
  have equal : kept ++ dropped = others ++ rest :=
    List.Perm.eq_of_pairwise (fun left right _ _ => places left right) keeps.ordered same.ordered
      (keeps.all.trans same.all.symm)
  have lengths : kept.length = others.length := keeps.length_kept.trans same.length_kept.symm
  exact (List.append_inj equal lengths).1

end Keeps

end Selection

section

variable {ρ : Type} [Roller ρ] {selection : Selection} {count body : Die}
  {context after : Context ρ}

/-- Keep totals the count, generates its body, draws from it and keeps some of the draws. -/
theorem Die.keep_generatesTo_iff {pool : Pool} :
    (Die.keep selection count body).GeneratesTo context (.ok pool) after ↔
      ∃ total mid, count.TotalsTo context (.ok total) mid ∧
        ∃ slots reached, body.GeneratesTo mid (.ok slots) reached ∧
          ∃ drawn, slots.DrawsTo reached (.ok drawn) after ∧
            pool = (selection.take (quantity total) drawn).map remember := by
  have sequence (fuel : Nat) :
      ((Die.keep selection count body).generate (fuel + 1) : Rolling ρ Pool) =
        (do let total ← count.total fuel
            let slots ← body.generate fuel
            let drawn ← drawAll (Slot.force fuel) slots
            return (selection.take (quantity total) drawn).map remember) := by
    rw [Die.generate]
  have draws (total : Int64) (slots : Pool) : Steady fun fuel =>
      (do let drawn ← drawAll (Slot.force fuel) slots
          return (selection.take (quantity total) drawn).map remember : Rolling ρ Pool) :=
    slots.steady_drawAll.map fun drawn => (selection.take (quantity total) drawn).map remember
  have generates (total : Int64) : Steady fun fuel =>
      (do let slots ← body.generate fuel
          let drawn ← drawAll (Slot.force fuel) slots
          return (selection.take (quantity total) drawn).map remember : Rolling ρ Pool) :=
    body.steady_generate.bind (draws total)
  unfold GeneratesTo
  rw [← (Die.steady_generate _).exists_add_iff 1]
  simp only [sequence, count.steady_total.exists_bind_ok_iff generates,
    body.steady_generate.exists_bind_ok_iff (draws _), exists_bind_pure_iff,
    exists_ok_eq_map_iff]
  rfl

end

/-- Keep has a pool exactly where its count and its body have, at the same cost. It keeps the most
wanted draws in a stable order, with their slots under memos that hand them out. -/
theorem keep_selects_and_remembers (ρ : Type) [Roller ρ] (selection : Selection)
    (count body : Die) (context : Context ρ) :
    (∀ after, (∃ pool, (Die.keep selection count body).GeneratesTo context (.ok pool) after) ↔
      ∃ total mid, count.TotalsTo context (.ok total) mid ∧
        ∃ values, body.ValuesTo mid (.ok values) after) ∧
    ∀ pool after, (Die.keep selection count body).GeneratesTo context (.ok pool) after →
      ∃ total mid slots reached drawn kept dropped,
        count.TotalsTo context (.ok total) mid ∧
        body.GeneratesTo mid (.ok slots) reached ∧
        slots.DrawsTo reached (.ok drawn) after ∧
        body.ValuesTo mid (.ok (drawn.map Prod.fst)) after ∧
        List.Forall₂ (Slot.Yields ρ) slots drawn ∧
        selection.Keeps (quantity total) drawn kept dropped ∧
        (∀ others rest, selection.Keeps (quantity total) drawn others rest → others = kept) ∧
        pool = kept.map (fun entry => remember entry.1) ∧
        ((kept.map fun entry => entry.1.1).Pairwise
          fun earlier later => ¬selection.Wants later earlier) ∧
        (∀ entry ∈ kept, ∀ other ∈ dropped, ¬selection.Wants other.1.1 entry.1.1) ∧
        (kept.map (fun entry => entry.1.1) ++ dropped.map fun entry => entry.1.1).Perm
          (drawn.map Prod.fst) ∧
        ∀ (fuel : Nat) (other : Context ρ), drawAll (Slot.force (fuel + 1)) pool other =
          some (.ok (kept.map fun entry => handedOut entry.1), other) := by
  constructor
  · intro after
    constructor
    · rintro ⟨pool, made⟩
      obtain ⟨total, mid, counted, slots, reached, made, drawn, draws, -⟩ :=
        Die.keep_generatesTo_iff.1 made
      exact ⟨total, mid, counted, drawn.map Prod.fst,
        Die.valuesTo_ok_iff.2 ⟨slots, reached, made, drawn, draws, rfl⟩⟩
    · rintro ⟨total, mid, counted, values, pooled⟩
      obtain ⟨slots, reached, made, drawn, draws, -⟩ := Die.valuesTo_ok_iff.1 pooled
      exact ⟨_, Die.keep_generatesTo_iff.2
        ⟨total, mid, counted, slots, reached, made, drawn, draws, rfl⟩⟩
  · intro pool after made
    obtain ⟨total, mid, counted, slots, reached, made, drawn, draws, shown⟩ :=
      Die.keep_generatesTo_iff.1 made
    obtain ⟨kept, dropped, keeps, taken⟩ := selection.exists_keeps (quantity total) drawn
    have remembered : pool = (kept.map Prod.fst).map remember := by rw [shown, taken]
    have pooled : body.ValuesTo mid (.ok (drawn.map Prod.fst)) after :=
      Die.valuesTo_ok_iff.2 ⟨slots, reached, made, drawn, draws, rfl⟩
    refine ⟨total, mid, slots, reached, drawn, kept, dropped, counted, made, draws, pooled,
      draws.each, keeps, fun others rest same => same.unique keeps, ?_, keeps.sorted,
      keeps.not_wants, keeps.values_perm, ?_⟩
    · rw [remembered, List.map_map]
      rfl
    · intro fuel other
      rw [remembered, drawAll_remember, List.map_map]
      rfl

/-- With a drawn count of two, two fives are kept of four faces. -/
theorem keep_selects_and_remembers_two_fives :
    let cycle (taken : Nat) : FaceCycle := ⟨[2, 3, 5, 5, 1], by decide, taken⟩
    let start : Context FaceCycle := Context.start (some 9) (cycle 0)
    let after : Context FaceCycle := ⟨some 9, 5, cycle 5⟩
    let count := Die.dice (.constant 1) (.constant 2)
    let body := Die.dice (.constant 4) (.constant 6)
    let five : Slot := .drawn (.resolved 5) (.face 6)
    (Die.keep .highest count body).GeneratesTo start (.ok [five, five]) after ∧
      (∃ total mid values, count.TotalsTo start (.ok total) mid ∧
        body.ValuesTo mid (.ok values) after) ∧
      ∃ total mid drawn kept dropped, count.TotalsTo start (.ok total) mid ∧
        body.ValuesTo mid (.ok (drawn.map Prod.fst)) after ∧
        Selection.highest.Keeps (quantity total) drawn kept dropped ∧
        [five, five] = kept.map (fun entry => remember entry.1) := by
  intro cycle start after count body five
  have made : (Die.keep .highest count body).GeneratesTo start (.ok [five, five]) after :=
    ⟨9, by cbv⟩
  obtain ⟨ends, keeps⟩ := keep_selects_and_remembers FaceCycle .highest count body start
  obtain ⟨total, mid, counted, values, pooled⟩ := (ends after).1 ⟨_, made⟩
  obtain ⟨sum, reached, slots, -, drawn, kept, dropped, totals, -, -, takes, -, selected, -, shown,
    -⟩ := keeps _ after made
  exact ⟨made, ⟨total, mid, values, counted, pooled⟩,
    sum, reached, drawn, kept, dropped, totals, takes, selected, shown⟩

end DicePool
