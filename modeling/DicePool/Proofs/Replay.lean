import DicePool.Proofs.Fuel

/-!
# Record and replay

What an evaluation makes of its roller is the faces that it is handed, one by one, for the sides
that it asks for. A recorder writes both down and changes nothing. Whatever roller hands out the
recorded faces again leads to the same end, and so does a cycle that begins with them: they have
been wrapped for their sides already, so wrapping them again keeps them.
-/

namespace DicePool

variable {ρ α : Type}

/-- A roller that writes down the sides it is asked for and the faces it hands out. -/
structure Recorder (ρ : Type) where
  /-- The roller that is recorded. -/
  roller : ρ
  /-- The faces so far, each with its sides. -/
  log : List (Sides × UInt32)

/-- The face is that of the roller, and it is written down with its sides. -/
instance [Roller ρ] : Roller (Recorder ρ) where
  roll recorder sides :=
    let (face, roller) := Roller.roll recorder.roller sides
    (face, ⟨roller, recorder.log ++ [(sides, face)]⟩)

/-- The context with a recorder at its roller that has written down `log`. -/
def Context.recorded (log : List (Sides × UInt32)) (context : Context ρ) : Context (Recorder ρ) :=
  context.withRoller ⟨context.roller, log⟩

/-- A recorder hands out the faces as they come, and writes them down. -/
theorem HandsOut.recorded [Roller ρ] {roller last : ρ} {log : List (Sides × UInt32)}
    (handed : HandsOut roller log last) (before : List (Sides × UInt32)) :
    HandsOut (Recorder.mk roller before) log ⟨last, before ++ log⟩ := by
  induction log generalizing roller before with
  | nil =>
    cases handed
    rw [List.append_nil]
    rfl
  | cons entry log ih =>
    obtain ⟨sides, face⟩ := entry
    obtain ⟨rfl, later⟩ := handed
    have rest := ih later (before ++ [(sides, (Roller.roll roller sides).1)])
    rw [List.append_assoc, List.singleton_append] at rest
    exact ⟨rfl, rest⟩

/-- A face is wrapped by its remainder, counted from one. -/
theorem Sides.toNat_wrap (sides : Sides) (face : UInt32) :
    (sides.wrap face).toNat = (face.toNat - 1) % sides.word.toNat + 1 := by
  have below : (face.toNat - 1) % sides.word.toNat < sides.word.toNat :=
    Nat.mod_lt _ sides.positive
  have bound : sides.word.toNat < UInt32.size := sides.word.toNat_lt
  exact UInt32.toNat_ofNat_of_lt' (by omega)

/-- A face of the die is kept as it is. -/
theorem Sides.wrap_wrap (sides : Sides) (face : UInt32) :
    sides.wrap (sides.wrap face) = sides.wrap face := by
  apply UInt32.toNat_inj.1
  rw [toNat_wrap, toNat_wrap, Nat.add_sub_cancel, Nat.mod_mod]

namespace FaceCycle

/-- The faces that a cycle hands out are faces of the dice that were asked for. -/
theorem wrap_of_handsOut {cycle last : FaceCycle} {log : List (Sides × UInt32)}
    (handed : HandsOut cycle log last) : ∀ entry ∈ log, entry.1.wrap entry.2 = entry.2 := by
  induction log generalizing cycle with
  | nil => simp
  | cons entry log ih =>
    obtain ⟨sides, face⟩ := entry
    obtain ⟨rfl, later⟩ := handed
    exact List.forall_mem_cons.2 ⟨sides.wrap_wrap cycle.current, ih later⟩

/-- A cycle that has not run out stands at the face behind those taken. -/
theorem current_eq {cycle : FaceCycle} {face : UInt32}
    (stands : cycle.faces[cycle.taken]? = some face) : cycle.current = face := by
  obtain ⟨inside, found⟩ := List.getElem?_eq_some_iff.1 stands
  have first : cycle.taken % cycle.faces.length = cycle.taken := Nat.mod_eq_of_lt inside
  unfold current
  simp only [first]
  exact found

/-- A cycle in which the faces of a log come next hands them out for the sides of the log. -/
theorem handsOut_log {log : List (Sides × UInt32)}
    (wrapped : ∀ entry ∈ log, entry.1.wrap entry.2 = entry.2) (before : List UInt32)
    {behind faces : List UInt32} (nonempty : 0 < faces.length)
    (begins : faces = before ++ (log.map Prod.snd ++ behind)) :
    HandsOut (FaceCycle.mk faces nonempty before.length) log
      ⟨faces, nonempty, before.length + log.length⟩ := by
  induction log generalizing before with
  | nil => rfl
  | cons entry log ih =>
    obtain ⟨kept, others⟩ := List.forall_mem_cons.1 wrapped
    have next : faces[before.length]? = some entry.2 := by
      rw [begins, List.getElem?_append_right (Nat.le_refl _), Nat.sub_self]
      rfl
    have face : current ⟨faces, nonempty, before.length⟩ = entry.2 := current_eq next
    have behindEntry : faces = before ++ [entry.2] ++ (log.map Prod.snd ++ behind) := by
      rw [begins, List.append_assoc]
      rfl
    have rest := ih others _ behindEntry
    rw [List.length_append, List.length_singleton, Nat.add_right_comm] at rest
    refine ⟨?_, rest⟩
    show entry.1.wrap (current _) = entry.2
    rw [face, kept]

end FaceCycle

/-- What evaluations end in: with any roller, the results and the contexts they leave. -/
abbrev Endings (α : Type) : Type 1 :=
  (ρ : Type) → [Roller ρ] → Context ρ → Except RollError α → Context ρ → Prop

/-- An evaluation that ended so was handed the faces of the log, and any roller that hands them
out again leads to the same end with the same count of rolls. -/
structure Replays (ends : Endings α) (context : Context FaceCycle) (result : Except RollError α)
    (after : Context FaceCycle) (log : List (Sides × UInt32)) : Prop where
  /-- A recorder in place of the roller writes the log. -/
  recorded : ends (Recorder FaceCycle) (context.recorded []) result (after.recorded log)
  /-- Nothing of a roller matters but the faces that it hands out. -/
  decided : ∀ (σ : Type) [Roller σ] (roller last : σ), HandsOut roller log last →
    ends σ (.start context.budget roller) result (after.withRoller last)
  /-- Any cycle that begins with the faces hands them out for the same sides. -/
  replayed : ∀ (faces : List UInt32) (nonempty : 0 < faces.length), log.map Prod.snd <+: faces →
    let cycle : FaceCycle := ⟨faces, nonempty, 0⟩
    let last : FaceCycle := ⟨faces, nonempty, log.length⟩
    ends FaceCycle (.start context.budget cycle) result (after.withRoller last) ∧
      ends (Recorder FaceCycle) ((Context.start context.budget cycle).recorded []) result
        ((after.withRoller last).recorded log)

/-- An evaluation that follows a script is replayed from its log. -/
theorem Scripted.replays {computation : (ρ : Type) → [Roller ρ] → Rolling ρ α}
    (scripted : Scripted computation) {context after : Context FaceCycle}
    {result : Except RollError α} {ends : Endings α}
    (leads : ∀ (ρ : Type) [Roller ρ] (other last : Context ρ), other.budget = context.budget →
      computation ρ { other with rolls := 0 } = some (result, last) → ends ρ other result last)
    (run : computation FaceCycle { context with rolls := 0 } = some (result, after)) :
    ∃ log, Replays ends context result after log := by
  obtain ⟨script, same⟩ := scripted
  rw [same] at run
  obtain ⟨log, handed, again⟩ := script.decidedBy_of_run run
  have decided (σ : Type) [Roller σ] (rolls : Nat) (roller last : σ)
      (others : HandsOut roller log last) :
      ends σ ⟨context.budget, rolls, roller⟩ result (after.withRoller last) := by
    apply leads σ _ _ rfl
    rw [same]
    exact again σ roller last others
  refine ⟨log, ?_, fun σ _ => decided σ 0, fun faces nonempty begins => ?_⟩
  · exact decided (Recorder FaceCycle) context.rolls _ _ (handed.recorded [])
  · intro cycle last
    obtain ⟨behind, whole⟩ := begins
    have served : HandsOut cycle log last := by
      have wrapped := FaceCycle.wrap_of_handsOut handed
      have served := FaceCycle.handsOut_log wrapped [] nonempty whole.symm
      rwa [List.length_nil, Nat.zero_add] at served
    exact ⟨decided FaceCycle 0 cycle last served,
      decided (Recorder FaceCycle) 0 _ _ (served.recorded [])⟩

/-- Every evaluation is replayed from the faces that it was handed: rolling and pooling, with the
fuel that the budget gives and with whatever fuel it takes. -/
theorem record_and_replay (die : Die) (context after : Context FaceCycle) :
    (∀ result, die.roll context = some (result, after) → ∃ log,
      Replays (fun _ _ context result after => die.roll context = some (result, after))
        context result after log) ∧
    (∀ result, die.pool context = some (result, after) → ∃ log,
      Replays (fun _ _ context result after => die.pool context = some (result, after))
        context result after log) ∧
    (∀ result, die.RollsTo context result after → ∃ log,
      Replays (fun _ _ => die.RollsTo) context result after log) ∧
    ∀ result, die.PoolsTo context result after → ∃ log,
      Replays (fun _ _ => die.PoolsTo) context result after log := by
  have total (fuel : Nat) := (followsScripts fuel).total die
  have values (fuel : Nat) := scripted_values fuel die
  refine ⟨fun result run => ?_, fun result run => ?_, ?_, ?_⟩
  · rw [Die.roll_apply] at run
    refine (total _).replays (fun ρ _ other last bounded ended => ?_) run
    rw [← bounded] at ended
    exact ended
  · rw [Die.pool_apply] at run
    refine (values _).replays (fun ρ _ other last bounded ended => ?_) run
    rw [← bounded] at ended
    exact ended
  · rintro result ⟨fuel, run⟩
    exact (total fuel).replays (fun ρ _ other last _ ended => ⟨fuel, ended⟩) run
  · rintro result ⟨fuel, run⟩
    exact (values fuel).replays (fun ρ _ other last _ ended => ⟨fuel, ended⟩) run

/-- A seven and a zero on dice of six sides are handed out as ones, and replayed as ones from the
front of another cycle. -/
theorem record_and_replay_wrapped :
    let die := Die.explode .under (.constant 1) (.dice (.constant 2) (.constant 6))
    let context : Context FaceCycle := ⟨some 20, 9, ⟨[5, 7, 0, 4], by decide, 1⟩⟩
    let faces : List UInt32 := [1, 1, 4, 5, 2]
    let again : FaceCycle := ⟨faces, by decide, 0⟩
    let last : FaceCycle := ⟨faces, by decide, 4⟩
    ∃ after log, die.roll context = some (.ok 11, after) ∧
      die.roll (context.recorded []) = some (.ok 11, after.recorded log) ∧
      log.map (fun entry => (entry.1.word, entry.2)) = [(6, 1), (6, 1), (6, 4), (6, 5)] ∧
      die.roll (.start (some 20) again) = some (.ok 11, after.withRoller last) := by
  intro die context faces again last
  have answer : (die.roll context).map (fun out => out.1.toOption) = some (some 11) := by
    decide +kernel
  have handed : (die.roll (context.recorded [])).map
      (fun out => out.2.roller.log.map fun entry => (entry.1.word, entry.2)) =
        some [(6, 1), (6, 1), (6, 4), (6, 5)] := by
    decide +kernel
  obtain ⟨⟨result, after⟩, ends, shown⟩ := Option.map_eq_some_iff.1 answer
  cases result with
  | error error => cases shown
  | ok total =>
    obtain rfl : total = 11 := Option.some.inj shown
    obtain ⟨log, replays⟩ := (record_and_replay die context after).1 _ ends
    have recorded : die.roll (context.recorded []) = some (.ok 11, after.recorded log) :=
      replays.recorded
    rw [recorded] at handed
    have entries : log.map (fun entry => (entry.1.word, entry.2)) =
        [(6, 1), (6, 1), (6, 4), (6, 5)] := Option.some.inj handed
    have taken : log.map Prod.snd = [1, 1, 4, 5] := by
      have second := congrArg (List.map Prod.snd) entries
      rwa [List.map_map] at second
    have length : log.length = 4 := by
      have same := congrArg List.length taken
      rwa [List.length_map] at same
    have begins : log.map Prod.snd <+: faces := by
      rw [taken]
      decide
    obtain ⟨replayed, -⟩ := replays.replayed faces (by decide) begins
    rw [length] at replayed
    exact ⟨after, log, ends, recorded, entries, replayed⟩

end DicePool
