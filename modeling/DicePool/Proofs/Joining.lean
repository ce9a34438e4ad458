import DicePool.Proofs.Vocabulary

/-!
# Texts put together

A text that can be cut leaves no trace on what stands behind it: the second text is cut, or
cannot be cut, as if it stood alone, only later. Digits that meet are the one exception, since
they form a single numeral, and there the condition is exact: where they meet, no lexeme ends
with the first text.
-/

namespace DicePool.Lexeme

variable {first second : String} {lexemes : List Lexeme}

/-- Behind a text that can be cut, the second one comes to what it comes to alone, moved behind
the first. -/
theorem ofText_append (cut : ofText first = .ok lexemes)
    (parted : Parted first.toList second.toList) :
    ofText (first ++ second) =
      match ofText second with
      | .ok others => .ok (lexemes ++ others.map (moved first.utf8ByteSize))
      | .error error => .error (error.moved first.utf8ByteSize) := by
  have joined : (first ++ second).toList = first.toList ++ second.toList := String.toList_append
  have later := scan_moved 0 first.utf8ByteSize second.toList
  rw [Nat.zero_add] at later
  rw [ofText, joined, scan_append parted 0 cut, zero_add_byteLength, later, ofText]
  cases scan 0 second.toList <;> rfl

/-- Where the lexemes of the first text are those at the front of the whole, no digits meet. -/
theorem parted_of_ofText_append {others : List Lexeme} (cut : ofText first = .ok lexemes)
    (whole : ofText (first ++ second) = .ok (lexemes ++ others)) :
    Parted first.toList second.toList := by
  have alone := (row_of_scan cut).1
  have row := (row_of_scan whole).1
  rw [List.map_append, String.toList_append] at row
  obtain ⟨left, right, spelled, parted, leftRow, -⟩ := row.split
  have same : left = first.toList := leftRow.joined.symm.trans alone.joined
  rw [same] at spelled parted
  rwa [List.append_cancel_left spelled]

/-- Texts that do not meet within a run of digits are cut independently: the second one gives the
same lexemes or the same error, moved behind the first. -/
theorem ofText_append_of_parted (cut : ofText first = .ok lexemes)
    (parted : Parted first.toList second.toList) :
    (∀ others, ofText second = .ok others →
      ofText (first ++ second) = .ok (lexemes ++ others.map (moved first.utf8ByteSize))) ∧
    ∀ error, ofText second = .error error →
      ofText (first ++ second) = .error (error.moved first.utf8ByteSize) := by
  have whole := ofText_append cut parted
  constructor
  · intro others alone
    rw [whole, alone]
  · intro error alone
    rw [whole, alone]

/-- Behind a spaced sign a bare one is a token of its own, and a character of two bytes that is no
token is shown that much later. -/
theorem ofText_append_of_parted_sign :
    let front := [Lexeme.mk (.operator .dice) 0 ['d'], ⟨.number 6, 1, ['6']⟩,
      ⟨.operator (.arithmetic .subtract), 2, [' ', '-', ' ']⟩]
    let behind := [Lexeme.mk (.operator (.bonus .subtract)) 0 ['-'], ⟨.number 3, 1, ['3']⟩]
    (ofText "d6 - " = .ok front ∧ Parted "d6 - ".toList "-3".toList ∧
      ofText "-3" = .ok behind ∧
      ofText ("d6 - " ++ "-3") = .ok (front ++ behind.map (moved 5))) ∧
    Parted "d6 - ".toList "3é".toList ∧
      ofText "3é" = .error ⟨.unrecognized, 1, "é"⟩ ∧
      ofText ("d6 - " ++ "3é") = .error ⟨.unrecognized, 6, "é"⟩ := by
  intro front behind
  have cut : ofText "d6 - " = .ok front := by cbv
  have last : "d6 - ".toList.getLast? = some ' ' := by cbv
  have parted (right : List Char) : Parted "d6 - ".toList right := by
    apply Parted.of_last
    rw [last]
    rintro _ ⟨⟩
    rfl
  have sign : ofText "-3" = .ok behind := by cbv
  have unknown : ofText "3é" = .error ⟨.unrecognized, 1, "é"⟩ := by cbv
  exact ⟨⟨cut, parted _, sign, (ofText_append_of_parted cut (parted _)).1 behind sign⟩,
    parted _, unknown, (ofText_append_of_parted cut (parted _)).2 _ unknown⟩

end DicePool.Lexeme
