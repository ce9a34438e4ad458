import DicePool.ParseError

/-!
# Lexemes

A text is cut from left to right into tokens without skipping anything. Digits
are taken as far as they go; everything else has a fixed spelling. Places are
counted in bytes of the encoded text.
-/

namespace DicePool

/-- The number of bytes that the characters take when encoded. -/
def byteLength : List Char → Nat
  | [] => 0
  | c :: rest => c.utf8Size + byteLength rest

/-- A token, the byte offset where it starts, and its text. -/
structure Lexeme where
  /-- What the characters stand for. -/
  token : Token
  /-- The byte at which they start. -/
  start : Nat
  /-- The characters. -/
  text : List Char
deriving DecidableEq

namespace Lexeme

/-- The byte offset behind a lexeme. -/
def stop (lexeme : Lexeme) : Nat := lexeme.start + byteLength lexeme.text

/-- The number that a run of digits denotes, if it fits 64 bits. -/
def number? (run : List Char) : Option Token :=
  match fit (Decimal.value run) with
  | .ok value => some (.number value)
  | .error _ => none

/-- The characters at the front of a text that are read as one, and their token. Digits
stay together even if their number is too large; a character that begins no token
stands alone. -/
def front (c : Char) (rest : List Char) : List Char × Option Token :=
  if c.isDigit then
    let run := c :: rest.takeWhile Char.isDigit
    (run, number? run)
  else
    match Token.markAt? (c :: rest) with
    | some mark => (mark.letters, some mark)
    | none => ([c], none)

/-- At least one character is taken off the front. -/
theorem length_front_pos (c : Char) (rest : List Char) : 0 < (front c rest).1.length := by
  unfold front
  split
  · simp
  · split
    · rename_i mark found
      exact List.length_pos_iff.2
        (Token.letters_of_mem_marks (Token.mem_marks_of_markAt? found)).1
    · simp

/-- The lexemes of a text that starts at byte `start`. -/
def scan (start : Nat) : List Char → Except ParseError (List Lexeme)
  | [] => .ok []
  | c :: rest =>
    match h : front c rest with
    | (text, none) => .error ⟨.unrecognized, start, String.ofList text⟩
    | (text, some token) =>
      have : 0 < text.length := by
        have positive := length_front_pos c rest
        rwa [h] at positive
      match scan (start + byteLength text) ((c :: rest).drop text.length) with
      | .error error => .error error
      | .ok lexemes => .ok (⟨token, start, text⟩ :: lexemes)
termination_by text => text.length
decreasing_by simp only [List.length_drop, List.length_cons]; omega

/-- The lexemes of a whole text. -/
def ofText (text : String) : Except ParseError (List Lexeme) := scan 0 text.toList

end Lexeme

end DicePool
