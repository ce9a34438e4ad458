import Mathlib
import DicePool.Proofs.Scanning

/-!
# Texts as rows of words

The vocabulary of dice notation knows nothing of scanning: a word is a run of digits or has one
of the fixed spellings. A text can be cut exactly if it is a row of words in which no two
numerals are adjacent and no numeral is too large, and it is such a row in one way at most.
Where a text cannot be cut, the part in front of that place can, and what stands there is a
whole numeral that is too large, or begins with no word at all.
-/

namespace DicePool

/-- The fixed spellings of the vocabulary. -/
def vocabulary : List (Kind × String) :=
  [(.opening, "("), (.closing, ")"),
    (.operator .dice, "d"),
    (.operator (.arithmetic .add), " + "), (.operator (.arithmetic .subtract), " - "),
    (.operator (.arithmetic .multiply), " * "), (.operator (.arithmetic .divide), " / "),
    (.operator (.bonus .add), "+"), (.operator (.bonus .subtract), "-"),
    (.operator (.bonus .multiply), "*"), (.operator (.bonus .divide), "/"),
    (.operator (.explode .above), "E"), (.operator (.explode .under), "e"),
    (.operator (.keep .highest), "K"), (.operator (.keep .lowest), "k"),
    (.operator (.again .above), "A"), (.operator (.again .under), "a"),
    (.operator (.threshold .above), "T"), (.operator (.threshold .under), "t"),
    (.operator .repetition, " x ")]

/-- The words of the vocabulary, each with the kind of token that it spells. -/
inductive Word : Kind → List Char → Prop where
  /-- A run of digits. -/
  | numeral {run : List Char} (nonempty : run ≠ []) (digits : ∀ c ∈ run, c.isDigit = true) :
    Word .number run
  /-- A spelling that is listed. -/
  | fixed {kind : Kind} {spelling : String} (listed : (kind, spelling) ∈ vocabulary) :
    Word kind spelling.toList

/-- The text is put together from the words of the row. -/
structure IsRow (text : List Char) (row : List (Kind × List Char)) : Prop where
  /-- The words make up the text. -/
  joined : (row.map Prod.snd).flatten = text
  /-- Each one is a word. -/
  words : ∀ entry ∈ row, Word entry.1 entry.2
  /-- No two numerals are adjacent. -/
  apart : row.IsChain fun left right => ¬(left.1 = .number ∧ right.1 = .number)
  /-- No numeral is too large. -/
  small : ∀ entry ∈ row, entry.1 = .number → Decimal.value entry.2 ≤ 2 ^ 63 - 1

/-- A run of digits with no digit on either side. -/
structure WholeRun (before run behind : List Char) : Prop where
  /-- There is a digit. -/
  nonempty : run ≠ []
  /-- There are only digits. -/
  digits : ∀ c ∈ run, c.isDigit = true
  /-- No digit stands in front. -/
  left : ∀ c, before.getLast? = some c → c.isDigit = false
  /-- No digit stands behind. -/
  right : ∀ c, behind.head? = some c → c.isDigit = false

/-- What keeps a text from being cut behind `before`. -/
inductive Obstacle (before behind : List Char) : List Char → Prop where
  /-- A numeral that is too large. -/
  | large {run : List Char} (whole : WholeRun before run behind)
    (large : 2 ^ 63 - 1 < Decimal.value run) : Obstacle before behind run
  /-- A character with which no word begins there. -/
  | unknown {c : Char} (wordless : ∀ kind letters, Word kind letters → ¬letters <+: c :: behind) :
    Obstacle before behind [c]

namespace Lexeme

/-- What a lexeme is and how it is spelled. -/
def word (lexeme : Lexeme) : Kind × List Char := (lexeme.token.kind, lexeme.text)

/-- The lexemes follow one another without a gap from byte `start` to byte `finish`. -/
def Tile : Nat → List Lexeme → Nat → Prop
  | start, [], finish => start = finish
  | start, lexeme :: rest, finish => lexeme.start = start ∧ Tile lexeme.stop rest finish

/-- A lexeme stands in the text between `before` and `behind`. A number is a whole run of digits
there and denotes what they do. -/
structure StandsBetween (before behind : String) (text : String) (lexeme : Lexeme) : Prop where
  /-- The lexeme stands between the two texts. -/
  slice : text = before ++ String.ofList lexeme.text ++ behind
  /-- It starts behind the first one. -/
  start : lexeme.start = before.utf8ByteSize
  /-- A number is the value of a whole run of digits. -/
  number : ∀ value, lexeme.token = .number value →
    value.toInt = Decimal.value lexeme.text ∧
      WholeRun before.toList lexeme.text behind.toList

/-- The lexemes are the words of the text, which has no other row of words. -/
structure IsCut (text : String) (lexemes : List Lexeme) : Prop where
  /-- The lexemes are a row of words. -/
  row : IsRow text.toList (lexemes.map word)
  /-- There is no other row. -/
  only : ∀ row, IsRow text.toList row → row = lexemes.map word
  /-- They cover the text without gaps. -/
  tile : Tile 0 lexemes text.utf8ByteSize
  /-- Each stands at its place. -/
  places : ∀ lexeme ∈ lexemes, ∃ before behind, lexeme.StandsBetween before behind text

/-- The error shows what keeps the text from being cut, behind all that can be cut. -/
structure Pinpoints (text : String) (error : ParseError) : Prop where
  /-- The fault is that nothing is recognized. -/
  fault : error.fault = .unrecognized
  /-- The text in front can be cut, and an obstacle stands behind it. -/
  place : ∃ before behind : String, text = before ++ error.slice ++ behind ∧
    error.start = before.utf8ByteSize ∧ error.stop = (before ++ error.slice).utf8ByteSize ∧
    (∃ lexemes, ofText before = .ok lexemes) ∧
    Obstacle before.toList behind.toList error.slice.toList

end Lexeme

/-- The marks are spelled as the vocabulary says. -/
theorem vocabulary_eq :
    vocabulary = Token.marks.map fun mark => (mark.kind, String.ofList mark.letters) := rfl

namespace Word

variable {kind : Kind} {letters : List Char}

/-- A word other than a numeral is the spelling of a mark. -/
theorem mark (word : Word kind letters) (other : kind ≠ .number) :
    ∃ mark ∈ Token.marks, mark.kind = kind ∧ mark.letters = letters := by
  cases word with
  | numeral _ _ => exact absurd rfl other
  | fixed listed =>
    rw [vocabulary_eq] at listed
    obtain ⟨mark, member, same⟩ := List.mem_map.1 listed
    obtain ⟨rfl, rfl⟩ := Prod.mk.inj same
    exact ⟨mark, member, rfl, String.toList_ofList.symm⟩

/-- A mark is a word of its own kind, and no number. -/
theorem of_mem_marks {mark : Token} (h : mark ∈ Token.marks) :
    Word mark.kind mark.letters ∧ mark.kind ≠ .number := by
  have listed : (mark.kind, String.ofList mark.letters) ∈ vocabulary := by
    rw [vocabulary_eq]
    exact List.mem_map_of_mem h
  have word : Word mark.kind (String.ofList mark.letters).toList := .fixed listed
  rw [String.toList_ofList] at word
  refine ⟨word, ?_⟩
  cases mark with
  | number value => exact absurd h (by simp [Token.marks])
  | operator _ | opening | closing => simp [Token.kind]

/-- A word other than a numeral has no digit. -/
theorem plain (word : Word kind letters) (other : kind ≠ .number) :
    ∀ c ∈ letters, c.isDigit = false := by
  obtain ⟨mark, member, -, rfl⟩ := word.mark other
  exact (Token.letters_of_mem_marks member).2

/-- The numerals are the runs of digits. -/
theorem run (word : Word .number letters) : letters ≠ [] ∧ ∀ c ∈ letters, c.isDigit = true := by
  cases word with
  | numeral nonempty digits => exact ⟨nonempty, digits⟩
  | fixed listed => exact absurd listed (by simp [vocabulary])

/-- No word is empty. -/
theorem ne_nil (word : Word kind letters) : letters ≠ [] := by
  by_cases numeral : kind = .number
  · subst numeral
    exact word.run.1
  · obtain ⟨mark, member, -, rfl⟩ := word.mark numeral
    exact (Token.letters_of_mem_marks member).1

/-- A numeral between texts that meet it in no run of digits is a whole run. -/
theorem wholeRun {before run behind : List Char} (numeral : Word .number run)
    (left : Parted before (run ++ behind)) (right : Parted run behind) :
    WholeRun before run behind := by
  obtain ⟨c, rest, rfl⟩ := List.exists_cons_of_ne_nil numeral.ne_nil
  refine ⟨numeral.ne_nil, numeral.run.2, fun d last => ?_, fun d first => ?_⟩
  · apply Bool.eq_false_iff.2
    intro digit
    have plain : c.isDigit = false := left d c last rfl digit
    rw [numeral.run.2 c List.mem_cons_self] at plain
    cases plain
  · have last := List.getLast?_eq_some_getLast numeral.ne_nil
    exact right _ d last first (numeral.run.2 _ (List.getLast_mem _))

end Word

/-- The empty text is the empty row. -/
theorem isRow_nil : IsRow [] [] := ⟨rfl, by simp, .nil, by simp⟩

namespace IsRow

variable {text : List Char} {entry : Kind × List Char} {row : List (Kind × List Char)}

/-- A text begins as the first word of its row does. -/
theorem head? (whole : IsRow text (entry :: row)) : text.head? = entry.2.head? := by
  have word : Word entry.1 entry.2 := whole.words entry List.mem_cons_self
  have spelled : text = entry.2 ++ (row.map Prod.snd).flatten := whole.joined.symm
  rw [spelled, List.head?_append_of_ne_nil _ word.ne_nil]

/-- Behind a numeral whose digits the text does not continue, its row begins with no numeral. -/
theorem not_numeral_of_parted (whole : IsRow text (entry :: row)) {run : List Char}
    (word : Word .number run) (parted : Parted run text) : entry.1 ≠ .number := by
  obtain ⟨kind, letters⟩ := entry
  rintro rfl
  have next : Word .number letters := whole.words _ List.mem_cons_self
  have first : text.head? = some (letters.head next.ne_nil) := by
    rw [whole.head?, List.head?_eq_some_head next.ne_nil]
  have last : run.getLast? = some (run.getLast word.ne_nil) :=
    List.getLast?_eq_some_getLast word.ne_nil
  have plain := parted _ _ last first (word.run.2 _ (List.getLast_mem _))
  rw [next.run.2 _ (List.head_mem _)] at plain
  cases plain

end IsRow

/-- A row is a word, and behind it a row that does not go on with its digits. -/
theorem isRow_cons_iff {text letters : List Char} {kind : Kind}
    {row : List (Kind × List Char)} :
    IsRow text ((kind, letters) :: row) ↔
      Word kind letters ∧ (kind = .number → Decimal.value letters ≤ 2 ^ 63 - 1) ∧
        ∃ rest, text = letters ++ rest ∧ Parted letters rest ∧ IsRow rest row := by
  constructor
  · intro whole
    have word : Word kind letters := whole.words _ List.mem_cons_self
    have chain := List.isChain_cons.1 whole.apart
    have rest : IsRow (row.map Prod.snd).flatten row :=
      ⟨rfl, fun entry member => whole.words entry (List.mem_cons_of_mem _ member), chain.2,
        fun entry member => whole.small entry (List.mem_cons_of_mem _ member)⟩
    refine ⟨word, whole.small _ List.mem_cons_self, _, whole.joined.symm, ?_, rest⟩
    by_cases numeral : kind = .number
    · -- Behind a numeral stands nothing or a word without digits.
      apply Parted.of_head
      intro c first
      cases row with
      | nil => cases first
      | cons next row =>
        rw [rest.head?] at first
        have other : next.1 ≠ .number := fun same => chain.1 next rfl ⟨numeral, same⟩
        have following := rest.words next List.mem_cons_self
        exact following.plain other c (List.mem_of_head? first)
    · exact Parted.of_last fun c last => word.plain numeral c (List.mem_of_getLast? last)
  · rintro ⟨word, small, rest, rfl, parted, row⟩
    refine ⟨?_, List.forall_mem_cons.2 ⟨word, row.words⟩, List.isChain_cons.2 ⟨?_, row.apart⟩,
      List.forall_mem_cons.2 ⟨small, row.small⟩⟩
    · rw [List.map_cons, List.flatten_cons, row.joined]
    · rintro next first ⟨rfl, numeral⟩
      obtain ⟨others, rfl⟩ := List.head?_eq_some_iff.1 first
      exact row.not_numeral_of_parted word parted numeral

/-- The parts of a row are rows of texts that do not meet within a run of digits. -/
theorem IsRow.split {text : List Char} {first second : List (Kind × List Char)}
    (whole : IsRow text (first ++ second)) :
    ∃ left right, text = left ++ right ∧ Parted left right ∧ IsRow left first ∧
      IsRow right second := by
  induction first generalizing text with
  | nil => exact ⟨[], text, rfl, Parted.of_last (by simp), isRow_nil, whole⟩
  | cons entry first ih =>
    obtain ⟨word, small, rest, rfl, parted, others⟩ := isRow_cons_iff.1 whole
    obtain ⟨left, right, rfl, apart, leftRow, rightRow⟩ := ih others
    have leftWhole : IsRow (entry.2 ++ left) (entry :: first) :=
      isRow_cons_iff.2 ⟨word, small, left, rfl, parted.of_append, leftRow⟩
    exact ⟨entry.2 ++ left, right, by simp, parted.append apart, leftWhole, rightRow⟩

namespace Lexeme

/-- A numeral that is read denotes its number. -/
theorem value_of_number? {run : List Char} {token : Token} (read : number? run = some token) :
    ∃ value : Int64, token = .number value ∧ value.toInt = Decimal.value run := by
  unfold number? at read
  split at read
  · rename_i value fits
    cases read
    exact ⟨value, rfl, fit_eq_ok_iff.1 fits⟩
  · cases read

/-- A numeral is not read exactly when it is too large. -/
theorem number?_eq_none_iff {run : List Char} :
    number? run = none ↔ 2 ^ 63 - 1 < Decimal.value run := by
  have least : Int64.minValue.toInt = -2 ^ 63 := by decide
  have greatest : Int64.maxValue.toInt = 2 ^ 63 - 1 := by decide
  unfold number? fit
  by_cases large : 2 ^ 63 - 1 < Decimal.value run
  · rw [if_neg (by omega)]
    exact ⟨fun _ => large, fun _ => rfl⟩
  · rw [if_pos (by omega)]
    exact ⟨fun h => (by cases h), fun h => absurd h large⟩

/-- What denotes a number of the range is not too large. -/
theorem small_of_denotes {token : Token} {letters : List Char}
    (denotes : ∀ value, token = .number value → value.toInt = Decimal.value letters) :
    token.kind = .number → Decimal.value letters ≤ 2 ^ 63 - 1 := by
  intro numeral
  cases token with
  | number value =>
    have bound := value.toInt_lt
    have exact := denotes value rfl
    omega
  | operator _ | opening | closing => cases numeral

/-- A text that begins with a digit begins with a run of digits that ends there. -/
theorem run_at_front {c : Char} (digit : c.isDigit = true) (rest : List Char) :
    ∃ behind, c :: rest = c :: rest.takeWhile Char.isDigit ++ behind ∧
      (∀ d ∈ c :: rest.takeWhile Char.isDigit, d.isDigit = true) ∧
      ∀ d, behind.head? = some d → d.isDigit = false := by
  refine ⟨rest.dropWhile Char.isDigit, ?_, ?_, ?_⟩
  · rw [List.cons_append, List.takeWhile_append_dropWhile]
  · exact List.forall_mem_cons.2 ⟨digit, fun d => List.all_eq_true.1 List.all_takeWhile d⟩
  · intro d first
    have stops := List.head?_dropWhile_not Char.isDigit rest
    rwa [first] at stops

/-- What is cut off as a token is a word, with the number that it denotes, and the text behind it
does not go on with its digits. -/
theorem word_of_front {c : Char} {rest text : List Char} {token : Token}
    (cut : front c rest = (text, some token)) :
    Word token.kind text ∧
      (∀ value, token = .number value → value.toInt = Decimal.value text) ∧
      ∃ behind, c :: rest = text ++ behind ∧ Parted text behind := by
  by_cases digit : c.isDigit = true
  · rw [front_digit digit] at cut
    obtain ⟨rfl, read⟩ := Prod.mk.inj cut
    obtain ⟨value, rfl, denotes⟩ := value_of_number? read
    obtain ⟨behind, spelled, digits, stops⟩ := run_at_front digit rest
    refine ⟨.numeral (List.cons_ne_nil _ _) digits, ?_, behind, spelled, Parted.of_head stops⟩
    rintro _ ⟨⟩
    exact denotes
  · rw [front, if_neg digit] at cut
    cases found : Token.markAt? (c :: rest) with
    | none => rw [found] at cut; cases cut
    | some mark =>
      rw [found] at cut
      cases cut
      have member := Token.mem_marks_of_markAt? found
      obtain ⟨word, other⟩ := Word.of_mem_marks member
      obtain ⟨behind, spelled⟩ :=
        List.isPrefixOf_iff_prefix.1 (Token.isPrefixOf_of_markAt? found)
      refine ⟨word, ?_, behind, spelled.symm, Token.parted_letters member behind⟩
      rintro value rfl
      exact absurd rfl other

/-- Where no token is cut off, there is an obstacle. -/
theorem obstacle_of_front {before rest text : List Char} {c : Char}
    (parted : Parted before (c :: rest)) (cut : front c rest = (text, none)) :
    ∃ behind, c :: rest = text ++ behind ∧ Obstacle before behind text := by
  by_cases digit : c.isDigit = true
  · rw [front_digit digit] at cut
    obtain ⟨rfl, large⟩ := Prod.mk.inj cut
    obtain ⟨behind, spelled, digits, stops⟩ := run_at_front digit rest
    have numeral : Word .number (c :: rest.takeWhile Char.isDigit) :=
      .numeral (List.cons_ne_nil _ _) digits
    have left : Parted before (c :: rest.takeWhile Char.isDigit ++ behind) := by rwa [← spelled]
    exact ⟨behind, spelled, .large (numeral.wholeRun left (Parted.of_head stops))
      (number?_eq_none_iff.1 large)⟩
  · rw [front, if_neg digit] at cut
    cases found : Token.markAt? (c :: rest) with
    | some mark => rw [found] at cut; cases cut
    | none =>
      rw [found] at cut
      cases cut
      refine ⟨rest, rfl, .unknown fun kind letters word starts => ?_⟩
      by_cases numeral : kind = .number
      · subst numeral
        obtain ⟨d, run, rfl⟩ := List.exists_cons_of_ne_nil word.ne_nil
        obtain ⟨rfl, -⟩ := List.cons_prefix_cons.1 starts
        exact digit (word.run.2 d List.mem_cons_self)
      · obtain ⟨mark, member, -, rfl⟩ := word.mark numeral
        exact List.find?_eq_none.1 found mark member (List.isPrefixOf_iff_prefix.2 starts)

/-- A word alone is one lexeme. -/
theorem scan_word {kind : Kind} {letters : List Char} (word : Word kind letters)
    (small : kind = .number → Decimal.value letters ≤ 2 ^ 63 - 1) (start : Nat) :
    ∃ token : Token, token.kind = kind ∧ scan start letters = .ok [⟨token, start, letters⟩] := by
  by_cases numeral : kind = .number
  · subst numeral
    cases read : number? letters with
    | none => exact absurd (small rfl) (Nat.not_le_of_lt (number?_eq_none_iff.1 read))
    | some token =>
      obtain ⟨value, rfl, -⟩ := value_of_number? read
      exact ⟨.number value, rfl, scan_run word.ne_nil word.run.2 read start⟩
  · obtain ⟨mark, member, rfl, rfl⟩ := word.mark numeral
    exact ⟨mark, rfl, scan_mark member start⟩

/-- A row of words is cut into its words. -/
theorem scan_of_row {text : List Char} {row : List (Kind × List Char)} (whole : IsRow text row)
    (start : Nat) : ∃ lexemes, scan start text = .ok lexemes ∧ lexemes.map word = row := by
  induction row generalizing text start with
  | nil =>
    obtain rfl : [] = text := whole.joined
    exact ⟨[], by rw [scan], rfl⟩
  | cons entry row ih =>
    obtain ⟨first, small, rest, rfl, parted, others⟩ := isRow_cons_iff.1 whole
    obtain ⟨token, same, alone⟩ := scan_word first small start
    obtain ⟨lexemes, done, rfl⟩ := ih others (start + byteLength entry.2)
    refine ⟨⟨token, start, entry.2⟩ :: lexemes, ?_, ?_⟩
    · rw [scan_append parted start alone, done]
      rfl
    · rw [List.map_cons, word, same]

/-- What a text is cut into is its row of words, without gaps, and every number is denoted by its
digits. -/
theorem row_of_scan {text : List Char} {start : Nat} {lexemes : List Lexeme}
    (done : scan start text = .ok lexemes) :
    IsRow text (lexemes.map word) ∧ Tile start lexemes (start + byteLength text) ∧
      ∀ lexeme ∈ lexemes, ∀ value, lexeme.token = .number value →
        value.toInt = Decimal.value lexeme.text := by
  match text with
  | [] =>
    rw [scan] at done
    cases done
    exact ⟨isRow_nil, rfl, by simp⟩
  | c :: rest =>
    obtain ⟨text, token, others, cut, positive, later, rfl⟩ := cons_of_scan done
    obtain ⟨first, denotes, behind, spelled, parted⟩ := word_of_front cut
    rw [spelled, List.drop_left] at later
    have shorter : behind.length < (c :: rest).length := by
      rw [spelled, List.length_append]
      omega
    obtain ⟨row, tile, values⟩ := row_of_scan later
    refine ⟨?_, ⟨rfl, ?_⟩, List.forall_mem_cons.2 ⟨denotes, values⟩⟩
    · rw [spelled, List.map_cons]
      exact isRow_cons_iff.2 ⟨first, small_of_denotes denotes, behind, rfl, parted, row⟩
    · rw [spelled, byteLength_append, ← Nat.add_assoc]
      exact tile
termination_by text.length
decreasing_by exact shorter

/-- A text that cannot be cut is a row of words up to a place where no token is cut off. -/
theorem obstacle_of_scan {text : List Char} {start : Nat} {error : ParseError}
    (failed : scan start text = .error error) :
    ∃ before row c rest slice, text = before ++ c :: rest ∧ IsRow before row ∧
      Parted before (c :: rest) ∧ front c rest = (slice, none) ∧
      error = ⟨.unrecognized, start + byteLength before, String.ofList slice⟩ := by
  match text with
  | [] =>
    rw [scan] at failed
    cases failed
  | c :: rest =>
    rw [scan_cons] at failed
    split at failed
    · rename_i slice cut
      cases failed
      exact ⟨[], [], c, rest, slice, rfl, isRow_nil, Parted.of_last (by simp), cut, rfl⟩
    · rename_i text token cut
      obtain ⟨first, denotes, behind, spelled, parted⟩ := word_of_front cut
      rw [spelled, List.drop_left] at failed
      have shorter : behind.length < (c :: rest).length := by
        have positive := List.length_pos_iff.2 first.ne_nil
        rw [spelled, List.length_append]
        omega
      cases later : scan (start + byteLength text) behind with
      | ok lexemes => rw [later] at failed; cases failed
      | error found =>
        rw [later] at failed
        cases failed
        obtain ⟨before, row, d, last, slice, rfl, others, apart, stuck, rfl⟩ :=
          obstacle_of_scan later
        have whole : IsRow (text ++ before) ((token.kind, text) :: row) :=
          isRow_cons_iff.2
            ⟨first, small_of_denotes denotes, before, rfl, parted.of_append, others⟩
        refine ⟨text ++ before, _, d, last, slice, ?_, whole, parted.append apart, stuck, ?_⟩
        · rw [spelled, List.append_assoc]
        · rw [byteLength_append, Nat.add_assoc]
termination_by text.length
decreasing_by exact shorter

/-- Without a gap, a lexeme begins behind the texts of those before it. -/
theorem start_of_tile {earlier later : List Lexeme} {lexeme : Lexeme} {start finish : Nat}
    (tile : Tile start (earlier ++ lexeme :: later) finish) :
    lexeme.start = start + byteLength (earlier.map Lexeme.text).flatten := by
  induction earlier generalizing start with
  | nil => exact tile.1
  | cons first earlier ih =>
    obtain ⟨rfl, tile⟩ := tile
    rw [ih tile, List.map_cons, List.flatten_cons, byteLength_append, ← Nat.add_assoc]
    rfl

/-- Every lexeme of a text stands in it. -/
theorem standsBetween_of_scan {text : String} {lexemes : List Lexeme}
    (done : ofText text = .ok lexemes) {lexeme : Lexeme} (member : lexeme ∈ lexemes) :
    ∃ before behind, lexeme.StandsBetween before behind text := by
  obtain ⟨row, tile, values⟩ := row_of_scan done
  obtain ⟨earlier, later, rfl⟩ := List.append_of_mem member
  have start := start_of_tile tile
  rw [List.map_append, List.map_cons] at row
  obtain ⟨left, right, spelled, before, leftRow, rightRow⟩ := row.split
  obtain ⟨kind, -, behind, rfl, after, -⟩ := isRow_cons_iff.1 rightRow
  have joined : (earlier.map Lexeme.text).flatten = left := by
    have whole := leftRow.joined
    rwa [List.map_map] at whole
  rw [joined, Nat.zero_add, byteLength_eq] at start
  refine ⟨String.ofList left, String.ofList behind, ?_, start, fun value number => ?_⟩
  · rw [← String.toList_inj, spelled]
    simp
  · refine ⟨values lexeme member value number, ?_⟩
    rw [String.toList_ofList, String.toList_ofList]
    have numeral : Word .number lexeme.text := by rwa [number] at kind
    exact numeral.wholeRun before after

/-- A text can be cut exactly if it is a row of words, and its lexemes are these words. An error
shows the obstacle behind all that can be cut. -/
theorem ofText_cuts_rows (text : String) :
    ((∃ lexemes, ofText text = .ok lexemes) ↔ ∃ row, IsRow text.toList row) ∧
    (∀ lexemes, ofText text = .ok lexemes → IsCut text lexemes) ∧
    ∀ error, ofText text = .error error → Pinpoints text error := by
  have only (lexemes : List Lexeme) (done : ofText text = .ok lexemes)
      (row : List (Kind × List Char)) (whole : IsRow text.toList row) :
      row = lexemes.map word := by
    obtain ⟨others, again, rfl⟩ := scan_of_row whole 0
    rw [ofText, again] at done
    cases done
    rfl
  refine ⟨⟨?_, ?_⟩, fun lexemes done => ?_, fun error failed => ?_⟩
  · rintro ⟨lexemes, done⟩
    exact ⟨_, (row_of_scan done).1⟩
  · rintro ⟨row, whole⟩
    obtain ⟨lexemes, done, -⟩ := scan_of_row whole 0
    exact ⟨lexemes, done⟩
  · obtain ⟨row, tile, -⟩ := row_of_scan done
    rw [Nat.zero_add, byteLength_eq, String.ofList_toList] at tile
    exact ⟨row, only lexemes done, tile, fun lexeme => standsBetween_of_scan done⟩
  · obtain ⟨before, row, c, rest, slice, spelled, whole, parted, cut, rfl⟩ :=
      obstacle_of_scan failed
    obtain ⟨behind, stands, obstacle⟩ := obstacle_of_front parted cut
    obtain ⟨lexemes, done, -⟩ := scan_of_row whole 0
    rw [Nat.zero_add, byteLength_eq]
    refine ⟨rfl, String.ofList before, String.ofList behind, ?_, rfl, ?_, ⟨lexemes, ?_⟩, ?_⟩
    · rw [← String.toList_inj, spelled, stands]
      simp
    · rw [String.utf8ByteSize_append]
      rfl
    · rw [ofText, String.toList_ofList]
      exact done
    · simp only [String.toList_ofList]
      exact obstacle

/-- A numeral with leading zeros and an operator with its spaces are words; a sign with one space
only is not, and neither is a numeral beyond the range. -/
theorem ofText_cuts_rows_of_spaces :
    let sum := [Lexeme.mk (.number 12) 0 ['1', '2'],
      ⟨.operator (.arithmetic .add), 2, [' ', '+', ' ']⟩, ⟨.number 7, 5, ['0', '0', '7']⟩]
    (ofText "12 + 007" = .ok sum ∧ IsCut "12 + 007" sum) ∧
    (ofText "12 +7" = .error ⟨.unrecognized, 2, " "⟩ ∧
      Pinpoints "12 +7" ⟨.unrecognized, 2, " "⟩) ∧
    ofText "d9223372036854775808" = .error ⟨.unrecognized, 1, "9223372036854775808"⟩ ∧
      Pinpoints "d9223372036854775808" ⟨.unrecognized, 1, "9223372036854775808"⟩ := by
  intro sum
  have spaced : ofText "12 + 007" = .ok sum := by cbv
  have lone : ofText "12 +7" = .error ⟨.unrecognized, 2, " "⟩ := by cbv
  have large : ofText "d9223372036854775808" =
      .error ⟨.unrecognized, 1, "9223372036854775808"⟩ := by cbv
  exact ⟨⟨spaced, (ofText_cuts_rows "12 + 007").2.1 sum spaced⟩,
    ⟨lone, (ofText_cuts_rows "12 +7").2.2 _ lone⟩,
    large, (ofText_cuts_rows "d9223372036854775808").2.2 _ large⟩

end Lexeme

end DicePool
