import DicePool.Lexeme

/-!
# Cutting texts that are put together

No spelling begins another one and runs of digits are taken whole, so where a text is cut
depends on what follows it only if digits meet. Texts that do not meet within a run of
digits are cut independently of each other: the lexemes of the second one follow those of
the first, with their places moved behind it.
-/

namespace DicePool

/-- The bytes of two texts add up. -/
theorem byteLength_append (left right : List Char) :
    byteLength (left ++ right) = byteLength left + byteLength right := by
  induction left with
  | nil => simp [byteLength]
  | cons c left ih => simp [byteLength, ih, Nat.add_assoc]

/-- Bytes are counted as in a string. -/
theorem byteLength_eq (letters : List Char) :
    byteLength letters = (String.ofList letters).utf8ByteSize := by
  induction letters with
  | nil => rfl
  | cons c letters ih =>
    rw [byteLength, ih, String.ofList_cons, String.utf8ByteSize_append,
      String.utf8ByteSize_singleton]

/-- A text that starts at zero ends at its size. -/
theorem zero_add_byteLength (text : String) : 0 + byteLength text.toList = text.utf8ByteSize := by
  rw [Nat.zero_add, byteLength_eq, String.ofList_toList]

/-- The two texts do not meet within a run of digits. -/
def Parted (left right : List Char) : Prop :=
  ∀ c d, left.getLast? = some c → right.head? = some d → c.isDigit = true → d.isDigit = false

/-- A run of digits at the front of the first text stays the same in front of the second. -/
theorem Parted.takeWhile_append {c : Char} {rest right : List Char} (digit : c.isDigit = true)
    (parted : Parted (c :: rest) right) :
    (rest ++ right).takeWhile Char.isDigit = rest.takeWhile Char.isDigit := by
  rw [List.takeWhile_append]
  split
  · rename_i all
    have whole : rest.takeWhile Char.isDigit = rest :=
      (List.takeWhile_prefix _).eq_of_length all
    have digits : ∀ d ∈ c :: rest, d.isDigit = true := by
      intro d member
      rcases List.mem_cons.1 member with rfl | member
      · exact digit
      · rw [← whole] at member
        exact List.all_eq_true.1 List.all_takeWhile d member
    have last := List.getLast?_eq_some_getLast (List.cons_ne_nil c rest)
    have stops : right.takeWhile Char.isDigit = [] := by
      cases right with
      | nil => rfl
      | cons d right =>
        have plain := parted _ d last rfl (digits _ (List.getLast_mem _))
        simp [plain]
    rw [stops, whole, List.append_nil]
  · rfl

/-- Digits never meet where a text has none at its end. -/
theorem Parted.of_last {left right : List Char}
    (plain : ∀ c, left.getLast? = some c → c.isDigit = false) : Parted left right :=
  fun c _ last _ digit => absurd digit (by simp [plain c last])

/-- Digits never meet where a text has none at its front. -/
theorem Parted.of_head {left right : List Char}
    (plain : ∀ d, right.head? = some d → d.isDigit = false) : Parted left right :=
  fun _ d _ first _ => plain d first

/-- A text meets the front of another one as it meets the whole. -/
theorem Parted.of_append {left middle right : List Char}
    (parted : Parted left (middle ++ right)) : Parted left middle := by
  intro c d last first
  have whole : (middle ++ right).head? = some d := by rw [List.head?_append, first, Option.some_or]
  exact parted c d last whole

/-- Texts that meet the same text one behind the other meet it so together. -/
theorem Parted.append {left middle right : List Char} (first : Parted left (middle ++ right))
    (second : Parted middle right) : Parted (left ++ middle) right := by
  cases known : middle.getLast? with
  | none =>
    obtain rfl := List.getLast?_eq_none_iff.1 known
    rw [List.append_nil]
    exact first
  | some c =>
    intro d e last
    rw [List.getLast?_append, known, Option.some_or] at last
    exact second d e (known.trans last)

/-- What remains of the first text meets the second in the same way. -/
theorem Parted.drop {left right : List Char} (parted : Parted left right) (count : Nat) :
    Parted (left.drop count) right := by
  intro c d last first
  rw [List.getLast?_drop] at last
  split at last
  · cases last
  · exact parted c d last first

namespace Token

/-- The left parenthesis is a mark. -/
theorem opening_mem_marks : opening ∈ marks := by decide

/-- The right parenthesis is a mark. -/
theorem closing_mem_marks : closing ∈ marks := by decide

/-- Every operator is a mark. -/
theorem operator_mem_marks (op : Operator) : operator op ∈ marks :=
  List.mem_cons_of_mem _ (List.mem_cons_of_mem _ (List.mem_map_of_mem op.mem_all))

/-- No spelling begins another one. -/
theorem eq_of_prefix_letters {mark other : Token} (h : mark ∈ marks) (h' : other ∈ marks)
    (starts : mark.letters <+: other.letters) : mark = other := by
  have checked : (marks.all fun mark => marks.all fun other =>
      !mark.letters.isPrefixOf other.letters || mark == other) = true := by decide
  have one := List.all_eq_true.1 (List.all_eq_true.1 checked mark h) other h'
  rw [List.isPrefixOf_iff_prefix.2 starts] at one
  simpa using one

/-- A spelling at the front of a text is found there, whatever follows it. -/
theorem markAt?_letters_append {mark : Token} (h : mark ∈ marks) (rest : List Char) :
    markAt? (mark.letters ++ rest) = some mark := by
  have fits : mark.letters.isPrefixOf (mark.letters ++ rest) = true :=
    List.isPrefixOf_iff_prefix.2 (List.prefix_append _ _)
  cases found : markAt? (mark.letters ++ rest) with
  | none =>
    exact absurd fits (List.find?_eq_none.1 found mark h)
  | some other =>
    have member := mem_marks_of_markAt? found
    have starts := List.isPrefixOf_iff_prefix.1 (isPrefixOf_of_markAt? found)
    rcases List.prefix_or_prefix_of_prefix starts (List.prefix_append mark.letters rest) with
      shorter | longer
    · rw [eq_of_prefix_letters member h shorter]
    · rw [eq_of_prefix_letters h member longer]

/-- What begins with a spelling does not begin with a digit. -/
theorem plain_head {mark : Token} (h : mark ∈ marks) (rest : List Char) (c : Char)
    (first : (mark.letters ++ rest).head? = some c) : c.isDigit = false := by
  obtain ⟨letters, digits⟩ := letters_of_mem_marks h
  obtain ⟨head, tail, cut⟩ := List.exists_cons_of_ne_nil letters
  rw [cut, List.cons_append, List.head?_cons, Option.some.injEq] at first
  exact digits c (by simp [cut, first])

/-- No mark runs into the digits behind it. -/
theorem parted_letters {mark : Token} (h : mark ∈ marks) (rest : List Char) :
    Parted mark.letters rest :=
  Parted.of_last fun c last => (letters_of_mem_marks h).2 c (List.mem_of_getLast? last)

end Token

namespace Lexeme

/-- One step of scanning: what stands at the front is cut off, and scanning goes on behind it. -/
theorem scan_cons (start : Nat) (c : Char) (rest : List Char) :
    scan start (c :: rest) =
      match front c rest with
      | (text, none) => .error ⟨.unrecognized, start, String.ofList text⟩
      | (text, some token) =>
        (⟨token, start, text⟩ :: ·) <$>
          scan (start + byteLength text) ((c :: rest).drop text.length) := by
  rw [scan]
  split <;> rename_i cut <;> simp only [cut]
  rename_i text token
  cases scan (start + byteLength text) (List.drop text.length (c :: rest)) <;> rfl

/-- Digits are cut off together, up to what is no digit. -/
theorem front_digit {c : Char} (digit : c.isDigit = true) (rest : List Char) :
    front c rest =
      (c :: rest.takeWhile Char.isDigit, number? (c :: rest.takeWhile Char.isDigit)) := by
  rw [front, if_pos digit]

/-- A spelling is cut off as the token that it spells. -/
theorem front_mark {mark : Token} (h : mark ∈ Token.marks) {c : Char} {rest : List Char}
    (behind : List Char) (spelled : c :: rest = mark.letters ++ behind) :
    front c rest = (mark.letters, some mark) := by
  have found := Token.markAt?_letters_append h behind
  have plain : c.isDigit = false := Token.plain_head h behind c (by rw [← spelled]; rfl)
  rw [← spelled] at found
  rw [front, if_neg (by simp [plain]), found]

/-- Numerals have no sign. -/
theorem number_nonneg_of_front {c : Char} {rest text : List Char} {value : Int64}
    (cut : front c rest = (text, some (.number value))) : 0 ≤ value := by
  unfold front at cut
  split at cut
  · have read : number? (c :: rest.takeWhile Char.isDigit) = some (.number value) :=
      (Prod.mk.inj cut).2
    unfold number? at read
    split at read
    · rename_i found fits
      cases read
      have exact := fit_eq_ok_iff.1 fits
      rw [Int64.le_iff_toInt_le, exact]
      exact Int.natCast_nonneg _
    · cases read
  · split at cut
    · rename_i mark found
      cases cut
      exact absurd (Token.mem_marks_of_markAt? found) (by simp [Token.marks])
    · cases cut

/-- What is cut off the front and read as a token is cut off in the same way where more text
follows. -/
theorem front_append {c : Char} {rest right text : List Char} {token : Token}
    (parted : Parted (c :: rest) right) (cut : front c rest = (text, some token)) :
    front c (rest ++ right) = (text, some token) ∧ text <+: c :: rest := by
  by_cases digit : c.isDigit = true
  · rw [front_digit digit] at cut
    rw [front_digit digit, parted.takeWhile_append digit]
    refine ⟨cut, ?_⟩
    obtain ⟨rfl, -⟩ := Prod.mk.inj cut
    exact List.cons_prefix_cons.2 ⟨rfl, List.takeWhile_prefix _⟩
  · rw [front, if_neg digit] at cut
    cases found : Token.markAt? (c :: rest) with
    | none => rw [found] at cut; cases cut
    | some mark =>
      rw [found] at cut
      cases cut
      have starts := List.isPrefixOf_iff_prefix.1 (Token.isPrefixOf_of_markAt? found)
      obtain ⟨behind, spelled⟩ := id starts
      refine ⟨front_mark (Token.mem_marks_of_markAt? found) (behind ++ right) ?_, starts⟩
      rw [← List.append_assoc, spelled]
      rfl

/-- A text that can be cut has a token at its front, and can be cut behind that. -/
theorem cons_of_scan {start : Nat} {c : Char} {rest : List Char} {lexemes : List Lexeme}
    (done : scan start (c :: rest) = .ok lexemes) :
    ∃ text token others, front c rest = (text, some token) ∧ 0 < text.length ∧
      scan (start + byteLength text) ((c :: rest).drop text.length) = .ok others ∧
      lexemes = ⟨token, start, text⟩ :: others := by
  rw [scan_cons] at done
  split at done
  · cases done
  · rename_i text token cut
    cases behind : scan (start + byteLength text) ((c :: rest).drop text.length) with
    | error error => rw [behind] at done; cases done
    | ok others =>
      rw [behind] at done
      cases done
      have positive := length_front_pos c rest
      rw [cut] at positive
      exact ⟨text, token, others, cut, positive, behind, rfl⟩

/-- A text that can be cut is cut in the same way where more text follows, and the rest is cut
as if it stood alone. -/
theorem scan_append {left right : List Char} (parted : Parted left right) (start : Nat)
    {lexemes : List Lexeme} (done : scan start left = .ok lexemes) :
    scan start (left ++ right) = (lexemes ++ ·) <$> scan (start + byteLength left) right := by
  match left with
  | [] =>
    rw [scan] at done
    cases done
    cases same : scan (start + byteLength []) right <;> simpa [byteLength] using same
  | c :: rest =>
    obtain ⟨text, token, others, cut, positive, behind, rfl⟩ := cons_of_scan done
    obtain ⟨same, starts⟩ := front_append parted cut
    have later := scan_append (parted.drop text.length) (start + byteLength text) behind
    have whole : byteLength text + byteLength ((c :: rest).drop text.length) =
        byteLength (c :: rest) := by
      obtain ⟨more, spelled⟩ := starts
      rw [← spelled, List.drop_left, byteLength_append]
    rw [List.cons_append, scan_cons, same]
    simp only
    rw [← List.cons_append, List.drop_append_of_le_length starts.length_le, later,
      Nat.add_assoc, whole]
    cases scan (start + byteLength (c :: rest)) right <;> rfl
termination_by left.length

/-- The numbers that scanning finds have no sign. -/
theorem number_nonneg_of_scan {text : List Char} {start : Nat} {lexemes : List Lexeme}
    (done : scan start text = .ok lexemes) {value : Int64}
    (member : Token.number value ∈ lexemes.map Lexeme.token) : 0 ≤ value := by
  match text with
  | [] =>
    rw [scan] at done
    cases done
    cases member
  | c :: rest =>
    obtain ⟨first, token, others, cut, positive, behind, rfl⟩ := cons_of_scan done
    rcases List.mem_cons.1 member with same | later
    · subst same
      exact number_nonneg_of_front cut
    · exact number_nonneg_of_scan behind later
termination_by text.length

/-- A whole run of digits is cut off at once, whether or not its number is too large. -/
theorem front_run {c : Char} {run rest : List Char}
    (digits : ∀ d ∈ c :: run, d.isDigit = true)
    (stops : ∀ d, rest.head? = some d → d.isDigit = false) :
    front c (run ++ rest) = (c :: run, number? (c :: run)) := by
  obtain ⟨digit, others⟩ := List.forall_mem_cons.1 digits
  have behind : rest.takeWhile Char.isDigit = [] := by
    cases rest with
    | nil => rfl
    | cons d rest => simp [stops d rfl]
  rw [front_digit digit, List.takeWhile_append_of_pos others, behind, List.append_nil]

/-- A number that is too large is where scanning stops. -/
theorem scan_large {run rest : List Char} (nonempty : run ≠ [])
    (digits : ∀ c ∈ run, c.isDigit = true) (large : number? run = none)
    (stops : ∀ c, rest.head? = some c → c.isDigit = false) (start : Nat) :
    scan start (run ++ rest) = .error ⟨.unrecognized, start, String.ofList run⟩ := by
  obtain ⟨c, run, rfl⟩ := List.exists_cons_of_ne_nil nonempty
  rw [List.cons_append, scan_cons, front_run digits stops, large]

/-- The same lexeme `offset` bytes later. -/
def moved (offset : Nat) (lexeme : Lexeme) : Lexeme :=
  { lexeme with start := lexeme.start + offset }

/-- Moving lexemes keeps their tokens. -/
theorem map_token_moved (offset : Nat) (lexemes : List Lexeme) :
    (lexemes.map (moved offset)).map Lexeme.token = lexemes.map Lexeme.token := by
  rw [List.map_map]
  rfl

end Lexeme

namespace ParseError

/-- The same error `offset` bytes later. -/
def moved (offset : Nat) (error : ParseError) : ParseError :=
  { error with start := error.start + offset }

/-- A moved error ends as much later. -/
theorem stop_moved (offset : Nat) (error : ParseError) :
    (error.moved offset).stop = error.stop + offset := Nat.add_right_comm _ _ _

end ParseError

namespace Lexeme

/-- A text that begins later is cut in the same way, or stops at the same place, with all
places moved. -/
theorem scan_moved (start offset : Nat) (text : List Char) :
    scan (start + offset) text =
      match scan start text with
      | .ok lexemes => .ok (lexemes.map (moved offset))
      | .error error => .error (error.moved offset) := by
  match text with
  | [] =>
    rw [scan, scan]
    rfl
  | c :: rest =>
    have positive := length_front_pos c rest
    rw [scan_cons, scan_cons]
    cases cut : front c rest with
    | mk text token =>
      cases token with
      | none => rfl
      | some token =>
        have shorter : 0 < text.length := by rwa [cut] at positive
        have later := scan_moved (start + byteLength text) offset ((c :: rest).drop text.length)
        simp only [Nat.add_right_comm start offset, later]
        cases scan (start + byteLength text) ((c :: rest).drop text.length) <;> rfl
termination_by text.length
decreasing_by simp only [List.length_drop, List.length_cons]; omega

/-- The text is cut into the given tokens wherever it begins. -/
def Spells (text : List Char) (tokens : List Token) : Prop :=
  ∀ start, ∃ lexemes, scan start text = .ok lexemes ∧ lexemes.map Lexeme.token = tokens

/-- Two spellings that do not meet in digits spell both rows. -/
theorem Spells.append {left right : List Char} {before behind : List Token}
    (first : Spells left before) (second : Spells right behind) (parted : Parted left right) :
    Spells (left ++ right) (before ++ behind) := by
  intro start
  obtain ⟨lexemes, done, rfl⟩ := first start
  obtain ⟨others, doneRight, rfl⟩ := second (start + byteLength left)
  refine ⟨lexemes ++ others, ?_, List.map_append⟩
  rw [scan_append parted start done, doneRight]
  rfl

/-- The text cannot be cut into tokens, wherever it begins. -/
def Stops (text : List Char) : Prop :=
  ∀ start, ∃ error, scan start text = .error error ∧ error.isLexError = true

/-- A text that cannot be cut stays so behind tokens. -/
theorem Spells.append_stops {left right : List Char} {tokens : List Token}
    (first : Spells left tokens) (second : Stops right) (parted : Parted left right) :
    Stops (left ++ right) := by
  intro start
  obtain ⟨lexemes, done, -⟩ := first start
  obtain ⟨error, refused, lexical⟩ := second (start + byteLength left)
  refine ⟨error, ?_, lexical⟩
  rw [scan_append parted start done, refused]
  rfl

/-- A text that is cut off whole is one lexeme. -/
theorem scan_whole {c : Char} {rest : List Char} {token : Token}
    (cut : front c rest = (c :: rest, some token)) (start : Nat) :
    scan start (c :: rest) = .ok [⟨token, start, c :: rest⟩] := by
  rw [scan_cons, cut]
  simp only [List.drop_length]
  rw [scan]
  rfl

/-- A mark is scanned as one lexeme. -/
theorem scan_mark {mark : Token} (h : mark ∈ Token.marks) (start : Nat) :
    scan start mark.letters = .ok [⟨mark, start, mark.letters⟩] := by
  obtain ⟨c, rest, letters⟩ := List.exists_cons_of_ne_nil (Token.letters_of_mem_marks h).1
  have cut : front c rest = (mark.letters, some mark) := front_mark h [] (by simp [letters])
  rw [letters] at cut ⊢
  exact scan_whole cut start

/-- A run of digits is scanned as one lexeme. -/
theorem scan_run {run : List Char} {token : Token} (nonempty : run ≠ [])
    (digits : ∀ c ∈ run, c.isDigit = true) (read : number? run = some token) (start : Nat) :
    scan start run = .ok [⟨token, start, run⟩] := by
  obtain ⟨c, rest, rfl⟩ := List.exists_cons_of_ne_nil nonempty
  have cut : front c (rest ++ []) = (c :: rest, number? (c :: rest)) := front_run digits (by simp)
  rw [List.append_nil, read] at cut
  exact scan_whole cut start

/-- A mark spells itself. -/
theorem spells_mark {mark : Token} (h : mark ∈ Token.marks) : Spells mark.letters [mark] :=
  fun start => ⟨_, scan_mark h start, rfl⟩

/-- The digits of a value are read as the value. -/
theorem number?_digits {value : Int64} {n : Nat} (same : value.toInt = n) :
    number? (Decimal.digits n) = some (.number value) := by
  have fits : fit (Decimal.value (Decimal.digits n)) = .ok value := by
    rw [Decimal.value_digits]
    exact fit_eq_ok_iff.2 same
  rw [number?, fits]

/-- A spelling in front of a text that is cut into tokens adds its own token. -/
theorem Spells.mark_append {mark : Token} {text : List Char} {tokens : List Token}
    (h : mark ∈ Token.marks) (spells : Spells text tokens) :
    Spells (mark.letters ++ text) (mark :: tokens) :=
  (spells_mark h).append spells (Token.parted_letters h text)

/-- A text that cannot be scanned cannot be scanned behind a mark. -/
theorem Stops.mark_append {mark : Token} {text : List Char} (h : mark ∈ Token.marks)
    (stops : Stops text) : Stops (mark.letters ++ text) :=
  (spells_mark h).append_stops stops (Token.parted_letters h text)

/-- The digits of a number within the range are read as that number. -/
theorem spells_digits {value : Int64} {n : Nat} (same : value.toInt = n) :
    Spells (Decimal.digits n) [.number value] := by
  intro start
  have digits : ∀ c ∈ Decimal.digits n, c.isDigit = true := fun c => Decimal.isDigit_of_mem_digits
  exact ⟨_, scan_run (Decimal.digits_ne_nil n) digits (number?_digits same) start, rfl⟩

end Lexeme

end DicePool
