import DicePool.Proofs.Stance
import DicePool.Proofs.Vocabulary

/-!
# The first impossible token

A syntax error stands at the first token with which no expression goes on, or at the end of a
text that only begins as an expression. The grammar alone says where that is: wherever a row
of tokens has a stance, operands and right parentheses complete it to an expression. The
parser, wherever it fails, stands in the stance of all that it has read, and the next token
cannot come there.
-/

namespace DicePool

/-- The tokens of a text with the mark of its end. -/
def marked (tokens : List Token) : List (Option Token) := tokens.map some ++ [none]

/-- Some expression with the mark of its end begins so. -/
def Begins (front : List (Option Token)) : Prop :=
  ∃ tokens tree, Derives .repetition tokens tree ∧ front <+: marked tokens

/-- No expression goes on with the token at the index, or with the end there, and none of the
tokens in front of it is the first of that kind. -/
def FirstImpossible (tokens : List Token) (index : Nat) : Prop :=
  IsLeast {index | index < (marked tokens).length ∧ ¬Begins ((marked tokens).take (index + 1))}
    index

/-- What is wrong with `found` behind the tokens `before`. -/
def faultBehind (before : List Token) (found : Kind) : Fault :=
  if awaitsOperand before then .expectedOperand found
  else if before.count .closing < before.count .opening then .unexpected found .closing []
  else .unexpected found .finish []

/-- The error shows what stands at the index of the lexemes of the text, or at its end. -/
structure ParseError.ShowsAt (error : ParseError) (text : String) (lexemes : List Lexeme)
    (index : Nat) : Prop where
  /-- The fault is what the tokens in front miss. -/
  fault : error.fault = faultBehind ((lexemes.take index).map Lexeme.token)
    (lexemes[index]?.elim .finish (·.token.kind))
  /-- The error starts with the lexeme, or at the end. -/
  start : error.start = lexemes[index]?.elim text.utf8ByteSize Lexeme.start
  /-- It stops with the lexeme, or at the end. -/
  stop : error.stop = lexemes[index]?.elim text.utf8ByteSize Lexeme.stop
  /-- It shows the lexeme, or nothing. -/
  slice : error.slice = lexemes[index]?.elim "" (String.ofList ·.text)
  /-- The slice stands at its place in the text. -/
  place : ∃ before behind : String, text = before ++ error.slice ++ behind ∧
    error.start = before.utf8ByteSize

namespace Stance

/-- What is wrong with a token that cannot come in the stance. -/
def fault (stance : Stance) (found : Kind) : Fault :=
  if stance.awaits then .expectedOperand found
  else if 0 < stance.depth then .unexpected found .closing []
  else .unexpected found .finish []

/-- An expression cannot go on, or end, so in the stance. -/
def Blocks (stance : Stance) : List Token → Prop
  | [] => stance ≠ complete
  | next :: _ => stance.step next = none

/-- What the stance behind a row of tokens misses is read off the row. -/
theorem fault_of_walk {tokens : List Token} {reached : Stance}
    (walked : walk start tokens = some reached) : reached.fault = faultBehind tokens := by
  have groups : reached.depth + tokens.count .closing = 0 + tokens.count .opening :=
    depth_of_walk walked
  have open_ : 0 < reached.depth ↔ tokens.count .closing < tokens.count .opening := by omega
  funext found
  simp only [fault, faultBehind, awaits_of_walk walked, open_]

end Stance

namespace Expr

open Stance (walk walk_append walk_cons walk_singleton)

variable {finish power : Nat}

/-- From the stance, the input can be walked up to a lexeme or an end that cannot come, and the
error shows that. -/
def FailsFrom (finish : Nat) (stance : Stance) (input : List Lexeme) (error : ParseError) : Prop :=
  ∃ used rest reached, input = used ++ rest ∧
    stance.walk (used.map Lexeme.token) = some reached ∧ reached.Blocks (rest.map Lexeme.token) ∧
    error = refuse finish reached.fault rest

/-- A stance that blocks the input fails at its front. -/
theorem FailsFrom.here {stance : Stance} {input : List Lexeme}
    (blocks : stance.Blocks (input.map Lexeme.token)) :
    FailsFrom finish stance input (refuse finish stance.fault input) :=
  ⟨[], input, stance, rfl, rfl, blocks, rfl⟩

/-- A failure behind lexemes that can be walked is a failure of the whole. -/
theorem FailsFrom.behind {stance next : Stance} {before input : List Lexeme} {error : ParseError}
    (walked : stance.walk (before.map Lexeme.token) = some next)
    (fails : FailsFrom finish next input error) :
    FailsFrom finish stance (before ++ input) error := by
  obtain ⟨used, rest, reached, rfl, others, blocks, shown⟩ := fails
  refine ⟨before ++ used, rest, reached, (List.append_assoc _ _ _).symm, ?_, blocks, shown⟩
  rw [List.map_append, walk_append, walked]
  exact others

/-- A failure behind a lexeme that can come is a failure of the whole. -/
theorem FailsFrom.cons {stance next : Stance} {lexeme : Lexeme} {input : List Lexeme}
    {error : ParseError} (stepped : stance.step lexeme.token = some next)
    (fails : FailsFrom finish next input error) :
    FailsFrom finish stance (lexeme :: input) error := by
  have walked : stance.walk ([lexeme].map Lexeme.token) = some next := by
    rw [List.map_singleton, walk_singleton, stepped]
  exact FailsFrom.behind walked fails

/-- Reading fails in the stance of what it has read, whatever groups are open around it. -/
def Fails (finish : Nat) (input : List Lexeme) : Prop :=
  ∀ (power depth : Nat) (error : ParseError), power ≤ Operator.leadingPower →
    read finish power input = .error error → FailsFrom finish ⟨true, depth⟩ input error

/-- What is read is an operand, whatever groups are open around it. -/
theorem walk_of_read {input rest : List Lexeme} {tree : Expr}
    (small : power ≤ Operator.leadingPower) (done : read finish power input = .ok (tree, rest)) :
    ∃ used, input = used ++ rest ∧ headPower rest ≤ power ∧
      ∀ depth, walk ⟨true, depth⟩ (used.map Lexeme.token) = some ⟨false, depth⟩ := by
  obtain ⟨used, same, loose, derived⟩ := sound_read finish input power tree rest small done
  exact ⟨used, same, loose, Stance.walk_of_derives derived⟩

/-- Where no operator stands behind an operand, and no parenthesis that closes a group, reading
cannot go on. -/
theorem step_of_loose {depth : Nat} {next : Lexeme} {rest : List Lexeme}
    (loose : headPower (next :: rest) ≤ 0) (unclosed : next.token = .closing → depth = 0) :
    Stance.step ⟨false, depth⟩ next.token = none := by
  obtain ⟨token, start, text⟩ := next
  cases token with
  | number value => rfl
  | opening => rfl
  | operator op =>
    have power := op.le_power
    exact absurd (Nat.le_trans power loose) (by decide)
  | closing =>
    obtain rfl : depth = 0 := unclosed rfl
    rfl

/-- What does not close an open group cannot come there. -/
theorem failsFrom_of_close {input : List Lexeme} {error : ParseError}
    (loose : headPower input ≤ 0) (failed : close finish input = .error error) (depth : Nat) :
    FailsFrom finish ⟨false, depth + 1⟩ input error := by
  have shown : (Stance.fault ⟨false, depth + 1⟩) = (.unexpected · .closing []) := by
    funext found
    simp [Stance.fault]
  unfold close at failed
  split at failed
  · cases failed
  · rename_i unclosed
    cases failed
    rw [← shown]
    apply FailsFrom.here
    cases input with
    | nil => simp [Stance.Blocks, Stance.complete]
    | cons next rest =>
      apply step_of_loose loose
      intro closing
      obtain ⟨token, start, text⟩ := next
      obtain rfl : token = .closing := closing
      exact absurd rfl (unclosed start text rest)

/-- What is left behind a whole expression cannot come there. -/
theorem failsFrom_of_ended {tree : Expr} {rest : List Lexeme} {error : ParseError}
    (loose : headPower rest ≤ 0) (failed : ended finish (tree, rest) = .error error) :
    FailsFrom finish .complete rest error := by
  cases rest with
  | nil => cases failed
  | cons next rest =>
    cases failed
    exact FailsFrom.here (step_of_loose loose fun _ => rfl)

/-- An operand fails where it cannot begin, or where what it is made of fails. -/
theorem failsFrom_of_readOperand {input : List Lexeme} {error : ParseError}
    (fails : ∀ shorter, shorter.length < input.length → Fails finish shorter) (depth : Nat)
    (failed : readOperand finish input = .error error) :
    FailsFrom finish ⟨true, depth⟩ input error := by
  match input with
  | [] =>
    rw [readOperand_nil] at failed
    cases failed
    exact FailsFrom.here (by simp [Stance.Blocks, Stance.complete])
  | ⟨.number value, start, text⟩ :: behind =>
    rw [readOperand_number] at failed
    cases failed
  | ⟨.closing, start, text⟩ :: behind =>
    rw [readOperand_closing] at failed
    cases failed
    exact FailsFrom.here rfl
  | ⟨.opening, start, text⟩ :: behind =>
    have inside : FailsFrom finish ⟨true, depth + 1⟩ behind error := by
      rw [readOperand_opening] at failed
      rcases bind_eq_error.1 failed with group | ⟨⟨tree, rest⟩, group, later⟩
      · exact fails behind (by simp) 0 (depth + 1) error (by decide) group
      · obtain ⟨used, rfl, loose, walked⟩ := walk_of_read (by decide) group
        rcases bind_eq_error.1 later with unclosed | ⟨after, -, pure⟩
        · exact FailsFrom.behind (walked (depth + 1)) (failsFrom_of_close loose unclosed depth)
        · cases pure
    exact FailsFrom.cons rfl inside
  | ⟨.operator op, start, text⟩ :: behind =>
    by_cases unsigned : op = .bonus .subtract
    · subst unsigned
      rw [readOperand_sign] at failed
      rcases bind_eq_error.1 failed with negated | ⟨⟨tree, rest⟩, -, pure⟩
      · exact FailsFrom.cons rfl (fails behind (by simp) _ depth error (by decide) negated)
      · cases pure
    · by_cases counted : op = .dice
      · subst counted
        rw [readOperand_dice] at failed
        rcases bind_eq_error.1 failed with sides | ⟨⟨tree, rest⟩, -, pure⟩
        · exact FailsFrom.cons rfl (fails behind (by simp) _ depth error (by decide) sides)
        · cases pure
      · rw [readOperand_operator unsigned counted] at failed
        cases failed
        exact FailsFrom.here (Stance.step_operator_eq_none unsigned counted depth)

/-- Extending an operand fails where one of the right operands fails. -/
theorem failsFrom_of_readOn {input : List Lexeme} {left : Expr} {error : ParseError}
    (fails : ∀ shorter, shorter.length < input.length → Fails finish shorter) (depth : Nat)
    (failed : readOn finish power left input = .error error) :
    FailsFrom finish ⟨false, depth⟩ input error := by
  by_cases loose : headPower input ≤ power
  · rw [readOn_of_le loose] at failed
    cases failed
  · obtain ⟨op, start, text, behind, spelled, tighter⟩ :=
      exists_operator_of_lt (Nat.not_le.1 loose)
    have longer : behind.length < input.length := by simp [spelled]
    rw [spelled, readOn_of_lt tighter] at failed
    rw [spelled]
    refine FailsFrom.cons (Stance.step_operator op depth) ?_
    rcases bind_eq_error.1 failed with operand | ⟨⟨right, rest⟩, operand, later⟩
    · exact fails behind longer _ depth error op.rightPower_le operand
    · have shorter := length_of_read operand
      obtain ⟨used, split, -, walked⟩ := walk_of_read op.rightPower_le operand
      rw [split]
      apply FailsFrom.behind (walked depth)
      exact failsFrom_of_readOn (fun input h => fails input (by omega)) depth later
termination_by input.length
decreasing_by omega

/-- Reading fails where no expression goes on. -/
theorem fails_read (finish : Nat) (input : List Lexeme) : Fails finish input := by
  intro power depth error small failed
  have fails (shorter : List Lexeme) (_ : shorter.length < input.length) : Fails finish shorter :=
    fails_read finish shorter
  rw [read_eq] at failed
  rcases bind_eq_error.1 failed with operand | ⟨⟨first, rest⟩, operand, later⟩
  · exact failsFrom_of_readOperand fails depth operand
  · have sound (shorter : List Lexeme) (_ : shorter.length < input.length) :
        Sound finish shorter := sound_read finish shorter
    obtain ⟨used, layer, rfl, -, -, derived⟩ := phrase_of_readOperand sound operand
    apply FailsFrom.behind (Stance.walk_of_derives derived depth)
    exact failsFrom_of_readOn (fun shorter h => fails shorter (by simp; omega)) depth later
termination_by input.length

/-- A text fails where no expression goes on. -/
theorem failsFrom_of_ofLexemes {input : List Lexeme} {error : ParseError}
    (failed : ofLexemes finish input = .error error) :
    FailsFrom finish .start input error := by
  rw [ofLexemes_eq] at failed
  rcases bind_eq_error.1 failed with whole | ⟨⟨tree, rest⟩, whole, later⟩
  · exact fails_read finish input 0 0 error (by decide) whole
  · obtain ⟨used, rfl, loose, walked⟩ := walk_of_read (by decide) whole
    exact FailsFrom.behind (walked 0) (failsFrom_of_ended loose later)

/-- The parser finds no fault with the cutting of a text. -/
theorem isLexError_of_ofLexemes {input : List Lexeme} {error : ParseError}
    (failed : ofLexemes finish input = .error error) : error.isLexError = false := by
  obtain ⟨used, rest, reached, -, -, -, rfl⟩ := failsFrom_of_ofLexemes failed
  have syntactic (found : Kind) : reached.fault found ≠ .unrecognized := by
    unfold Stance.fault
    split
    · simp
    · split <;> simp
  cases rest <;> simp [ParseError.isLexError, refuse, syntactic]

end Expr

open Stance (walk walk_append walk_cons walk_singleton)

/-- Where a row of tokens cannot go on, no walk along it comes to the end of an expression. -/
theorem Stance.Blocks.walk_ne {stance : Stance} {behind : List Token}
    (blocks : stance.Blocks behind) : stance.walk behind ≠ some .complete := by
  intro walked
  cases behind with
  | nil => exact blocks (Option.some.inj walked)
  | cons next behind =>
    have stuck : stance.step next = none := blocks
    rw [walk_cons, stuck] at walked
    cases walked

/-- A row of tokens that leads to the end of an expression is one. -/
theorem derives_of_walk {tokens : List Token} (walked : walk .start tokens = some .complete) :
    ∃ tree, Derives .repetition tokens tree := by
  have same : (tokens.map fun token => Lexeme.mk token 0 []).map Lexeme.token = tokens := by
    rw [List.map_map]
    exact List.map_id _
  cases read : Expr.ofLexemes 0 (tokens.map fun token => Lexeme.mk token 0 []) with
  | ok tree =>
    have derived := Expr.derives_of_ofLexemes read
    rw [same] at derived
    exact ⟨tree, derived⟩
  | error error =>
    obtain ⟨used, rest, reached, whole, walkedUsed, blocks, -⟩ :=
      Expr.failsFrom_of_ofLexemes read
    rw [← same, whole, List.map_append, walk_append, walkedUsed] at walked
    exact absurd walked blocks.walk_ne

/-- Every stance leads to the end of an expression: an operand and right parentheses do. -/
theorem Stance.exists_walk_complete (stance : Stance) :
    ∃ behind, stance.walk behind = some .complete := by
  have closes (depth : Nat) :
      walk ⟨false, depth⟩ (List.replicate depth .closing) = some .complete := by
    induction depth with
    | zero => rfl
    | succ depth ih => exact ih
  obtain ⟨awaits, depth⟩ := stance
  cases awaits with
  | false => exact ⟨_, closes depth⟩
  | true => exact ⟨.number 0 :: List.replicate depth .closing, closes depth⟩

/-- Expressions begin with the rows of tokens that have a stance. -/
theorem begins_some_iff {front : List Token} :
    Begins (front.map some) ↔ ∃ reached, walk .start front = some reached := by
  constructor
  · rintro ⟨tokens, tree, derived, begins⟩
    have inside : front.map some <+: tokens.map some :=
      (List.prefix_concat_iff.1 begins).resolve_left fun same => by
        have member : none ∈ front.map some := same ▸ List.mem_append_right _ List.mem_cons_self
        simp at member
    obtain ⟨behind, rfl⟩ := (List.prefix_map_iff_of_injective (Option.some_injective _)).1 inside
    have walked : walk .start (front ++ behind) = some .complete :=
      Stance.walk_of_derives derived 0
    rw [walk_append] at walked
    obtain ⟨reached, first, -⟩ := Option.bind_eq_some_iff.1 walked
    exact ⟨reached, first⟩
  · rintro ⟨reached, walked⟩
    obtain ⟨behind, others⟩ := reached.exists_walk_complete
    have whole : walk .start (front ++ behind) = some .complete := by
      rw [walk_append, walked]
      exact others
    obtain ⟨tree, derived⟩ := derives_of_walk whole
    refine ⟨front ++ behind, tree, derived, behind.map some ++ [none], ?_⟩
    rw [marked, List.map_append, List.append_assoc]

/-- The rows of tokens with which expressions begin and end are those of whole expressions. -/
theorem begins_marked_iff {tokens : List Token} :
    Begins (marked tokens) ↔ walk .start tokens = some .complete := by
  constructor
  · rintro ⟨others, tree, derived, begins⟩
    have same : marked tokens = marked others := by
      refine (List.prefix_concat_iff.1 begins).resolve_right fun inside => ?_
      have member : none ∈ others.map some :=
        inside.subset (List.mem_append_right _ List.mem_cons_self)
      simp at member
    obtain rfl : tokens = others :=
      (List.map_injective_iff.2 (Option.some_injective _)) (List.append_cancel_right same)
    exact Stance.walk_of_derives derived 0
  · intro walked
    obtain ⟨tree, derived⟩ := derives_of_walk walked
    exact ⟨tokens, tree, derived, List.prefix_refl _⟩

/-- What stands in front of a token does not reach the mark of the end. -/
theorem take_marked {tokens : List Token} {index : Nat} (inside : index < tokens.length) :
    (marked tokens).take (index + 1) = (tokens.take (index + 1)).map some := by
  have short : index + 1 ≤ (tokens.map some).length := by
    rwa [List.length_map]
  rw [marked, List.take_append_of_le_length short, List.map_take]

/-- Behind tokens that have a stance, the row goes on as an expression unless the stance blocks
it. -/
theorem begins_take_iff {before behind : List Token} {reached : Stance}
    (walked : walk .start before = some reached) :
    Begins ((marked (before ++ behind)).take (before.length + 1)) ↔ ¬reached.Blocks behind := by
  cases behind with
  | nil =>
    have whole : (marked (before ++ [])).take (before.length + 1) = marked before := by
      rw [List.append_nil, List.take_of_length_le (by simp [marked])]
    rw [whole, begins_marked_iff, walked]
    simp [Stance.Blocks]
  | cons next behind =>
    have front : (before ++ next :: behind).take (before.length + 1) = before ++ [next] := by
      simp [List.take_append, List.take_of_length_le]
    rw [take_marked (by simp), front, begins_some_iff, walk_append, walked, Option.bind_some,
      walk_singleton]
    exact Option.ne_none_iff_exists'.symm

/-- Where the stance of the tokens read blocks what is left, the first token left is the first
impossible one. -/
theorem firstImpossible_of_blocks {before behind : List Token} {reached : Stance}
    (walked : walk .start before = some reached) (blocks : reached.Blocks behind) :
    FirstImpossible (before ++ behind) before.length := by
  refine ⟨⟨by simp [marked], fun begins => (begins_take_iff walked).1 begins blocks⟩, ?_⟩
  rintro index ⟨-, impossible⟩
  apply Nat.not_lt.1
  intro early
  apply impossible
  have front : (before ++ behind).take (index + 1) = before.take (index + 1) :=
    List.take_append_of_le_length early
  rw [take_marked (by simp; omega), front, begins_some_iff]
  rw [← List.take_append_drop (index + 1) before, walk_append] at walked
  obtain ⟨earlier, first, -⟩ := Option.bind_eq_some_iff.1 walked
  exact ⟨earlier, first⟩

namespace Expr

/-- The parser fails at the first impossible token, and the error shows it. -/
theorem showsAt_of_ofLexemes {text : String} {lexemes : List Lexeme} {error : ParseError}
    (cut : Lexeme.ofText text = .ok lexemes)
    (failed : ofLexemes text.utf8ByteSize lexemes = .error error) :
    ∃ index, FirstImpossible (lexemes.map Lexeme.token) index ∧
      error.ShowsAt text lexemes index := by
  obtain ⟨used, rest, reached, rfl, walked, blocks, rfl⟩ := failsFrom_of_ofLexemes failed
  have first := firstImpossible_of_blocks walked blocks
  rw [← List.map_append, List.length_map] at first
  have fault : reached.fault = faultBehind (used.map Lexeme.token) := Stance.fault_of_walk walked
  refine ⟨used.length, first, ?_⟩
  cases rest with
  | nil =>
    exact {
      fault := by simp [refuse, fault]
      start := by simp [refuse]
      stop := by simp [refuse, ParseError.stop]
      slice := by simp [refuse]
      place := ⟨text, "", by simp [refuse], rfl⟩ }
  | cons next rest =>
    obtain ⟨before, behind, stands⟩ :=
      Lexeme.standsBetween_of_scan cut (List.mem_append_right used List.mem_cons_self)
    exact {
      fault := by simp [refuse, fault]
      start := by simp [refuse]
      stop := by simp [refuse, ParseError.stop, Lexeme.stop, byteLength_eq]
      slice := by simp [refuse]
      place := ⟨before, behind, stands.slice, stands.start⟩ }

/-- A text that can be cut is read by the parser alone. -/
theorem ofText_eq_of_ok {text : String} {lexemes : List Lexeme}
    (cut : Lexeme.ofText text = .ok lexemes) :
    ofText text = ofLexemes text.utf8ByteSize lexemes := by
  rw [ofText, cut]
  rfl

/-- A syntax error shows the first token, or the end, with which no expression goes on; there is
none exactly if the text is read. -/
theorem ofText_fails_at_first_impossible (text : String) :
    (∀ lexemes, Lexeme.ofText text = .ok lexemes →
      (∀ error, ofText text = .error error →
        ∃ index, FirstImpossible (lexemes.map Lexeme.token) index ∧
          error.ShowsAt text lexemes index) ∧
      ((∃ tree, ofText text = .ok tree) ↔
        ¬∃ index, FirstImpossible (lexemes.map Lexeme.token) index)) ∧
    ∀ error, (ofText text = .error error ∧ error.isLexError = true) ↔
      Lexeme.ofText text = .error error := by
  constructor
  · intro lexemes cut
    rw [ofText_eq_of_ok cut]
    refine ⟨fun error => showsAt_of_ofLexemes cut, ?_, fun possible => ?_⟩
    · rintro ⟨tree, read⟩ ⟨index, ⟨-, impossible⟩, -⟩
      exact impossible ⟨_, tree, derives_of_ofLexemes read, List.take_prefix _ _⟩
    · cases read : ofLexemes text.utf8ByteSize lexemes with
      | ok tree => exact ⟨tree, rfl⟩
      | error error =>
        obtain ⟨index, first, -⟩ := showsAt_of_ofLexemes cut read
        exact absurd ⟨index, first⟩ possible
  · intro error
    constructor
    · rintro ⟨failed, lexical⟩
      rcases bind_eq_error.1 failed with uncut | ⟨lexemes, cut, refused⟩
      · exact uncut
      · rw [isLexError_of_ofLexemes refused] at lexical
        cases lexical
    · intro uncut
      obtain ⟨before, row, c, rest, slice, -, -, -, -, rfl⟩ := Lexeme.obstacle_of_scan uncut
      exact ⟨bind_eq_error.2 (.inl uncut), rfl⟩

/-- An operator stands where an operand has to come, a group does not end, and a text that cannot
be cut has a parenthesis that closes nothing. -/
theorem ofText_fails_at_first_impossible_of_signs :
    let signs := [Lexeme.mk (.number 1) 0 ['1'], ⟨.operator (.bonus .add), 1, ['+']⟩,
      ⟨.operator (.bonus .add), 2, ['+']⟩, ⟨.number 2, 3, ['2']⟩]
    let group := [Lexeme.mk .opening 0 ['('], ⟨.operator .dice, 1, ['d']⟩, ⟨.number 6, 2, ['6']⟩]
    let sign := ParseError.mk (.expectedOperand (.operator (.bonus .add))) 2 "+"
    let finish := ParseError.mk (.unexpected .finish .closing []) 3 ""
    let space := ParseError.mk .unrecognized 3 " "
    (Lexeme.ofText "1++2" = .ok signs ∧ ofText "1++2" = .error sign ∧
      ∃ index, FirstImpossible (signs.map Lexeme.token) index ∧
        sign.ShowsAt "1++2" signs index) ∧
    (Lexeme.ofText "(d6" = .ok group ∧ ofText "(d6" = .error finish ∧
      ∃ index, FirstImpossible (group.map Lexeme.token) index ∧
        finish.ShowsAt "(d6" group index) ∧
    Lexeme.ofText "1)+ 2" = .error space ∧ ofText "1)+ 2" = .error space := by
  intro signs group sign finish space
  have cutSigns : Lexeme.ofText "1++2" = .ok signs := by cbv
  have failedSigns : ofText "1++2" = .error sign := by cbv
  have cutGroup : Lexeme.ofText "(d6" = .ok group := by cbv
  have failedGroup : ofText "(d6" = .error finish := by cbv
  have uncut : Lexeme.ofText "1)+ 2" = .error space := by cbv
  exact ⟨⟨cutSigns, failedSigns,
      ((ofText_fails_at_first_impossible "1++2").1 signs cutSigns).1 sign failedSigns⟩,
    ⟨cutGroup, failedGroup,
      ((ofText_fails_at_first_impossible "(d6").1 group cutGroup).1 finish failedGroup⟩,
    uncut, (((ofText_fails_at_first_impossible "1)+ 2").2 space).2 uncut).1⟩

end Expr

end DicePool
