import DicePool.Proofs.FirstFault

/-!
# A die without a count

A `d` where an operand has to come rolls one die, and a written 1 in front of it changes
nothing: the same trees are read, and the same errors are shown, a byte later from there on.
For trees this is seen in the grammar, where a die without a count is a phrase like the one
with the count 1. For errors it is seen in the stances, since both texts stand in the same one
behind the `d`.
-/

namespace DicePool

/-- The other error has the same fault and the same text. It stands at the same place if that
ends in front of byte `seam`, and a byte later otherwise. -/
structure ParseError.Displaced (seam : Nat) (error other : ParseError) : Prop where
  /-- The fault is the same. -/
  fault : other.fault = error.fault
  /-- The same is shown. -/
  slice : other.slice = error.slice
  /-- Up to the seam nothing moves. -/
  before : error.stop ≤ seam → other.start = error.start ∧ other.stop = error.stop
  /-- Behind the seam all is a byte later. -/
  behind : seam < error.stop → other.start = error.start + 1 ∧ other.stop = error.stop + 1

/-- One die without a count has got a written one. -/
def Counts (tokens others : List Token) : Prop :=
  ∃ before behind, awaitsOperand before = true ∧ tokens = before ++ .operator .dice :: behind ∧
    others = before ++ .number 1 :: .operator .dice :: behind

namespace ParseError

/-- An error that ends before the seam stays where it is. -/
theorem displaced_self {seam : Nat} {error : ParseError} (inside : error.stop ≤ seam) :
    error.Displaced seam error :=
  ⟨rfl, rfl, fun _ => ⟨rfl, rfl⟩, fun outside => absurd inside (Nat.not_le.2 outside)⟩

/-- An error that ends behind the seam moves by a byte. -/
theorem displaced_moved {seam : Nat} {error : ParseError} (outside : seam < error.stop) :
    error.Displaced seam (error.moved 1) :=
  ⟨rfl, rfl, fun inside => absurd inside (Nat.not_le.2 outside),
    fun _ => ⟨rfl, error.stop_moved 1⟩⟩

end ParseError

/-- Where a row is split, each of its elements stands on one of the two sides. -/
theorem append_cons_eq_append {α : Type} {before behind first second : List α} {element : α}
    (same : before ++ element :: behind = first ++ second) :
    (∃ middle, before = first ++ middle ∧ second = middle ++ element :: behind) ∨
      ∃ middle, first = before ++ element :: middle ∧ behind = middle ++ second := by
  rcases List.append_eq_append_iff.1 same with ⟨middle, rfl, inside⟩ | left
  · rcases List.cons_eq_append_iff.1 inside with ⟨rfl, rfl⟩ | ⟨middle, rfl, rfl⟩
    · exact .inl ⟨[], by simp⟩
    · exact .inr ⟨middle, rfl, rfl⟩
  · exact .inl left

/-- Whether an operand has to come depends on the last token alone. -/
theorem awaitsOperand_of_append {before behind : List Token}
    (awaits : awaitsOperand (before ++ behind) = true) : awaitsOperand behind = true := by
  cases behind with
  | nil => rfl
  | cons token behind =>
    unfold awaitsOperand at awaits ⊢
    rwa [List.getLast?_append_of_ne_nil before (List.cons_ne_nil token behind)] at awaits

/-- What follows the first token awaits an operand where the whole row does. -/
theorem awaitsOperand_of_cons {token : Token} {tokens : List Token}
    (awaits : awaitsOperand (token :: tokens) = true) : awaitsOperand tokens = true :=
  @awaitsOperand_of_append [token] tokens awaits

/-- No operand comes behind a phrase. -/
theorem awaitsOperand_of_derives {layer : Layer} {tokens : List Token} {tree : Expr}
    (derived : Derives layer tokens tree) : awaitsOperand tokens = false :=
  (Stance.awaits_of_walk (Stance.walk_of_derives derived 0)).symm

namespace Counts

variable {token : Token} {op : Operator} {tokens left right others : List Token}

/-- Behind a token other than `d`, a count is written behind that token. -/
theorem cons (other : token ≠ .operator .dice) (counts : Counts (token :: tokens) others) :
    ∃ rest, Counts tokens rest ∧ others = token :: rest := by
  obtain ⟨before, behind, awaits, spelled, rfl⟩ := counts
  cases before with
  | nil => exact absurd (List.cons.inj spelled).1 other
  | cons first before =>
    obtain ⟨rfl, rfl⟩ := List.cons.inj spelled
    exact ⟨_, ⟨before, behind, awaitsOperand_of_cons awaits, rfl, rfl⟩, rfl⟩

/-- Behind a `d` that has no count, it is that one that gets a count, or a later one. -/
theorem dice (counts : Counts (.operator .dice :: tokens) others) :
    others = .number 1 :: .operator .dice :: tokens ∨
      ∃ rest, Counts tokens rest ∧ others = .operator .dice :: rest := by
  obtain ⟨before, behind, awaits, spelled, rfl⟩ := counts
  cases before with
  | nil =>
    obtain ⟨-, rfl⟩ := List.cons.inj spelled
    exact .inl rfl
  | cons first before =>
    obtain ⟨rfl, rfl⟩ := List.cons.inj spelled
    exact .inr ⟨_, ⟨before, behind, awaitsOperand_of_cons awaits, rfl, rfl⟩, rfl⟩

/-- In front of a token other than `d`, a count is written in front of that token. -/
theorem concat (other : token ≠ .operator .dice) (counts : Counts (tokens ++ [token]) others) :
    ∃ rest, Counts tokens rest ∧ others = rest ++ [token] := by
  obtain ⟨before, behind, awaits, spelled, rfl⟩ := counts
  rcases List.eq_nil_or_concat behind with rfl | ⟨behind, last, rfl⟩
  · exact absurd (List.append_inj' spelled rfl).2 (by simp [other])
  · rw [List.concat_eq_append] at spelled ⊢
    rw [← List.cons_append, ← List.append_assoc] at spelled
    obtain ⟨rfl, same⟩ := List.append_inj' spelled rfl
    obtain rfl : token = last := List.singleton_inj.1 same
    exact ⟨_, ⟨before, behind, awaits, rfl, rfl⟩, by simp⟩

/-- Around an operator, a count is written in the left operand or in the right one: the operator
itself has a left operand. -/
theorem operator (closed : awaitsOperand left = false)
    (counts : Counts (left ++ .operator op :: right) others) :
    (∃ rest, Counts left rest ∧ others = rest ++ .operator op :: right) ∨
      ∃ rest, Counts right rest ∧ others = left ++ .operator op :: rest := by
  obtain ⟨before, behind, awaits, spelled, rfl⟩ := counts
  rcases append_cons_eq_append spelled with ⟨middle, rfl, inside⟩ | ⟨middle, rfl, rfl⟩
  · cases middle with
    | nil =>
      rw [List.append_nil, awaits] at closed
      cases closed
    | cons first middle =>
      obtain ⟨rfl, rfl⟩ := List.cons.inj inside
      exact .inl ⟨_, ⟨before, middle, awaits, rfl, rfl⟩, by simp⟩
  · have later := awaitsOperand_of_cons (awaitsOperand_of_append awaits)
    exact .inr ⟨_, ⟨middle, behind, later, rfl, rfl⟩, by simp⟩

/-- Around an operator, a written count keeps a phrase if it keeps the operands. -/
theorem derives_operator {layer leftLayer rightLayer : Layer} {l r tree : Expr}
    (closed : Derives leftLayer left l) (second : Derives rightLayer right r)
    (keepsLeft : ∀ rest, Counts left rest → Derives leftLayer rest l)
    (keepsRight : ∀ rest, Counts right rest → Derives rightLayer rest r)
    (joins : ∀ front behind, Derives leftLayer front l → Derives rightLayer behind r →
      Derives layer (front ++ .operator op :: behind) tree)
    (counts : Counts (left ++ .operator op :: right) others) : Derives layer others tree := by
  rcases counts.operator (awaitsOperand_of_derives closed) with
    ⟨rest, inside, rfl⟩ | ⟨rest, inside, rfl⟩
  · exact joins rest right (keepsLeft rest inside) second
  · exact joins left rest closed (keepsRight rest inside)

/-- A written count leads to the same stance. -/
theorem walk_eq (counts : Counts tokens others) :
    Stance.walk .start others = Stance.walk .start tokens := by
  obtain ⟨before, behind, awaits, rfl, rfl⟩ := counts
  rw [Stance.walk_append, Stance.walk_append]
  cases walked : Stance.walk .start before with
  | none => rfl
  | some reached =>
    obtain ⟨awaiting, depth⟩ := reached
    obtain rfl : awaiting = true := (Stance.awaits_of_walk walked).trans awaits
    rfl

end Counts

/-- With the count written, a phrase is derived as the same tree. -/
theorem Derives.counted {layer : Layer} {tokens others : List Token} {tree : Expr}
    (derived : Derives layer tokens tree) (counts : Counts tokens others) :
    Derives layer others tree := by
  induction derived generalizing others with
  | sumAlone _ ih => exact .sumAlone (ih counts)
  | productAlone _ ih => exact .productAlone (ih counts)
  | bonusAlone _ ih => exact .bonusAlone (ih counts)
  | diceAlone _ ih => exact .diceAlone (ih counts)
  | atomAlone _ ih => exact .atomAlone (ih counts)
  | repetition first second ihl ihr =>
    exact counts.derives_operator first second (fun _ => ihl) (fun _ => ihr)
      fun _ _ => .repetition
  | sum spaced first second ihl ihr =>
    exact counts.derives_operator first second (fun _ => ihl) (fun _ => ihr)
      fun _ _ => .sum spaced
  | product spaced first second ihl ihr =>
    exact counts.derives_operator first second (fun _ => ihl) (fun _ => ihr)
      fun _ _ => .product spaced
  | bonus first second ihl ihr =>
    exact counts.derives_operator first second (fun _ => ihl) (fun _ => ihr) fun _ _ => .bonus
  | dice tight first second ihl ihr =>
    exact counts.derives_operator first second (fun _ => ihl) (fun _ => ihr)
      fun _ _ => .dice tight
  | negative derived ih =>
    obtain ⟨rest, inside, rfl⟩ := counts.cons (by simp)
    exact .negative (ih inside)
  | single derived ih =>
    rcases counts.dice with rfl | ⟨rest, inside, rfl⟩
    · exact .dice rfl (.number 1) derived
    · exact .single (ih inside)
  | number value =>
    obtain ⟨rest, ⟨before, behind, -, impossible, -⟩, -⟩ := counts.cons (by simp)
    simp at impossible
  | group derived ih =>
    obtain ⟨rest, ending, rfl⟩ := counts.cons (by simp)
    obtain ⟨inner, inside, rfl⟩ := ending.concat (by simp)
    exact .group (ih inside)

namespace Stance

/-- Where a stance blocks a token, no walk passes it. -/
theorem Blocks.walk_eq_none {stance here : Stance} {before behind more : List Token}
    {next : Token} (walked : stance.walk before = some here) (blocks : here.Blocks (next :: more)) :
    stance.walk (before ++ next :: behind) = none := by
  have blocked : here.step next = none := blocks
  rw [walk_append, walked, Option.bind_some, walk_cons, blocked]
  rfl

/-- Where an operand has to come, a `d` can come. -/
theorem not_blocks_dice {stance : Stance} (awaits : stance.awaits = true) (behind : List Token) :
    ¬stance.Blocks (.operator .dice :: behind) := by
  obtain ⟨awaiting, depth⟩ := stance
  obtain rfl : awaiting = true := awaits
  intro blocked
  cases blocked

end Stance

namespace Expr

variable {finish : Nat} {input : List Lexeme}

/-- A walk along an input ends at one place at most, as none goes on where another one is
blocked. -/
theorem FailsFrom.unique {stance : Stance} {error other : ParseError}
    (first : FailsFrom finish stance input error) (second : FailsFrom finish stance input other) :
    error = other := by
  obtain ⟨used, rest, reached, rfl, walked, blocks, rfl⟩ := first
  obtain ⟨used', rest', reached', same, walked', blocks', rfl⟩ := second
  rcases List.append_eq_append_iff.1 same with ⟨middle, rfl, rfl⟩ | ⟨middle, rfl, rfl⟩
  · cases middle with
    | nil =>
      rw [List.append_nil, walked] at walked'
      cases walked'
      rfl
    | cons next middle =>
      rw [List.map_append, List.map_cons, blocks.walk_eq_none walked] at walked'
      cases walked'
  · cases middle with
    | nil =>
      rw [List.append_nil, walked'] at walked
      cases walked
      rfl
    | cons next middle =>
      rw [List.map_append, List.map_cons, blocks'.walk_eq_none walked'] at walked
      cases walked

/-- The parser fails exactly where a walk along the input cannot go on. -/
theorem ofLexemes_eq_error_iff {error : ParseError} :
    ofLexemes finish input = .error error ↔ FailsFrom finish .start input error := by
  refine ⟨failsFrom_of_ofLexemes, fun fails => ?_⟩
  cases read : ofLexemes finish input with
  | ok tree =>
    have whole : Stance.walk .start (input.map Lexeme.token) = some .complete :=
      Stance.walk_of_derives (derives_of_ofLexemes read) 0
    obtain ⟨used, rest, reached, rfl, walked, blocks, -⟩ := fails
    rw [List.map_append, Stance.walk_append, walked] at whole
    exact absurd whole blocks.walk_ne
  | error other => rw [fails.unique (failsFrom_of_ofLexemes read)]

/-- A refused lexeme is where the error stops. -/
theorem stop_refuse_cons (fault : Kind → Fault) (next : Lexeme) (rest : List Lexeme) :
    (refuse finish fault (next :: rest)).stop = next.stop := by
  rw [ParseError.stop, Lexeme.stop, byteLength_eq]
  rfl

/-- What is refused later in the text is refused with the error moved. -/
theorem refuse_moved (offset : Nat) (fault : Kind → Fault) (rest : List Lexeme) :
    refuse (finish + offset) fault (rest.map (Lexeme.moved offset)) =
      (refuse finish fault rest).moved offset := by
  cases rest <;> rfl

section Counted

variable {front rest : List Lexeme} {die one : Lexeme} {seam : Nat}
  (awaits : awaitsOperand (front.map Lexeme.token) = true)
  (is_die : die.token = .operator .dice) (is_one : one.token = .number 1)

include awaits is_die is_one

/-- Lexemes that are all a byte later behind a written count. -/
theorem counts_of_moved :
    Counts ((front ++ die :: rest).map Lexeme.token)
      ((front ++ one :: (die :: rest).map (Lexeme.moved 1)).map Lexeme.token) :=
  ⟨front.map Lexeme.token, rest.map Lexeme.token, awaits, by simp [is_die], by
    simp [Lexeme.moved, is_die, is_one]⟩

variable (before : ∀ lexeme ∈ front, lexeme.stop ≤ seam)
  (behind : ∀ lexeme ∈ rest, seam < lexeme.stop) (within : seam < finish)

include before behind within

/-- With a count written in front of a `d`, the parser fails in the same way: at the same place
before it, and a byte later behind it. -/
theorem FailsFrom.counted {error : ParseError}
    (fails : FailsFrom finish .start (front ++ die :: rest) error) :
    ∃ other, FailsFrom (finish + 1) .start
        (front ++ one :: (die :: rest).map (Lexeme.moved 1)) other ∧
      error.Displaced seam other := by
  obtain ⟨used, left, reached, same, walked, blocks, rfl⟩ := fails
  rcases append_cons_eq_append same with ⟨middle, rfl, rfl⟩ | ⟨middle, rfl, rfl⟩
  · cases middle with
    | nil =>
      rw [List.append_nil] at awaits
      rw [List.nil_append, List.map_cons, is_die] at blocks
      have awaiting : reached.awaits = true := (Stance.awaits_of_walk walked).trans awaits
      exact absurd blocks (Stance.not_blocks_dice awaiting _)
    | cons next middle =>
      have inside := before next (List.mem_append_right used List.mem_cons_self)
      refine ⟨_, ⟨used, next :: (middle ++ one :: (die :: rest).map (Lexeme.moved 1)), reached, by
        simp, walked, blocks, rfl⟩, ?_⟩
      apply ParseError.displaced_self
      rw [List.cons_append, stop_refuse_cons]
      exact inside
  · refine ⟨_, ⟨front ++ one :: (die :: middle).map (Lexeme.moved 1),
      left.map (Lexeme.moved 1), reached, by simp, ?_, ?_, rfl⟩, ?_⟩
    · rw [(counts_of_moved awaits is_die is_one).walk_eq]
      exact walked
    · rw [Lexeme.map_token_moved]
      exact blocks
    · rw [refuse_moved]
      apply ParseError.displaced_moved
      cases left with
      | nil => exact within
      | cons next left =>
        rw [stop_refuse_cons]
        exact behind next (List.mem_append_right _ List.mem_cons_self)

/-- The parser returns the same tree for both, or fails in the same way. -/
theorem ofLexemes_counted :
    (∃ tree, ofLexemes finish (front ++ die :: rest) = .ok tree ∧
        ofLexemes (finish + 1) (front ++ one :: (die :: rest).map (Lexeme.moved 1)) = .ok tree) ∨
      ∃ error other, ofLexemes finish (front ++ die :: rest) = .error error ∧
        ofLexemes (finish + 1) (front ++ one :: (die :: rest).map (Lexeme.moved 1)) =
          .error other ∧ error.Displaced seam other := by
  cases read : ofLexemes finish (front ++ die :: rest) with
  | ok tree =>
    have derived := (derives_of_ofLexemes read).counted (counts_of_moved awaits is_die is_one)
    exact .inl ⟨tree, rfl, ofLexemes_of_derives derived⟩
  | error error =>
    have fails := ofLexemes_eq_error_iff.1 read
    obtain ⟨other, fails, displaced⟩ :=
      FailsFrom.counted awaits is_die is_one before behind within fails
    exact .inr ⟨error, other, rfl, ofLexemes_eq_error_iff.2 fails, displaced⟩

end Counted

end Expr

namespace Lexeme

variable {start : Nat} {text : List Char} {lexemes : List Lexeme}

/-- Lexemes without a gap stand within their bounds. -/
theorem Tile.within {finish : Nat} (tile : Tile start lexemes finish) :
    start ≤ finish ∧ ∀ lexeme ∈ lexemes, start ≤ lexeme.start ∧ lexeme.stop ≤ finish := by
  induction lexemes generalizing start with
  | nil => exact ⟨Nat.le_of_eq tile, by simp⟩
  | cons first lexemes ih =>
    obtain ⟨rfl, later⟩ := tile
    obtain ⟨le, others⟩ := ih later
    have forward : first.start ≤ first.stop := Nat.le_add_right _ _
    refine ⟨Nat.le_trans forward le, List.forall_mem_cons.2 ⟨⟨Nat.le_refl _, le⟩, ?_⟩⟩
    intro lexeme member
    exact ⟨Nat.le_trans forward (others lexeme member).1, (others lexeme member).2⟩

/-- A text behind which an operand has to come does not end with a digit. -/
theorem plain_last_of_scan (done : scan start text = .ok lexemes)
    (awaits : awaitsOperand (lexemes.map Lexeme.token) = true) (c : Char)
    (last : text.getLast? = some c) : c.isDigit = false := by
  have whole := (row_of_scan done).1
  rcases List.eq_nil_or_concat lexemes with rfl | ⟨others, lexeme, rfl⟩
  · obtain rfl : [] = text := whole.joined
    cases last
  · rw [List.concat_eq_append, List.map_append] at whole awaits
    obtain ⟨left, right, rfl, -, -, ending⟩ := whole.split
    obtain ⟨word, -, rest, rfl, -, nothing⟩ := isRow_cons_iff.1 ending
    obtain rfl : [] = rest := nothing.joined
    have other : lexeme.token.kind ≠ .number := by
      have lone : awaitsOperand [lexeme.token] = true := awaitsOperand_of_append awaits
      intro numeral
      cases spelled : lexeme.token with
      | number value => rw [spelled] at lone; cases lone
      | operator _ | opening | closing => rw [spelled] at numeral; cases numeral
    rw [List.append_nil, List.getLast?_append_of_ne_nil _ word.ne_nil] at last
    exact word.plain other c (List.mem_of_getLast? last)

/-- A `d` is cut off alone. -/
theorem scan_dice (start : Nat) (rest : List Char) :
    scan start ('d' :: rest) =
      (⟨.operator .dice, start, ['d']⟩ :: ·) <$> scan (start + 1) rest := by
  have member := Token.operator_mem_marks .dice
  have cut := scan_append (Token.parted_letters member rest) start (scan_mark member start)
  exact cut

/-- A `1` in front of a `d` is cut off alone. -/
theorem scan_one_dice (start : Nat) (rest : List Char) :
    scan start ('1' :: 'd' :: rest) =
      (⟨.number 1, start, ['1']⟩ :: ·) <$> scan (start + 1) ('d' :: rest) := by
  have parted : Parted ['1'] ('d' :: rest) := by
    apply Parted.of_head
    rintro c ⟨⟩
    rfl
  have one : scan start ['1'] = .ok [⟨.number 1, start, ['1']⟩] :=
    scan_run (by simp) (by simp) rfl start
  have cut := scan_append parted start one
  exact cut

end Lexeme

namespace Expr

open Lexeme (scan)

section Texts

variable {front behind : String} {lexemes : List Lexeme}

/-- Both texts are cut in front of the `d` and behind it alike. -/
theorem cut_counted (cut : Lexeme.ofText front = .ok lexemes)
    (awaits : awaitsOperand (lexemes.map Lexeme.token) = true) :
    Lexeme.ofText (front ++ "d" ++ behind) =
        (fun rest => lexemes ++ ⟨.operator .dice, front.utf8ByteSize, ['d']⟩ :: rest) <$>
          scan (front.utf8ByteSize + 1) behind.toList ∧
      Lexeme.ofText (front ++ "1d" ++ behind) =
        (fun rest => lexemes ++ ⟨.number 1, front.utf8ByteSize, ['1']⟩ ::
            ⟨.operator .dice, front.utf8ByteSize + 1, ['d']⟩ :: rest) <$>
          scan (front.utf8ByteSize + 1 + 1) behind.toList := by
  have parted (right : List Char) : Parted front.toList right :=
    Parted.of_last (Lexeme.plain_last_of_scan cut awaits)
  have single : (front ++ "d" ++ behind).toList = front.toList ++ 'd' :: behind.toList := by simp
  have counted :
      (front ++ "1d" ++ behind).toList = front.toList ++ '1' :: 'd' :: behind.toList := by
    simp
  constructor
  · rw [Lexeme.ofText, single, Lexeme.scan_append (parted _) 0 cut, zero_add_byteLength,
      Lexeme.scan_dice]
    cases scan (front.utf8ByteSize + 1) behind.toList <;> rfl
  · rw [Lexeme.ofText, counted, Lexeme.scan_append (parted _) 0 cut, zero_add_byteLength,
      Lexeme.scan_one_dice, Lexeme.scan_dice]
    cases scan (front.utf8ByteSize + 1 + 1) behind.toList <;> rfl

/-- Both texts are read as the same tree, or refused for the same reason. -/
theorem ofText_counted (cut : Lexeme.ofText front = .ok lexemes)
    (awaits : awaitsOperand (lexemes.map Lexeme.token) = true) :
    (∃ tree, ofText (front ++ "d" ++ behind) = .ok tree ∧
        ofText (front ++ "1d" ++ behind) = .ok tree) ∨
      ∃ error other, ofText (front ++ "d" ++ behind) = .error error ∧
        ofText (front ++ "1d" ++ behind) = .error other ∧
        error.Displaced front.utf8ByteSize other := by
  obtain ⟨single, counted⟩ := @cut_counted front behind lexemes cut awaits
  rw [Lexeme.scan_moved] at counted
  cases later : scan (front.utf8ByteSize + 1) behind.toList with
  | error error =>
    rw [later] at single counted
    have first : Lexeme.ofText (front ++ "d" ++ behind) = .error error := single
    have second : Lexeme.ofText (front ++ "1d" ++ behind) = .error (error.moved 1) := counted
    refine .inr ⟨error, error.moved 1, bind_eq_error.2 (.inl first),
      bind_eq_error.2 (.inl second), ParseError.displaced_moved ?_⟩
    obtain ⟨before, row, c, rest, slice, -, -, -, -, rfl⟩ := Lexeme.obstacle_of_scan later
    simp only [ParseError.stop]
    omega
  | ok rest =>
    rw [later] at single counted
    have die : "d".utf8ByteSize = 1 := rfl
    have pair : "1d".utf8ByteSize = 2 := rfl
    have size : (front ++ "1d" ++ behind).utf8ByteSize =
        (front ++ "d" ++ behind).utf8ByteSize + 1 := by
      simp only [String.utf8ByteSize_append, die, pair]
      omega
    have inside := (Lexeme.row_of_scan cut).2.1.within.2
    have outside := (Lexeme.row_of_scan later).2.1.within.2
    rw [ofText_eq_of_ok single, ofText_eq_of_ok counted, size]
    apply ofLexemes_counted awaits rfl rfl
    · intro lexeme member
      rw [← zero_add_byteLength front]
      exact (inside lexeme member).2
    · intro lexeme member
      exact Nat.lt_of_lt_of_le (outside lexeme member).1 (Nat.le_add_right _ _)
    · simp only [String.utf8ByteSize_append, die]
      omega

/-- A `d` where an operand has to come is read as `1d`: as the same tree, or with the same error, a
byte later if it stands behind. -/
theorem implicit_count_is_one (cut : Lexeme.ofText front = .ok lexemes)
    (awaits : awaitsOperand (lexemes.map Lexeme.token) = true) :
    (∀ tree, ofText (front ++ "d" ++ behind) = .ok tree ↔
      ofText (front ++ "1d" ++ behind) = .ok tree) ∧
    ∀ error, ofText (front ++ "d" ++ behind) = .error error →
      ∃ other, ofText (front ++ "1d" ++ behind) = .error other ∧
        error.Displaced front.utf8ByteSize other := by
  rcases @ofText_counted front behind lexemes cut awaits with
    ⟨tree, single, counted⟩ | ⟨error, other, single, counted, displaced⟩
  · rw [single, counted]
    exact ⟨fun _ => Iff.rfl, fun error failed => by cases failed⟩
  · rw [single, counted]
    refine ⟨fun tree => ⟨fun read => (by cases read), fun read => (by cases read)⟩, ?_⟩
    rintro _ ⟨⟩
    exact ⟨other, rfl, displaced⟩

/-- In a group behind a sum both texts have one tree; behind two signs both fail at the second
sign, and with nothing behind the `d` at their ends. -/
theorem implicit_count_is_one_of_group :
    let tree := binary (number 2) (.arithmetic .add) (binary (number 1) .dice (number 6))
    let sign := ParseError.mk (.expectedOperand (.operator (.bonus .add))) 2 "+"
    let finish := ParseError.mk (.expectedOperand .finish)
    (ofText ("(2 + " ++ "d" ++ "6)") = .ok tree ∧ ofText ("(2 + " ++ "1d" ++ "6)") = .ok tree) ∧
    (ofText ("1++" ++ "d" ++ "6") = .error sign ∧ ∃ other,
      ofText ("1++" ++ "1d" ++ "6") = .error other ∧ sign.Displaced 3 other) ∧
    ofText ("-" ++ "d" ++ "") = .error (finish 2 "") ∧ ∃ other,
      ofText ("-" ++ "1d" ++ "") = .error other ∧ (finish 2 "").Displaced 1 other := by
  intro tree sign finish
  have group : Lexeme.ofText "(2 + " = .ok [⟨.opening, 0, ['(']⟩, ⟨.number 2, 1, ['2']⟩,
      ⟨.operator (.arithmetic .add), 2, [' ', '+', ' ']⟩] := by cbv
  have signs : Lexeme.ofText "1++" = .ok [⟨.number 1, 0, ['1']⟩,
      ⟨.operator (.bonus .add), 1, ['+']⟩, ⟨.operator (.bonus .add), 2, ['+']⟩] := by cbv
  have minus : Lexeme.ofText "-" = .ok [⟨.operator (.bonus .subtract), 0, ['-']⟩] := by cbv
  have read : ofText ("(2 + " ++ "d" ++ "6)") = .ok tree := by cbv
  have failed : ofText ("1++" ++ "d" ++ "6") = .error sign := by cbv
  have ended : ofText ("-" ++ "d" ++ "") = .error (finish 2 "") := by cbv
  exact ⟨⟨read, ((implicit_count_is_one group rfl).1 tree).1 read⟩,
    ⟨failed, (implicit_count_is_one signs rfl).2 sign failed⟩,
    ended, (implicit_count_is_one minus rfl).2 (finish 2 "") ended⟩

end Texts

end Expr

end DicePool
