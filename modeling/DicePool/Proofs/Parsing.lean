import DicePool.Proofs.Grammar

/-!
# Precedence parsing and the grammar

The parser reads exactly the phrases of the grammar. One direction follows a derivation:
after the tokens of a phrase the parser stands behind its tree, whatever comes next, as
long as that does not belong to the phrase. The other follows the parser: every tree it
returns is derived from the lexemes it took. Both work on the parser without the bound
on the number of lexemes left, which only its termination needs.
-/

namespace DicePool.Expr

variable {finish power : Nat}

/-- The tree read and the lexemes left, without the bound on their number. -/
def Parsed.pair {bound : Nat} (parsed : Parsed bound) : Expr × List Lexeme :=
  (parsed.tree, parsed.rest)

/-- An expression of operators that hold tighter than `power`, and the lexemes left. -/
def read (finish power : Nat) (input : List Lexeme) : Except ParseError (Expr × List Lexeme) :=
  Parsed.pair <$> expression finish power input

/-- The operand at the front, and the lexemes left. -/
def readOperand (finish : Nat) (input : List Lexeme) : Except ParseError (Expr × List Lexeme) :=
  Parsed.pair <$> operand finish input

/-- The tree `left`, extended by the operators that hold tighter than `power`, and the
lexemes left. -/
def readOn (finish power : Nat) (left : Expr) (input : List Lexeme) :
    Except ParseError (Expr × List Lexeme) :=
  Parsed.pair <$> extend finish power left input

/-- The power with which the lexeme at the front holds what stands before it. -/
def headPower : List Lexeme → Nat
  | ⟨.operator op, _, _⟩ :: _ => op.power
  | _ => 0

/-- No lexeme at the head holds tighter than an operator of dice. -/
theorem headPower_le (input : List Lexeme) : headPower input ≤ 30 := by
  unfold headPower
  split
  · exact Operator.power_le _
  · decide

/-- Only operators hold what stands before them. -/
theorem exists_operator_of_lt {input : List Lexeme} (tighter : power < headPower input) :
    ∃ op start text rest, input = ⟨.operator op, start, text⟩ :: rest ∧ power < op.power := by
  match input with
  | [] | ⟨.number _, _, _⟩ :: _ | ⟨.opening, _, _⟩ :: _ | ⟨.closing, _, _⟩ :: _ =>
    exact absurd tighter (Nat.not_lt_zero power)
  | ⟨.operator op, start, text⟩ :: rest => exact ⟨op, start, text, rest, rfl, tighter⟩

/-- An expression is an operand and what extends it. -/
theorem read_eq (input : List Lexeme) :
    read finish power input =
      (do let (first, rest) ← readOperand finish input
          readOn finish power first rest) := by
  unfold read readOperand readOn
  rw [expression]
  cases operand finish input with
  | error error => rfl
  | ok first =>
    simp only [bind, Except.bind, Functor.map, Except.map, Parsed.pair]
    cases extend finish power first.tree first.rest <;> rfl

/-- Without the bound, what is left is as short as with it. -/
theorem Parsed.length_of_pair {bound : Nat} {result : Except ParseError (Parsed bound)}
    {rest : List Lexeme} {tree : Expr} (done : pair <$> result = .ok (tree, rest)) :
    rest.length < bound := by
  cases result with
  | error error => cases done
  | ok parsed =>
    cases done
    exact parsed.shorter

/-- What is read is shorter than what was given. -/
theorem length_of_read {input rest : List Lexeme} {tree : Expr}
    (done : read finish power input = .ok (tree, rest)) : rest.length < input.length :=
  Parsed.length_of_pair done

/-- Reading an operand takes a lexeme. -/
theorem length_of_readOperand {input rest : List Lexeme} {tree : Expr}
    (done : readOperand finish input = .ok (tree, rest)) : rest.length < input.length :=
  Parsed.length_of_pair done

/-- A number is an operand. -/
theorem readOperand_number (value : Int64) (start : Nat) (text : List Char)
    (rest : List Lexeme) :
    readOperand finish (⟨.number value, start, text⟩ :: rest) = .ok (.number value, rest) := by
  unfold readOperand
  rw [operand]
  rfl

/-- A left parenthesis begins a group, which has to be closed. -/
theorem readOperand_opening (start : Nat) (text : List Char) (rest : List Lexeme) :
    readOperand finish (⟨.opening, start, text⟩ :: rest) =
      (do let (tree, rest) ← read finish 0 rest
          return (tree, ← close finish rest)) := by
  unfold readOperand read
  rw [operand]
  cases expression finish 0 rest with
  | error error => rfl
  | ok group =>
    simp only [bind, Except.bind, Functor.map, Except.map, Parsed.pair]
    split
    · rename_i refused
      split at refused
      · cases refused
      · rename_i closed
        cases refused
        rw [closed]
    · rename_i parsed
      split at parsed
      · rename_i closed
        cases parsed
        simp only [closed]
        rfl
      · cases parsed

/-- A minus without an operand before it negates the one behind it. -/
theorem readOperand_sign (start : Nat) (text : List Char) (rest : List Lexeme) :
    readOperand finish (⟨.operator (.bonus .subtract), start, text⟩ :: rest) =
      (do let (negated, rest) ← read finish Operator.leadingPower rest
          return (.negative negated, rest)) := by
  unfold readOperand read
  rw [operand]
  cases expression finish Operator.leadingPower rest <;> rfl

/-- A `d` without an operand before it rolls one die. -/
theorem readOperand_dice (start : Nat) (text : List Char) (rest : List Lexeme) :
    readOperand finish (⟨.operator .dice, start, text⟩ :: rest) =
      (do let (sides, rest) ← read finish Operator.leadingPower rest
          return (.binary (.number 1) .dice sides, rest)) := by
  unfold readOperand read
  rw [operand]
  cases expression finish Operator.leadingPower rest <;> rfl

/-- The end of the input is no operand. -/
theorem readOperand_nil :
    readOperand finish [] = .error (refuse finish .expectedOperand []) := by
  unfold readOperand
  rw [operand] <;> first | rfl | simp

/-- A right parenthesis is no operand. -/
theorem readOperand_closing (start : Nat) (text : List Char) (rest : List Lexeme) :
    readOperand finish (⟨.closing, start, text⟩ :: rest) =
      .error (refuse finish .expectedOperand (⟨.closing, start, text⟩ :: rest)) := by
  unfold readOperand
  rw [operand] <;> first | rfl | simp

/-- No other operator begins an operand. -/
theorem readOperand_operator {op : Operator} (unsigned : op ≠ .bonus .subtract)
    (counted : op ≠ .dice) (start : Nat) (text : List Char) (rest : List Lexeme) :
    readOperand finish (⟨.operator op, start, text⟩ :: rest) =
      .error (refuse finish .expectedOperand (⟨.operator op, start, text⟩ :: rest)) := by
  unfold readOperand
  rw [operand]
  · rfl
  · simp
  · simp
  · simp [unsigned]
  · simp [counted]

/-- An operator that holds tighter takes `left` and a right operand of its own. -/
theorem readOn_of_lt {op : Operator} (tighter : power < op.power) (left : Expr) (start : Nat)
    (text : List Char) (rest : List Lexeme) :
    readOn finish power left (⟨.operator op, start, text⟩ :: rest) =
      (do let (right, rest) ← read finish op.rightPower rest
          readOn finish power (.binary left op right) rest) := by
  unfold readOn read
  rw [extend, if_pos tighter]
  cases expression finish op.rightPower rest with
  | error error => rfl
  | ok right =>
    simp only [bind, Except.bind, Functor.map, Except.map, Parsed.pair]
    cases extend finish power (.binary left op right.tree) right.rest <;> rfl

/-- Reading stops in front of what does not hold tighter. -/
theorem readOn_of_le {rest : List Lexeme} (loose : headPower rest ≤ power) (left : Expr) :
    readOn finish power left rest = .ok (left, rest) := by
  unfold readOn
  match rest with
  | [] | ⟨.number _, _, _⟩ :: _ | ⟨.opening, _, _⟩ :: _ | ⟨.closing, _, _⟩ :: _ =>
    rw [extend] <;> first | rfl | simp
  | ⟨.operator op, _, _⟩ :: _ =>
    rw [extend, if_neg (show ¬power < op.power from Nat.not_lt.2 loose)]
    rfl

/-- What is read of a whole text, behind which nothing may be left. -/
def ended (finish : Nat) : Expr × List Lexeme → Except ParseError Expr
  | (tree, []) => .ok tree
  | (_, next :: rest) => .error (refuse finish (.unexpected · .finish []) (next :: rest))

/-- The parser reads an expression and expects the end behind it. -/
theorem ofLexemes_eq (input : List Lexeme) :
    ofLexemes finish input = read finish 0 input >>= ended finish := by
  unfold ofLexemes read
  cases expression finish 0 input with
  | error error => rfl
  | ok whole =>
    obtain ⟨tree, rest, shorter⟩ := whole
    cases rest <;> rfl

/-- A whole text is an expression behind which nothing is left. -/
theorem ofLexemes_eq_ok {input : List Lexeme} {tree : Expr} :
    ofLexemes finish input = .ok tree ↔ read finish 0 input = .ok (tree, []) := by
  rw [ofLexemes_eq]
  cases read finish 0 input with
  | error error => exact ⟨fun h => (by cases h), fun h => (by cases h)⟩
  | ok whole =>
    obtain ⟨found, rest⟩ := whole
    cases rest <;> simp [bind, Except.bind, ended]

/-- The parser reads the tokens as the tree wherever operators of the layer may stand: it
comes to stand behind them with the tree in hand, unless what follows belongs to them. -/
def Reads (finish : Nat) (layer : Layer) (tokens : List Token) (tree : Expr) : Prop :=
  ∀ (input rest : List Lexeme) (power : Nat), input.map Lexeme.token = tokens →
    power < layer.strength → headPower rest ≤ layer.limit →
    read finish power (input ++ rest) = readOn finish power tree rest

/-- Where reading stands behind a phrase and nothing holds it tighter, it is done. -/
theorem Reads.done {layer : Layer} {tokens : List Token} {tree : Expr}
    (reads : Reads finish layer tokens tree) {input : List Lexeme} (rest : List Lexeme)
    (spelled : input.map Lexeme.token = tokens) (open_ : power < layer.strength)
    (whole : headPower rest ≤ layer.limit) (loose : headPower rest ≤ power) :
    read finish power (input ++ rest) = .ok (tree, rest) := by
  rw [reads input rest power spelled open_ whole, readOn_of_le loose]

/-- What is read for a layer is read for a looser one. -/
theorem Reads.loosen {layer looser : Layer} {tokens : List Token} {tree : Expr}
    (reads : Reads finish layer tokens tree) (strength : looser.strength ≤ layer.strength)
    (limit : looser.limit ≤ layer.limit) : Reads finish looser tokens tree :=
  fun input rest power spelled open_ whole =>
    reads input rest power spelled (Nat.lt_of_lt_of_le open_ strength)
      (Nat.le_trans whole limit)

/-- An operator between two operands, where the left one may be followed by it and the right
one is whole at its right power. -/
theorem Reads.operator {op : Operator} {leftLayer rightLayer : Layer}
    {left right : List Token} {l r : Expr} (first : Reads finish leftLayer left l)
    (second : Reads finish rightLayer right r) (open_ : op.power ≤ leftLayer.strength)
    (follows : op.power ≤ leftLayer.limit) (right_open : op.rightPower < rightLayer.strength)
    (right_whole : op.rightPower ≤ rightLayer.limit) :
    Reads finish op.layer (left ++ .operator op :: right) (.binary l op r) := by
  intro input rest power spelled tighter whole
  rw [op.strength_layer] at tighter
  rw [op.limit_layer] at whole
  obtain ⟨before, others, rfl, rfl, spelledOthers⟩ := List.map_eq_append_iff.1 spelled
  obtain ⟨⟨token, start, text⟩, behind, rfl, same, rfl⟩ := List.map_eq_cons_iff.1 spelledOthers
  obtain rfl : token = .operator op := same
  have here := first before (⟨.operator op, start, text⟩ :: behind ++ rest) power rfl
    (Nat.lt_of_lt_of_le tighter open_) follows
  have there := second.done rest rfl right_open (Nat.le_trans whole right_whole) whole
  rw [List.append_assoc, here, List.cons_append, readOn_of_lt tighter, there]
  rfl

/-- What a layer derives, the parser reads. -/
theorem reads_of_derives {layer : Layer} {tokens : List Token} {tree : Expr}
    (derived : Derives layer tokens tree) : Reads finish layer tokens tree := by
  induction derived with
  | sumAlone _ ih | productAlone _ ih | bonusAlone _ ih | diceAlone _ ih | atomAlone _ ih =>
    exact ih.loosen (by decide) (by decide)
  | repetition _ _ first second =>
    exact first.operator second (by decide) (by decide) (by decide) (by decide)
  | sum spaced _ _ first second | product spaced _ _ first second =>
    rcases spaced with rfl | rfl <;>
      exact first.operator second (by decide) (by decide) (by decide) (by decide)
  | bonus _ _ first second =>
    exact first.operator second (Nat.le_refl 20) (Nat.le_refl 20) (by decide : 20 < 30)
      (by decide : 20 ≤ 29)
  | dice tight _ _ first second =>
    obtain ⟨layer, power, rightPower⟩ := Operator.layer_of_isDice tight
    rw [← layer]
    exact first.operator second (by rw [power]; decide) (by rw [power]; decide)
      (by rw [rightPower]; decide) (by rw [rightPower]; decide)
  | negative _ ih =>
    intro input rest power spelled tighter whole
    obtain ⟨⟨token, start, text⟩, behind, rfl, same, rfl⟩ := List.map_eq_cons_iff.1 spelled
    obtain rfl : token = .operator (.bonus .subtract) := same
    have operand := ih.done rest rfl (by decide : Operator.leadingPower < 30) whole whole
    rw [List.cons_append, read_eq, readOperand_sign, operand]
    rfl
  | single _ ih =>
    intro input rest power spelled tighter whole
    obtain ⟨⟨token, start, text⟩, behind, rfl, same, rfl⟩ := List.map_eq_cons_iff.1 spelled
    obtain rfl : token = .operator .dice := same
    have operand := ih.done rest rfl (by decide : Operator.leadingPower < 30) whole whole
    rw [List.cons_append, read_eq, readOperand_dice, operand]
    rfl
  | number value =>
    intro input rest power spelled tighter whole
    obtain ⟨⟨token, start, text⟩, rfl, same⟩ := List.map_eq_singleton_iff.1 spelled
    obtain rfl : token = .number value := same
    rw [List.cons_append, read_eq, readOperand_number]
    rfl
  | group _ ih =>
    intro input rest power spelled tighter whole
    obtain ⟨inside, ends, rfl, spelledInside, spelledLast⟩ := List.map_eq_append_iff.1 spelled
    obtain ⟨⟨first, start, text⟩, body, rfl, same, rfl⟩ := List.map_eq_cons_iff.1 spelledInside
    obtain ⟨⟨last, stop, mark⟩, rfl, same'⟩ := List.map_eq_singleton_iff.1 spelledLast
    obtain rfl : first = .opening := same
    obtain rfl : last = .closing := same'
    have inner := ih.done (⟨.closing, stop, mark⟩ :: rest) rfl (by decide : 0 < 5)
      (Nat.zero_le 5) (Nat.le_refl 0)
    rw [List.append_assoc, List.cons_append, read_eq, readOperand_opening, List.singleton_append,
      inner]
    rfl

/-- Reading `input` takes a phrase of the layer that `power` asks for, and stops where nothing
holds tighter. -/
def Sound (finish : Nat) (input : List Lexeme) : Prop :=
  ∀ (power : Nat) (tree : Expr) (rest : List Lexeme), power ≤ Operator.leadingPower →
    read finish power input = .ok (tree, rest) →
    ∃ used, input = used ++ rest ∧ headPower rest ≤ power ∧
      Derives (.above power) (used.map Lexeme.token) tree

/-- A chain of two readings succeeds exactly when both do. -/
theorem bind_eq_ok {ε α β : Type} {first : Except ε α} {next : α → Except ε β} {result : β} :
    (first >>= next) = .ok result ↔ ∃ value, first = .ok value ∧ next value = .ok result := by
  cases first with
  | error error =>
    exact ⟨fun h => (by cases h), fun ⟨_, h, _⟩ => (by cases h)⟩
  | ok value => exact ⟨fun h => ⟨value, rfl, h⟩, fun ⟨_, same, h⟩ => (by cases same; exact h)⟩

/-- A chain of two readings fails where the first does, or where the second does behind it. -/
theorem bind_eq_error {ε α β : Type} {first : Except ε α} {next : α → Except ε β} {error : ε} :
    (first >>= next) = .error error ↔
      first = .error error ∨ ∃ value, first = .ok value ∧ next value = .error error := by
  cases first with
  | error failed =>
    constructor
    · intro h
      cases h
      exact .inl rfl
    · rintro (h | ⟨value, h, -⟩)
      · cases h
        rfl
      · cases h
  | ok value =>
    constructor
    · intro h
      exact .inr ⟨value, rfl, h⟩
    · rintro (h | ⟨_, same, h⟩)
      · cases h
      · cases same
        exact h

/-- Only a right parenthesis closes a group. -/
theorem close_eq_ok {input rest : List Lexeme} (closed : close finish input = .ok rest) :
    ∃ start text, input = ⟨.closing, start, text⟩ :: rest := by
  unfold close at closed
  split at closed
  · cases closed
    exact ⟨_, _, rfl⟩
  · cases closed

/-- An operand is an atom, or a phrase of dice that no dice operator follows, provided that
shorter inputs are read as phrases. -/
theorem phrase_of_readOperand {input rest : List Lexeme} {tree : Expr}
    (sound : ∀ shorter, shorter.length < input.length → Sound finish shorter)
    (done : readOperand finish input = .ok (tree, rest)) :
    ∃ used layer, input = used ++ rest ∧ Layer.dice.strength ≤ layer.strength ∧
      headPower rest ≤ layer.limit ∧ Derives layer (used.map Lexeme.token) tree := by
  match input with
  | [] =>
    rw [readOperand_nil] at done
    cases done
  | ⟨.closing, _, _⟩ :: _ =>
    rw [readOperand_closing] at done
    cases done
  | ⟨.number value, start, text⟩ :: behind =>
    rw [readOperand_number] at done
    cases done
    exact ⟨[_], .atom, rfl, by decide, headPower_le _, .number value⟩
  | ⟨.opening, start, text⟩ :: behind =>
    rw [readOperand_opening] at done
    obtain ⟨⟨inner, after⟩, group, done⟩ := bind_eq_ok.1 done
    obtain ⟨left, closed, done⟩ := bind_eq_ok.1 done
    cases done
    obtain ⟨used, rfl, -, derived⟩ := sound behind (by simp) 0 tree after (by decide) group
    obtain ⟨stop, mark, rfl⟩ := close_eq_ok closed
    refine ⟨⟨.opening, start, text⟩ :: used ++ [⟨.closing, stop, mark⟩], .atom, by simp,
      by decide, headPower_le _, ?_⟩
    simpa using Derives.group derived
  | ⟨.operator op, start, text⟩ :: behind =>
    by_cases unsigned : op = .bonus .subtract
    · subst unsigned
      rw [readOperand_sign] at done
      obtain ⟨⟨inner, after⟩, negated, done⟩ := bind_eq_ok.1 done
      cases done
      obtain ⟨used, rfl, whole, derived⟩ := sound behind (by simp) _ inner rest (by decide) negated
      exact ⟨_ :: used, .dice, rfl, by decide, whole, .negative derived⟩
    · by_cases counted : op = .dice
      · subst counted
        rw [readOperand_dice] at done
        obtain ⟨⟨inner, after⟩, sides, done⟩ := bind_eq_ok.1 done
        cases done
        obtain ⟨used, rfl, whole, derived⟩ := sound behind (by simp) _ inner rest (by decide) sides
        exact ⟨_ :: used, .dice, rfl, by decide, whole, .single derived⟩
      · rw [readOperand_operator unsigned counted] at done
        cases done

/-- Extending a phrase of a layer, in front of lexemes that leave it whole, takes the rest of
a phrase that `power` asks for. -/
theorem phrase_of_readOn {input rest : List Lexeme} {tree left : Expr} {layer : Layer}
    {prior : List Token}
    (sound : ∀ shorter, shorter.length < input.length → Sound finish shorter)
    (derived : Derives layer prior left) (whole : headPower input ≤ layer.limit)
    (open_ : power < layer.strength) (done : readOn finish power left input = .ok (tree, rest)) :
    ∃ used, input = used ++ rest ∧ headPower rest ≤ power ∧
      Derives (.above power) (prior ++ used.map Lexeme.token) tree := by
  by_cases loose : headPower input ≤ power
  · -- Nothing holds tighter: the phrase is the one in hand.
    rw [readOn_of_le loose] at done
    cases done
    refine ⟨[], rfl, loose, ?_⟩
    rw [List.map_nil, List.append_nil]
    exact derived.loosen _ (Layer.strength_above_le open_)
  · obtain ⟨op, start, text, behind, spelled, tighter⟩ :=
      exists_operator_of_lt (Nat.not_le.1 loose)
    have longer : behind.length < input.length := by simp [spelled]
    rw [spelled, readOn_of_lt tighter] at done
    obtain ⟨⟨right, after⟩, operand, extended⟩ := bind_eq_ok.1 done
    have shorter := length_of_read operand
    obtain ⟨used, split, wholeRight, derivedRight⟩ :=
      sound behind longer op.rightPower right after op.rightPower_le operand
    rw [spelled] at whole
    have phrase := (derived.loosen _ (Operator.strength_leftLayer_le whole)).operator derivedRight
    rw [← op.limit_layer] at wholeRight
    have open_ : power < op.layer.strength := by rwa [op.strength_layer]
    obtain ⟨more, rfl, looseRest, derivedAll⟩ := phrase_of_readOn
      (fun input h => sound input (by omega)) phrase wholeRight open_ extended
    exact ⟨⟨.operator op, start, text⟩ :: used ++ more, by simp [spelled, split], looseRest, by
      simpa using derivedAll⟩
termination_by input.length
decreasing_by omega

/-- What the parser reads, the grammar derives. -/
theorem sound_read (finish : Nat) (input : List Lexeme) : Sound finish input := by
  intro power tree rest small done
  have sound (shorter : List Lexeme) (_ : shorter.length < input.length) : Sound finish shorter :=
    sound_read finish shorter
  rw [read_eq] at done
  obtain ⟨⟨first, behind⟩, operand, extended⟩ := bind_eq_ok.1 done
  obtain ⟨used, layer, rfl, tight, whole, derived⟩ := phrase_of_readOperand sound operand
  have open_ : power < layer.strength :=
    Nat.lt_of_lt_of_le (Nat.lt_succ_of_le small : power < 30) tight
  obtain ⟨more, rfl, loose, derivedAll⟩ := phrase_of_readOn
    (fun input h => sound input (by simp; omega)) derived whole open_ extended
  exact ⟨used ++ more, by simp, loose, by simpa using derivedAll⟩
termination_by input.length

/-- The tree of a whole text is derived from its tokens. -/
theorem derives_of_ofLexemes {input : List Lexeme} {tree : Expr}
    (done : ofLexemes finish input = .ok tree) :
    Derives .repetition (input.map Lexeme.token) tree := by
  obtain ⟨used, rfl, -, derived⟩ :=
    sound_read finish input 0 tree [] (by decide) (ofLexemes_eq_ok.1 done)
  rw [List.append_nil]
  exact derived

/-- What the grammar derives, the parser returns. -/
theorem ofLexemes_of_derives {input : List Lexeme} {tree : Expr}
    (derived : Derives .repetition (input.map Lexeme.token) tree) :
    ofLexemes finish input = .ok tree := by
  have reads : Reads finish .repetition (input.map Lexeme.token) tree := reads_of_derives derived
  have done := reads.done [] rfl (by decide : 0 < 5) (Nat.zero_le 5) (Nat.le_refl 0)
  rw [List.append_nil] at done
  exact ofLexemes_eq_ok.2 done

/-- The parser accepts a token sequence exactly when the grammar derives it, with the tree that
the grammar derives; and the grammar derives no second one. -/
theorem ofLexemes_eq_ok_iff_derives (finish : Nat) (input : List Lexeme) :
    (∀ tree, ofLexemes finish input = .ok tree ↔
      Derives .repetition (input.map Lexeme.token) tree) ∧
    ∀ tree other, Derives .repetition (input.map Lexeme.token) tree →
      Derives .repetition (input.map Lexeme.token) other → tree = other := by
  refine ⟨fun tree => ⟨derives_of_ofLexemes, ofLexemes_of_derives⟩, ?_⟩
  intro tree other first second
  have one : ofLexemes finish input = .ok tree := ofLexemes_of_derives first
  rw [ofLexemes_of_derives second] at one
  exact (Except.ok.inj one).symm

/-- The tokens of `1d6 + 2` have one tree, and the parser returns it. -/
theorem ofLexemes_eq_ok_iff_derives_of_sum :
    let input : List Lexeme := [⟨.number 1, 0, ['1']⟩, ⟨.operator .dice, 1, ['d']⟩,
      ⟨.number 6, 2, ['6']⟩, ⟨.operator (.arithmetic .add), 3, [' ', '+', ' ']⟩,
      ⟨.number 2, 6, ['2']⟩]
    let tree := binary (binary (number 1) .dice (number 6)) (.arithmetic .add) (number 2)
    Derives .repetition (input.map Lexeme.token) tree ∧ ofLexemes 7 input = .ok tree ∧
      ∀ other, Derives .repetition (input.map Lexeme.token) other → tree = other := by
  intro input tree
  obtain ⟨accepts, unique⟩ := ofLexemes_eq_ok_iff_derives 7 input
  have left : Derives .dice [.number 1, .operator .dice, .number 6]
      (binary (number 1) .dice (number 6)) := .dice rfl (.number 1) (.atomAlone (.number 6))
  have right : Derives .product [.number 2] (number 2) :=
    .bonusAlone (.diceAlone (.atomAlone (.number 2)))
  have derived : Derives .repetition (input.map Lexeme.token) tree :=
    .sumAlone (.sum (.inl rfl) (.productAlone (.bonusAlone (.diceAlone left))) right)
  exact ⟨derived, (accepts tree).2 derived, fun other => unique tree other derived⟩

end DicePool.Expr
