import DicePool.Proofs.Parsing
import DicePool.Proofs.Scanning

/-!
# Reading written expressions back

A written expression is read back as it was, save for numbers below zero: they are written
without parentheses, so that the sign in front becomes a node, and a dice operator behind
holds the digits tighter than the sign does. The least number of all has a magnitude
outside the range and is not read back.
-/

namespace DicePool.Expr

open Lexeme (Spells Stops scan)
open Token (opening_mem_marks closing_mem_marks operator_mem_marks)

/-- The numbers of an expression. -/
def constants : Expr → List Int64
  | number value => [value]
  | negative operand => operand.constants
  | binary left _ right => left.constants ++ right.constants

/-- A number as it is read back. -/
def signed (value : Int64) : Expr :=
  if value < 0 then negative (number (-value)) else number value

/-- The expression that is read where `expr` was written. -/
def normal : Expr → Expr
  | number value => signed value
  | negative operand => negative operand.normal
  | binary (number value) op right =>
    if value < 0 ∧ op.isDice = true then negative (binary (number (-value)) op right.normal)
    else binary (signed value) op right.normal
  | binary left op right => binary left.normal op right.normal

/-- The tokens of a number as it is written. -/
def signedTokens (value : Int64) : List Token :=
  if value < 0 then [.operator (.bonus .subtract), .number (-value)] else [.number value]

/-- The tokens of a written expression. -/
def tokens : Expr → List Token
  | number value => signedTokens value
  | negative operand =>
    .opening :: .operator (.bonus .subtract) :: (operand.tokens ++ [.closing])
  | binary left op right =>
    .opening :: (left.tokens ++ .operator op :: (right.tokens ++ [.closing]))

/-- Only the least number has a magnitude outside the range. -/
theorem toInt_neg_of_ne {value : Int64} (above : value ≠ Int64.minValue) :
    (-value).toInt = -value.toInt := by
  have low := value.le_toInt
  have high := value.toInt_lt
  have least : Int64.minValue.toInt = -2 ^ 63 := by decide
  have strict : value.toInt ≠ -2 ^ 63 := fun same => above (Int64.toInt.inj (same.trans least.symm))
  rw [Int64.toInt_neg, Int.bmod_eq_of_le (by omega) (by omega)]

/-- A number above the least one is written as its tokens say. -/
theorem spells_ofInt64 {value : Int64} (above : value ≠ Int64.minValue) :
    Spells (Decimal.ofInt64 value) (signedTokens value) := by
  unfold Decimal.ofInt64 Decimal.signed signedTokens
  have below : value < 0 ↔ value.toInt < 0 := Int64.lt_iff_toInt_lt
  by_cases sign : value.toInt < 0
  · rw [if_pos sign, if_pos (below.2 sign)]
    have magnitude : (-value).toInt = value.toInt.natAbs := by
      rw [toInt_neg_of_ne above]
      omega
    exact (Lexeme.spells_digits magnitude).mark_append (operator_mem_marks (.bonus .subtract))
  · rw [if_neg sign, if_neg (fun h => sign (below.1 h))]
    exact Lexeme.spells_digits (by omega)

/-- An expression without the least number is written as its tokens say. -/
theorem spells_render {expr : Expr} (above : Int64.minValue ∉ expr.constants) :
    Spells expr.render expr.tokens := by
  induction expr with
  | number value =>
    rw [render_number]
    exact spells_ofInt64 fun same => above (by simp [constants, same])
  | negative operand ih =>
    have closed := (ih above).append (Lexeme.spells_mark closing_mem_marks)
      (Parted.of_head (Token.plain_head closing_mem_marks []))
    rw [render_negative, List.append_assoc]
    exact (closed.mark_append (operator_mem_marks (.bonus .subtract))).mark_append
      opening_mem_marks
  | binary left op right ihl ihr =>
    simp only [constants, List.mem_append, not_or] at above
    have closed := (ihr above.2).append (Lexeme.spells_mark closing_mem_marks)
      (Parted.of_head (Token.plain_head closing_mem_marks []))
    have joined := (ihl above.1).append (closed.mark_append (operator_mem_marks op))
      (Parted.of_head (Token.plain_head (operator_mem_marks op) _))
    have written : (binary left op right).render =
        ['('] ++ (left.render ++ (op.letters ++ (right.render ++ [')']))) := by
      simp [render_binary]
    rw [written]
    exact joined.mark_append opening_mem_marks

/-- The magnitude of the least number is no number of the range. -/
theorem number?_least : Lexeme.number? (Decimal.digits Int64.minValue.toInt.natAbs) = none := by
  rw [Lexeme.number?, Decimal.value_digits]
  rfl

/-- Where the least number is written, the text is no sequence of tokens. -/
theorem stops_render {expr : Expr} (least : Int64.minValue ∈ expr.constants)
    {behind : List Char} (plain : ∀ c, behind.head? = some c → c.isDigit = false) :
    Stops (expr.render ++ behind) := by
  induction expr generalizing behind with
  | number value =>
    obtain rfl : Int64.minValue = value := List.mem_singleton.1 least
    have large : Stops (Decimal.digits Int64.minValue.toInt.natAbs ++ behind) := fun start =>
      ⟨_, Lexeme.scan_large (Decimal.digits_ne_nil _) (fun _ => Decimal.isDigit_of_mem_digits)
        number?_least plain start, rfl⟩
    rw [render_number]
    exact large.mark_append (operator_mem_marks (.bonus .subtract))
  | negative operand ih =>
    have stops := ih least (Token.plain_head closing_mem_marks behind)
    have written : (negative operand).render ++ behind =
        ['('] ++ (['-'] ++ (operand.render ++ ([')'] ++ behind))) := by
      simp [render_negative]
    rw [written]
    exact (stops.mark_append (operator_mem_marks (.bonus .subtract))).mark_append
      opening_mem_marks
  | binary left op right ihl ihr =>
    have written : (binary left op right).render ++ behind =
        ['('] ++ (left.render ++ (op.letters ++ (right.render ++ ([')'] ++ behind)))) := by
      simp [render_binary]
    have head := Token.plain_head (operator_mem_marks op) (right.render ++ ([')'] ++ behind))
    rw [written]
    by_cases leftLeast : Int64.minValue ∈ left.constants
    · exact (ihl leftLeast head).mark_append opening_mem_marks
    · have rightLeast : Int64.minValue ∈ right.constants :=
        (List.mem_append.1 least).resolve_left leftLeast
      have stops := (ihr rightLeast (Token.plain_head closing_mem_marks behind)).mark_append
        (operator_mem_marks op)
      exact ((spells_render leftLeast).append_stops stops (Parted.of_head head)).mark_append
        opening_mem_marks

/-- A constant is derived from its sign and its digits. -/
theorem derives_signed (value : Int64) :
    Derives .dice (signedTokens value) (signed value) := by
  unfold signedTokens signed
  split
  · exact .negative (.atomAlone (.number _))
  · exact .atomAlone (.number value)

/-- An operator between phrases of dice and atoms in parentheses is an atom. -/
theorem derives_group {op : Operator} {left right : List Token} {l r : Expr}
    (first : Derives .dice left l) (atom : op.isDice = true → Derives .atom left l)
    (second : Derives .dice right r) :
    Derives .atom (.opening :: (left ++ .operator op :: (right ++ [.closing])))
      (.binary l op r) := by
  have leftPhrase : Derives op.leftLayer left l := by
    unfold Operator.leftLayer
    split
    · rename_i tight
      exact atom tight
    · exact first.loosen _ (by rw [op.strength_layer]; exact op.power_le)
  have rightPhrase := second.loosen _ (Layer.strength_above_le (Nat.lt_succ_of_le op.rightPower_le))
  have whole := (leftPhrase.operator rightPhrase).loosen .repetition
    (by rw [op.strength_layer]; exact op.le_power)
  simpa using Derives.group whole

/-- The tokens of a written expression are derived as the tree that is read: as an atom, unless
it is a bare number with a sign. -/
theorem derives_tokens (expr : Expr) :
    Derives .dice expr.tokens expr.normal ∧
      ((∀ value, expr = number value → ¬value < 0) → Derives .atom expr.tokens expr.normal) := by
  induction expr with
  | number value =>
    refine ⟨derives_signed value, fun natural => ?_⟩
    simp only [tokens, normal, signedTokens, signed, if_neg (natural value rfl)]
    exact .number value
  | negative operand ih =>
    have atom : Derives .atom (negative operand).tokens (negative operand).normal := by
      have phrase : Derives .repetition _ _ :=
        (Derives.negative ih.1).loosen _ (by decide)
      simpa [tokens, normal] using Derives.group phrase
    exact ⟨.atomAlone atom, fun _ => atom⟩
  | binary left op right ihl ihr =>
    have atom : Derives .atom (binary left op right).tokens (binary left op right).normal := by
      cases left with
      | number value =>
        by_cases captured : value < 0 ∧ op.isDice = true
        · -- The sign takes the whole phrase that the operator forms with the digits.
          have phrase := (Derives.negative (.dice captured.2 (.number (-value)) ihr.1)).loosen
            .repetition (by decide)
          simpa [tokens, normal, signedTokens, captured] using Derives.group phrase
        · rw [normal, if_neg captured]
          refine derives_group (derives_signed value) (fun tight => ?_) ihr.1
          exact ihl.2 fun same equal => by cases equal; exact fun h => captured ⟨h, tight⟩
      | negative operand => exact derives_group ihl.1 (fun _ => ihl.2 (by simp)) ihr.1
      | binary first inner second => exact derives_group ihl.1 (fun _ => ihl.2 (by simp)) ihr.1
    exact ⟨.atomAlone atom, fun _ => atom⟩

/-- Every number of a derived tree stands among the tokens, or is the one of a die without a
count. -/
theorem number_mem_of_derives {layer : Layer} {tokens : List Token} {tree : Expr}
    (derived : Derives layer tokens tree) {value : Int64} (member : value ∈ tree.constants) :
    Token.number value ∈ tokens ∨ value = 1 := by
  induction derived with
  | sumAlone _ ih | productAlone _ ih | bonusAlone _ ih | diceAlone _ ih | atomAlone _ ih =>
    exact ih member
  | repetition _ _ ihl ihr | sum _ _ _ ihl ihr | product _ _ _ ihl ihr | bonus _ _ ihl ihr
  | dice _ _ _ ihl ihr =>
    rcases List.mem_append.1 member with left | right
    · exact (ihl left).imp_left (List.mem_append_left _)
    · exact (ihr right).imp_left fun h => List.mem_append_right _ (List.mem_cons_of_mem _ h)
  | negative _ ih => exact (ih member).imp_left (List.mem_cons_of_mem _)
  | single _ ih =>
    rcases List.mem_cons.1 member with one | sides
    · exact .inr one
    · exact (ih sides).imp_left (List.mem_cons_of_mem _)
  | number value => exact .inl (by simpa [constants] using member)
  | group _ ih =>
    exact (ih member).imp_left fun h => List.mem_append_left _ (List.mem_cons_of_mem _ h)

/-- A tree is read as itself exactly when no number is below zero. -/
theorem normal_eq_self_iff {expr : Expr} :
    expr.normal = expr ↔ ∀ value ∈ expr.constants, ¬value < 0 := by
  induction expr with
  | number value =>
    simp only [normal, signed, constants, List.mem_singleton, forall_eq]
    split <;> simp_all
  | negative operand ih => simp [normal, constants, ih]
  | binary left op right ihl ihr =>
    have both : (∀ value ∈ (binary left op right).constants, ¬value < 0) ↔
        left.normal = left ∧ right.normal = right := by
      simp only [ihl, ihr, constants, List.mem_append, or_imp, forall_and]
    rw [both]
    cases left with
    | number value =>
      by_cases captured : value < 0 ∧ op.isDice = true
      · simp [normal, signed, captured]
      · have kept : (binary (number value) op right).normal =
            binary (signed value) op right.normal := by
          rw [normal, if_neg captured]
        rw [kept, normal, binary.injEq]
        simp
    | negative operand => simp [normal]
    | binary first inner second => simp only [normal, binary.injEq, true_and]

/-- Reading a text is cutting it and reading its lexemes. -/
theorem ofText_eq_ok {text : String} {tree : Expr} :
    ofText text = .ok tree ↔ ∃ lexemes, scan 0 text.toList = .ok lexemes ∧
      ofLexemes text.utf8ByteSize lexemes = .ok tree := bind_eq_ok

/-- The text of an expression without the least number is read as its normal form. -/
theorem ofText_text_of_ne {expr : Expr} (above : Int64.minValue ∉ expr.constants) :
    ofText expr.text = .ok expr.normal := by
  obtain ⟨lexemes, done, spelled⟩ := spells_render above 0
  have derived := (derives_tokens expr).1.loosen .repetition (by decide)
  rw [← spelled] at derived
  refine ofText_eq_ok.2 ⟨lexemes, ?_, ofLexemes_of_derives derived⟩
  rw [text, String.toList_ofList]
  exact done

/-- The text of an expression with the least number is no sequence of tokens. -/
theorem ofText_text_of_mem {expr : Expr} (least : Int64.minValue ∈ expr.constants) :
    ∃ error, ofText expr.text = .error error ∧ error.isLexError = true := by
  have stops : Stops (expr.render ++ []) := stops_render least (by simp)
  obtain ⟨error, refused, lexical⟩ := stops 0
  rw [List.append_nil] at refused
  refine ⟨error, ?_, lexical⟩
  rw [ofText, Lexeme.ofText, text, String.toList_ofList, refused]
  rfl

/-- No number that reading returns is below zero. -/
theorem constants_nonneg_of_ofText {text : String} {tree : Expr} (read : ofText text = .ok tree) :
    ∀ value ∈ tree.constants, 0 ≤ value := by
  intro value member
  obtain ⟨lexemes, done, whole⟩ := ofText_eq_ok.1 read
  rcases number_mem_of_derives (derives_of_ofLexemes whole) member with token | rfl
  · exact Lexeme.number_nonneg_of_scan done token
  · decide

/-- The text of an expression is read back as the same expression exactly when no number is
below zero. -/
theorem ofText_text_eq_ok_iff {expr : Expr} :
    ofText expr.text = .ok expr ↔ ∀ value ∈ expr.constants, 0 ≤ value := by
  constructor
  · exact constants_nonneg_of_ofText
  · intro natural
    have above : Int64.minValue ∉ expr.constants := fun least =>
      absurd (natural _ least) (by decide)
    rw [ofText_text_of_ne above, normal_eq_self_iff.2 fun value member =>
      Int64.not_lt.2 (natural value member)]

/-- An expression without the least number is read back from its text in normal form, so as itself
exactly if no number is below zero. With the least number its text cannot be cut. -/
theorem ofText_text (expr : Expr) :
    (Int64.minValue ∉ expr.constants → ofText expr.text = .ok expr.normal) ∧
    (Int64.minValue ∈ expr.constants →
      ∃ error, ofText expr.text = .error error ∧ error.isLexError = true) ∧
    (ofText expr.text = .ok expr ↔ ∀ value ∈ expr.constants, 0 ≤ value) ∧
    ∀ text, ofText text = .ok expr →
      (∀ value ∈ expr.constants, 0 ≤ value) ∧ ofText expr.text = .ok expr := by
  refine ⟨ofText_text_of_ne, ofText_text_of_mem, ofText_text_eq_ok_iff, fun text read => ?_⟩
  have natural := constants_nonneg_of_ofText read
  exact ⟨natural, ofText_text_eq_ok_iff.2 natural⟩

/-- A die with a sign in its count is read back with the sign outside, and the least number is
not read back. -/
theorem ofText_text_of_signed :
    let expr := binary (number (-3)) .dice (number 6)
    let least := number Int64.minValue
    (Int64.minValue ∉ expr.constants ∧
      ofText expr.text = .ok (negative (binary (number 3) .dice (number 6)))) ∧
    (Int64.minValue ∈ least.constants ∧
      ∃ error, ofText least.text = .error error ∧ error.isLexError = true) := by
  intro expr least
  have above : Int64.minValue ∉ expr.constants := by decide
  have member : Int64.minValue ∈ least.constants := by decide
  exact ⟨⟨above, (ofText_text expr).1 above⟩, ⟨member, (ofText_text least).2.1 member⟩⟩

end DicePool.Expr
