import DicePool.Proofs.Parsing

/-!
# Reading with a cursor

The parser as a machine that works with less than its types promise. It takes entries one after
the other, the mark of the end behind the last lexeme, and looks up in a table what each kind of
entry does. It may look up a kind that is not listed, take a number that has no value, come to
an operator without a rule, or take the mark of the end again and again. Nothing but the entries
themselves makes it end, so the depth of its calls is bounded by fuel.

None of this happens. Whatever the lexemes, enough fuel makes the machine end. It does what the
parser does, and has taken every entry at most once and in order.
-/

namespace DicePool.Cursor

/-- What the machine sees of a lexeme, or of the end of the text. -/
structure Entry where
  /-- The kind of token. -/
  kind : Kind
  /-- The value of a number. -/
  value : Option Int64
  /-- The byte at which it starts. -/
  start : Nat
  /-- Its characters. -/
  text : List Char

namespace Entry

/-- The entry of a lexeme. -/
def ofLexeme : Lexeme → Entry
  | ⟨.number value, start, text⟩ => ⟨.number, some value, start, text⟩
  | ⟨token, start, text⟩ => ⟨token.kind, none, start, text⟩

/-- No lexeme is mistaken for the end of the text. -/
theorem kind_ofLexeme_ne_finish (lexeme : Lexeme) : (ofLexeme lexeme).kind ≠ .finish := by
  match lexeme with
  | ⟨.number _, _, _⟩ | ⟨.opening, _, _⟩ | ⟨.closing, _, _⟩ | ⟨.operator _, _, _⟩ => nofun

/-- The mark of the end of a text, at byte `finish`. -/
def mark (finish : Nat) : Entry := ⟨.finish, none, finish, []⟩

/-- An error that shows the entry. -/
def refuse (entry : Entry) (fault : Kind → Fault) : ParseError :=
  ⟨fault entry.kind, entry.start, String.ofList entry.text⟩

end Entry

/-- The entries of the lexemes, the mark of the end last. -/
def entries (finish : Nat) (input : List Lexeme) : List Entry :=
  input.map .ofLexeme ++ [.mark finish]

/-- What an entry can do at the front of an operand. -/
inductive Opening where
  /-- A number is the operand. -/
  | number
  /-- An expression in parentheses begins. -/
  | group
  /-- A minus negates the operand behind it. -/
  | sign
  /-- A die without a count. -/
  | die

/-- What an entry of a kind does. -/
structure Symbol where
  /-- The kind that is looked up. -/
  kind : Kind
  /-- What it does where an operand has to come. -/
  opening : Option Opening
  /-- How tightly it holds what stands before it. -/
  power : Nat
  /-- The operator that it is between two expressions. -/
  joining : Option Operator

/-- The operators that can begin an operand. -/
def opening? : Operator → Option Opening
  | .dice => some .die
  | .bonus .subtract => some .sign
  | _ => none

/-- The symbol of an operator. -/
def Symbol.ofOperator (op : Operator) : Symbol := ⟨.operator op, opening? op, op.power, some op⟩

/-- The kinds that the machine knows. -/
def table : List Symbol :=
  [⟨.number, some .number, 0, none⟩, ⟨.opening, some .group, 0, none⟩, ⟨.closing, none, 0, none⟩,
    ⟨.finish, none, 0, none⟩] ++ Operator.all.map .ofOperator

/-- Why the machine stops without a tree. -/
inductive Halt where
  /-- The entry begins no operand. -/
  | noOperand (taken : Entry)
  /-- The next entry is not the expected one. -/
  | unexpected (next : Entry) (expected : Kind)
  /-- The number has no value. -/
  | noValue (taken : Entry)
  /-- The entry stands between two expressions and joins nothing. -/
  | noRule (taken : Entry)
  /-- The kind is not in the table. -/
  | unlisted (kind : Kind)

/-- A computation of the machine, which remembers the entries that it has taken. It has no
outcome if its fuel runs out. -/
abbrev Reading := ExceptT Halt (StateT (List Entry) Option)

/-- The end of a computation whose fuel ran out. -/
def exhausted {α : Type} : Reading α := fun _ => none

section

variable (finish : Nat) (input : List Lexeme)

/-- The entry at a place. Behind the mark of the end that mark is seen again. -/
def entryAt (place : Nat) : Entry := (entries finish input).getD place (.mark finish)

/-- The next entry, which is not taken. -/
def peek : Reading Entry := fun taken => some (.ok (entryAt finish input taken.length), taken)

/-- Takes the next entry. -/
def advance : Reading Entry := fun taken =>
  let entry := entryAt finish input taken.length
  some (.ok entry, taken ++ [entry])

/-- What the table says about a kind. -/
def lookUp (kind : Kind) : Reading Symbol :=
  match table.find? (·.kind = kind) with
  | some symbol => return symbol
  | none => throw (.unlisted kind)

/-- The value of a number. -/
def valueOf (entry : Entry) : Reading Int64 :=
  match entry.value with
  | some value => return value
  | none => throw (.noValue entry)

/-- Takes the next entry if it is of the expected kind. -/
def consume (expected : Kind) : Reading Unit := do
  let entry ← peek finish input
  if entry.kind = expected then
    let _ ← advance finish input
    return ()
  else throw (.unexpected entry expected)

mutual

/-- An expression of operators that hold tighter than `power`. -/
def expression : Nat → Nat → Reading Expr
  | 0, _ => exhausted
  | fuel + 1, power => do
    let entry ← advance finish input
    let first ← operand fuel entry
    extend fuel power first

/-- The operand that begins with the entry taken last. -/
def operand : Nat → Entry → Reading Expr
  | 0, _ => exhausted
  | fuel + 1, entry => do
    let symbol ← lookUp entry.kind
    match symbol.opening with
    | some .number => do
      let value ← valueOf entry
      return .number value
    | some .group => do
      let group ← expression fuel 0
      consume finish input .closing
      return group
    | some .sign => do
      let negated ← expression fuel Operator.leadingPower
      return .negative negated
    | some .die => do
      let sides ← expression fuel Operator.leadingPower
      return .binary (.number 1) .dice sides
    | none => throw (.noOperand entry)

/-- The tree `left`, extended as long as the next entry holds tighter than `power`. -/
def extend : Nat → Nat → Expr → Reading Expr
  | 0, _, _ => exhausted
  | fuel + 1, power, left => do
    let next ← peek finish input
    let symbol ← lookUp next.kind
    if power < symbol.power then
      let entry ← advance finish input
      let whole ← join fuel left entry
      extend fuel power whole
    else return left

/-- The tree that the entry taken last makes of `left` and a right operand. -/
def join : Nat → Expr → Entry → Reading Expr
  | 0, _, _ => exhausted
  | fuel + 1, left, entry => do
    let symbol ← lookUp entry.kind
    match symbol.joining with
    | some op => do
      let right ← expression fuel op.rightPower
      return .binary left op right
    | none => throw (.noRule entry)

end

/-- A whole text: an expression, and behind it the mark of the end. -/
def whole (fuel : Nat) : Reading Expr := do
  let tree ← expression finish input fuel 0
  consume finish input .finish
  return tree

end

variable {finish fuel : Nat} {input rest : List Lexeme} {α β : Type}

/-- Nothing happens after a stop. -/
theorem bind_apply (first : Reading α) (next : α → Reading β) (taken : List Entry) :
    (first >>= next) taken =
      match first taken with
      | none => none
      | some (.error halt, taken) => some (.error halt, taken)
      | some (.ok value, taken) => next value taken := by
  simp only [bind, ExceptT.bind, StateT.bind, ExceptT.mk]
  cases first taken with
  | none => rfl
  | some out => obtain ⟨halt | value, taken⟩ := out <;> rfl

/-- Every operator is in the table. -/
theorem lookUp_operator (op : Operator) : lookUp (.operator op) = pure (.ofOperator op) := by
  cases op with
  | dice | repetition => rfl
  | arithmetic op | bonus op => cases op <;> rfl
  | explode cmp | again cmp | threshold cmp => cases cmp <;> rfl
  | keep selection => cases selection <;> rfl

/-- A stretch of text that is no token is not in it. -/
example : lookUp .unknown = throw (.unlisted .unknown) := rfl

/-- A number is an operand. -/
theorem operand_number (value : Int64) (start : Nat) (text : List Char) :
    operand finish input (fuel + 1) (.ofLexeme ⟨.number value, start, text⟩) =
      pure (.number value) := by
  rw [operand]
  rfl

/-- A left parenthesis begins a group. -/
theorem operand_opening (start : Nat) (text : List Char) :
    operand finish input (fuel + 1) (.ofLexeme ⟨.opening, start, text⟩) = (do
      let group ← expression finish input fuel 0
      consume finish input .closing
      return group) := by
  rw [operand]
  rfl

/-- A minus without an operand before it negates the one behind it. -/
theorem operand_sign (start : Nat) (text : List Char) :
    operand finish input (fuel + 1) (.ofLexeme ⟨.operator (.bonus .subtract), start, text⟩) = (do
      let negated ← expression finish input fuel Operator.leadingPower
      return .negative negated) := by
  rw [operand]
  rfl

/-- A `d` without an operand before it rolls one die. -/
theorem operand_dice (start : Nat) (text : List Char) :
    operand finish input (fuel + 1) (.ofLexeme ⟨.operator .dice, start, text⟩) = (do
      let sides ← expression finish input fuel Operator.leadingPower
      return .binary (.number 1) .dice sides) := by
  rw [operand]
  rfl

/-- The mark at the end is no operand. -/
theorem operand_mark :
    operand finish input (fuel + 1) (.mark finish) = throw (.noOperand (.mark finish)) := by
  rw [operand]
  rfl

/-- A right parenthesis is no operand. -/
theorem operand_closing (start : Nat) (text : List Char) :
    operand finish input (fuel + 1) (.ofLexeme ⟨.closing, start, text⟩) =
      throw (.noOperand (.ofLexeme ⟨.closing, start, text⟩)) := by
  rw [operand]
  rfl

/-- No other operator begins an operand. -/
theorem operand_operator {op : Operator} (unsigned : op ≠ .bonus .subtract)
    (counted : op ≠ .dice) (start : Nat) (text : List Char) :
    operand finish input (fuel + 1) (.ofLexeme ⟨.operator op, start, text⟩) =
      throw (.noOperand (.ofLexeme ⟨.operator op, start, text⟩)) := by
  have known : lookUp (Entry.ofLexeme ⟨.operator op, start, text⟩).kind = pure (.ofOperator op) :=
    lookUp_operator op
  have closed : (Symbol.ofOperator op).opening = none := by
    cases op with
    | dice => exact absurd rfl counted
    | bonus op =>
      cases op with
      | subtract => exact absurd rfl unsigned
      | add | multiply | divide => rfl
    | arithmetic _ | explode _ | keep _ | again _ | threshold _ | repetition => rfl
  rw [operand, known, pure_bind, closed]

/-- An operator takes as its right operand what its right power asks for. -/
theorem join_operator (left : Expr) (op : Operator) (start : Nat) (text : List Char) :
    join finish input (fuel + 1) left (.ofLexeme ⟨.operator op, start, text⟩) = (do
      let right ← expression finish input fuel op.rightPower
      return .binary left op right) := by
  have known : lookUp (Entry.ofLexeme ⟨.operator op, start, text⟩).kind = pure (.ofOperator op) :=
    lookUp_operator op
  rw [join, known]
  rfl

/-- What `less` comes to, `more` comes to as well. -/
def Keeps (less more : Reading α) : Prop :=
  ∀ taken out, less taken = some out → more taken = some out

/-- Without fuel there is no outcome to keep. -/
theorem Keeps.exhausted (more : Reading α) : Keeps exhausted more := by
  intro taken out ends
  cases ends

/-- Every reading keeps its own outcomes. -/
theorem Keeps.refl (run : Reading α) : Keeps run run := fun _ _ ends => ends

/-- Outcomes that are kept twice are kept. -/
theorem Keeps.trans {less more most : Reading α} (first : Keeps less more)
    (second : Keeps more most) : Keeps less most :=
  fun taken out ends => second taken out (first taken out ends)

/-- Sequences keep outcomes when both of their parts do. -/
theorem Keeps.bind {less more : Reading α} {next other : α → Reading β} (first : Keeps less more)
    (later : ∀ value, Keeps (next value) (other value)) :
    Keeps (less >>= next) (more >>= other) := by
  intro taken out ends
  rw [bind_apply] at ends ⊢
  match reached : less taken with
  | none =>
    rw [reached] at ends
    cases ends
  | some (.error halt, after) =>
    rw [reached] at ends
    rw [first taken _ reached]
    exact ends
  | some (.ok value, after) =>
    rw [reached] at ends
    rw [first taken _ reached]
    exact later value after out ends

mutual

/-- More fuel keeps the outcome of reading an expression. -/
theorem keeps_expression (finish : Nat) (input : List Lexeme) : (fuel power : Nat) →
    Keeps (expression finish input fuel power) (expression finish input (fuel + 1) power)
  | 0, power => by
    rw [expression]
    exact .exhausted _
  | fuel + 1, power => by
    rw [expression, expression]
    exact (Keeps.refl _).bind fun entry => (keeps_operand finish input fuel entry).bind fun first =>
      keeps_extend finish input fuel power first

/-- More fuel keeps the outcome of reading an operand. -/
theorem keeps_operand (finish : Nat) (input : List Lexeme) : (fuel : Nat) → (entry : Entry) →
    Keeps (operand finish input fuel entry) (operand finish input (fuel + 1) entry)
  | 0, entry => by
    rw [operand]
    exact .exhausted _
  | fuel + 1, entry => by
    rw [operand, operand]
    apply (Keeps.refl _).bind
    intro symbol
    cases symbol.opening with
    | none => exact .refl _
    | some opening =>
      cases opening with
      | number => exact .refl _
      | group | sign | die => exact (keeps_expression finish input fuel _).bind fun _ => .refl _

/-- More fuel keeps the outcome of reading on. -/
theorem keeps_extend (finish : Nat) (input : List Lexeme) : (fuel power : Nat) → (left : Expr) →
    Keeps (extend finish input fuel power left) (extend finish input (fuel + 1) power left)
  | 0, power, left => by
    rw [extend]
    exact .exhausted _
  | fuel + 1, power, left => by
    rw [extend, extend]
    apply (Keeps.refl _).bind
    intro next
    apply (Keeps.refl _).bind
    intro symbol
    by_cases tighter : power < symbol.power
    · rw [if_pos tighter, if_pos tighter]
      exact (Keeps.refl _).bind fun entry => (keeps_join finish input fuel left entry).bind
        fun whole => keeps_extend finish input fuel power whole
    · rw [if_neg tighter, if_neg tighter]
      exact .refl _

/-- More fuel keeps the outcome of joining an operand. -/
theorem keeps_join (finish : Nat) (input : List Lexeme) :
    (fuel : Nat) → (left : Expr) → (entry : Entry) →
      Keeps (join finish input fuel left entry) (join finish input (fuel + 1) left entry)
  | 0, left, entry => by
    rw [join]
    exact .exhausted _
  | fuel + 1, left, entry => by
    rw [join, join]
    apply (Keeps.refl _).bind
    intro symbol
    cases symbol.joining with
    | none => exact .refl _
    | some op => exact (keeps_expression finish input fuel _).bind fun _ => .refl _

end

/-- More fuel keeps what the machine comes to. -/
theorem keeps_whole (finish : Nat) (input : List Lexeme) {fuel more : Nat} (le : fuel ≤ more) :
    Keeps (whole finish input fuel) (whole finish input more) := by
  induction le with
  | refl => exact .refl _
  | @step more _ ih => exact ih.trans ((keeps_expression finish input more 0).bind fun _ => .refl _)

open DicePool.Expr (headPower read readOperand readOn close)

/-- The next entry in front of the lexemes that are left. -/
def front (finish : Nat) (rest : List Lexeme) : Entry := rest.head?.elim (.mark finish) .ofLexeme

/-- The table knows how tightly the next entry holds what stands before it. -/
theorem lookUp_front (finish : Nat) (rest : List Lexeme) :
    ∃ symbol, lookUp (front finish rest).kind = pure symbol ∧ symbol.power = headPower rest := by
  match rest with
  | [] | ⟨.number _, _, _⟩ :: _ | ⟨.opening, _, _⟩ :: _ | ⟨.closing, _, _⟩ :: _ =>
    exact ⟨_, rfl, rfl⟩
  | ⟨.operator op, _, _⟩ :: _ => exact ⟨_, lookUp_operator op, rfl⟩

/-- An error that shows the next entry is the one of the parser. -/
theorem refuse_front (fault : Kind → Fault) (rest : List Lexeme) :
    (front finish rest).refuse fault = Expr.refuse finish fault rest := by
  match rest with
  | [] | ⟨.number _, _, _⟩ :: _ | ⟨.opening, _, _⟩ :: _ | ⟨.closing, _, _⟩ :: _
  | ⟨.operator _, _, _⟩ :: _ => rfl

/-- The machine stops at an entry, and the error shows it: the entry taken last begins no operand,
or the next one is not the expected one. -/
inductive Refuses (finish : Nat) (input : List Lexeme) :
    Halt → List Entry → ParseError → Prop where
  /-- The entry taken last begins no operand. -/
  | noOperand {earlier later : List Entry} {entry : Entry}
    (stands : entries finish input = earlier ++ entry :: later) :
    Refuses finish input (.noOperand entry) (earlier ++ [entry]) (entry.refuse .expectedOperand)
  /-- The next entry is not the expected one. -/
  | unexpected {earlier later : List Entry} {entry : Entry} {expected : Kind}
    (stands : entries finish input = earlier ++ entry :: later) :
    Refuses finish input (.unexpected entry expected) earlier
      (entry.refuse (.unexpected · expected []))

/-- An outcome, begun with `used` taken and in front of `rest`, that is the one of the parser: the
same value and the same lexemes left, or a stop with the same error. -/
inductive Agrees (finish : Nat) (input used rest : List Lexeme) :
    Option (Except Halt α × List Entry) → Except ParseError (α × List Lexeme) → Prop where
  /-- Both come to the value and leave the same lexemes. -/
  | value {value : α} {more left : List Lexeme} (split : rest = more ++ left) :
    Agrees finish input used rest (some (.ok value, (used ++ more).map .ofLexeme))
      (.ok (value, left))
  /-- Both stop, with an error that refuses the same entry. -/
  | stop {halt : Halt} {taken : List Entry} {error : ParseError}
    (refuses : Refuses finish input halt taken error) :
    Agrees finish input used rest (some (.error halt, taken)) (.error error)

/-- In front of `rest`, the run comes to what the parser comes to. -/
def Follows (finish : Nat) (input : List Lexeme) (run : Reading α) (rest : List Lexeme)
    (result : Except ParseError (α × List Lexeme)) : Prop :=
  ∀ used, input = used ++ rest →
    Agrees finish input used rest (run (used.map .ofLexeme)) result

/-- Behind the entries taken stands the next one. -/
theorem entryAt_eq {earlier later : List Entry} {entry : Entry}
    (stands : entries finish input = earlier ++ entry :: later) :
    entryAt finish input earlier.length = entry := by
  rw [entryAt, stands, List.getD_eq_getElem?_getD, List.getElem?_append_right (Nat.le_refl _),
    Nat.sub_self]
  rfl

/-- The entries are those taken, the next one, and others. -/
theorem exists_entries_eq (finish : Nat) {used : List Lexeme} (split : input = used ++ rest) :
    ∃ later, entries finish input = used.map .ofLexeme ++ front finish rest :: later := by
  cases rest with
  | nil => exact ⟨[], by simp [entries, split, front]⟩
  | cons lexeme rest => exact ⟨entries finish rest, by simp [entries, split, front]⟩

namespace Follows

variable {next : Entry → Reading α} {result : Except ParseError (α × List Lexeme)}

/-- A value is followed by no reading. -/
theorem pure (value : α) : Follows finish input (pure value) rest (.ok (value, rest)) := by
  intro used _
  have same : (used ++ []).map Entry.ofLexeme = used.map .ofLexeme := by rw [List.append_nil]
  rw [← same]
  exact .value rfl

/-- What follows the parser step by step follows it as a whole. -/
theorem bind {first : Reading α} {next : α → Reading β}
    {after : α × List Lexeme → Except ParseError (β × List Lexeme)}
    (follows : Follows finish input first rest result)
    (later : ∀ value left, result = .ok (value, left) →
      Follows finish input (next value) left (after (value, left))) :
    Follows finish input (first >>= next) rest (result >>= after) := by
  intro used split
  have agrees := follows used split
  rw [bind_apply]
  generalize first (used.map .ofLexeme) = outcome at agrees ⊢
  cases agrees with
  | stop refuses => exact .stop refuses
  | @value value more left same =>
    subst same
    have others := later value left rfl (used ++ more) (by rw [split, List.append_assoc])
    show Agrees finish input used (more ++ left) (next value ((used ++ more).map .ofLexeme))
      (after (value, left))
    generalize next value ((used ++ more).map .ofLexeme) = outcome at others ⊢
    generalize after (value, left) = result at others ⊢
    cases others with
    | stop refuses => exact .stop refuses
    | @value value again left same =>
      subst same
      rw [List.append_assoc]
      exact .value (List.append_assoc _ _ _).symm

/-- Looking at the next entry changes nothing. -/
theorem peek (follows : Follows finish input (next (front finish rest)) rest result) :
    Follows finish input (peek finish input >>= next) rest result := by
  intro used split
  obtain ⟨later, stands⟩ := exists_entries_eq finish split
  rw [bind_apply, Cursor.peek, entryAt_eq stands]
  exact follows used split

/-- A lexeme is taken as its entry. -/
theorem advance {lexeme : Lexeme}
    (follows : Follows finish input (next (.ofLexeme lexeme)) rest result) :
    Follows finish input (advance finish input >>= next) (lexeme :: rest) result := by
  intro used split
  obtain ⟨later, stands⟩ := exists_entries_eq finish split
  have agrees := follows (used ++ [lexeme]) (by rw [split, List.append_assoc]; rfl)
  have taken : used.map Entry.ofLexeme ++ [.ofLexeme lexeme] =
      (used ++ [lexeme]).map .ofLexeme := by simp
  rw [bind_apply, Cursor.advance, entryAt_eq stands]
  show Agrees finish input used (lexeme :: rest)
    (next (.ofLexeme lexeme) (used.map .ofLexeme ++ [.ofLexeme lexeme])) result
  rw [taken]
  generalize next (.ofLexeme lexeme) ((used ++ [lexeme]).map .ofLexeme) = outcome at agrees ⊢
  cases agrees with
  | stop refuses => exact .stop refuses
  | @value value more left same =>
    subst same
    rw [List.append_assoc]
    exact .value rfl

/-- An entry that begins no operand is taken, and shown. -/
theorem noOperand
    (refused : next (front finish rest) = throw (.noOperand (front finish rest))) :
    Follows finish input (Cursor.advance finish input >>= next) rest
      (.error (Expr.refuse finish .expectedOperand rest)) := by
  intro used split
  obtain ⟨later, stands⟩ := exists_entries_eq finish split
  rw [bind_apply, Cursor.advance, entryAt_eq stands, ← refuse_front]
  simp only [refused]
  exact .stop (.noOperand stands)

/-- An entry other than the expected one is shown, and not taken. -/
theorem consume_of_ne {expected : Kind} (other : (front finish rest).kind ≠ expected) :
    Follows finish input (consume finish input expected) rest
      (.error (Expr.refuse finish (.unexpected · expected []) rest)) := by
  apply Follows.peek
  rw [if_neg other]
  intro used split
  obtain ⟨later, stands⟩ := exists_entries_eq finish split
  rw [← refuse_front]
  exact .stop (.unexpected stands)

/-- Closing a group takes the right parenthesis that has to come. -/
theorem consume_closing : Follows finish input (consume finish input .closing) rest
    ((fun left => ((), left)) <$> close finish rest) := by
  match rest with
  | ⟨.closing, start, text⟩ :: rest =>
    have expected : (front finish (⟨.closing, start, text⟩ :: rest)).kind = .closing := rfl
    apply Follows.peek
    rw [if_pos expected]
    exact Follows.advance (Follows.pure ())
  | [] => exact consume_of_ne nofun
  | ⟨.number _, _, _⟩ :: _ => exact consume_of_ne nofun
  | ⟨.opening, _, _⟩ :: _ => exact consume_of_ne nofun
  | ⟨.operator _, _, _⟩ :: _ => exact consume_of_ne nofun

/-- A group is what was read when its right parenthesis is taken. -/
theorem closing (group : Expr) :
    Follows finish input (consume finish input .closing >>= fun _ => Pure.pure group) rest
      (close finish rest >>= fun left => .ok (group, left)) := by
  have same : (((fun left => ((), left)) <$> close finish rest) >>= fun reached =>
      .ok (group, reached.2)) = close finish rest >>= fun left => .ok (group, left) := by
    cases close finish rest <;> rfl
  rw [← same]
  exact consume_closing.bind fun _ _ _ => Follows.pure group

end Follows

/-- Behind the last lexeme the mark of the end is taken, and with it all entries are. -/
theorem consume_finish (finish : Nat) (input : List Lexeme) :
    consume finish input .finish (input.map .ofLexeme) =
      some (.ok (), entries finish input) := by
  have next : entryAt finish input (input.map Entry.ofLexeme).length = .mark finish :=
    entryAt_eq rfl
  rw [consume, bind_apply, peek, next]
  show (advance finish input >>= fun _ => pure ()) (input.map .ofLexeme) = _
  rw [bind_apply, advance, next]
  rfl

/-- An operand is read as by the parser if the shorter expressions are. -/
theorem follows_operand
    (follows : ∀ shorter, shorter.length < rest.length → ∀ power, Follows finish input
      (expression finish input fuel power) shorter (read finish power shorter)) :
    Follows finish input (advance finish input >>= operand finish input (fuel + 1)) rest
      (readOperand finish rest) := by
  match rest with
  | [] =>
    rw [Expr.readOperand_nil]
    exact Follows.noOperand operand_mark
  | ⟨.closing, start, text⟩ :: behind =>
    rw [Expr.readOperand_closing]
    exact Follows.noOperand (operand_closing start text)
  | ⟨.number value, start, text⟩ :: behind =>
    rw [Expr.readOperand_number]
    apply Follows.advance
    rw [operand_number]
    exact Follows.pure _
  | ⟨.opening, start, text⟩ :: behind =>
    rw [Expr.readOperand_opening]
    apply Follows.advance
    rw [operand_opening]
    exact (follows behind (by simp) 0).bind fun group _ _ => Follows.closing group
  | ⟨.operator op, start, text⟩ :: behind =>
    by_cases unsigned : op = .bonus .subtract
    · subst unsigned
      rw [Expr.readOperand_sign]
      apply Follows.advance
      rw [operand_sign]
      exact (follows behind (by simp) _).bind fun _ _ _ => Follows.pure _
    · by_cases counted : op = .dice
      · subst counted
        rw [Expr.readOperand_dice]
        apply Follows.advance
        rw [operand_dice]
        exact (follows behind (by simp) _).bind fun _ _ _ => Follows.pure _
      · rw [Expr.readOperand_operator unsigned counted]
        exact Follows.noOperand (operand_operator unsigned counted start text)

/-- The machine reads what is shorter than `rest` as the parser does, given enough fuel. -/
def FollowsBelow (finish : Nat) (input rest : List Lexeme) : Prop :=
  ∀ shorter fuel power, shorter.length < rest.length → 2 * shorter.length + 2 ≤ fuel →
    Follows finish input (expression finish input fuel power) shorter (read finish power shorter)

/-- An operand is extended as by the parser if the shorter expressions are read so. -/
theorem follows_extend {rest : List Lexeme} {fuel power : Nat} {left : Expr}
    (enough : 2 * rest.length + 2 ≤ fuel) (follows : FollowsBelow finish input rest) :
    Follows finish input (extend finish input fuel power left) rest
      (readOn finish power left rest) := by
  match fuel, enough with
  | fuel + 2, enough =>
    obtain ⟨symbol, known, strength⟩ := lookUp_front finish rest
    rw [extend]
    apply Follows.peek
    rw [known, pure_bind, strength]
    by_cases loose : headPower rest ≤ power
    · rw [Expr.readOn_of_le loose, if_neg (Nat.not_lt.2 loose)]
      exact Follows.pure left
    · obtain ⟨op, start, text, behind, spelled, tighter⟩ :=
        Expr.exists_operator_of_lt (Nat.not_le.1 loose)
      have longer : rest.length = behind.length + 1 := by rw [spelled, List.length_cons]
      rw [if_pos (Nat.not_le.1 loose), spelled, Expr.readOn_of_lt tighter]
      apply Follows.advance
      rw [join_operator, bind_assoc]
      apply (follows behind fuel _ (by omega) (by omega)).bind
      intro right others done
      have shorter := Expr.length_of_read done
      rw [pure_bind]
      exact follows_extend (by omega) fun fewer fuel power h => follows fewer fuel power (by omega)
termination_by rest.length
decreasing_by omega

/-- The machine reads expressions as the parser does, given enough fuel. -/
theorem follows_expression (finish : Nat) (input rest : List Lexeme) (fuel power : Nat)
    (enough : 2 * rest.length + 2 ≤ fuel) :
    Follows finish input (expression finish input fuel power) rest (read finish power rest) := by
  have follows : FollowsBelow finish input rest := fun shorter fuel power h enough =>
    follows_expression finish input shorter fuel power enough
  match fuel, enough with
  | fuel + 2, enough =>
    rw [expression, Expr.read_eq, ← bind_assoc]
    apply (follows_operand fun shorter h power => follows shorter fuel power h (by omega)).bind
    intro first left done
    have shorter := Expr.length_of_readOperand done
    exact follows_extend (by omega) fun others fuel power h =>
      follows others fuel power (Nat.lt_trans h shorter)
termination_by rest.length

/-- The outcome of a whole run that is the one of the parser: the same tree, with every entry taken,
or a stop with the same error. -/
inductive Concludes (finish : Nat) (input : List Lexeme) :
    Option (Except Halt Expr × List Entry) → Except ParseError Expr → Prop where
  /-- Both come to the tree, with all entries taken. -/
  | tree (tree : Expr) : Concludes finish input (some (.ok tree, entries finish input)) (.ok tree)
  /-- Both stop, with an error that refuses the same entry. -/
  | stop {halt : Halt} {taken : List Entry} {error : ParseError}
    (refuses : Refuses finish input halt taken error) :
    Concludes finish input (some (.error halt, taken)) (.error error)

/-- The machine does with a whole text what the parser does. -/
theorem whole_concludes (finish : Nat) (input : List Lexeme) {fuel : Nat}
    (enough : 2 * input.length + 2 ≤ fuel) :
    Concludes finish input (whole finish input fuel []) (Expr.ofLexemes finish input) := by
  have agrees := follows_expression finish input input fuel 0 enough [] rfl
  rw [List.map_nil] at agrees
  rw [whole, bind_apply, Expr.ofLexemes_eq]
  generalize expression finish input fuel 0 [] = outcome at agrees ⊢
  generalize read finish 0 input = result at agrees ⊢
  cases agrees with
  | stop refuses => exact .stop refuses
  | @value tree more left split =>
    show Concludes finish input
      ((consume finish input .finish >>= fun _ => pure tree) (([] ++ more).map .ofLexeme))
      (Expr.ended finish (tree, left))
    rw [bind_apply, List.nil_append]
    cases left with
    | nil =>
      rw [List.append_nil] at split
      rw [← split, consume_finish]
      exact .tree tree
    | cons next left =>
      have other : (front finish (next :: left)).kind ≠ .finish :=
        Entry.kind_ofLexeme_ne_finish next
      have stopped := Follows.consume_of_ne other more split
      generalize consume finish input .finish (more.map .ofLexeme) = outcome at stopped ⊢
      cases stopped with
      | stop refuses => exact .stop refuses

/-- The machine ends with what the parser ends with. It takes the entries in order, each once and at
most one more than there are lexemes, and reaches no dead branch. -/
theorem whole_takes_in_order (finish : Nat) (input : List Lexeme) :
    ∃ outcome taken,
      (∀ fuel, 2 * input.length + 2 ≤ fuel → whole finish input fuel [] = some (outcome, taken)) ∧
      taken.length ≤ input.length + 1 ∧ taken <+: entries finish input ∧
      match outcome with
      | .ok tree => taken = entries finish input ∧ Expr.ofLexemes finish input = .ok tree
      | .error halt => ∃ entry,
        (halt = .noOperand entry ∧ taken.getLast? = some entry ∧
          Expr.ofLexemes finish input = .error (entry.refuse .expectedOperand)) ∨
        ∃ expected, halt = .unexpected entry expected ∧
          peek finish input taken = some (.ok entry, taken) ∧
          Expr.ofLexemes finish input = .error (entry.refuse (.unexpected · expected [])) := by
  have concludes := whole_concludes finish input (Nat.le_refl _)
  have keeps (fuel : Nat) (enough : 2 * input.length + 2 ≤ fuel) :=
    keeps_whole finish input enough []
  have length : (entries finish input).length = input.length + 1 := by simp [entries]
  generalize whole finish input (2 * input.length + 2) [] = outcome at concludes keeps
  generalize Expr.ofLexemes finish input = result at concludes ⊢
  cases concludes with
  | tree tree =>
    exact ⟨.ok tree, _, fun fuel enough => keeps fuel enough _ rfl, Nat.le_of_eq length,
      List.prefix_refl _, rfl, rfl⟩
  | @stop halt taken error refuses =>
    refine ⟨.error halt, taken, fun fuel enough => keeps fuel enough _ rfl, ?_⟩
    cases refuses with
    | @noOperand earlier later entry stands =>
      have inOrder : earlier ++ [entry] <+: entries finish input := ⟨later, by simp [stands]⟩
      exact ⟨length ▸ inOrder.length_le, inOrder, entry, .inl ⟨rfl, List.getLast?_concat, rfl⟩⟩
    | @unexpected earlier later entry expected stands =>
      have inOrder : taken <+: entries finish input := ⟨entry :: later, stands.symm⟩
      have next : peek finish input taken = some (.ok entry, taken) := by
        rw [peek, entryAt_eq stands]
      exact ⟨length ▸ inOrder.length_le, inOrder, entry, .inr ⟨expected, rfl, next, rfl⟩⟩

/-- Behind a lone left parenthesis the mark of the end is taken, and begins no operand. -/
example : whole 1 [⟨.opening, 0, ['(']⟩] 4 [] =
    some (.error (.noOperand (.mark 1)), entries 1 [⟨.opening, 0, ['(']⟩]) := by cbv

end DicePool.Cursor
