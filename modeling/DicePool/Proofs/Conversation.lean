import Mathlib
import DicePool.Command.Program
import DicePool.Proofs.Budget

/-!
# Conversations

The prompt cuts its input into rows and answers them one after the other. All rows share one
context, which an evaluation can leave in the middle of its work: with rolls counted up to the
budget and beyond. The next evaluation sets the counter back and the budget never changes, so
where the roller stands is all that a row leaves to the rows after it.
-/

namespace DicePool

variable {ρ : Type}

namespace Prompt

/-- The text without the white space around it. -/
structure Trims (text core : List Char) : Prop where
  /-- Only blanks are taken off. -/
  around : ∃ before behind, text = before ++ core ++ behind ∧
    (∀ c ∈ before, isBlank c = true) ∧ ∀ c ∈ behind, isBlank c = true
  /-- No blank is left at the front. -/
  starts : ∀ c ∈ core.head?, isBlank c = false
  /-- No blank is left at the end. -/
  ends : ∀ c ∈ core.getLast?, isBlank c = false

/-- The bytes are the text in UTF-8. -/
def Encodes (row : List UInt8) (text : String) : Prop := text.toUTF8 = ⟨row.toArray⟩

/-- The row is the command with white space around it. -/
def Carries (row : List UInt8) (command : String) : Prop :=
  ∃ text, Encodes row text ∧ Trims text.toList command.toList

/-- The row is no text. -/
def Garbled (row : List UInt8) : Prop := ∀ text, ¬Encodes row text

/-- The row asks for the end. -/
def Stops (row : List UInt8) : Prop := Carries row "exit" ∨ Carries row "quit"

/-- The row asks for an evaluation. -/
structure Asks (row : List UInt8) (command : String) : Prop where
  /-- The row carries the command. -/
  carries : Carries row command
  /-- There is something in it. -/
  not_blank : command ≠ ""
  /-- It does not ask for the end. -/
  goes_on : command ≠ "exit" ∧ command ≠ "quit"

/-- White space is dropped up to a character that is none. -/
theorem dropWhile_append_of_blank {before text : List Char}
    (blank : ∀ c ∈ before, isBlank c = true) (starts : ∀ c ∈ text.head?, isBlank c = false) :
    (before ++ text).dropWhile isBlank = text := by
  rw [List.dropWhile_append_of_pos blank]
  cases text with
  | nil => rfl
  | cons c rest =>
    have first : isBlank c = false := starts c rfl
    exact List.dropWhile_cons_of_neg (Bool.eq_false_iff.1 first)

/-- What is left begins with a character that is no white space. -/
theorem head_dropWhile (text : List Char) :
    ∀ c ∈ (text.dropWhile isBlank).head?, isBlank c = false := by
  intro c member
  have first := List.head?_dropWhile_not isBlank text
  rw [Option.mem_def.1 member] at first
  exact first

/-- Trimming takes off the blanks at both ends and nothing else. -/
theorem trims_trim (text : List Char) : Trims text (trim text) := by
  let inner := text.dropWhile isBlank
  let back := inner.reverse.takeWhile isBlank
  have outer : text.takeWhile isBlank ++ inner = text := List.takeWhile_append_dropWhile
  have turned : back ++ inner.reverse.dropWhile isBlank = inner.reverse :=
    List.takeWhile_append_dropWhile
  have parts : trim text ++ back.reverse = inner := by
    rw [trim, ← List.reverse_append, turned, List.reverse_reverse]
  refine ⟨⟨text.takeWhile isBlank, back.reverse, ?_, ?_, ?_⟩, ?_, ?_⟩
  · rw [List.append_assoc, parts, outer]
  · exact fun c member => List.mem_takeWhile_imp member
  · exact fun c member => List.mem_takeWhile_imp (List.mem_reverse.1 member)
  · intro c member
    have front : c ∈ inner.head? := by
      rw [← parts]
      exact List.mem_head?_append_of_mem_head? member
    exact head_dropWhile text c front
  · intro c member
    rw [trim, List.getLast?_reverse] at member
    exact head_dropWhile inner.reverse c member

/-- There is one way to take the white space away. -/
theorem trim_eq_iff {text core : List Char} : trim text = core ↔ Trims text core := by
  constructor
  · rintro rfl
    exact trims_trim text
  · rintro ⟨⟨before, behind, rfl, blankBefore, blankBehind⟩, starts, ends⟩
    by_cases empty : core = []
    · have blank : ∀ c ∈ before ++ behind, isBlank c = true := by
        intro c member
        exact (List.mem_append.1 member).elim (blankBefore c) (blankBehind c)
      have none : (before ++ behind ++ []).dropWhile isBlank = [] :=
        dropWhile_append_of_blank blank fun c member => nomatch member
      rw [List.append_nil] at none
      rw [empty, List.append_nil, trim, none]
      rfl
    · have front : ∀ c ∈ (core ++ behind).head?, isBlank c = false := by
        intro c member
        rw [List.head?_append_of_ne_nil core empty] at member
        exact starts c member
      have back : ∀ c ∈ core.reverse.head?, isBlank c = false := by
        rw [List.head?_reverse]
        exact ends
      have turned : ∀ c ∈ behind.reverse, isBlank c = true := fun c member =>
        blankBehind c (List.mem_reverse.1 member)
      rw [trim, List.append_assoc, dropWhile_append_of_blank blankBefore front,
        List.reverse_append, dropWhile_append_of_blank turned back, List.reverse_reverse]

/-- A row is decoded to the text whose bytes it is made of. -/
theorem fromUTF8?_eq_some_iff {row : List UInt8} {text : String} :
    String.fromUTF8? ⟨row.toArray⟩ = some text ↔ Encodes row text := by
  unfold String.fromUTF8? Encodes
  constructor
  · intro read
    split at read
    · cases read
      rfl
    · cases read
  · intro same
    have valid := text.isValidUTF8
    rw [show text.toByteArray = ⟨row.toArray⟩ from same] at valid
    rw [dif_pos valid]
    exact congrArg some (String.toByteArray_inj.1 same.symm)

/-- What the prompt makes of a row that is text. -/
theorem carries_iff {row : List UInt8} {command : String} :
    Carries row command ↔ ∃ text, String.fromUTF8? ⟨row.toArray⟩ = some text ∧
      String.ofList (trim text.toList) = command := by
  constructor
  · rintro ⟨text, encodes, trims⟩
    refine ⟨text, fromUTF8?_eq_some_iff.2 encodes, ?_⟩
    rw [trim_eq_iff.2 trims, String.ofList_toList]
  · rintro ⟨text, read, rfl⟩
    refine ⟨text, fromUTF8?_eq_some_iff.1 read, ?_⟩
    rw [String.toList_ofList]
    exact trims_trim text.toList

/-- A row carries one command at most. -/
theorem Carries.unique {row : List UInt8} {command other : String} (first : Carries row command)
    (second : Carries row other) : command = other := by
  obtain ⟨text, read, rfl⟩ := carries_iff.1 first
  obtain ⟨same, reread, rfl⟩ := carries_iff.1 second
  rw [read] at reread
  cases reread
  rfl

/-- A row that carries a command is not garbled. -/
theorem Carries.not_garbled {row : List UInt8} {command : String} (carries : Carries row command) :
    ¬Garbled row := by
  obtain ⟨text, encodes, -⟩ := carries
  exact fun garbled => garbled text encodes

/-- A row that stops the conversation is not garbled. -/
theorem Stops.not_garbled {row : List UInt8} (stops : Stops row) : ¬Garbled row :=
  stops.elim Carries.not_garbled Carries.not_garbled

/-- A row that stops the conversation is not blank. -/
theorem Stops.not_blank {row : List UInt8} (stops : Stops row) : ¬Carries row "" := by
  intro blank
  rcases stops with leave | leave
  · exact absurd (leave.unique blank) (by decide)
  · exact absurd (leave.unique blank) (by decide)

/-- A row that stops the conversation asks for nothing. -/
theorem Stops.not_asks {row : List UInt8} {command : String} (stops : Stops row) :
    ¬Asks row command := by
  intro asks
  rcases stops with leave | leave
  · exact asks.goes_on.1 (asks.carries.unique leave)
  · exact asks.goes_on.2 (asks.carries.unique leave)

end Prompt

namespace Options

section

variable [Roller ρ]

/-- Rolling the die as the options ask for it ends so: with the text of its total, or with that of
all its values. -/
def Rolls (options : Options) (die : Die) (context : Context ρ) (result : Except RollError String)
    (after : Context ρ) : Prop :=
  if options.pool then
    ∃ values, die.pool context = some (values, after) ∧ result = values.map renderPool
  else
    ∃ total, die.roll context = some (total, after) ∧
      result = total.map fun value => String.ofList (Decimal.ofInt64 value)

/-- Evaluating a command alone, on a new context with the roller, puts the texts on the two
outputs and leaves the roller at `last`. -/
inductive Alone (options : Options) (command : String) (roller : ρ) :
    String → String → ρ → Prop where
  /-- The command is no expression. -/
  | unread {error : ParseError} (fails : Expr.ofText command = .error error) :
    Alone options command roller "" (errorLine error.message) roller
  /-- Rolling the expression is refused. -/
  | refused {expr : Expr} {error : RollError} {after : Context ρ}
    (reads : Expr.ofText command = .ok expr)
    (rolls : options.Rolls (.ofExpr expr) (.start options.budget roller) (.error error) after) :
    Alone options command roller "" (errorLine error.message) after.roller
  /-- The result is shown, below the expression if that is asked for. -/
  | shown {expr : Expr} {text : String} {after : Context ρ}
    (reads : Expr.ofText command = .ok expr)
    (rolls : options.Rolls (.ofExpr expr) (.start options.budget roller) (.ok text) after) :
    Alone options command roller
      ((if options.tree then expr.text ++ "\n" else "") ++ text ++ "\n") "" after.roller

variable {options : Options} {die : Die} {context after : Context ρ}

end

end Options

namespace Prompt

section

variable [Roller ρ]

/-- The rows are answered in order: blank ones by nothing, every other one as it is answered alone,
with the roller where the rows before it left it. -/
inductive Answered (options : Options) :
    List (List UInt8) → ρ → String → String → ρ → Prop where
  /-- There are no more rows. -/
  | done (roller : ρ) : Answered options [] roller "" "" roller
  /-- A blank row is skipped. -/
  | blank {row : List UInt8} {rows : List (List UInt8)} {roller last : ρ} {out err : String}
    (carries : Carries row "") (rest : Answered options rows roller out err last) :
    Answered options (row :: rows) roller out err last
  /-- A command is answered, and the next row has the roller that it leaves. -/
  | asked {row : List UInt8} {rows : List (List UInt8)} {command : String} {roller mid last : ρ}
    {out err laterOut laterErr : String} (asks : Asks row command)
    (alone : options.Alone command roller out err mid)
    (rest : Answered options rows mid laterOut laterErr last) :
    Answered options (row :: rows) roller (out ++ laterOut) (err ++ laterErr) last

variable {options : Options} {row : List UInt8} {rows : List (List UInt8)} {roller : ρ}
  {report : Report}

/-- What a row does with the roller where the rows before it left it: its texts, and the exit code
or the roller for the next row. -/
inductive Taken (options : Options) (row : List UInt8) (roller : ρ) :
    String → String → Except Nat ρ → Prop where
  /-- The row asks for the end. -/
  | stopped (stops : Stops row) : Taken options row roller "" "" (.error 0)
  /-- The row is no text. -/
  | broken (garbled : Garbled row) :
    Taken options row roller "" (errorLine "stream did not contain valid UTF-8") (.error 1)
  /-- The row is blank. -/
  | blank (carries : Carries row "") : Taken options row roller "" "" (.ok roller)
  /-- The row asks for an answer. -/
  | asked {command out err : String} {mid : ρ} (asks : Asks row command)
    (alone : options.Alone command roller out err mid) :
    Taken options row roller out err (.ok mid)

variable {context after : Context ρ}

/-- The turn of a reply. -/
def Reply.turn (reply : Reply) (context : Context ρ) : Turn ρ :=
  ⟨reply.out, reply.err, reply.code?.elim (.ok context) .error⟩

/-- Only a row that is answered or blank lets the conversation go on. -/
theorem Answered.cons_iff {last : ρ} {out err : String} :
    Answered options (row :: rows) roller out err last ↔
      ∃ front frontErr mid back backErr, Taken options row roller front frontErr (.ok mid) ∧
        Answered options rows mid back backErr last ∧
        out = front ++ back ∧ err = frontErr ++ backErr := by
  constructor
  · intro answered
    cases answered with
    | blank carries rest =>
      exact ⟨"", "", roller, out, err, .blank carries, rest, String.empty_append.symm,
        String.empty_append.symm⟩
    | asked asks alone rest => exact ⟨_, _, _, _, _, .asked asks alone, rest, rfl, rfl⟩
  · rintro ⟨front, frontErr, mid, back, backErr, taken, rest, rfl, rfl⟩
    cases taken with
    | blank carries =>
      rw [String.empty_append, String.empty_append]
      exact .blank carries rest
    | asked asks alone => exact .asked asks alone rest

/-- Answered rows are blank or ask for evaluations. -/
theorem Answered.answers {roller last : ρ} {out err : String}
    (answered : Answered options rows roller out err last) :
    ∀ row ∈ rows, ¬Stops row ∧ ¬Garbled row := by
  induction answered with
  | done roller =>
    intro row member
    cases member
  | blank carries rest ih =>
    exact List.forall_mem_cons.2 ⟨⟨fun stops => stops.not_blank carries, carries.not_garbled⟩, ih⟩
  | asked asks alone rest ih =>
    exact List.forall_mem_cons.2 ⟨⟨fun stops => stops.not_asks asks, asks.carries.not_garbled⟩, ih⟩

end

end Prompt

end DicePool
