import DicePool.Command.Answer
import DicePool.Text.Class

/-!
# The prompt

Without an expression the program answers its input line by line. All lines share
one context, so each goes on with the faces that the lines before it left. A line
that is refused changes nothing else.
-/

namespace DicePool.Prompt

variable {ρ : Type}

/-- The first line of the output. -/
def banner : String := "Type 'quit' or 'exit' to exit\n"

/-- The lines of the input: a newline ends a line, and the last line may lack it. -/
def lines : List UInt8 → List (List UInt8)
  | [] => []
  | byte :: rest =>
    if byte = 10 then [] :: lines rest
    else
      match lines rest with
      | [] => [[byte]]
      | line :: others => (byte :: line) :: others

/-- The text without the white space at both ends. -/
def trim (text : List Char) : List Char :=
  ((text.dropWhile isBlank).reverse.dropWhile isBlank).reverse

/-- What is done about a line. -/
inductive Reply where
  /-- Nothing, for a blank line. -/
  | silent
  /-- A text on the output. -/
  | shown (text : String)
  /-- The sentence of an error. -/
  | refused (message : String)
  /-- The end, as asked. -/
  | leave
  /-- The end, because the line is not encoded text. -/
  | broken

/-- The reply to a line. -/
def reply [Roller ρ] (options : Options) (line : List UInt8) : Table ρ Reply :=
  match String.fromUTF8? ⟨line.toArray⟩ with
  | none => return .broken
  | some text =>
    let command := String.ofList (trim text.toList)
    if command = "" then return .silent
    else if command = "exit" ∨ command = "quit" then return .leave
    else do
      match ← options.answer command with
      | .ok text => return .shown text
      | .error message => return .refused message

/-- The text on the output for a reply. -/
def Reply.out : Reply → String
  | shown text => text ++ "\n"
  | _ => ""

/-- The text on the error output for a reply. -/
def Reply.err : Reply → String
  | refused message => errorLine message
  | broken => errorLine "stream did not contain valid UTF-8"
  | _ => ""

/-- The exit code with which a reply ends the program, if it does. -/
def Reply.code? : Reply → Option Nat
  | leave => some 0
  | broken => some 1
  | _ => none

/-- What a line leads to: the texts on both outputs, and the exit code or the context with which
the next line is answered. -/
structure Turn (ρ : Type) where
  /-- What is printed. -/
  out : String
  /-- What is printed as errors. -/
  err : String
  /-- The context for the next line, or the exit code. -/
  next : Except Nat (Context ρ)

/-- Takes one line. There is no turn if a roll without a budget never ends. -/
def turn [Roller ρ] (options : Options) (line : List UInt8) (context : Context ρ) :
    Option (Turn ρ) := do
  let (reply, context) ← (reply options line).run context
  return ⟨reply.out, reply.err, reply.code?.elim (.ok context) .error⟩

/-- The report on a list of lines. -/
def answerLines [Roller ρ] (options : Options) : List (List UInt8) → Context ρ → Option Report
  | [], _ => return ⟨0, "", ""⟩
  | line :: rest, context => do
    let turn ← turn options line context
    match turn.next with
    | .error code => return ⟨code, turn.out, turn.err⟩
    | .ok context =>
      let later ← answerLines options rest context
      return { later with out := turn.out ++ later.out, err := turn.err ++ later.err }

/-- The report on a whole input. -/
def run [Roller ρ] (options : Options) (input : List UInt8) (context : Context ρ) :
    Option Report := do
  let report ← answerLines options (lines input) context
  return { report with out := banner ++ report.out }

end DicePool.Prompt
