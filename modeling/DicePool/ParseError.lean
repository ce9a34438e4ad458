import DicePool.Token
import DicePool.Text.Quoted

/-!
# Why a text is no expression

An error says what is wrong, where, and with which stretch of text.
-/

namespace DicePool

/-- What is wrong with a text. -/
inductive Fault where
  /-- A stretch of text is no token. -/
  | unrecognized
  /-- An operand should stand where `found` stands. -/
  | expectedOperand (found : Kind)
  /-- One of the kinds `expected :: others` should stand where `found` stands. -/
  | unexpected (found expected : Kind) (others : List Kind)
deriving DecidableEq

/-- A fault with the byte offset and the text of its place. -/
structure ParseError where
  /-- What is wrong. -/
  fault : Fault
  /-- The byte at which it starts. -/
  start : Nat
  /-- The stretch of text that is shown. -/
  slice : String
deriving DecidableEq

/-- Alternatives in a sentence: two are joined by "or", more also by commas. -/
def Kind.alternatives (expected : Kind) : List Kind → String
  | [] => expected.name
  | [other] => expected.name ++ " or " ++ other.name
  | others => expected.name ++ ", " ++ rest others
where
  /-- The alternatives after the first comma. -/
  rest : List Kind → String
    | [] => ""
    | [last] => "or " ++ last.name
    | kind :: others => kind.name ++ ", " ++ rest others

/-- The description of a fault. -/
def Fault.message : Fault → String
  | unrecognized => "unrecognized input"
  | expectedOperand found => "expected an operand, found " ++ found.name
  | unexpected found expected others =>
    "unexpected token: found " ++ found.name ++ ", expected " ++ expected.alternatives others

namespace ParseError

/-- The text is not made of tokens. -/
def isLexError (error : ParseError) : Bool := error.fault == .unrecognized

/-- The tokens do not form an expression. -/
def isSyntaxError (error : ParseError) : Bool := !error.isLexError

/-- The byte offset behind the offending text. -/
def stop (error : ParseError) : Nat := error.start + error.slice.utf8ByteSize

/-- The stage of reading that failed. -/
def category (error : ParseError) : String :=
  if error.isLexError then "lex error" else "syntax error"

/-- The sentence shown for an error. -/
def message (error : ParseError) : String :=
  error.category ++ " at position " ++ String.ofList (Decimal.digits error.start) ++ " ("
    ++ String.ofList (Quoted.quote error.slice.toList) ++ "): " ++ error.fault.message

end ParseError

end DicePool
