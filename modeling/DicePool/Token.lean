import DicePool.Operator

/-!
# Tokens

The words of an expression. Every token but a number has one spelling, and no
spelling begins another, so the words at the front of a text never compete.
-/

namespace DicePool

/-- A word of an expression. -/
inductive Token where
  /-- A number. -/
  | number (value : Int64)
  /-- An operator. -/
  | operator (op : Operator)
  /-- A left parenthesis. -/
  | opening
  /-- A right parenthesis. -/
  | closing
deriving DecidableEq

/-- What an error message can name: the kinds of token, the end of the text, and a
stretch of text that is no token. -/
inductive Kind where
  /-- Any number. -/
  | number
  /-- An operator. -/
  | operator (op : Operator)
  /-- A left parenthesis. -/
  | opening
  /-- A right parenthesis. -/
  | closing
  /-- The end of the input. -/
  | finish
  /-- No token at all. -/
  | unknown
deriving DecidableEq

/-- The kind of a token. -/
def Token.kind : Token → Kind
  | number _ => .number
  | operator op => .operator op
  | opening => .opening
  | closing => .closing

/-- The name of a kind in messages. -/
def Kind.name : Kind → String
  | number => "<constant>"
  | operator op => "'" ++ op.spelling ++ "'"
  | opening => "'('"
  | closing => "')'"
  | finish => "<end of input>"
  | unknown => "<error>"

namespace Token

/-- The tokens with a fixed spelling. -/
def marks : List Token := opening :: closing :: Operator.all.map operator

/-- The characters of a token, a number in its shortest form. -/
def letters : Token → List Char
  | number value => Decimal.ofInt64 value
  | operator op => op.letters
  | opening => ['(']
  | closing => [')']

/-- The token whose fixed spelling `text` begins with. -/
def markAt? (text : List Char) : Option Token :=
  marks.find? fun mark => mark.letters.isPrefixOf text

/-- A mark has at least one character and no digit. -/
theorem letters_of_mem_marks {mark : Token} (h : mark ∈ marks) :
    mark.letters ≠ [] ∧ ∀ c ∈ mark.letters, c.isDigit = false := by
  have checked : (marks.all fun mark =>
      !mark.letters.isEmpty && mark.letters.all fun c => !c.isDigit) = true := by decide
  have both := List.all_eq_true.1 checked mark h
  simpa using both

/-- A mark found at the front of a text is one of the marks. -/
theorem mem_marks_of_markAt? {text : List Char} {mark : Token} (h : markAt? text = some mark) :
    mark ∈ marks := List.mem_of_find?_eq_some h

/-- The text goes on with the spelling of the mark found. -/
theorem isPrefixOf_of_markAt? {text : List Char} {mark : Token} (h : markAt? text = some mark) :
    mark.letters.isPrefixOf text = true :=
  List.find?_some (p := fun mark : Token => mark.letters.isPrefixOf text) h

end Token

end DicePool
